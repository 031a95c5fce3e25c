import RequestDispatch.Proofs.Inspection.Foretelling

/-! What trails behind a path.

A URI may carry parameters and a query behind its path. A request for it is served by the mapping that
serves its path alone, and with the same target, since all that trails is cut off before a mapping is
sought (`Path.sought_append`). The root of an application is the exception: its URI is the context path
itself, and parameters there hide that nothing follows the context path, so that a request for it is
served by no mapping. -/
namespace RequestDispatch

namespace Path
variable {context uri trailer : String}

theorem withoutQuery_append (hquery : '?' ∉ uri.toList) (trailer : String) :
    withoutQuery (uri ++ trailer) = uri ++ withoutQuery trailer :=
  Text.upTo_append (no_mark_of_not_mem hquery) trailer

/-- Parameters begin where they did, without the query behind them. -/
theorem beginsWith_withoutQuery (htrailer : Text.beginsWith ';' trailer) :
    Text.beginsWith ';' (withoutQuery trailer) := by
  rw [withoutQuery, Text.beginsWith_upTo (by decide), htrailer]

/-- Paths without parameters of their own can be told apart, whatever parameters follow. -/
theorem eq_of_append_parameters {rest rest' : String} (huri : ';' ∉ uri.toList)
    (hcontext : ';' ∉ context.toList) (hrest : Text.beginsWith ';' rest)
    (hrest' : Text.beginsWith ';' rest') (h : uri ++ rest = context ++ rest') : uri = context := by
  have hcut := congrArg (Text.upTo (· == ';')) h
  rwa [Text.upTo_append (no_mark_of_not_mem huri), Text.upTo_append (no_mark_of_not_mem hcontext),
    Text.upTo_eq_empty_iff.2 (.inr hrest), Text.upTo_eq_empty_iff.2 (.inr hrest'), String.append_empty,
    String.append_empty] at hcut

/-- The path that a mapping is sought for is the same with parameters behind the URI, unless they follow
the context path at once. -/
theorem sought_append_parameters (hcontext : ';' ∉ context.toList) (hparameters : ';' ∉ uri.toList)
    (hquery : '?' ∉ uri.toList) (htrailer : Text.beginsWith ';' trailer) (hapart : uri ≠ context) :
    (relative? (withoutQuery (uri ++ trailer)) context).map bare =
      (relative? (withoutQuery uri) context).map bare := by
  have hcut := withoutQuery_append hquery trailer
  have hrest := beginsWith_withoutQuery htrailer
  have hbare : bare (uri ++ trailer) = bare uri := by
    rw [bare, bare, hcut, withoutQuery_of_not_mem hquery,
      Text.upTo_append (no_mark_of_not_mem hparameters), Text.upTo_eq_empty_iff.2 (.inr hrest),
      String.append_empty, Text.upTo_of_not_mem hparameters]
  rw [← relative?_bare hcontext, ← relative?_bare hcontext, hbare]
  · intro rest h
    rw [Bool.eq_false_iff]
    intro hbegins
    have hmem : ';' ∈ uri.toList := by
      rw [← withoutQuery_of_not_mem hquery, h, String.toList_append]
      exact List.mem_append_right _ (List.mem_of_head? (beq_iff_eq.1 hbegins))
    exact hparameters hmem
  · intro rest h
    rw [Bool.eq_false_iff]
    intro hbegins
    exact hapart (eq_of_append_parameters hparameters hcontext hrest hbegins (hcut.symm.trans h))

/-- The path that a mapping is sought for, with what trails behind the URI. -/
theorem sought_append (hcontext : ';' ∉ context.toList) (huri : uri ≠ "") (hparameters : ';' ∉ uri.toList)
    (hquery : '?' ∉ uri.toList) (htrailer : Text.beginsWith ';' trailer ∨ Text.beginsWith '?' trailer) :
    (relative? (withoutQuery (uri ++ trailer)) context).map bare =
      if Text.beginsWith ';' trailer ∧ uri = context then none
      else (relative? (withoutQuery uri) context).map bare := by
  have hcut := withoutQuery_append hquery trailer
  rcases htrailer with htrailer | htrailer
  · by_cases he : uri = context
    · subst he
      have hrest := beginsWith_withoutQuery htrailer
      rw [if_pos ⟨htrailer, rfl⟩, (relative?_of_parameters hcontext hcut hrest).1, if_neg huri]
    · rw [if_neg fun h => he h.2, sought_append_parameters hcontext hparameters hquery htrailer he]
  · have hnone : withoutQuery trailer = "" := Text.upTo_eq_empty_iff.2 (.inr htrailer)
    have hother : ¬ Text.beginsWith ';' trailer := by
      rw [Text.beginsWith, beq_iff_eq] at htrailer ⊢
      simp [htrailer]
    rw [if_neg fun h => hother h.1, hcut, hnone, String.append_empty, withoutQuery_of_not_mem hquery]

/-- For the URI that is the context path itself, the root is sought. -/
theorem sought_root (hcontext : context ≠ "") (hquery : '?' ∉ context.toList) :
    (relative? (withoutQuery context) context).map bare = some "/" := by
  have hself : withoutQuery context = context ++ "" := by
    rw [String.append_empty, withoutQuery_of_not_mem hquery]
  have hroot : bare "/" = "/" := by decide
  rw [hself, relative?_append, beneath?, if_pos rfl, if_neg hcontext, Option.map_some, hroot]

end Path

variable {ε : Type}

namespace Pipeline
variable (p : Pipeline ε)

/-- No mapping serves the session's request, and nothing is done about it. -/
def Declines (s : Session ε) : Prop := ∀ invoke : Invoke ε, p.serveWith invoke s = some (.ok false, s)

/-- Serving the session's request is to invoke the handler of one mapping for one target, whatever comes
of it. Inside, the request shows the paths of the target. -/
structure Serves (s : Session ε) (d : Definition (Handler ε)) (t : Target) : Prop where
  mapping : d ∈ p.registry.definitions
  invokes : ∀ invoke : Invoke ε, p.serveWith invoke s =
    (invoke d ⟨.request, t⟩ 0 (s.enter ⟨.request, t⟩)).map fun (result, s') =>
      (result.map fun _ => true, s.leave ⟨.request, t⟩ s')
  shows : (s.enter ⟨.request, t⟩).chain.view.target = t

/-- Both requests are declined, or both served by the same mapping with the same target. -/
def ServesAlike (s s' : Session ε) : Prop :=
  (p.Declines s ∧ p.Declines s') ∨ ∃ d t, p.Serves s d t ∧ p.Serves s' d t

section
variable {p : Pipeline ε} {s s' : Session ε}

theorem declines_iff : p.Declines s ↔ p.serving? s.chain.view = none :=
  ⟨fun h => serveWith_ok_false_iff.1 ⟨s, h fun _ _ _ _ => none⟩, fun h _ => serveWith_of_none h⟩

/-- What is declined is not served. -/
theorem Serves.not_declines {d : Definition (Handler ε)} {t : Target} (h : p.Serves s d t) :
    ¬ p.Declines s := by
  intro hdeclines
  have hnothing := (h.invokes fun _ _ _ _ => none).symm.trans (hdeclines fun _ _ _ _ => none)
  cases hnothing

theorem ServesAlike.declines_iff (h : p.ServesAlike s s') : p.Declines s ↔ p.Declines s' := by
  rcases h with ⟨hs, hs'⟩ | ⟨d, t, hs, hs'⟩
  · exact iff_of_true hs hs'
  · exact iff_of_false hs.not_declines hs'.not_declines

end

/-- The one level around a request that is served shows its target. -/
theorem target_enter_request (r : Request) (t : Target) :
    ((Chain.base r).enter ⟨.request, t⟩).view.target = t := by
  have hplain : (Chain.base r).Plain := fun _ h => nomatch h
  have hmarked : ((Chain.base r).enter ⟨.request, t⟩).frame = ((Chain.base r).forward t false).2.frame :=
    Chain.frame_write _ _
  rw [Chain.shows_of_frame View.target (fun _ => rfl) hmarked (Chain.plain_forward hplain t false)]
  have hlevel : ((Chain.base r).forward t false).2.view = (Level.ofTarget r.view t).view r.view := rfl
  simp [hlevel, Level.view, View.target, Level.requestUri, Level.servletPath, Level.pathInfo, Level.ofTarget,
    Level.shown]

theorem serves_start {p : Pipeline ε} {r : Request} {outlet : Outlet} {d : Definition (Handler ε)}
    {path : String} (h : p.serving? r.view = some (d, path)) :
    p.Serves (.start r outlet) d (d.target path r.contextPath) where
  mapping := mem_of_firstMatch? (serving?_eq_some h)
  invokes _ := serveWith_of_some h rfl
  shows := target_enter_request r _

/-- Requests under one context path for which the same path is sought. -/
theorem servesAlike_of_sought (p : Pipeline ε) {r r' : Request} (outlet : Outlet)
    (hcontext : r.contextPath = r'.contextPath)
    (h : p.serving? r.view = p.serving? r'.view) :
    p.ServesAlike (.start r outlet) (.start r' outlet) := by
  cases hserving : p.serving? r'.view with
  | none => exact .inl ⟨declines_iff.2 (h.trans hserving), declines_iff.2 hserving⟩
  | some found =>
    obtain ⟨d, path⟩ := found
    have hserves : p.Serves (.start r outlet) d _ := serves_start (h.trans hserving)
    rw [hcontext] at hserves
    exact .inr ⟨d, _, hserves, serves_start hserving⟩

theorem serving?_get (p : Pipeline ε) (context uri : String) :
    p.serving? ((Request.get uri).withContextPath context).view =
      ((Path.relative? (Path.withoutQuery uri) context).map Path.bare).bind fun path =>
        (p.registry.firstMatch? path).map fun d => (d, path) := by
  have huri : ((Request.get uri).withContextPath context).view.requestUri = Path.withoutQuery uri :=
    Request.requestUri_get uri
  unfold serving?
  rw [huri, Option.bind_map]
  rfl

/-- **What trails behind a path does not decide how it is served**, but for parameters behind the context
path alone. A request for a URI with parameters or a query behind it is served by the same mapping as one
for the URI, with the same target, or both are declined, if and only if the URI is not the context path
followed by parameters, or no mapping serves the root. -/
theorem serves_alike_iff (p : Pipeline ε) {context uri trailer : String} (outlet : Outlet)
    (hcontext : ';' ∉ context.toList) (huri : uri ≠ "") (hparameters : ';' ∉ uri.toList)
    (hquery : '?' ∉ uri.toList) (htrailer : Text.beginsWith ';' trailer ∨ Text.beginsWith '?' trailer) :
    p.ServesAlike (.start ((Request.get (uri ++ trailer)).withContextPath context) outlet)
        (.start ((Request.get uri).withContextPath context) outlet) ↔
      (Text.beginsWith ';' trailer → uri = context → p.registry.firstMatch? "/" = none) := by
  have hsought := Path.sought_append hcontext huri hparameters hquery htrailer
  have hdecorated := p.serving?_get context (uri ++ trailer)
  have hplain := p.serving?_get context uri
  rw [hsought] at hdecorated
  by_cases hroot : Text.beginsWith ';' trailer ∧ uri = context
  · obtain ⟨hparameters', rfl⟩ := hroot
    rw [if_pos ⟨hparameters', rfl⟩, Option.bind_none] at hdecorated
    rw [Path.sought_root huri hquery, Option.bind_some] at hplain
    constructor
    · intro h _ _
      have hdeclines := declines_iff.1 (h.declines_iff.1 (declines_iff.2 hdecorated))
      exact Option.map_eq_none_iff.1 (hplain.symm.trans hdeclines)
    · intro h
      rw [h hparameters' rfl, Option.map_none] at hplain
      exact servesAlike_of_sought p outlet rfl (hdecorated.trans hplain.symm)
  · rw [if_neg hroot] at hdecorated
    refine iff_of_true (servesAlike_of_sought p outlet rfl (hdecorated.trans hplain.symm)) ?_
    exact fun hparameters' he => absurd ⟨hparameters', he⟩ hroot

end Pipeline

/-- A request for a URI of the application. -/
def underApp (uri : String) : Session Unit :=
  .start ((Request.get uri).withContextPath "/app") (.fresh 64 none)

/-- Beneath the root of an application the home page serves a request with and without parameters. -/
theorem parameters_beneath_root :
    homePage.ServesAlike (underApp ("/app/x" ++ ";v=1?q")) (underApp "/app/x") ∧
      ¬ homePage.Declines (underApp "/app/x") := by
  constructor
  · have halike : homePage.ServesAlike (underApp ("/app/x" ++ ";v=1?q")) (underApp "/app/x") ↔
        (Text.beginsWith ';' ";v=1?q" → "/app/x" = "/app" → homePage.registry.firstMatch? "/" = none) :=
      homePage.serves_alike_iff (.fresh 64 none) (by decide) (by decide) (by decide) (by decide)
        (.inl (by decide))
    exact halike.2 fun _ he => absurd he (by decide)
  · intro h
    have hnone := Pipeline.declines_iff.1 h
    have hsome : (homePage.serving? (underApp "/app/x").chain.view).isSome = true := by decide +kernel
    rw [hnone] at hsome
    cases hsome

/-- At the root it serves a request without parameters only. -/
theorem parameters_at_root :
    homePage.Declines (underApp "/app;v=1") ∧
      ∃ d, d.name = "home" ∧ homePage.Serves (underApp "/app") d ⟨"/app/", "", some "/"⟩ := by
  constructor
  · exact Pipeline.declines_iff.2 (Option.isNone_iff_eq_none.1 (by decide +kernel))
  · have hfound : (homePage.serving? (underApp "/app").chain.view).any (fun x =>
        x.1.name = "home" ∧ x.1.target x.2 "/app" = ⟨"/app/", "", some "/"⟩) = true := by decide +kernel
    obtain ⟨⟨d, path⟩, hserving, hd⟩ := (Option.any_eq_true ..).1 hfound
    obtain ⟨hname, htarget⟩ := of_decide_eq_true hd
    refine ⟨d, hname, ?_⟩
    rw [← htarget]
    exact Pipeline.serves_start hserving

end RequestDispatch
