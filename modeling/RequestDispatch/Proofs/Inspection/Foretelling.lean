import RequestDispatch.Inspection.Resolution
import RequestDispatch.Proofs.Chain.Dressed
import RequestDispatch.Proofs.Dispatch.Entry
import RequestDispatch.Proofs.Path.Cutting

/-! What a resolution foretells.

A resolution cuts the parameters off a URI and then looks beneath the context path. Serving a
request looks beneath the context path first. So a resolution says what serving a request comes to
(`Resolution.Foretells`) if it makes no difference which is done first, and it makes one only for
parameters that are in the context path or follow it at once (`Registry.CutsAlike`). -/
namespace RequestDispatch

namespace Registry
variable {η : Type} (r : Registry η) (context uri : String)

/-- What serves a path beneath the context path. -/
def servedAt? (path : String) : Option Resolution.Served :=
  (r.firstMatch? path).map fun d => ⟨d.name, d.pattern.text, d.target path context⟩

theorem servedAt?_eq_none_iff {path : String} :
    r.servedAt? context path = none ↔ r.firstMatch? path = none := Option.map_eq_none_iff

/-- What serves a request for a URI. -/
def served? : Option Resolution.Served :=
  ((Path.relative? (Path.withoutQuery uri) context).map Path.bare).bind (r.servedAt? context)

theorem resolve_served :
    (r.resolve context uri).served =
      (Path.relative? (Path.bare uri) context).bind (r.servedAt? context) := by
  unfold resolve servedAt?
  simp only [Option.map_eq_bind]
  rfl

/-- Where the parameters of a URI meet the context path, no mapping serves what is found if they are cut
off first, nor what is found if they are cut off last. -/
structure CutsAlike : Prop where
  /-- A context path with parameters of its own is gone once they are cut off. -/
  within : ';' ∈ context.toList → ∀ path,
    Path.relative? (Path.withoutQuery uri) context = some path → r.firstMatch? (Path.bare path) = none
  /-- Parameters that follow the context path at once have to be cut off for the root of the
  application to be found, but are all there is at the root of the server. -/
  behind : ';' ∉ context.toList → ∀ rest, Path.withoutQuery uri = context ++ rest →
    Text.beginsWith ';' rest → r.firstMatch? (if context = "" then "" else "/") = none

variable {r context uri}

/-- Both orders find nothing, or both the same. -/
theorem CutsAlike.resolve_served (h : r.CutsAlike context uri) :
    (r.resolve context uri).served = r.served? context uri := by
  rw [Registry.resolve_served, served?]
  by_cases hcontext : ';' ∈ context.toList
  · rw [Path.relative?_bare_of_mem hcontext, Option.bind_none]
    cases hpath : Path.relative? (Path.withoutQuery uri) context with
    | none => rfl
    | some path => exact ((r.servedAt?_eq_none_iff context).2 (h.within hcontext path hpath)).symm
  · by_cases hmeet : ∃ rest, Path.withoutQuery uri = context ++ rest ∧ Text.beginsWith ';' rest
    · obtain ⟨rest, hrest, hbegins⟩ := hmeet
      obtain ⟨hraw, hbare⟩ := Path.relative?_of_parameters hcontext hrest hbegins
      have hnothing := (r.servedAt?_eq_none_iff context).2 (h.behind hcontext rest hrest hbegins)
      rw [hraw, hbare]
      by_cases hempty : context = ""
      · simpa [hempty] using hnothing.symm
      · simpa [hempty] using hnothing
    · have hrest : ∀ rest, Path.withoutQuery uri = context ++ rest → Text.beginsWith ';' rest = false :=
        fun rest h => Bool.eq_false_iff.2 fun hbegins => hmeet ⟨rest, h, hbegins⟩
      rw [Path.relative?_bare hcontext hrest]

/-- Where one order finds something, so does the other. -/
theorem CutsAlike.of_none_iff
    (h : (r.resolve context uri).served = none ↔ r.served? context uri = none) :
    r.CutsAlike context uri := by
  rw [Registry.resolve_served, served?] at h
  constructor
  · intro hcontext path hpath
    rw [Path.relative?_bare_of_mem hcontext, hpath] at h
    exact (r.servedAt?_eq_none_iff context).1 (h.1 rfl)
  · intro hcontext rest hrest hbegins
    obtain ⟨hraw, hbare⟩ := Path.relative?_of_parameters hcontext hrest hbegins
    rw [hraw, hbare] at h
    rw [← r.servedAt?_eq_none_iff context]
    by_cases hempty : context = "" <;> simpa [hempty] using h

end Registry

theorem Request.requestUri_get (uri : String) : (Request.get uri).requestUri = Path.withoutQuery uri := by
  refine Eq.trans ?_ (Text.fst_splitAt? '?' uri)
  unfold get received
  cases Text.splitAt? '?' uri <;> rfl

variable {ε : Type}

/-- What serves a request, told as a resolution tells it. -/
theorem Pipeline.serving?_told (p : Pipeline ε) (v : View) :
    (p.serving? v).map (fun (d, path) => ⟨d.name, d.pattern.text, d.target path v.contextPath⟩) =
      ((Path.relative? v.requestUri v.contextPath).map Path.bare).bind
        (p.registry.servedAt? v.contextPath) := by
  unfold serving? Registry.servedAt?
  cases Path.relative? v.requestUri v.contextPath with
  | none => rfl
  | some path => simp [Function.comp_def]

/-- What a resolution tells is what the pipeline does with a request. -/
structure Resolution.Foretells (v : Resolution) (p : Pipeline ε) (limit : Nat) (s : Session ε) :
    Prop where
  unserved : v.served = none ↔ ∃ s', p.serve limit s = some (.ok false, s')
  /-- The handler is invoked that was told, inside a forward layer to the target that was told. -/
  served : ∀ told, v.served = some told → ∃ d ∈ p.registry.definitions,
    d.name = told.handler ∧ d.pattern.text = told.pattern ∧
    (s.enter ⟨.request, told.target⟩).chain.marks = [(.forward, told.target)] ∧
    p.serve limit s =
      (p.invoke limit [] d ⟨.request, told.target⟩ 0 (s.enter ⟨.request, told.target⟩)).map
        fun (result, s') => (result.map fun _ => true, s.leave ⟨.request, told.target⟩ s')

section Serving
variable {p : Pipeline ε} {limit : Nat} {v : Resolution} {r : Request} {outlet : Outlet}

/-- The forward layer of a request that is served. -/
theorem marks_enter_request (r : Request) (t : Target) :
    ((Chain.base r).enter ⟨.request, t⟩).marks = [(.forward, t)] := by
  rw [Chain.enter, ← Chain.marks_frame, Chain.frame_write, Chain.marks_frame, Chain.forward_created rfl,
    Chain.marks_push _ rfl]
  rfl

theorem Resolution.Foretells.of_served (h : v.served =
    (p.serving? r.view).map fun (d, path) => ⟨d.name, d.pattern.text, d.target path r.contextPath⟩) :
    v.Foretells p limit (.start r outlet) where
  unserved := by
    rw [Pipeline.serve, Pipeline.serveWith_ok_false_iff, h, Option.map_eq_none_iff]
    rfl
  served told htold := by
    rw [h, Option.map_eq_some_iff] at htold
    obtain ⟨⟨d, path⟩, hserving, rfl⟩ := htold
    have hd : d ∈ p.registry.definitions :=
      Pipeline.mem_of_firstMatch? (Pipeline.serving?_eq_some hserving)
    exact ⟨d, hd, rfl, rfl, marks_enter_request r _, Pipeline.serveWith_of_some hserving rfl⟩

end Serving

/-- **What a resolution foretells.** What a URI resolves to under a context path is what serves a
request for it, with the same target, if and only if parameters may be cut off before the context path
as well as after it. -/
theorem Pipeline.resolution_foretells_iff (p : Pipeline ε) (context uri : String) (outlet : Outlet)
    (limit : Nat) :
    (p.registry.resolve context uri).Foretells p limit
        (.start ((Request.get uri).withContextPath context) outlet) ↔
      p.registry.CutsAlike context uri := by
  have htold := p.serving?_told ((Request.get uri).withContextPath context).view
  have huri : ((Request.get uri).withContextPath context).view.requestUri = Path.withoutQuery uri :=
    Request.requestUri_get uri
  rw [huri] at htold
  constructor
  · intro h
    refine .of_none_iff (h.unserved.trans ?_)
    rw [serve, serveWith_ok_false_iff, ← Option.map_eq_none_iff]
    exact iff_of_eq (congrArg (· = none) htold)
  · exact fun h => .of_served (h.resolve_served.trans htold.symm)

/-- A home page for all of an application. -/
def homePage : Pipeline Unit where
  registry := ⟨[.ofHandler (.beneath "") "home" ⟨0, { service _ := .finish }⟩ .empty]⟩
  context := ⟨"/app", .empty⟩

/-- The root of the application with parameters resolves to the home page, which does not serve it. -/
theorem parameters_hide_homePage :
    (homePage.registry.resolve "/app" "/app;v=1").served = some ⟨"home", "/*", ⟨"/app/", "", some "/"⟩⟩ ∧
      ∃ s', homePage.serve 1 (.start ((Request.get "/app;v=1").withContextPath "/app") (.fresh 64 none)) =
        some (.ok false, s') := by
  refine ⟨by decide +kernel, Pipeline.serveWith_ok_false_iff.2 ?_⟩
  exact Option.isNone_iff_eq_none.1 (by decide +kernel)

end RequestDispatch
