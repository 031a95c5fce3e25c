import RequestDispatch.Proofs.Dispatch.Identity
import RequestDispatch.Proofs.Dispatch.Trailer

/-! Targets that lead back.

What a dispatcher tells its handler to be the request URI is the context path with the path behind it.
Whoever looks for that URI beneath the context path finds the path, the mapping and the target again
(`Pipeline.LeadsBack`), if the path is one that can lie there: one that begins with a slash, or under the
empty context path any but the empty one. Dispatchers are given for other paths too, since suffixes and
regular expressions serve paths of any form and `/*` serves the empty one. -/
namespace RequestDispatch

variable {ε : Type}

theorem Chain.levels_dispatched (c : Chain Request) (manner : Manner) (t : Target) :
    ∃ outer l, (c.enter ⟨manner.kind, t⟩).levels = outer ++ [l] ∧ l.replacement = t := by
  cases manner with
  | forward => exact levels_forward c t true
  | inclusion => exact levels_includeTarget c t

/-- Under a context path, the URI of a target leads back to the dispatcher's path, and so to its mapping and
to the target. -/
structure Pipeline.LeadsBack (p : Pipeline ε) (context : String) (d : Dispatcher ε) (t : Target) : Prop where
  beneath : Path.relative? t.requestUri context = some d.path
  again : ∀ v : View, v.requestUri = t.requestUri → v.contextPath = context →
    p.serving? v = some (d.definition, d.path) ∧ d.definition.target d.path context = t

/-- **Which targets lead back.** A forward or an inclusion gives its handler a URI that leads back to the
target if and only if the path begins with a slash, or the context path is empty and the path is not. -/
theorem Pipeline.leads_back_iff (p : Pipeline ε) {depth : Nat} {path : String} {d : Dispatcher ε}
    (hd : p.dispatcherAt? depth path = some d) (manner : Manner) (s : Session ε) :
    ∃ outer l, (s.enter (d.dispatched manner s)).chain.levels = outer ++ [l] ∧
      l.replacement = d.target s ∧
      (p.LeadsBack s.chain.view.contextPath d l.replacement ↔
        Text.beginsWith '/' d.path ∨ s.chain.view.contextPath = "" ∧ d.path ≠ "") := by
  obtain ⟨hmatch, hbare, -⟩ := dispatcherAt?_eq_some hd
  have hself : Path.bare d.path = d.path := by rw [hbare, Path.bare_bare]
  obtain ⟨outer, l, hlevels, ht⟩ := s.chain.levels_dispatched manner (d.target s)
  have huri : l.replacement.requestUri = s.chain.view.contextPath ++ d.path := by
    rw [ht]
    exact congrArg (s.chain.view.contextPath ++ ·) hself
  refine ⟨outer, l, hlevels, ht, ?_⟩
  rw [← Path.relative?_append_eq_self_iff, ← huri]
  refine ⟨LeadsBack.beneath, fun h => ⟨h, fun v hv hcontext => ⟨?_, ht.symm⟩⟩⟩
  simp only [serving?, hv, hcontext, h, Option.bind_some, hself, hmatch, Option.map_some]

/-- Pages by their ending, for an application. -/
def views : Pipeline Unit where
  registry := ⟨[.ofHandler (.suffix ".jsp") "view" ⟨0, { service _ := .finish }⟩ .empty]⟩
  context := ⟨"/app", .empty⟩

/-- A request for the home page of the application. -/
def atHome : Session Unit := .start ((Request.get "/app/").withContextPath "/app") (.fresh 64 none)

/-- A view that is included by its path leads back, parameters or not. -/
theorem view_leads_back :
    ∃ d outer l, views.dispatcher? "/a.jsp;v=1" = some d ∧
      (atHome.enter (d.dispatched .inclusion atHome)).chain.levels = outer ++ [l] ∧
      l.replacement = ⟨"/app/a.jsp", "/a.jsp", none⟩ ∧ views.LeadsBack "/app" d l.replacement := by
  have hfound : (views.dispatcher? "/a.jsp;v=1").any (fun d =>
      d.path = "/a.jsp" ∧ d.target atHome = ⟨"/app/a.jsp", "/a.jsp", none⟩) = true := by decide +kernel
  obtain ⟨d, hd, hresult⟩ := (Option.any_eq_true ..).1 hfound
  obtain ⟨hpath, htarget⟩ := of_decide_eq_true hresult
  obtain ⟨outer, l, hlevels, ht, hback⟩ := views.leads_back_iff hd .inclusion atHome
  exact ⟨d, outer, l, hd, hlevels, ht.trans htarget, hback.2 (.inl (by rw [hpath]; decide))⟩

/-- Without a slash in front it is found as well, and told a URI that lies outside the application. -/
theorem view_led_astray :
    ∃ d, views.dispatcher? "a.jsp" = some d ∧ (d.target atHome).requestUri = "/appa.jsp" ∧
      Path.relative? "/appa.jsp" atHome.chain.view.contextPath = none ∧
      ¬ views.LeadsBack "/app" d (d.target atHome) := by
  have hfound : (views.dispatcher? "a.jsp").any (fun d =>
      (d.target atHome).requestUri = "/appa.jsp") = true := by decide +kernel
  obtain ⟨d, hd, hresult⟩ := (Option.any_eq_true ..).1 hfound
  have huri := of_decide_eq_true hresult
  have houtside : Path.relative? "/appa.jsp" "/app" = none := by decide +kernel
  refine ⟨d, hd, huri, houtside, fun h => ?_⟩
  have hbeneath := h.beneath
  rw [huri, houtside] at hbeneath
  cases hbeneath

end RequestDispatch
