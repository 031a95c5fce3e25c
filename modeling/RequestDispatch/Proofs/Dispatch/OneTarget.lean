import RequestDispatch.Proofs.Dispatch.Callers
import RequestDispatch.Proofs.Dispatch.LeadingBack

/-! One target, served or dispatched.

A request whose URI is the context path with a path behind it and a dispatch to that path are two ways
to one mapping. Serving cuts off the context path, then both cut off parameters and query, and both seek
a mapping for what is left (`Pipeline.serving?_append`). What the mapping makes of that under the context
path is the target of either (`Pipeline.one_target`). -/
namespace RequestDispatch
variable {ε : Type} {p : Pipeline ε}

/-- What a dispatcher does where it is admitted. -/
theorem Dispatcher.dispatch_of_admits {d : Dispatcher ε} {manner : Manner} {s : Session ε}
    (h : s.Admits (d.dispatched manner s)) (invoke : Invoke ε) :
    d.dispatch invoke manner s =
      (invoke d.definition (d.dispatched manner s) d.depth (s.enter (d.dispatched manner s))).map
        fun (result, s') => (result, s.leave (d.dispatched manner s) s') := by
  cases manner with
  | forward =>
    have hopen : s.outlet.response.committed = false := h rfl
    have hdispatched : d.dispatched .forward s = ⟨.forward, d.target s⟩ := rfl
    have hentered : s.enter ⟨.forward, d.target s⟩ =
        { s with
          chain := (s.chain.forward (d.target s) true).2
          outlet := s.outlet.change (·.reset) } := rfl
    simp only [dispatch, forward, hopen, hdispatched, hentered, Bool.false_eq_true, if_false]
    split
    next hnone => rw [hnone, Option.map_none]
    next result s' hsome =>
      rw [hsome, Option.map_some]
      rfl
  | inclusion =>
    have hdispatched : d.dispatched .inclusion s = ⟨.inclusion, d.target s⟩ := rfl
    have hentered : s.enter ⟨.inclusion, d.target s⟩ =
        { s with chain := s.chain.includeTarget (d.target s) } := rfl
    simp only [dispatch, includeTarget, hdispatched, hentered]
    split
    next hnone => rw [hnone, Option.map_none]
    next result s' hsome =>
      rw [hsome, Option.map_some]
      rfl

theorem Dispatcher.dispatch_of_not_admits {d : Dispatcher ε} {manner : Manner} {s : Session ε}
    (h : ¬ s.Admits (d.dispatched manner s)) (invoke : Invoke ε) :
    d.dispatch invoke manner s = some (.error .committed, s) := by
  cases manner with
  | forward =>
    have hcommitted : s.outlet.response.committed = true := by
      by_contra hopen
      exact h fun _ => Bool.eq_false_iff.2 hopen
    exact if_pos hcommitted
  | inclusion => exact absurd nofun h

namespace Pipeline

/-- Under a context path, a forward or an inclusion is to invoke the handler of one mapping for one
target, unless it is refused. -/
structure DispatchesTo (p : Pipeline ε) (context : String) (depth : Nat) (path : String)
    (d : Definition (Handler ε)) (t : Target) : Prop where
  invokes : ∀ (invoke : Invoke ε) (manner : Manner) (s : Session ε),
    s.chain.view.contextPath = context → s.Admits ⟨manner.kind, t⟩ →
      p.dispatchAt invoke depth manner path s =
        (invoke d ⟨manner.kind, t⟩ depth (s.enter ⟨manner.kind, t⟩)).map fun (result, s') =>
          (some result, s.leave ⟨manner.kind, t⟩ s')
  refused : ∀ (invoke : Invoke ε) (manner : Manner) (s : Session ε),
    s.chain.view.contextPath = context → ¬ s.Admits ⟨manner.kind, t⟩ →
      p.dispatchAt invoke depth manner path s = some (some (.error .committed), s)

theorem dispatchesTo {depth : Nat} {path : String} {d : Dispatcher ε}
    (h : p.dispatcherAt? depth path = some d) (context : String) :
    p.DispatchesTo context depth path d.definition (d.definition.target d.path context) where
  invokes invoke manner s hcontext hadmits := by
    subst hcontext
    have hdispatched : s.Admits (d.dispatched manner s) := hadmits
    have hdispatch := Dispatcher.dispatch_of_admits hdispatched invoke
    obtain ⟨-, -, rfl⟩ := dispatcherAt?_eq_some h
    simp only [dispatchAt, h, hdispatch, Option.map_map]
    rfl
  refused invoke manner s hcontext hadmits := by
    subst hcontext
    have hdispatched : ¬ s.Admits (d.dispatched manner s) := hadmits
    have hdispatch := Dispatcher.dispatch_of_not_admits hdispatched invoke
    simp only [dispatchAt, h, hdispatch, Option.map_some]

/-- The mapping for a URI behind the context path is the one that a dispatcher is given for. -/
theorem serving?_append (p : Pipeline ε) {context path : String} (hpath : Text.beginsWith '/' path)
    {v : View} (huri : v.requestUri = context ++ path) (hcontext : v.contextPath = context)
    (depth : Nat) :
    p.serving? v = (p.dispatcherAt? depth path).map fun d => (d.definition, d.path) := by
  have hbeneath : Path.relative? v.requestUri v.contextPath = some path := by
    rw [huri, hcontext]
    exact Path.relative?_append_eq_self_iff.2 (.inl hpath)
  simp only [serving?, hbeneath, Option.bind_some, dispatcherAt?, Option.map_map]
  rfl

/-- **One target, served or dispatched.** A request whose URI is the context path with a path behind it is
declined if and only if there is no dispatcher for the path. If there is one, the request is served by
its mapping, found for the same path, and with the target that it has under that context path wherever
it is used. -/
theorem one_target (p : Pipeline ε) {context path : String} (hpath : Text.beginsWith '/' path)
    (s : Session ε) (huri : s.chain.view.requestUri = context ++ path)
    (hcontext : s.chain.view.contextPath = context) (depth : Nat) :
    (p.Declines s ↔ p.dispatcherAt? depth path = none) ∧
    ∀ d, p.dispatcherAt? depth path = some d →
      p.serving? s.chain.view = some (d.definition, d.path) ∧
      p.ServedBy s d.definition (d.definition.target d.path context) ∧
      p.DispatchesTo context depth path d.definition (d.definition.target d.path context) := by
  have hserving := p.serving?_append hpath huri hcontext depth
  constructor
  · rw [declines_iff, hserving, Option.map_eq_none_iff]
  · intro d hd
    rw [hd, Option.map_some] at hserving
    have hserved := servedBy_of_serving? hserving
    rw [hcontext] at hserved
    exact ⟨hserving, hserved, dispatchesTo hd context⟩

end Pipeline

/-- The home page serves a path with parameters, escapes and slashes in a row as it is dispatched to. -/
theorem homePage_one_target :
    ∃ d, homePage.dispatcher? "/a//b%20c;v=1/d" = some d ∧ d.path = "/a//b%20c" ∧
      homePage.ServedBy (underApp "/app/a//b%20c;v=1/d") d.definition
        ⟨"/app/a//b%20c", "", some "/a/b c"⟩ ∧
      homePage.DispatchesTo "/app" 1 "/a//b%20c;v=1/d" d.definition
        ⟨"/app/a//b%20c", "", some "/a/b c"⟩ := by
  have hfound : (homePage.dispatcher? "/a//b%20c;v=1/d").any (fun d =>
      d.path = "/a//b%20c" ∧
        d.definition.target d.path "/app" = ⟨"/app/a//b%20c", "", some "/a/b c"⟩) = true := by
    decide +kernel
  obtain ⟨d, hd, hresult⟩ := (Option.any_eq_true ..).1 hfound
  obtain ⟨hpath, htarget⟩ := of_decide_eq_true hresult
  have huri : (underApp "/app/a//b%20c;v=1/d").chain.view.requestUri = "/app" ++ "/a//b%20c;v=1/d" := by
    decide +kernel
  obtain ⟨-, hagree⟩ := homePage.one_target (by decide) (underApp "/app/a//b%20c;v=1/d") huri rfl 1
  obtain ⟨-, hserved, hdispatches⟩ := hagree d hd
  rw [htarget] at hserved hdispatches
  exact ⟨d, hd, hpath, hserved, hdispatches⟩

end RequestDispatch
