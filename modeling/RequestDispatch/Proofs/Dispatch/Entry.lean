import RequestDispatch.Dispatch.Pipeline
import RequestDispatch.Proofs.Chain.Layers

/-! Entering and leaving dispatches.

A request that is served, forwarded or included is one thing done three ways: the session
enters the dispatch, the handler is invoked, and the session leaves the dispatch, whatever
came of it. `serveWith_eq_some` and `dispatch_eq_some` say so of the pipeline, with the
cases in which nothing is entered; `invoke_eq_some` says what invoking a handler does. -/
namespace RequestDispatch

/-- The chain inside a dispatch. -/
def Chain.enter (c : Chain Request) (d : Dispatched) : Chain Request :=
  match d.kind with
  | .request => (c.forward d.target false).2.write (.set managed (.bool true))
  | .forward => (c.forward d.target true).2
  | .inclusion => c.includeTarget d.target

/-- The chain `c'`, left behind by a dispatch that `c` entered, brought back. -/
def Chain.leave (c : Chain Request) (d : Dispatched) (c' : Chain Request) : Chain Request :=
  match d.kind with
  | .request =>
    ((c'.write (.remove managed)).unforward? (c.forward d.target false).1).getD
      (c'.write (.remove managed))
  | .forward => (c'.unforward? (c.forward d.target true).1).getD c'
  | .inclusion => (c'.uninclude? d.target.requestUri).getD c'

namespace Chain

/-- A step that dispatch takes on a chain. -/
def Step.OfDispatch : Step → Prop
  | write w => w.name = managed
  | decorate _ => False
  | forward _ _ | unforward _ | includeTarget _ | uninclude _ => True

theorem step_unforward (c : Chain Request) (outcome : ForwardOutcome) :
    (c.step (.unforward outcome)).2 = (c.unforward? outcome).getD c := by
  cases h : c.unforward? outcome <;> simp [step, h]

theorem step_uninclude (c : Chain Request) (uri : String) :
    (c.step (.uninclude uri)).2 = (c.uninclude? uri).getD c := by
  cases h : c.uninclude? uri <;> simp [step, h]

namespace LeadsTo
variable {ok : Step → Prop}

theorem unforward (hok : ∀ s : Step, s.OfDispatch → ok s) (c : Chain Request)
    (outcome : ForwardOutcome) : LeadsTo ok c ((c.unforward? outcome).getD c) := by
  rw [← step_unforward]
  exact step c (hok (.unforward outcome) trivial)

theorem uninclude (hok : ∀ s : Step, s.OfDispatch → ok s) (c : Chain Request) (uri : String) :
    LeadsTo ok c ((c.uninclude? uri).getD c) := by
  rw [← step_uninclude]
  exact step c (hok (.uninclude uri) trivial)

theorem enter (hok : ∀ s : Step, s.OfDispatch → ok s) (c : Chain Request) (d : Dispatched) :
    LeadsTo ok c (c.enter d) := by
  obtain ⟨kind, t⟩ := d
  cases kind with
  | request =>
    have hforward := step c (hok (.forward t false) trivial)
    have hmark := step (c.forward t false).2 (hok (.write (.set managed (.bool true))) rfl)
    exact hforward.trans hmark
  | forward => exact step c (hok (.forward t true) trivial)
  | inclusion => exact step c (hok (.includeTarget t) trivial)

theorem leave (hok : ∀ s : Step, s.OfDispatch → ok s) (c c' : Chain Request) (d : Dispatched) :
    LeadsTo ok c' (c.leave d c') := by
  obtain ⟨kind, t⟩ := d
  cases kind with
  | request => exact (step c' (hok (.write (.remove managed)) rfl)).trans (unforward hok _ _)
  | forward => exact unforward hok _ _
  | inclusion => exact uninclude hok _ _

end LeadsTo
end Chain

namespace Session
variable {ε : Type}

/-- A forward is only entered before anything of the response was sent. -/
def Admits (s : Session ε) (d : Dispatched) : Prop :=
  d.kind = .forward → s.outlet.response.committed = false

/-- A session before anything happened. -/
def start (r : Request) (outlet : Outlet) : Session ε := ⟨.base r, outlet, []⟩

theorem mem_invocations_iff {s : Session ε} {i : Invocation} :
    i ∈ s.invocations ↔ .invoked i ∈ s.record := by
  unfold invocations
  rw [List.mem_filterMap]
  constructor
  · rintro ⟨event, hevent, he⟩
    cases event <;> cases he
    exact hevent
  · exact fun h => ⟨_, h, rfl⟩

/-- The session inside a dispatch. A forward drops what was written. -/
def enter (s : Session ε) (d : Dispatched) : Session ε :=
  { s with
    chain := s.chain.enter d
    outlet := if d.kind = .forward then s.outlet.change (·.reset) else s.outlet }

def leave (s : Session ε) (d : Dispatched) (s' : Session ε) : Session ε :=
  { s' with chain := s.chain.leave d s'.chain }

@[simp] theorem chain_enter (s : Session ε) (d : Dispatched) : (s.enter d).chain = s.chain.enter d := rfl

@[simp] theorem chain_leave (s : Session ε) (d : Dispatched) (s' : Session ε) :
    (s.leave d s').chain = s.chain.leave d s'.chain := rfl

end Session

variable {ε : Type} {invoke : Invoke ε} {s s' : Session ε}

/-- The dispatch that a dispatcher makes. -/
def Dispatcher.dispatched (d : Dispatcher ε) (manner : Manner) (s : Session ε) : Dispatched :=
  ⟨manner.kind, d.target s⟩

theorem Dispatcher.dispatch_eq_some {d : Dispatcher ε} {manner : Manner}
    {r : Except DispatchError Unit} (h : d.dispatch invoke manner s = some (r, s')) :
    (¬ s.Admits (d.dispatched manner s) ∧ r = .error .committed ∧ s' = s) ∨
      s.Admits (d.dispatched manner s) ∧ ∃ s₁,
        invoke d.definition (d.dispatched manner s) d.depth (s.enter (d.dispatched manner s)) =
          some (r, s₁) ∧ s' = s.leave (d.dispatched manner s) s₁ := by
  cases manner with
  | forward =>
    simp only [dispatch, forward] at h
    split at h
    next hc =>
      cases h
      exact .inl ⟨fun ha => by simp [ha rfl] at hc, rfl, rfl⟩
    next hc =>
      refine .inr ⟨fun _ => by simpa using hc, ?_⟩
      split at h
      · cases h
      next result s₁ hinv =>
        cases h
        exact ⟨s₁, hinv, rfl⟩
  | inclusion =>
    refine .inr ⟨nofun, ?_⟩
    simp only [dispatch, includeTarget] at h
    split at h
    · cases h
    next result s₁ hinv =>
      cases h
      exact ⟨s₁, hinv, rfl⟩

namespace Pipeline
variable {p : Pipeline ε}

theorem dispatcherAt?_eq_some {depth : Nat} {path : String} {d : Dispatcher ε}
    (h : p.dispatcherAt? depth path = some d) :
    p.registry.firstMatch? d.path = some d.definition ∧ d.path = Path.bare path ∧ d.depth = depth := by
  obtain ⟨definition, hd, rfl⟩ := Option.map_eq_some_iff.1 h
  exact ⟨hd, rfl, rfl⟩

theorem serving?_eq_some {v : View} {d : Definition (Handler ε)} {path : String}
    (h : p.serving? v = some (d, path)) : p.registry.firstMatch? path = some d := by
  obtain ⟨relative, -, h⟩ := Option.bind_eq_some_iff.1 h
  obtain ⟨d', hd, he⟩ := Option.map_eq_some_iff.1 h
  cases he
  exact hd

theorem mem_of_firstMatch? {path : String} {d : Definition (Handler ε)}
    (h : p.registry.firstMatch? path = some d) : d ∈ p.registry.definitions :=
  List.mem_of_find?_eq_some h

theorem dispatchAt_eq_some {depth : Nat} {manner : Manner} {path : String}
    {r : Option (Except DispatchError Unit)}
    (h : p.dispatchAt invoke depth manner path s = some (r, s')) :
    (p.dispatcherAt? depth path = none ∧ r = none ∧ s' = s) ∨
      ∃ d result, p.dispatcherAt? depth path = some d ∧ r = some result ∧
        d.dispatch invoke manner s = some (result, s') := by
  unfold dispatchAt at h
  split at h
  next hd =>
    cases h
    exact .inl ⟨hd, rfl, rfl⟩
  next d hd =>
    obtain ⟨⟨result, s₁⟩, hrun, he⟩ := Option.map_eq_some_iff.1 h
    cases he
    exact .inr ⟨d, result, hd, rfl, hrun⟩

theorem serveWith_of_none (h : p.serving? s.chain.view = none) :
    p.serveWith invoke s = some (.ok false, s) := by
  simp only [serveWith, h]

/-- A request that a mapping serves is one dispatch, whatever comes of it. -/
theorem serveWith_of_some {d : Definition (Handler ε)} {path : String} {t : Target}
    (h : p.serving? s.chain.view = some (d, path)) (ht : d.target path s.chain.view.contextPath = t) :
    p.serveWith invoke s = (invoke d ⟨.request, t⟩ 0 (s.enter ⟨.request, t⟩)).map fun (result, s₁) =>
      (result.map fun _ => true, s.leave ⟨.request, t⟩ s₁) := by
  subst ht
  have hentered : s.enter ⟨.request, d.target path s.chain.view.contextPath⟩ =
      { s with
        chain := (s.chain.forward (d.target path s.chain.view.contextPath) false).2.write
          (.set managed (.bool true)) } := rfl
  unfold serveWith
  simp only [h, hentered]
  split
  next hinv => rw [hinv, Option.map_none]
  next result s₁ hinv =>
    rw [hinv, Option.map_some]
    rfl

theorem serveWith_eq_some {r : Except DispatchError Bool}
    (h : p.serveWith invoke s = some (r, s')) :
    (p.serving? s.chain.view = none ∧ r = .ok false ∧ s' = s) ∨
      ∃ d path result s₁, p.serving? s.chain.view = some (d, path) ∧
        invoke d ⟨.request, d.target path s.chain.view.contextPath⟩ 0
          (s.enter ⟨.request, d.target path s.chain.view.contextPath⟩) = some (result, s₁) ∧
        r = result.map (fun _ => true) ∧
        s' = s.leave ⟨.request, d.target path s.chain.view.contextPath⟩ s₁ := by
  cases hserving : p.serving? s.chain.view with
  | none =>
    rw [serveWith_of_none hserving] at h
    cases h
    exact .inl ⟨rfl, rfl, rfl⟩
  | some found =>
    obtain ⟨d, path⟩ := found
    rw [serveWith_of_some hserving rfl] at h
    obtain ⟨⟨result, s₁⟩, hinv, he⟩ := Option.map_eq_some_iff.1 h
    cases he
    exact .inr ⟨d, path, result, s₁, rfl, hinv, rfl, rfl⟩

theorem serveWith_ok_false_iff :
    (∃ s', p.serveWith invoke s = some (.ok false, s')) ↔ p.serving? s.chain.view = none := by
  constructor
  · rintro ⟨s', h⟩
    rcases serveWith_eq_some h with ⟨hnone, -⟩ | ⟨d, path, result, s₁, -, -, hresult, -⟩
    · exact hnone
    · cases result <;> cases hresult
  · exact fun h => ⟨s, serveWith_of_none h⟩

/-- What an invocation is recorded as. -/
def invocation (d : Definition (Handler ε)) (dispatched : Dispatched) (around : List Dispatched)
    (depth : Nat) (s : Session ε) : Invocation :=
  ⟨⟨d.name, dispatched.kind, depth⟩, d.pattern, dispatched.target, around, s.chain, s.outlet⟩

theorem invoke_eq_some {limit : Nat} {around : List Dispatched} {d : Definition (Handler ε)}
    {dispatched : Dispatched} {depth : Nat} {r : Except DispatchError Unit}
    (h : p.invoke limit around d dispatched depth s = some (r, s')) :
    ∃ n result, limit = n + 1 ∧ r = result.mapError (.handler d.name) ∧
      (d.handler.content.service ⟨d.name, dispatched.kind, depth⟩).run
        (p.surroundings (p.invoke n (dispatched :: around)) depth)
        (s.add (.invoked (invocation d dispatched around depth s))) = some (result, s') := by
  cases limit with
  | zero => cases h
  | succ n =>
    unfold invoke at h
    simp only at h
    split at h
    · cases h
    next result s₁ hrun =>
      cases h
      exact ⟨n, result, rfl, rfl, hrun⟩

end Pipeline
end RequestDispatch
