import Mathlib.Logic.Relation
import RequestDispatch.Proofs.Dispatch.Entry

/-! Runs, moment by moment.

A run of handlers inside handlers is what a machine does that takes one step of the program at work at a
time and keeps the dispatches under way on a stack (`Pipeline.next?`). Each of them holds what its caller
goes on with once the handler is done. The machine needs no limit on how deep dispatches are nested, and
whatever a run comes to within some limit, the machine comes to as well, with the same callers waiting
(`Pipeline.stepwise`, by induction on the limit and, at each depth, on the handler's program). So what is
to hold at every moment of a run has to hold along the steps of the machine, and `Pipeline.next?_eq_some`
says all that a step can do. -/
namespace RequestDispatch
variable {ε : Type}

/-- A dispatch under way, whose handler has not finished. -/
structure Pending (ε : Type) where
  definition : Definition (Handler ε)
  dispatched : Dispatched
  depth : Nat
  /-- The session that the dispatch was entered from. -/
  outside : Session ε
  /-- What the caller goes on with. -/
  next : Except DispatchError Unit → Program ε

/-- How deep a program is nested in some dispatches, innermost first. -/
def Pending.depthWithin (stack : List (Pending ε)) : Nat := (stack.head?.map (·.depth)).getD 0

/-- A moment of a run: the program at work, the dispatches under way around it, innermost first, and
the session. Outside all dispatches a program is at work that is no handler's. -/
structure Moment (ε : Type) where
  program : Program ε
  stack : List (Pending ε)
  session : Session ε

namespace Moment

def response (m : Moment ε) : Response := m.session.outlet.response

/-- The dispatcher that the program at work is given for a path. -/
def dispatcher? (p : Pipeline ε) (m : Moment ε) (path : String) : Option (Dispatcher ε) :=
  p.dispatcherAt? (Pending.depthWithin m.stack + 1) path

/-- The moment at which a handler has been invoked. -/
def invoked (stack : List (Pending ε)) (s : Session ε) (d : Definition (Handler ε))
    (dispatched : Dispatched) (depth : Nat) (next : Except DispatchError Unit → Program ε) : Moment ε where
  program := d.handler.content.service ⟨d.name, dispatched.kind, depth⟩
  stack := ⟨d, dispatched, depth, s, next⟩ :: stack
  session := (s.enter dispatched).add (.invoked
    (Pipeline.invocation d dispatched (stack.map (·.dispatched)) depth (s.enter dispatched)))

/-- The program at work is done: the innermost dispatch is left, and its caller goes on. -/
def leave? (m : Moment ε) (result : Except Failure Unit) : Option (Moment ε) :=
  match m.stack with
  | [] => none
  | d :: stack => some
    { program := d.next (result.mapError (.handler d.definition.name))
      stack
      session := d.outside.leave d.dispatched m.session }

theorem leave?_eq_some {m m' : Moment ε} {result : Except Failure Unit} (h : m.leave? result = some m') :
    ∃ d stack, m.stack = d :: stack ∧ m'.stack = stack ∧
      m'.program = d.next (result.mapError (.handler d.definition.name)) ∧
      m'.session = d.outside.leave d.dispatched m.session := by
  obtain ⟨program, stack, s⟩ := m
  cases stack with
  | nil => cases h
  | cons d stack =>
    cases h
    exact ⟨d, stack, rfl, rfl, rfl, rfl⟩

end Moment

/-- What a program may go on with after its first step. -/
inductive Program.Continues : Program ε → Program ε → Prop
  | note event next : Continues (.note event next) next
  | recollect next events : Continues (.recollect next) (next events)
  | look next c o : Continues (.look next) (next c o)
  | request step next reply : Continues (.request step next) (next reply)
  | respond step next reply : Continues (.respond step next) (next reply)
  | find path next found : Continues (.find path next) (next found)
  | dispatch manner path next reply : Continues (.dispatch manner path next) (next reply)
  | serve next reply : Continues (.serve next) (next reply)

/-- A program that is done. -/
def Program.done : Except Failure Unit → Program ε
  | .ok () => .finish
  | .error failure => .fail failure

namespace Pipeline
variable (p : Pipeline ε)

/-- One step of the program at work. -/
def next? (m : Moment ε) : Option (Moment ε) :=
  match m.program with
  | .finish => m.leave? (.ok ())
  | .fail failure => m.leave? (.error failure)
  | .note event next => some { m with program := next, session := m.session.add (.noted event) }
  | .recollect next => some { m with program := next m.session.notes }
  | .look next => some { m with program := next m.session.chain m.session.outlet }
  | .request step next =>
    let (reply, chain) := m.session.chain.step step
    some { m with program := next reply, session := { m.session with chain } }
  | .respond step next =>
    let (reply, outlet) := m.session.outlet.step step
    some { m with program := next reply, session := { m.session with outlet } }
  | .find path next =>
    some { m with program := next ((m.dispatcher? p path).map (·.found)) }
  | .dispatch manner path next =>
    match m.dispatcher? p path with
    | none => some { m with program := next none }
    | some d =>
      if manner = .forward ∧ m.response.committed = true then
        some { m with program := next (some (.error .committed)) }
      else
        some (.invoked m.stack m.session d.definition (d.dispatched manner m.session) d.depth
          fun result => next (some result))
  | .serve next =>
    match p.serving? m.session.chain.view with
    | none => some { m with program := next (.ok false) }
    | some (d, path) =>
      some (.invoked m.stack m.session d ⟨.request, d.target path m.session.chain.view.contextPath⟩ 0
        fun result => next (result.map fun _ => true))

/-- The machine goes from one moment to another in some number of steps. -/
def Goes : Moment ε → Moment ε → Prop := Relation.ReflTransGen fun m m' => p.next? m = some m'

namespace Goes
variable {p : Pipeline ε} {m m' m'' : Moment ε}

theorem refl (m : Moment ε) : p.Goes m m := Relation.ReflTransGen.refl

theorem trans (h : p.Goes m m') (h' : p.Goes m' m'') : p.Goes m m'' := Relation.ReflTransGen.trans h h'

theorem step (h : p.next? m = some m') (h' : p.Goes m' m'') : p.Goes m m'' :=
  Relation.ReflTransGen.head h h'

/-- What one step keeps, all steps keep. -/
theorem invariant {P : Moment ε → Prop} (hstep : ∀ m m', P m → p.next? m = some m' → P m')
    (hm : P m) (h : p.Goes m m') : P m' := by
  induction h with
  | refl => exact hm
  | tail _ h ih => exact hstep _ _ ih h

end Goes

section Dispatch
variable {p : Pipeline ε} {m : Moment ε} {manner : Manner} {path : String} {d : Dispatcher ε}
variable {next : Option (Except DispatchError Unit) → Program ε}

theorem next?_unfound (hm : m.program = .dispatch manner path next) (hd : m.dispatcher? p path = none) :
    p.next? m = some { m with program := next none } := by
  simp only [next?, hm, hd]

/-- A forward of a committed response fails, and that is all that happens. -/
theorem next?_refused (hm : m.program = .dispatch manner path next) (hd : m.dispatcher? p path = some d)
    (hc : manner = .forward ∧ m.response.committed = true) :
    p.next? m = some { m with program := next (some (.error .committed)) } := by
  simp only [next?, hm, hd, if_pos hc]

theorem next?_dispatched (hm : m.program = .dispatch manner path next) (hd : m.dispatcher? p path = some d)
    (hc : ¬ (manner = .forward ∧ m.response.committed = true)) :
    p.next? m = some (.invoked m.stack m.session d.definition (d.dispatched manner m.session) d.depth
      fun result => next (some result)) := by
  simp only [next?, hm, hd, if_neg hc]

theorem admits_dispatched_iff {s : Session ε} :
    s.Admits (d.dispatched manner s) ↔ ¬ (manner = .forward ∧ s.outlet.response.committed = true) := by
  cases manner <;> simp [Session.Admits, Dispatcher.dispatched, Manner.kind]

end Dispatch

/-- All that a step can do: leave the innermost dispatch, enter one more, or go on with the same
dispatches under way. Only a program that asks for a forward is forwarded, and not once the response is
committed. Only a step on the response changes it while the program goes on. -/
theorem next?_eq_some {p : Pipeline ε} {m m' : Moment ε} (h : p.next? m = some m') :
    (∃ result, m.leave? result = some m') ∨
      (∃ path d dispatched depth next, m' = .invoked m.stack m.session d dispatched depth next ∧
        p.registry.firstMatch? path = some d ∧ (∀ result, m.program.Continues (next result)) ∧
        (dispatched.kind = .forward →
          m.response.committed = false ∧ ∃ path next, m.program = .dispatch .forward path next)) ∨
      m.program.Continues m'.program ∧ m'.stack = m.stack ∧
        (m'.session.outlet = m.session.outlet ∨ ∃ step next, m.program = .respond step next ∧
          m'.session.outlet = (m.session.outlet.step step).2) := by
  obtain ⟨program, stack, s⟩ := m
  cases program with
  | finish => exact .inl ⟨_, h⟩
  | fail failure => exact .inl ⟨_, h⟩
  | note event next =>
    cases h
    exact .inr (.inr ⟨.note event next, rfl, .inl rfl⟩)
  | recollect next =>
    cases h
    exact .inr (.inr ⟨.recollect next _, rfl, .inl rfl⟩)
  | look next =>
    cases h
    exact .inr (.inr ⟨.look next _ _, rfl, .inl rfl⟩)
  | request step next =>
    cases h
    exact .inr (.inr ⟨.request step next _, rfl, .inl rfl⟩)
  | respond step next =>
    cases h
    exact .inr (.inr ⟨.respond step next _, rfl, .inr ⟨step, next, rfl, rfl⟩⟩)
  | find path next =>
    cases h
    exact .inr (.inr ⟨.find path next _, rfl, .inl rfl⟩)
  | dispatch manner path next =>
    simp only [next?] at h
    split at h
    · cases h
      exact .inr (.inr ⟨.dispatch manner path next _, rfl, .inl rfl⟩)
    next d hd =>
      split at h
      · cases h
        exact .inr (.inr ⟨.dispatch manner path next _, rfl, .inl rfl⟩)
      next hc =>
        cases h
        refine .inr (.inl ⟨_, _, _, _, _, rfl, (dispatcherAt?_eq_some hd).1,
          fun result => .dispatch manner path next _, fun hforward => ?_⟩)
        cases manner with
        | forward => exact ⟨by simpa using hc, path, next, rfl⟩
        | inclusion => cases hforward
  | serve next =>
    simp only [next?] at h
    split at h
    · cases h
      exact .inr (.inr ⟨.serve next _, rfl, .inl rfl⟩)
    next d path hd =>
      cases h
      exact .inr (.inl ⟨_, _, _, _, _, rfl, serving?_eq_some hd, fun result => .serve next _, nofun⟩)

end Pipeline

/-! ### Runs -/

/-- An invoker that comes to what the machine comes to, inside some dispatches. -/
def Invoke.Stepwise (p : Pipeline ε) (stack : List (Pending ε)) (invoke : Invoke ε) : Prop :=
  ∀ ⦃d dispatched depth s r s'⦄ next, invoke d dispatched depth (s.enter dispatched) = some (r, s') →
    p.Goes (.invoked stack s d dispatched depth next) ⟨next r, stack, s.leave dispatched s'⟩

section Runs
variable {p : Pipeline ε} {invoke : Invoke ε} {stack : List (Pending ε)} {s s' : Session ε}

theorem Invoke.Stepwise.dispatchAt (hinv : invoke.Stepwise p stack) {manner : Manner} {path : String}
    {r : Option (Except DispatchError Unit)}
    (h : p.dispatchAt invoke (Pending.depthWithin stack + 1) manner path s = some (r, s'))
    (next : Option (Except DispatchError Unit) → Program ε) :
    p.Goes ⟨.dispatch manner path next, stack, s⟩ ⟨next r, stack, s'⟩ := by
  rcases Pipeline.dispatchAt_eq_some h with ⟨hd, rfl, rfl⟩ | ⟨d, result, hd, rfl, hrun⟩
  · exact .step (Pipeline.next?_unfound rfl hd) (.refl _)
  · rcases Dispatcher.dispatch_eq_some hrun with ⟨ha, rfl, rfl⟩ | ⟨ha, s₁, hinvoked, rfl⟩
    · rw [Pipeline.admits_dispatched_iff, Decidable.not_not] at ha
      exact .step (Pipeline.next?_refused rfl hd ha) (.refl _)
    · rw [Pipeline.admits_dispatched_iff] at ha
      exact .step (Pipeline.next?_dispatched rfl hd ha) (hinv _ hinvoked)

theorem Invoke.Stepwise.serveWith (hinv : invoke.Stepwise p stack) {r : Except DispatchError Bool}
    (h : p.serveWith invoke s = some (r, s')) (next : Except DispatchError Bool → Program ε) :
    p.Goes ⟨.serve next, stack, s⟩ ⟨next r, stack, s'⟩ := by
  rcases Pipeline.serveWith_eq_some h with ⟨hd, rfl, rfl⟩ | ⟨d, path, result, s₁, hd, hrun, rfl, rfl⟩
  · exact .step (by simp only [Pipeline.next?, hd]) (.refl _)
  · have hgoes := hinv (fun result => next (result.map fun _ => true)) hrun
    exact .step (by simp only [Pipeline.next?, hd]) hgoes

/-- A program in surroundings that the machine keeps up with. -/
theorem Invoke.Stepwise.run (hinv : invoke.Stepwise p stack) {program : Program ε}
    {r : Except Failure Unit}
    (h : program.run (p.surroundings invoke (Pending.depthWithin stack)) s = some (r, s')) :
    p.Goes ⟨program, stack, s⟩ ⟨.done r, stack, s'⟩ := by
  induction program generalizing s with
  | finish =>
    cases h
    exact .refl _
  | fail failure =>
    cases h
    exact .refl _
  | note event next ih => exact .step rfl (ih h)
  | recollect next ih => exact .step rfl (ih _ h)
  | look next ih => exact .step rfl (ih _ _ h)
  | request step next ih => exact .step rfl (ih _ h)
  | respond step next ih => exact .step rfl (ih _ h)
  | find path next ih => exact .step rfl (ih _ h)
  | dispatch manner path next ih =>
    simp only [Program.run] at h
    split at h
    · cases h
    next reply s₁ hd => exact (hinv.dispatchAt hd next).trans (ih _ h)
  | serve next ih =>
    simp only [Program.run] at h
    split at h
    · cases h
    next reply s₁ hd => exact (hinv.serveWith hd next).trans (ih _ h)

/-- The machine comes to whatever an invocation comes to, however deep dispatches may be nested. -/
theorem Pipeline.stepwise (p : Pipeline ε) (limit : Nat) (stack : List (Pending ε)) :
    (p.invoke limit (stack.map (·.dispatched))).Stepwise p stack := by
  induction limit generalizing stack with
  | zero =>
    intro d dispatched depth s r s' next h
    cases h
  | succ n ih =>
    intro d dispatched depth s r s' next h
    obtain ⟨n', result, he, rfl, hrun⟩ := invoke_eq_some h
    cases he
    -- The handler works inside one dispatch more, with one level less to go.
    have hinside := (ih (⟨d, dispatched, depth, s, next⟩ :: stack)).run hrun
    refine hinside.trans (.step ?_ (.refl _))
    cases result <;> rfl

/-- What serving a request comes to, the machine comes to. -/
theorem Pipeline.goes_of_serve {limit : Nat} {r : Except DispatchError Bool}
    (h : p.serve limit s = some (r, s')) (next : Except DispatchError Bool → Program ε) :
    p.Goes ⟨.serve next, [], s⟩ ⟨next r, [], s'⟩ :=
  (p.stepwise limit []).serveWith h next

/-- What a forward or an inclusion from outside any handler comes to, the machine comes to. -/
theorem Pipeline.goes_of_dispatch {limit : Nat} {manner : Manner} {path : String}
    {r : Option (Except DispatchError Unit)} (h : p.dispatch limit manner path s = some (r, s'))
    (next : Option (Except DispatchError Unit) → Program ε) :
    p.Goes ⟨.dispatch manner path next, [], s⟩ ⟨next r, [], s'⟩ :=
  (p.stepwise limit []).dispatchAt h next

end Runs
end RequestDispatch
