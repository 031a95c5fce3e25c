import RequestDispatch.Proofs.Dispatch.Passage

/-! How deep dispatches are nested.

Handlers that dispatch further, and never have the request served once more, are invoked inside
one request and as many forwards and inclusions as their depth says (`Nested`). That is so for
the request itself, each dispatch takes the depth of the handler it is made by and adds one, and
so it is along every run (`Pipeline.nests`, by induction on how deep dispatches may be nested and,
at each depth, on the handler's program). -/
namespace RequestDispatch
variable {ε : Type}

/-- The program forwards and includes, but never has the request served from the start. -/
def Program.NeverServes : Program ε → Prop
  | .finish | .fail _ => True
  | .note _ next => next.NeverServes
  | .recollect next => ∀ events, (next events).NeverServes
  | .look next => ∀ c o, (next c o).NeverServes
  | .request _ next => ∀ reply, (next reply).NeverServes
  | .respond _ next => ∀ reply, (next reply).NeverServes
  | .find _ next => ∀ found, (next found).NeverServes
  | .dispatch _ _ next => ∀ reply, (next reply).NeverServes
  | .serve _ => False

/-- So it is with all handlers of a pipeline, however they are invoked. -/
def Pipeline.NeverServes (p : Pipeline ε) : Prop :=
  ∀ d ∈ p.registry.definitions, ∀ situation, (d.handler.content.service situation).NeverServes

/-- The dispatches under way at an invocation, outermost first. The last one is its own. -/
def Invocation.active (i : Invocation) : List Dispatched := (i.dispatched :: i.around).reverse

/-- Dispatches under way, innermost first: a request and a number of forwards and inclusions. -/
inductive Nested : List Dispatched → Nat → Prop where
  | request (t : Target) : Nested [⟨.request, t⟩] 0
  | deeper {around : List Dispatched} {depth : Nat} (manner : Manner) (t : Target)
      (h : Nested around depth) : Nested (⟨manner.kind, t⟩ :: around) (depth + 1)

theorem Nested.reverse {ds : List Dispatched} {depth : Nat} (h : Nested ds depth) :
    ∃ t inner, ds.reverse = ⟨.request, t⟩ :: inner ∧ (∀ d ∈ inner, d.kind ≠ .request) ∧
      depth = inner.length := by
  induction h with
  | request t => exact ⟨t, [], rfl, nofun, rfl⟩
  | deeper manner u _ ih =>
    obtain ⟨t, inner, hds, hinner, rfl⟩ := ih
    refine ⟨t, inner ++ [⟨manner.kind, u⟩], by rw [List.reverse_cons, hds]; rfl, ?_, by simp⟩
    refine List.forall_mem_append.2 ⟨hinner, List.forall_mem_singleton.2 ?_⟩
    cases manner <;> simp [Manner.kind]

/-- All that is invoked on the way to the session `s'` is nested as deep as it is told. -/
def Session.Nests (s s' : Session ε) : Prop :=
  ∃ new, s'.record = s.record ++ new ∧
    ∀ i, .invoked i ∈ new → Nested (i.dispatched :: i.around) i.situation.depth

namespace Session.Nests
variable {s s' s'' : Session ε}

theorem refl (s : Session ε) : s.Nests s := ⟨[], by simp, by simp⟩

theorem trans (h : s.Nests s') (h' : s'.Nests s'') : s.Nests s'' := by
  obtain ⟨new, hnew, hi⟩ := h
  obtain ⟨new', hnew', hi'⟩ := h'
  refine ⟨new ++ new', by rw [hnew', hnew, List.append_assoc], fun i him => ?_⟩
  rcases List.mem_append.1 him with him | him
  · exact hi i him
  · exact hi' i him

/-- Entering and leaving a dispatch is not recorded. -/
theorem leave {d : Dispatched} (h : (s.enter d).Nests s') : s.Nests (s.leave d s') := h

end Session.Nests

/-- An invoker inside some dispatches, all of whose invocations are nested as deep as they are told. -/
def Invoke.Nests (p : Pipeline ε) (around : List Dispatched) (invoke : Invoke ε) : Prop :=
  ∀ ⦃d path dispatched depth s r s'⦄, p.registry.firstMatch? path = some d →
    Nested (dispatched :: around) depth → invoke d dispatched depth s = some (r, s') → s.Nests s'

section Nests
variable {p : Pipeline ε} {invoke : Invoke ε} {around : List Dispatched} {depth : Nat}
variable {s s' : Session ε}

theorem Invoke.Nests.dispatchAt (hinv : invoke.Nests p around) (hn : Nested around depth)
    {manner : Manner} {path : String} {r : Option (Except DispatchError Unit)}
    (h : p.dispatchAt invoke (depth + 1) manner path s = some (r, s')) : s.Nests s' := by
  rcases Pipeline.dispatchAt_eq_some h with ⟨-, -, rfl⟩ | ⟨d, result, hd, -, hrun⟩
  · exact .refl _
  · obtain ⟨hmatch, -, hdepth⟩ := Pipeline.dispatcherAt?_eq_some hd
    rcases Dispatcher.dispatch_eq_some hrun with ⟨-, -, rfl⟩ | ⟨-, s₁, hinvoked, rfl⟩
    · exact .refl _
    · rw [hdepth] at hinvoked
      exact .leave (hinv hmatch (hn.deeper manner _) hinvoked)

/-- A program that only dispatches further, in surroundings whose invocations are nested. -/
theorem Invoke.Nests.run (hinv : invoke.Nests p around) (hn : Nested around depth)
    {program : Program ε} (hp : program.NeverServes) {r : Except Failure Unit}
    (h : program.run (p.surroundings invoke depth) s = some (r, s')) : s.Nests s' := by
  induction program generalizing s with
  | finish =>
    cases h
    exact .refl _
  | fail failure =>
    cases h
    exact .refl _
  | note event next ih =>
    have hnote : s.Nests (s.add (.noted event)) := ⟨[.noted event], rfl, by simp⟩
    exact hnote.trans (ih hp h)
  | recollect next ih => exact ih _ (hp _) h
  | look next ih => exact ih _ _ (hp _ _) h
  | request step next ih =>
    have hstep : s.Nests { s with chain := (s.chain.step step).2 } := .refl s
    exact hstep.trans (ih _ (hp _) h)
  | respond step next ih =>
    have hstep : s.Nests { s with outlet := (s.outlet.step step).2 } := .refl s
    exact hstep.trans (ih _ (hp _) h)
  | find path next ih => exact ih _ (hp _) h
  | dispatch manner path next ih =>
    simp only [Program.run] at h
    split at h
    · cases h
    next reply s₁ hd => exact (hinv.dispatchAt hn hd).trans (ih _ (hp _) h)
  | serve next ih => exact hp.elim

/-- Invocations are nested as deep as they are told, however deep that may be. -/
theorem Pipeline.nests (hp : p.NeverServes) (limit : Nat) (around : List Dispatched) :
    (p.invoke limit around).Nests p around := by
  induction limit generalizing around with
  | zero =>
    intro d path dispatched depth s r s' _ _ h
    cases h
  | succ n ih =>
    intro d path dispatched depth s r s' hmatch hn h
    obtain ⟨n', result, he, -, hrun⟩ := invoke_eq_some h
    cases he
    have hentered : s.Nests (s.add (.invoked (invocation d dispatched around depth s))) := by
      refine ⟨_, rfl, fun i hi => ?_⟩
      cases List.mem_singleton.1 hi
      exact hn
    have hinside := (ih (dispatched :: around)).run hn (hp d (mem_of_firstMatch? hmatch) _) hrun
    exact hentered.trans hinside

theorem Pipeline.serve_nests (hp : p.NeverServes) {limit : Nat} {r : Except DispatchError Bool}
    (h : p.serve limit s = some (r, s')) : s.Nests s' := by
  rcases serveWith_eq_some h with ⟨-, -, rfl⟩ | ⟨d, path, result, s₁, hd, hrun, -, rfl⟩
  · exact .refl _
  · exact .leave (nests hp limit [] (serving?_eq_some hd) (.request _) hrun)

end Nests
end RequestDispatch
