import RequestDispatch.Proofs.Dispatch.Machine

/-! Who invokes handlers.

At every moment of a run the program at work is one that the handler of the innermost dispatch has come to,
and whatever its caller goes on with is one that the caller's handler has come to, and so on outwards
(`Program.Within`). A step of the machine records an invocation only where the program at work asks for one
(`Pipeline.invocations_next?`). So whatever is invoked in the course of an invocation is invoked by a handler
that has been invoked itself and has not finished (`Pipeline.Goes.exists_caller`). -/
namespace RequestDispatch
variable {ε : Type}

namespace Program

/-- What a program may have come to after some of its steps. -/
def Reaches : Program ε → Program ε → Prop := Relation.ReflTransGen Continues

/-- A program that asks for a handler to be invoked in a kind of dispatch. -/
inductive Asks : Program ε → DispatchKind → Prop
  | dispatch (manner : Manner) (path : String) (next) : Asks (.dispatch manner path next) manner.kind
  | serve (next) : Asks (.serve next) .request

/-- A program that is done has nothing to come to and asks for nothing. -/
theorem not_asks_of_reaches {result : Except Failure Unit} {program : Program ε} {kind : DispatchKind}
    (h : (done result).Reaches program) : ¬ program.Asks kind := by
  rcases Relation.ReflTransGen.cases_head h with rfl | ⟨next, hnext, -⟩
  · cases result <;> exact nofun
  · cases result <;> cases hnext

end Program

namespace Pending

def situation (d : Pending ε) : Situation := ⟨d.definition.name, d.dispatched.kind, d.depth⟩

/-- What the handler does from the start. -/
def program (d : Pending ε) : Program ε := d.definition.handler.content.service d.situation

end Pending

/-- Inside some dispatches, innermost first, a program that the innermost handler has come to. Its caller,
whatever it goes on with, is in the same position. Outside all dispatches, a program that `host` has
come to. -/
inductive Program.Within (host : Program ε) : List (Pending ε) → Program ε → Prop
  | outside {program} (h : host.Reaches program) : Within host [] program
  | inside {d stack program} (h : d.program.Reaches program)
    (caller : ∀ result, Within host stack (d.next result)) : Within host (d :: stack) program

theorem Program.Within.continues {host program next : Program ε} {stack : List (Pending ε)}
    (h : Within host stack program) (hnext : program.Continues next) : Within host stack next := by
  cases h with
  | outside h => exact .outside (h.tail hnext)
  | inside h caller => exact .inside (h.tail hnext) caller

namespace Session
variable (s : Session ε)

theorem invocations_add_invoked (i : Invocation) : (s.add (.invoked i)).invocations = s.invocations ++ [i] := by
  simp [add, invocations]

theorem invocations_add_noted (event : ε) : (s.add (.noted event)).invocations = s.invocations := by
  simp [add, invocations]

end Session

theorem Moment.invocations_invoked (stack : List (Pending ε)) (s : Session ε) (d : Definition (Handler ε))
    (dispatched : Dispatched) (depth : Nat) (next : Except DispatchError Unit → Program ε) :
    (invoked stack s d dispatched depth next).session.invocations = s.invocations ++
      [Pipeline.invocation d dispatched (stack.map (·.dispatched)) depth (s.enter dispatched)] :=
  Session.invocations_add_invoked ..

/-- Whatever is invoked is recorded. -/
theorem Moment.recorded_invoked (stack : List (Pending ε)) (s : Session ε) (d : Definition (Handler ε))
    (dispatched : Dispatched) (depth : Nat) (next : Except DispatchError Unit → Program ε) :
    ∃ i ∈ (invoked stack s d dispatched depth next).session.invocations,
      i.situation = ⟨d.name, dispatched.kind, depth⟩ := by
  refine ⟨Pipeline.invocation d dispatched (stack.map (·.dispatched)) depth (s.enter dispatched), ?_, rfl⟩
  rw [invocations_invoked]
  exact List.mem_append_right _ (List.mem_singleton_self _)

/-- All dispatches under way were recorded when they were entered, and no program is at work or waiting
but those of their handlers and `host`. -/
structure Moment.Accounted (host : Program ε) (m : Moment ε) : Prop where
  within : Program.Within host m.stack m.program
  recorded : ∀ d ∈ m.stack, ∃ i ∈ m.session.invocations, i.situation = d.situation

namespace Pipeline
variable {p : Pipeline ε} {host : Program ε} {m m' : Moment ε}

/-- What a step of the machine adds to the record of invocations: nothing, or one that the program at work
asks for. -/
theorem invocations_next? (h : p.next? m = some m') :
    m'.session.invocations = m.session.invocations ∨
      ∃ i, m'.session.invocations = m.session.invocations ++ [i] ∧ m.program.Asks i.situation.kind := by
  obtain ⟨program, stack, s⟩ := m
  cases program with
  | finish | fail =>
    obtain ⟨d, -, -, -, -, hsession⟩ := Moment.leave?_eq_some h
    exact .inl (congrArg (fun s => s.invocations) hsession)
  | note event next =>
    cases h
    exact .inl (s.invocations_add_noted event)
  | dispatch manner path next =>
    simp only [next?] at h
    split at h
    · cases h
      exact .inl rfl
    · split at h
      · cases h
        exact .inl rfl
      · cases h
        exact .inr ⟨_, Moment.invocations_invoked .., .dispatch manner path next⟩
  | serve next =>
    simp only [next?] at h
    split at h
    · cases h
      exact .inl rfl
    · cases h
      exact .inr ⟨_, Moment.invocations_invoked .., .serve next⟩
  | _ =>
    cases h
    exact .inl rfl

theorem accounted_next? (hm : m.Accounted host) (h : p.next? m = some m') : m'.Accounted host := by
  have hkept : ∀ i ∈ m.session.invocations, i ∈ m'.session.invocations := by
    rcases invocations_next? h with he | ⟨i, he, -⟩ <;> rw [he]
    · exact fun _ => id
    · exact fun _ => List.mem_append_left _
  have hrecorded : ∀ d ∈ m.stack, ∃ i ∈ m'.session.invocations, i.situation = d.situation := fun d hd =>
    let ⟨i, hi, hsituation⟩ := hm.recorded d hd
    ⟨i, hkept i hi, hsituation⟩
  rcases next?_eq_some h with ⟨result, hleave⟩ | ⟨_, d, dispatched, depth, next, rfl, -, hnext, -⟩ |
    ⟨hnext, hstack, -⟩
  · obtain ⟨d, stack, hstack, hstack', hprogram, -⟩ := Moment.leave?_eq_some hleave
    have hwithin := hm.within
    rw [hstack] at hwithin hrecorded
    cases hwithin with
    | inside _ caller =>
      exact ⟨hstack' ▸ hprogram ▸ caller _, hstack' ▸ (List.forall_mem_cons.1 hrecorded).2⟩
  · refine ⟨.inside .refl fun result => hm.within.continues (hnext result), ?_⟩
    exact List.forall_mem_cons.2 ⟨Moment.recorded_invoked .., hrecorded⟩
  · exact ⟨hstack ▸ hm.within.continues hnext, hstack ▸ hrecorded⟩

/-- A handler that has been invoked and has not finished invokes another, by a forward, by an inclusion or
by having the request served anew. -/
structure Invokes (p : Pipeline ε) (m : Moment ε) (caller : Pending ε) (i : Invocation) : Prop where
  innermost : m.stack.head? = some caller
  recorded : ∃ i ∈ m.session.invocations, i.situation = caller.situation
  atWork : caller.program.Reaches m.program
  asks : m.program.Asks i.situation.kind
  invoked : ∃ m', p.next? m = some m' ∧ m'.session.invocations = m.session.invocations ++ [i]

/-- Where the program outside all dispatches is done, whatever asks for an invocation is a handler. -/
theorem Invokes.of_next? {result : Except Failure Unit} {i : Invocation}
    (hm : m.Accounted (.done result)) (h : p.next? m = some m')
    (hi : m'.session.invocations = m.session.invocations ++ [i]) (hasks : m.program.Asks i.situation.kind) :
    ∃ caller, p.Invokes m caller i := by
  obtain ⟨program, stack, s⟩ := m
  cases hm.within with
  | outside hreaches => exact absurd hasks (Program.not_asks_of_reaches hreaches)
  | @inside d stack _ hreaches _ =>
    exact ⟨d, rfl, hm.recorded d List.mem_cons_self, hreaches, hasks, m', h, hi⟩

/-- Along a run the record of invocations is added to, and each that is added is made by a handler. -/
theorem Goes.exists_caller {result : Except Failure Unit} (h : p.Goes m m')
    (hm : m.Accounted (.done result)) :
    ∃ rest, m'.session.invocations = m.session.invocations ++ rest ∧
      ∀ before i after, rest = before ++ i :: after → ∃ m₁ caller, p.Goes m m₁ ∧ p.Goes m₁ m' ∧
        m₁.session.invocations = m.session.invocations ++ before ∧ p.Invokes m₁ caller i := by
  -- By induction from the end, so that the first step decides what comes first.
  induction h using Relation.ReflTransGen.head_induction_on with
  | refl => exact ⟨[], (List.append_nil _).symm, fun before i after he => by cases before <;> cases he⟩
  | @head m m₂ hnext hgoes ih =>
    obtain ⟨rest, hrest, hcallers⟩ := ih (accounted_next? hm hnext)
    rcases invocations_next? hnext with hsame | ⟨i, hi, hasks⟩
    · rw [hsame] at hrest hcallers
      refine ⟨rest, hrest, fun before i after he => ?_⟩
      obtain ⟨m₁, caller, hto, hfrom, hbefore, hinvokes⟩ := hcallers before i after he
      exact ⟨m₁, caller, .step hnext hto, hfrom, hbefore, hinvokes⟩
    · rw [hi] at hrest hcallers
      refine ⟨i :: rest, by rw [hrest, List.append_assoc, List.singleton_append], ?_⟩
      intro before i' after he
      cases before with
      | nil =>
        obtain ⟨rfl, -⟩ := List.cons.inj he
        obtain ⟨caller, hinvokes⟩ := Invokes.of_next? hm hnext hi hasks
        exact ⟨m, caller, .refl m, .step hnext hgoes, (List.append_nil _).symm, hinvokes⟩
      | cons _ before =>
        obtain ⟨rfl, hrest'⟩ := List.cons.inj he
        obtain ⟨m₁, caller, hto, hfrom, hbefore, hinvokes⟩ := hcallers before i' after hrest'
        refine ⟨m₁, caller, .step hnext hto, hfrom, ?_, hinvokes⟩
        rw [hbefore, List.append_assoc, List.singleton_append]

/-! ### Serving a request -/

/-- The moment at which the handler of a mapping has been invoked for the session's request. -/
def served (s : Session ε) (d : Definition (Handler ε)) (t : Target) : Moment ε :=
  .invoked [] s d ⟨.request, t⟩ 0 fun _ => .finish

/-- Serving the session's request is to run the handler of one mapping. Whatever else is invoked is invoked
in the course of that. -/
structure ServedBy (p : Pipeline ε) (s : Session ε) (d : Definition (Handler ε)) (t : Target) : Prop where
  /-- The request is served if the handler does its work. If it fails, so does serving the request. -/
  returns : ∀ limit, p.serve (limit + 1) s =
    ((d.handler.content.service ⟨d.name, .request, 0⟩).run
      (p.surroundings (p.invoke limit [⟨.request, t⟩]) 0) (served s d t).session).map fun (result, s') =>
        (match result with
          | .ok () => .ok true
          | .error failure => .error (.handler d.name failure),
        s.leave ⟨.request, t⟩ s')
  /-- The handler is invoked first, and all others by handlers that have been invoked before and have not
  finished. -/
  invokes : ∀ limit r s', p.serve limit s = some (r, s') → ∃ i rest,
    s'.invocations = s.invocations ++ i :: rest ∧
    i.situation = ⟨d.name, .request, 0⟩ ∧ i.pattern = d.pattern ∧ i.target = t ∧
    ∀ before i' after, rest = before ++ i' :: after → ∃ m caller,
      p.Goes (served s d t) m ∧ p.Goes m ⟨.finish, [], s'⟩ ∧
      m.session.invocations = s.invocations ++ i :: before ∧ p.Invokes m caller i'

theorem accounted_served (s : Session ε) (d : Definition (Handler ε)) (t : Target) :
    (served s d t).Accounted (.done (.ok ())) where
  within := .inside .refl fun _ => .outside .refl
  recorded := List.forall_mem_cons.2 ⟨Moment.recorded_invoked .., List.forall_mem_nil _⟩

section Serving
variable {s s' : Session ε} {d : Definition (Handler ε)} {path : String}

/-- To serve a request is to run the handler of the mapping that is found. -/
theorem serve_of_serving? (h : p.serving? s.chain.view = some (d, path)) {t : Target}
    (ht : d.target path s.chain.view.contextPath = t) (limit : Nat) :
    p.serve (limit + 1) s = ((d.handler.content.service ⟨d.name, .request, 0⟩).run
      (p.surroundings (p.invoke limit [⟨.request, t⟩]) 0) (served s d t).session).map fun (result, s') =>
        (match result with
          | .ok () => .ok true
          | .error failure => .error (.handler d.name failure),
        s.leave ⟨.request, t⟩ s') := by
  have hentered : (s.enter ⟨.request, t⟩).add (.invoked ⟨⟨d.name, .request, 0⟩, d.pattern, t, [],
      (s.enter ⟨.request, t⟩).chain, (s.enter ⟨.request, t⟩).outlet⟩) = (served s d t).session := rfl
  rw [serve, serveWith_of_some h ht, invoke]
  simp only [hentered]
  cases (d.handler.content.service ⟨d.name, .request, 0⟩).run
      (p.surroundings (p.invoke limit [⟨.request, t⟩]) 0) (served s d t).session with
  | none => rfl
  | some outcome =>
    obtain ⟨result, s'⟩ := outcome
    cases result <;> rfl

/-- What serving a request comes to, the machine comes to from the first invocation on. -/
theorem goes_of_served (h : p.serving? s.chain.view = some (d, path)) {limit : Nat}
    {r : Except DispatchError Bool} (hserve : p.serve limit s = some (r, s')) :
    p.Goes (served s d (d.target path s.chain.view.contextPath)) ⟨.finish, [], s'⟩ := by
  have hfirst : p.next? ⟨.serve fun _ => .finish, [], s⟩ =
      some (served s d (d.target path s.chain.view.contextPath)) := by
    simp only [next?, h]
    rfl
  rcases Relation.ReflTransGen.cases_head (goes_of_serve hserve fun _ => .finish) with he | ⟨m, hm, hgoes⟩
  · cases he
  · rw [hfirst] at hm
    cases hm
    exact hgoes

/-- A mapping that is found for the session's request serves it. -/
theorem servedBy_of_serving? (h : p.serving? s.chain.view = some (d, path)) :
    p.ServedBy s d (d.target path s.chain.view.contextPath) := by
  refine ⟨serve_of_serving? h rfl, fun limit r s' hserve => ?_⟩
  obtain ⟨rest, hrest, hcallers⟩ := (goes_of_served h hserve).exists_caller (accounted_served s d _)
  rw [served, Moment.invocations_invoked, List.append_assoc, List.singleton_append] at hrest
  refine ⟨_, rest, hrest, rfl, rfl, rfl, fun before i' after he => ?_⟩
  obtain ⟨m, caller, hto, hfrom, hbefore, hinvokes⟩ := hcallers before i' after he
  refine ⟨m, caller, hto, hfrom, ?_, hinvokes⟩
  rw [hbefore, served, Moment.invocations_invoked, List.append_assoc, List.singleton_append]

end Serving
end Pipeline
end RequestDispatch
