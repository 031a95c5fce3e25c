import RequestDispatch.Registry.Basic

/-! The life of handlers.

Setting up a registry sets up each instance once, under the first mapping that has it,
and stops at the first failure. Taking it down takes down each instance once and goes on
after failures. How an attempt ends is up to the handlers; it is given as a function of
the mapping. Both report the attempts they made, in order. -/
namespace RequestDispatch.Registry
variable {η : Type}

/-- What setting up did. -/
structure Setup (η : Type) where
  definitions : List (Definition η)
  attempts : List (Definition η)
  /-- How many instances were set up. -/
  result : Except DispatchError Nat

/-- Sets up the instances of a list of mappings, except those already seen. -/
def setUpFrom (attempt : Definition η → Except Failure Unit) :
    (seen : List Nat) → List (Definition η) → Setup η
  | _, [] => ⟨[], [], .ok 0⟩
  | seen, d :: rest =>
    if d.handler.number ∈ seen then
      let s := setUpFrom attempt seen rest
      { s with definitions := { d with state := .initialized } :: s.definitions }
    else match attempt d with
      | .error f => ⟨d :: rest, [d], .error (.lifecycle d.name .init f)⟩
      | .ok () =>
        let s := setUpFrom attempt (d.handler.number :: seen) rest
        ⟨{ d with state := .initialized } :: s.definitions, d :: s.attempts,
          s.result.map (· + 1)⟩

/-- Sets up a registry: the registry afterwards, the attempts, and how many instances were
set up or what failed. -/
def setUp (r : Registry η) (attempt : Definition η → Except Failure Unit) :
    Registry η × List (Definition η) × Except DispatchError Nat :=
  let s := setUpFrom attempt [] r.definitions
  (⟨s.definitions⟩, s.attempts, s.result)

/-- What taking down did. -/
structure Teardown (η : Type) where
  definitions : List (Definition η)
  attempts : List (Definition η)
  failures : List DispatchError

/-- Takes down the instances of a list of mappings, except those already seen. -/
def takeDownFrom (attempt : Definition η → Except Failure Unit) :
    (seen : List Nat) → List (Definition η) → Teardown η
  | _, [] => ⟨[], [], []⟩
  | seen, d :: rest =>
    if d.handler.number ∈ seen then
      let t := takeDownFrom attempt seen rest
      { t with definitions := { d with state := .destroyed } :: t.definitions }
    else
      let t := takeDownFrom attempt (d.handler.number :: seen) rest
      ⟨{ d with state := .destroyed } :: t.definitions, d :: t.attempts, match attempt d with
        | .ok () => t.failures
        | .error f => .lifecycle d.name .destroy f :: t.failures⟩

/-- Takes down a registry: the registry afterwards, the attempts and the failures. -/
def takeDown (r : Registry η) (attempt : Definition η → Except Failure Unit) :
    Registry η × List (Definition η) × List DispatchError :=
  let t := takeDownFrom attempt [] r.definitions
  (⟨t.definitions⟩, t.attempts, t.failures)

end RequestDispatch.Registry
