import RequestDispatch.Chain.Dispatch

/-! Steps on chains: all that can be done to a chain, as data, with what each step
answers. -/
namespace RequestDispatch.Chain
variable {β : Type}

inductive Step where
  | write (w : Write)
  | decorate (d : Decorator)
  | forward (t : Target) (recordOrigin : Bool)
  | unforward (outcome : ForwardOutcome)
  | includeTarget (t : Target)
  | uninclude (uri : String)

inductive Reply where
  | done
  | forwarded (outcome : ForwardOutcome)
  /-- Whether there was something to undo. -/
  | undone (found : Bool)
  deriving DecidableEq, Repr

variable [Underlying β]

/-- One step. A step that finds nothing to undo changes nothing. -/
def step (c : Chain β) : Step → Reply × Chain β
  | .write w => (.done, c.write w)
  | .decorate d => (.done, c.decorate d)
  | .forward t recordOrigin =>
    let (outcome, c) := c.forward t recordOrigin
    (.forwarded outcome, c)
  | .unforward outcome =>
    match c.unforward? outcome with
    | some c => (.undone true, c)
    | none => (.undone false, c)
  | .includeTarget t => (.done, c.includeTarget t)
  | .uninclude uri =>
    match c.uninclude? uri with
    | some c => (.undone true, c)
    | none => (.undone false, c)

/-- The chain after a list of steps. -/
def run (c : Chain β) (steps : List Step) : Chain β := steps.foldl (fun c s => (c.step s).2) c

end RequestDispatch.Chain
