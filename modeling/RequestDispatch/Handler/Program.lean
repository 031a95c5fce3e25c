import RequestDispatch.Chain.Step
import RequestDispatch.Handler.Failure
import RequestDispatch.Response.Step

/-! What handlers do.

A handler's work on one request is a program: it looks at the request and the response,
takes steps on them, dispatches the request further and ends, well or with a failure.
What it does next may depend on each answer. `Situation` is what it knows from the
start. What handlers keep in mind from one invocation to the next they note, and recall
later. -/
namespace RequestDispatch

/-- How a handler came to be invoked. -/
inductive DispatchKind where
  | request
  | forward
  | inclusion
  deriving DecidableEq, Repr

def DispatchKind.name : DispatchKind → String
  | request => "request"
  | forward => "forward"
  | inclusion => "include"

/-- How a handler dispatches further. -/
inductive Manner where
  | forward
  | inclusion
  deriving DecidableEq, Repr

def Manner.kind : Manner → DispatchKind
  | forward => .forward
  | inclusion => .inclusion

/-- What a handler knows when it is invoked. -/
structure Situation where
  handlerName : String
  kind : DispatchKind
  /-- How many forwards and inclusions lie between the handler and the request. -/
  depth : Nat
  deriving DecidableEq, Repr

/-- What is found for a path: the name of the handler and the path without parameters. -/
structure Found where
  handlerName : String
  path : String
  deriving DecidableEq, Repr

/-- A handler's work. On the way it may note events of type `ε`. -/
inductive Program (ε : Type) where
  | finish
  | fail (failure : Failure)
  | note (event : ε) (next : Program ε)
  /-- Recalls the events noted so far, by whatever handler. -/
  | recollect (next : List ε → Program ε)
  | look (next : Chain Request → Outlet → Program ε)
  | request (step : Chain.Step) (next : Chain.Reply → Program ε)
  | respond (step : Response.Step) (next : Except WriteError Unit → Program ε)
  /-- Asks which handler a path leads to. -/
  | find (path : String) (next : Option Found → Program ε)
  /-- Dispatches to the handler that a path leads to, if there is one. -/
  | dispatch (manner : Manner) (path : String)
      (next : Option (Except DispatchError Unit) → Program ε)
  /-- Has the request served from the start. -/
  | serve (next : Except DispatchError Bool → Program ε)

/-- A program followed by another, unless it fails. -/
def Program.andThen {ε : Type} : Program ε → Program ε → Program ε
  | finish, rest => rest
  | fail failure, _ => fail failure
  | note event next, rest => note event (next.andThen rest)
  | recollect next, rest => recollect fun events => (next events).andThen rest
  | look next, rest => look fun c o => (next c o).andThen rest
  | request step next, rest => request step fun r => (next r).andThen rest
  | respond step next, rest => respond step fun r => (next r).andThen rest
  | find path next, rest => find path fun r => (next r).andThen rest
  | dispatch manner path next, rest => dispatch manner path fun r => (next r).andThen rest
  | serve next, rest => serve fun r => (next r).andThen rest

end RequestDispatch
