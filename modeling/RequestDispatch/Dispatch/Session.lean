import RequestDispatch.Registry.Basic

/-! Sessions.

A session is a request and a response on their way through an application, with a record
of what happened: the handlers that were invoked, each with the request and the response
as it found them, and the events that they noted. -/
namespace RequestDispatch

/-- A dispatch under way. -/
structure Dispatched where
  kind : DispatchKind
  target : Target
  deriving DecidableEq, Repr

/-- A handler being invoked. -/
structure Invocation where
  situation : Situation
  /-- The pattern of the mapping. -/
  pattern : Pattern
  target : Target
  /-- The dispatches under way around this one, innermost first. -/
  around : List Dispatched
  chain : Chain Request
  outlet : Outlet

inductive Event (ε : Type) where
  | invoked (i : Invocation)
  | noted (event : ε)

structure Session (ε : Type) where
  chain : Chain Request
  outlet : Outlet
  record : List (Event ε)

namespace Session
variable {ε : Type}

def add (s : Session ε) (event : Event ε) : Session ε := { s with record := s.record ++ [event] }

/-- The noted events, in order. -/
def notes (s : Session ε) : List ε :=
  s.record.filterMap fun
    | .noted event => some event
    | .invoked _ => none

/-- The invocations, in order. -/
def invocations (s : Session ε) : List Invocation :=
  s.record.filterMap fun
    | .invoked i => some i
    | .noted _ => none

end Session
end RequestDispatch
