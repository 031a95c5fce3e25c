import RequestDispatch.Dictionary
import RequestDispatch.Handler.Program

/-! Handlers and what they are set up with.

A handler is set up once with its configuration, works on any number of requests and is
taken down once. Several mappings may share one instance, which is told apart from all
others by its number. -/
namespace RequestDispatch

/-- The parameters of handlers and applications. -/
abbrev Params := Dictionary String

/-- What all handlers of an application share. -/
structure AppContext where
  contextPath : String
  initParams : Params
  deriving DecidableEq, Inhabited

/-- What a handler is set up with. -/
structure HandlerConfig where
  name : String
  initParams : Params
  context : AppContext
  deriving DecidableEq, Inhabited

structure Handler (ε : Type) where
  init : HandlerConfig → Except Failure Unit := fun _ => .ok ()
  service : Situation → Program ε
  destroy : Except Failure Unit := .ok ()

/-- Something of type `η` with a number of its own. -/
structure Instance (η : Type) where
  number : Nat
  content : η

end RequestDispatch
