/-! Failures.

A handler fails with a message of its own, which may have causes, or because a dispatch
it made failed. A dispatch fails because the response was committed, or because a
handler failed; the handler's failure is its cause. Each level of a nested failure
therefore shows once in `texts`, the text of the failure followed by those of its
causes. -/
namespace RequestDispatch

/-- When in its life a handler failed. -/
inductive LifecyclePhase where
  | init
  | destroy
  deriving DecidableEq, Repr

def LifecyclePhase.name : LifecyclePhase → String
  | init => "init"
  | destroy => "destroy"

mutual

/-- How a handler fails. -/
inductive Failure where
  | plain (message : String) (causes : List String)
  | dispatch (e : DispatchError)

/-- How a dispatch fails. -/
inductive DispatchError where
  | committed
  | handler (name : String) (source : Failure)
  | lifecycle (name : String) (phase : LifecyclePhase) (source : Failure)

end

mutual

def Failure.message : Failure → String
  | .plain message _ => message
  | .dispatch e => e.message

def DispatchError.message : DispatchError → String
  | .committed =>
    "dispatch precondition failed: response has been committed; forward is only allowed before committing the response"
  | .handler name source => "handler '" ++ name ++ "' failed: " ++ source.message
  | .lifecycle name phase source =>
    "handler '" ++ name ++ "' failed during " ++ phase.name ++ ": " ++ source.message

end

mutual

/-- The messages of the causes, from the nearest on. A dispatch that failed a handler has
the handler's message already, so only its own causes follow. -/
def Failure.causes : Failure → List String
  | .plain _ causes => causes
  | .dispatch e => e.causes

def DispatchError.causes : DispatchError → List String
  | .committed => []
  | .handler _ source | .lifecycle _ _ source => source.message :: source.causes

end

/-- The message of an error and those of its causes. -/
def DispatchError.texts (e : DispatchError) : List String := e.message :: e.causes

end RequestDispatch
