import RequestDispatch.Handler.Basic
import RequestDispatch.Mapping.Target

/-! Registries.

A registry lists mappings from patterns to handlers. The first mapping in the list whose
pattern serves a path is the one that counts. What a handler is does not matter here:
it is of some type `η`. -/
namespace RequestDispatch

inductive HandlerState where
  | uninitialized
  | initialized
  | destroyed
  deriving DecidableEq, Repr

def HandlerState.name : HandlerState → String
  | uninitialized => "uninitialized"
  | initialized => "initialized"
  | destroyed => "destroyed"

/-- A mapping with the handler behind it. -/
structure Definition (η : Type) where
  pattern : Pattern
  name : String
  handler : Instance η
  initParams : Params
  state : HandlerState

namespace Definition
variable {η : Type}

def ofHandler (pattern : Pattern) (name : String) (handler : Instance η) (initParams : Params) :
    Definition η :=
  ⟨pattern, name, handler, initParams, .uninitialized⟩

def serves (d : Definition η) (path : String) : Bool := d.pattern.serves path

def target (d : Definition η) (path context : String) : Target := d.pattern.target path context

/-- What the handler is set up with under this mapping. -/
def config (d : Definition η) (context : AppContext) : HandlerConfig :=
  ⟨d.name, d.initParams, context⟩

end Definition

structure Registry (η : Type) where
  definitions : List (Definition η)

namespace Registry
variable {η : Type}

/-- The first mapping that serves a path. -/
def firstMatch? (r : Registry η) (path : String) : Option (Definition η) :=
  r.definitions.find? (·.serves path)

/-- The patterns and names of the mappings, in order. -/
def routes (r : Registry η) : List (String × String) :=
  r.definitions.map fun d => (d.pattern.text, d.name)

end Registry
end RequestDispatch
