import RequestDispatch.Dictionary
import RequestDispatch.Path.Context

/-! The environment.

A program is started in an environment, which gives values to variables. A variable that
is not there is not the same as an empty one. -/
namespace RequestDispatch

abbrev Environment := Dictionary String

namespace Environment

/-! ### Variables -/

def configVariable : String := "BRRTD_CONFIG"

def contextPathVariable : String := "BRRTD_CONTEXT_PATH"

/-- The variables that inspection reads. -/
def inspected : List String := [configVariable, contextPathVariable]

/-! ### What they say -/

/-- The mapping file to read where none is named. -/
def config? (e : Environment) : Option String := e.get? configVariable

/-- The context path that counts instead of a mapping file's own. -/
def contextPath? (e : Environment) : Option String :=
  (e.get? contextPathVariable).map Path.normalize

end Environment
end RequestDispatch
