import RequestDispatch.Environment
import RequestDispatch.Request.Token

/-! Settings of the log. They come from the environment, or from one of two fixed sets. -/
namespace RequestDispatch

inductive LogFormat where
  | json
  | pretty
  deriving DecidableEq, Repr

namespace LogFormat

def name : LogFormat → String
  | json => "json"
  | pretty => "pretty"

/-- The format of a name, in whatever case. A name that is not known is as good as `json`.
No letter beyond ASCII has a letter of the names for its small form. -/
def ofName (name : String) : LogFormat := if Http.lower name = "pretty" then pretty else json

end LogFormat

structure LogSettings where
  level : String
  format : LogFormat
  /-- Whether events are written in the background. -/
  background : Bool
  /-- Further filter directives. -/
  filter : Option String
  /-- Whether events tell where in the program they come from. -/
  locations : Bool
  deriving DecidableEq, Repr

namespace LogSettings

def development : LogSettings := ⟨"debug", .pretty, false, none, true⟩

def production : LogSettings := ⟨"info", .json, true, none, false⟩

/-- Whether a variable is `true`, as it is written. -/
def flag (e : Environment) (name : String) : Bool := e.get? name = some "true"

def ofEnvironment (e : Environment) : LogSettings where
  level := (e.get? "BRRTD_LOG_LEVEL").getD "info"
  format := .ofName ((e.get? "BRRTD_LOG_FORMAT").getD "json")
  background := flag e "BRRTD_LOG_ASYNC"
  filter := e.get? "BRRTD_LOG_TARGET_FILTER"
  locations := flag e "BRRTD_LOG_INCLUDE_LOCATION"

end LogSettings
end RequestDispatch
