import RequestDispatch.Decimal.Natural
import RequestDispatch.Request.Token

/-! Levels of events. A level lets through the events of its own kind and of those before
it. Levels are written by name, in any case, or by number. -/
namespace RequestDispatch

inductive LogLevel where
  | off
  | error
  | warn
  | info
  | debug
  | trace
  deriving DecidableEq, Repr

namespace LogLevel

def all : List LogLevel := [off, error, warn, info, debug, trace]

def name : LogLevel → String
  | off => "off"
  | error => "error"
  | warn => "warn"
  | info => "info"
  | debug => "debug"
  | trace => "trace"

def ofText? (s : List Char) : Option LogLevel :=
  match Decimal.natural? s with
  | some n => all[n]?
  | none => all.find? (·.name.toList = s.map Http.lowerChar)

end LogLevel
end RequestDispatch
