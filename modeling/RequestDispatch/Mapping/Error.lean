import RequestDispatch.Mapping.Pattern

/-! Mappings that are refused.

A mapping is refused if its pattern is none or if nobody knows its handler. The error
names the pattern as it was written. -/
namespace RequestDispatch

inductive MappingError.Cause where
  | pattern (e : PatternError)
  | unknownHandler (name : String)
  deriving DecidableEq, Repr

def MappingError.Cause.reason : MappingError.Cause → String
  | pattern e => e.reason
  | unknownHandler name => "unknown handler '" ++ name ++ "'"

structure MappingError where
  pattern : String
  cause : MappingError.Cause
  deriving DecidableEq, Repr

def MappingError.message (e : MappingError) : String :=
  "invalid handler mapping '" ++ e.pattern ++ "': " ++ e.cause.reason

/-- The pattern a text writes in a style. -/
def Pattern.ofText? (s : String) (style : PatternStyle) : Except MappingError Pattern :=
  (read? s style).mapError fun e => ⟨s, .pattern e⟩

end RequestDispatch
