import RequestDispatch.Regex.Meaning
import RequestDispatch.Regex.Search
import RequestDispatch.Text.Cut

/-! Path patterns.

A mapping says which paths it serves by a pattern: one path, all paths beneath a root,
all paths with an ending, or a regular expression for the whole path. The first three
are written in one notation, `/path`, `/root/*` and `*.ending`, which `Pattern.servlet?`
reads and `Pattern.text` writes. -/
namespace RequestDispatch

/-- The notation a pattern is written in. -/
inductive PatternStyle where
  | servlet
  | regex
  deriving DecidableEq, Repr, Inhabited

namespace PatternStyle

def name : PatternStyle → String
  | servlet => "servlet"
  | regex => "regex"

def ofName? (name : String) : Option PatternStyle := [servlet, regex].find? (·.name = name)

end PatternStyle

inductive Pattern where
  | literal (path : String)
  | beneath (root : String)
  | suffix (ending : String)
  | regex (source : String) (program : Regex)
  deriving DecidableEq, Repr

/-- Why a text is no pattern. -/
inductive PatternError where
  | extensionForm
  | extensionMark
  | starBeforeRoot
  | rootForm
  | starMisplaced
  | literalForm
  | notRegular (cause : Regex.Error)
  deriving DecidableEq, Repr

def PatternError.reason : PatternError → String
  | extensionForm => "extension mappings must look like '*.ext'"
  | extensionMark => "extension mappings cannot contain '/' or a second '*'"
  | starBeforeRoot => "'*' is only allowed as a trailing '/*'"
  | rootForm => "prefix mappings must start with '/'"
  | starMisplaced => "'*' is only allowed as '*.ext' or a trailing '/*'"
  | literalForm => "literal mappings must start with '/'"
  | notRegular _ => "regex"

namespace Pattern

/-- Empty, or a text that begins with a slash. -/
def isRooted (s : String) : Bool := s = "" || Text.beginsWith '/' s

/-- The ending behind the star of `*.ending`. -/
def ending? (ending : String) : Except PatternError Pattern :=
  if !Text.beginsWith '.' ending || ending.toList.length < 2 then .error .extensionForm
  else if Text.contains '/' ending || Text.contains '*' ending then .error .extensionMark
  else .ok (.suffix ending)

/-- The root before the end of `/root/*`. -/
def beneath? (root : String) : Except PatternError Pattern :=
  if Text.contains '*' root then .error .starBeforeRoot
  else if !isRooted root then .error .rootForm
  else .ok (.beneath root)

def literal? (path : String) : Except PatternError Pattern :=
  if Text.contains '*' path then .error .starMisplaced
  else if !isRooted path then .error .literalForm
  else .ok (.literal path)

/-- A pattern in the notation with stars. -/
def servlet? (s : String) : Except PatternError Pattern :=
  match Text.after? "*" s with
  | some ending => ending? ending
  | none => match Text.before? "/*" s with
    | some root => beneath? root
    | none => literal? s

/-- The expression that is searched for: the written one, tied to both ends of the path. -/
def anchored (source : String) : String := "^(?:" ++ source ++ ")$"

/-- A pattern written as a regular expression. -/
def regex? (source : String) : Except PatternError Pattern :=
  match Regex.ofText? (anchored source) with
  | .ok program => .ok (.regex source program)
  | .error cause => .error (.notRegular cause)

def read? (s : String) : PatternStyle → Except PatternError Pattern
  | .servlet => servlet? s
  | .regex => regex? s

def style : Pattern → PatternStyle
  | literal _ | beneath _ | suffix _ => .servlet
  | regex _ _ => .regex

/-- The pattern as it is written. -/
def text : Pattern → String
  | literal path => path
  | beneath root => root ++ "/*"
  | suffix ending => "*" ++ ending
  | regex source _ => source

/-- Whether the pattern serves a path. -/
def serves (path : String) : Pattern → Bool
  | literal p => p = path
  | beneath root => path = root || (Text.after? root path).any (Text.beginsWith '/')
  | suffix ending => Text.endsIn ending path
  | regex _ program => program.isMatch path

/-- The part of a path that a match accounts for. A regular expression accounts for the
whole path, whatever it is. -/
def matchedPart? (path : String) : Pattern → Option String
  | beneath root => some root
  | literal _ | suffix _ => some path
  | regex _ _ => none

end Pattern
end RequestDispatch
