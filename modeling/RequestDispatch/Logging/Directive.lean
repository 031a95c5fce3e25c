import RequestDispatch.Logging.FieldMatch
import RequestDispatch.Logging.Level
import RequestDispatch.Text.Blank
import RequestDispatch.Unicode.Word

/-! Filter directives.

A directive says from which level on events are written: all events, or those of a
target, within a span or within a span that has a field. A filter is a list of
directives with commas between them. -/
namespace RequestDispatch

structure Directive where
  target : Option String
  span : Option String
  field : Option FieldMatch
  level : LogLevel
  deriving DecidableEq, Repr

namespace Directive

/-! ### Reading -/

/-- What a level is written as behind its equals sign. Nothing stands for all events. -/
def level? : List Char → Option LogLevel
  | [] => some .trace
  | s => LogLevel.ofText? s

/-- What may follow a span: nothing, or a level. -/
def afterSpan? (d : Directive) : List Char → Option Directive
  | [] => some d
  | '=' :: rest => (level? rest).map fun level => { d with level }
  | _ => none

/-- What may follow a field: nothing, or the end of its span. -/
def afterField? (d : Directive) : List Char → Option Directive
  | [] => some d
  | ']' :: rest => d.afterSpan? rest
  | _ => none

/-- A field behind its brace. One that is not closed does not count. -/
def field? (d : Directive) (s : List Char) : Option Directive :=
  match s.takeWhile (· ≠ '}'), s.dropWhile (· ≠ '}') with
  | _, [] => some d
  | [], _ => none
  | field, _ :: rest => do
    let field ← FieldMatch.ofText? field
    afterField? { d with field := some field } rest

/-- A span behind its bracket. One that is not closed does not count. -/
def span? (target : Option String) (s : List Char) : Option Directive :=
  let ends := fun (c : Char) => c = ']' ∨ c = '{'
  let name := s.takeWhile (¬ ends ·)
  let d : Directive := ⟨target, none, none, .trace⟩
  match s.dropWhile (¬ ends ·) with
  | [] => some d
  | '{' :: rest =>
    field? { d with span := if name.isEmpty then none else some (String.ofList name) } rest
  | _ :: rest => afterSpan? { d with span := some (String.ofList name) } rest

/-- A single word: a level, or else a target of which all events are wanted. -/
def ofWord (s : List Char) : Directive :=
  match LogLevel.ofText? s with
  | some level => ⟨none, none, none, level⟩
  | none => ⟨some (String.ofList s), none, none, .trace⟩

/-- The characters a directive without a bracket may begin with. -/
def begins (c : Char) : Bool := c = '-' || c = ':' || c = '_' || Unicode.isAlphanumeric c

/-- The directive that a text without commas and without blanks around it writes. -/
def ofText? (s : List Char) : Option Directive :=
  let ends := fun (c : Char) => c = '=' ∨ c = '['
  match s with
  | '[' :: rest => span? none rest
  | s =>
    if !s.head?.any begins then none
    else
      let target := String.ofList (s.takeWhile (¬ ends ·))
      match s.dropWhile (¬ ends ·) with
      | [] => some (ofWord s)
      | '[' :: rest => span? (some target) rest
      | _ :: rest => (level? rest).map fun level => ⟨some target, none, none, level⟩

/-- The parts of a text between commas. -/
def entries : List Char → List (List Char)
  | [] => [[]]
  | c :: rest =>
    match entries rest with
    | [] => [[c]]
    | e :: es => if c = ',' then [] :: e :: es else (c :: e) :: es

/-- The directives of a filter, and those of its entries that are none. Blank entries do
not count. -/
def ofFilter (filter : String) : List Directive × List String :=
  let entries := ((entries filter.toList).map Text.trim).filter (!·.isEmpty)
  (entries.filterMap ofText?,
    (entries.filter fun e => (ofText? e).isNone).map String.ofList)

/-! ### Writing -/

/-- The span and the field, in their brackets. -/
def spanText (d : Directive) : String :=
  let field := match d.field with
    | some f => "\x7b" ++ f.text ++ "\x7d"
    | none => ""
  if d.span.isNone && d.field.isNone then "" else "[" ++ d.span.getD "" ++ field ++ "]"

/-- The directive as it is written in full. A level alone stands for itself. -/
def text (d : Directive) : String :=
  let events := d.target.getD "" ++ d.spanText
  if d.target.isNone && d.span.isNone && d.field.isNone then d.level.name
  else events ++ "=" ++ d.level.name

end Directive
end RequestDispatch
