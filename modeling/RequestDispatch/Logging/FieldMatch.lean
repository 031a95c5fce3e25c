import RequestDispatch.Decimal.Real
import RequestDispatch.Regex.Meaning
import RequestDispatch.Text.Cut

/-! Fields that a directive asks for.

A directive may ask that a span has a field, perhaps with a value: a truth value, a
number, or any text that a regular expression matches. Such an expression is matched
without looking around, so it may only ask for edges of words in ASCII. -/
namespace RequestDispatch

inductive FieldValue where
  | flag (b : Bool)
  | whole (n : Int)
  | real (x : Decimal.Real)
  | pattern (source : String)
  deriving DecidableEq, Repr

/-- Whether an expression asks for edges of words beyond ASCII. -/
def Regex.asksForWords : Regex → Bool
  | .assertion (.word _ ascii) => !ascii
  | .empty | .set _ | .assertion _ => false
  | .seq r s | .alt r s => r.asksForWords || s.asksForWords
  | .times r _ _ => r.asksForWords

namespace FieldValue

/-- A whole number that fits 64 bits, with a sign or without. -/
def wholeNumber? (s : List Char) : Option Int :=
  (Decimal.Real.integer? s).filter fun n => -Nat.pow 2 63 ≤ n ∧ n < Nat.pow 2 64

def pattern? (s : List Char) : Option FieldValue :=
  match Regex.ofText? (String.ofList s) with
  | .ok r => if r.asksForWords then none else some (.pattern (String.ofList s))
  | .error _ => none

def ofText? (s : List Char) : Option FieldValue :=
  if s = "true".toList then some (.flag true)
  else if s = "false".toList then some (.flag false)
  else match wholeNumber? s, Decimal.Real.ofText? s with
    | some n, _ => some (.whole n)
    | none, some x => some (.real x)
    | none, none => pattern? s

def text : FieldValue → String
  | flag true => "true"
  | flag false => "false"
  | whole n => toString n
  | real x => x.text
  | pattern source => source

end FieldValue

structure FieldMatch where
  name : String
  value : Option FieldValue
  deriving DecidableEq, Repr

namespace FieldMatch

/-- A name, perhaps with a value behind an equals sign. What follows a second one does not
count. -/
def ofText? (s : List Char) : Option FieldMatch :=
  let name := String.ofList (s.takeWhile (· ≠ '='))
  match s.dropWhile (· ≠ '=') with
  | [] => some ⟨name, none⟩
  | _ :: rest => (FieldValue.ofText? (rest.takeWhile (· ≠ '='))).map fun v => ⟨name, some v⟩

def text (f : FieldMatch) : String :=
  match f.value with
  | some v => f.name ++ "=" ++ v.text
  | none => f.name

end FieldMatch
end RequestDispatch
