import RequestDispatch.Regex.Syntax

/-! Searching.

The search follows all ways to match at once. Given the positions at which a match may
begin, `ends` gives the positions at which it may end, in ascending order and each once.
A repetition goes on from the positions it has not been at before, so no expression
makes the search take more steps than there are positions and expressions to pair. -/
namespace RequestDispatch.Regex

/-- Two ascending lists as one, each number once. -/
def mergeAscending : List Nat → List Nat → List Nat
  | [], ys => ys
  | xs, [] => xs
  | x :: xs, y :: ys =>
    if x < y then x :: mergeAscending xs (y :: ys)
    else if y < x then y :: mergeAscending (x :: xs) ys
    else x :: mergeAscending xs ys
termination_by xs ys => xs.length + ys.length

/-- The first of two ascending lists without the numbers of the second. -/
def without : List Nat → List Nat → List Nat
  | [], _ => []
  | xs, [] => xs
  | x :: xs, y :: ys =>
    if x < y then x :: without xs (y :: ys)
    else if y < x then without (x :: xs) ys
    else without xs ys
termination_by xs ys => xs.length + ys.length

/-- Exactly `n` steps. A step that changes nothing ends the walk, for further ones would
change nothing either. -/
def iterate (step : List Nat → List Nat) : Nat → List Nat → List Nat
  | 0, front => front
  | n + 1, front =>
    let next := step front
    if next = front then front else iterate step n next

/-- The positions reached in at most `n` steps. `seen` are those reached before, among
them `front`, from which the steps go on. -/
def closure (step : List Nat → List Nat) : Nat → (front seen : List Nat) → List Nat
  | 0, _, seen => seen
  | n + 1, front, seen =>
    let fresh := without (step front) seen
    if fresh = [] then seen else closure step n fresh (mergeAscending seen fresh)

/-- The position behind a character of the set. -/
def past? (text : Array Char) (s : Unicode.CharSet) (i : Nat) : Option Nat :=
  match text[i]? with
  | some c => if s.has c then some (i + 1) else none
  | none => none

/-- The positions at which matches that begin at one of the positions may end. -/
def ends (text : Array Char) : Regex → List Nat → List Nat
  | .empty, starts => starts
  | .set s, starts => starts.filterMap (past? text s)
  | .assertion a, starts => starts.filter fun i => a.holds text i
  | .seq r s, starts => ends text s (ends text r starts)
  | .alt r s, starts => mergeAscending (ends text r starts) (ends text s starts)
  | .times r low high, starts =>
    let front := iterate (ends text r) low starts
    match high with
    | some high => closure (ends text r) (high - low) front front
    | none => closure (ends text r) (text.size + 1) front front

/-- Whether the expression matches a span of the text. -/
def isMatch (r : Regex) (text : String) : Bool :=
  let chars := text.toList.toArray
  ends chars r (List.range (chars.size + 1)) != []

end RequestDispatch.Regex
