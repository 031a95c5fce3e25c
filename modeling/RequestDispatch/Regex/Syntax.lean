import RequestDispatch.Unicode.Word

/-! Regular expressions and what they match.

An expression matches spans of a text. `Matches text r i j` says that `r` matches the
characters of `text` from position `i` to position `j`. Expressions are built from sets
of characters and from assertions, which match the empty span at the positions where
they hold. -/
namespace RequestDispatch

/-- Where a position lies relative to words. -/
inductive WordEdge where
  | boundary
  | notBoundary
  | start
  | finish
  | startHalf
  | finishHalf
  deriving DecidableEq, Repr

inductive Assertion where
  | textStart
  | textEnd
  /-- Lines end with a line feed, or also with a carriage return, alone or before it. -/
  | lineStart (anyEnd : Bool)
  | lineEnd (anyEnd : Bool)
  /-- Words are made of ASCII characters only, or of all word characters. -/
  | word (edge : WordEdge) (ascii : Bool)
  deriving DecidableEq, Repr

inductive Regex where
  | empty
  | set (members : Unicode.CharSet)
  | assertion (a : Assertion)
  | seq (r s : Regex)
  | alt (r s : Regex)
  /-- At least `low` times and, if there is a bound, at most `high` times. -/
  | times (r : Regex) (low : Nat) (high : Option Nat)
  deriving DecidableEq, Repr

/-! ### Assertions -/

namespace Assertion

/-- Word characters of the ASCII part: digits, letters and the underscore. -/
def asciiWord : Unicode.CharSet := .unions [.range 48 57, .range 65 90, .range 95 95, .range 97 122]

def isWord (ascii : Bool) (c : Option Char) : Bool :=
  c.any fun c => if ascii then asciiWord.has c else Unicode.wordChars.has c

/-- Whether an edge lies between a position with or without a word character before it
and one behind it. -/
def atEdge (before behind : Bool) : WordEdge → Bool
  | .boundary => before != behind
  | .notBoundary => before == behind
  | .start => !before && behind
  | .finish => before && !behind
  | .startHalf => !before
  | .finishHalf => !behind

/-- The character before a position. -/
def before? (text : Array Char) : Nat → Option Char
  | 0 => none
  | i + 1 => text[i]?

def holds (text : Array Char) (i : Nat) : Assertion → Bool
  | textStart => i == 0
  | textEnd => i == text.size
  | lineStart false => i == 0 || before? text i == some '\n'
  | lineEnd false => i == text.size || text[i]? == some '\n'
  | lineStart true =>
    i == 0 || before? text i == some '\n' ||
      (before? text i == some '\r' && text[i]? != some '\n')
  | lineEnd true =>
    i == text.size || text[i]? == some '\r' ||
      (text[i]? == some '\n' && before? text i != some '\r')
  | word edge ascii => atEdge (isWord ascii (before? text i)) (isWord ascii text[i]?) edge

end Assertion

/-! ### Matching -/

inductive Regex.Matches (text : Array Char) : Regex → Nat → Nat → Prop where
  | empty {i} : Matches text .empty i i
  | set {s i c} (at_i : text[i]? = some c) (mem : s.has c = true) : Matches text (.set s) i (i + 1)
  | assertion {a i} (holds : a.holds text i = true) : Matches text (.assertion a) i i
  | seq {r s i k j} (left : Matches text r i k) (right : Matches text s k j) :
    Matches text (.seq r s) i j
  | altLeft {r s i j} (left : Matches text r i j) : Matches text (.alt r s) i j
  | altRight {r s i j} (right : Matches text s i j) : Matches text (.alt r s) i j
  | done {r high i} : Matches text (.times r 0 high) i i
  | again {r low high i k j} (bound : high ≠ some 0) (once : Matches text r i k)
      (rest : Matches text (.times r (low - 1) (high.map (· - 1))) k j) :
    Matches text (.times r low high) i j

end RequestDispatch
