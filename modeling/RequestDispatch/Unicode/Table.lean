import RequestDispatch.Unicode.CharSet

/-! Written sets.

The tables of character properties hold their sets as text: numbers in base 36, parted by
blanks, which are the distances between the bounds of the set. -/
namespace RequestDispatch.Unicode.Table

def digit (c : Char) : Nat := if c.toNat < 97 then c.toNat - 48 else c.toNat - 87

/-- The numbers of one word. A point parts numbers. -/
def wordNumbers : (sofar : Nat) → List Char → List Nat
  | sofar, [] => [sofar]
  | sofar, '.' :: rest => sofar :: wordNumbers 0 rest
  | sofar, c :: rest => wordNumbers (36 * sofar + digit c) rest

/-- The words of a text, between blanks and line ends. The characters of the first word read
so far come in reverse. -/
def words : (sofar : List Char) → List Char → List (List Char)
  | [], [] => []
  | sofar, [] => [sofar.reverse]
  | sofar, c :: rest =>
    if c ≠ ' ' ∧ c ≠ '\n' then words (c :: sofar) rest
    else if sofar.isEmpty then words [] rest
    else sofar.reverse :: words [] rest

/-- Each number with all before it added. -/
def sums : (sofar : Nat) → List Nat → List Nat
  | _, [] => []
  | sofar, n :: rest => (sofar + n) :: sums (sofar + n) rest

def readSet (code : String) : CharSet :=
  ⟨sums 0 ((words [] code.toList).flatMap (wordNumbers 0))⟩

/-- The set under a name, if the table holds the name. -/
def find? (table : List (List String × String)) (name : String) : Option CharSet :=
  (table.find? fun entry => entry.1.contains name).map fun entry => readSet entry.2

/-- The rings of a text of rings. -/
def readRings : (first : Nat) → List (List Char) → List (List Nat)
  | _, [] => []
  | first, w :: rest =>
    match sums first (wordNumbers 0 w) with
    | [] => readRings first rest
    | c :: cs => (c :: cs) :: readRings c rest

end RequestDispatch.Unicode.Table
