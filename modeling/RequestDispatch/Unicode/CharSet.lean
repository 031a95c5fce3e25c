/-! Sets of characters.

A set is the ascending list of the code points at which membership changes: a code
point belongs to it when an odd number of bounds lie at or below it. Boolean
combinations are one walk over both lists (`combine`), and the complement turns the
membership of the first code point around. -/
namespace RequestDispatch.Unicode

structure CharSet where
  bounds : List Nat
  deriving DecidableEq, Repr, Inhabited

namespace CharSet

/-- Whether `n` is inside, when the walk begins inside or outside. -/
def insideFrom (inside : Bool) : List Nat → Nat → Bool
  | [], _ => inside
  | b :: rest, n => if n < b then inside else insideFrom (!inside) rest n

def hasCode (s : CharSet) (n : Nat) : Bool := insideFrom false s.bounds n

def has (s : CharSet) (c : Char) : Bool := s.hasCode c.toNat

def empty : CharSet := ⟨[]⟩

/-- Every code point. -/
def all : CharSet := ⟨[0]⟩

/-- The code points from `low` to `high`, both included. -/
def range (low high : Nat) : CharSet := if low ≤ high then ⟨[low, high + 1]⟩ else empty

def single (c : Char) : CharSet := range c.toNat c.toNat

/-- The walk over two lists of bounds. `x` and `y` tell whether the walk is inside of
either; a bound is kept where `f x y` changes. -/
def combineFrom (f : Bool → Bool → Bool) (x y : Bool) : List Nat → List Nat → List Nat
  | [], [] => []
  | a :: as, [] =>
    let rest := combineFrom f (!x) y as []
    if f x y = f (!x) y then rest else a :: rest
  | [], b :: bs =>
    let rest := combineFrom f x (!y) [] bs
    if f x y = f x (!y) then rest else b :: rest
  | a :: as, b :: bs =>
    if a < b then
      let rest := combineFrom f (!x) y as (b :: bs)
      if f x y = f (!x) y then rest else a :: rest
    else if b < a then
      let rest := combineFrom f x (!y) (a :: as) bs
      if f x y = f x (!y) then rest else b :: rest
    else
      let rest := combineFrom f (!x) (!y) as bs
      if f x y = f (!x) (!y) then rest else a :: rest
termination_by as bs => as.length + bs.length

/-- The set of the code points of which `f` holds, given their membership in `s` and
`t`. `f` does not hold of a code point in neither. -/
def combine (f : Bool → Bool → Bool) (s t : CharSet) : CharSet :=
  ⟨combineFrom f false false s.bounds t.bounds⟩

def union (s t : CharSet) : CharSet := combine (· || ·) s t

def inter (s t : CharSet) : CharSet := combine (· && ·) s t

def diff (s t : CharSet) : CharSet := combine (fun x y => x && !y) s t

def symmDiff (s t : CharSet) : CharSet := combine (· != ·) s t

def compl (s : CharSet) : CharSet :=
  match s.bounds with
  | 0 :: rest => ⟨rest⟩
  | bounds => ⟨0 :: bounds⟩

/-- The set of a list of characters given by ascending code points. -/
def ofAscending (codes : List Nat) : CharSet :=
  ⟨codes.foldr (fun n bounds => match bounds with
    | b :: rest => if b = n then bounds else if b = n + 1 then n :: rest else n :: (n + 1) :: bounds
    | [] => [n, n + 1]) []⟩

def unions (sets : List CharSet) : CharSet := sets.foldl union empty

/-- Whether every member is at most `n`. -/
def upTo (s : CharSet) (n : Nat) : Bool := (s.diff (range 0 n)).bounds.isEmpty

end CharSet
end RequestDispatch.Unicode
