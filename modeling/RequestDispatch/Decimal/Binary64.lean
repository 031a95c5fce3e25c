/-! Binary numbers of 64 bits.

A finite positive number of this format is a mantissa below 2 to the 53rd times a power
of two. `ofRatio?` gives the one nearest to a ratio; `shortest` gives the decimal number
with the fewest digits that is nearer to it than to any other, and of several the one
closest to it. -/
namespace RequestDispatch.Decimal

/-- `mantissa` times 2 to the power of `exponent`. The mantissa has 53 bits, except at the
least exponent. -/
structure Binary64 where
  mantissa : Nat
  exponent : Int
  deriving DecidableEq, Repr, Inhabited

namespace Binary64

def leastExponent : Int := -1074

/-- The least exponent at which numbers are too large for the format. -/
def pastExponent : Int := 972

/-- `b` to the power of `n`, or 1 if `n` is negative. -/
def power (b : Nat) (n : Int) : Nat := b.pow n.toNat

/-- A ratio rounded to a whole number. A half goes to the even neighbour. -/
def roundRatio (num den : Nat) : Nat :=
  let low := num / den
  let twice := 2 * (num % den)
  if twice < den then low
  else if den < twice then low + 1
  else low + low % 2

/-- The number nearest to a positive ratio, or none if it is too large for the format. -/
def ofRatio? (num den : Nat) : Option Binary64 :=
  let scaled := fun (q : Int) => (num * power 2 (-q), den * power 2 q)
  let guess : Int := (num.log2 : Int) - den.log2 - 53
  let (n, d) := scaled guess
  let q := max leastExponent (if n / d < power 2 53 then guess else guess + 1)
  let (n, d) := scaled q
  let m := roundRatio n d
  let x : Binary64 := if m = power 2 53 then ⟨power 2 52, q + 1⟩ else ⟨m, q⟩
  if x.exponent < pastExponent then some x else none

/-! ### The shortest decimal form -/

/-- Whole numbers, four times as fine as the number and finer than the power of ten 10^k,
in which both can be written: the number, the distances to the ends of what rounds to it,
and the power of ten. -/
structure Grid where
  number : Nat
  below : Nat
  above : Nat
  unit : Nat

def grid (x : Binary64) (k : Int) : Grid :=
  let q := x.exponent - 2
  let scale := power 2 q * power 10 (-k)
  let narrow := x.mantissa = power 2 52 ∧ leastExponent < x.exponent
  { number := 4 * x.mantissa * scale
    below := (if narrow then 1 else 2) * scale
    above := 2 * scale
    unit := power 10 k * power 2 (-q) }

/-- The multiple of 10^k that rounds to the number and is closest to it, if one does. The
ends of what rounds to it belong to it if the mantissa is even. -/
def multiple? (x : Binary64) (k : Int) : Option Nat :=
  let g := x.grid k
  let low := g.number / g.unit
  let toLow := g.number - low * g.unit
  let toHigh := (low + 1) * g.unit - g.number
  let fits := fun (distance reach : Nat) =>
    if x.mantissa % 2 = 0 then distance ≤ reach else distance < reach
  let lowFits := low ≠ 0 ∧ fits toLow g.below
  let highFits := fits toHigh g.above
  if lowFits ∧ (¬ highFits ∨ toLow < toHigh) then some low
  else if highFits then some (low + 1)
  else none

/-- The first power of ten downwards of which a multiple rounds to the number. -/
def shortestFrom (x : Binary64) : (turns : Nat) → (k : Int) → Nat × Int
  | 0, k => (0, k)
  | turns + 1, k =>
    match x.multiple? k with
    | some n => (n, k)
    | none => x.shortestFrom turns (k - 1)

/-- The shortest decimal form of a positive number, as a whole number and the power of ten
it counts. -/
def shortest (x : Binary64) : Nat × Int := x.shortestFrom 640 310

end Binary64
end RequestDispatch.Decimal
