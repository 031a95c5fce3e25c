import RequestDispatch.Decimal.Binary64
import RequestDispatch.Decimal.Natural
import RequestDispatch.Request.Token

/-! Real numbers in base ten, as far as 64 bits hold them.

They are read with or without a point and an exponent, and written without an exponent
in the fewest digits that give the same number again. -/
namespace RequestDispatch.Decimal

inductive Real where
  | notANumber
  | infinite (negative : Bool)
  | finite (negative : Bool) (magnitude : Option Binary64)
  deriving DecidableEq, Repr

namespace Real

/-! ### Reading -/

/-- A whole number with or without a sign. -/
def integer? : List Char → Option Int
  | '-' :: rest => (digits? rest).map fun n => -(n : Int)
  | s => (natural? s).map Int.ofNat

/-- The exponent that ends a number, if it has one. -/
def exponent? : List Char → Option Int
  | [] => some 0
  | c :: rest => if c = 'e' ∨ c = 'E' then integer? rest else none

/-- No number of so many digits before or behind the point is told from infinity or
zero. -/
def farthest : Int := 400

/-- The real number nearest to `n` times 10 to the power of `e`. -/
def ofDecimal (negative : Bool) (n : Nat) (e : Int) : Real :=
  let length : Int := (Nat.toDigits 10 n).length
  if n = 0 ∨ e + length < -farthest then finite negative none
  else if farthest < e + length then infinite negative
  else match Binary64.ofRatio? (n * Binary64.power 10 e) (Binary64.power 10 (-e)) with
    | some x => finite negative (if x.mantissa = 0 then none else some x)
    | none => infinite negative

/-- Digits, among them perhaps a point, and perhaps an exponent. -/
def unsigned? (negative : Bool) (s : List Char) : Option Real := do
  let whole := s.takeWhile Char.isDigit
  let rest := s.dropWhile Char.isDigit
  let (fraction, rest) := match rest with
    | '.' :: rest => (rest.takeWhile Char.isDigit, rest.dropWhile Char.isDigit)
    | rest => ([], rest)
  if whole.isEmpty && fraction.isEmpty then none
  else
    let e ← exponent? rest
    some (ofDecimal negative (value (whole ++ fraction)) (e - fraction.length))

def ofText? (s : List Char) : Option Real :=
  let (negative, s) := match s with
    | '-' :: rest => (true, rest)
    | '+' :: rest => (false, rest)
    | s => (false, s)
  match String.ofList (s.map Http.lowerChar) with
  | "nan" => some notANumber
  | "inf" | "infinity" => some (infinite negative)
  | _ => unsigned? negative s

/-! ### Writing -/

/-- `n` times 10 to the power of `k`, without an exponent. -/
def positional (n : Nat) (k : Int) : String :=
  let digits := Nat.toDigits 10 n
  if 0 ≤ k then String.ofList (digits ++ List.replicate k.toNat '0')
  else
    let places := (-k).toNat
    let padded := digits.leftpad (places + 1) '0'
    let whole := padded.length - places
    String.ofList (padded.take whole ++ '.' :: padded.drop whole)

def text : Real → String
  | notANumber => "NaN"
  | infinite negative => (if negative then "-" else "") ++ "inf"
  | finite negative magnitude =>
    (if negative then "-" else "") ++
      match magnitude with
      | some x => positional x.shortest.1 x.shortest.2
      | none => "0"

end Real
end RequestDispatch.Decimal
