/-! Natural numbers in base ten. -/
namespace RequestDispatch.Decimal

/-- The number that digits write. -/
def value (digits : List Char) : Nat :=
  digits.foldl (fun n c => 10 * n + (c.toNat - 48)) 0

/-- The number that one or more digits write. -/
def digits? (s : List Char) : Option Nat :=
  if s.isEmpty || !s.all (·.isDigit) then none else some (value s)

/-- A number without a sign or behind a plus sign. Zeros may come first. -/
def natural? : List Char → Option Nat
  | '+' :: rest => digits? rest
  | s => digits? s

end RequestDispatch.Decimal
