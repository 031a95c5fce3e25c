import RequestDispatch.Text.Utf8

/-! Percent escapes in paths.

An escape is `%` and two hexadecimal digits and stands for one byte. A text is
unescaped as a whole or not at all: one broken escape, or bytes that are no UTF-8,
leave it as it is. -/
namespace RequestDispatch.Text.Escape

def hexDigit? (c : Char) : Option Nat :=
  let n := c.toNat
  if 48 ≤ n ∧ n ≤ 57 then some (n - 48)
  else if 65 ≤ n ∧ n ≤ 70 then some (n - 55)
  else if 97 ≤ n ∧ n ≤ 102 then some (n - 87)
  else none

/-- The bytes a text stands for, if every `%` begins an escape. -/
def bytes? : List Char → Option (List UInt8)
  | [] => some []
  | '%' :: a :: b :: r => do
    let high ← hexDigit? a
    let low ← hexDigit? b
    let rest ← bytes? r
    some ((16 * high + low).toUInt8 :: rest)
  | c :: r => if c = '%' then none else (bytes? r).map (Utf8.encodeChar c ++ ·)

/-- The text with its escapes undone, if all are well formed and the bytes are UTF-8. -/
def decode? (s : List Char) : Option (List Char) := (bytes? s).bind Utf8.decode?

/-- The text with its escapes undone, or as it is. -/
def decode (s : List Char) : List Char := (decode? s).getD s

end RequestDispatch.Text.Escape
