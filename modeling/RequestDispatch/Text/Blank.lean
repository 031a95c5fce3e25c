/-! White space.

`isBlank` is the white space property of Unicode: 25 characters, of which six are
ASCII. -/
namespace RequestDispatch.Text

/-- The characters with the white space property. -/
def isBlank (c : Char) : Bool :=
  let n := c.toNat
  (9 ≤ n && n ≤ 13) || n == 0x20 || n == 0x85 || n == 0xA0 || n == 0x1680 ||
    (0x2000 ≤ n && n ≤ 0x200A) || n == 0x2028 || n == 0x2029 || n == 0x202F || n == 0x205F ||
    n == 0x3000

/-- Blanks taken off both ends. -/
def trim (s : List Char) : List Char :=
  (((s.dropWhile isBlank).reverse).dropWhile isBlank).reverse

end RequestDispatch.Text
