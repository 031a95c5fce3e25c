import RequestDispatch.Unicode.Property

/-! Quoted text.

A quoted text shows each character as it is, or escaped where it could not be seen:
quotes and backslashes, control characters, blanks other than the space, characters that
only change the one before them, and all that no category of visible characters
holds. -/
namespace RequestDispatch.Text.Quoted

open Unicode (CharSet)

/-- The characters that are shown by their code points. -/
def hidden : CharSet :=
  let blanks := ["zs", "zl", "zp", "cc", "cf", "cn", "co"].filterMap Unicode.category?
  let marks := (Unicode.Table.find? Unicode.binaryProperties "graphemeextend").getD .empty
  ((CharSet.unions blanks).diff (.single ' ')).union marks

/-- A number in base 16, in small letters. -/
def hexText (n : Nat) : String := String.ofList (Nat.toDigits 16 n)

def showChar (c : Char) : String :=
  match c with
  | '\x00' => "\\0"
  | '\t' => "\\t"
  | '\n' => "\\n"
  | '\r' => "\\r"
  | '"' => "\\\""
  | '\\' => "\\\\"
  | c => if hidden.has c then "\\u\x7b" ++ hexText c.toNat ++ "\x7d" else String.singleton c

def encode (s : String) : String :=
  "\"" ++ String.join (s.toList.map showChar) ++ "\""

end RequestDispatch.Text.Quoted
