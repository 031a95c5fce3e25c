import RequestDispatch.Text.Quoted

/-! JSON as it is written: strings with the escapes they need and no others, objects on
one line. -/
namespace RequestDispatch.Json

def escapeChar (c : Char) : String :=
  match c with
  | '"' => "\\\""
  | '\\' => "\\\\"
  | '\x08' => "\\b"
  | '\x0c' => "\\f"
  | '\n' => "\\n"
  | '\r' => "\\r"
  | '\t' => "\\t"
  | c =>
    if c.toNat < 32 then
      "\\u00" ++ (if c.toNat < 16 then "0" else "") ++ Text.Quoted.hexText c.toNat
    else String.singleton c

def writeString (s : String) : String := "\"" ++ String.join (s.toList.map escapeChar) ++ "\""

/-- A text that may be missing. -/
def writeText? : Option String → String
  | some s => writeString s
  | none => "null"

/-- An object of written values. -/
def writeObject (fields : List (String × String)) : String :=
  "\x7b" ++ ",".intercalate (fields.map fun f => writeString f.1 ++ ":" ++ f.2) ++ "\x7d"

end RequestDispatch.Json
