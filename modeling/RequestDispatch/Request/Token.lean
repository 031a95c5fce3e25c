/-! Names and values in HTTP messages. -/
namespace RequestDispatch.Http

/-- The characters of methods and header names. -/
def isTokenChar (c : Char) : Bool :=
  c.isAlphanum || "!#$%&'*+-.^_`|~".toList.contains c

/-- A method or the name of a header: one or more token characters. -/
def isToken (s : String) : Bool := !s.toList.isEmpty && s.toList.all isTokenChar

/-- The value of a header: no control character but the tab. -/
def isHeaderValue (s : String) : Bool :=
  s.toList.all fun c => c = '\t' || (32 ≤ c.toNat && c.toNat ≠ 127)

/-- Printable ASCII and tabs only. -/
def isVisibleAscii (s : String) : Bool :=
  s.toList.all fun c => c = '\t' || (32 ≤ c.toNat && c.toNat < 127)

/-- A character with ASCII letters made small. -/
def lowerChar (c : Char) : Char :=
  if 65 ≤ c.toNat ∧ c.toNat ≤ 90 then Char.ofNat (c.toNat + 32) else c

/-- A header name as it is compared: ASCII letters made small. -/
def lower (s : String) : String := String.ofList (s.toList.map lowerChar)

end RequestDispatch.Http
