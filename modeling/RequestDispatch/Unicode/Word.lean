import RequestDispatch.Unicode.Property

/-! Classes of characters with names of their own: letters and digits, the characters
of words, decimal digits, white space. -/
namespace RequestDispatch.Unicode

def alphabetic : CharSet := (Table.find? binaryProperties "alphabetic").getD .empty

def numeric : CharSet := (category? "n").getD .empty

def isAlphabetic (c : Char) : Bool := alphabetic.has c

def isAlphanumeric (c : Char) : Bool := alphabetic.has c || numeric.has c

/-- Decimal digits. -/
def digits : CharSet := (category? "nd").getD .empty

/-- White space. -/
def blanks : CharSet := (Table.find? binaryProperties "whitespace").getD .empty

/-- The characters of words: letters, marks, decimal digits, connectors and the two
characters that control joining. -/
def wordChars : CharSet :=
  .unions [alphabetic, (category? "m").getD .empty, digits, (category? "pc").getD .empty,
    (Table.find? binaryProperties "joincontrol").getD .empty]

end RequestDispatch.Unicode
