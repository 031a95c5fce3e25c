import RequestDispatch.Unicode.Property

/-! Written expressions.

The tree of an expression as its text gives it, before flags are applied and classes
are looked up. Flags may be switched in the middle of an expression, so the meaning of
a part depends on what stands before it. -/
namespace RequestDispatch.Regex

inductive Flag where
  | caseless
  | multiLine
  | dotAll
  | swapGreed
  | unicode
  | anyLineEnd
  | extended
  deriving DecidableEq, Repr

/-- Flags switched on or off. -/
abbrev Switches := List (Flag × Bool)

/-- Classes of ASCII characters, written `[:name:]`. -/
inductive AsciiClass where
  | alnum | alpha | ascii | blank | cntrl | digit | graph | lower | print | punct | space
  | upper | word | xdigit
  deriving DecidableEq, Repr

/-- Classes written with one letter behind a backslash. -/
inductive LetterClass where
  | digit | blank | word
  deriving DecidableEq, Repr

inductive SetOperator where
  | inter | diff | symmDiff
  deriving DecidableEq, Repr

/-- A character that stands for itself. `byteForm` marks one written as `\x` and two
digits, which means a byte where characters are not read as Unicode. -/
structure Letter where
  char : Char
  byteForm : Bool
  deriving DecidableEq, Repr

inductive Anchor where
  | caret | dollar | textStart | textEnd
  | boundary | notBoundary | wordStart | wordEnd | wordStartHalf | wordEndHalf
  deriving DecidableEq, Repr

mutual

/-- One member of a bracketed class. -/
inductive Item where
  | letter (l : Letter)
  | range (low high : Letter)
  | ascii (k : AsciiClass) (negated : Bool)
  | short (k : LetterClass) (negated : Bool)
  | property (q : Unicode.Query) (negated : Bool)
  | nested (negated : Bool) (body : Body)

/-- What stands between brackets. -/
inductive Body where
  | items (members : List Item)
  | op (o : SetOperator) (left right : Body)

end

inductive Written where
  | switch (flags : Switches)
  | letter (l : Letter)
  | dot
  | anchor (a : Anchor)
  | short (k : LetterClass) (negated : Bool)
  | property (q : Unicode.Query) (negated : Bool)
  | bracketed (negated : Bool) (body : Body)
  | times (e : Written) (low : Nat) (high : Option Nat)
  | group (flags : Switches) (e : Written)
  | alt (branches : List Written)
  | concat (parts : List Written)
  deriving Inhabited

/-- Parts in a row. A single part stands for itself. -/
def Written.ofParts : List Written → Written
  | [e] => e
  | parts => .concat parts

/-! ### Nesting -/

mutual

/-- How deep the brackets and operators of a member are nested. -/
def Item.depth : Item → Nat
  | .nested _ body => body.depth + 1
  | .letter _ | .range _ _ | .ascii _ _ | .short _ _ | .property _ _ => 0

def Body.depth : Body → Nat
  | .items members => Item.depths members + (if members.length ≤ 1 then 0 else 1)
  | .op _ left right => max left.depth right.depth + 1

def Item.depths : List Item → Nat
  | [] => 0
  | i :: rest => max i.depth (Item.depths rest)

end

mutual

/-- How deep the groups, repetitions, rows, choices and classes are nested. -/
def Written.depth : Written → Nat
  | .bracketed _ body => body.depth + 1
  | .times e _ _ => e.depth + 1
  | .group _ e => e.depth + 1
  | .alt branches => Written.depths branches + 1
  | .concat [] => 0
  | .concat (e :: parts) => max e.depth (Written.depths parts) + 1
  | .switch _ | .letter _ | .dot | .anchor _ | .short _ _ | .property _ _ => 0

def Written.depths : List Written → Nat
  | [] => 0
  | e :: rest => max e.depth (Written.depths rest)

end

end RequestDispatch.Regex
