/-! Places in a YAML text.

A cursor is what is left of a text, with the place it begins at. Lines end with a line
feed, a carriage return, both in this order, or one of three further characters. -/
namespace RequestDispatch.Yaml

structure Cursor where
  rest : List Char
  index : Nat
  line : Nat
  column : Nat
  deriving Repr, Inhabited

def isBreak (c : Char) : Bool :=
  c = '\n' || c = '\r' || c = '\u0085' || c = '\u2028' || c = '\u2029'

def isBlank (c : Char) : Bool := c = ' ' || c = '\t'

/-- Characters of anchors and handles. -/
def isWordChar (c : Char) : Bool := c.isAlphanum || c = '_' || c = '-'

/-- Whether a blank, a line end or the end of the text comes next. -/
def atGap : List Char → Bool
  | [] => true
  | c :: _ => isBlank c || isBreak c

def atBreak : List Char → Bool
  | [] => true
  | c :: _ => isBreak c

namespace Cursor

def ofText (s : List Char) : Cursor := ⟨s, 0, 0, 0⟩

/-- Behind the next character, which ends no line. -/
def next (k : Cursor) : Cursor := { k with rest := k.rest.drop 1, index := k.index + 1, column := k.column + 1 }

def skip (k : Cursor) (n : Nat) : Cursor :=
  { k with rest := k.rest.drop n, index := k.index + n, column := k.column + n }

/-- Behind the next line end, and what the line end counts as. -/
def nextLine (k : Cursor) : List Char × Cursor :=
  match k.rest with
  | '\r' :: '\n' :: rest => (['\n'], ⟨rest, k.index + 2, k.line + 1, 0⟩)
  | c :: rest =>
    if c = '\u2028' ∨ c = '\u2029' then ([c], ⟨rest, k.index + 1, k.line + 1, 0⟩)
    else if isBreak c then (['\n'], ⟨rest, k.index + 1, k.line + 1, 0⟩)
    else ([], k)
  | [] => ([], k)

/-- Behind all next characters of a kind that ends no line, and those characters. -/
def span (k : Cursor) (kind : Char → Bool) : List Char × Cursor :=
  let taken := k.rest.takeWhile kind
  (taken, k.skip taken.length)

/-- Behind the blanks that come next. -/
def skipBlanks (k : Cursor) : Cursor := (k.span isBlank).2

/-- Behind a comment, if one comes next. -/
def skipComment (k : Cursor) : Cursor :=
  match k.rest with
  | '#' :: _ => (k.span (!isBreak ·)).2
  | _ => k

/-- Whether three of the same character stand alone at the beginning of a line. -/
def atMark (k : Cursor) (c : Char) : Bool :=
  k.column = 0 && match k.rest with
    | a :: b :: d :: rest => a = c && b = c && d = c && atGap rest
    | _ => false

/-- Whether a document begins or ends here. -/
def atDocumentMark (k : Cursor) : Bool := k.atMark '-' || k.atMark '.'

end Cursor

/-- Why a text is not read. -/
inductive Error where
  | control (c : Char)
  | tab
  | startless (c : Char)
  | entryMisplaced
  | keyMisplaced
  | valueMisplaced
  | colonMissing
  | colonMisplaced
  | unclosed
  | escapeUnknown
  | escapeInvalid
  | documentMark
  | indentationZero
  | headerTrailing
  | anchorInvalid
  | tagInvalid
  | directiveInvalid
  | entryExpected
  | keyExpected
  | separatorExpected
  | contentExpected
  | handleUnknown (handle : String)
  | aliasUnknown (name : String)
  | secondDocument
  deriving Repr

end RequestDispatch.Yaml
