import RequestDispatch.Regex.Reader
import RequestDispatch.Regex.Syntax
import RequestDispatch.Unicode.Fold

/-! What a written expression means.

A written expression is read under a mode, which its flags change as it goes along: a
change lasts to the end of the enclosing group, across the branches of a choice. Texts
hold characters and never broken bytes, so an expression that could match half a
character is refused. Unless the `unicode` flag is off, classes are those of all
characters; with it off they are those of ASCII. -/
namespace RequestDispatch.Regex

open Unicode (CharSet)

structure Mode where
  caseless : Bool
  multiLine : Bool
  dotAll : Bool
  unicode : Bool
  anyLineEnd : Bool
  deriving DecidableEq, Repr

namespace Mode

/-- The mode an expression begins in. -/
def initial : Mode := ⟨false, false, false, true, false⟩

def switch (mode : Mode) : Flag × Bool → Mode
  | (.caseless, on) => { mode with caseless := on }
  | (.multiLine, on) => { mode with multiLine := on }
  | (.dotAll, on) => { mode with dotAll := on }
  | (.unicode, on) => { mode with unicode := on }
  | (.anyLineEnd, on) => { mode with anyLineEnd := on }
  | (.swapGreed, _) | (.extended, _) => mode

def switchAll (mode : Mode) (flags : Switches) : Mode := flags.foldl switch mode

/-- The set closed under letter case, in a mode that ignores it. -/
def fold (mode : Mode) (s : CharSet) : CharSet :=
  if mode.caseless then if mode.unicode then s.foldCase else s.foldAscii else s

/-- The set closed under letter case and, if asked for, turned around. What is left
without the `unicode` flag has to be ASCII. -/
def foldNegate (mode : Mode) (negated : Bool) (s : CharSet) : Except Error CharSet :=
  let folded := mode.fold s
  let result := if negated then folded.compl else folded
  if mode.unicode ∨ result.upTo 127 then .ok result else .error .notUtf8

end Mode

/-! ### Classes -/

def AsciiClass.members : AsciiClass → CharSet
  | alnum => .unions [.range 48 57, .range 65 90, .range 97 122]
  | alpha => .unions [.range 65 90, .range 97 122]
  | ascii => .range 0 127
  | blank => .unions [.range 9 9, .range 32 32]
  | cntrl => .unions [.range 0 31, .range 127 127]
  | digit => .range 48 57
  | graph => .range 33 126
  | lower => .range 97 122
  | print => .range 32 126
  | punct => .unions [.range 33 47, .range 58 64, .range 91 96, .range 123 126]
  | space => .unions [.range 9 13, .range 32 32]
  | upper => .range 65 90
  | word => Assertion.asciiWord
  | xdigit => .unions [.range 48 57, .range 65 70, .range 97 102]

/-- A class written with one letter. -/
def shortClass (mode : Mode) (k : LetterClass) (negated : Bool) : Except Error CharSet :=
  if mode.unicode then
    let members := match k with
      | .digit => Unicode.digits
      | .blank => Unicode.blanks
      | .word => Unicode.wordChars
    .ok (if negated then members.compl else members)
  else if negated then .error .notUtf8
  else .ok <| match k with
    | .digit => AsciiClass.digit.members
    | .blank => AsciiClass.space.members
    | .word => AsciiClass.word.members

def propertyClass (mode : Mode) (q : Unicode.Query) (negated : Bool) : Except Error CharSet :=
  if mode.unicode then
    match q.answer with
    | .ok s => mode.foldNegate negated s
    | .error cause => .error (.propertyInvalid cause)
  else .error .propertyNotAllowed

/-- The code point of a letter in a class. -/
def classLetter (mode : Mode) (l : Letter) : Except Error Nat :=
  if mode.unicode ∨ l.char.toNat < 128 then .ok l.char.toNat
  else if l.byteForm then .error .notUtf8
  else .error (.notAllowedInBytes l.char)

mutual

def Item.members (mode : Mode) : Item → Except Error CharSet
  | .letter l => (classLetter mode l).map fun n => .range n n
  | .range low high => do .ok (.range (← classLetter mode low) (← classLetter mode high))
  | .ascii k negated => mode.foldNegate negated k.members
  | .short k negated => shortClass mode k negated
  | .property q negated => propertyClass mode q negated
  | .nested negated body => do mode.foldNegate negated (← body.members mode)

def Body.members (mode : Mode) : Body → Except Error CharSet
  | .items members => Item.allMembers mode members
  | .op o left right => do
    let left ← left.members mode
    let right ← right.members mode
    let apply := match o with
      | .inter => CharSet.inter
      | .diff => CharSet.diff
      | .symmDiff => CharSet.symmDiff
    .ok (apply (mode.fold left) (mode.fold right))

def Item.allMembers (mode : Mode) : List Item → Except Error CharSet
  | [] => .ok .empty
  | i :: rest => do .ok ((← i.members mode).union (← Item.allMembers mode rest))

end

/-! ### Single characters and positions -/

def letterSet (mode : Mode) (l : Letter) : Except Error CharSet :=
  if mode.unicode then .ok (mode.fold (.single l.char))
  else if l.byteForm ∧ 128 ≤ l.char.toNat then .error .notUtf8
  else .ok (mode.fold (.single l.char))

def dotSet (mode : Mode) : Except Error CharSet :=
  if !mode.unicode then .error .notUtf8
  else if mode.dotAll then .ok .all
  else if mode.anyLineEnd then .ok (CharSet.unions [.range 10 10, .range 13 13]).compl
  else .ok (CharSet.range 10 10).compl

def Anchor.assertion (mode : Mode) : Anchor → Assertion
  | caret => if mode.multiLine then .lineStart mode.anyLineEnd else .textStart
  | dollar => if mode.multiLine then .lineEnd mode.anyLineEnd else .textEnd
  | textStart => .textStart
  | textEnd => .textEnd
  | boundary => .word .boundary !mode.unicode
  | notBoundary => .word .notBoundary !mode.unicode
  | wordStart => .word .start !mode.unicode
  | wordEnd => .word .finish !mode.unicode
  | wordStartHalf => .word .startHalf !mode.unicode
  | wordEndHalf => .word .finishHalf !mode.unicode

/-! ### Expressions -/

mutual

/-- The expression that is meant, and the mode behind it. -/
def Written.meaning (mode : Mode) : Written → Except Error (Regex × Mode)
  | .switch flags => .ok (.empty, mode.switchAll flags)
  | .letter l => (letterSet mode l).map fun s => (.set s, mode)
  | .dot => (dotSet mode).map fun s => (.set s, mode)
  | .anchor a => .ok (.assertion (a.assertion mode), mode)
  | .short k negated => (shortClass mode k negated).map fun s => (.set s, mode)
  | .property q negated => (propertyClass mode q negated).map fun s => (.set s, mode)
  | .bracketed negated body => do
    let s ← mode.foldNegate negated (← body.members mode)
    .ok (.set s, mode)
  | .times e low high => do
    let (r, after) ← e.meaning mode
    .ok (.times r low high, after)
  | .group flags e => do
    let (r, _) ← e.meaning (mode.switchAll flags)
    .ok (r, mode)
  | .alt branches => Written.choice mode branches
  | .concat parts => Written.row mode parts

def Written.row (mode : Mode) : List Written → Except Error (Regex × Mode)
  | [] => .ok (.empty, mode)
  | [e] => e.meaning mode
  | e :: rest => do
    let (r, mode) ← e.meaning mode
    let (s, mode) ← Written.row mode rest
    .ok (.seq r s, mode)

def Written.choice (mode : Mode) : List Written → Except Error (Regex × Mode)
  | [] => .ok (.empty, mode)
  | [e] => e.meaning mode
  | e :: rest => do
    let (r, mode) ← e.meaning mode
    let (s, mode) ← Written.choice mode rest
    .ok (.alt r s, mode)

end

/-! ### Size

An expression is refused when its program would grow too large. How large it would grow is estimated
here, not computed: the constants are rough, and a group weighs nothing because nothing is captured. So
an expression near the limit can be taken or refused in error. No theorem rests on the constants, only
on a part of an expression weighing no more than the whole. -/

/-- Whether the expression matches empty spans only. -/
def isEmptyWidth : Regex → Bool
  | .empty | .assertion _ => true
  | .set _ => false
  | .seq r s | .alt r s => isEmptyWidth r && isEmptyWidth s
  | .times r _ high => high == some 0 || isEmptyWidth r

/-- An estimate of what a set takes in a program that reads bytes, close for sets of ASCII and rough for
others. -/
def setWeight (s : CharSet) : Nat :=
  let spans := (s.bounds.length + 1) / 2
  if s.upTo 127 then if spans ≤ 1 then 32 else 32 + 8 * spans
  else match s.bounds with
    | [a, b] => if b = a + 1 then 32 * (if a < 0x800 then 2 else if a < 0x10000 then 3 else 4) else 460
    | _ => 400 + 60 * spans

/-- An estimate of what an expression takes with its repetitions written out. -/
def weight : Regex → Nat
  | .empty | .assertion _ => 32
  | .set s => setWeight s
  | .seq r s => weight r + weight s
  | .alt r s => weight r + weight s + 40
  | .times r low high =>
    let w := weight r
    if isEmptyWidth r then w + 40
    else match high with
      | some high => low * w + (high - low) * (w + 40) + 32
      | none => max low 1 * w + 40

/-- The estimate above which an expression is refused: ten mebibytes. -/
def maxWeight : Nat := 10485760

/-- The expression a text stands for. -/
def ofText? (s : String) : Except Error Regex := do
  let (r, _) ← (← Written.ofText? s.toList).meaning .initial
  if weight r ≤ maxWeight then .ok r else .error .tooLarge

end RequestDispatch.Regex
