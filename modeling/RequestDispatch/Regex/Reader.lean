import RequestDispatch.Regex.Error
import RequestDispatch.Regex.Written
import RequestDispatch.Text.Blank
import RequestDispatch.Text.Cut
import RequestDispatch.Unicode.Word

/-! Reading expressions.

`Written.ofText?` reads an expression from left to right and keeps open groups and
choices on a stack; bracketed classes are read likewise. In extended mode blanks and
comments count for nothing; the mode can change with every flag, so each reader is told
whether it is on. Each turn of a reader takes at least one character, so as many turns
as there are characters are enough. -/
namespace RequestDispatch.Regex

open Text (isBlank)

/-! ### Blanks and comments -/

def skipFrom : (inComment : Bool) → List Char → List Char
  | _, [] => []
  | true, c :: rest => skipFrom (c != '\n') rest
  | false, c :: rest =>
    if isBlank c then skipFrom false rest
    else if c = '#' then skipFrom true rest
    else c :: rest

/-- The text behind blanks and comments, in extended mode. -/
def skip (extended : Bool) (s : List Char) : List Char := if extended then skipFrom false s else s

/-- The text past the mark of a comment, if it begins with one, and past blanks behind it. -/
def pastMark : List Char → List Char
  | '#' :: rest => rest.dropWhile isBlank
  | rest => rest

/-- The next character that counts behind the current one, as a range reader looks ahead.
The first character of a comment counts here. -/
def peek? (extended : Bool) (behind : List Char) : Option Char :=
  if extended then (pastMark (behind.dropWhile isBlank)).head?.or behind.head? else behind.head?

/-- The characters that come first and satisfy the test. -/
def gather (extended : Bool) (test : Char → Bool) :
    (turns : Nat) → List Char → List Char × List Char
  | 0, s => ([], s)
  | _, [] => ([], [])
  | turns + 1, c :: rest =>
    if test c then
      let (read, rest) := gather extended test turns (skip extended rest)
      (c :: read, rest)
    else ([], c :: rest)

/-! ### Escapes -/

def isHex (c : Char) : Bool :=
  ('0' ≤ c && c ≤ '9') || ('a' ≤ c && c ≤ 'f') || ('A' ≤ c && c ≤ 'F')

def hexValue (digits : List Char) : Nat :=
  digits.foldl (fun n c =>
    let code := c.toNat
    16 * n + (if code ≤ 57 then code - 48 else if code ≤ 70 then code - 55 else code - 87)) 0

/-- The character with a code point, if there is one. -/
def scalar? (n : Nat) : Option Char :=
  if n < 0xD800 ∨ (0xDFFF < n ∧ n < 0x110000) then some (Char.ofNat n) else none

def hexDigits (extended : Bool) : Nat → List Char → Except Error (List Char × List Char)
  | 0, s => .ok ([], s)
  | _ + 1, [] => .error .escapeUnclosed
  | n + 1, c :: rest =>
    if isHex c then do
      let (digits, rest) ← hexDigits extended n (skip extended rest)
      .ok (c :: digits, rest)
    else .error (.hexDigitInvalid c)

/-- The characters up to a closing brace, all of which satisfy the test. -/
def braced (extended : Bool) (test : Char → Bool) :
    (turns : Nat) → List Char → Except Error (List Char × List Char)
  | 0, _ | _, [] => .error .escapeUnclosed
  | turns + 1, c :: rest =>
    if c = '}' then .ok ([], rest)
    else if test c then do
      let (inner, rest) ← braced extended test turns (skip extended rest)
      .ok (c :: inner, rest)
    else .error (.hexDigitInvalid c)

/-- A character by its code point: two, four or eight digits, or any number in braces. -/
def hexEscape (extended : Bool) (count : Nat) (s : List Char) :
    Except Error (Letter × List Char) :=
  match skip extended s with
  | [] => .error .escapeUnclosed
  | '{' :: rest => do
    let (digits, rest) ← braced extended isHex (rest.length + 1) (skip extended rest)
    if digits = [] then .error .hexEmpty
    else match scalar? (hexValue digits) with
      | some c => .ok (⟨c, false⟩, skip extended rest)
      | none => .error .hexInvalid
  | s => do
    let (digits, rest) ← hexDigits extended count s
    match scalar? (hexValue digits) with
    | some c => .ok (⟨c, count == 2⟩, rest)
    | none => .error .hexInvalid

/-- The parts of a text around the first occurrence of a text that is not empty. -/
def splitAround? (mark : List Char) : List Char → Option (List Char × List Char)
  | [] => none
  | c :: rest =>
    match Text.dropLead? mark (c :: rest) with
    | some behind => some ([], behind)
    | none => (splitAround? mark rest).map fun (before, behind) => (c :: before, behind)

/-- What the text between braces asks for, and whether it asks for the opposite. -/
def propertyQuery (inner : List Char) : Unicode.Query × Bool :=
  let valued := fun (parts : List Char × List Char) =>
    Unicode.Query.valued (String.ofList parts.1) (String.ofList parts.2)
  match splitAround? ['!', '='] inner with
  | some parts => (valued parts, true)
  | none => match (splitAround? [':'] inner).orElse fun _ => splitAround? ['='] inner with
    | some parts => (valued parts, false)
    | none => (.named (String.ofList inner), false)

/-- A property behind `\p` or, negated, `\P`. -/
def propertyEscape (extended negated : Bool) (s : List Char) :
    Except Error (Unicode.Query × Bool × List Char) :=
  match skip extended s with
  | [] => .error .escapeUnclosed
  | '{' :: rest => do
    let (inner, rest) ← braced extended (fun _ => true) (rest.length + 1) (skip extended rest)
    let (query, opposite) := propertyQuery inner
    .ok (query, negated != opposite, rest)
  | '\\' :: _ => .error .escapeUnclosed
  | c :: rest => .ok (.named (String.singleton c), negated, skip extended rest)

/-- Letters and hyphens, as in the names of word edges. -/
def isEdgeChar (c : Char) : Bool := c.isAlpha || c == '-'

def namedEdge? : String → Option Anchor
  | "start" => some .wordStart
  | "end" => some .wordEnd
  | "start-half" => some .wordStartHalf
  | "end-half" => some .wordEndHalf
  | _ => none

/-- The edge with a name and the brace that closes it. -/
def bracedEdge (extended : Bool) (s : List Char) : Except Error (Anchor × List Char) :=
  match gather extended isEdgeChar s.length s with
  | (name, '}' :: rest) =>
    match namedEdge? (String.ofList name) with
    | some a => .ok (a, rest)
    | none => .error .wordEdgeUnknown
  | _ => .error .escapeUnclosed

/-- What stands behind `\b`. A brace that opens on a letter or a hyphen names an edge; any
other is left to be read as a count. -/
def wordEdge (extended : Bool) (s : List Char) : Except Error (Anchor × List Char) :=
  match s with
  | '{' :: rest =>
    match skip extended rest with
    | [] => .error .escapeUnclosed
    | c :: inner =>
      if isEdgeChar c then bracedEdge extended (c :: inner) else .ok (.boundary, s)
  | s => .ok (.boundary, s)

/-- ASCII characters that may be escaped to stand for themselves: all but letters, digits
and the angle brackets. -/
def isEscapable (c : Char) : Bool :=
  c.toNat < 128 && !c.isAlphanum && c != '<' && c != '>'

/-- What a letter or an angle bracket behind a backslash stands for by itself. -/
def shortEscape? : Char → Option Written
  | 'd' => some (.short .digit false)
  | 'D' => some (.short .digit true)
  | 's' => some (.short .blank false)
  | 'S' => some (.short .blank true)
  | 'w' => some (.short .word false)
  | 'W' => some (.short .word true)
  | 'a' => some (.letter ⟨Char.ofNat 7, false⟩)
  | 'f' => some (.letter ⟨Char.ofNat 12, false⟩)
  | 't' => some (.letter ⟨Char.ofNat 9, false⟩)
  | 'n' => some (.letter ⟨Char.ofNat 10, false⟩)
  | 'r' => some (.letter ⟨Char.ofNat 13, false⟩)
  | 'v' => some (.letter ⟨Char.ofNat 11, false⟩)
  | 'A' => some (.anchor .textStart)
  | 'z' => some (.anchor .textEnd)
  | 'B' => some (.anchor .notBoundary)
  | '<' => some (.anchor .wordStart)
  | '>' => some (.anchor .wordEnd)
  | _ => none

/-- What stands behind a backslash. -/
def escape (extended : Bool) : List Char → Except Error (Written × List Char)
  | [] => .error .escapeUnclosed
  | c :: rest =>
    let hex := fun count => (hexEscape extended count rest).map fun (l, rest) => (.letter l, rest)
    let property := fun negated =>
      (propertyEscape extended negated rest).map fun (q, negated, rest) => (.property q negated, rest)
    if c.isDigit then .error .backreference
    else if isEscapable c then .ok (.letter ⟨c, false⟩, rest)
    else match shortEscape? c with
      | some e => .ok (e, rest)
      | none => match c with
        | 'x' => hex 2
        | 'u' => hex 4
        | 'U' => hex 8
        | 'p' => property false
        | 'P' => property true
        | 'b' => (wordEdge extended rest).map fun (a, rest) => (.anchor a, rest)
        | _ => .error (.escapeUnknown c)

/-! ### Bracketed classes -/

/-- What encloses the members being read: an outer class, or the left side of an
operator. -/
inductive Enclosing where
  | within (outer : List Item) (negated : Bool)
  | rightOf (o : SetOperator) (left : Body)

/-- The members read so far, latest first, closed into a body with the operator they stand
to the right of, if any. -/
def closeOperator (members : List Item) (stack : List Enclosing) : Body × List Enclosing :=
  match stack with
  | .rightOf o left :: rest => (.op o left (.items members.reverse), rest)
  | stack => (.items members.reverse, stack)

/-- The hyphens that come first in a class and stand for themselves. -/
def leadingHyphens (extended : Bool) :
    (turns : Nat) → List Item → List Char → Except Error (List Item × List Char)
  | 0, _, _ | _, _, [] => .error .classUnclosed
  | turns + 1, read, '-' :: rest =>
    leadingHyphens extended turns (.letter ⟨'-', false⟩ :: read) (skip extended rest)
  | _, read, s => .ok (read, s)

/-- The hyphens, or the closing bracket, that come first and stand for themselves. -/
def leadingItems (extended : Bool) (s : List Char) : Except Error (List Item × List Char) :=
  match leadingHyphens extended (s.length + 1) [] s with
  | .ok ([], ']' :: rest) =>
    match skip extended rest with
    | [] => .error .classUnclosed
    | s => .ok ([.letter ⟨']', false⟩], s)
  | result => result

/-- What stands behind an opening bracket: whether the class is negated, what comes first
and stands for itself, and the rest. -/
def openClass (extended : Bool) (s : List Char) : Except Error (Bool × List Item × List Char) :=
  match skip extended s with
  | [] => .error .classUnclosed
  | '^' :: rest => match skip extended rest with
    | [] => .error .classUnclosed
    | s => (leadingItems extended s).map (true, ·)
  | s => (leadingItems extended s).map (false, ·)

def asciiClass? : String → Option AsciiClass
  | "alnum" => some .alnum
  | "alpha" => some .alpha
  | "ascii" => some .ascii
  | "blank" => some .blank
  | "cntrl" => some .cntrl
  | "digit" => some .digit
  | "graph" => some .graph
  | "lower" => some .lower
  | "print" => some .print
  | "punct" => some .punct
  | "space" => some .space
  | "upper" => some .upper
  | "word" => some .word
  | "xdigit" => some .xdigit
  | _ => none

/-- The name of a class of ASCII characters and what closes it. -/
def asciiNamed? (negated : Bool) (s : List Char) : Option (Item × List Char) :=
  match s.dropWhile (· ≠ ':') with
  | ':' :: ']' :: behind =>
    (asciiClass? (String.ofList (s.takeWhile (· ≠ ':')))).map fun k => (.ascii k negated, behind)
  | _ => none

/-- A class of ASCII characters behind its opening bracket. Anything else there is left to
be read as a nested class. -/
def asciiItem? : List Char → Option (Item × List Char)
  | ':' :: '^' :: rest => asciiNamed? true rest
  | ':' :: rest => asciiNamed? false rest
  | _ => none

/-- One end of a range or a member by itself. -/
def classPrimitive (extended : Bool) : List Char → Except Error (Written × List Char)
  | [] => .error .classUnclosed
  | '\\' :: rest => escape extended rest
  | c :: rest => .ok (.letter ⟨c, false⟩, rest)

/-- A member or a range of them. A hyphen makes a range unless it comes before another
hyphen or the closing bracket. -/
def classItem (extended : Bool) (s : List Char) : Except Error (Item × List Char) := do
  let (low, behind) ← classPrimitive extended s
  match skip extended behind with
  | [] => .error .classUnclosed
  | c :: rest =>
    let next := peek? extended rest
    if c ≠ '-' ∨ next = some ']' ∨ next = some '-' then
      match low with
      | .letter l => .ok (.letter l, c :: rest)
      | .short k negated => .ok (.short k negated, c :: rest)
      | .property q negated => .ok (.property q negated, c :: rest)
      | _ => .error .classEscapeInvalid
    else match skip extended rest with
      | [] => .error .classUnclosed
      | rest => do
        let (high, rest) ← classPrimitive extended rest
        match low, high with
        | .letter l, .letter h =>
          if l.char ≤ h.char then .ok (.range l h, rest) else .error .classRangeInvalid
        | _, _ => .error .classRangeInvalid

/-- An operator between members. -/
def operator? : List Char → Option (SetOperator × List Char)
  | '&' :: '&' :: rest => some (.inter, rest)
  | '-' :: '-' :: rest => some (.diff, rest)
  | '~' :: '~' :: rest => some (.symmDiff, rest)
  | _ => none

/-- Members, operators and nested classes up to the bracket that closes the outermost
class. -/
def classMembers (extended : Bool) : (turns : Nat) → (members : List Item) →
    (stack : List Enclosing) → List Char → Except Error (Written × List Char)
  | 0, _, _, _ => .error .classUnclosed
  | turns + 1, members, stack, s =>
    match skip extended s with
    | [] => .error .classUnclosed
    | '[' :: rest =>
      match asciiItem? rest with
      | some (item, rest) => classMembers extended turns (item :: members) stack rest
      | none => do
        let (negated, first, rest) ← openClass extended rest
        classMembers extended turns first (.within members negated :: stack) rest
    | ']' :: rest =>
      match closeOperator members stack with
      | (body, [.within _ negated]) => .ok (.bracketed negated body, rest)
      | (body, .within outer negated :: stack) =>
        classMembers extended turns (.nested negated body :: outer) stack rest
      | _ => .error .classUnclosed
    | s =>
      match operator? s with
      | some (o, rest) =>
        let (left, stack) := closeOperator members stack
        classMembers extended turns [] (.rightOf o left :: stack) rest
      | none => do
        let (item, rest) ← classItem extended s
        classMembers extended turns (item :: members) stack rest

/-- A class behind its opening bracket. -/
def bracketed (extended : Bool) (s : List Char) : Except Error (Written × List Char) := do
  let (negated, first, rest) ← openClass extended s
  classMembers extended (rest.length + 1) first [.within [] negated] rest

/-! ### Groups and flags -/

def flag? : Char → Option Flag
  | 'i' => some .caseless
  | 'm' => some .multiLine
  | 's' => some .dotAll
  | 'U' => some .swapGreed
  | 'u' => some .unicode
  | 'R' => some .anyLineEnd
  | 'x' => some .extended
  | _ => none

/-- Flags up to the colon or the parenthesis that ends them, each at most once. `minus`
tells whether a minus sign was read, and `dangling` whether it was the last thing. -/
def flags : (minus dangling : Bool) → (read : Switches) → List Char →
    Except Error (Switches × Char × List Char)
  | _, _, _, [] => .error .flagsUnclosed
  | minus, dangling, read, c :: rest =>
    if c = ':' ∨ c = ')' then
      if dangling then .error .negationDangling else .ok (read.reverse, c, rest)
    else if c = '-' then
      if minus then .error .negationDangling else flags true true read rest
    else match flag? c with
      | none => .error (.flagUnknown c)
      | some f =>
        if read.any (·.1 = f) then .error .flagRepeated
        else flags minus false ((f, !minus) :: read) rest

def isNameStart (c : Char) : Bool := c == '_' || Unicode.isAlphabetic c

def isNameChar (c : Char) : Bool :=
  c == '_' || c == '.' || c == '[' || c == ']' || Unicode.isAlphanumeric c

/-- The name of a group, up to its closing angle bracket. -/
def groupName (s : List Char) : Except Error (String × List Char) :=
  match s.takeWhile (· ≠ '>'), s.dropWhile (· ≠ '>') with
  | [], '>' :: _ => .error .groupNameMissing
  | c :: cs, '>' :: rest =>
    if isNameStart c ∧ cs.all isNameChar then .ok (String.ofList (c :: cs), rest)
    else .error .groupNameInvalid
  | _, _ => .error .groupUnclosed

/-- What an opening parenthesis begins. -/
inductive Opening where
  | switch (flags : Switches)
  | group (flags : Switches) (name : Option String)

/-- Whether a group looks at what is before or behind it. -/
def looksAround (s : List Char) : Bool :=
  [['='], ['!'], ['<', '='], ['<', '!']].any fun mark => (Text.dropLead? mark s).isSome

/-- The text behind the mark that begins the name of a group. -/
def nameMark? (s : List Char) : Option (List Char) :=
  (Text.dropLead? ['P', '<'] s).or (Text.dropLead? ['<'] s)

/-- Flags by themselves, or those of a group. -/
def flagged (s : List Char) : Except Error (Opening × List Char) := do
  let (read, ending, rest) ← flags false false [] s
  if ending = ')' then
    if read = [] then .error .repetitionMissing else .ok (.switch read, rest)
  else .ok (.group read none, rest)

/-- What stands behind an opening parenthesis. -/
def opening (extended : Bool) (s : List Char) : Except Error (Opening × List Char) :=
  match skip extended s with
  | '?' :: rest =>
    if looksAround rest then .error .lookAround
    else match nameMark? rest with
      | some rest => (groupName rest).map fun (name, rest) => (.group [] (some name), rest)
      | none => flagged rest
  | rest => .ok (.group [] none, rest)

/-! ### Counts -/

/-- The number that digits write, below 2 to the 32nd. -/
def decimalValue (digits : List Char) : Except Error Nat :=
  let n := digits.foldl (fun n c => 10 * n + (c.toNat - 48)) 0
  if digits = [] then .error .countMissing
  else if n < 4294967296 then .ok n
  else .error .countTooLarge

/-- A number with blanks around it. -/
def decimal (extended : Bool) (s : List Char) : Except Error Nat × List Char :=
  let s := s.dropWhile isBlank
  let (digits, rest) := gather extended Char.isDigit s.length s
  (decimalValue digits, skip extended (rest.dropWhile isBlank))

/-- A question mark behind a repetition makes it take as little as it can. That changes
nothing about what matches. -/
def dropLazy : List Char → List Char
  | '?' :: rest => rest
  | rest => rest

/-- The closing brace behind bounds, with the question mark that may follow it. -/
def closeCounts (extended : Bool) (low : Nat) (high : Option Nat) :
    List Char → Except Error (Nat × Option Nat × List Char)
  | '}' :: rest =>
    if high.any (· < low) then .error (.countDescending low (high.getD 0))
    else .ok (low, high, dropLazy (skip extended rest))
  | _ => .error .countUnclosed

/-- What stands behind the comma between bounds: the upper one, if there is any. -/
def upperCount (extended : Bool) (low : Except Error Nat) (s : List Char) :
    Except Error (Nat × Option Nat × List Char) :=
  match skip extended s with
  | [] => .error .countUnclosed
  | '}' :: rest => low.bind fun low => closeCounts extended low none ('}' :: rest)
  | rest => low.bind fun low =>
    let (high, rest) := decimal extended rest
    high.bind fun high => closeCounts extended low (some high) rest

/-- The bounds behind an opening brace. A missing lower bound is refused, but only when
nothing earlier is. -/
def counts (extended : Bool) (s : List Char) :
    Except Error (Nat × Option Nat × List Char) :=
  match skip extended s with
  | [] => .error .countUnclosed
  | s =>
    match decimal extended s with
    | (_, []) => .error .countUnclosed
    | (low, ',' :: rest) => upperCount extended low rest
    | (low, rest) => low.bind fun low => closeCounts extended low (some low) rest

/-! ### Expressions -/

/-- What encloses the row being read: an open group with the row before it, or the earlier
branches of a choice. -/
inductive Frame where
  | group (before : List Written) (flags : Switches) (extended : Bool)
  | choice (branches : List Written)

/-- The row read so far, closed into the choice it is a branch of, if any. -/
def closeChoice (row : List Written) (stack : List Frame) : Written × List Frame :=
  let e := Written.ofParts row.reverse
  match stack with
  | .choice branches :: rest => (.alt (e :: branches).reverse, rest)
  | stack => (e, stack)

/-- Whether extended mode is on behind flags. -/
def extendedAfter (extended : Bool) (flags : Switches) : Bool :=
  match flags.find? (·.1 = .extended) with
  | some (_, on) => on
  | none => extended

/-- The row with its last part repeated. Nothing, or a mere switch, cannot be. -/
def repeatLast (row : List Written) (low : Nat) (high : Option Nat) :
    Except Error (List Written) :=
  match row with
  | [] | .switch _ :: _ => .error .repetitionMissing
  | e :: row => .ok (.times e low high :: row)

/-- What has been read: the row so far, latest part first, what encloses it, the group names
in use, and whether extended mode is on. -/
structure Reading where
  extended : Bool
  row : List Written
  stack : List Frame
  names : List String

namespace Reading

def start : Reading := ⟨false, [], [], []⟩

/-- One more part. -/
def add (r : Reading) (e : Written) : Reading := { r with row := e :: r.row }

/-- The last part repeated. -/
def repeated (r : Reading) (low : Nat) (high : Option Nat) : Except Error Reading :=
  (repeatLast r.row low high).map ({ r with row := · })

/-- Behind an opening parenthesis. The name of a group must be new. -/
def enter (r : Reading) : Opening → Except Error Reading
  | .switch flags => .ok { r.add (.switch flags) with extended := extendedAfter r.extended flags }
  | .group flags name =>
    let stack := Frame.group r.row flags r.extended :: r.stack
    match name with
    | some n =>
      if r.names.contains n then .error (.groupNameRepeated n)
      else .ok { r with row := [], stack, names := n :: r.names }
    | none => .ok { r with extended := extendedAfter r.extended flags, row := [], stack }

/-- Behind a closing parenthesis. -/
def leave (r : Reading) : Except Error Reading :=
  match closeChoice r.row r.stack with
  | (e, .group before flags outer :: stack) =>
    .ok { r with extended := outer, row := .group flags e :: before, stack }
  | _ => .error .groupUnopened

/-- Behind a bar. -/
def branch (r : Reading) : Reading :=
  let e := Written.ofParts r.row.reverse
  match r.stack with
  | .choice branches :: stack => { r with row := [], stack := .choice (e :: branches) :: stack }
  | stack => { r with row := [], stack := .choice [e] :: stack }

/-- The expression, if nothing is left open. -/
def finish (r : Reading) : Except Error Written :=
  match closeChoice r.row r.stack with
  | (e, []) => .ok e
  | _ => .error .groupUnclosed

/-- Reads what a character begins. -/
def take (r : Reading) (c : Char) (rest : List Char) : Except Error (Reading × List Char) :=
  match c with
  | '(' => do
    let (opening, rest) ← opening r.extended rest
    .ok (← r.enter opening, rest)
  | ')' => r.leave.map (·, rest)
  | '|' => .ok (r.branch, rest)
  | '[' => (bracketed r.extended rest).map fun (e, rest) => (r.add e, rest)
  | '?' => (r.repeated 0 (some 1)).map (·, dropLazy rest)
  | '*' => (r.repeated 0 none).map (·, dropLazy rest)
  | '+' => (r.repeated 1 none).map (·, dropLazy rest)
  | '{' => do
    let _ ← r.repeated 0 none
    let (low, high, rest) ← counts r.extended rest
    .ok (← r.repeated low high, rest)
  | '\\' => (escape r.extended rest).map fun (e, rest) => (r.add e, rest)
  | '.' => .ok (r.add .dot, rest)
  | '^' => .ok (r.add (.anchor .caret), rest)
  | '$' => .ok (r.add (.anchor .dollar), rest)
  | c => .ok (r.add (.letter ⟨c, false⟩), rest)

/-- Reads on to the end. -/
def readOn : Reading → (turns : Nat) → List Char → Except Error Written
  | _, 0, _ => .error .groupUnclosed
  | r, turns + 1, s =>
    match skip r.extended s with
    | [] => r.finish
    | c :: rest => do
      let (r, rest) ← r.take c rest
      r.readOn turns rest

end Reading

/-- How deep an expression may be nested. -/
def maxDepth : Nat := 250

/-- The expression a text writes. -/
def Written.ofText? (s : List Char) : Except Error Written := do
  let e ← Reading.start.readOn (s.length + 1) s
  if e.depth ≤ maxDepth then .ok e else .error .nestedTooDeep

end RequestDispatch.Regex
