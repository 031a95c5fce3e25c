import RequestDispatch.Text.Escape
import RequestDispatch.Yaml.Cursor

/-! The texts of scalars.

A scalar is written plainly, between quotes or as a block. Line ends inside are folded:
one becomes a space, of several the first is dropped. A block that is written literally
keeps them. -/
namespace RequestDispatch.Yaml

/-! ### Gaps between words -/

/-- Blanks and line ends between words: the blanks on the first line, the first line end,
the line ends after it, and whether there was any. -/
structure Gap where
  blanks : List Char
  first : List Char
  others : List Char
  broken : Bool

def Gap.none : Gap := ⟨[], [], [], false⟩

/-- The line ends, folded. -/
def folded (first others : List Char) : List Char :=
  if first = ['\n'] then if others.isEmpty then [' '] else others else first ++ others

def Gap.text (g : Gap) : List Char := if g.broken then folded g.first g.others else g.blanks

/-- Reads on in a gap. With a limit, a tab that comes before that column on a later line is
refused. -/
def readGap (limit : Option Int) : (turns : Nat) → Gap → Cursor → Except Error (Gap × Cursor)
  | 0, g, k => .ok (g, k)
  | turns + 1, g, k =>
    match k.rest with
    | c :: _ =>
      if isBlank c then
        if g.broken && c = '\t' && limit.any (fun n => (k.column : Int) < n) then .error .tab
        else if g.broken then readGap limit turns g k.next
        else readGap limit turns { g with blanks := g.blanks ++ [c] } k.next
      else if isBreak c then
        let (text, k) := k.nextLine
        if g.broken then readGap limit turns { g with others := g.others ++ text } k
        else readGap limit turns ⟨[], text, g.others, true⟩ k
      else .ok (g, k)
    | [] => .ok (g, k)

/-! ### Plain scalars -/

def isFlowMark (c : Char) : Bool := c = ',' || c = '[' || c = ']' || c = '{' || c = '}'

/-- The characters up to a blank, a line end or a mark that ends a plain scalar. -/
def plainWord (inFlow : Bool) : List Char → Except Error (List Char)
  | [] => .ok []
  | c :: rest =>
    if isBlank c || isBreak c then .ok []
    else if inFlow && c = ':' && rest.head?.any (fun d => isFlowMark d || d = '?') then
      .error .colonMisplaced
    else if (c = ':' && atGap rest) || (inFlow && isFlowMark c) then .ok []
    else (plainWord inFlow rest).map (c :: ·)

/-- Words of a plain scalar, up to where it ends. Gives also whether it ended behind a line
end. -/
def plainFrom (inFlow : Bool) (indent : Int) :
    (turns : Nat) → (text : List Char) → Gap → Cursor → Except Error (List Char × Bool × Cursor)
  | 0, text, g, k => .ok (text, g.broken, k)
  | turns + 1, text, g, k =>
    if k.atDocumentMark || k.rest.head? = some '#' then .ok (text, g.broken, k)
    else do
      let word ← plainWord inFlow k.rest
      let (text, g) := if word.isEmpty then (text, g) else (text ++ g.text ++ word, Gap.none)
      let k := k.skip word.length
      if !atGap k.rest || k.rest.isEmpty then .ok (text, g.broken, k)
      else do
        let (g, k) ← readGap (some indent) (k.rest.length + 1) g k
        if !inFlow && (k.column : Int) < indent then .ok (text, g.broken, k)
        else plainFrom inFlow indent turns text g k

/-- A plain scalar inside the given indentation. -/
def plainScalar (inFlow : Bool) (indent : Int) (k : Cursor) :
    Except Error (List Char × Bool × Cursor) :=
  plainFrom inFlow (indent + 1) (k.rest.length + 1) [] .none k

/-! ### Quoted scalars -/

/-- The number that hexadecimal digits write, if that many come next. -/
def hexNumber? : Nat → (sofar : Nat) → List Char → Option Nat
  | 0, n, _ => some n
  | _ + 1, _, [] => none
  | count + 1, n, c :: rest =>
    (Text.Escape.hexDigit? c).bind fun d => hexNumber? count (16 * n + d) rest

/-- The character written by its code point. -/
def hexChar? (count : Nat) (s : List Char) : Except Error Char :=
  match hexNumber? count 0 s with
  | none => .error .escapeInvalid
  | some n =>
    if (0xD800 ≤ n ∧ n < 0xE000) ∨ 0x10FFFF < n then .error .escapeInvalid
    else .ok (Char.ofNat n)

/-- An escape behind its backslash: the character, and how many it took. -/
def quotedEscape : List Char → Except Error (Char × Nat)
  | [] => .error .unclosed
  | c :: rest =>
    match c with
    | '0' => .ok ('\x00', 1)
    | 'a' => .ok ('\x07', 1)
    | 'b' => .ok ('\x08', 1)
    | 't' | '\t' => .ok ('\t', 1)
    | 'n' => .ok ('\n', 1)
    | 'v' => .ok ('\x0b', 1)
    | 'f' => .ok ('\x0c', 1)
    | 'r' => .ok ('\r', 1)
    | 'e' => .ok ('\x1b', 1)
    | ' ' => .ok (' ', 1)
    | '"' => .ok ('"', 1)
    | '/' => .ok ('/', 1)
    | '\\' => .ok ('\\', 1)
    | 'N' => .ok ('\u0085', 1)
    | '_' => .ok ('\u00a0', 1)
    | 'L' => .ok ('\u2028', 1)
    | 'P' => .ok ('\u2029', 1)
    | 'x' => (hexChar? 2 rest).map (·, 3)
    | 'u' => (hexChar? 4 rest).map (·, 5)
    | 'U' => (hexChar? 8 rest).map (·, 9)
    | _ => .error .escapeUnknown

/-- The characters up to a gap or the closing quote. A line end behind a backslash begins a
gap that counts as nothing. -/
def quotedWord (single : Bool) : (turns : Nat) → (text : List Char) → Cursor →
    Except Error (List Char × Gap × Cursor)
  | 0, text, k => .ok (text, .none, k)
  | turns + 1, text, k =>
    match k.rest with
    | [] => .ok (text, .none, k)
    | c :: rest =>
      if isBlank c || isBreak c then .ok (text, .none, k)
      else if single then
        if c = '\'' then
          if rest.head? = some '\'' then quotedWord single turns (text ++ ['\'']) (k.skip 2)
          else .ok (text, .none, k)
        else quotedWord single turns (text ++ [c]) k.next
      else if c = '"' then .ok (text, .none, k)
      else if c = '\\' then
        if rest.head?.any isBreak then .ok (text, { Gap.none with broken := true }, k.next.nextLine.2)
        else do
          let (d, taken) ← quotedEscape rest
          quotedWord single turns (text ++ [d]) (k.skip (taken + 1))
      else quotedWord single turns (text ++ [c]) k.next

/-- Words of a quoted scalar, up to its closing quote. -/
def quotedFrom (single : Bool) :
    (turns : Nat) → (text : List Char) → Cursor → Except Error (List Char × Cursor)
  | 0, _, _ => .error .unclosed
  | turns + 1, text, k =>
    if k.atDocumentMark then .error .documentMark
    else if k.rest.isEmpty then .error .unclosed
    else do
      let (text, g, k) ← quotedWord single (k.rest.length + 1) text k
      if k.rest.head? = some (if single then '\'' else '"') then .ok (text, k.next)
      else do
        let (g, k) ← readGap none (k.rest.length + 1) g k
        quotedFrom single turns (text ++ g.text) k

/-- A quoted scalar behind its opening quote. -/
def quotedScalar (single : Bool) (k : Cursor) : Except Error (List Char × Cursor) :=
  quotedFrom single (k.rest.length + 2) [] k

/-! ### Block scalars -/

/-- What becomes of the line ends at the end of a block. -/
inductive Chomp where
  | strip | clip | keep
  deriving DecidableEq

def chomp? : Char → Option Chomp
  | '+' => some .keep
  | '-' => some .strip
  | _ => none

/-- The header of a block: how it ends, and its indentation, if that is given. -/
def blockHeader (k : Cursor) : Except Error (Chomp × Nat × Cursor) :=
  let digit := fun (k : Cursor) => match k.rest with
    | c :: _ => if c = '0' then Except.error Error.indentationZero
      else if c.isDigit then .ok (c.toNat - 48, k.next) else .ok (0, k)
    | [] => .ok (0, k)
  let mark := fun (k : Cursor) => (k.rest.head?.bind chomp?).map fun m => (m, k.next)
  match mark k with
  | some (m, k) => (digit k).map fun (n, k) => (m, n, k)
  | none => do
    let (n, k) ← digit k
    match if n = 0 then none else mark k with
    | some (m, k) => .ok (m, n, k)
    | none => .ok (.clip, n, k)

/-- Blank lines and the indentation of the next line. Without an indentation (`0`), the
deepest one found is taken; `widest` is the deepest so far. -/
def blockGap (outer : Int) : (turns : Nat) → (indent widest : Nat) → (breaks : List Char) →
    Cursor → Except Error (Nat × List Char × Cursor)
  | 0, indent, _, breaks, k => .ok (indent, breaks, k)
  | turns + 1, indent, widest, breaks, k =>
    let spaces := (k.rest.takeWhile (· = ' ')).length
    let k := k.skip (if indent = 0 then spaces else min spaces (indent - k.column))
    let widest := max widest k.column
    if (indent = 0 || k.column < indent) && k.rest.head? = some '\t' then .error .tab
    else if k.rest.head?.any isBreak then
      let (text, k) := k.nextLine
      blockGap outer turns indent widest (breaks ++ text) k
    else .ok (if indent = 0 then max (max widest (outer + 1).toNat) 1 else indent, breaks, k)

/-- The lines of a block: the text so far, the line end before the next line, the blank
lines before it, and whether the line before began with a blank. -/
def blockLines (literal : Bool) (outer : Int) (indent : Nat) :
    (turns : Nat) → (text first others : List Char) → (afterBlank : Bool) → Cursor →
    Except Error (List Char × List Char × List Char × Cursor)
  | 0, text, first, others, _, k => .ok (text, first, others, k)
  | turns + 1, text, first, others, afterBlank, k =>
    if k.column ≠ indent || k.rest.isEmpty then .ok (text, first, others, k)
    else do
      let onBlank := k.rest.head?.any isBlank
      let joint :=
        if !literal && first = ['\n'] && !afterBlank && !onBlank then
          if others.isEmpty then [' '] else others
        else first ++ others
      let (line, k) := k.span (!isBreak ·)
      let (first, k) := k.nextLine
      let (_, others, k) ← blockGap outer (k.rest.length + 1) indent 0 [] k
      blockLines literal outer indent turns (text ++ joint ++ line) first others onBlank k

/-- A block scalar behind its opening mark. -/
def blockScalar (literal : Bool) (outer : Int) (k : Cursor) : Except Error (List Char × Cursor) := do
  let (chomp, given, k) ← blockHeader k
  let k := k.skipBlanks.skipComment
  if !atBreak k.rest then .error .headerTrailing
  else do
    let k := k.nextLine.2
    let fixed := if given = 0 then 0 else (max outer 0).toNat + given
    let (indent, others, k) ← blockGap outer (k.rest.length + 1) fixed 0 [] k
    let (text, first, others, k) ← blockLines literal outer indent (k.rest.length + 1) [] [] others false k
    let ending := match chomp with
      | .strip => []
      | .clip => first
      | .keep => first ++ others
    .ok (text ++ ending, k)

end RequestDispatch.Yaml
