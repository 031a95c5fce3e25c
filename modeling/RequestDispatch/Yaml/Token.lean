import RequestDispatch.Yaml.Scalar

/-! Tokens of a YAML text.

`Token.ofText?` cuts a text into tokens. Indentation becomes tokens too: a deeper column
begins a block and a shallower one ends blocks. That a scalar or a flow collection is a
key is seen only at the colon behind it, so the places where a key could begin are kept,
one for each open flow collection and one for the block around them, and the tokens that
say so are put in afterwards. -/
namespace RequestDispatch.Yaml

inductive Token where
  | documentStart
  | documentEnd
  | version (major minor : Nat)
  | tagHandle (handle lead : String)
  | sequenceStart
  | mappingStart
  | blockEnd
  | flowSequenceStart
  | flowSequenceEnd
  | flowMappingStart
  | flowMappingEnd
  | flowEntry
  | blockEntry
  | key
  | value
  | alias (name : String)
  | anchor (name : String)
  /-- A tag, by its handle and what follows. A tag without a handle stands for itself. -/
  | tag (handle rest : String)
  | scalar (text : String) (plain : Bool)
  deriving DecidableEq, Repr, Inhabited

/-- A place where a key could begin: the number of its first token, where it stands, and
whether only a key can stand there. -/
structure KeyPlace where
  number : Nat
  index : Nat
  line : Nat
  column : Nat
  required : Bool
  deriving Repr

structure Lexer where
  cursor : Cursor
  tokens : Array Token
  indent : Int
  indents : List Int
  /-- The place in the innermost flow collection, or in the block outside any. -/
  place : Option KeyPlace
  /-- The places around it, one for each open flow collection. -/
  places : List (Option KeyPlace)
  /-- Whether a key may begin here. -/
  keyAllowed : Bool

namespace Lexer

def ofText (s : List Char) : Lexer := ⟨.ofText s, #[], -1, [], none, [], true⟩

def inFlow (x : Lexer) : Bool := !x.places.isEmpty

def push (x : Lexer) (t : Token) : Lexer := { x with tokens := x.tokens.push t }

def move (x : Lexer) (k : Cursor) : Lexer := { x with cursor := k }

/-! ### Indentation -/

/-- Ends the blocks that are indented deeper than a column. -/
def unrollFrom (column : Int) : (outers : List Int) → Lexer → Lexer
  | [], x => x
  | outer :: rest, x =>
    if column < x.indent then
      unrollFrom column rest { x.push .blockEnd with indent := outer, indents := rest }
    else x

def unroll (x : Lexer) (column : Int) : Lexer :=
  if x.inFlow then x else unrollFrom column x.indents x

/-- Begins a block at a column, unless one begins there already. The token goes to the end
or to a given place among the tokens. -/
def roll (x : Lexer) (column : Nat) (number : Option Nat) (t : Token) : Lexer :=
  if x.inFlow || (column : Int) ≤ x.indent then x
  else
    let tokens := match number with
      | some n => x.tokens.insertIdxIfInBounds n t
      | none => x.tokens.push t
    { x with tokens, indent := column, indents := x.indent :: x.indents }

/-! ### Keys -/

/-- How far behind its beginning the colon of a key may stand. -/
def maxKey : Nat := 1024

/-- The place where a key could begin, if it still could have ended here: on its line and
not too far away. -/
def livePlace? (x : Lexer) : Except Error (Option KeyPlace) :=
  match x.place with
  | none => .ok none
  | some p =>
    if p.line < x.cursor.line || p.index + maxKey < x.cursor.index then
      if p.required then .error .colonMissing else .ok none
    else .ok (some p)

/-- Gives up the place where a key could begin. -/
def dropPlace (x : Lexer) : Except Error Lexer :=
  if x.place.any (·.required) then .error .colonMissing else .ok { x with place := none }

/-- Keeps this place, if a key may begin here. -/
def savePlace (x : Lexer) : Except Error Lexer :=
  if x.keyAllowed then do
    let required := !x.inFlow && x.indent == (x.cursor.column : Int)
    let x ← x.dropPlace
    .ok { x with place := some ⟨x.tokens.size, x.cursor.index, x.cursor.line, x.cursor.column, required⟩ }
  else .ok x

/-! ### Blanks and comments -/

/-- Goes on to the next token. A new line of a block may begin with a key. Tabs do not count
as blanks where indentation could be meant. -/
def skipGap : (turns : Nat) → Lexer → Lexer
  | 0, x => x
  | turns + 1, x =>
    let tabs := x.inFlow || !x.keyAllowed
    let k := (x.cursor.span fun c => c = ' ' || (tabs && c = '\t')).2.skipComment
    if k.rest.head?.any isBreak then
      skipGap turns { x with cursor := k.nextLine.2, keyAllowed := x.keyAllowed || !x.inFlow }
    else x.move k

/-! ### Tokens of one kind each -/

/-- A mark at the beginning of a line that ends all blocks. -/
def atMargin (x : Lexer) : Except Error Lexer :=
  ((x.unroll (-1)).dropPlace).map fun x => { x with keyAllowed := false }

def documentMark (x : Lexer) (t : Token) : Except Error Lexer :=
  x.atMargin.map fun x => (x.push t).move (x.cursor.skip 3)

def flowStart (x : Lexer) (t : Token) : Except Error Lexer :=
  x.savePlace.map fun x =>
    { (x.push t).move x.cursor.next with
      place := none, places := x.place :: x.places, keyAllowed := true }

def flowEnd (x : Lexer) (t : Token) : Except Error Lexer :=
  x.dropPlace.map fun x =>
    let x := match x.places with
      | place :: places => { x with place, places }
      | [] => x
    { (x.push t).move x.cursor.next with keyAllowed := false }

def flowEntry (x : Lexer) : Except Error Lexer :=
  x.dropPlace.map fun x => { (x.push .flowEntry).move x.cursor.next with keyAllowed := true }

def blockEntry (x : Lexer) : Except Error Lexer := do
  if !x.inFlow && !x.keyAllowed then .error .entryMisplaced
  else
    let x ← (x.roll x.cursor.column none .sequenceStart).dropPlace
    .ok { (x.push .blockEntry).move x.cursor.next with keyAllowed := true }

def keyMark (x : Lexer) : Except Error Lexer := do
  if !x.inFlow && !x.keyAllowed then .error .keyMisplaced
  else
    let x ← (x.roll x.cursor.column none .mappingStart).dropPlace
    .ok { (x.push .key).move x.cursor.next with keyAllowed := !x.inFlow }

def valueMark (x : Lexer) : Except Error Lexer := do
  match ← x.livePlace? with
  | some p =>
    let x := { x with tokens := x.tokens.insertIdxIfInBounds p.number .key, place := none }
    let x := x.roll p.column (some p.number) .mappingStart
    .ok { (x.push .value).move x.cursor.next with keyAllowed := false }
  | none =>
    if !x.inFlow && !x.keyAllowed then .error .valueMisplaced
    else
      let x := x.roll x.cursor.column none .mappingStart
      .ok { (x.push .value).move x.cursor.next with keyAllowed := !x.inFlow, place := none }

/-- An anchor or an alias behind its mark. -/
def named (x : Lexer) (make : String → Token) : Except Error Lexer := do
  let x ← x.savePlace
  let (name, k) := x.cursor.next.span isWordChar
  let ended := atGap k.rest || k.rest.head?.any fun c => "?:,]\x7d%@`".toList.contains c
  if name.isEmpty || !ended then .error .anchorInvalid
  else .ok { (x.push (make (String.ofList name))).move k with keyAllowed := false }

/-! ### Tags and directives -/

/-- Bytes written as escapes and characters as they are, up to the first that is no part of
a URI. -/
def uriBytes (verbatim : Bool) : (turns : Nat) → Cursor → Except Error (List UInt8 × Cursor)
  | 0, k => .ok ([], k)
  | turns + 1, k =>
    match k.rest with
    | '%' :: a :: b :: _ =>
      match Text.Escape.hexDigit? a, Text.Escape.hexDigit? b with
      | some a, some b =>
        (uriBytes verbatim turns (k.skip 3)).map fun (bs, k) => ((16 * a + b).toUInt8 :: bs, k)
      | _, _ => .error .tagInvalid
    | c :: _ =>
      if isWordChar c || ";/?:@&=+$.!~*'()".toList.contains c ||
          (verbatim && ",[]".toList.contains c) then
        (uriBytes verbatim turns k.next).map fun (bs, k) => (Text.Utf8.encodeChar c ++ bs, k)
      else if c = '%' then .error .tagInvalid
      else .ok ([], k)
    | [] => .ok ([], k)

/-- The text of a URI. It may not be empty, unless something stands before it. -/
def uri (verbatim : Bool) (before : List Char) (k : Cursor) : Except Error (String × Cursor) := do
  let (bytes, behind) ← uriBytes verbatim (k.rest.length + 1) k
  match Text.Utf8.decode? bytes with
  | some cs =>
    if before.isEmpty && cs.isEmpty then .error .tagInvalid
    else .ok (String.ofList (before.drop 1 ++ cs), behind)
  | none => .error .tagInvalid

/-- A handle: an exclamation mark, and perhaps word characters and another one. -/
def handle (k : Cursor) : List Char × Cursor :=
  let (word, behind) := k.next.span isWordChar
  match behind.rest with
  | '!' :: _ => ('!' :: word ++ ['!'], behind.next)
  | _ => ('!' :: word, behind)

def tag (x : Lexer) : Except Error Lexer := do
  let x ← x.savePlace
  let (t, k) ← match x.cursor.rest with
    | _ :: '<' :: _ => do
      let (text, k) ← uri true [] (x.cursor.skip 2)
      match k.rest with
      | '>' :: _ => Except.ok (Token.tag "" text, k.next)
      | _ => .error .tagInvalid
    | _ =>
      let (h, k) := handle x.cursor
      if 1 < h.length && h.getLast? = some '!' then do
        let (text, k) ← uri false [] k
        .ok (Token.tag (String.ofList h) text, k)
      else do
        let (text, k) ← uri false h k
        .ok (if text = "" then Token.tag "" "!" else Token.tag "!" text, k)
  if atGap k.rest || (x.inFlow && k.rest.head? = some ',') then
    .ok { (x.push t).move k with keyAllowed := false }
  else .error .tagInvalid

/-- A number of at most nine digits. -/
def smallNumber (k : Cursor) : Except Error (Nat × Cursor) :=
  let (digits, behind) := k.span Char.isDigit
  if digits.isEmpty || 9 < digits.length then .error .directiveInvalid
  else .ok (digits.foldl (fun n c => 10 * n + (c.toNat - 48)) 0, behind)

def directive (x : Lexer) : Except Error Lexer := do
  let x ← x.atMargin
  let (name, k) := x.cursor.next.span isWordChar
  if name.isEmpty || !atGap k.rest then .error .directiveInvalid
  else
    let (t, k) ←
      if name = "YAML".toList then do
        let (major, k) ← smallNumber k.skipBlanks
        match k.rest with
        | '.' :: _ =>
          let (minor, k) ← smallNumber k.next
          Except.ok (Token.version major minor, k)
        | _ => .error .directiveInvalid
      else if name = "TAG".toList then do
        let k := k.skipBlanks
        if k.rest.head? ≠ some '!' then .error .directiveInvalid
        else
          let (h, k) := handle k
          if (1 < h.length && h.getLast? ≠ some '!') || !(k.rest.head?.any isBlank) then
            .error .directiveInvalid
          else
            let (lead, k) ← uri true [] k.skipBlanks
            if atGap k.rest then Except.ok (Token.tagHandle (String.ofList h) lead, k)
            else .error .directiveInvalid
      else .error .directiveInvalid
    let k := k.skipBlanks.skipComment
    if atBreak k.rest then .ok ((x.push t).move (k.nextLine.2)) else .error .directiveInvalid

/-! ### Scalars -/

def quoted (x : Lexer) (single : Bool) : Except Error Lexer := do
  let x ← x.savePlace
  let (text, k) ← quotedScalar single x.cursor.next
  .ok { (x.push (.scalar (String.ofList text) false)).move k with keyAllowed := false }

def block (x : Lexer) (literal : Bool) : Except Error Lexer := do
  let x ← x.dropPlace
  let (text, k) ← blockScalar literal x.indent x.cursor.next
  .ok { (x.push (.scalar (String.ofList text) false)).move k with keyAllowed := true }

def plain (x : Lexer) : Except Error Lexer := do
  let x ← x.savePlace
  let (text, broken, k) ← plainScalar x.inFlow x.indent x.cursor
  .ok { (x.push (.scalar (String.ofList text) true)).move k with keyAllowed := broken }

/-! ### The next token -/

/-- Characters that begin no plain scalar. -/
def isMark (c : Char) : Bool := "-?:,[]{}#&*!|>'\"%@`".toList.contains c

/-- Reads the token that begins with a character, which `rest` follows. -/
def token (x : Lexer) (c : Char) (rest : List Char) : Except Error Lexer :=
  if x.cursor.column = 0 && c = '%' then x.directive
  else if x.cursor.atMark '-' then x.documentMark .documentStart
  else if x.cursor.atMark '.' then x.documentMark .documentEnd
  else if c = '[' then x.flowStart .flowSequenceStart
  else if c = '{' then x.flowStart .flowMappingStart
  else if c = ']' then x.flowEnd .flowSequenceEnd
  else if c = '}' then x.flowEnd .flowMappingEnd
  else if c = ',' then x.flowEntry
  else if c = '-' && atGap rest then x.blockEntry
  else if c = '?' && (x.inFlow || atGap rest) then x.keyMark
  else if c = ':' && (x.inFlow || atGap rest) then x.valueMark
  else if c = '*' then x.named .alias
  else if c = '&' then x.named .anchor
  else if c = '!' then x.tag
  else if c = '|' && !x.inFlow then x.block true
  else if c = '>' && !x.inFlow then x.block false
  else if c = '\'' then x.quoted true
  else if c = '"' then x.quoted false
  else if !(isBlank c || isBreak c || isMark c) || (c = '-' && !rest.head?.any isBlank) ||
      (!x.inFlow && (c = '?' || c = ':') && !atGap rest) then x.plain
  else .error (.startless c)

/-- Reads token after token to the end of the text. -/
def run : (turns : Nat) → Lexer → Except Error Lexer
  | 0, x => .ok x
  | turns + 1, x => do
    let x := skipGap (x.cursor.rest.length + 1) x
    let _ ← x.livePlace?
    let x := x.unroll x.cursor.column
    match x.cursor.rest with
    | [] => (x.unroll (-1)).dropPlace
    | c :: rest => do run turns (← x.token c rest)

end Lexer

/-- Characters that may stand in a text. -/
def isAllowed (c : Char) : Bool :=
  let n := c.toNat
  n = 9 || n = 10 || n = 13 || (0x20 ≤ n && n ≤ 0x7E) || n = 0x85 ||
    (0xA0 ≤ n && n ≤ 0xFFFD) || 0x10000 ≤ n

/-- Behind the byte order mark that a text may begin with. It takes a column of its own. -/
def skipMark (k : Cursor) : Cursor := if k.rest.head? = some '\uFEFF' then k.next else k

/-- The tokens of a text. -/
def Token.ofText? (s : List Char) : Except Error (List Token) :=
  match s.find? (!isAllowed ·) with
  | some c => .error (.control c)
  | none =>
    let x := Lexer.ofText s
    (Lexer.run (s.length + 1) (x.move (skipMark x.cursor))).map (·.tokens.toList)

end RequestDispatch.Yaml
