import RequestDispatch.Json.Tree
import RequestDispatch.Text.Cut
import RequestDispatch.Text.Escape

/-! Reading JSON.

`Json.ofText?` reads one value and nothing but white space around it. The readers take
what they need from the front of the text and give the rest back; each value takes at
least one character, so as many turns as there are characters are enough. -/
namespace RequestDispatch.Json

def isSpace (c : Char) : Bool := c = ' ' || c = '\t' || c = '\n' || c = '\r'

def skipSpace (s : List Char) : List Char := s.dropWhile isSpace

/-! ### Strings -/

/-- The number of four hexadecimal digits. -/
def unit? : List Char → Option (Nat × List Char)
  | a :: b :: c :: d :: rest => do
    let a ← Text.Escape.hexDigit? a
    let b ← Text.Escape.hexDigit? b
    let c ← Text.Escape.hexDigit? c
    let d ← Text.Escape.hexDigit? d
    some (4096 * a + 256 * b + 16 * c + d, rest)
  | _ => none

/-- What a string's characters denote: a character, or half of one written as a pair. -/
inductive Piece where
  | char (c : Char)
  | half (n : Nat)

/-- One character or escape of a string, read from behind its first character. -/
def piece? (c : Char) (rest : List Char) : Option (Piece × List Char) :=
  if c ≠ '\\' then if c.toNat < 32 then none else some (.char c, rest)
  else match rest with
    | '"' :: rest => some (.char '"', rest)
    | '\\' :: rest => some (.char '\\', rest)
    | '/' :: rest => some (.char '/', rest)
    | 'b' :: rest => some (.char '\x08', rest)
    | 'f' :: rest => some (.char '\x0c', rest)
    | 'n' :: rest => some (.char '\n', rest)
    | 'r' :: rest => some (.char '\r', rest)
    | 't' :: rest => some (.char '\t', rest)
    | 'u' :: rest => (unit? rest).map fun (n, rest) =>
      (if 0xD800 ≤ n ∧ n < 0xE000 then .half n else .char (Char.ofNat n), rest)
    | _ => none

/-- The pieces up to the closing quote. -/
def pieces? : (turns : Nat) → List Char → Option (List Piece × List Char)
  | 0, _ | _, [] => none
  | turns + 1, c :: rest =>
    if c = '"' then some ([], rest)
    else do
      let (p, rest) ← piece? c rest
      let (ps, rest) ← pieces? turns rest
      some (p :: ps, rest)

/-- The characters of a string, if each first half is followed by a second. -/
def join? : List Piece → Option (List Char)
  | [] => some []
  | .char c :: rest => (join? rest).map (c :: ·)
  | .half a :: .half b :: rest =>
    if a < 0xDC00 ∧ 0xDC00 ≤ b then
      (join? rest).map (Char.ofNat (0x10000 + 1024 * (a - 0xD800) + (b - 0xDC00)) :: ·)
    else none
  | .half _ :: _ => none

/-- A string behind its opening quote. -/
def string? (s : List Char) : Option (Option String × List Char) :=
  (pieces? (s.length + 1) s).map fun (ps, rest) => ((join? ps).map String.ofList, rest)

/-! ### Numbers -/

/-- One or more digits. -/
def digits? (s : List Char) : Option (List Char) :=
  match s.takeWhile Char.isDigit with
  | [] => none
  | _ => some (s.dropWhile Char.isDigit)

/-- What follows a number: an integer without zeros before it, perhaps a fraction, perhaps
an exponent. -/
def number? (s : List Char) : Option (List Char) := do
  let s := match s with
    | '-' :: rest => rest
    | s => s
  let s ← match s with
    | '0' :: rest => if rest.head?.any Char.isDigit then none else some rest
    | s => digits? s
  let s ← match s with
    | '.' :: rest => digits? rest
    | s => some s
  match s with
  | 'e' :: rest | 'E' :: rest =>
    match rest with
    | '+' :: rest | '-' :: rest => digits? rest
    | rest => digits? rest
  | s => some s

/-! ### Values -/

mutual

/-- A value at the front of the text. -/
def value? : (turns : Nat) → List Char → Option (Json × List Char)
  | 0, _ => none
  | turns + 1, s =>
    match skipSpace s with
    | [] => none
    | '"' :: rest => (string? rest).map fun (t, rest) => (.string t, rest)
    | '[' :: rest =>
      match skipSpace rest with
      | ']' :: rest => some (.array [], rest)
      | rest => (items? turns rest).map fun (items, rest) => (.array items, rest)
    | '{' :: rest =>
      match skipSpace rest with
      | '}' :: rest => some (.object [], rest)
      | rest => (fields? turns rest).map fun (fields, rest) => (.object fields, rest)
    | c :: rest =>
      if c = '-' ∨ c.isDigit then (number? (c :: rest)).map fun rest => (.number, rest)
      else
        match Text.dropLead? "null".toList (c :: rest), Text.dropLead? "true".toList (c :: rest),
            Text.dropLead? "false".toList (c :: rest) with
        | some rest, _, _ => some (.null, rest)
        | _, some rest, _ => some (.bool true, rest)
        | _, _, some rest => some (.bool false, rest)
        | none, none, none => none

/-- The items of an array, up to its closing bracket. -/
def items? : (turns : Nat) → List Char → Option (List Json × List Char)
  | 0, _ => none
  | turns + 1, s => do
    let (v, rest) ← value? turns s
    match skipSpace rest with
    | ',' :: rest =>
      let (vs, rest) ← items? turns rest
      some (v :: vs, rest)
    | ']' :: rest => some ([v], rest)
    | _ => none

/-- The fields of an object, up to its closing brace. -/
def fields? : (turns : Nat) → List Char → Option (List (Option String × Json) × List Char)
  | 0, _ => none
  | turns + 1, s =>
    match skipSpace s with
    | '"' :: rest => do
      let (name, rest) ← string? rest
      match skipSpace rest with
      | ':' :: rest =>
        let (v, rest) ← value? turns rest
        match skipSpace rest with
        | ',' :: rest =>
          let (fs, rest) ← fields? turns rest
          some ((name, v) :: fs, rest)
        | '}' :: rest => some ([(name, v)], rest)
        | _ => none
      | _ => none
    | _ => none

end

/-- The value a text writes. -/
def ofText? (s : String) : Option Json :=
  match value? (2 * s.toList.length + 2) s.toList with
  | some (v, rest) => if (skipSpace rest).isEmpty then some v else none
  | none => none

end RequestDispatch.Json
