/-! UTF-8.

`encode` writes characters as bytes. `step` reads one piece of a byte sequence: a
character, or a broken piece, which is the longest beginning of a character that the
bytes hold and no longer than needed to see that it is broken. Strict reading
(`decode?`) refuses any broken piece; lenient reading (`decodeLenient`) puts the
replacement character in its place. -/
namespace RequestDispatch.Text.Utf8

/-- The bytes of one character. -/
def encodeChar (c : Char) : List UInt8 :=
  let n := c.toNat
  if n < 0x80 then [n.toUInt8]
  else if n < 0x800 then [(0xC0 + n / 64).toUInt8, (0x80 + n % 64).toUInt8]
  else if n < 0x10000 then
    [(0xE0 + n / 4096).toUInt8, (0x80 + n / 64 % 64).toUInt8, (0x80 + n % 64).toUInt8]
  else
    [(0xF0 + n / 262144).toUInt8, (0x80 + n / 4096 % 64).toUInt8, (0x80 + n / 64 % 64).toUInt8,
      (0x80 + n % 64).toUInt8]

def encode (s : List Char) : List UInt8 := s.flatMap encodeChar

/-- Six more bits, carried by a continuation byte within bounds. -/
def more? (low high : Nat) (sofar : Nat) (b : UInt8) : Option Nat :=
  if low ≤ b.toNat ∧ b.toNat ≤ high then some (sofar * 64 + (b.toNat - 0x80)) else none

/-- What the first byte of a longer character says: the bits it carries, the number of
bytes after it and the bounds of the next one, which keep out overlong forms,
surrogates and all above the last character. -/
def lead? (b : UInt8) : Option (Nat × Nat × Nat × Nat) :=
  let n := b.toNat
  if 0xC2 ≤ n ∧ n ≤ 0xDF then some (n - 0xC0, 1, 0x80, 0xBF)
  else if n = 0xE0 then some (0, 2, 0xA0, 0xBF)
  else if n = 0xED then some (13, 2, 0x80, 0x9F)
  else if 0xE1 ≤ n ∧ n ≤ 0xEF then some (n - 0xE0, 2, 0x80, 0xBF)
  else if n = 0xF0 then some (0, 3, 0x90, 0xBF)
  else if 0xF1 ≤ n ∧ n ≤ 0xF3 then some (n - 0xF0, 3, 0x80, 0xBF)
  else if n = 0xF4 then some (4, 3, 0x80, 0x8F)
  else none

/-- The rest of a longer character: `count` continuation bytes, the first of them within
bounds. A byte that does not fit is left unread. -/
def follow (sofar : Nat) : (count low high : Nat) → List UInt8 → Option Char × List UInt8
  | 0, _, _, r => (some (Char.ofNat sofar), r)
  | _ + 1, _, _, [] => (none, [])
  | k + 1, low, high, b :: r =>
    match more? low high sofar b with
    | some n => follow n k 0x80 0xBF r
    | none => (none, b :: r)

/-- Reads one piece behind its first byte: a character or, for `none`, a broken piece. -/
def step (b : UInt8) (r : List UInt8) : Option Char × List UInt8 :=
  if b.toNat < 0x80 then (some (Char.ofNat b.toNat), r)
  else match lead? b with
    | some (bits, count, low, high) => follow bits count low high r
    | none => (none, r)

theorem length_follow (sofar count low high : Nat) (r : List UInt8) :
    (follow sofar count low high r).2.length ≤ r.length := by
  induction count generalizing sofar low high r with
  | zero => simp [follow]
  | succ k ih =>
    cases r with
    | nil => simp [follow]
    | cons b r =>
      simp only [follow]
      split
      · exact Nat.le_succ_of_le (ih ..)
      · exact Nat.le_refl _

theorem length_step (b : UInt8) (r : List UInt8) : (step b r).2.length ≤ r.length := by
  unfold step
  split
  · exact Nat.le_refl _
  · split
    · exact length_follow ..
    · exact Nat.le_refl _

/-- The pieces of a byte sequence, in order. -/
def pieces : List UInt8 → List (Option Char)
  | [] => []
  | b :: r => (step b r).1 :: pieces (step b r).2
termination_by s => s.length
decreasing_by exact Nat.lt_succ_of_le (length_step b r)

/-- Strict reading. -/
def decode? (s : List UInt8) : Option (List Char) := (pieces s).mapM id

/-- Lenient reading. -/
def decodeLenient (s : List UInt8) : List Char := (pieces s).map (·.getD '\uFFFD')

end RequestDispatch.Text.Utf8
