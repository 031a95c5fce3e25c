import RequestDispatch.Text.Utf8

/-! UTF-8, written and read.

Strict reading takes exactly the bytes that characters are written as, and gives these characters back
(`Utf8.decode?_eq_some_iff`). Both are held against the table of UTF-8, which says what bytes carry a number
(`Utf8.Carries`). Characters are written as the standard library writes them (`Utf8.encodeChar_eq`). -/
namespace RequestDispatch.Text

namespace Utf8

/-- The first byte and the bytes after it that carry a number. None carry a surrogate or a number above the
last character, and a number is carried by no more bytes than it needs. -/
inductive Carries : Nat → UInt8 → List UInt8 → Prop where
  | one {n : Nat} (hn : n < 0x80) : Carries n n.toUInt8 []
  | two {n k l : Nat} (hn : n = k * 64 + l) (hk : k < 32) (hl : l < 64) (hlong : 2 ≤ k) :
    Carries n (0xC0 + k).toUInt8 [(0x80 + l).toUInt8]
  | three {n k l m : Nat} (hn : n = (k * 64 + l) * 64 + m) (hk : k < 16) (hl : l < 64) (hm : m < 64)
      (hlong : k = 0 → 32 ≤ l) (hsurrogate : k = 13 → l < 32) :
    Carries n (0xE0 + k).toUInt8 [(0x80 + l).toUInt8, (0x80 + m).toUInt8]
  | four {n j k l m : Nat} (hn : n = ((j * 64 + k) * 64 + l) * 64 + m) (hj : j < 5) (hk : k < 64)
      (hl : l < 64) (hm : m < 64) (hlong : j = 0 → 16 ≤ k) (hlast : j = 4 → k < 16) :
    Carries n (0xF0 + j).toUInt8 [(0x80 + k).toUInt8, (0x80 + l).toUInt8, (0x80 + m).toUInt8]

variable {n : Nat} {b : UInt8} {t r : List UInt8} {c : Char}

/-! ### Writing -/

/-- Characters are written as the standard library writes them. -/
theorem encodeChar_eq (c : Char) : encodeChar c = String.utf8EncodeChar c := by
  have hval : c.val.toNat = c.toNat := rfl
  have hc : c.toNat < 0xD800 ∨ 0xDFFF < c.toNat ∧ c.toNat < 0x110000 := c.valid
  simp only [encodeChar, String.utf8EncodeChar, hval]
  grind

/-- What a character is written as carries its number. -/
theorem exists_carries (c : Char) : ∃ b t, encodeChar c = b :: t ∧ Carries c.toNat b t := by
  have hc : c.toNat < 0xD800 ∨ 0xDFFF < c.toNat ∧ c.toNat < 0x110000 := c.valid
  unfold encodeChar
  generalize c.toNat = n at hc ⊢
  dsimp only
  split
  next => exact ⟨_, _, rfl, .one ‹_›⟩
  next =>
    split
    next => exact ⟨_, _, rfl, .two (by omega) (by omega) (by omega) (by omega)⟩
    next =>
      split
      next =>
        exact ⟨_, _, rfl, .three (by omega) (by omega) (by omega) (by omega) (by omega) (by omega)⟩
      next =>
        exact ⟨_, _, rfl, .four (by omega) (by omega) (by omega) (by omega) (by omega) (by omega) (by omega)⟩

theorem Carries.toNat_ofNat (h : Carries n b t) : (Char.ofNat n).toNat = n := by
  have hvalid : n.isValidChar := by
    unfold Nat.isValidChar
    cases h <;> omega
  rw [Char.ofNat, dif_pos hvalid]
  rfl

/-- The bytes that carry a number are what its character is written as. -/
theorem Carries.encodeChar_ofNat (h : Carries n b t) : encodeChar (Char.ofNat n) = b :: t := by
  unfold encodeChar
  rw [h.toNat_ofNat]
  cases h with
  | one hn => exact if_pos hn
  | @two k l hn hk hl hlong =>
    have hquotients : n / 64 = k ∧ n % 64 = l := by omega
    rw [if_neg (by omega), if_pos (by omega), hquotients.1, hquotients.2]
  | @three k l m hn hk hl hm hlong hsurrogate =>
    have hquotients : n / 4096 = k ∧ n / 64 % 64 = l ∧ n % 64 = m := by omega
    rw [if_neg (by omega), if_neg (by omega), if_pos (by omega), hquotients.1, hquotients.2.1, hquotients.2.2]
  | @four j k l m hn hj hk hl hm hlong hlast =>
    have hquotients : n / 262144 = j ∧ n / 4096 % 64 = k ∧ n / 64 % 64 = l ∧ n % 64 = m := by omega
    rw [if_neg (by omega), if_neg (by omega), if_neg (by omega), hquotients.1, hquotients.2.1,
      hquotients.2.2.1, hquotients.2.2.2]

/-! ### Reading -/

theorem toNat_toUInt8 (h : n < 256) : n.toUInt8.toNat = n := by
  rw [Nat.toUInt8_eq, UInt8.toNat_ofNat', Nat.mod_eq_of_lt h]

theorem lead?_two {k : Nat} (hk : k < 32) (hlong : 2 ≤ k) :
    lead? (0xC0 + k).toUInt8 = some (k, 1, 0x80, 0xBF) := by
  have hall : ∀ k < 32, k < 2 ∨ lead? (0xC0 + k).toUInt8 = some (k, 1, 0x80, 0xBF) := by decide
  exact (hall k hk).resolve_left (Nat.not_lt.2 hlong)

theorem lead?_three : ∀ k < 16, lead? (0xE0 + k).toUInt8 =
    some (k, 2, if k = 0 then 0xA0 else 0x80, if k = 13 then 0x9F else 0xBF) := by decide

theorem lead?_four : ∀ k < 5, lead? (0xF0 + k).toUInt8 =
    some (k, 3, if k = 0 then 0x90 else 0x80, if k = 4 then 0x8F else 0xBF) := by decide

/-- All that a first byte can say. -/
theorem lead?_eq_some {bits count low high : Nat} (h : lead? b = some (bits, count, low, high)) :
    (count = 1 ∧ b.toNat = 0xC0 + bits ∧ 2 ≤ bits ∧ bits < 32 ∧ low = 0x80 ∧ high = 0xBF) ∨
      (count = 2 ∧ b.toNat = 0xE0 + bits ∧ bits < 16 ∧
        low = (if bits = 0 then 0xA0 else 0x80) ∧ high = if bits = 13 then 0x9F else 0xBF) ∨
      (count = 3 ∧ b.toNat = 0xF0 + bits ∧ bits < 5 ∧
        low = (if bits = 0 then 0x90 else 0x80) ∧ high = if bits = 4 then 0x8F else 0xBF) := by
  simp only [lead?] at h
  repeat' split at h
  all_goals simp only [Option.some.injEq, Prod.mk.injEq, reduceCtorEq] at h
  all_goals
    obtain ⟨rfl, rfl, rfl, rfl⟩ := h
    grind

theorem step_of_lead? {bits count low high : Nat} (h : lead? b = some (bits, count, low, high))
    (r : List UInt8) : step b r = follow bits count low high r := by
  have hb : ¬ b.toNat < 0x80 := by
    have := lead?_eq_some h
    omega
  rw [step, if_neg hb, h]

/-- Six more bits, if they are within bounds. -/
theorem follow_cons {sofar count low high l : Nat} (hl : l < 64) (hlow : low ≤ 0x80 + l)
    (hhigh : 0x80 + l ≤ high) (r : List UInt8) :
    follow sofar (count + 1) low high ((0x80 + l).toUInt8 :: r) =
      follow (sofar * 64 + l) count 0x80 0xBF r := by
  have hb : (0x80 + l).toUInt8.toNat = 0x80 + l := toNat_toUInt8 (by omega)
  simp only [follow, more?, hb, if_pos (And.intro hlow hhigh), Nat.add_sub_cancel_left]

/-- Bytes that carry a number are read as its character. -/
theorem Carries.step_append (h : Carries n b t) (r : List UInt8) :
    step b (t ++ r) = (some (Char.ofNat n), r) := by
  cases h with
  | one hn =>
    have hb : n.toUInt8.toNat = n := toNat_toUInt8 (by omega)
    rw [step, hb, if_pos hn, List.nil_append]
  | two hn hk hl hlong =>
    rw [step_of_lead? (lead?_two hk hlong), List.cons_append, follow_cons hl (by omega) (by omega), hn]
    rfl
  | @three k l m hn hk hl hm hlong hsurrogate =>
    have hlow : (if k = 0 then 0xA0 else 0x80) ≤ 0x80 + l := by split <;> omega
    have hhigh : 0x80 + l ≤ if k = 13 then 0x9F else 0xBF := by split <;> omega
    rw [step_of_lead? (lead?_three k hk), List.cons_append, follow_cons hl hlow hhigh, List.cons_append,
      follow_cons hm (by omega) (by omega), hn]
    rfl
  | @four j k l m hn hj hk hl hm hlong hlast =>
    have hlow : (if j = 0 then 0x90 else 0x80) ≤ 0x80 + k := by split <;> omega
    have hhigh : 0x80 + k ≤ if j = 4 then 0x8F else 0xBF := by split <;> omega
    rw [step_of_lead? (lead?_four j hj), List.cons_append, follow_cons hk hlow hhigh, List.cons_append,
      follow_cons hl (by omega) (by omega), List.cons_append, follow_cons hm (by omega) (by omega), hn]
    rfl

theorem eq_toUInt8 {b : UInt8} (h : b.toNat = n) : b = n.toUInt8 := by
  rw [← h, Nat.toUInt8_eq, UInt8.ofNat_toNat]

theorem follow_succ_eq_some {sofar count low high : Nat} {s : List UInt8}
    (hbounds : 0x80 ≤ low ∧ high ≤ 0xBF) (h : follow sofar (count + 1) low high s = (some c, r)) :
    ∃ l s', s = (0x80 + l).toUInt8 :: s' ∧ l < 64 ∧ low ≤ 0x80 + l ∧ 0x80 + l ≤ high ∧
      follow (sofar * 64 + l) count 0x80 0xBF s' = (some c, r) := by
  cases s with
  | nil => cases h
  | cons b s =>
    by_cases hb : low ≤ b.toNat ∧ b.toNat ≤ high
    · have hself : b.toNat = 0x80 + (b.toNat - 0x80) := by omega
      simp only [follow, more?, if_pos hb] at h
      exact ⟨b.toNat - 0x80, s, congrArg (· :: s) (eq_toUInt8 hself), by omega, by omega, by omega, h⟩
    · simp only [follow, more?, if_neg hb, Prod.mk.injEq, reduceCtorEq, false_and] at h

/-- Only bytes that carry a number are read as a character. -/
theorem exists_carries_of_step {s : List UInt8} (h : step b s = (some c, r)) :
    ∃ n t, Carries n b t ∧ c = Char.ofNat n ∧ s = t ++ r := by
  unfold step at h
  split at h
  next hb =>
    cases h
    refine ⟨b.toNat, [], ?_, rfl, rfl⟩
    have hone := Carries.one hb
    rwa [← eq_toUInt8 rfl] at hone
  next =>
    split at h
    next bits count low high hlead =>
      rcases lead?_eq_some hlead with ⟨rfl, hb, hlong, hk, rfl, rfl⟩ | ⟨rfl, hb, hk, hlow, hhigh⟩ |
        ⟨rfl, hb, hj, hlow, hhigh⟩
      · obtain ⟨l, s, rfl, hl, -, -, h⟩ := follow_succ_eq_some (by omega) h
        cases h
        exact ⟨_, [_], eq_toUInt8 hb ▸ .two rfl hk hl hlong, rfl, rfl⟩
      · obtain ⟨l, s, rfl, hl, hlong, hsurrogate, h⟩ := follow_succ_eq_some (by grind) h
        obtain ⟨m, s, rfl, hm, -, -, h⟩ := follow_succ_eq_some (by omega) h
        cases h
        exact ⟨_, [_, _], eq_toUInt8 hb ▸ .three rfl hk hl hm (by grind) (by grind), rfl, rfl⟩
      · obtain ⟨k, s, rfl, hk, hlong, hlast, h⟩ := follow_succ_eq_some (by grind) h
        obtain ⟨l, s, rfl, hl, -, -, h⟩ := follow_succ_eq_some (by omega) h
        obtain ⟨m, s, rfl, hm, -, -, h⟩ := follow_succ_eq_some (by omega) h
        cases h
        exact ⟨_, [_, _, _], eq_toUInt8 hb ▸ .four rfl hj hk hl hm (by grind) (by grind), rfl, rfl⟩
    next => cases h

/-- A character is read from the bytes it is written as, and from no others. -/
theorem step_eq_some_iff {s : List UInt8} : step b s = (some c, r) ↔ b :: s = encodeChar c ++ r := by
  constructor
  · intro h
    obtain ⟨n, t, hcarries, rfl, rfl⟩ := exists_carries_of_step h
    rw [hcarries.encodeChar_ofNat, List.cons_append]
  · intro h
    obtain ⟨b', t, hencode, hcarries⟩ := exists_carries c
    rw [hencode, List.cons_append] at h
    cases h
    rw [hcarries.step_append, Char.ofNat_toNat]

theorem pieces_encodeChar_append (c : Char) (r : List UInt8) :
    pieces (encodeChar c ++ r) = some c :: pieces r := by
  obtain ⟨b, t, hencode, -⟩ := exists_carries c
  have hstep : step b (t ++ r) = (some c, r) := step_eq_some_iff.2 (by rw [hencode, List.cons_append])
  rw [hencode, List.cons_append, pieces, hstep]

theorem pieces_encode (s : List Char) : pieces (encode s) = s.map some := by
  induction s with
  | nil => exact pieces.eq_1
  | cons c s ih =>
    rw [List.map_cons, ← ih]
    exact pieces_encodeChar_append c (encode s)

theorem eq_encode_of_pieces {bs : List UInt8} {s : List Char} (h : pieces bs = s.map some) :
    bs = encode s := by
  induction s generalizing bs with
  | nil =>
    cases bs with
    | nil => rfl
    | cons b bs =>
      rw [pieces] at h
      cases h
  | cons c s ih =>
    cases bs with
    | nil =>
      rw [pieces] at h
      cases h
    | cons b bs =>
      rw [pieces, List.map_cons, List.cons.injEq] at h
      obtain ⟨hc, hrest⟩ := h
      have hstep : step b bs = (some c, (step b bs).2) := Prod.ext hc rfl
      rw [step_eq_some_iff.1 hstep, ih hrest]
      rfl

theorem mapM_id_eq_some_iff {α : Type} {l : List (Option α)} {s : List α} :
    l.mapM id = some s ↔ l = s.map some := by
  induction l generalizing s with
  | nil => cases s <;> simp
  | cons a l ih =>
    rw [List.mapM_cons]
    cases a with
    | none => cases s <;> simp
    | some a =>
      cases s with
      | nil => cases l.mapM id <;> simp
      | cons c s =>
        rw [List.map_cons, List.cons.injEq, ← ih]
        cases l.mapM id <;> simp

/-- **Strict reading** takes what characters are written as, and nothing else. -/
theorem decode?_eq_some_iff {bs : List UInt8} {s : List Char} : decode? bs = some s ↔ bs = encode s := by
  rw [decode?, mapM_id_eq_some_iff]
  constructor
  · exact eq_encode_of_pieces
  · rintro rfl
    exact pieces_encode s

theorem decode?_encodeChar_append (c : Char) (r : List UInt8) :
    decode? (encodeChar c ++ r) = (decode? r).map (c :: ·) := by
  unfold decode?
  rw [pieces_encodeChar_append, List.mapM_cons]
  cases (pieces r).mapM id <;> rfl

theorem encode_eq (s : List Char) : encode s = s.flatMap String.utf8EncodeChar := by
  rw [encode, funext encodeChar_eq]

end Utf8

/-- The bytes are those of some text. -/
def IsUtf8 (bs : List UInt8) : Prop := ∃ s : List Char, bs = s.flatMap String.utf8EncodeChar

namespace Utf8

theorem decode?_eq_none_iff {bs : List UInt8} : decode? bs = none ↔ ¬ IsUtf8 bs := by
  simp only [Option.eq_none_iff_forall_ne_some, ne_eq, decode?_eq_some_iff, encode_eq, IsUtf8, not_exists]

theorem le_toUInt8 (h : 0x80 ≤ n) (h' : n < 256) : 0x80 ≤ n.toUInt8.toNat := by
  rwa [toNat_toUInt8 h']

/-- Bytes that only together carry a number are none of ASCII. -/
theorem Carries.high (h : Carries n b t) : t = [] ∨ ∀ x ∈ b :: t, 0x80 ≤ x.toNat := by
  cases h with
  | one => exact .inl rfl
  | two =>
    refine .inr (List.forall_mem_cons.2 ⟨?_, List.forall_mem_cons.2 ⟨?_, nofun⟩⟩) <;>
      exact le_toUInt8 (by omega) (by omega)
  | three =>
    refine .inr (List.forall_mem_cons.2 ⟨?_, List.forall_mem_cons.2 ⟨?_, List.forall_mem_cons.2
      ⟨?_, nofun⟩⟩⟩) <;> exact le_toUInt8 (by omega) (by omega)
  | four =>
    refine .inr (List.forall_mem_cons.2 ⟨?_, List.forall_mem_cons.2 ⟨?_, List.forall_mem_cons.2
      ⟨?_, List.forall_mem_cons.2 ⟨?_, nofun⟩⟩⟩⟩) <;> exact le_toUInt8 (by omega) (by omega)

/-- A byte of ASCII is written for no other character. -/
theorem eq_singleton_of_mem (hb : b.toNat < 0x80) (h : b ∈ String.utf8EncodeChar c) :
    String.utf8EncodeChar c = [b] := by
  rw [← encodeChar_eq] at h ⊢
  obtain ⟨b', t, hencode, hcarries⟩ := exists_carries c
  rw [hencode] at h ⊢
  rcases hcarries.high with rfl | hhigh
  · rw [List.mem_singleton.1 h]
  · exact absurd (hhigh b h) (Nat.not_le.2 hb)

/-- At a byte of ASCII a text can be cut. -/
theorem isUtf8_append_cons_iff {p q : List UInt8} (hb : b.toNat < 0x80) :
    IsUtf8 (p ++ b :: q) ↔ IsUtf8 p ∧ IsUtf8 q := by
  constructor
  · rintro ⟨s, h⟩
    induction s generalizing p with
    | nil => cases p <;> cases h
    | cons c s ih =>
      rw [List.flatMap_cons, List.append_eq_append_iff] at h
      rcases h with ⟨p', hc, h⟩ | ⟨p', rfl, h⟩
      · cases p' with
        | nil =>
          obtain ⟨-, hq⟩ := ih (p := []) h
          rw [List.append_nil] at hc
          exact ⟨⟨[c], by rw [← hc, List.flatMap_singleton]⟩, hq⟩
        | cons b' p' =>
          -- The byte is one of those of a character, so it is that character.
          cases h
          have hsingle := eq_singleton_of_mem hb (hc ▸ List.mem_append_right p List.mem_cons_self)
          obtain ⟨rfl, rfl⟩ : p = [] ∧ p' = [] := by
            rw [hsingle] at hc
            simpa [eq_comm, List.append_eq_singleton_iff] using hc
          exact ⟨⟨[], rfl⟩, s, rfl⟩
      · obtain ⟨⟨t, ht⟩, hq⟩ := ih h.symm
        exact ⟨⟨c :: t, by rw [List.flatMap_cons, ← ht]⟩, hq⟩
  · rintro ⟨⟨s, rfl⟩, t, rfl⟩
    have hself : String.utf8EncodeChar (Char.ofNat b.toNat) = [b] := by
      rw [← encodeChar_eq, (Carries.one hb).encodeChar_ofNat, ← eq_toUInt8 rfl]
    exact ⟨s ++ Char.ofNat b.toNat :: t, by rw [List.flatMap_append, List.flatMap_cons, hself]; rfl⟩

end Utf8
end RequestDispatch.Text
