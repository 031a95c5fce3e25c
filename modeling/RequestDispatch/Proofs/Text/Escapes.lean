import RequestDispatch.Proofs.Text.Utf8
import RequestDispatch.Text.Escape

/-! What escapes stand for.

`Escape.StandsFor` says which bytes a text with escapes stands for, and `Escape.Encodes` what a text may be
encoded as. Escapes are undone exactly if every mark begins one and all the bytes are UTF-8
(`Escape.decode?_eq_some_iff`, `Escape.decode?_eq_none_iff`); whatever a text was encoded as gives it back
(`Escape.Encodes.decode?_eq`). -/
namespace RequestDispatch.Text.Escape

/-- A digit of base 16, in small or in capital letters. -/
def HexDigit (n : Nat) (c : Char) : Prop :=
  n < 16 ∧ (c = Nat.digitChar n ∨ c = (Nat.digitChar n).toUpper)

instance (n : Nat) (c : Char) : Decidable (HexDigit n c) := inferInstanceAs (Decidable (_ ∧ _))

/-- The two digits of an escape for a byte. -/
structure Digits (b : UInt8) (x y : Char) : Prop where
  high : HexDigit (b.toNat / 16) x
  low : HexDigit (b.toNat % 16) y

/-- The bytes a text stands for: an escape for its byte, and any other character for itself. -/
inductive StandsFor : List Char → List UInt8 → Prop where
  | nil : StandsFor [] []
  | escape {b : UInt8} {x y : Char} {s : List Char} {bs : List UInt8} (hdigits : Digits b x y)
      (hrest : StandsFor s bs) : StandsFor ('%' :: x :: y :: s) (b :: bs)
  | kept {c : Char} {s : List Char} {bs : List UInt8} (hc : c ≠ '%') (hrest : StandsFor s bs) :
    StandsFor (c :: s) (String.utf8EncodeChar c ++ bs)

/-- Some mark is not followed by two digits. -/
def Broken (s : List Char) : Prop :=
  ∃ before after, s = before ++ '%' :: after ∧ ¬ ∃ b x y rest, after = x :: y :: rest ∧ Digits b x y

/-- Bytes, an escape for each. -/
inductive Escapes : List UInt8 → List Char → Prop where
  | nil : Escapes [] []
  | cons {b : UInt8} {x y : Char} {bs : List UInt8} {e : List Char} (hdigits : Digits b x y)
      (hrest : Escapes bs e) : Escapes (b :: bs) ('%' :: x :: y :: e)

/-- A text, each character as it is or its bytes escaped. Marks and slashes are always escaped. -/
inductive Encodes : List Char → List Char → Prop where
  | nil : Encodes [] []
  | kept {c : Char} {s e : List Char} (hmark : c ≠ '%') (hslash : c ≠ '/') (hrest : Encodes s e) :
    Encodes (c :: s) (c :: e)
  | escaped {c : Char} {s w e : List Char} (hc : Escapes (String.utf8EncodeChar c) w)
      (hrest : Encodes s e) : Encodes (c :: s) (w ++ e)

variable {c x y : Char} {s t e : List Char} {bs : List UInt8} {b : UInt8} {n : Nat}

/-! ### Digits -/

theorem hexDigit?_eq_some_iff : hexDigit? c = some n ↔ HexDigit n c := by
  constructor
  · intro h
    have hall : ∀ k < 103, ∀ n ∈ hexDigit? (Char.ofNat k), HexDigit n (Char.ofNat k) := by decide
    have hc : c.toNat < 103 := by
      unfold hexDigit? at h
      grind
    have hdigit := hall c.toNat hc n
    rw [Char.ofNat_toNat] at hdigit
    exact hdigit h
  · rintro ⟨hn, rfl | rfl⟩
    · exact (by decide : ∀ n < 16, hexDigit? (Nat.digitChar n) = some n) n hn
    · exact (by decide : ∀ n < 16, hexDigit? (Nat.digitChar n).toUpper = some n) n hn

theorem HexDigit.ne_of_hexDigit? (h : HexDigit n c) {d : Char} (hd : hexDigit? d = none) : c ≠ d := by
  rintro rfl
  rw [hexDigit?_eq_some_iff.2 h] at hd
  cases hd

theorem digits_of_hexDigit? {high low : Nat} (hx : hexDigit? x = some high) (hy : hexDigit? y = some low) :
    Digits (16 * high + low).toUInt8 x y := by
  rw [hexDigit?_eq_some_iff] at hx hy
  have hlow := hy.1
  have hbyte : (16 * high + low).toUInt8.toNat = 16 * high + low :=
    Utf8.toNat_toUInt8 (by have := hx.1; omega)
  have hhigh : (16 * high + low) / 16 = high := by omega
  have hrest : (16 * high + low) % 16 = low := by omega
  exact ⟨by rwa [hbyte, hhigh], by rwa [hbyte, hrest]⟩

theorem Digits.bytes?_cons (h : Digits b x y) (s : List Char) :
    bytes? ('%' :: x :: y :: s) = (bytes? s).map (b :: ·) := by
  have hbyte : (16 * (b.toNat / 16) + b.toNat % 16).toUInt8 = b := by
    rw [Nat.div_add_mod, Nat.toUInt8_eq, UInt8.ofNat_toNat]
  rw [bytes?, hexDigit?_eq_some_iff.2 h.high, hexDigit?_eq_some_iff.2 h.low]
  simp only [Option.bind_eq_bind, Option.bind_some, hbyte]
  cases bytes? s <;> rfl

/-! ### Bytes -/

theorem bytes?_cons_of_ne (hc : c ≠ '%') (s : List Char) :
    bytes? (c :: s) = (bytes? s).map (String.utf8EncodeChar c ++ ·) := by
  rw [bytes?.eq_3 c s fun _ _ _ h _ => hc h, if_neg hc, Utf8.encodeChar_eq]

theorem standsFor_of_bytes? (h : bytes? s = some bs) : StandsFor s bs := by
  induction s using bytes?.induct generalizing bs with
  | case1 =>
    cases h
    exact .nil
  | case2 x y s ih =>
    rw [bytes?] at h
    simp only [Option.bind_eq_bind, Option.bind_eq_some_iff] at h
    obtain ⟨high, hx, low, hy, bs', hs, h⟩ := h
    cases h
    exact .escape (digits_of_hexDigit? hx hy) (ih hs)
  | case3 s hshort =>
    rw [bytes?.eq_3 '%' s hshort, if_pos rfl] at h
    cases h
  | case4 c s _ hc ih =>
    rw [bytes?_cons_of_ne hc] at h
    obtain ⟨bs', hs, rfl⟩ := Option.map_eq_some_iff.1 h
    exact .kept hc (ih hs)

theorem bytes?_eq_some_iff : bytes? s = some bs ↔ StandsFor s bs := by
  refine ⟨standsFor_of_bytes?, fun h => ?_⟩
  induction h with
  | nil => rfl
  | escape hdigits _ ih => rw [hdigits.bytes?_cons, ih, Option.map_some]
  | kept hc _ ih => rw [bytes?_cons_of_ne hc, ih, Option.map_some]

theorem broken_cons_iff_of_ne (hc : c ≠ '%') : Broken (c :: s) ↔ Broken s := by
  constructor
  · rintro ⟨before, after, h, hdigits⟩
    cases before with
    | nil => exact absurd (List.cons.inj h).1 hc
    | cons _ before => exact ⟨before, after, (List.cons.inj h).2, hdigits⟩
  · rintro ⟨before, after, rfl, hdigits⟩
    exact ⟨c :: before, after, rfl, hdigits⟩

theorem broken_escape_iff (h : Digits b x y) : Broken ('%' :: x :: y :: s) ↔ Broken s := by
  have hx : x ≠ '%' := h.high.ne_of_hexDigit? rfl
  have hy : y ≠ '%' := h.low.ne_of_hexDigit? rfl
  refine Iff.trans ?_ ((broken_cons_iff_of_ne hx).trans (broken_cons_iff_of_ne hy))
  constructor
  · rintro ⟨before, after, hs, hdigits⟩
    cases before with
    | nil => exact absurd ⟨b, x, y, s, (List.cons.inj hs).2.symm, h⟩ hdigits
    | cons _ before => exact ⟨before, after, (List.cons.inj hs).2, hdigits⟩
  · rintro ⟨before, after, hs, hdigits⟩
    exact ⟨'%' :: before, after, congrArg ('%' :: ·) hs, hdigits⟩

/-- A text stands for bytes unless some mark is not followed by two digits. -/
theorem bytes?_eq_none_iff : bytes? s = none ↔ Broken s := by
  induction s using bytes?.induct with
  | case1 =>
    refine ⟨nofun, ?_⟩
    rintro ⟨before, after, h, -⟩
    cases before <;> cases h
  | case2 x y s ih =>
    by_cases hdigits : ∃ b, Digits b x y
    · obtain ⟨b, hdigits⟩ := hdigits
      rw [hdigits.bytes?_cons, Option.map_eq_none_iff, ih, broken_escape_iff hdigits]
    · refine iff_of_true ?_ ⟨[], x :: y :: s, rfl, ?_⟩
      · rw [Option.eq_none_iff_forall_ne_some]
        intro bs h
        cases standsFor_of_bytes? h with
        | escape hb => exact hdigits ⟨_, hb⟩
        | kept hc => exact hc rfl
      · rintro ⟨b, x', y', s', h, hb⟩
        cases h
        exact hdigits ⟨b, hb⟩
  | case3 s hshort =>
    refine iff_of_true ?_ ⟨[], s, rfl, ?_⟩
    · rw [bytes?.eq_3 '%' s hshort, if_pos rfl]
    · rintro ⟨-, x, y, rest, h, -⟩
      exact hshort x y rest rfl h
  | case4 c s _ hc ih =>
    rw [bytes?_cons_of_ne hc, Option.map_eq_none_iff, ih, broken_cons_iff_of_ne hc]

/-! ### Texts -/

/-- Escapes that cannot be undone: one is broken, or the bytes are no text. -/
def Unreadable (s : List Char) : Prop := Broken s ∨ ∃ bs, StandsFor s bs ∧ ¬ IsUtf8 bs

theorem decode?_eq_some_iff : decode? s = some t ↔ StandsFor s (t.flatMap String.utf8EncodeChar) := by
  rw [decode?, Option.bind_eq_some_iff]
  simp only [Utf8.decode?_eq_some_iff, bytes?_eq_some_iff, Utf8.encode_eq]
  constructor
  · rintro ⟨bs, h, rfl⟩
    exact h
  · exact fun h => ⟨_, h, rfl⟩

theorem decode?_eq_none_iff : decode? s = none ↔ Unreadable s := by
  unfold Unreadable decode?
  simp only [← bytes?_eq_none_iff, ← bytes?_eq_some_iff]
  cases bytes? s with
  | none => simp
  | some bs => simp [Utf8.decode?_eq_none_iff]

/-- A text that can be read is decoded, any other is left as it is. -/
theorem decode_eq_iff : decode s = t ↔
    StandsFor s (t.flatMap String.utf8EncodeChar) ∨ Unreadable s ∧ t = s := by
  rw [decode, ← decode?_eq_some_iff, ← decode?_eq_none_iff]
  cases decode? s with
  | none => simp [eq_comm]
  | some t' => simp

theorem Unreadable.decode_eq (h : Unreadable s) : decode s = s := decode_eq_iff.2 (.inr ⟨h, rfl⟩)

theorem Unreadable.ne_nil (h : Unreadable s) : s ≠ [] := by
  rintro rfl
  have hempty : decode? [] = some [] := decode?_eq_some_iff.2 .nil
  cases (decode?_eq_none_iff.2 h).symm.trans hempty

theorem decode?_cons_of_ne (hc : c ≠ '%') (s : List Char) : decode? (c :: s) = (decode? s).map (c :: ·) := by
  rw [decode?, decode?, bytes?_cons_of_ne hc, ← Utf8.encodeChar_eq, Option.bind_map, Option.map_bind]
  exact congrArg _ (funext fun bs => Utf8.decode?_encodeChar_append c bs)

/-- A character other than the mark stays where it is. -/
theorem decode_cons_of_ne (hc : c ≠ '%') (s : List Char) : decode (c :: s) = c :: decode s := by
  rw [decode, decode, decode?_cons_of_ne hc]
  cases decode? s <;> rfl

theorem decode_nil : decode [] = [] := by decide +kernel

/-- No character alone is an escape. -/
theorem decode_singleton (c : Char) : decode [c] = [c] := by
  by_cases hc : c = '%'
  · subst hc
    decide
  · rw [decode_cons_of_ne hc, decode_nil]

/-- What a text was encoded as stands for its bytes. -/
theorem Escapes.standsFor {w : List Char} (hw : Escapes bs w) {bs' : List UInt8} (h : StandsFor s bs') :
    StandsFor (w ++ s) (bs ++ bs') := by
  induction hw with
  | nil => exact h
  | cons hdigits _ ih => exact .escape hdigits ih

theorem Encodes.standsFor (h : Encodes s e) : StandsFor e (s.flatMap String.utf8EncodeChar) := by
  induction h with
  | nil => exact .nil
  | kept hmark _ _ ih => exact .kept hmark ih
  | escaped hc _ ih => exact hc.standsFor ih

theorem Encodes.decode?_eq (h : Encodes s e) : decode? e = some s := decode?_eq_some_iff.2 h.standsFor

theorem Digits.slash_not_mem (h : Digits b x y) : '/' ∉ ['%', x, y] := by
  have hx : x ≠ '/' := h.high.ne_of_hexDigit? rfl
  have hy : y ≠ '/' := h.low.ne_of_hexDigit? rfl
  simp [hx.symm, hy.symm]

theorem Escapes.slash_not_mem {w : List Char} (h : Escapes bs w) : '/' ∉ w := by
  induction h with
  | nil => exact List.not_mem_nil
  | cons hdigits _ ih =>
    exact fun hmem => (List.mem_append.1 hmem).elim hdigits.slash_not_mem ih

/-- What is encoded has no slashes. -/
theorem Encodes.slash_not_mem (h : Encodes s e) : '/' ∉ e := by
  induction h with
  | nil => exact List.not_mem_nil
  | kept _ hslash _ ih => exact List.not_mem_cons_of_ne_of_not_mem hslash.symm ih
  | escaped hc _ ih => exact fun hmem => (List.mem_append.1 hmem).elim hc.slash_not_mem ih

end RequestDispatch.Text.Escape
