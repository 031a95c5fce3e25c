import RequestDispatch.Proofs.Regex.Remainder

/-! Readers read what they take and nothing else.

If a reader goes through a text and leaves its end alone, it goes through the text without
that end as well and reads the same. This module is about blanks, runs of characters and
escapes. -/
namespace RequestDispatch.Regex

open Text (isBlank)

/-! ### Ends of texts -/

section Ends
variable {α : Type} {s t rest v : List α}

/-- An end that is left over was there before. -/
theorem append_of_suffix (h : rest ++ t <:+ v) : ∃ w, v = w ++ t ∧ rest <:+ w := by
  obtain ⟨read, rfl⟩ := h
  exact ⟨read ++ rest, (List.append_assoc ..).symm, read, rfl⟩

theorem suffix_of_append_suffix (h : rest ++ t <:+ s ++ t) : rest <:+ s := by
  obtain ⟨w, hw, hrest⟩ := append_of_suffix h
  exact List.append_cancel_right hw ▸ hrest

theorem ne_nil_of_suffix (hne : rest ≠ []) (h : rest ++ t <:+ s ++ t) : s ≠ [] := fun hnil =>
  hne (List.suffix_nil.1 (hnil ▸ suffix_of_append_suffix h))

theorem eq_of_append {β : Type} {a b : β} (h : (a, s ++ t) = (b, rest ++ t)) : a = b ∧ s = rest :=
  ⟨congrArg Prod.fst h, List.append_cancel_right (congrArg Prod.snd h)⟩

/-- A character that was taken does not belong to an end that was left. -/
theorem cons_of_append {c : α} (h : s ++ t = c :: v) (hv : rest ++ t <:+ v) :
    ∃ w, s = c :: w ∧ v = w ++ t ∧ rest <:+ w := by
  obtain ⟨w, rfl, hrest⟩ := append_of_suffix hv
  exact ⟨w, List.append_cancel_right h, rfl, hrest⟩

theorem dropWhile_append_of_suffix {p : α → Bool} (h : rest ++ t <:+ (s ++ t).dropWhile p) :
    (s ++ t).dropWhile p = s.dropWhile p ++ t := by
  rw [List.dropWhile_append] at h ⊢
  split
  next hnil =>
    rw [if_pos hnil] at h
    have ht : t.dropWhile p = t :=
      (List.dropWhile_suffix p).eq_of_length_le
        ((List.suffix_append rest t).trans h).length_le
    rw [ht, List.isEmpty_iff.1 hnil, List.nil_append]
  next => rfl

end Ends

section Readers
variable {extended : Bool} {m n : Nat} {s t rest : List Char}

/-! ### Blanks and comments -/

theorem skipFrom_append (inComment : Bool) (s t : List Char) :
    skipFrom inComment (s ++ t) = skipFrom inComment s ++ t ∨
      skipFrom inComment s = [] ∧ skipFrom inComment (s ++ t) <:+ t := by
  induction s generalizing inComment with
  | nil => exact .inr ⟨by cases inComment <;> rfl, skipFrom_suffix inComment t⟩
  | cons c s ih =>
    cases inComment with
    | true => exact ih (c != '\n')
    | false =>
      rw [List.cons_append, skipFrom, skipFrom]
      split
      · exact ih false
      split
      · exact ih true
      · exact .inl rfl

theorem skip_append_or (extended : Bool) (s t : List Char) :
    skip extended (s ++ t) = skip extended s ++ t ∨
      skip extended s = [] ∧ skip extended (s ++ t) <:+ t := by
  cases extended with
  | false => exact .inl rfl
  | true => exact skipFrom_append false s t

theorem skip_append (h : rest ++ t <:+ skip extended (s ++ t)) :
    skip extended (s ++ t) = skip extended s ++ t := by
  obtain heq | ⟨hnil, ht⟩ := skip_append_or extended s t
  · exact heq
  · rw [hnil, List.nil_append]
    exact ht.eq_of_length_le ((List.suffix_append rest t).trans h).length_le

theorem skip_append_of_ne_nil (h : skip extended s ≠ []) :
    skip extended (s ++ t) = skip extended s ++ t :=
  (skip_append_or extended s t).resolve_right fun hnil => h hnil.1

theorem skip_of_append (h : skip extended (s ++ t) = rest ++ t) : skip extended s = rest := by
  have hs : rest ++ t <:+ skip extended (s ++ t) := h ▸ List.suffix_refl (rest ++ t)
  exact List.append_cancel_right ((skip_append hs).symm.trans h)

theorem skip_length_le (h : s.length ≤ n) : (skip extended s).length ≤ n :=
  Nat.le_trans (skip_suffix extended s).length_le h

theorem gather_nil (extended : Bool) (test : Char → Bool) (n : Nat) :
    gather extended test n [] = ([], []) := by
  cases n <;> rfl

theorem gather_of_append {test : Char → Bool} {read : List Char} (hm : (s ++ t).length ≤ m) (hn : s.length ≤ n)
    (h : gather extended test m (s ++ t) = (read, rest ++ t)) :
    gather extended test n s = (read, rest) := by
  induction m generalizing s n read with
  | zero =>
    obtain ⟨rfl, rfl⟩ := List.append_eq_nil_iff.1 (List.eq_nil_of_length_eq_zero (Nat.le_zero.1 hm))
    simpa only [List.append_nil, gather_nil] using h
  | succ m ih =>
    generalize hu : s ++ t = u at h hm
    cases u with
    | nil =>
      obtain ⟨rfl, rfl⟩ := List.append_eq_nil_iff.1 hu
      simpa only [List.append_nil, gather_nil] using h
    | cons c v =>
      have hv : (skip extended v).length ≤ m := skip_length_le (Nat.le_of_succ_le_succ hm)
      rw [gather] at h
      split at h
      next hc =>
        generalize hmore : gather extended test m (skip extended v) = more at h
        obtain ⟨cs, left⟩ := more
        cases h
        have hrest := gather_suffix extended test m (skip extended v)
        rw [hmore] at hrest
        obtain ⟨w, rfl, rfl, -⟩ := cons_of_append hu (hrest.trans (skip_suffix extended v))
        obtain ⟨n, rfl⟩ := Nat.exists_eq_succ_of_ne_zero (Nat.ne_zero_of_lt hn)
        have hw : (skip extended w).length ≤ n := skip_length_le (Nat.le_of_succ_le_succ hn)
        rw [skip_append hrest] at hmore hv
        rw [gather, if_pos hc, ih hv hw hmore]
      next hc =>
        rw [← hu] at h
        obtain ⟨rfl, rfl⟩ := eq_of_append h
        cases s with
        | nil => exact gather_nil extended test n
        | cons d w =>
          cases hu
          obtain ⟨n, rfl⟩ := Nat.exists_eq_succ_of_ne_zero (Nat.ne_zero_of_lt hn)
          rw [gather, if_neg hc]

/-! ### Escapes -/

theorem hexDigits_of_append {digits : List Char}
    (h : hexDigits extended n (s ++ t) = .ok (digits, rest ++ t)) :
    hexDigits extended n s = .ok (digits, rest) := by
  induction n generalizing s digits with
  | zero =>
    obtain ⟨rfl, rfl⟩ := eq_of_append (Except.ok.inj h)
    rw [hexDigits]
  | succ n ih =>
    generalize hu : s ++ t = u at h
    cases u with
    | nil => cases h
    | cons c v =>
      rw [hexDigits] at h
      split at h
      next hc =>
        obtain ⟨⟨ds, left⟩, hmore, h⟩ := ok_of_bind h
        cases h
        have hrest := (suffix_of_hexDigits hmore).1
        obtain ⟨w, rfl, rfl, -⟩ := cons_of_append hu (hrest.trans (skip_suffix extended v))
        rw [skip_append hrest] at hmore
        rw [hexDigits, if_pos hc]
        exact bind_of_ok (ih hmore) _
      next => cases h

theorem braced_of_append {test : Char → Bool} {inner : List Char}
    (h : braced extended test m (s ++ t) = .ok (inner, rest ++ t)) (hn : s.length ≤ n) :
    braced extended test n s = .ok (inner, rest) := by
  induction m generalizing s n inner with
  | zero => cases h
  | succ m ih =>
    generalize hu : s ++ t = u at h
    cases u with
    | nil => cases h
    | cons c v =>
      rw [braced] at h
      split at h
      next hc =>
        cases h
        obtain ⟨w, rfl, hw, -⟩ := cons_of_append hu (List.suffix_refl _)
        obtain ⟨n, rfl⟩ := Nat.exists_eq_succ_of_ne_zero (Nat.ne_zero_of_lt hn)
        rw [List.append_cancel_right hw, braced, if_pos hc]
      next hc =>
        split at h
        next htest =>
          obtain ⟨⟨cs, left⟩, hmore, h⟩ := ok_of_bind h
          cases h
          have hrest := suffix_of_cons (suffix_of_braced hmore)
          obtain ⟨w, rfl, rfl, -⟩ := cons_of_append hu (hrest.trans (skip_suffix extended v))
          obtain ⟨n, rfl⟩ := Nat.exists_eq_succ_of_ne_zero (Nat.ne_zero_of_lt hn)
          rw [skip_append hrest] at hmore
          have hw : (skip extended w).length ≤ n := skip_length_le (Nat.le_of_succ_le_succ hn)
          rw [braced, if_neg hc, if_pos htest]
          exact bind_of_ok (ih hmore hw) _
        next => cases h

theorem hexEscape_of_append {count : Nat} {l : Letter}
    (h : hexEscape extended (count + 1) (s ++ t) = .ok (l, rest ++ t)) :
    hexEscape extended (count + 1) s = .ok (l, rest) := by
  have hskip := skip_append (suffix_of_hexEscape h)
  unfold hexEscape at h ⊢
  rw [hskip] at h
  generalize skip extended s = u at h ⊢
  generalize hv : u ++ t = v at h
  split at h
  · cases h
  next behind =>
    obtain ⟨⟨digits, left⟩, hbraced, h⟩ := ok_of_bind h
    dsimp only at h
    split at h
    · cases h
    next hdigits =>
    split at h
    case h_2 => cases h
    next c hc =>
    obtain ⟨rfl, hleft⟩ := Prod.mk.inj (Except.ok.inj h)
    have hrest : rest ++ t <:+ left := hleft ▸ skip_suffix extended left
    have hbehind := hrest.trans (suffix_of_cons (suffix_of_braced hbraced))
    obtain ⟨w, rfl, rfl, -⟩ := cons_of_append hv (hbehind.trans (skip_suffix extended behind))
    obtain ⟨left, rfl, -⟩ := append_of_suffix hrest
    rw [skip_append hbehind] at hbraced
    have hw : (skip extended w).length ≤ w.length + 1 := skip_length_le (Nat.le_succ _)
    refine (bind_of_ok (braced_of_append hbraced hw) _).trans ?_
    dsimp only
    rw [if_neg hdigits, hc, skip_of_append hleft]
  next hnil hbrace =>
    obtain ⟨⟨digits, left⟩, hdigits, h⟩ := ok_of_bind h
    dsimp only at h
    split at h <;> cases h
    next c hc =>
    have hrest := (suffix_of_hexDigits hdigits).2 (Nat.succ_pos count)
    cases v with
    | nil => exact absurd rfl hnil
    | cons c v =>
      obtain ⟨w, rfl, rfl, -⟩ := cons_of_append hv hrest
      split
      next heq => cases heq
      next heq =>
        cases heq
        exact absurd rfl (hbrace _)
      next =>
        rw [bind_of_ok (hexDigits_of_append hdigits)]
        dsimp only
        rw [hc]

theorem propertyEscape_of_append {negated negated' : Bool} {q : Unicode.Query}
    (h : propertyEscape extended negated (s ++ t) = .ok (q, negated', rest ++ t)) :
    propertyEscape extended negated s = .ok (q, negated', rest) := by
  have hskip := skip_append (suffix_of_propertyEscape h)
  unfold propertyEscape at h ⊢
  rw [hskip] at h
  generalize skip extended s = u at h ⊢
  generalize hv : u ++ t = v at h
  split at h
  · cases h
  next behind =>
    obtain ⟨⟨inner, left⟩, hbraced, h⟩ := ok_of_bind h
    cases h
    have hbehind := suffix_of_cons (suffix_of_braced hbraced)
    obtain ⟨w, rfl, rfl, -⟩ := cons_of_append hv (hbehind.trans (skip_suffix extended behind))
    rw [skip_append hbehind] at hbraced
    have hw : (skip extended w).length ≤ w.length + 1 := skip_length_le (Nat.le_succ _)
    exact bind_of_ok (braced_of_append hbraced hw) _
  · cases h
  next c behind hbrace hslash =>
    obtain ⟨rfl, hread⟩ := Prod.mk.inj (Except.ok.inj h)
    obtain ⟨rfl, hleft⟩ := Prod.mk.inj hread
    have hrest : rest ++ t <:+ behind := hleft ▸ skip_suffix extended behind
    obtain ⟨w, rfl, rfl, -⟩ := cons_of_append hv hrest
    split
    next heq => cases heq
    next heq =>
      cases heq
      exact (hbrace rfl).elim
    next heq =>
      cases heq
      exact (hslash rfl).elim
    next heq =>
      cases heq
      rw [skip_of_append hleft]

theorem bracedEdge_of_append {a : Anchor} (h : bracedEdge extended (s ++ t) = .ok (a, rest ++ t)) :
    bracedEdge extended s = .ok (a, rest) := by
  unfold bracedEdge at h
  split at h
  next name left hname =>
    split at h <;> cases h
    next hedge =>
    have hname : gather extended isEdgeChar s.length s = (name, '}' :: rest) :=
      gather_of_append (Nat.le_refl _) (Nat.le_refl _) hname
    unfold bracedEdge
    rw [hname]
    simp only [hedge]
  · cases h

/-- An edge that is not named looks at the text behind the brace that may follow it. -/
theorem wordEdge_of_append {a : Anchor} (h : wordEdge extended (s ++ t) = .ok (a, rest ++ t)) :
    wordEdge extended s = .ok (a, rest) ∨
      a = .boundary ∧ ∃ behind, rest = '{' :: behind ∧ skip extended behind = [] := by
  unfold wordEdge at h
  generalize hu : s ++ t = u at h
  split at h
  next behind =>
    split at h
    · cases h
    next c inner hskip =>
      rw [← hskip] at h
      split at h
      next hc =>
        have hedge : ('}' :: rest) ++ t <:+ skip extended behind := suffix_of_bracedEdge h
        have hrest := suffix_of_cons hedge
        obtain ⟨w, rfl, rfl, -⟩ := cons_of_append hu (hrest.trans (skip_suffix extended behind))
        have hsplit := skip_append hedge
        rw [hsplit] at h hedge hskip
        obtain ⟨d, v, hv⟩ :=
          List.exists_cons_of_ne_nil (ne_nil_of_suffix (List.cons_ne_nil _ _) hedge)
        have hd : isEdgeChar d = true := by
          rw [hv] at hskip
          cases hskip
          exact hc
        have h := bracedEdge_of_append h
        refine .inl ?_
        rw [wordEdge, hv]
        rw [hv] at h
        exact (if_pos hd).trans h
      next hc =>
        rw [← hu] at h
        obtain ⟨rfl, rfl⟩ := eq_of_append (Except.ok.inj h)
        cases s with
        | nil => exact .inl rfl
        | cons d w =>
          obtain ⟨rfl, rfl⟩ := List.cons.inj hu
          rw [List.append_eq] at hskip
          by_cases hw : skip extended w = []
          · exact .inr ⟨rfl, w, rfl, hw⟩
          · rw [skip_append_of_ne_nil hw] at hskip
            obtain ⟨d, v, hv⟩ := List.exists_cons_of_ne_nil hw
            rw [hv] at hskip
            cases hskip
            refine .inl ?_
            rw [wordEdge, hv]
            exact if_neg hc
  next hbrace =>
    rw [← hu] at h
    obtain ⟨rfl, rfl⟩ := eq_of_append (Except.ok.inj h)
    refine .inl ?_
    unfold wordEdge
    split
    next w => exact (hbrace _ hu.symm).elim
    next => rfl

theorem escape_of_append {e : Written} (h : escape extended (s ++ t) = .ok (e, rest ++ t)) :
    escape extended s = .ok (e, rest) ∨
      e = .anchor .boundary ∧ ∃ behind, rest = '{' :: behind ∧ skip extended behind = [] := by
  have hrest := suffix_of_escape h
  generalize hu : s ++ t = u at h hrest
  cases u with
  | nil => cases h
  | cons c v =>
    obtain ⟨w, rfl, rfl, -⟩ := cons_of_append hu hrest
    unfold escape at h ⊢
    dsimp only at h ⊢
    split at h
    · cases h
    next hdigit =>
    rw [if_neg hdigit]
    split at h
    next hescapable =>
      obtain ⟨rfl, rfl⟩ := eq_of_append (Except.ok.inj h)
      exact .inl (if_pos hescapable)
    next hescapable =>
    rw [if_neg hescapable]
    split at h
    next hshort =>
      obtain ⟨rfl, rfl⟩ := eq_of_append (Except.ok.inj h)
      exact .inl rfl
    next hshort =>
    split at h
    case h_7 => cases h
    case h_6 =>
      obtain ⟨⟨a, left⟩, hedge, h⟩ := ok_of_map h
      cases h
      obtain hedge | ⟨rfl, hbehind⟩ := wordEdge_of_append hedge
      · exact .inl (map_of_ok hedge _)
      · exact .inr ⟨rfl, hbehind⟩
    case h_4 | h_5 =>
      obtain ⟨⟨q, negated, left⟩, hproperty, h⟩ := ok_of_map h
      cases h
      exact .inl (map_of_ok (propertyEscape_of_append hproperty) _)
    all_goals
      obtain ⟨⟨l, left⟩, hhex, h⟩ := ok_of_map h
      cases h
      exact .inl (map_of_ok (hexEscape_of_append hhex) _)

end Readers
end RequestDispatch.Regex
