import RequestDispatch.Proofs.Regex.Locality

/-! Groups and counts are read from what they take.

What opens a group and the bounds of a repetition are read in the same way without an end of
the text that is left alone (`opening_of_append`, `counts_of_append`). -/
namespace RequestDispatch.Regex

open Text (isBlank)

section Readers
variable {extended : Bool} {s t rest : List Char}

/-! ### Groups and flags -/

theorem flags_of_append {minus dangling : Bool} {read switches : Switches} {ending : Char}
    (h : flags minus dangling read (s ++ t) = .ok (switches, ending, rest ++ t)) :
    flags minus dangling read s = .ok (switches, ending, rest) := by
  induction s generalizing minus dangling read with
  | nil =>
    have hending : (ending :: rest) ++ t <:+ [] ++ t := suffix_of_flags h
    exact absurd rfl (ne_nil_of_suffix (List.cons_ne_nil _ _) hending)
  | cons c s ih =>
    rw [List.cons_append, flags] at h
    rw [flags]
    split at h
    next hc =>
      rw [if_pos hc]
      split at h
      · cases h
      next hdangling =>
        obtain ⟨rfl, hread⟩ := Prod.mk.inj (Except.ok.inj h)
        obtain ⟨rfl, hleft⟩ := Prod.mk.inj hread
        rw [if_neg hdangling, List.append_cancel_right hleft]
    next hc =>
    rw [if_neg hc]
    split at h
    next hminus =>
      rw [if_pos hminus]
      split at h
      · cases h
      next hfirst =>
        rw [if_neg hfirst]
        exact ih h
    next hminus =>
    rw [if_neg hminus]
    split at h
    · cases h
    · split at h
      · cases h
      next hnew =>
        rw [if_neg hnew]
        exact ih h

theorem groupName_of_append {name : String} (h : groupName (s ++ t) = .ok (name, rest ++ t)) :
    groupName s = .ok (name, rest) := by
  obtain ⟨taken, heq, hread⟩ := groupName_taken h
  rw [← List.append_assoc] at heq
  rw [List.append_cancel_right heq]
  exact hread rest

theorem dropLead?_none_of_append {mark : List Char} (h : Text.dropLead? mark (s ++ t) = none) :
    Text.dropLead? mark s = none := by
  cases hs : Text.dropLead? mark s with
  | none => rfl
  | some rest =>
    rw [Text.dropLead?_eq_some_iff.1 hs, List.append_assoc, Text.dropLead?_append] at h
    cases h

theorem dropLead?_of_append {mark : List Char} (h : Text.dropLead? mark (s ++ t) = some (rest ++ t)) :
    Text.dropLead? mark s = some rest := by
  have heq := Text.dropLead?_eq_some_iff.1 h
  rw [← List.append_assoc] at heq
  exact Text.dropLead?_eq_some_iff.2 (List.append_cancel_right heq)

theorem looksAround_append (h : looksAround s = true) : looksAround (s ++ t) = true := by
  obtain ⟨mark, hmark, hs⟩ := List.any_eq_true.1 h
  obtain ⟨rest, hrest⟩ := Option.isSome_iff_exists.1 hs
  have hlead : Text.dropLead? mark (s ++ t) = some (rest ++ t) := by
    rw [Text.dropLead?_eq_some_iff.1 hrest, List.append_assoc, Text.dropLead?_append]
  exact List.any_eq_true.2 ⟨mark, hmark, hlead ▸ rfl⟩

theorem nameMark?_of_append (h : nameMark? (s ++ t) = some (rest ++ t)) : nameMark? s = some rest := by
  refine Option.or_eq_some_iff.2 ((Option.or_eq_some_iff.1 h).imp dropLead?_of_append ?_)
  exact fun h => ⟨dropLead?_none_of_append h.1, dropLead?_of_append h.2⟩

theorem nameMark?_none_of_append (h : nameMark? (s ++ t) = none) : nameMark? s = none := by
  obtain ⟨hlong, hshort⟩ := Option.or_eq_none_iff.1 h
  exact Option.or_eq_none_iff.2 ⟨dropLead?_none_of_append hlong, dropLead?_none_of_append hshort⟩

theorem flagged_of_append {o : Opening} (h : flagged (s ++ t) = .ok (o, rest ++ t)) :
    flagged s = .ok (o, rest) := by
  obtain ⟨⟨switches, ending, left⟩, hflags, h⟩ := ok_of_bind h
  dsimp only at h
  split at h
  next hparen =>
    split at h <;> cases h
    next hsome =>
    refine (bind_of_ok (flags_of_append hflags) _).trans ?_
    dsimp only
    rw [if_pos hparen, if_neg hsome]
  next hparen =>
    cases h
    exact (bind_of_ok (flags_of_append hflags) _).trans (if_neg hparen)

theorem opening_of_append {o : Opening} (h : opening extended (s ++ t) = .ok (o, rest ++ t)) :
    opening extended s = .ok (o, rest) := by
  have hskip := skip_append (suffix_of_opening h)
  unfold opening at h ⊢
  rw [hskip] at h
  generalize skip extended s = u at h ⊢
  generalize hv : u ++ t = v at h
  split at h
  next behind =>
    split at h
    · cases h
    next haround =>
    split at h
    next left hmark =>
      obtain ⟨⟨name, left'⟩, hname, h⟩ := ok_of_map h
      cases h
      obtain ⟨left, rfl, -⟩ := append_of_suffix (suffix_of_groupName hname)
      obtain ⟨w, rfl, rfl, -⟩ := cons_of_append hv (suffix_of_nameMark? hmark)
      split
      next heq =>
        cases heq
        rw [if_neg (mt looksAround_append haround), nameMark?_of_append hmark]
        exact map_of_ok (groupName_of_append hname) _
      next hno => exact (hno _ rfl).elim
    next hmark =>
      obtain ⟨w, rfl, rfl, -⟩ := cons_of_append hv (suffix_of_flagged h)
      split
      next heq =>
        cases heq
        rw [if_neg (mt looksAround_append haround), nameMark?_none_of_append hmark]
        exact flagged_of_append h
      next hno => exact (hno _ rfl).elim
  next hno =>
    rw [← hv] at h
    obtain ⟨rfl, rfl⟩ := eq_of_append (Except.ok.inj h)
    split
    next => exact (hno _ hv.symm).elim
    next => rfl

/-! ### Counts -/

theorem decimal_of_append {number : Except Error Nat}
    (h : decimal extended (s ++ t) = (number, rest ++ t)) :
    decimal extended s = (number, rest) := by
  unfold decimal at h ⊢
  dsimp only at h ⊢
  have hsuffix := gather_suffix extended Char.isDigit ((s ++ t).dropWhile isBlank).length
    ((s ++ t).dropWhile isBlank)
  generalize hdigits : gather extended Char.isDigit ((s ++ t).dropWhile isBlank).length
    ((s ++ t).dropWhile isBlank) = gathered at h hsuffix
  obtain ⟨digits, behind⟩ := gathered
  obtain ⟨rfl, hleft⟩ := Prod.mk.inj h
  dsimp only at hleft
  have hbehind : rest ++ t <:+ behind.dropWhile isBlank := hleft ▸ skip_suffix extended _
  obtain ⟨behind, rfl, -⟩ := append_of_suffix (hbehind.trans (List.dropWhile_suffix isBlank))
  rw [dropWhile_append_of_suffix hsuffix] at hdigits
  rw [dropWhile_append_of_suffix hbehind] at hleft
  rw [gather_of_append (Nat.le_refl _) (Nat.le_refl _) hdigits]
  exact congrArg _ (skip_of_append hleft)

theorem dropLazy_of_append (h : dropLazy (s ++ t) = rest ++ t) : dropLazy s = rest := by
  generalize hu : s ++ t = u at h
  unfold dropLazy at h
  split at h
  next behind =>
    subst h
    rw [show s = '?' :: rest from List.append_cancel_right hu, dropLazy]
  next hquestion =>
    obtain rfl : s = rest := List.append_cancel_right (hu.trans h)
    unfold dropLazy
    split
    next => exact (hquestion _ hu.symm).elim
    next => rfl

theorem closeCounts_of_append {low low' : Nat} {high high' : Option Nat}
    (h : closeCounts extended low high (s ++ t) = .ok (low', high', rest ++ t)) :
    closeCounts extended low high s = .ok (low', high', rest) := by
  obtain ⟨behind, hu, hrest⟩ := suffix_of_closeCounts h
  obtain ⟨w, rfl, rfl, -⟩ := cons_of_append hu hrest
  rw [hu, closeCounts] at h
  rw [closeCounts]
  split at h
  · cases h
  next hle =>
  obtain ⟨rfl, hread⟩ := Prod.mk.inj (Except.ok.inj h)
  obtain ⟨rfl, hleft⟩ := Prod.mk.inj hread
  have hskip : rest ++ t <:+ skip extended (w ++ t) := hleft ▸ dropLazy_suffix _
  rw [skip_append hskip] at hleft
  rw [if_neg hle, dropLazy_of_append hleft]

/-- Where bounds are closed, the text before the end begins with a brace. -/
theorem brace_of_closeCounts {low low' : Nat} {high high' : Option Nat}
    (h : closeCounts extended low high s = .ok (low', high', rest ++ t)) :
    ∃ w, s = ('}' :: w) ++ t ∧ closeCounts extended low high ('}' :: w) = .ok (low', high', rest) := by
  obtain ⟨behind, rfl, hrest⟩ := suffix_of_closeCounts h
  obtain ⟨w, rfl, -⟩ := append_of_suffix hrest
  exact ⟨w, rfl, closeCounts_of_append h⟩

theorem upperCount_of_append {n : Except Error Nat} {low : Nat} {high : Option Nat}
    (h : upperCount extended n (s ++ t) = .ok (low, high, rest ++ t)) :
    upperCount extended n s = .ok (low, high, rest) := by
  have hskip := skip_append (suffix_of_upperCount h)
  unfold upperCount at h ⊢
  rw [hskip] at h
  generalize skip extended s = u at h ⊢
  generalize hv : u ++ t = v at h
  split at h
  · cases h
  next behind =>
    obtain ⟨low', rfl, hclosing⟩ := ok_of_bind h
    obtain ⟨w, hw, hclosed⟩ := brace_of_closeCounts hclosing
    rw [hw] at hv
    rw [List.append_cancel_right hv]
    exact hclosed
  next hbrace =>
    generalize hhigh : decimal extended v = d at h
    obtain ⟨number, behind⟩ := d
    obtain ⟨low', rfl, hrest⟩ := ok_of_bind h
    obtain ⟨high', rfl, hclosing⟩ := ok_of_bind hrest
    obtain ⟨w, rfl, hclosed⟩ := brace_of_closeCounts hclosing
    have hsuffix : ('}' :: w) ++ t <:+ u ++ t := by
      have hd := decimal_suffix extended v
      rwa [hhigh, ← hv] at hd
    rw [← hv] at hhigh
    split
    next => exact absurd rfl (ne_nil_of_suffix (List.cons_ne_nil _ _) hsuffix)
    next => exact (hbrace _ hv.symm).elim
    next =>
      rw [decimal_of_append hhigh]
      exact hclosed

theorem counts_of_append {low : Nat} {high : Option Nat}
    (h : counts extended (s ++ t) = .ok (low, high, rest ++ t)) :
    counts extended s = .ok (low, high, rest) := by
  have hskip := skip_append (suffix_of_counts h)
  unfold counts at h ⊢
  rw [hskip] at h
  generalize skip extended s = u at h ⊢
  generalize hv : u ++ t = v at h
  -- The lower bound is followed by something that is left of the expression itself.
  have hnumber {number left} (hne : left ≠ []) (h : decimal extended v = (number, left ++ t)) :
      u ≠ [] ∧ decimal extended u = (number, left) := by
    have hsuffix := decimal_suffix extended v
    rw [h, ← hv] at hsuffix
    exact ⟨ne_nil_of_suffix hne hsuffix, decimal_of_append (hv ▸ h)⟩
  split at h
  · cases h
  generalize hdecimal : decimal extended v = d at h
  split at h
  · cases h
  next n left =>
    obtain ⟨left, rfl, -⟩ :=
      append_of_suffix ((suffix_of_upperCount h).trans (skip_suffix extended left))
    obtain ⟨hu, hdecimal⟩ := hnumber (List.cons_ne_nil ',' left) hdecimal
    split
    · exact absurd rfl hu
    next =>
      rw [hdecimal]
      exact upperCount_of_append h
  next =>
    obtain ⟨low', rfl, hclosing⟩ := ok_of_bind h
    obtain ⟨w, rfl, hclosed⟩ := brace_of_closeCounts hclosing
    obtain ⟨hu, hdecimal⟩ := hnumber (List.cons_ne_nil _ _) hdecimal
    split
    · exact absurd rfl hu
    next =>
      rw [hdecimal]
      exact hclosed

end Readers
end RequestDispatch.Regex
