import RequestDispatch.Proofs.Regex.Locality

/-! Bracketed classes are read from what they take.

A reader of classes looks at what comes next before it stops. So more has to be left than
the end of the text, and the end has to be one that nothing in a class looks for, as the one
that closes a group at the end of the text is (`closing`). A class as a whole ends with its
bracket, and so the end can be all that is left behind it (`bracketed_of_append`). -/
namespace RequestDispatch.Regex

open Text (isBlank)

/-- Closes a group that reaches to the end of the text. -/
def closing : List Char := [')', '$']

section Readers
variable {extended : Bool} {m n : Nat} {s t rest : List Char}

theorem leadingHyphens_of_append {read items : List Item} (hne : rest ≠ [])
    (h : leadingHyphens extended m read (s ++ t) = .ok (items, rest ++ t)) (hn : s.length ≤ n) :
    leadingHyphens extended n read s = .ok (items, rest) := by
  generalize hu : s ++ t = u at h
  fun_induction leadingHyphens extended m read u generalizing s n with
  | case1 | case2 => cases h
  | case3 m read v ih =>
    have hrest := suffix_of_leadingHyphens h
    obtain ⟨w, rfl, rfl, -⟩ := cons_of_append hu (hrest.trans (skip_suffix extended v))
    obtain ⟨n, rfl⟩ := Nat.exists_eq_succ_of_ne_zero (Nat.ne_zero_of_lt hn)
    rw [leadingHyphens]
    exact ih (skip_length_le (Nat.le_of_succ_le_succ hn)) (skip_append hrest).symm h
  | case4 m read v hm hnil hhyphen =>
    rw [← hu] at h
    obtain ⟨rfl, rfl⟩ := eq_of_append (Except.ok.inj h)
    unfold leadingHyphens
    split
    · exact absurd (List.eq_nil_of_length_eq_zero (Nat.le_zero.1 hn)) hne
    · exact absurd rfl hne
    next =>
      obtain ⟨m, rfl⟩ := Nat.exists_eq_succ_of_ne_zero hnil
      exact (hhyphen _ _ rfl hu.symm).elim
    next => rfl

theorem leadingItems_of_append {items : List Item} (hne : rest ≠ [])
    (h : leadingItems extended (s ++ t) = .ok (items, rest ++ t)) :
    leadingItems extended s = .ok (items, rest) := by
  unfold leadingItems at h
  split at h
  next left hhyphens =>
    split at h
    · cases h
    next hleft =>
    obtain ⟨rfl, heq⟩ := Prod.mk.inj (Except.ok.inj h)
    have hrest : rest ++ t <:+ left := heq ▸ skip_suffix extended left
    obtain ⟨left, rfl, -⟩ := append_of_suffix hrest
    have hskip := skip_of_append heq
    have hhyphens : leadingHyphens extended (s.length + 1) [] s = .ok ([], ']' :: left) :=
      leadingHyphens_of_append (List.cons_ne_nil _ _) hhyphens (Nat.le_succ _)
    unfold leadingItems
    split
    next heq =>
      cases hhyphens.symm.trans heq
      split
      next hnil => exact absurd (hskip.symm.trans hnil) hne
      next => rw [hskip]
    next hno => exact (hno _ hhyphens).elim
  next hbracket =>
    have hhyphens : leadingHyphens extended (s.length + 1) [] s = .ok (items, rest) :=
      leadingHyphens_of_append hne h (Nat.le_succ _)
    unfold leadingItems
    rw [hhyphens]
    split
    next heq =>
      cases heq
      exact (hbracket _ h).elim
    next => rfl

theorem openClass_of_append {negated : Bool} {first : List Item} (hne : rest ≠ [])
    (h : openClass extended (s ++ t) = .ok (negated, first, rest ++ t)) :
    openClass extended s = .ok (negated, first, rest) := by
  have hrest := suffix_of_openClass h
  have hskip := skip_append hrest
  rw [hskip] at hrest
  have hs := ne_nil_of_suffix hne hrest
  unfold openClass at h ⊢
  rw [hskip] at h
  generalize skip extended s = u at h hs ⊢
  generalize hv : u ++ t = v at h
  split at h
  · cases h
  next behind =>
    split at h
    · cases h
    next =>
    obtain ⟨⟨items, left⟩, hitems, h⟩ := ok_of_map h
    cases h
    have hbehind := suffix_of_leadingItems hitems
    obtain ⟨w, rfl, rfl, -⟩ := cons_of_append hv (hbehind.trans (skip_suffix extended behind))
    have hskip := skip_append hbehind
    rw [hskip] at hitems hbehind
    have hitems := leadingItems_of_append hne hitems
    split
    next heq => cases heq
    next heq =>
      cases heq
      split
      next hnil => exact absurd hnil (ne_nil_of_suffix hne hbehind)
      next => exact map_of_ok hitems _
    next _ hcaret => exact (hcaret _ rfl).elim
  next hnil hcaret =>
    obtain ⟨⟨items, left⟩, hitems, h⟩ := ok_of_map h
    cases h
    rw [← hv] at hitems
    have hitems := leadingItems_of_append hne hitems
    split
    next => exact absurd rfl hs
    next => exact (hcaret _ hv.symm).elim
    next => exact map_of_ok hitems _

theorem dropWhile_append_closing (s : List Char) :
    (s ++ closing).dropWhile isBlank = s.dropWhile isBlank ++ closing := by
  rw [List.dropWhile_append]
  split
  next hnil =>
    rw [List.isEmpty_iff.1 hnil]
    decide
  next => rfl

theorem pastMark_append_closing (s : List Char) : pastMark (s ++ closing) = pastMark s ++ closing := by
  cases s with
  | nil => rfl
  | cons c s =>
    by_cases hc : c = '#'
    · subst hc
      exact dropWhile_append_closing s
    · simp [pastMark, hc]

/-- A reader of ranges looks for a bracket or a hyphen, and the end has neither. -/
theorem peek?_append_closing (extended : Bool) (s : List Char) {c : Char} (hc : c = ']' ∨ c = '-') :
    peek? extended (s ++ closing) = some c ↔ peek? extended s = some c := by
  have hhead (s : List Char) : (s ++ closing).head? = some c ↔ s.head? = some c := by
    cases s with
    | nil => obtain rfl | rfl := hc <;> decide
    | cons d s => rfl
  cases extended with
  | false => exact hhead s
  | true =>
    simp only [peek?, if_true, Option.or_eq_some_iff, dropWhile_append_closing,
      pastMark_append_closing, hhead]
    refine or_congr_right (iff_of_false ?_ ?_)
    · rintro ⟨hnone, -⟩
      exact List.cons_ne_nil _ _ (List.append_eq_nil_iff.1 (List.head?_eq_none_iff.1 hnone)).2
    · rintro ⟨hnone, hs⟩
      obtain ⟨v, rfl⟩ := List.head?_eq_some_iff.1 hs
      obtain rfl | rfl := hc <;> exact Option.some_ne_none _ hnone

theorem classPrimitive_of_append {e : Written}
    (h : classPrimitive extended (s ++ t) = .ok (e, rest ++ t)) :
    classPrimitive extended s = .ok (e, rest) ∨ e = .anchor .boundary := by
  have hrest := suffix_of_classPrimitive h
  generalize hu : s ++ t = u at h hrest
  cases u with
  | nil => cases h
  | cons c v =>
    obtain ⟨w, rfl, rfl, -⟩ := cons_of_append hu hrest
    unfold classPrimitive at h ⊢
    split at h
    next heq => cases heq
    next heq =>
      cases heq
      obtain hescape | ⟨rfl, -⟩ := escape_of_append h
      · exact .inl hescape
      · exact .inr rfl
    next hslash heq =>
      cases heq
      obtain ⟨rfl, rfl⟩ := eq_of_append (Except.ok.inj h)
      refine .inl ?_
      split
      next heq => cases heq
      next heq =>
        cases heq
        exact (hslash rfl).elim
      next heq =>
        cases heq
        rfl

theorem classItem_of_append {item : Item} (hne : rest ≠ [])
    (h : classItem extended (s ++ closing) = .ok (item, rest ++ closing)) :
    classItem extended s = .ok (item, rest) := by
  obtain ⟨⟨low, behind⟩, hlow, h⟩ := ok_of_bind h
  dsimp only at h
  split at h
  · cases h
  next c left hskip =>
  -- The character that tells a range from a letter comes before what is left.
  have hstep (hleft : rest ++ closing <:+ c :: left) :
      ∃ behind' left', behind = behind' ++ closing ∧ skip extended behind' = c :: left' ∧
        left = left' ++ closing := by
    obtain ⟨behind', rfl, -⟩ := append_of_suffix (hleft.trans (hskip ▸ skip_suffix extended behind))
    rw [← hskip] at hleft
    have hsplit := skip_append hleft
    rw [hsplit] at hleft
    obtain ⟨d, left', hd⟩ := List.exists_cons_of_ne_nil (ne_nil_of_suffix hne hleft)
    rw [hsplit, hd] at hskip
    cases hskip
    exact ⟨behind', left', rfl, hd, rfl⟩
  split at h
  next hletter =>
    have hanchor : low ≠ .anchor .boundary := by
      rintro rfl
      cases h
    have hleft : c :: left = rest ++ closing := by
      split at h
      case h_4 => cases h
      all_goals exact (Prod.mk.inj (Except.ok.inj h)).2
    obtain ⟨behind, left, rfl, hbehind, rfl⟩ := hstep (hleft ▸ List.suffix_refl _)
    have hlow := (classPrimitive_of_append hlow).resolve_right hanchor
    rw [peek?_append_closing extended left (.inl rfl),
      peek?_append_closing extended left (.inr rfl)] at hletter
    obtain rfl : c :: left = rest := List.append_cancel_right hleft
    refine (bind_of_ok hlow _).trans ?_
    simp only [hbehind, if_pos hletter]
    split at h <;> cases h <;> rfl
  next hrange =>
    split at h
    · cases h
    next =>
    obtain ⟨⟨high, left'⟩, hhigh, h⟩ := ok_of_bind h
    dsimp only at h
    split at h
    case h_2 => cases h
    next l l' =>
    split at h
    case isFalse => cases h
    next hle =>
    obtain ⟨rfl, rfl⟩ := Prod.mk.inj (Except.ok.inj h)
    have hleft := (suffix_of_classPrimitive hhigh).trans (List.tail_suffix _)
    obtain ⟨behind, left, rfl, hbehind, rfl⟩ :=
      hstep ((hleft.trans (skip_suffix extended left)).trans (List.suffix_cons c left))
    rw [peek?_append_closing extended left (.inl rfl),
      peek?_append_closing extended left (.inr rfl)] at hrange
    rw [skip_append hleft] at hhigh hleft
    have hlow := (classPrimitive_of_append hlow).resolve_right nofun
    have hhigh := (classPrimitive_of_append hhigh).resolve_right nofun
    refine (bind_of_ok hlow _).trans ?_
    simp only [hbehind, if_neg hrange]
    split
    next hnil => exact absurd hnil (ne_nil_of_suffix hne hleft)
    next =>
      refine (bind_of_ok hhigh _).trans ?_
      dsimp only
      rw [if_pos hle]

theorem classMembers_of_append {members : List Item} {stack : List Enclosing} {e : Written}
    (h : classMembers extended m members stack (s ++ closing) = .ok (e, rest ++ closing))
    (hn : s.length ≤ n) : classMembers extended n members stack s = .ok (e, rest) := by
  induction m generalizing s n members stack with
  | zero => cases h
  | succ m ih =>
    have hbracket : (']' :: rest) ++ closing <:+ skip extended (s ++ closing) :=
      suffix_of_classMembers h
    have hskip := skip_append hbracket
    rw [hskip] at hbracket
    have hs : (skip extended s).length ≤ n := skip_length_le hn
    obtain ⟨c, w, hw⟩ :=
      List.exists_cons_of_ne_nil (ne_nil_of_suffix (List.cons_ne_nil _ _) hbracket)
    rw [hw] at hs
    obtain ⟨n, rfl⟩ := Nat.exists_eq_succ_of_ne_zero (Nat.ne_zero_of_lt hs)
    -- What is behind a bracket, an operator or a member is read in the same way.
    have hmore {members stack left} (hleft : left <:+ w ++ closing)
        (h : classMembers extended m members stack left = .ok (e, rest ++ closing)) :
        ∃ left', left = left' ++ closing ∧ left' ≠ [] ∧
          classMembers extended n members stack left' = .ok (e, rest) := by
      have hrest : (']' :: rest) ++ closing <:+ left :=
        (suffix_of_classMembers h).trans (skip_suffix extended left)
      obtain ⟨left', rfl, hrest⟩ := append_of_suffix hrest
      have hlength := (suffix_of_append_suffix hleft).length_le
      exact ⟨left', rfl, ne_nil_of_suffix (List.cons_ne_nil _ _) hrest,
        ih h (Nat.le_trans hlength (Nat.le_of_succ_le_succ hs))⟩
    rw [classMembers, hskip, hw] at h
    rw [classMembers, hw]
    split at h
    next heq => cases heq
    next heq =>
      cases heq
      split
      next heq => cases heq
      next heq =>
        cases heq
        split at h
        next item left hitem =>
          obtain ⟨left, rfl, -, h⟩ := hmore (delimited_asciiItem?.suffix hitem) h
          rw [delimited_asciiItem?.of_append hitem]
          exact h
        next hitem =>
          obtain ⟨⟨negated, first, left⟩, hopen, h⟩ := ok_of_bind h
          obtain ⟨left, rfl, hne, h⟩ := hmore
            ((suffix_of_openClass hopen).trans (skip_suffix extended _)) h
          rw [delimited_asciiItem?.none_of_append hitem]
          exact (bind_of_ok (openClass_of_append hne hopen) _).trans h
      next heq => cases heq
      next hnested _ => exact (hnested _ rfl).elim
    next heq =>
      cases heq
      split
      next heq => cases heq
      next heq => cases heq
      next heq =>
        cases heq
        split at h
        · obtain ⟨rfl, rfl⟩ := eq_of_append (Except.ok.inj h)
          rfl
        · exact ih h (Nat.le_of_succ_le_succ hs)
        · cases h
      next hclose => exact (hclose _ rfl).elim
    next hnested hclose =>
      split
      next heq => cases heq
      next heq =>
        cases heq
        exact (hnested _ rfl).elim
      next heq =>
        cases heq
        exact (hclose _ rfl).elim
      next =>
        split at h
        next o left hoperator =>
          generalize hclose : closeOperator members stack = closed at h
          obtain ⟨left', stack⟩ := closed
          obtain ⟨left, rfl, -, h⟩ := hmore (delimited_operator?.suffix_tail rfl hoperator) h
          rw [delimited_operator?.of_append (s := c :: w) hoperator]
          exact h
        next hoperator =>
          obtain ⟨⟨item, left⟩, hitem, h⟩ := ok_of_bind h
          obtain ⟨left, rfl, hne, h⟩ := hmore (suffix_of_classItem hitem) h
          rw [delimited_operator?.none_of_append (s := c :: w) hoperator]
          exact (bind_of_ok (classItem_of_append (s := c :: w) hne hitem) _).trans h

theorem bracketed_of_append {e : Written}
    (h : bracketed extended (s ++ closing) = .ok (e, rest ++ closing)) :
    bracketed extended s = .ok (e, rest) := by
  obtain ⟨⟨negated, first, left⟩, hopen, h⟩ := ok_of_bind h
  have hbracket : (']' :: rest) ++ closing <:+ left :=
    (suffix_of_classMembers h).trans (skip_suffix extended left)
  obtain ⟨left, rfl, -⟩ := append_of_suffix hbracket
  have hne := ne_nil_of_suffix (List.cons_ne_nil _ _) hbracket
  exact (bind_of_ok (openClass_of_append hne hopen) _).trans
    (classMembers_of_append h (Nat.le_succ _))

end Readers
end RequestDispatch.Regex
