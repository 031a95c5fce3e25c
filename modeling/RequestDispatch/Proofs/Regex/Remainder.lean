import RequestDispatch.Regex.Reader

/-! What readers leave.

Each reader leaves an end of the text that it was given: what is behind the part that it
read, as it was. -/
namespace RequestDispatch.Regex

open Text (isBlank)

section Results
variable {α β : Type} {a : α} {b : β}

theorem ok_of_bind {x : Except Error α} {f : α → Except Error β} (h : x >>= f = .ok b) :
    ∃ a, x = .ok a ∧ f a = .ok b := by
  cases x with
  | error e => cases h
  | ok a => exact ⟨a, rfl, h⟩

theorem ok_of_map {x : Except Error α} {f : α → β} (h : x.map f = .ok b) :
    ∃ a, x = .ok a ∧ f a = b := by
  cases x with
  | error e => cases h
  | ok a => exact ⟨a, rfl, Except.ok.inj h⟩

theorem bind_of_ok {x : Except Error α} (h : x = .ok a) (f : α → Except Error β) :
    x >>= f = f a := by
  cases h
  rfl

theorem map_of_ok {x : Except Error α} (h : x = .ok a) (f : α → β) : x.map f = .ok (f a) := by
  cases h
  rfl

end Results

/-! ### Up to a character -/

section Stopping
variable (stop : Char) (s rest : List Char)

theorem takeWhile_stop :
    (s.takeWhile (· ≠ stop) ++ stop :: rest).takeWhile (· ≠ stop) = s.takeWhile (· ≠ stop) := by
  rw [List.takeWhile_append_of_pos (List.all_eq_true.1 List.all_takeWhile),
    List.takeWhile_cons_of_neg (by simp), List.append_nil]

theorem dropWhile_stop :
    (s.takeWhile (· ≠ stop) ++ stop :: rest).dropWhile (· ≠ stop) = stop :: rest := by
  rw [List.dropWhile_append_of_pos (List.all_eq_true.1 List.all_takeWhile),
    List.dropWhile_cons_of_neg (by simp)]

end Stopping

/-- A reader that needs no look behind what it takes: it takes the same whatever is there. -/
def Delimited {α : Type} (f : List Char → Option (α × List Char)) : Prop :=
  ∀ ⦃s x rest⦄, f s = some (x, rest) →
    ∃ taken, s = taken ++ rest ∧ ∀ behind, f (taken ++ behind) = some (x, behind)

namespace Delimited
variable {α : Type} {f : List Char → Option (α × List Char)} {s t rest : List Char} {x : α}

theorem suffix (hf : Delimited f) (h : f s = some (x, rest)) : rest <:+ s := by
  obtain ⟨taken, rfl, -⟩ := hf h
  exact List.suffix_append taken rest

theorem suffix_tail (hf : Delimited f) (hnil : f [] = none) (h : f s = some (x, rest)) :
    rest <:+ s.tail := by
  obtain ⟨taken, rfl, hread⟩ := hf h
  cases taken with
  | nil => cases hnil.symm.trans (hread [])
  | cons c taken => exact List.suffix_append taken rest

theorem of_append (hf : Delimited f) (h : f (s ++ t) = some (x, rest ++ t)) :
    f s = some (x, rest) := by
  obtain ⟨taken, heq, hread⟩ := hf h
  rw [← List.append_assoc] at heq
  rw [List.append_cancel_right heq]
  exact hread rest

theorem none_of_append (hf : Delimited f) (h : f (s ++ t) = none) : f s = none := by
  cases hs : f s with
  | none => rfl
  | some result =>
    obtain ⟨x, rest⟩ := result
    obtain ⟨taken, rfl, hread⟩ := hf hs
    rw [List.append_assoc, hread] at h
    cases h

end Delimited

theorem suffix_of_cons {α : Type} {a : α} {s rest : List α} (h : a :: rest <:+ s) : rest <:+ s :=
  (List.suffix_cons a rest).trans h

section Readers
variable {extended : Bool} {turns : Nat} {s rest : List Char}

/-! ### Blanks and comments -/

theorem skipFrom_suffix (inComment : Bool) (s : List Char) : skipFrom inComment s <:+ s := by
  fun_induction skipFrom inComment s with
  | case1 => exact List.suffix_refl []
  | case2 c rest ih => exact ih.trans (List.suffix_cons c rest)
  | case3 c rest _ ih => exact ih.trans (List.suffix_cons c rest)
  | case4 rest _ ih => exact ih.trans (List.suffix_cons '#' rest)
  | case5 c rest => exact List.suffix_refl (c :: rest)

theorem skip_suffix (extended : Bool) (s : List Char) : skip extended s <:+ s := by
  unfold skip
  split
  · exact skipFrom_suffix false s
  · exact List.suffix_refl s

theorem skip_suffix_cons (extended : Bool) (c : Char) (s : List Char) : skip extended s <:+ c :: s :=
  (skip_suffix extended s).trans (List.suffix_cons c s)

theorem skip_nil (extended : Bool) : skip extended [] = [] := by
  cases extended <;> rfl

theorem gather_suffix (extended : Bool) (test : Char → Bool) (turns : Nat) (s : List Char) :
    (gather extended test turns s).2 <:+ s := by
  induction turns generalizing s with
  | zero => exact List.suffix_refl s
  | succ turns ih =>
    cases s with
    | nil => exact List.suffix_refl []
    | cons c s =>
      rw [gather]
      split
      · exact (ih (skip extended s)).trans (skip_suffix_cons extended c s)
      · exact List.suffix_refl _

/-! ### Escapes -/

theorem suffix_of_hexDigits {count : Nat} {digits : List Char}
    (h : hexDigits extended count s = .ok (digits, rest)) :
    rest <:+ s ∧ (0 < count → rest <:+ s.tail) := by
  induction count generalizing s digits with
  | zero =>
    cases h
    exact ⟨List.suffix_refl _, fun hpos => absurd hpos (Nat.lt_irrefl 0)⟩
  | succ count ih =>
    cases s with
    | nil => cases h
    | cons c s =>
      rw [hexDigits] at h
      split at h
      · obtain ⟨⟨ds, left⟩, hmore, h⟩ := ok_of_bind h
        cases h
        have hrest := (ih hmore).1.trans (skip_suffix extended s)
        exact ⟨hrest.trans (List.suffix_cons c s), fun _ => hrest⟩
      · cases h

theorem suffix_of_braced {test : Char → Bool} {inner : List Char}
    (h : braced extended test turns s = .ok (inner, rest)) : '}' :: rest <:+ s := by
  induction turns generalizing s inner with
  | zero => cases h
  | succ turns ih =>
    cases s with
    | nil => cases h
    | cons c s =>
      rw [braced] at h
      split at h
      next hc =>
        cases h
        exact hc ▸ List.suffix_refl _
      next =>
        split at h
        · obtain ⟨⟨cs, left⟩, hmore, h⟩ := ok_of_bind h
          cases h
          exact (ih hmore).trans (skip_suffix_cons extended c s)
        · cases h

theorem suffix_of_hexEscape {count : Nat} {l : Letter}
    (h : hexEscape extended count s = .ok (l, rest)) : rest <:+ skip extended s := by
  unfold hexEscape at h
  split at h
  · cases h
  next behind hskip =>
    obtain ⟨⟨digits, left⟩, hbraced, h⟩ := ok_of_bind h
    dsimp only at h
    split at h
    · cases h
    split at h <;> cases h
    have hleft := suffix_of_cons (suffix_of_braced hbraced)
    exact hskip ▸ (((skip_suffix extended left).trans hleft).trans
      (skip_suffix extended behind)).trans (List.suffix_cons '{' behind)
  · obtain ⟨⟨digits, left⟩, hdigits, h⟩ := ok_of_bind h
    dsimp only at h
    split at h <;> cases h
    exact (suffix_of_hexDigits hdigits).1

theorem suffix_of_propertyEscape {negated negated' : Bool} {q : Unicode.Query}
    (h : propertyEscape extended negated s = .ok (q, negated', rest)) : rest <:+ skip extended s := by
  unfold propertyEscape at h
  split at h
  · cases h
  next behind hskip =>
    obtain ⟨⟨inner, left⟩, hbraced, h⟩ := ok_of_bind h
    cases h
    have hleft := suffix_of_cons (suffix_of_braced hbraced)
    exact hskip ▸ (hleft.trans (skip_suffix extended behind)).trans (List.suffix_cons '{' behind)
  · cases h
  next c behind _ _ hskip =>
    cases h
    exact hskip ▸ skip_suffix_cons extended c behind

theorem suffix_of_bracedEdge {a : Anchor} (h : bracedEdge extended s = .ok (a, rest)) :
    '}' :: rest <:+ s := by
  unfold bracedEdge at h
  have hs := gather_suffix extended isEdgeChar s.length s
  split at h
  next hname =>
    rw [hname] at hs
    split at h <;> cases h
    exact hs
  · cases h

theorem suffix_of_wordEdge {a : Anchor} (h : wordEdge extended s = .ok (a, rest)) : rest <:+ s := by
  unfold wordEdge at h
  split at h
  next s =>
    split at h
    · cases h
    next hskip =>
      split at h
      · have hs := skip_suffix_cons extended '{' s
        rw [hskip] at hs
        exact (suffix_of_cons (suffix_of_bracedEdge h)).trans hs
      · cases h
        exact List.suffix_refl _
  · cases h
    exact List.suffix_refl _

theorem suffix_of_escape {e : Written} (h : escape extended s = .ok (e, rest)) :
    rest <:+ s.tail := by
  cases s with
  | nil => cases h
  | cons c s =>
    rw [List.tail_cons]
    unfold escape at h
    dsimp only at h
    split at h
    · cases h
    split at h
    · cases h
      exact List.suffix_refl _
    split at h
    · cases h
      exact List.suffix_refl _
    split at h
    case h_7 => cases h
    case h_6 =>
      obtain ⟨x, hedge, hx⟩ := ok_of_map h
      cases hx
      exact suffix_of_wordEdge hedge
    case h_4 | h_5 =>
      obtain ⟨x, hproperty, hx⟩ := ok_of_map h
      cases hx
      exact (suffix_of_propertyEscape hproperty).trans (skip_suffix extended s)
    all_goals
      obtain ⟨x, hhex, hx⟩ := ok_of_map h
      cases hx
      exact (suffix_of_hexEscape hhex).trans (skip_suffix extended s)

/-! ### Bracketed classes -/

theorem suffix_of_leadingHyphens {read items : List Item}
    (h : leadingHyphens extended turns read s = .ok (items, rest)) : rest <:+ s := by
  fun_induction leadingHyphens extended turns read s with
  | case1 | case2 => cases h
  | case3 turns read s ih =>
    exact (ih h).trans (skip_suffix_cons extended '-' s)
  | case4 =>
    cases h
    exact List.suffix_refl _

theorem suffix_of_leadingItems {items : List Item}
    (h : leadingItems extended s = .ok (items, rest)) : rest <:+ s := by
  unfold leadingItems at h
  split at h
  next left hhyphens =>
    have hs := suffix_of_leadingHyphens hhyphens
    split at h
    · cases h
    · cases h
      exact (skip_suffix extended left).trans (suffix_of_cons hs)
  · exact suffix_of_leadingHyphens h

theorem suffix_of_openClass {negated : Bool} {first : List Item}
    (h : openClass extended s = .ok (negated, first, rest)) : rest <:+ skip extended s := by
  unfold openClass at h
  split at h
  · cases h
  next behind hskip =>
    split at h
    · cases h
    · obtain ⟨x, hitems, hx⟩ := ok_of_map h
      cases hx
      have hrest := (suffix_of_leadingItems hitems).trans (skip_suffix extended behind)
      exact hskip ▸ hrest.trans (List.suffix_cons '^' behind)
  · obtain ⟨x, hitems, hx⟩ := ok_of_map h
    cases hx
    exact suffix_of_leadingItems hitems

theorem delimited_asciiNamed? (negated : Bool) : Delimited (asciiNamed? negated) := by
  intro s item rest h
  unfold asciiNamed? at h
  split at h
  next left hdrop =>
    obtain ⟨k, hk, heq⟩ := Option.map_eq_some_iff.1 h
    cases heq
    refine ⟨s.takeWhile (· ≠ ':') ++ [':', ']'], ?_, fun behind => ?_⟩
    · rw [List.append_assoc]
      exact List.takeWhile_append_dropWhile.symm.trans (congrArg _ hdrop)
    · unfold asciiNamed?
      rw [List.append_assoc, List.cons_append, takeWhile_stop, dropWhile_stop]
      exact Option.map_eq_some_iff.2 ⟨k, hk, rfl⟩
  · cases h

theorem delimited_asciiItem? : Delimited asciiItem? := by
  intro s item rest h
  unfold asciiItem? at h
  split at h
  next =>
    obtain ⟨taken, rfl, hread⟩ := delimited_asciiNamed? _ h
    exact ⟨':' :: '^' :: taken, rfl, hread⟩
  next hcaret =>
    obtain ⟨taken, rfl, hread⟩ := delimited_asciiNamed? _ h
    refine ⟨':' :: taken, rfl, fun behind => ?_⟩
    cases taken with
    | nil => cases hread []
    | cons c taken =>
      unfold asciiItem?
      split
      next heq =>
        cases heq
        exact (hcaret _ rfl).elim
      next heq =>
        cases heq
        exact hread behind
      next hcolon => exact (hcolon _ rfl).elim
  · cases h

theorem suffix_of_classPrimitive {e : Written}
    (h : classPrimitive extended s = .ok (e, rest)) : rest <:+ s.tail := by
  unfold classPrimitive at h
  split at h
  · cases h
  · exact (suffix_of_escape h).trans (List.tail_suffix _)
  · cases h
    exact List.suffix_refl _

theorem suffix_of_classItem {item : Item} (h : classItem extended s = .ok (item, rest)) :
    rest <:+ s.tail := by
  obtain ⟨⟨low, behind⟩, hlow, h⟩ := ok_of_bind h
  have hbehind := (skip_suffix extended behind).trans (suffix_of_classPrimitive hlow)
  dsimp only at h
  split at h
  · cases h
  next c left hskip =>
    split at h
    · split at h <;> cases h <;> exact hskip ▸ hbehind
    · split at h
      · cases h
      · obtain ⟨⟨high, left'⟩, hhigh, h⟩ := ok_of_bind h
        dsimp only at h
        split at h
        · split at h <;> cases h
          have hleft := ((suffix_of_classPrimitive hhigh).trans (List.tail_suffix _)).trans
            (skip_suffix extended left)
          exact hleft.trans ((List.suffix_cons c left).trans (hskip ▸ hbehind))
        · cases h

theorem delimited_operator? : Delimited operator? := by
  intro s o rest h
  unfold operator? at h
  split at h <;> cases h <;> exact ⟨[_, _], rfl, fun _ => rfl⟩

theorem suffix_of_classMembers {members : List Item} {stack : List Enclosing} {e : Written}
    (h : classMembers extended turns members stack s = .ok (e, rest)) :
    ']' :: rest <:+ skip extended s := by
  induction turns generalizing members stack s with
  | zero => cases h
  | succ turns ih =>
    have hmore {members stack left} (hleft : left <:+ skip extended s)
        (h : classMembers extended turns members stack left = .ok (e, rest)) :
        ']' :: rest <:+ skip extended s := ((ih h).trans (skip_suffix extended left)).trans hleft
    rw [classMembers] at h
    split at h
    · cases h
    next behind hskip =>
      rw [hskip] at hmore ⊢
      split at h
      next hitem =>
        exact hmore ((delimited_asciiItem?.suffix hitem).trans (List.suffix_cons _ _)) h
      next =>
        obtain ⟨x, hopen, h⟩ := ok_of_bind h
        have hleft := (suffix_of_openClass hopen).trans (skip_suffix extended behind)
        exact hmore (hleft.trans (List.suffix_cons _ _)) h
    next behind hskip =>
      rw [hskip] at hmore ⊢
      split at h
      · cases h
        exact List.suffix_refl _
      · exact hmore (List.suffix_cons _ _) h
      · cases h
    · split at h
      next hoperator => exact hmore (delimited_operator?.suffix hoperator) h
      next =>
        obtain ⟨x, hitem, h⟩ := ok_of_bind h
        exact hmore ((suffix_of_classItem hitem).trans (List.tail_suffix _)) h

theorem suffix_of_bracketed {e : Written} (h : bracketed extended s = .ok (e, rest)) :
    rest <:+ s := by
  obtain ⟨⟨negated, first, left⟩, hopen, h⟩ := ok_of_bind h
  have hrest := suffix_of_cons (suffix_of_classMembers h)
  exact hrest.trans ((skip_suffix extended left).trans
    ((suffix_of_openClass hopen).trans (skip_suffix extended s)))

/-! ### Groups and flags -/

theorem suffix_of_flags {minus dangling : Bool} {read switches : Switches} {ending : Char}
    (h : flags minus dangling read s = .ok (switches, ending, rest)) : ending :: rest <:+ s := by
  induction s generalizing minus dangling read with
  | nil => cases h
  | cons c s ih =>
    rw [flags] at h
    split at h
    · split at h <;> cases h
      exact List.suffix_refl _
    split at h
    · split at h
      · cases h
      · exact (ih h).trans (List.suffix_cons c s)
    split at h
    · cases h
    · split at h
      · cases h
      · exact (ih h).trans (List.suffix_cons c s)

/-- The name is the same, whatever is behind the text that is taken. -/
theorem groupName_taken {name : String} (h : groupName s = .ok (name, rest)) :
    ∃ taken, s = taken ++ rest ∧ ∀ behind, groupName (taken ++ behind) = .ok (name, behind) := by
  unfold groupName at h
  split at h
  · cases h
  next htake hdrop =>
    split at h <;> cases h
    next hname =>
    refine ⟨s.takeWhile (· ≠ '>') ++ ['>'], ?_, fun behind => ?_⟩
    · rw [List.append_assoc]
      exact List.takeWhile_append_dropWhile.symm.trans (congrArg _ hdrop)
    · unfold groupName
      rw [List.append_assoc, List.cons_append, takeWhile_stop, dropWhile_stop, htake]
      exact if_pos hname
  · cases h

theorem suffix_of_groupName {name : String} (h : groupName s = .ok (name, rest)) : rest <:+ s := by
  obtain ⟨taken, rfl, -⟩ := groupName_taken h
  exact List.suffix_append taken rest

theorem suffix_of_nameMark? (h : nameMark? s = some rest) : rest <:+ s := by
  obtain h | ⟨-, h⟩ := Option.or_eq_some_iff.1 h
  · exact ⟨_, (Text.dropLead?_eq_some_iff.1 h).symm⟩
  · exact ⟨_, (Text.dropLead?_eq_some_iff.1 h).symm⟩

theorem suffix_of_flagged {o : Opening} (h : flagged s = .ok (o, rest)) : rest <:+ s := by
  obtain ⟨⟨switches, ending, left⟩, hflags, h⟩ := ok_of_bind h
  have hleft := suffix_of_cons (suffix_of_flags hflags)
  dsimp only at h
  split at h
  · split at h <;> cases h
    exact hleft
  · cases h
    exact hleft

theorem suffix_of_opening {o : Opening} (h : opening extended s = .ok (o, rest)) :
    rest <:+ skip extended s := by
  unfold opening at h
  split at h
  next behind hskip =>
    rw [hskip]
    split at h
    · cases h
    split at h
    next hmark =>
      obtain ⟨x, hname, hx⟩ := ok_of_map h
      cases hx
      exact ((suffix_of_groupName hname).trans (suffix_of_nameMark? hmark)).trans
        (List.suffix_cons '?' behind)
    next => exact (suffix_of_flagged h).trans (List.suffix_cons '?' behind)
  next =>
    cases h
    exact List.suffix_refl _

/-! ### Counts -/

theorem decimal_suffix (extended : Bool) (s : List Char) : (decimal extended s).2 <:+ s := by
  have hs := List.dropWhile_suffix isBlank (l := s)
  have hdigits := gather_suffix extended Char.isDigit (s.dropWhile isBlank).length (s.dropWhile isBlank)
  exact ((skip_suffix extended _).trans (List.dropWhile_suffix isBlank)).trans (hdigits.trans hs)

theorem dropLazy_suffix (s : List Char) : dropLazy s <:+ s := by
  unfold dropLazy
  split
  · exact List.suffix_cons _ _
  · exact List.suffix_refl _

theorem suffix_of_closeCounts {low low' : Nat} {high high' : Option Nat}
    (h : closeCounts extended low high s = .ok (low', high', rest)) :
    ∃ behind, s = '}' :: behind ∧ rest <:+ behind := by
  unfold closeCounts at h
  split at h
  next behind =>
    split at h <;> cases h
    exact ⟨behind, rfl, (dropLazy_suffix _).trans (skip_suffix extended behind)⟩
  · cases h

theorem suffix_of_upperCount {n : Except Error Nat} {low : Nat} {high : Option Nat}
    (h : upperCount extended n s = .ok (low, high, rest)) : rest <:+ skip extended s := by
  unfold upperCount at h
  split at h
  · cases h
  next hskip =>
    obtain ⟨low, -, h⟩ := ok_of_bind h
    obtain ⟨behind, heq, hrest⟩ := suffix_of_closeCounts h
    rw [hskip, heq]
    exact hrest.trans (List.suffix_cons _ _)
  · obtain ⟨low, -, h⟩ := ok_of_bind h
    obtain ⟨high, -, h⟩ := ok_of_bind h
    obtain ⟨behind, heq, hrest⟩ := suffix_of_closeCounts h
    have hhigh : (decimal extended (skip extended s)).2 = '}' :: behind := heq
    exact (hrest.trans (List.suffix_cons _ _)).trans
      (hhigh ▸ decimal_suffix extended (skip extended s))

theorem suffix_of_counts {low : Nat} {high : Option Nat}
    (h : counts extended s = .ok (low, high, rest)) : rest <:+ skip extended s := by
  unfold counts at h
  split at h
  · cases h
  have hlow := decimal_suffix extended (skip extended s)
  split at h
  · cases h
  next left hdecimal =>
    rw [hdecimal] at hlow
    exact ((suffix_of_upperCount h).trans (skip_suffix extended left)).trans
      (suffix_of_cons hlow)
  next hdecimal =>
    rw [hdecimal] at hlow
    obtain ⟨low, -, h⟩ := ok_of_bind h
    obtain ⟨behind, rfl, hrest⟩ := suffix_of_closeCounts h
    exact (hrest.trans (List.suffix_cons _ _)).trans hlow

end Readers

namespace Reading

theorem suffix_of_take {r r' : Reading} {c : Char} {s rest : List Char}
    (h : r.take c s = .ok (r', rest)) : rest <:+ s := by
  unfold take at h
  split at h
  · obtain ⟨⟨o, left⟩, hopening, h⟩ := ok_of_bind h
    obtain ⟨r'', -, h⟩ := ok_of_bind h
    cases h
    exact (suffix_of_opening hopening).trans (skip_suffix r.extended s)
  · obtain ⟨r'', -, h⟩ := ok_of_map h
    cases h
    exact List.suffix_refl _
  · cases h
    exact List.suffix_refl _
  · obtain ⟨x, hclass, h⟩ := ok_of_map h
    cases h
    exact suffix_of_bracketed hclass
  case h_5 | h_6 | h_7 =>
    obtain ⟨r'', -, h⟩ := ok_of_map h
    cases h
    exact dropLazy_suffix s
  · obtain ⟨r₀, -, h⟩ := ok_of_bind h
    obtain ⟨⟨low, high, left⟩, hcounts, h⟩ := ok_of_bind h
    obtain ⟨r'', -, h⟩ := ok_of_bind h
    cases h
    exact (suffix_of_counts hcounts).trans (skip_suffix r.extended s)
  · obtain ⟨x, hescape, h⟩ := ok_of_map h
    cases h
    exact (suffix_of_escape hescape).trans (List.tail_suffix s)
  all_goals
    cases h
    exact List.suffix_refl _

end Reading
end RequestDispatch.Regex
