import RequestDispatch.Mapping.Pattern
import RequestDispatch.Proofs.Regex.ClassLocality
import RequestDispatch.Proofs.Regex.GroupLocality

/-! Expressions that are tied to both ends of a text.

A pattern is searched for with an opening group before it and a closing one behind it. The
reading of the whole keeps step with the reading of the expression alone, only with one
more open group at the bottom of its stack (`Reading.within`). If the whole is accepted,
then so is the expression alone, and the whole means that expression tied to both ends, or
the expression closes the group that was opened for it (`ofText?_of_anchored`). -/
namespace RequestDispatch.Regex

/-- The group that is open around the expression. -/
def Frame.tied : Frame := .group [.anchor .caret] [] false

/-- The expression as a group between both ends. -/
def Written.tied (e : Written) : Written := .concat [.anchor .caret, .group [] e, .anchor .dollar]

namespace Reading

/-! ### What one character begins -/

/-- After an edge that is not named, an opening brace may come that nothing stands behind. -/
theorem take_of_append {r r' : Reading} {c : Char} {s rest : List Char}
    (h : r.take c (s ++ closing) = .ok (r', rest ++ closing)) :
    r.take c s = .ok (r', rest) ∨
      ∃ behind, rest = '{' :: behind ∧ skip r'.extended behind = [] := by
  unfold take at h ⊢
  split at h
  · obtain ⟨⟨o, left⟩, hopening, h⟩ := ok_of_bind h
    obtain ⟨r'', henter, h⟩ := ok_of_bind h
    cases h
    exact .inl ((bind_of_ok (opening_of_append hopening) _).trans (bind_of_ok henter _))
  · obtain ⟨r'', hleave, h⟩ := ok_of_map h
    obtain ⟨rfl, rfl⟩ := eq_of_append h
    exact .inl (map_of_ok hleave _)
  case h_4 =>
    obtain ⟨⟨e, left⟩, hclass, h⟩ := ok_of_map h
    cases h
    exact .inl (map_of_ok (bracketed_of_append hclass) _)
  case h_5 | h_6 | h_7 =>
    obtain ⟨r'', hrepeated, h⟩ := ok_of_map h
    obtain ⟨rfl, hleft⟩ := Prod.mk.inj h
    rw [← dropLazy_of_append hleft]
    exact .inl (map_of_ok hrepeated _)
  case h_8 =>
    obtain ⟨r₀, hfirst, h⟩ := ok_of_bind h
    obtain ⟨⟨low, high, left⟩, hcounts, h⟩ := ok_of_bind h
    obtain ⟨r'', hrepeated, h⟩ := ok_of_bind h
    cases h
    exact .inl ((bind_of_ok hfirst _).trans
      ((bind_of_ok (counts_of_append hcounts) _).trans (bind_of_ok hrepeated _)))
  case h_9 =>
    obtain ⟨⟨e, left⟩, hescape, h⟩ := ok_of_map h
    cases h
    obtain hescape | ⟨-, hbehind⟩ := escape_of_append hescape
    · exact .inl (map_of_ok hescape _)
    · exact .inr hbehind
  all_goals
    obtain ⟨rfl, rfl⟩ := eq_of_append (Except.ok.inj h)
    exact .inl rfl

/-! ### One more open group -/

/-- The same reading, with the group around the expression open. -/
def within (r : Reading) : Reading := { r with stack := r.stack ++ [Frame.tied] }

section Frames
variable (r : Reading)

theorem closeChoice_within (row : List Written) (stack : List Frame) :
    closeChoice row (stack ++ [Frame.tied]) =
      ((closeChoice row stack).1, (closeChoice row stack).2 ++ [Frame.tied]) := by
  cases stack with
  | nil => rfl
  | cons f stack => cases f <;> rfl

theorem finish_within : r.within.finish = .error .groupUnclosed := by
  unfold finish
  rw [within, closeChoice_within]
  cases (closeChoice r.row r.stack).2 <;> rfl

theorem repeated_within (low : Nat) (high : Option Nat) :
    r.within.repeated low high = (r.repeated low high).map within := by
  unfold repeated
  rw [within]
  cases repeatLast r.row low high <;> rfl

theorem enter_within (o : Opening) : r.within.enter o = (r.enter o).map within := by
  cases o with
  | switch flags => rfl
  | group flags name =>
    cases name with
    | none => rfl
    | some name =>
      dsimp only [enter, within]
      split <;> rfl

theorem branch_within : r.within.branch = r.branch.within := by
  obtain ⟨extended, row, stack, names⟩ := r
  cases stack with
  | nil => rfl
  | cons f stack => cases f <;> rfl

/-- The group around the expression makes a difference only where nothing else is open. -/
theorem leave_within {e : Written} {stack : List Frame}
    (h : closeChoice r.row r.stack = (e, stack)) (hne : stack ≠ []) :
    r.within.leave = r.leave.map within := by
  unfold leave
  rw [within, closeChoice_within, h]
  cases stack with
  | nil => exact absurd rfl hne
  | cons f stack => cases f <;> rfl

theorem leave_of_nothing_open {e : Written} (h : closeChoice r.row r.stack = (e, [])) :
    r.leave = .error .groupUnopened ∧
      r.within.leave = .ok ⟨false, [.group [] e, .anchor .caret], [], r.names⟩ := by
  unfold leave
  rw [within, closeChoice_within, h]
  exact ⟨rfl, rfl⟩

theorem take_within (c : Char) (s : List Char) :
    c = ')' ∧ r.leave = .error .groupUnopened ∨
      r.within.take c s = (r.take c s).map fun (r, rest) => (r.within, rest) := by
  have hextended : r.within.extended = r.extended := rfl
  unfold take
  rw [hextended]
  split
  case h_1 =>
    refine .inr ?_
    simp only [enter_within]
    cases opening r.extended s with
    | error => rfl
    | ok x =>
      obtain ⟨o, rest⟩ := x
      dsimp only [Bind.bind, Except.bind]
      cases r.enter o <;> rfl
  case h_2 =>
    generalize hclose : closeChoice r.row r.stack = closed
    obtain ⟨e, stack⟩ := closed
    cases stack with
    | nil => exact .inl ⟨rfl, (leave_of_nothing_open r hclose).1⟩
    | cons f stack =>
      rw [leave_within r hclose (List.cons_ne_nil f stack)]
      refine .inr ?_
      cases r.leave <;> rfl
  case h_3 =>
    rw [branch_within]
    exact .inr rfl
  case h_4 =>
    refine .inr ?_
    cases bracketed r.extended s <;> rfl
  case h_5 | h_6 | h_7 =>
    refine .inr ?_
    simp only [repeated_within]
    cases r.repeated _ _ <;> rfl
  case h_8 =>
    refine .inr ?_
    simp only [repeated_within]
    cases r.repeated 0 none with
    | error => rfl
    | ok =>
      cases counts r.extended s with
      | error => rfl
      | ok x =>
        obtain ⟨low, high, rest⟩ := x
        dsimp only [Bind.bind, Except.bind, Except.map]
        cases r.repeated low high <;> rfl
  case h_9 =>
    refine .inr ?_
    cases escape r.extended s <;> rfl
  all_goals exact .inr rfl

theorem not_ok_of_skip_nil {m : Nat} {s : List Char} {e : Written} (hs : skip r.extended s = []) :
    r.within.readOn m s ≠ .ok e := by
  intro h
  cases m with
  | zero => cases h
  | succ m =>
    have hskip : skip r.within.extended s = [] := hs
    rw [readOn, hskip] at h
    cases (finish_within r).symm.trans h

/-- What is left of the end once its parenthesis is gone closes nothing. -/
theorem not_ok_of_short {m : Nat} {s : List Char} {e : Written}
    (hs : skip r.extended s <:+ ['$']) : r.within.readOn m s ≠ .ok e := by
  obtain heq | hsuffix := List.suffix_cons_iff.1 hs
  · intro h
    cases m with
    | zero => cases h
    | succ m =>
      have hskip : skip r.within.extended s = ['$'] := heq
      rw [readOn, hskip] at h
      obtain ⟨x, htake, h⟩ := ok_of_bind h
      cases htake
      exact not_ok_of_skip_nil (r.add (.anchor .dollar)) (skip_nil _) h
  · exact not_ok_of_skip_nil r (List.suffix_nil.1 hsuffix)

/-- An opening brace with only the end behind it counts nothing. -/
theorem counts_of_end {s : List Char} (extended : Bool) (hs : skip extended s <:+ closing)
    (x : Nat × Option Nat × List Char) : counts extended s ≠ .ok x := by
  intro h
  unfold counts at h
  obtain hs | hs := List.suffix_cons_iff.1 hs
  · rw [hs] at h
    cases extended <;> cases h
  obtain hs | hs := List.suffix_cons_iff.1 hs
  · rw [hs] at h
    cases extended <;> cases h
  · rw [List.suffix_nil.1 hs] at h
    cases h

theorem not_ok_of_brace {m : Nat} {behind : List Char} {e : Written}
    (hbehind : skip r.extended behind = []) :
    r.within.readOn m ('{' :: behind ++ closing) ≠ .ok e := by
  intro h
  cases m with
  | zero => cases h
  | succ m =>
    have hskip : skip r.within.extended ('{' :: behind ++ closing) = '{' :: (behind ++ closing) := by
      unfold skip
      split <;> rfl
    rw [readOn, hskip] at h
    obtain ⟨x, htake, -⟩ := ok_of_bind h
    obtain ⟨r₀, -, htake⟩ := ok_of_bind htake
    obtain ⟨x, hcounts, -⟩ := ok_of_bind htake
    refine counts_of_end r.extended ?_ x hcounts
    obtain heq | ⟨-, hend⟩ := skip_append_or r.extended behind closing
    · rw [heq, hbehind]
      exact List.suffix_refl closing
    · exact hend

end Frames

/-! ### Side by side -/

/-- What is left of the expression with its end is either less than the end or the end with
something of the expression before it. -/
theorem short_or_append {s left : List Char} (h : left <:+ s ++ closing) :
    left <:+ ['$'] ∨ ∃ rest, rest <:+ s ∧ left = rest ++ closing := by
  obtain hclosing | hleft := List.suffix_or_suffix_of_suffix h (List.suffix_append s closing)
  · obtain rfl | hshort := List.suffix_cons_iff.1 hclosing
    · exact .inr ⟨[], List.nil_suffix, rfl⟩
    · exact .inl hshort
  · obtain ⟨rest, rfl⟩ := hleft
    exact .inr ⟨rest, suffix_of_append_suffix h, rfl⟩

/-- Where the expression is over, the end closes the group around it. If the expression has
left another one open, the end closes that one, and not both. -/
theorem finish_of_end {r r' : Reading} {m : Nat} {e : Written} (hleave : r.within.leave = .ok r')
    (h : r'.readOn m ['$'] = .ok e) : ∃ e', r.finish = .ok e' ∧ e = e'.tied := by
  generalize hclose : closeChoice r.row r.stack = closed
  obtain ⟨e', stack⟩ := closed
  cases stack with
  | nil =>
    obtain ⟨-, hleave'⟩ := leave_of_nothing_open r hclose
    cases hleave.symm.trans hleave'
    have hfinish : r.finish = .ok e' := by rw [finish, hclose]
    refine ⟨e', hfinish, ?_⟩
    -- One turn takes the dollar sign, and the next one is at the end.
    cases m with
    | zero => cases h
    | succ m =>
      cases m with
      | zero => cases h
      | succ m => exact (Except.ok.inj h).symm
  | cons f stack =>
    rw [leave_within r hclose (List.cons_ne_nil f stack)] at hleave
    obtain ⟨r', -, rfl⟩ := ok_of_map hleave
    exact absurd h (not_ok_of_short r' (skip_suffix _ _))

/-- The reading of the whole and of the expression alone, side by side. -/
theorem readOn_within {r : Reading} {m n : Nat} {s : List Char} {e : Written}
    (h : r.within.readOn m (s ++ closing) = .ok e) (hn : s.length < n) :
    r.readOn n s = .error .groupUnopened ∨ ∃ e', r.readOn n s = .ok e' ∧ e = e'.tied := by
  induction m generalizing r s n with
  | zero => cases h
  | succ m ih =>
    obtain ⟨n, rfl⟩ := Nat.exists_eq_succ_of_ne_zero (Nat.ne_zero_of_lt hn)
    obtain hshort | ⟨rest, hrest, hwhole⟩ := short_or_append (skip_suffix r.extended (s ++ closing))
    · exact absurd h (not_ok_of_short r hshort)
    have hskip := skip_of_append hwhole
    have hwhole : skip r.within.extended (s ++ closing) = rest ++ closing := hwhole
    rw [readOn, hwhole] at h
    rw [readOn, hskip]
    cases rest with
    | nil =>
      obtain ⟨x, htake, h⟩ := ok_of_bind h
      obtain ⟨r', hleave, htake⟩ := ok_of_map htake
      cases htake
      exact .inr (finish_of_end hleave h)
    | cons c rest =>
      obtain ⟨⟨r', left⟩, htake, h⟩ := ok_of_bind h
      have hleft : left <:+ rest ++ closing := suffix_of_take htake
      obtain ⟨rfl, hleave⟩ | hstep := take_within r c (rest ++ closing)
      · have htake : r.take ')' rest = .error .groupUnopened := by
          show r.leave.map _ = _
          rw [hleave, Except.map]
        refine .inl ?_
        dsimp only
        rw [htake]
        rfl
      obtain ⟨⟨r', left⟩, htake, heq⟩ := ok_of_map (hstep.symm.trans htake)
      cases heq
      obtain hshort | ⟨left, hlength, rfl⟩ := short_or_append hleft
      · exact absurd h (not_ok_of_short r' ((skip_suffix _ _).trans hshort))
      obtain htake | ⟨behind, rfl, hbehind⟩ := take_of_append htake
      · have hlt : left.length < n := by
          have hle := (hskip ▸ skip_suffix r.extended s : c :: rest <:+ s).length_le
          have hle' := hlength.length_le
          rw [List.length_cons] at hle
          omega
        dsimp only
        rw [bind_of_ok htake]
        exact ih h hlt
      · exact absurd h (not_ok_of_brace r' hbehind)

end Reading

namespace Written

theorem depth_le_tied (e : Written) : e.depth ≤ e.tied.depth := by
  simp only [tied, depth, depths]
  omega

theorem ofText?_tied {s : List Char} {e : Written}
    (h : ofText? ('^' :: '(' :: '?' :: ':' :: (s ++ closing)) = .ok e) :
    ofText? s = .error .groupUnopened ∨ ∃ e', ofText? s = .ok e' ∧ e = e'.tied := by
  obtain ⟨whole, hwhole, h⟩ := ok_of_bind h
  split at h <;> cases h
  next hdepth =>
  have hwithin : Reading.start.within.readOn ((s ++ closing).length + 3) (s ++ closing) = .ok e := hwhole
  unfold ofText?
  obtain hunopened | ⟨e', halone, rfl⟩ := Reading.readOn_within hwithin (Nat.lt_succ_self s.length)
  · rw [hunopened]
    exact .inl rfl
  · refine .inr ⟨e', ?_, rfl⟩
    rw [bind_of_ok halone]
    exact if_pos (Nat.le_trans e'.depth_le_tied hdepth)

theorem meaning_tied {e : Written} {r : Regex} {after : Mode}
    (h : e.tied.meaning .initial = .ok (r, after)) :
    ∃ q after', e.meaning .initial = .ok (q, after') ∧
      r = .seq (.assertion .textStart) (.seq q (.assertion .textEnd)) := by
  rw [tied, meaning, row] at h
  · obtain ⟨⟨start, mode⟩, hstart, hbehind⟩ := ok_of_bind h
    obtain ⟨⟨rest, mode'⟩, hrest, heq⟩ := ok_of_bind hbehind
    cases heq
    rw [meaning] at hstart
    cases hstart
    rw [row] at hrest
    · obtain ⟨⟨group, mode⟩, hgroup, hbehind⟩ := ok_of_bind hrest
      obtain ⟨⟨stop, mode'⟩, hstop, heq⟩ := ok_of_bind hbehind
      cases heq
      rw [meaning] at hgroup
      obtain ⟨⟨q, after'⟩, hq, heq⟩ := ok_of_bind hgroup
      cases heq
      rw [row, meaning] at hstop
      cases hstop
      exact ⟨_, after', hq, rfl⟩
    · intro heq
      cases heq
  · intro heq
    cases heq

end Written

/-- An expression that is light enough between the ends of the text is light enough alone. -/
theorem weight_le_tied (r : Regex) :
    weight r ≤ weight (.seq (.assertion .textStart) (.seq r (.assertion .textEnd))) := by
  simp only [weight]
  omega

/-- **What a pattern is searched for** is its expression, tied to both ends of the text, unless the
expression closes the group that was opened for it. -/
theorem ofText?_of_anchored {source : String} {program : Regex}
    (h : ofText? (Pattern.anchored source) = .ok program) :
    ofText? source = .error .groupUnopened ∨
      ∃ r, ofText? source = .ok r ∧
        program = .seq (.assertion .textStart) (.seq r (.assertion .textEnd)) := by
  have hsource : (Pattern.anchored source).toList = '^' :: '(' :: '?' :: ':' :: (source.toList ++ closing) := by
    simp [Pattern.anchored, closing]
  obtain ⟨e, hread, h⟩ := ok_of_bind h
  obtain ⟨⟨whole, after⟩, hmeaning, h⟩ := ok_of_bind h
  dsimp only at h
  split at h <;> cases h
  next hweight =>
  rw [hsource] at hread
  unfold ofText?
  obtain hunopened | ⟨e', halone, rfl⟩ := Written.ofText?_tied hread
  · rw [hunopened]
    exact .inl rfl
  · obtain ⟨r, after', hr, rfl⟩ := Written.meaning_tied hmeaning
    refine .inr ⟨r, ?_, rfl⟩
    rw [bind_of_ok halone, bind_of_ok hr]
    exact if_pos (Nat.le_trans (weight_le_tied r) hweight)

end RequestDispatch.Regex
