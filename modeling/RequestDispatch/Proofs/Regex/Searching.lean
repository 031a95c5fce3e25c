import Mathlib.Logic.Function.Iterate
import RequestDispatch.Regex.Search

/-! What the search finds.

The search answers with the ends of all matches that begin at the given positions
(`mem_ends`), so it finds a match exactly if there is one (`isMatch_iff`). A repetition is
followed one round at a time, and only from positions that are new (`mem_closure`). Rounds
that do not get on can be left out, so there need be no more of them than there are
positions (`Repeats.shorten`). An expression whose bounds are the wrong way round matches
nothing and is left out here (`CountsOrdered`). -/
namespace RequestDispatch.Regex

/-- The bounds of every repetition are in order. -/
def CountsOrdered : Regex → Prop
  | .empty | .set _ | .assertion _ => True
  | .seq r s | .alt r s => r.CountsOrdered ∧ s.CountsOrdered
  | .times r low high => r.CountsOrdered ∧ ∀ h ∈ high, low ≤ h

/-! ### Lists of positions -/

/-- Positions in ascending order, each once. -/
def Ascending (l : List Nat) : Prop := l.Pairwise (· < ·)

theorem ascending_cons {x : Nat} {xs : List Nat} :
    Ascending (x :: xs) ↔ (∀ i ∈ xs, x < i) ∧ Ascending xs := List.pairwise_cons

theorem mem_mergeAscending {xs ys : List Nat} {i : Nat} :
    i ∈ mergeAscending xs ys ↔ i ∈ xs ∨ i ∈ ys := by
  fun_induction mergeAscending xs ys with
  | case1 => simp
  | case2 => simp
  | case3 x xs y ys _ ih => rw [List.mem_cons, ih, ← or_assoc, ← List.mem_cons]
  | case4 x xs y ys _ _ ih => rw [List.mem_cons, ih, or_left_comm, ← List.mem_cons]
  | case5 x xs y ys _ _ ih =>
    obtain rfl : x = y := by omega
    grind

theorem ascending_mergeAscending {xs ys : List Nat} (hxs : Ascending xs) (hys : Ascending ys) :
    Ascending (mergeAscending xs ys) := by
  fun_induction mergeAscending xs ys with
  | case1 => exact hys
  | case2 => exact hxs
  | case3 x xs y ys _ ih =>
    obtain ⟨hx, hxs⟩ := ascending_cons.1 hxs
    obtain ⟨hy, -⟩ := ascending_cons.1 hys
    refine ascending_cons.2 ⟨fun i hi => ?_, ih hxs hys⟩
    grind [mem_mergeAscending]
  | case4 x xs y ys _ _ ih =>
    obtain ⟨hx, -⟩ := ascending_cons.1 hxs
    obtain ⟨hy, hys⟩ := ascending_cons.1 hys
    refine ascending_cons.2 ⟨fun i hi => ?_, ih hxs hys⟩
    grind [mem_mergeAscending]
  | case5 x xs y ys _ _ ih =>
    obtain ⟨hx, hxs⟩ := ascending_cons.1 hxs
    obtain ⟨hy, hys⟩ := ascending_cons.1 hys
    refine ascending_cons.2 ⟨fun i hi => ?_, ih hxs hys⟩
    grind [mem_mergeAscending]

theorem without_sublist (xs ys : List Nat) : (without xs ys).Sublist xs := by
  fun_induction without xs ys with
  | case1 => exact .slnil
  | case2 => exact List.Sublist.refl _
  | case3 x xs y ys _ ih => exact ih.cons_cons x
  | case4 x xs y ys _ _ ih => exact ih
  | case5 x xs y ys _ _ ih => exact ih.cons x

theorem mem_without {xs ys : List Nat} (hxs : Ascending xs) (hys : Ascending ys) {i : Nat} :
    i ∈ without xs ys ↔ i ∈ xs ∧ i ∉ ys := by
  fun_induction without xs ys with
  | case1 => simp
  | case2 => simp
  | case3 x xs y ys _ ih =>
    obtain ⟨-, hxs⟩ := ascending_cons.1 hxs
    obtain ⟨hy, -⟩ := ascending_cons.1 hys
    rw [List.mem_cons, ih hxs hys]
    grind
  | case4 x xs y ys _ _ ih =>
    obtain ⟨hx, -⟩ := ascending_cons.1 hxs
    obtain ⟨-, hys⟩ := ascending_cons.1 hys
    rw [ih hxs hys]
    grind
  | case5 x xs y ys _ _ ih =>
    obtain ⟨hx, hxs⟩ := ascending_cons.1 hxs
    obtain ⟨hy, hys⟩ := ascending_cons.1 hys
    rw [ih hxs hys]
    grind

/-! ### Rounds of a repetition -/

/-- A number of steps one after the other. -/
inductive Repeats (R : Nat → Nat → Prop) : Nat → Nat → Nat → Prop where
  | none (i : Nat) : Repeats R 0 i i
  | more {n i k j : Nat} (once : R i k) (rest : Repeats R n k j) : Repeats R (n + 1) i j

namespace Repeats
variable {R : Nat → Nat → Prop} {m n i k j : Nat}

theorem append (h : Repeats R m i k) (h' : Repeats R n k j) : Repeats R (n + m) i j := by
  induction h with
  | none => exact h'
  | more once _ ih => exact .more once (ih h')

theorem split (h : Repeats R (n + m) i j) : ∃ k, Repeats R m i k ∧ Repeats R n k j := by
  induction m generalizing i with
  | zero => exact ⟨i, .none i, h⟩
  | succ m ih =>
    cases h with
    | more once rest =>
      obtain ⟨k, hm, hn⟩ := ih rest
      exact ⟨k, .more once hm, hn⟩

theorem le (hR : ∀ i j, R i j → i ≤ j) (h : Repeats R n i j) : i ≤ j := by
  induction h with
  | none => exact Nat.le_refl _
  | more once _ ih => exact Nat.le_trans (hR _ _ once) ih

/-- Steps that stay where they are can be left out. -/
theorem shorten (hR : ∀ i j, R i j → i ≤ j) (h : Repeats R n i j) :
    ∃ m, m ≤ j - i ∧ Repeats R m i j := by
  induction h with
  | none i => exact ⟨0, Nat.zero_le _, .none i⟩
  | @more n i k j once rest ih =>
    obtain ⟨m, hm, hrest⟩ := ih
    have hik := hR i k once
    have hkj := rest.le hR
    by_cases heq : i = k
    · exact ⟨m, by omega, heq ▸ hrest⟩
    · exact ⟨m + 1, by omega, .more once hrest⟩

end Repeats

/-- A step on lists of positions that takes each position along a relation. -/
structure Follows (step : List Nat → List Nat) (R : Nat → Nat → Prop) : Prop where
  ascending : ∀ {l}, Ascending l → Ascending (step l)
  mem_iff : ∀ {l}, Ascending l → ∀ j, j ∈ step l ↔ ∃ i ∈ l, R i j

namespace Follows
variable {step : List Nat → List Nat} {R : Nat → Nat → Prop}

/-- Ending the walk early makes no difference. -/
theorem iterate_eq (step : List Nat → List Nat) (n : Nat) (front : List Nat) :
    iterate step n front = step^[n] front := by
  induction n generalizing front with
  | zero => rfl
  | succ n ih =>
    rw [iterate, Function.iterate_succ_apply]
    split
    next h => rw [h, Function.iterate_fixed h]
    next => exact ih (step front)

theorem iterated (h : Follows step R) (n : Nat) : Follows (iterate step n) (Repeats R n) := by
  have hiterate : iterate step n = step^[n] := funext (iterate_eq step n)
  rw [hiterate]
  clear hiterate
  induction n with
  | zero =>
    refine ⟨id, fun {l} _ j => ?_⟩
    constructor
    · exact fun hj => ⟨j, hj, .none j⟩
    · rintro ⟨i, hi, ⟨⟩⟩
      exact hi
  | succ n ih =>
    refine ⟨fun {l} hl => ?_, fun {l} hl j => ?_⟩
    · rw [Function.iterate_succ_apply]
      exact ih.ascending (h.ascending hl)
    · rw [Function.iterate_succ_apply, ih.mem_iff (h.ascending hl)]
      constructor
      · rintro ⟨k, hk, hrest⟩
        obtain ⟨i, hi, hik⟩ := (h.mem_iff hl k).1 hk
        exact ⟨i, hi, .more hik hrest⟩
      · rintro ⟨i, hi, hij⟩
        cases hij with
        | @more _ _ k _ once rest => exact ⟨k, (h.mem_iff hl k).2 ⟨i, hi, once⟩, rest⟩

theorem ascending_closure (h : Follows step R) (n : Nat) {front seen : List Nat}
    (hfront : Ascending front) (hseen : Ascending seen) : Ascending (closure step n front seen) := by
  induction n generalizing front seen with
  | zero => exact hseen
  | succ n ih =>
    have hfresh : Ascending (without (step front) seen) :=
      (h.ascending hfront).sublist (without_sublist _ _)
    rw [closure]
    split
    · exact hseen
    · exact ih hfresh (ascending_mergeAscending hseen hfresh)

/-- The search from the positions in front reaches what a limited number of steps reaches, if
those already seen and not in front lead nowhere else. -/
theorem mem_closure (h : Follows step R) (n : Nat) {front seen : List Nat} (hfront : Ascending front)
    (hseen : Ascending seen) (hsub : front ⊆ seen)
    (hclosed : ∀ i ∈ seen, i ∉ front → ∀ j, R i j → j ∈ seen) (j : Nat) :
    j ∈ closure step n front seen ↔ ∃ k, k ≤ n ∧ ∃ i ∈ seen, Repeats R k i j := by
  induction n generalizing front seen with
  | zero =>
    constructor
    · exact fun hj => ⟨0, Nat.le_refl 0, j, hj, .none j⟩
    · rintro ⟨k, hk, i, hi, hij⟩
      obtain rfl := Nat.le_zero.1 hk
      cases hij
      exact hi
  | succ n ih =>
    have hfresh : Ascending (without (step front) seen) :=
      (h.ascending hfront).sublist (without_sublist _ _)
    have hmem (j : Nat) : j ∈ without (step front) seen ↔ (∃ i ∈ front, R i j) ∧ j ∉ seen := by
      rw [mem_without (h.ascending hfront) hseen, h.mem_iff hfront]
    -- One step from what was seen leads to what was seen or is fresh.
    have hstep (i : Nat) (hi : i ∈ seen) (j : Nat) (hij : R i j) :
        j ∈ seen ∨ j ∈ without (step front) seen := by
      by_cases hj : j ∈ seen
      · exact .inl hj
      · by_cases hifront : i ∈ front
        · exact .inr ((hmem j).2 ⟨⟨i, hifront, hij⟩, hj⟩)
        · exact .inl (hclosed i hi hifront j hij)
    rw [closure]
    generalize without (step front) seen = fresh at hfresh hmem hstep
    split
    next hnil =>
      subst hnil
      have hstay {k i j : Nat} (hij : Repeats R k i j) : i ∈ seen → j ∈ seen := by
        induction hij with
        | none => exact id
        | more once _ ihrest => exact fun hi => ihrest ((hstep _ hi _ once).resolve_right List.not_mem_nil)
      constructor
      · exact fun hj => ⟨0, Nat.zero_le _, j, hj, .none j⟩
      · rintro ⟨k, -, i, hi, hij⟩
        exact hstay hij hi
    next =>
      have hmerge (i : Nat) : i ∈ mergeAscending seen fresh ↔ i ∈ seen ∨ i ∈ fresh :=
        mem_mergeAscending
      rw [ih hfresh (ascending_mergeAscending hseen hfresh) (fun i hi => (hmerge i).2 (.inr hi))
        fun i hi hnot j hij => (hmerge j).2 (hstep i (((hmerge i).1 hi).resolve_right hnot) j hij)]
      constructor
      · rintro ⟨k, hk, i, hi, hij⟩
        rcases (hmerge i).1 hi with hi | hi
        · exact ⟨k, Nat.le_succ_of_le hk, i, hi, hij⟩
        · obtain ⟨⟨i', hi', honce⟩, -⟩ := (hmem i).1 hi
          exact ⟨k + 1, Nat.succ_le_succ hk, i', hsub hi', .more honce hij⟩
      · rintro ⟨k, hk, i, hi, hij⟩
        cases hij with
        | none => exact ⟨0, Nat.zero_le _, j, (hmerge j).2 (.inl hi), .none j⟩
        | @more k _ i' _ once rest =>
          exact ⟨k, Nat.le_of_succ_le_succ hk, i', (hmerge i').2 (hstep i hi i' once), rest⟩

/-- Rounds up to a limit, from the positions that a number of rounds leads to. -/
theorem closed (h : Follows step R) (low extra : Nat) {l : List Nat} (hl : Ascending l) (j : Nat) :
    j ∈ closure step extra (iterate step low l) (iterate step low l) ↔
      ∃ n, low ≤ n ∧ n ≤ low + extra ∧ ∃ i ∈ l, Repeats R n i j := by
  have hfront := (h.iterated low).ascending hl
  rw [h.mem_closure extra hfront hfront (List.Subset.refl _) fun i hi hnot => absurd hi hnot]
  constructor
  · rintro ⟨n, hn, k, hk, hkj⟩
    obtain ⟨i, hi, hik⟩ := ((h.iterated low).mem_iff hl k).1 hk
    exact ⟨n + low, by omega, by omega, i, hi, hik.append hkj⟩
  · rintro ⟨n, hlow, hn, i, hi, hij⟩
    obtain ⟨n, rfl⟩ := Nat.exists_eq_add_of_le' hlow
    obtain ⟨k, hik, hkj⟩ := hij.split
    exact ⟨n, by omega, k, ((h.iterated low).mem_iff hl k).2 ⟨i, hi, hik⟩, hkj⟩

end Follows

/-! ### Matches -/

variable {text : Array Char} {r s : Regex} {i j : Nat}

theorem matches_times_iff {low : Nat} {high : Option Nat} :
    Matches text (.times r low high) i j ↔
      ∃ n, low ≤ n ∧ (∀ h ∈ high, n ≤ h) ∧ Repeats (Matches text r) n i j := by
  constructor
  · intro h
    generalize ht : Regex.times r low high = t at h
    induction h generalizing low high with
    | done =>
      cases ht
      exact ⟨0, Nat.le_refl 0, fun _ _ => Nat.zero_le _, .none _⟩
    | again bound once _ _ ih =>
      cases ht
      obtain ⟨n, hlow, hhigh, hrest⟩ := ih rfl
      refine ⟨n + 1, by omega, fun h hh => ?_, .more once hrest⟩
      have hle := hhigh (h - 1) (Option.map_eq_some_iff.2 ⟨h, hh, rfl⟩)
      have hne : h ≠ 0 := fun h0 => bound (h0 ▸ hh)
      omega
    | _ => cases ht
  · rintro ⟨n, hlow, hhigh, h⟩
    induction h generalizing low high with
    | none =>
      obtain rfl := Nat.le_zero.1 hlow
      exact .done
    | more once _ ih =>
      refine .again (fun h0 => ?_) once (ih (by omega) fun h hh => ?_)
      · exact Nat.not_succ_le_zero _ (hhigh 0 h0)
      · obtain ⟨h, hmem, rfl⟩ := Option.map_eq_some_iff.1 hh
        have hle := hhigh h hmem
        omega

/-- Matches go forward, and no further than to the end of the text. -/
theorem Matches.bounds (h : Matches text r i j) : i ≤ j ∧ j ≤ max i text.size := by
  induction h with
  | empty | assertion | done => omega
  | set at_i =>
    obtain ⟨hlt, -⟩ := Array.getElem?_eq_some_iff.1 at_i
    omega
  | seq _ _ ihr ihs => omega
  | altLeft _ ih | altRight _ ih => exact ih
  | again _ _ _ ihr ihs => omega

theorem past?_eq_some_iff {s : Unicode.CharSet} :
    past? text s i = some j ↔ Matches text (.set s) i j := by
  unfold past?
  constructor
  · intro h
    split at h
    next c hc =>
      split at h
      next hmem =>
        cases h
        exact .set hc hmem
      next => cases h
    next => cases h
  · intro h
    cases h with
    | set at_i mem => simp only [at_i, mem, if_true]

theorem follows_ends (text : Array Char) (hr : r.CountsOrdered) :
    Follows (ends text r) (Matches text r) := by
  induction r with
  | empty =>
    refine ⟨id, fun {l} _ j => ⟨fun hj => ⟨j, hj, .empty⟩, ?_⟩⟩
    rintro ⟨i, hi, ⟨⟩⟩
    exact hi
  | set s =>
    refine ⟨fun {l} hl => hl.filterMap _ fun i i' hlt j hj j' hj' => ?_, fun {l} _ j => ?_⟩
    · cases past?_eq_some_iff.1 hj
      cases past?_eq_some_iff.1 hj'
      exact Nat.succ_lt_succ hlt
    · rw [ends, List.mem_filterMap]
      exact exists_congr fun i => and_congr_right fun _ => past?_eq_some_iff
  | assertion a =>
    refine ⟨fun {l} hl => hl.sublist List.filter_sublist, fun {l} _ j => ?_⟩
    rw [ends, List.mem_filter]
    constructor
    · exact fun ⟨hj, holds⟩ => ⟨j, hj, .assertion holds⟩
    · rintro ⟨i, hi, h⟩
      cases h with
      | assertion holds => exact ⟨hi, holds⟩
  | seq r s ihr ihs =>
    have hr' := ihr hr.1
    have hs' := ihs hr.2
    refine ⟨fun hl => hs'.ascending (hr'.ascending hl), fun {l} hl j => ?_⟩
    rw [ends, hs'.mem_iff (hr'.ascending hl)]
    constructor
    · rintro ⟨k, hk, hright⟩
      obtain ⟨i, hi, hleft⟩ := (hr'.mem_iff hl k).1 hk
      exact ⟨i, hi, .seq hleft hright⟩
    · rintro ⟨i, hi, h⟩
      cases h with
      | seq left right => exact ⟨_, (hr'.mem_iff hl _).2 ⟨i, hi, left⟩, right⟩
  | alt r s ihr ihs =>
    have hr' := ihr hr.1
    have hs' := ihs hr.2
    refine ⟨fun hl => ascending_mergeAscending (hr'.ascending hl) (hs'.ascending hl), fun {l} hl j => ?_⟩
    rw [ends, mem_mergeAscending, hr'.mem_iff hl, hs'.mem_iff hl]
    constructor
    · rintro (⟨i, hi, h⟩ | ⟨i, hi, h⟩)
      · exact ⟨i, hi, .altLeft h⟩
      · exact ⟨i, hi, .altRight h⟩
    · rintro ⟨i, hi, h⟩
      cases h with
      | altLeft h => exact .inl ⟨i, hi, h⟩
      | altRight h => exact .inr ⟨i, hi, h⟩
  | times r low high ih =>
    have hr' := ih hr.1
    have hfront {l : List Nat} (hl : Ascending l) := (hr'.iterated low).ascending hl
    cases high with
    | some high =>
      have hle : low ≤ high := hr.2 high rfl
      refine ⟨fun hl => hr'.ascending_closure _ (hfront hl) (hfront hl), fun {l} hl j => ?_⟩
      refine (hr'.closed low (high - low) hl j).trans ?_
      simp only [matches_times_iff, Option.mem_some_iff, forall_eq']
      constructor
      · rintro ⟨n, hlow, hhigh, i, hi, h⟩
        exact ⟨i, hi, n, hlow, by omega, h⟩
      · rintro ⟨i, hi, n, hlow, hhigh, h⟩
        exact ⟨n, hlow, by omega, i, hi, h⟩
    | none =>
      refine ⟨fun hl => hr'.ascending_closure _ (hfront hl) (hfront hl), fun {l} hl j => ?_⟩
      refine (hr'.closed low (text.size + 1) hl j).trans ?_
      simp only [matches_times_iff, Option.not_mem_none, false_imp_iff, implies_true, true_and]
      constructor
      · rintro ⟨n, hlow, -, i, hi, h⟩
        exact ⟨i, hi, n, hlow, h⟩
      · rintro ⟨i, hi, n, hlow, h⟩
        -- The rounds beyond the lower bound need be no more than there are positions.
        obtain ⟨n, rfl⟩ := Nat.exists_eq_add_of_le' hlow
        obtain ⟨k, hik, hkj⟩ := h.split
        obtain ⟨m, hm, hkj⟩ := hkj.shorten fun _ _ h => h.bounds.1
        have hbounds := (matches_times_iff.2 ⟨m, Nat.zero_le m, nofun, hkj⟩ :
          Matches text (.times r 0 none) k j).bounds
        exact ⟨m + low, by omega, by omega, i, hi, hik.append hkj⟩

/-- **The search finds a match exactly if there is one.** -/
theorem isMatch_iff (hr : r.CountsOrdered) (text : String) :
    r.isMatch text = true ↔
      ∃ i j, i ≤ text.toList.toArray.size ∧ Matches text.toList.toArray r i j := by
  have hrange : Ascending (List.range (text.toList.toArray.size + 1)) := List.pairwise_lt_range
  have hmem := (follows_ends text.toList.toArray hr).mem_iff hrange
  rw [isMatch, bne_iff_ne]
  constructor
  · intro hne
    obtain ⟨j, hj⟩ := List.exists_mem_of_ne_nil _ hne
    obtain ⟨i, hi, h⟩ := (hmem j).1 hj
    exact ⟨i, j, Nat.le_of_lt_succ (List.mem_range.1 hi), h⟩
  · rintro ⟨i, j, hi, h⟩
    exact List.ne_nil_of_mem ((hmem j).2 ⟨i, List.mem_range.2 (Nat.lt_succ_of_le hi), h⟩)

end RequestDispatch.Regex
