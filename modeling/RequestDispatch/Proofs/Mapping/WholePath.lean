import RequestDispatch.Proofs.Regex.Counts
import RequestDispatch.Proofs.Regex.Wrapping

/-! Patterns for the whole path.

An expression is tied to both ends of the path by its text: a group is opened before it and
closed behind it. That ties the whole of it exactly if the expression does not close that
group itself (`serves_whole_path_iff`). One that does, and opens another one for the end to
close, is accepted although it is no expression, and serves paths for what they begin or end
with (`unopened_serves_part`). -/
namespace RequestDispatch

open Regex (Matches)

/-- Tied to both ends, an expression matches somewhere exactly if it matches the whole. -/
theorem Regex.matches_tied_iff {text : Array Char} {r : Regex} :
    (∃ i j, i ≤ text.size ∧
      Matches text (.seq (.assertion .textStart) (.seq r (.assertion .textEnd))) i j) ↔
      Matches text r 0 text.size := by
  constructor
  · rintro ⟨i, j, -, h⟩
    cases h with
    | seq hstart h =>
      cases h with
      | seq hr hend =>
        cases hstart with
        | assertion hstart =>
          cases hend with
          | assertion hend =>
            obtain rfl := beq_iff_eq.1 hstart
            obtain rfl := beq_iff_eq.1 hend
            exact hr
  · intro h
    have hstart : Matches text (.assertion .textStart) 0 0 := .assertion rfl
    have hend : Matches text (.assertion .textEnd) text.size text.size :=
      .assertion (beq_self_eq_true text.size)
    exact ⟨0, text.size, Nat.zero_le _, .seq hstart (.seq h hend)⟩

namespace Pattern

/-- **An accepted expression is one by itself and serves a path exactly if it matches the whole
of it**, unless by itself it closes a group that it has not opened, and only then. -/
theorem serves_whole_path_iff {source : String} {p : Pattern} (hp : regex? source = .ok p) :
    (∃ r, Regex.ofText? source = .ok r ∧
      ∀ path, p.serves path = true ↔ Matches path.toList.toArray r 0 path.toList.toArray.size) ↔
      Regex.ofText? source ≠ .error .groupUnopened := by
  unfold regex? at hp
  split at hp <;> cases hp
  next program hprogram =>
  constructor
  · rintro ⟨r, hr, -⟩ hunopened
    cases hr.symm.trans hunopened
  · intro hopened
    obtain ⟨r, hr, rfl⟩ := (Regex.ofText?_of_anchored hprogram).resolve_left hopened
    have hordered := Regex.countsOrdered_of_ofText? hprogram
    exact ⟨r, hr, fun path => (Regex.isMatch_iff hordered path).trans Regex.matches_tied_iff⟩

/-- A choice is tied to both ends as a whole. -/
theorem choice_serves_whole_path :
    ∃ p, regex? "/a|/b" = .ok p ∧ ∃ r, Regex.ofText? "/a|/b" = .ok r ∧
      ∀ path, p.serves path = true ↔ Matches path.toList.toArray r 0 path.toList.toArray.size := by
  have haccepted : (regex? "/a|/b").isOk = true := by decide +kernel
  have halone : (Regex.ofText? "/a|/b").isOk = true := by decide +kernel
  cases hp : regex? "/a|/b" with
  | error e =>
    rw [hp] at haccepted
    cases haccepted
  | ok p =>
    refine ⟨p, rfl, (serves_whole_path_iff hp).2 fun hunopened => ?_⟩
    rw [hunopened] at halone
    cases halone

/-- Two halves of a choice that close the group around them and open another one: each is tied
to one end only. -/
theorem unopened_serves_part :
    ∃ p, regex? "/a)|(?:/b" = .ok p ∧ Regex.ofText? "/a)|(?:/b" = .error .groupUnopened ∧
      p.serves "/ax" = true ∧ p.serves "x/b" = true := by
  have hserves : (regex? "/a)|(?:/b").toOption.any
      (fun p => p.serves "/ax" && p.serves "x/b") = true := by decide +kernel
  cases hp : regex? "/a)|(?:/b" with
  | error e =>
    rw [hp] at hserves
    cases hserves
  | ok p =>
    rw [hp] at hserves
    obtain ⟨hstart, hend⟩ := Bool.and_eq_true_iff.1 hserves
    exact ⟨p, rfl, rfl, hstart, hend⟩

end Pattern
end RequestDispatch
