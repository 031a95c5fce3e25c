import RequestDispatch.Proofs.Response.Buffering

/-! What a reset drops.

Only a reset takes anything out of a body: the bytes that are unsent when it is made. That the
response is committed does not keep them, since after a commit as before it what is written is held
back until there is too much of it. So a committed body lasts exactly as long as every reset finds it
sent. -/
namespace RequestDispatch.Response

section
variable (r : Response)

theorem length_body_step_le (s : Step) : (r.step s).body.length ≤ (r.body ++ s.written).length := by
  by_cases hs : s = .reset
  · rw [hs, body_step_reset]
    simp only [body, List.length_append]
    omega
  · rw [body_step r hs]

theorem length_body_run_le (steps : List Step) :
    (r.run steps).body.length ≤ (r.body ++ written steps).length := by
  induction steps using List.reverseRecOn with
  | nil => simp [run, written]
  | append_singleton steps s ih =>
    have hstep := (r.run steps).length_body_step_le s
    rw [run_concat, written_concat]
    simp only [List.length_append] at ih hstep ⊢
    omega

/-- What holds at every reset among some steps and one more. -/
theorem forall_reset_concat {P : List Step → Prop} {steps : List Step} {s : Step} :
    (∀ before, before ++ [.reset] <+: steps ++ [s] → P before) ↔
      (∀ before, before ++ [.reset] <+: steps → P before) ∧ (s = .reset → P steps) := by
  constructor
  · intro h
    exact ⟨fun before hbefore => h before (hbefore.trans (List.prefix_append _ _)),
      fun hs => h steps (hs ▸ List.prefix_rfl)⟩
  · rintro ⟨h, hlast⟩ before hbefore
    rcases List.prefix_concat_iff.1 hbefore with he | hbefore
    · obtain ⟨rfl, hs⟩ := List.append_inj' he rfl
      exact hlast (List.singleton_inj.1 hs).symm
    · exact h before hbefore

/-- A reset drops nothing that was written if and only if nothing is unsent, provided that nothing has
been dropped before. -/
theorem sent_run_eq_iff (steps : List Step) :
    (r.run steps).sent = r.body ++ written steps ↔
      (r.run steps).body = r.body ++ written steps ∧ (r.run steps).unsent = [] := by
  constructor
  · intro h
    have hle := r.length_body_run_le steps
    rw [← h, body, List.length_append] at hle
    have hunsent : (r.run steps).unsent = [] := List.eq_nil_of_length_eq_zero (by omega)
    exact ⟨by rw [body, hunsent, List.append_nil, h], hunsent⟩
  · rintro ⟨h, hunsent⟩
    rw [← h, body, hunsent, List.append_nil]

/-- A body has all that was written unless a reset drops some of it. What is dropped is missing from
then on, since no step adds more than it writes. -/
theorem body_run_iff (steps : List Step) :
    (r.run steps).body = r.body ++ written steps ↔
      ∀ before, before ++ [.reset] <+: steps → (r.run before).unsent = [] := by
  induction steps using List.reverseRecOn with
  | nil => simp [run, written]
  | append_singleton steps s ih =>
    rw [forall_reset_concat, ← ih, run_concat, written_concat, ← List.append_assoc]
    by_cases hs : s = .reset
    · have hnothing : s.written = [] := by rw [hs]; rfl
      rw [hnothing, List.append_nil, hs, body_step_reset, sent_run_eq_iff]
      exact and_congr_right' (by simp)
    · rw [body_step _ hs, List.append_left_inj]
      exact ⟨fun h => ⟨h, fun he => absurd he hs⟩, And.left⟩

end

/-- **What becomes of a committed body.** The response stays committed, and what was sent stays in its
body. All of the body stays, with what is written later behind it, if and only if no reset is made
while something is unsent. -/
theorem committed_body_kept_iff (capacity : Nat) (steps later : List Step)
    (h : ((fresh capacity).run steps).committed = true) :
    ((fresh capacity).run (steps ++ later)).committed = true ∧
    ((fresh capacity).run steps).sent <+: ((fresh capacity).run (steps ++ later)).body ∧
    (((fresh capacity).run (steps ++ later)).body = ((fresh capacity).run steps).body ++ written later ↔
      ∀ before, before ++ [.reset] <+: later → ((fresh capacity).run (steps ++ before)).unsent = []) := by
  simp only [run_append]
  exact ⟨(frozen_run h later).1, (sent_prefix_run _ later).trans (List.prefix_append _ _),
    body_run_iff _ later⟩

/-- Two bytes too many commit a response. What is written next is dropped before it is sent. -/
theorem overflow_then_reset :
    ((fresh 2).run [.write [1, 2, 3, 4]]).committed = true ∧
      ((fresh 2).run ([.write [1, 2, 3, 4]] ++ [.write [5], .reset])).committed = true ∧
      ((fresh 2).run ([.write [1, 2, 3, 4]] ++ [.write [5], .reset])).body ≠
        ((fresh 2).run [.write [1, 2, 3, 4]]).body ++ written [.write [5], .reset] := by
  have hcommitted : ((fresh 2).run [.write [1, 2, 3, 4]]).committed = true := by decide
  obtain ⟨hstays, -, hkept⟩ := committed_body_kept_iff 2 [.write [1, 2, 3, 4]] [.write [5], .reset] hcommitted
  refine ⟨hcommitted, hstays, fun he => ?_⟩
  have hunsent := hkept.1 he [.write [5]] List.prefix_rfl
  exact absurd hunsent (by decide)

/-- A byte that is written after a flush is gone after a reset, though the response is committed. -/
theorem reset_drops_committed :
    ((fresh 64).run [.flush, .write [120]]).committed = true ∧
      ((fresh 64).run [.flush, .write [120]]).body = [120] ∧
      ((fresh 64).run [.flush, .write [120], .reset]).body = [] := by decide

end RequestDispatch.Response
