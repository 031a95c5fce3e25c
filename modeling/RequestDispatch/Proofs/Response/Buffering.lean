import Mathlib.Data.List.DropRight
import RequestDispatch.Response.Step

/-! What a response holds back, and what it sends.

A step sends everything, what it writes included, or it sends nothing (`Step.sends`), and the first
step to send commits the response. Until then the response holds back all that was written since the
last reset, so steps alone tell when it is committed (`committed_run_iff`). No byte is lost or moved
but by a reset, however what is written is cut into pieces. -/
namespace RequestDispatch.Response

/-! ### One step -/

/-- The bytes that a step adds to the body. -/
def Step.written : Step → List UInt8
  | .write data => data
  | _ => []

/-- Whether a step sends all that is unsent: a flush does, and a write of more than can be held back. -/
def Step.sends (r : Response) : Step → Bool
  | .flush => true
  | .write data => r.capacity < (r.unsent ++ data).length
  | _ => false

section Step
variable (r : Response) (s : Step)

theorem write_eq (data : List UInt8) :
    r.write data = if r.capacity < (r.unsent ++ data).length
      then { r with committed := true, sent := r.body ++ data, unsent := [] }
      else { r with unsent := r.unsent ++ data } := by
  simp only [write, flush, body, List.append_assoc]

/-- All that a step can do: send everything, drop what is unsent, or hold back what it writes. Status
and headers are left alone by all that sends, and by all else once the response is committed. -/
theorem step_cases :
    (s.sends r = true ∧ r.step s = { r with committed := true, sent := r.body ++ s.written, unsent := [] }) ∨
      s.sends r = false ∧ (s = .reset ∧ r.step s = { r with unsent := [] } ∨
        s ≠ .reset ∧ ∃ status headers,
          r.step s = { r with status, headers, unsent := r.unsent ++ s.written } ∧
          (r.committed = true → status = r.status ∧ headers = r.headers)) := by
  cases s with
  | write data =>
    by_cases h : r.capacity < (r.unsent ++ data).length
    · exact .inl ⟨decide_eq_true h, (r.write_eq data).trans (if_pos h)⟩
    · refine .inr ⟨decide_eq_false h, .inr ⟨nofun, r.status, r.headers, ?_, fun _ => ⟨rfl, rfl⟩⟩⟩
      exact (r.write_eq data).trans (if_neg h)
  | flush => exact .inl ⟨rfl, by simp [step, flush, body, Step.written]⟩
  | reset => exact .inr ⟨rfl, .inl ⟨rfl, rfl⟩⟩
  | status status =>
    refine .inr ⟨rfl, .inr ⟨nofun, if r.committed then r.status else status, r.headers, ?_, ?_⟩⟩
    · obtain ⟨_, _, _, _, _, committed⟩ := r
      cases committed <;> simp [step, setStatus, Step.written]
    · exact fun h => ⟨if_pos h, rfl⟩
  | header name value =>
    refine .inr ⟨rfl, .inr ⟨nofun, r.status, (r.setHeader name value).headers, ?_, ?_⟩⟩
    · obtain ⟨_, _, _, _, _, committed⟩ := r
      cases committed <;> simp [step, setHeader, Step.written]
    · exact fun h => ⟨rfl, by simp [setHeader, h]⟩

@[simp] theorem capacity_step : (r.step s).capacity = r.capacity := by
  rcases r.step_cases s with ⟨-, he⟩ | ⟨-, ⟨-, he⟩ | ⟨-, _, _, he, -⟩⟩ <;> rw [he]

@[simp] theorem committed_step : (r.step s).committed = (r.committed || s.sends r) := by
  rcases r.step_cases s with ⟨h, he⟩ | ⟨h, ⟨-, he⟩ | ⟨-, _, _, he, -⟩⟩ <;> simp [h, he]

theorem sent_step : (r.step s).sent = if s.sends r then r.body ++ s.written else r.sent := by
  rcases r.step_cases s with ⟨h, he⟩ | ⟨h, ⟨-, he⟩ | ⟨-, _, _, he, -⟩⟩ <;> simp [h, he]

theorem unsent_step :
    (r.step s).unsent = if s.sends r ∨ s = .reset then [] else r.unsent ++ s.written := by
  rcases r.step_cases s with ⟨h, he⟩ | ⟨h, ⟨rfl, he⟩ | ⟨hne, _, _, he, -⟩⟩ <;> simp [*]

theorem body_step {s : Step} (hs : s ≠ .reset) : (r.step s).body = r.body ++ s.written := by
  rcases r.step_cases s with ⟨-, he⟩ | ⟨-, ⟨rfl, -⟩ | ⟨-, _, _, he, -⟩⟩
  · simp [he, body]
  · exact absurd rfl hs
  · simp [he, body]

/-- A reset leaves what was sent. -/
theorem body_step_reset : (r.step .reset).body = r.sent := List.append_nil r.sent

/-- What was sent stays as it is, and more may follow it. -/
theorem sent_prefix_step : r.sent <+: (r.step s).sent := by
  rw [sent_step]
  split
  · exact ⟨r.unsent ++ s.written, by rw [body, List.append_assoc]⟩
  · exact List.prefix_rfl

/-- A step that sends leaves status and headers alone, and so does any other once the response is
committed. -/
theorem frozen_step {s : Step} (h : (r.step s).committed = true) :
    (r.step s).status = r.status ∧ (r.step s).headers = r.headers := by
  rcases r.step_cases s with ⟨-, he⟩ | ⟨-, ⟨-, he⟩ | ⟨-, status, headers, he, hsame⟩⟩
  · simp [he]
  · simp [he]
  · rw [he] at h ⊢
    exact hsame h

end Step

/-! ### Many steps -/

/-- All that steps write, in order. -/
def written (steps : List Step) : List UInt8 := steps.flatMap Step.written

/-- What steps write from the last reset on, or from the start. -/
def draft (steps : List Step) : List UInt8 := written (steps.rtakeWhile (· ≠ .reset))

theorem written_concat (steps : List Step) (s : Step) :
    written (steps ++ [s]) = written steps ++ s.written := by
  simp [written]

theorem draft_concat (steps : List Step) (s : Step) :
    draft (steps ++ [s]) = if s = .reset then [] else draft steps ++ s.written := by
  rw [draft, List.rtakeWhile_concat]
  by_cases hs : s = .reset
  · simp [hs, written]
  · simp [hs, draft, written_concat]

/-- The step `s` after some others commits a response with this capacity, if it has not been
committed: it flushes, or it writes and makes what was written since the last reset too much. -/
def Commits (capacity : Nat) (before : List Step) (s : Step) : Prop :=
  s = .flush ∨ (∃ data, s = .write data) ∧ capacity < (draft (before ++ [s])).length

section Run
variable (r : Response)

theorem run_append (steps later : List Step) : r.run (steps ++ later) = (r.run steps).run later :=
  List.foldl_append

theorem run_concat (steps : List Step) (s : Step) : r.run (steps ++ [s]) = (r.run steps).step s :=
  run_append r steps [s]

@[simp] theorem capacity_run (steps : List Step) : (r.run steps).capacity = r.capacity := by
  induction steps using List.reverseRecOn with
  | nil => rfl
  | append_singleton steps s ih => rw [run_concat, capacity_step, ih]

/-- What has been committed stays so, with its status and headers. -/
theorem frozen_run {r : Response} (h : r.committed = true) (later : List Step) :
    (r.run later).committed = true ∧ (r.run later).status = r.status ∧
      (r.run later).headers = r.headers := by
  induction later using List.reverseRecOn with
  | nil => exact ⟨h, rfl, rfl⟩
  | append_singleton later s ih =>
    obtain ⟨hcommitted, hstatus, hheaders⟩ := ih
    rw [run_concat]
    have hstep : ((r.run later).step s).committed = true := by rw [committed_step, hcommitted, Bool.true_or]
    obtain ⟨hstatus', hheaders'⟩ := frozen_step _ hstep
    exact ⟨hstep, hstatus'.trans hstatus, hheaders'.trans hheaders⟩

theorem sent_prefix_run (later : List Step) : r.sent <+: (r.run later).sent := by
  induction later using List.reverseRecOn with
  | nil => exact List.prefix_rfl
  | append_singleton later s ih =>
    rw [run_concat]
    exact ih.trans (sent_prefix_step _ s)

/-- Without a reset every byte that is written is in the body, in its place. -/
theorem body_run {steps : List Step} (h : .reset ∉ steps) : (r.run steps).body = r.body ++ written steps := by
  induction steps using List.reverseRecOn with
  | nil => simp [run, written]
  | append_singleton steps s ih =>
    rw [List.mem_append, List.mem_singleton, not_or] at h
    rw [run_concat, body_step _ (Ne.symm h.2), ih h.1, written_concat, List.append_assoc]

end Run

/-! ### From the start -/

/-- What holds of a response at any time. -/
structure Sound (r : Response) : Prop where
  unsent_le : r.unsent.length ≤ r.capacity
  sent_nil : r.committed = false → r.sent = []

namespace Sound

theorem fresh (capacity : Nat) : (fresh capacity).Sound := ⟨Nat.zero_le _, fun _ => rfl⟩

theorem step {r : Response} (h : r.Sound) (s : Step) : (r.step s).Sound where
  unsent_le := by
    rw [unsent_step, capacity_step]
    split
    · exact Nat.zero_le _
    next hs =>
      cases s with
      | write data => simpa [Step.sends, Step.written] using hs
      | _ => simpa [Step.written] using h.unsent_le
  sent_nil hc := by
    rw [committed_step, Bool.or_eq_false_iff] at hc
    rw [sent_step, hc.2]
    exact h.sent_nil hc.1

theorem run {r : Response} (h : r.Sound) (steps : List Step) : (r.run steps).Sound := by
  induction steps using List.reverseRecOn with
  | nil => exact h
  | append_singleton steps s ih =>
    rw [run_concat]
    exact ih.step s

end Sound

section Fresh
variable (capacity : Nat) (steps : List Step)

/-- Until it is committed a response holds back what was written since the last reset. -/
theorem unsent_run (h : ((fresh capacity).run steps).committed = false) :
    ((fresh capacity).run steps).unsent = draft steps := by
  induction steps using List.reverseRecOn with
  | nil => simp [run, fresh, draft, written]
  | append_singleton steps s ih =>
    rw [run_concat, committed_step, Bool.or_eq_false_iff] at h
    rw [run_concat, unsent_step, h.2, ih h.1, draft_concat]
    simp

theorem sends_run_iff (s : Step) (h : ((fresh capacity).run steps).committed = false) :
    s.sends ((fresh capacity).run steps) = true ↔ Commits capacity steps s := by
  have hcapacity : ((fresh capacity).run steps).capacity = capacity := capacity_run _ _
  cases s with
  | write data =>
    rw [Step.sends, decide_eq_true_iff, hcapacity, unsent_run capacity steps h]
    simp [Commits, draft_concat, Step.written]
  | _ => simp [Step.sends, Commits]

/-- A response is committed if some step was to commit it. -/
theorem committed_run_iff :
    ((fresh capacity).run steps).committed = true ↔
      ∃ before s, before ++ [s] <+: steps ∧ Commits capacity before s := by
  induction steps using List.reverseRecOn with
  | nil => simp [run, fresh]
  | append_singleton steps s ih =>
    rw [run_concat, committed_step, Bool.or_eq_true]
    constructor
    · intro h
      cases hc : ((fresh capacity).run steps).committed with
      | true =>
        obtain ⟨before, s', hprefix, hcommits⟩ := ih.1 hc
        exact ⟨before, s', hprefix.trans (List.prefix_append _ _), hcommits⟩
      | false =>
        have hsends := h.resolve_left (by simp [hc])
        exact ⟨steps, s, List.prefix_rfl, (sends_run_iff capacity steps s hc).1 hsends⟩
    · rintro ⟨before, s', hprefix, hcommits⟩
      cases hc : ((fresh capacity).run steps).committed with
      | true => exact .inl rfl
      | false =>
        rcases List.prefix_concat_iff.1 hprefix with he | hprefix
        · obtain ⟨rfl, hs⟩ := List.append_inj' he rfl
          cases hs
          exact .inr ((sends_run_iff capacity before s hc).2 hcommits)
        · rw [ih.2 ⟨before, s', hprefix, hcommits⟩] at hc
          cases hc

end Fresh

/-! ### Writes alone -/

/-- What is written in pieces, piece by piece. -/
def writes (chunks : List (List UInt8)) : List Step := chunks.map .write

theorem writes_concat (chunks : List (List UInt8)) (data : List UInt8) :
    writes (chunks ++ [data]) = writes chunks ++ [.write data] := List.map_append

theorem reset_not_mem_writes (chunks : List (List UInt8)) : .reset ∉ writes chunks := by
  simp [writes]

theorem written_writes (chunks : List (List UInt8)) : written (writes chunks) = chunks.flatten := by
  rw [written, writes, List.flatMap_map]
  exact List.flatMap_id

theorem draft_of_not_mem {steps : List Step} (h : .reset ∉ steps) : draft steps = written steps := by
  rw [draft, List.rtakeWhile_eq_self_iff.2]
  exact fun s hs => decide_eq_true fun he => h (he ▸ hs)

theorem frozen_writes (r : Response) (chunks : List (List UInt8)) :
    (r.run (writes chunks)).status = r.status ∧ (r.run (writes chunks)).headers = r.headers := by
  induction chunks using List.reverseRecOn with
  | nil => exact ⟨rfl, rfl⟩
  | append_singleton chunks data ih =>
    rw [writes_concat, run_concat, step, write_eq]
    split <;> exact ih

/-- Writes commit a response if together they are too much, whatever the pieces. -/
theorem committed_writes_iff (capacity : Nat) (chunks : List (List UInt8)) :
    ((fresh capacity).run (writes chunks)).committed = true ↔ capacity < chunks.flatten.length := by
  induction chunks using List.reverseRecOn with
  | nil => simp [writes, run, fresh]
  | append_singleton chunks data ih =>
    rw [writes_concat, run_concat, committed_step, Bool.or_eq_true]
    cases hc : ((fresh capacity).run (writes chunks)).committed with
    | true =>
      have hlt := ih.1 hc
      simp only [true_or, List.flatten_append, List.length_append, true_iff]
      omega
    | false =>
      have hdraft := draft_of_not_mem (reset_not_mem_writes (chunks ++ [data]))
      rw [written_writes, writes_concat] at hdraft
      simp [sends_run_iff capacity _ _ hc, Commits, hdraft]

/-- Responses that a client cannot tell apart once they are finished. -/
structure SameOutput (r r' : Response) : Prop where
  body : r.body = r'.body
  committed : r.committed = r'.committed
  status : r.status = r'.status
  headers : r.headers = r'.headers

theorem sameOutput_writes (capacity : Nat) {chunks chunks' : List (List UInt8)}
    (h : chunks.flatten = chunks'.flatten) :
    SameOutput ((fresh capacity).run (writes chunks)) ((fresh capacity).run (writes chunks')) where
  body := by
    rw [body_run _ (reset_not_mem_writes _), body_run _ (reset_not_mem_writes _), written_writes,
      written_writes, h]
  committed := by
    rw [Bool.eq_iff_iff, committed_writes_iff, committed_writes_iff, h]
  status := (frozen_writes _ chunks).1.trans (frozen_writes _ chunks').1.symm
  headers := (frozen_writes _ chunks).2.trans (frozen_writes _ chunks').2.symm

/-- **A response is a bounded buffer that loses nothing.** It holds back no more than its capacity and
sends nothing before it is committed. It is committed by the first flush, or by the first write that
makes what was written since the last reset more than its capacity, and from then on for good, with
the status and headers it has then. What was sent stays. Without a reset all that is written is in its
body, in order, and writes alone come to the same, however they are cut into pieces. -/
theorem buffers_faithfully (capacity : Nat) (steps : List Step) :
    let r := (fresh capacity).run steps
    r.unsent.length ≤ capacity ∧
    (r.committed = false → r.sent = []) ∧
    (r.committed = true ↔ ∃ before s, before ++ [s] <+: steps ∧ Commits capacity before s) ∧
    (r.committed = true → ∀ later, (r.run later).committed = true) ∧
    (r.committed = false → ∀ s later, (r.step s).committed = true →
      ((r.step s).run later).status = r.status ∧ ((r.step s).run later).headers = r.headers) ∧
    (∀ later, r.sent <+: (r.run later).sent) ∧
    (.reset ∉ steps → r.body = written steps) ∧
    ∀ chunks chunks' : List (List UInt8), chunks.flatten = chunks'.flatten →
      SameOutput ((fresh capacity).run (writes chunks)) ((fresh capacity).run (writes chunks')) := by
  intro r
  have hsound : r.Sound := (Sound.fresh capacity).run steps
  have hcapacity : r.capacity = capacity := capacity_run _ steps
  refine ⟨hcapacity ▸ hsound.unsent_le, hsound.sent_nil, committed_run_iff capacity steps,
    fun hc later => (frozen_run hc later).1, fun _ s later hs => ?_, r.sent_prefix_run, fun h => ?_,
    fun _ _ => sameOutput_writes capacity⟩
  · obtain ⟨-, hstatus, hheaders⟩ := frozen_run hs later
    obtain ⟨hstatus', hheaders'⟩ := frozen_step r hs
    exact ⟨hstatus.trans hstatus', hheaders.trans hheaders'⟩
  · exact body_run (fresh capacity) h

/-- As many bytes as can be held back do not commit a response, and one more does. -/
example : ((fresh 4).run [.write [1, 2, 3], .write [4], .write []]).committed = false ∧
    ((fresh 4).run [.write [1, 2, 3], .write [4], .write [5]]).committed = true := by decide

end RequestDispatch.Response
