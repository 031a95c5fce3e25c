import Mathlib.Data.List.Forall2
import RequestDispatch.Registry.Lifecycle

/-! One pass over a registry.

Setting up and taking down are two ways of going over the mappings of a registry. A
`Stage` is a registry with such a pass and what becomes of each attempt; its `calls` are
what the instances are called for, in order. No instance is called twice in a pass
(`Stage.nodup_calls`). A pass that takes down calls all of them, one that sets up sets up
the first if it sets up any, and all of them exactly if it succeeds. -/
namespace RequestDispatch

/-- A state stays what it is or becomes the next one. -/
inductive HandlerState.Moves : HandlerState → HandlerState → Prop where
  | stays (s : HandlerState) : Moves s s
  | initialized : Moves .uninitialized .initialized
  | destroyed : Moves .initialized .destroyed

namespace Registry
variable {η : Type}

/-- The numbers of the instances, mapping by mapping. -/
def numbers (r : Registry η) : List Nat := r.definitions.map (·.handler.number)

/-! ### One pass -/

/-- The mappings whose instances are not among those seen, each instance once. -/
def firstUses : (seen : List Nat) → List (Definition η) → List (Definition η)
  | _, [] => []
  | seen, d :: rest =>
    if d.handler.number ∈ seen then firstUses seen rest
    else d :: firstUses (d.handler.number :: seen) rest

theorem mem_firstUses {seen : List Nat} {ds : List (Definition η)} {d : Definition η}
    (h : d ∈ firstUses seen ds) : d ∈ ds ∧ d.handler.number ∉ seen := by
  induction ds generalizing seen with
  | nil => cases h
  | cons e rest ih =>
    unfold firstUses at h
    split at h
    · obtain ⟨hd, hseen⟩ := ih h
      exact ⟨List.mem_cons_of_mem e hd, hseen⟩
    next he =>
      rcases List.mem_cons.1 h with rfl | h
      · exact ⟨List.mem_cons_self, he⟩
      · obtain ⟨hd, hseen⟩ := ih h
        exact ⟨List.mem_cons_of_mem e hd, fun hs => hseen (List.mem_cons_of_mem _ hs)⟩

theorem nodup_firstUses (seen : List Nat) (ds : List (Definition η)) :
    ((firstUses seen ds).map (·.handler.number)).Nodup := by
  induction ds generalizing seen with
  | nil => exact List.nodup_nil
  | cons d rest ih =>
    unfold firstUses
    split
    · exact ih seen
    · refine List.nodup_cons.2 ⟨fun h => ?_, ih _⟩
      obtain ⟨e, he, hnumber⟩ := List.mem_map.1 h
      exact (mem_firstUses he).2 (hnumber ▸ List.mem_cons_self)

/-- No instance is left out. -/
theorem exists_firstUse {seen : List Nat} {ds : List (Definition η)} {d : Definition η} (hd : d ∈ ds)
    (hseen : d.handler.number ∉ seen) : ∃ e ∈ firstUses seen ds, e.handler.number = d.handler.number := by
  induction ds generalizing seen with
  | nil => cases hd
  | cons e rest ih =>
    unfold firstUses
    by_cases he : e.handler.number ∈ seen
    · rw [if_pos he]
      rcases List.mem_cons.1 hd with rfl | hd
      · exact absurd he hseen
      · exact ih hd hseen
    · rw [if_neg he]
      by_cases hsame : e.handler.number = d.handler.number
      · exact ⟨e, List.mem_cons_self, hsame⟩
      · have hd : d ∈ rest := (List.mem_cons.1 hd).resolve_left fun h => hsame (h ▸ rfl)
        have hnew : d.handler.number ∉ e.handler.number :: seen := by
          simp [hseen, Ne.symm hsame]
        obtain ⟨f, hf, hnumber⟩ := ih hd hnew
        exact ⟨f, List.mem_cons_of_mem e hf, hnumber⟩

/-- All that setting up can do: it sets up every instance, or fails at the first use of one. -/
inductive SetsUp (attempt : Definition η → Except Failure Unit) (seen : List Nat) :
    List (Definition η) → Setup η → Prop where
  | all {ds : List (Definition η)} (h : ∀ d ∈ firstUses seen ds, attempt d = .ok ()) :
    SetsUp attempt seen ds ⟨ds.map ({ · with state := .initialized }), firstUses seen ds,
      .ok (firstUses seen ds).length⟩
  | failure (before : List (Definition η)) {after : List (Definition η)} {d : Definition η} {f : Failure}
    (h : ∀ e ∈ firstUses seen before, attempt e = .ok ()) (hd : attempt d = .error f)
    (hnew : ∀ e ∈ before, e.handler.number ≠ d.handler.number) (hseen : d.handler.number ∉ seen) :
    SetsUp attempt seen (before ++ d :: after)
      ⟨before.map ({ · with state := .initialized }) ++ d :: after, firstUses seen before ++ [d],
        .error (.lifecycle d.name .init f)⟩

theorem setsUp_setUpFrom (attempt : Definition η → Except Failure Unit) (seen : List Nat)
    (ds : List (Definition η)) : SetsUp attempt seen ds (setUpFrom attempt seen ds) := by
  induction ds generalizing seen with
  | nil => exact .all nofun
  | cons d rest ih =>
    unfold setUpFrom
    by_cases hd : d.handler.number ∈ seen
    · have uses (l : List (Definition η)) : firstUses seen (d :: l) = firstUses seen l := by
        rw [firstUses, if_pos hd]
      rw [if_pos hd]
      have hrest := ih seen
      generalize setUpFrom attempt seen rest = s at hrest
      cases hrest with
      | all h =>
        rw [← uses] at h ⊢
        exact .all h
      | @failure before _ e _ h he hnew hseen =>
        rw [← uses] at h ⊢
        have hne : d.handler.number ≠ e.handler.number := fun heq => hseen (heq ▸ hd)
        exact .failure (d :: before) h he (List.forall_mem_cons.2 ⟨hne, hnew⟩) hseen
    · have uses (l : List (Definition η)) :
          firstUses seen (d :: l) = d :: firstUses (d.handler.number :: seen) l := by
        rw [firstUses, if_neg hd]
      rw [if_neg hd]
      cases hattempt : attempt d with
      | error f => exact .failure [] nofun hattempt nofun hd
      | ok =>
        have hrest := ih (d.handler.number :: seen)
        generalize setUpFrom attempt (d.handler.number :: seen) rest = s at hrest
        cases hrest with
        | all h =>
          have hall : ∀ e ∈ firstUses seen (d :: rest), attempt e = .ok () := by
            rw [uses]
            exact List.forall_mem_cons.2 ⟨hattempt, h⟩
          have hs := SetsUp.all hall
          simp only [uses] at hs
          exact hs
        | @failure before _ e _ h he hnew hseen =>
          have hall : ∀ e ∈ firstUses seen (d :: before), attempt e = .ok () := by
            rw [uses]
            exact List.forall_mem_cons.2 ⟨hattempt, h⟩
          simp only [← List.cons_append, ← uses]
          rw [List.mem_cons, not_or] at hseen
          exact .failure (d :: before) hall he
            (List.forall_mem_cons.2 ⟨Ne.symm hseen.1, hnew⟩) hseen.2

namespace SetsUp
variable {attempt : Definition η → Except Failure Unit} {seen : List Nat} {ds : List (Definition η)}
  {s : Setup η}

theorem numbers_eq (h : SetsUp attempt seen ds s) :
    s.definitions.map (·.handler.number) = ds.map (·.handler.number) := by
  cases h <;> simp [Function.comp_def]

theorem mem_of_mem_attempts (h : SetsUp attempt seen ds s) {d : Definition η} (hd : d ∈ s.attempts) :
    d ∈ ds := by
  cases h with
  | all => exact (mem_firstUses hd).1
  | failure =>
    rcases List.mem_append.1 hd with hd | hd
    · exact List.mem_append_left _ (mem_firstUses hd).1
    · exact List.mem_append_right _ (List.mem_singleton.1 hd ▸ List.mem_cons_self)

theorem nodup_attempts (h : SetsUp attempt seen ds s) :
    (s.attempts.map (·.handler.number)).Nodup := by
  cases h with
  | all => exact nodup_firstUses seen ds
  | failure _ _ _ hnew =>
    rw [List.map_append, List.map_singleton]
    refine List.nodup_append.2 ⟨nodup_firstUses seen _, List.pairwise_singleton _ _, ?_⟩
    intro n hn m hm
    obtain ⟨e, he, rfl⟩ := List.mem_map.1 hn
    rw [List.mem_singleton.1 hm]
    exact hnew e (mem_firstUses he).1

/-- The first mapping's instance is called first, and nothing comes of its failing. -/
theorem first {d : Definition η} {rest : List (Definition η)} (h : SetsUp attempt [] (d :: rest) s) :
    d ∈ s.attempts ∧ ((∃ e ∈ s.attempts, attempt e = .ok ()) → attempt d = .ok ()) := by
  have uses (l : List (Definition η)) : d ∈ firstUses [] (d :: l) := by
    simp [firstUses]
  generalize hds : d :: rest = ds at h
  cases h with
  | all h =>
    subst hds
    exact ⟨uses rest, fun _ => h d (uses rest)⟩
  | @failure before after e f h he =>
    cases before with
    | nil =>
      obtain ⟨rfl, rfl⟩ := List.cons.inj hds
      refine ⟨List.mem_singleton_self d, fun ⟨e, hmem, hok⟩ => ?_⟩
      rw [List.mem_singleton.1 hmem, he] at hok
      cases hok
    | cons b before =>
      obtain ⟨rfl, rfl⟩ := List.cons.inj hds
      exact ⟨List.mem_append_left _ (uses before), fun _ => h d (uses before)⟩

/-- Setting up succeeds if every instance is set up. -/
theorem isOk_iff (h : SetsUp attempt [] ds s) :
    s.result.isOk = true ↔
      ∀ d ∈ ds, ∃ e ∈ s.attempts, e.handler.number = d.handler.number ∧ attempt e = .ok () := by
  cases h with
  | all h =>
    refine iff_of_true rfl fun d hd => ?_
    obtain ⟨e, he, hnumber⟩ := exists_firstUse hd List.not_mem_nil
    exact ⟨e, he, hnumber, h e he⟩
  | @failure before after d f h hd hnew =>
    refine iff_of_false Bool.false_ne_true fun hall => ?_
    obtain ⟨e, he, hnumber, hok⟩ := hall d (List.mem_append_right _ List.mem_cons_self)
    rcases List.mem_append.1 he with he | he
    · exact hnew e (mem_firstUses he).1 hnumber
    · rw [List.mem_singleton.1 he, hd] at hok
      cases hok

/-- The mappings up to some point are set up, the rest are what they were. -/
theorem definitions_eq (h : SetsUp attempt seen ds s) : ∃ before after, ds = before ++ after ∧
    s.definitions = before.map ({ · with state := .initialized }) ++ after := by
  cases h with
  | all => exact ⟨ds, [], (List.append_nil ds).symm, (List.append_nil _).symm⟩
  | @failure before after d => exact ⟨before, d :: after, rfl, rfl⟩

theorem state_of_isOk (h : SetsUp attempt seen ds s) (hok : s.result.isOk = true) :
    ∀ d ∈ s.definitions, d.state = .initialized := by
  cases h with
  | all => simp
  | failure => cases hok

end SetsUp

/-- The failure, if an instance was not taken down. -/
def downFailure? (d : Definition η) : Except Failure Unit → Option DispatchError
  | .ok () => none
  | .error f => some (.lifecycle d.name .destroy f)

/-- Taking down attempts the first uses, whatever comes of each, and marks every mapping. -/
theorem takeDownFrom_eq (attempt : Definition η → Except Failure Unit) (seen : List Nat)
    (ds : List (Definition η)) :
    takeDownFrom attempt seen ds = ⟨ds.map ({ · with state := .destroyed }), firstUses seen ds,
      (firstUses seen ds).filterMap fun d => downFailure? d (attempt d)⟩ := by
  induction ds generalizing seen with
  | nil => rfl
  | cons d rest ih =>
    unfold takeDownFrom firstUses
    by_cases hd : d.handler.number ∈ seen
    · rw [if_pos hd, if_pos hd, ih]
      rfl
    · rw [if_neg hd, if_neg hd, ih, List.filterMap_cons]
      cases attempt d <;> rfl

end Registry

/-! ### What the instances are called for -/

/-- A pass over a registry, one way or the other, with what becomes of the attempts. -/
structure Sweep (η : Type) where
  phase : LifecyclePhase
  attempt : Definition η → Except Failure Unit

/-- What an instance was called for, and whether it did it. -/
structure Call where
  number : Nat
  phase : LifecyclePhase
  succeeded : Bool
  deriving DecidableEq

/-- The instance was set up. -/
def Call.SetUp (c : Call) : Prop := c.phase = .init ∧ c.succeeded = true

instance (c : Call) : Decidable c.SetUp := inferInstanceAs (Decidable (_ ∧ _))

/-- A registry with the pass that is made over it. -/
structure Stage (η : Type) where
  registry : Registry η
  sweep : Sweep η

namespace Stage
variable {η : Type}

/-- The registry the pass leaves. -/
def after (x : Stage η) : Registry η :=
  match x.sweep.phase with
  | .init => (x.registry.setUp x.sweep.attempt).1
  | .destroy => (x.registry.takeDown x.sweep.attempt).1

def attempts (x : Stage η) : List (Definition η) :=
  match x.sweep.phase with
  | .init => (x.registry.setUp x.sweep.attempt).2.1
  | .destroy => (x.registry.takeDown x.sweep.attempt).2.1

def calls (x : Stage η) : List Call :=
  x.attempts.map fun d => ⟨d.handler.number, x.sweep.phase, (x.sweep.attempt d).isOk⟩

/-- Some instance is set up. -/
def Begins (x : Stage η) : Prop := ∃ c ∈ x.calls, c.SetUp

/-- Setting up succeeds. -/
def Completes (x : Stage η) : Prop :=
  x.sweep.phase = .init ∧ (x.registry.setUp x.sweep.attempt).2.2.isOk = true

instance (x : Stage η) : Decidable x.Begins := inferInstanceAs (Decidable (∃ c ∈ x.calls, c.SetUp))

instance (x : Stage η) : Decidable x.Completes := inferInstanceAs (Decidable (_ ∧ _))

theorem phase_of_mem_calls {x : Stage η} {c : Call} (hc : c ∈ x.calls) :
    c.phase = x.sweep.phase := by
  obtain ⟨d, -, rfl⟩ := List.mem_map.1 hc
  rfl

theorem Begins.phase {x : Stage η} (h : x.Begins) : x.sweep.phase = .init := by
  obtain ⟨c, hc, hset⟩ := h
  rw [← phase_of_mem_calls hc, hset.1]

/-- What a pass that sets up does. -/
theorem setsUp {x : Stage η} (hx : x.sweep.phase = .init) :
    ∃ s, Registry.SetsUp x.sweep.attempt [] x.registry.definitions s ∧ x.after = ⟨s.definitions⟩ ∧
      x.attempts = s.attempts ∧ (x.Completes ↔ s.result.isOk = true) := by
  refine ⟨_, Registry.setsUp_setUpFrom x.sweep.attempt [] x.registry.definitions, ?_, ?_, ?_⟩
  · simp only [after, hx]
    rfl
  · simp only [attempts, hx]
    rfl
  · simp only [Completes, hx, true_and]
    rfl

/-- What a pass that takes down does. -/
theorem takesDown {x : Stage η} (hx : x.sweep.phase = .destroy) :
    x.after = ⟨x.registry.definitions.map ({ · with state := .destroyed })⟩ ∧
      x.attempts = Registry.firstUses [] x.registry.definitions := by
  constructor
  · simp only [after, hx, Registry.takeDown, Registry.takeDownFrom_eq]
  · simp only [attempts, hx, Registry.takeDown, Registry.takeDownFrom_eq]

theorem numbers_after (x : Stage η) : x.after.numbers = x.registry.numbers := by
  cases hx : x.sweep.phase with
  | init =>
    obtain ⟨s, hs, hafter, -⟩ := setsUp hx
    rw [hafter]
    exact hs.numbers_eq
  | destroy =>
    rw [(takesDown hx).1]
    simp [Registry.numbers, Function.comp_def]

/-- No instance is called twice in a pass. -/
theorem nodup_calls (x : Stage η) : (x.calls.map (·.number)).Nodup := by
  rw [calls, List.map_map]
  cases hx : x.sweep.phase with
  | init =>
    obtain ⟨s, hs, -, hattempts, -⟩ := setsUp hx
    rw [hattempts]
    exact hs.nodup_attempts
  | destroy =>
    rw [(takesDown hx).2]
    exact Registry.nodup_firstUses [] _

theorem mem_of_mem_attempts {x : Stage η} {d : Definition η} (hd : d ∈ x.attempts) :
    d ∈ x.registry.definitions := by
  cases hx : x.sweep.phase with
  | init =>
    obtain ⟨s, hs, -, hattempts, -⟩ := setsUp hx
    exact hs.mem_of_mem_attempts (hattempts ▸ hd)
  | destroy =>
    rw [(takesDown hx).2] at hd
    exact (Registry.mem_firstUses hd).1

theorem number_mem_of_mem_calls {x : Stage η} {c : Call} (hc : c ∈ x.calls) :
    c.number ∈ x.registry.numbers := by
  obtain ⟨d, hd, rfl⟩ := List.mem_map.1 hc
  exact List.mem_map_of_mem (mem_of_mem_attempts hd)

/-- Every instance is called when it comes to taking down. -/
theorem exists_call_of_destroy {x : Stage η} (hx : x.sweep.phase = .destroy) {n : Nat}
    (hn : n ∈ x.registry.numbers) : ∃ c ∈ x.calls, c.number = n ∧ c.phase = .destroy := by
  obtain ⟨d, hd, rfl⟩ := List.mem_map.1 hn
  obtain ⟨e, he, hnumber⟩ := Registry.exists_firstUse hd List.not_mem_nil
  rw [← (takesDown hx).2] at he
  exact ⟨_, List.mem_map_of_mem he, hnumber, hx⟩

/-- The first instance is called in every pass. -/
theorem exists_call_head {x : Stage η} {n : Nat} {rest : List Nat} (hn : x.registry.numbers = n :: rest) :
    ∃ c ∈ x.calls, c.number = n := by
  cases hx : x.sweep.phase with
  | init =>
    obtain ⟨s, hs, -, hattempts, -⟩ := setsUp hx
    obtain ⟨d, ds, hds, rfl, -⟩ := List.map_eq_cons_iff.1 hn
    rw [hds] at hs
    exact ⟨_, List.mem_map_of_mem (hattempts ▸ hs.first.1), rfl⟩
  | destroy =>
    obtain ⟨c, hc, hnumber, -⟩ := exists_call_of_destroy hx (hn ▸ List.mem_cons_self)
    exact ⟨c, hc, hnumber⟩

/-- An instance is set up exactly if an attempt at it ends well. -/
theorem exists_setUp_iff {x : Stage η} (hx : x.sweep.phase = .init) (n : Nat) :
    (∃ c ∈ x.calls, c.number = n ∧ c.SetUp) ↔
      ∃ d ∈ x.attempts, d.handler.number = n ∧ x.sweep.attempt d = .ok () := by
  have isOk_iff (r : Except Failure Unit) : r.isOk = true ↔ r = .ok () := by
    cases r <;> simp [Except.isOk, Except.toBool]
  simp [calls, Call.SetUp, hx, isOk_iff]

theorem Begins.exists_setUp {x : Stage η} (h : x.Begins) :
    ∃ n, ∃ c ∈ x.calls, c.number = n ∧ c.SetUp := by
  obtain ⟨c, hc, hset⟩ := h
  exact ⟨c.number, c, hc, rfl, hset⟩

/-- A pass that sets up any instance sets up the first. -/
theorem Begins.head {x : Stage η} (h : x.Begins) {n : Nat} {rest : List Nat}
    (hn : x.registry.numbers = n :: rest) : ∃ c ∈ x.calls, c.number = n ∧ c.SetUp := by
  have hx := h.phase
  obtain ⟨m, hm⟩ := h.exists_setUp
  obtain ⟨e, he, -, hok⟩ := (exists_setUp_iff hx m).1 hm
  obtain ⟨s, hs, -, hattempts, -⟩ := setsUp hx
  obtain ⟨d, ds, hds, rfl, -⟩ := List.map_eq_cons_iff.1 hn
  rw [hds] at hs
  rw [hattempts] at he
  refine (exists_setUp_iff hx _).2 ⟨d, ?_, rfl, hs.first.2 ⟨e, he, hok⟩⟩
  rw [hattempts]
  exact hs.first.1

/-- Setting up succeeds exactly if every instance is set up. -/
theorem completes_iff {x : Stage η} (hx : x.sweep.phase = .init) :
    x.Completes ↔ ∀ n ∈ x.registry.numbers, ∃ c ∈ x.calls, c.number = n ∧ c.SetUp := by
  obtain ⟨s, hs, -, hattempts, hcompletes⟩ := setsUp hx
  simp only [hcompletes, hs.isOk_iff, exists_setUp_iff hx, hattempts, Registry.numbers, List.forall_mem_map]

/-! What a pass makes of the states. -/

/-- The states move forward over a pass. -/
def MovesForward (x : Stage η) : Prop :=
  List.Forall₂ (fun d d' => d.state.Moves d'.state) x.registry.definitions x.after.definitions

theorem movesForward_of_init {x : Stage η} (hx : x.sweep.phase = .init)
    (h : ∀ d ∈ x.registry.definitions, d.state ≠ .destroyed) :
    x.MovesForward ∧ ∀ d ∈ x.after.definitions, d.state ≠ .destroyed := by
  obtain ⟨s, hs, hafter, -⟩ := setsUp hx
  obtain ⟨before, after, hds, hdefinitions⟩ := hs.definitions_eq
  rw [MovesForward, hafter, hdefinitions, hds]
  rw [hds, List.forall_mem_append] at h
  constructor
  · refine List.rel_append ?_ (List.forall₂_same.2 fun d _ => .stays d.state)
    refine List.forall₂_map_right_iff.2 (List.forall₂_same.2 fun d hd => ?_)
    have hstate := h.1 d hd
    cases hd : d.state with
    | uninitialized => exact .initialized
    | initialized => exact .stays _
    | destroyed => exact absurd hd hstate
  · refine List.forall_mem_append.2 ⟨List.forall_mem_map.2 fun d _ => ?_, h.2⟩
    exact nofun

theorem initialized_of_init {x : Stage η} (hx : x.sweep.phase = .init)
    (h : x.Completes ∨ ∀ d ∈ x.registry.definitions, d.state = .initialized) :
    ∀ d ∈ x.after.definitions, d.state = .initialized := by
  obtain ⟨s, hs, hafter, -, hcompletes⟩ := setsUp hx
  rw [hafter]
  rcases h with h | h
  · exact hs.state_of_isOk (hcompletes.1 h)
  · obtain ⟨before, after, hds, hdefinitions⟩ := hs.definitions_eq
    rw [hds, List.forall_mem_append] at h
    rw [hdefinitions]
    exact List.forall_mem_append.2 ⟨List.forall_mem_map.2 fun _ _ => rfl, h.2⟩

theorem movesForward_of_destroy {x : Stage η} (hx : x.sweep.phase = .destroy)
    (h : ∀ d ∈ x.registry.definitions, d.state = .initialized) : x.MovesForward := by
  rw [MovesForward, (takesDown hx).1]
  refine List.forall₂_map_right_iff.2 (List.forall₂_same.2 fun d hd => ?_)
  rw [h d hd]
  exact .destroyed

end Stage

end RequestDispatch
