import Mathlib.Data.List.Pairwise
import RequestDispatch.Proofs.Registry.Passes

/-! The lifetime of handlers.

A registry is set up and taken down any number of times, and any attempt may fail. Its
history is what the instances are called for, in order. The history moves every instance
forward, from not set up to set up to taken down, exactly if at most one pass sets
instances up, no pass follows one that takes them down, and none takes them down unless
one has set up all of them (`lifecycle_forward_iff`). Nothing in a registry sees to this:
a pass does not ask for the states it finds. -/
namespace RequestDispatch.Registry
variable {η : Type} {r : Registry η} {ws : List (Sweep η)}

/-- Passes made one after the other, each over what the one before left. -/
def stages : Registry η → List (Sweep η) → List (Stage η)
  | _, [] => []
  | r, w :: ws => ⟨r, w⟩ :: stages (Stage.mk r w).after ws

/-- What the instances are called for over all passes. -/
def history (r : Registry η) (ws : List (Sweep η)) : List Call := (r.stages ws).flatMap (·.calls)

theorem numbers_of_mem_stages {x : Stage η} (hx : x ∈ r.stages ws) : x.registry.numbers = r.numbers := by
  induction ws generalizing r with
  | nil => cases hx
  | cons w ws ih =>
    rcases List.mem_cons.1 hx with rfl | hx
    · rfl
    · exact (ih hx).trans (Stage.numbers_after ⟨r, w⟩)

/-- The history of passes moves every instance forward. -/
structure Forward (r : Registry η) (ws : List (Sweep η)) : Prop where
  /-- An instance is taken down only after it was set up. -/
  destroyed_after : ∀ before c after, r.history ws = before ++ c :: after → c.phase = .destroy →
    ∃ c' ∈ before, c'.number = c.number ∧ c'.SetUp
  /-- None is called to be set up after it was called to be taken down. -/
  not_revived : (r.history ws).Pairwise fun c c' =>
    c.phase = .destroy → c'.phase = .init → c'.number ≠ c.number
  set_up_once : (r.history ws).Pairwise fun c c' => c.SetUp → c'.SetUp → c'.number ≠ c.number
  destroyed_once : (r.history ws).Pairwise fun c c' =>
    c.phase = .destroy → c'.phase = .destroy → c'.number ≠ c.number
  states : ∀ x ∈ r.stages ws, x.MovesForward

/-- Passes made the way a registry is meant to be used. -/
structure InOrder (xs : List (Stage η)) : Prop where
  /-- At most one pass sets instances up. -/
  once : xs.Pairwise fun x y => ¬(x.Begins ∧ y.Begins)
  /-- No pass follows one that takes down. -/
  last : xs.Pairwise fun x _ => x.sweep.phase ≠ .destroy
  /-- None takes down what was not set up as a whole. -/
  ready : (∃ x ∈ xs, x.sweep.phase = .destroy) → ∃ x ∈ xs, x.Completes

/-- A call in a history belongs to one of its passes. -/
theorem stage_of_history {xs : List (Stage η)} {before after : List Call} {c : Call}
    (h : xs.flatMap (·.calls) = before ++ c :: after) :
    ∃ xs₁ x xs₂ l₁, xs = xs₁ ++ x :: xs₂ ∧ c ∈ x.calls ∧ before = xs₁.flatMap (·.calls) ++ l₁ ∧
      ∀ c' ∈ l₁, c' ∈ x.calls := by
  induction xs generalizing before with
  | nil => simp at h
  | cons x xs ih =>
    rw [List.flatMap_cons, List.append_eq_append_iff] at h
    rcases h with ⟨l, rfl, h⟩ | ⟨l, hcalls, h⟩
    · obtain ⟨xs₁, y, xs₂, l₁, rfl, hc, rfl, hl⟩ := ih h
      exact ⟨x :: xs₁, y, xs₂, l₁, rfl, hc, by simp, hl⟩
    · cases l with
      | nil =>
        have hfirst : xs.flatMap (·.calls) = [] ++ c :: after := h.symm
        obtain ⟨xs₁, y, xs₂, l₁, rfl, hc, hnil, hl⟩ := ih hfirst
        refine ⟨x :: xs₁, y, xs₂, l₁, rfl, hc, ?_, hl⟩
        rw [List.flatMap_cons, List.append_assoc, ← hnil, hcalls, List.append_nil, List.append_nil]
      | cons d l =>
        obtain ⟨rfl, -⟩ := List.cons.inj h
        refine ⟨[], x, xs, before, rfl, ?_, rfl, fun c' hc' => ?_⟩
        · exact hcalls ▸ List.mem_append_right _ List.mem_cons_self
        · exact hcalls ▸ List.mem_append_left _ hc'

/-- As no pass calls an instance twice, what two calls of different instances always have
need only be seen to from pass to pass. -/
theorem pairwise_history {R : Call → Call → Prop} (hR : ∀ c c', c'.number ≠ c.number → R c c') :
    (r.history ws).Pairwise R ↔
      (r.stages ws).Pairwise fun x y => ∀ c ∈ x.calls, ∀ c' ∈ y.calls, R c c' := by
  refine List.pairwise_flatMap.trans (and_iff_right fun x _ => ?_)
  exact (List.pairwise_map.1 x.nodup_calls).imp fun h => hR _ _ h.symm

theorem states_of_inOrder (hr : ∀ d ∈ r.definitions, d.state ≠ .destroyed)
    (last : (r.stages ws).Pairwise fun x _ => x.sweep.phase ≠ .destroy)
    (ready : (∃ x ∈ r.stages ws, x.sweep.phase = .destroy) →
      (∃ x ∈ r.stages ws, x.Completes) ∨ ∀ d ∈ r.definitions, d.state = .initialized) :
    ∀ x ∈ r.stages ws, x.MovesForward := by
  induction ws generalizing r with
  | nil => exact nofun
  | cons w ws ih =>
    simp only [stages, List.forall_mem_cons, List.pairwise_cons,
      List.exists_mem_cons_iff] at last ready ⊢
    cases hw : w.phase with
    | init =>
      obtain ⟨hmoves, hafter⟩ := Stage.movesForward_of_init (x := ⟨r, w⟩) hw hr
      refine ⟨hmoves, ih hafter last.2 fun hdown => ?_⟩
      rcases ready (.inr hdown) with (hcompletes | hcompletes) | hstates
      · exact .inr (Stage.initialized_of_init (x := ⟨r, w⟩) hw (.inl hcompletes))
      · exact .inl hcompletes
      · exact .inr (Stage.initialized_of_init (x := ⟨r, w⟩) hw (.inr hstates))
    | destroy =>
      refine ⟨Stage.movesForward_of_destroy (x := ⟨r, w⟩) hw ?_, fun x hx => absurd hw (last.1 x hx)⟩
      rcases ready (.inl hw) with (hcompletes | ⟨x, hx, -⟩) | hstates
      · exact absurd (hw.symm.trans hcompletes.1) nofun
      · exact absurd hw (last.1 x hx)
      · exact hstates

/-- Before a pass that takes down, every instance was set up. -/
theorem InOrder.exists_setUp (h : InOrder (r.stages ws)) {xs₁ xs₂ : List (Stage η)} {x : Stage η}
    (hstages : r.stages ws = xs₁ ++ x :: xs₂) (hx : x.sweep.phase = .destroy) {n : Nat}
    (hn : n ∈ r.numbers) : ∃ y ∈ xs₁, ∃ c ∈ y.calls, c.number = n ∧ c.SetUp := by
  have hmem : x ∈ r.stages ws := hstages ▸ List.mem_append_right _ List.mem_cons_self
  obtain ⟨y, hy, hcompletes⟩ := h.ready ⟨x, hmem, hx⟩
  rw [← numbers_of_mem_stages hy] at hn
  refine ⟨y, ?_, (Stage.completes_iff hcompletes.1).1 hcompletes n hn⟩
  obtain ⟨-, hlast, -⟩ := List.pairwise_append.1 (hstages ▸ h.last)
  rw [hstages, List.mem_append, List.mem_cons] at hy
  rcases hy with hy | rfl | hy
  · exact hy
  · exact absurd (hx.symm.trans hcompletes.1) nofun
  · exact absurd hx ((List.pairwise_cons.1 hlast).1 y hy)

theorem InOrder.forward (hr : ∀ d ∈ r.definitions, d.state = .uninitialized)
    (h : InOrder (r.stages ws)) : r.Forward ws where
  destroyed_after before c after hhistory hphase := by
    obtain ⟨xs₁, x, xs₂, l₁, hstages, hc, rfl, -⟩ := stage_of_history hhistory
    have hx : x.sweep.phase = .destroy := (Stage.phase_of_mem_calls hc).symm.trans hphase
    have hmem : x ∈ r.stages ws := hstages ▸ List.mem_append_right _ List.mem_cons_self
    have hn : c.number ∈ r.numbers := by
      rw [← numbers_of_mem_stages hmem]
      exact Stage.number_mem_of_mem_calls hc
    obtain ⟨y, hy, c', hc', hset⟩ := h.exists_setUp hstages hx hn
    exact ⟨c', List.mem_append_left _ (List.mem_flatMap.2 ⟨y, hy, hc'⟩), hset⟩
  not_revived := (pairwise_history fun _ _ h _ _ => h).2 <| h.last.imp fun hx c hc _ _ hphase =>
    absurd ((Stage.phase_of_mem_calls hc).symm.trans hphase) hx
  set_up_once := (pairwise_history fun _ _ h _ _ => h).2 <| h.once.imp fun hxy c hc c' hc' hset hset' =>
    absurd ⟨⟨c, hc, hset⟩, ⟨c', hc', hset'⟩⟩ hxy
  destroyed_once := (pairwise_history fun _ _ h _ _ => h).2 <| h.last.imp fun hx c hc _ _ hphase =>
    absurd ((Stage.phase_of_mem_calls hc).symm.trans hphase) hx
  states := states_of_inOrder (fun d hd => by rw [hr d hd]; exact nofun) h.last fun hdown =>
    .inl (h.ready hdown)

/-- Where there is no mapping nothing is called. -/
theorem forward_of_nil (hr : r.definitions = []) : r.Forward ws := by
  have hnil {x : Stage η} (hx : x ∈ r.stages ws) : x.registry.numbers = [] := by
    rw [numbers_of_mem_stages hx, numbers, hr, List.map_nil]
  have hhistory : r.history ws = [] := by
    refine List.eq_nil_iff_forall_not_mem.2 fun c hc => ?_
    obtain ⟨x, hx, hc⟩ := List.mem_flatMap.1 hc
    have hnumber := Stage.number_mem_of_mem_calls hc
    rw [hnil hx] at hnumber
    cases hnumber
  refine ⟨fun before c after h => ?_, ?_, ?_, ?_, fun x hx => ?_⟩
  · rw [hhistory] at h
    cases before <;> cases h
  iterate 3
    rw [hhistory]
    exact .nil
  · have hafter : x.after.definitions = [] :=
      List.map_eq_nil_iff.1 ((Stage.numbers_after x).trans (hnil hx))
    rw [Stage.MovesForward, List.map_eq_nil_iff.1 (hnil hx), hafter]
    exact .nil

namespace Forward
variable {n : Nat} {rest : List Nat}

/-- Two passes that set up any instance both set up the first. -/
theorem once (h : r.Forward ws) (hn : r.numbers = n :: rest) :
    (r.stages ws).Pairwise fun x y => ¬(x.Begins ∧ y.Begins) := by
  refine ((pairwise_history fun _ _ h _ _ => h).1 h.set_up_once).imp_of_mem ?_
  rintro x y hx hy hxy ⟨hbx, hby⟩
  obtain ⟨c, hc, hnumber, hset⟩ := hbx.head ((numbers_of_mem_stages hx).trans hn)
  obtain ⟨c', hc', hnumber', hset'⟩ := hby.head ((numbers_of_mem_stages hy).trans hn)
  exact hxy c hc c' hc' hset hset' (hnumber'.trans hnumber.symm)

/-- A pass of whatever kind calls the first instance. -/
theorem last (h : r.Forward ws) (hn : r.numbers = n :: rest) :
    (r.stages ws).Pairwise fun x _ => x.sweep.phase ≠ .destroy := by
  have hinit := (pairwise_history fun _ _ h _ _ => h).1 h.not_revived
  have hdestroy := (pairwise_history fun _ _ h _ _ => h).1 h.destroyed_once
  refine (hinit.and hdestroy).imp_of_mem fun {x y} hx hy ⟨hinit, hdestroy⟩ hphase => ?_
  obtain ⟨c, hc, hnumber⟩ := Stage.exists_call_head ((numbers_of_mem_stages hx).trans hn)
  obtain ⟨c', hc', hnumber'⟩ := Stage.exists_call_head ((numbers_of_mem_stages hy).trans hn)
  have hcphase := (Stage.phase_of_mem_calls hc).trans hphase
  cases hphase' : c'.phase with
  | init => exact hinit c hc c' hc' hcphase hphase' (hnumber'.trans hnumber.symm)
  | destroy => exact hdestroy c hc c' hc' hcphase hphase' (hnumber'.trans hnumber.symm)

/-- Whatever is taken down was set up in some pass. -/
theorem exists_setUp (h : r.Forward ws) {x : Stage η} (hx : x ∈ r.stages ws)
    (hphase : x.sweep.phase = .destroy) {m : Nat} (hm : m ∈ r.numbers) :
    ∃ y ∈ r.stages ws, ∃ c ∈ y.calls, c.number = m ∧ c.SetUp := by
  rw [← numbers_of_mem_stages hx] at hm
  obtain ⟨c, hc, rfl, hcphase⟩ := Stage.exists_call_of_destroy hphase hm
  obtain ⟨before, after, hhistory⟩ := List.append_of_mem (List.mem_flatMap.2 ⟨x, hx, hc⟩)
  obtain ⟨c', hc', hset⟩ := h.destroyed_after before c after hhistory hcphase
  have hmem : c' ∈ r.history ws := by
    rw [history, hhistory]
    exact List.mem_append_left _ hc'
  obtain ⟨y, hy, hc'⟩ := List.mem_flatMap.1 hmem
  exact ⟨y, hy, c', hc', hset⟩

theorem inOrder (h : r.Forward ws) (hr : r.definitions ≠ []) : InOrder (r.stages ws) := by
  obtain ⟨n, rest, hn⟩ : ∃ n rest, r.numbers = n :: rest :=
    List.exists_cons_of_ne_nil (List.map_eq_nil_iff.not.2 hr)
  refine ⟨h.once hn, h.last hn, fun ⟨x, hx, hphase⟩ => ?_⟩
  obtain ⟨y, hy, c, hc, -, hset⟩ := h.exists_setUp hx hphase (hn ▸ List.mem_cons_self)
  have hbegins : y.Begins := ⟨c, hc, hset⟩
  refine ⟨y, hy, (Stage.completes_iff hbegins.phase).2 fun m hm => ?_⟩
  rw [numbers_of_mem_stages hy] at hm
  obtain ⟨z, hz, c', hc', hnumber, hset'⟩ := h.exists_setUp hx hphase hm
  -- Only one pass sets up anything, so it is the same for all instances.
  have hzy : z = y := by
    by_contra hne
    have hsymm : Std.Symm fun x y : Stage η => ¬(x.Begins ∧ y.Begins) := ⟨fun _ _ h h' => h h'.symm⟩
    exact (h.once hn).forall hz hy hne ⟨⟨c', hc', hset'⟩, hbegins⟩
  exact hzy ▸ ⟨c', hc', hnumber, hset'⟩

end Forward

/-- **The life of handlers.** The history of a registry nothing was done with before moves every
instance forward if and only if its passes are made in order, or there is no mapping. -/
theorem lifecycle_forward_iff (r : Registry η) (ws : List (Sweep η))
    (hr : ∀ d ∈ r.definitions, d.state = .uninitialized) :
    r.Forward ws ↔ r.definitions = [] ∨ InOrder (r.stages ws) := by
  constructor
  · intro h
    exact or_iff_not_imp_left.2 h.inOrder
  · rintro (hnil | h)
    · exact forward_of_nil hnil
    · exact h.forward hr

/-- Three mappings, the first and the last with one instance. -/
def shared : Registry Unit :=
  ⟨[.ofHandler (.literal "/page") "page" ⟨0, ()⟩ .empty,
    .ofHandler (.suffix ".jsp") "view" ⟨1, ()⟩ .empty,
    .ofHandler (.beneath "") "page" ⟨0, ()⟩ .empty]⟩

/-- A pass in which the attempts at some mappings fail. -/
def sweep (phase : LifecyclePhase) (failing : List String) : Sweep Unit :=
  ⟨phase, fun d => if d.name ∈ failing then .error (.plain "no" []) else .ok ()⟩

/-- Set up at the second go and taken down with a failure. -/
theorem shared_forward :
    (∀ d ∈ shared.definitions, d.state = .uninitialized) ∧
      shared.Forward [sweep .init ["page"], sweep .init [], sweep .destroy ["view"]] := by
  have hnew : ∀ d ∈ shared.definitions, d.state = .uninitialized := by decide
  refine ⟨hnew, (lifecycle_forward_iff shared _ hnew).2 (.inr ⟨?_, ?_, ?_⟩)⟩ <;> decide

/-- A registry that was taken down is set up as if nothing had been done with it. -/
theorem shared_revived : ¬shared.Forward [sweep .init [], sweep .destroy [], sweep .init []] :=
  fun h => absurd h.not_revived (by decide)

end RequestDispatch.Registry
