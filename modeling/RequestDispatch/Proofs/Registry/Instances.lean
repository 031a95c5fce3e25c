import Mathlib.Data.List.Dedup
import RequestDispatch.Dispatch.Pipeline
import RequestDispatch.Proofs.Registry.Passes

/-! Each instance once.

Several mappings may lead to one instance. `OncePerInstance` says which attempts a pass over
a list of mappings owes: each instance once, by the first mapping that leads to it, in the
order of these. Setting up makes them until one fails, and marks the mappings before that
one (`sets_up_in_order`); taking down makes them all, whatever fails, and marks every mapping
(`takes_down_all`). What the mappings were marked as before counts for neither. -/
namespace RequestDispatch

namespace Registry
variable {η : Type} {ds calls : List (Definition η)}

/-- The place of the first mapping that leads to an instance. -/
def place (ds : List (Definition η)) (n : Nat) : Nat := ds.findIdx (·.handler.number == n)

theorem place_cons_self (d : Definition η) (ds : List (Definition η)) :
    place (d :: ds) d.handler.number = 0 := by
  simp [place, List.findIdx_cons]

/-- Whatever is used first further on has an instance other than those seen. -/
theorem place_cons_of_mem_firstUses {seen : List Nat} {d e : Definition η}
    (hd : d.handler.number ∈ seen) (he : e ∈ firstUses seen ds) :
    place (d :: ds) e.handler.number = place ds e.handler.number + 1 := by
  have hne : d.handler.number ≠ e.handler.number := fun h => (mem_firstUses he).2 (h ▸ hd)
  have hbeq : (d.handler.number == e.handler.number) = false := beq_false_of_ne hne
  rw [place, List.findIdx_cons, hbeq, cond_false, place]

/-- The calls that reach each instance of some mappings once. -/
structure OncePerInstance (ds calls : List (Definition η)) : Prop where
  every : ∀ d ∈ ds, ∃ e ∈ calls, e.handler.number = d.handler.number
  /-- Each instance is called by its first mapping. -/
  by_first : ∀ d ∈ calls, ds[place ds d.handler.number]? = some d
  in_order : calls.Pairwise fun d e => place ds d.handler.number < place ds e.handler.number

theorem by_first_firstUses (seen : List Nat) (ds : List (Definition η)) :
    ∀ d ∈ firstUses seen ds, ds[place ds d.handler.number]? = some d := by
  induction ds generalizing seen with
  | nil => exact nofun
  | cons d rest ih =>
    have later (seen : List Nat) (hd : d.handler.number ∈ seen) :
        ∀ e ∈ firstUses seen rest, (d :: rest)[place (d :: rest) e.handler.number]? = some e := by
      intro e he
      rw [place_cons_of_mem_firstUses hd he, List.getElem?_cons_succ]
      exact ih seen e he
    unfold firstUses
    split
    next hd => exact later seen hd
    next =>
      refine List.forall_mem_cons.2 ⟨?_, later _ List.mem_cons_self⟩
      rw [place_cons_self, List.getElem?_cons_zero]

theorem in_order_firstUses (seen : List Nat) (ds : List (Definition η)) :
    (firstUses seen ds).Pairwise fun d e => place ds d.handler.number < place ds e.handler.number := by
  induction ds generalizing seen with
  | nil => exact .nil
  | cons d rest ih =>
    have later (seen : List Nat) (hd : d.handler.number ∈ seen) :
        (firstUses seen rest).Pairwise fun e f =>
          place (d :: rest) e.handler.number < place (d :: rest) f.handler.number := by
      refine (ih seen).imp_of_mem fun he hf hlt => ?_
      rw [place_cons_of_mem_firstUses hd he, place_cons_of_mem_firstUses hd hf]
      exact Nat.succ_lt_succ hlt
    unfold firstUses
    split
    next hd => exact later seen hd
    next =>
      refine List.pairwise_cons.2 ⟨fun e he => ?_, later _ List.mem_cons_self⟩
      rw [place_cons_self, place_cons_of_mem_firstUses List.mem_cons_self he]
      exact Nat.succ_pos _

theorem oncePerInstance_firstUses (ds : List (Definition η)) :
    OncePerInstance ds (firstUses [] ds) where
  every _ hd := exists_firstUse hd List.not_mem_nil
  by_first := by_first_firstUses [] ds
  in_order := in_order_firstUses [] ds

namespace OncePerInstance

theorem nodup (h : OncePerInstance ds calls) : (calls.map (·.handler.number)).Nodup :=
  List.pairwise_map.2 (h.in_order.imp fun hlt heq => absurd (heq ▸ hlt) (Nat.lt_irrefl _))

/-- There are as many calls as instances. -/
theorem length_eq (h : OncePerInstance ds calls) :
    calls.length = (ds.map (·.handler.number)).dedup.length := by
  have hmem (n : Nat) :
      n ∈ calls.map (·.handler.number) ↔ n ∈ (ds.map (·.handler.number)).dedup := by
    rw [List.mem_dedup]
    constructor
    · intro hn
      obtain ⟨d, hd, rfl⟩ := List.mem_map.1 hn
      exact List.mem_map_of_mem (List.mem_of_getElem? (h.by_first d hd))
    · intro hn
      obtain ⟨d, hd, rfl⟩ := List.mem_map.1 hn
      obtain ⟨e, he, hnumber⟩ := h.every d hd
      exact List.mem_map.2 ⟨e, he, hnumber⟩
  have hperm := (List.perm_ext_iff_of_nodup h.nodup (List.nodup_dedup _)).2 hmem
  rw [← hperm.length_eq, List.length_map]

end OncePerInstance
end Registry

namespace Pipeline
open Registry (OncePerInstance)
variable {ε : Type}

/-- **Setting up.** Each instance is set up once, under the name and with the parameters of its
first mapping, in the order of these, and then all mappings are marked; or the first that
fails is the last that is tried, and only the mappings before it are marked. -/
theorem sets_up_in_order (p : Pipeline ε) :
    let setsUp (d : Definition (Handler ε)) := d.handler.content.init ⟨d.name, d.initParams, p.context⟩
    (∃ calls, OncePerInstance p.registry.definitions calls ∧ (∀ d ∈ calls, setsUp d = .ok ()) ∧
      p.setUp = (⟨⟨p.registry.definitions.map ({ · with state := .initialized })⟩, p.context⟩, calls,
        .ok p.registry.numbers.dedup.length)) ∨
    (∃ before d after calls f, p.registry.definitions = before ++ d :: after ∧
      (∀ e ∈ before, e.handler.number ≠ d.handler.number) ∧
      OncePerInstance before calls ∧ (∀ e ∈ calls, setsUp e = .ok ()) ∧ setsUp d = .error f ∧
      p.setUp = (⟨⟨before.map ({ · with state := .initialized }) ++ d :: after⟩, p.context⟩, calls ++ [d],
        .error (.lifecycle d.name .init f))) := by
  intro setsUp
  obtain ⟨s, hs, hsetUp⟩ : ∃ s, Registry.SetsUp setsUp [] p.registry.definitions s ∧
      p.setUp = (⟨⟨s.definitions⟩, p.context⟩, s.attempts, s.result) :=
    ⟨_, Registry.setsUp_setUpFrom setsUp [] p.registry.definitions, rfl⟩
  rw [hsetUp, Registry.numbers]
  generalize p.registry.definitions = ds at hs ⊢
  cases hs with
  | all h =>
    have hcalls := Registry.oncePerInstance_firstUses ds
    exact .inl ⟨_, hcalls, h, by rw [hcalls.length_eq]⟩
  | @failure before after d f h hd hnew =>
    exact .inr ⟨before, d, after, _, f, rfl, hnew, Registry.oncePerInstance_firstUses before, h, hd, rfl⟩

/-- **Taking down.** Each instance is taken down once, in the order of the first mappings,
whatever fails; the failures are answered in that order, and every mapping is marked. -/
theorem takes_down_all (p : Pipeline ε) :
    ∃ calls, OncePerInstance p.registry.definitions calls ∧
      p.takeDown = (⟨⟨p.registry.definitions.map ({ · with state := .destroyed })⟩, p.context⟩, calls,
        calls.filterMap fun d => Registry.downFailure? d d.handler.content.destroy) := by
  refine ⟨_, Registry.oncePerInstance_firstUses p.registry.definitions, ?_⟩
  rw [takeDown, Registry.takeDown, Registry.takeDownFrom_eq]

end Pipeline
end RequestDispatch
