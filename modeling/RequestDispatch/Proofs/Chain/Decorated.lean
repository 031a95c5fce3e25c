import RequestDispatch.Proofs.Chain.Frame

/-! What decorators have in common.

Steps move and remove decorators, but only one that puts a decorator around the request brings a new one. So
what holds of the decorators of a chain, and of those that steps bring, holds of all decorators after the
steps (`Chain.DecoratedBy.leadsTo`). -/
namespace RequestDispatch.Chain
variable {P : Decorator → Prop} {c c' : Chain Request}

/-- All decorators of the chain are of a kind. -/
def DecoratedBy (P : Decorator → Prop) (c : Chain Request) : Prop := ∀ d, .decorator d ∈ c.layers → P d

/-- Whatever decorator the step puts around the request is of a kind. -/
def Step.DecoratesBy (P : Decorator → Prop) (s : Step) : Prop := ∀ d, s = .decorate d → P d

namespace DecoratedBy

theorem base (request : Request) : (Chain.base request).DecoratedBy P := nofun

theorem inner {outer : Layer} {inner : Chain Request} (h : (layer outer inner).DecoratedBy P) :
    inner.DecoratedBy P :=
  fun d hd => h d (List.mem_cons_of_mem outer hd)

theorem push_iff {x : Layer} {l : Level} (hx : x.level? = some l) :
    (c.push x).DecoratedBy P ↔ c.DecoratedBy P := by
  unfold DecoratedBy
  rw [layers_push]
  refine forall_congr' fun d => ?_
  cases x with
  | forward l | inclusion l => simp
  | decorator d => cases hx

/-- Writes leave all decorators where they are. -/
theorem of_frame (h : c'.frame = c.frame) (hc : c.DecoratedBy P) : c'.DecoratedBy P := by
  intro d hd
  have hframe : Layer.decorator d ∈ c'.layers.map Layer.frame := List.mem_map_of_mem hd
  rw [layers_of_frame h] at hframe
  obtain ⟨x, hx, he⟩ := List.mem_map.1 hframe
  cases x <;> cases he
  exact hc d hx

theorem step (hc : c.DecoratedBy P) {s : Step} (hs : s.DecoratesBy P) : (c.step s).2.DecoratedBy P := by
  have hchange := change_step c s
  generalize (c.step s).2 = c' at hchange ⊢
  cases hchange with
  | write w => exact of_frame (frame_write c w) hc
  | decorate d =>
    intro d' hd'
    rcases List.mem_cons.1 hd' with he | hd'
    · cases he
      exact hs d rfl
    · exact hc d' hd'
  | forward | inclusion => exact (push_iff rfl).2 hc
  | readdress _ t =>
    rcases c.replaceLast_eq t with he | ⟨outer, l, rfl, he⟩
    · rwa [he]
    · rw [he]
      exact (push_iff (l := { l with replacement := t }) rfl).2 ((push_iff rfl).1 hc)
  | removal _ h => exact fun d hd => hc d ((removeDeepest?_eq_some h).1.subset hd)
  | nothing => exact hc

theorem leadsTo (hc : c.DecoratedBy P) (h : LeadsTo (Step.DecoratesBy P) c c') : c'.DecoratedBy P :=
  h.invariant (fun hc hs => hc.step hs) hc

end DecoratedBy
end RequestDispatch.Chain
