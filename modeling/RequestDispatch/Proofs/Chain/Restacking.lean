import RequestDispatch.Proofs.Chain.Dressed

/-! Chains as lists, step by step.

Whatever order steps on a chain come in, each does to its list of layers, outermost first, what `Restacks`
says: decorators are put in front and dispatch levels behind, a level to be undone is sought from behind,
and all other layers stay where and what they are (`restacks_step`, and `restacks_run` for steps in a
row). Nothing is ever put in between, so decorators come before all levels. -/
namespace RequestDispatch

theorem Layer.mark?_eq_forward {x : Layer} {t : Target} (h : x.mark? = some (.forward, t)) :
    ∃ l : Level, x = .forward l ∧ l.replacement = t := by
  cases x with
  | forward l =>
    cases h
    exact ⟨l, rfl, rfl⟩
  | inclusion l | decorator d => cases h

theorem Layer.mark?_eq_inclusion {x : Layer} {t : Target} (h : x.mark? = some (.inclusion, t)) :
    ∃ l : Level, x = .inclusion l ∧ l.replacement = t := by
  cases x with
  | inclusion l =>
    cases h
    exact ⟨l, rfl, rfl⟩
  | forward l | decorator d => cases h

namespace Chain

/-! ### The list that a chain refines -/

/-- What a step does to the layers of a chain, outermost first, and what it answers. -/
inductive Restacks : List Layer → Step → Reply → List Layer → Prop where
  /-- Only what levels hold for reserved attributes may change. -/
  | write {xs ys : List Layer} (w : Write) (h : ys.map Layer.frame = xs.map Layer.frame) :
    Restacks xs (.write w) .done ys
  | decorate (xs : List Layer) (d : Decorator) : Restacks xs (.decorate d) .done (.decorator d :: xs)
  | includeTarget (xs : List Layer) (l : Level) :
    Restacks xs (.includeTarget l.replacement) .done (xs ++ [.inclusion l])
  | reuse (xs : List Layer) (l : Level) (t : Target) (recordOrigin : Bool) :
    Restacks (xs ++ [.forward l]) (.forward t recordOrigin) (.forwarded (.reused l.replacement))
      (xs ++ [.forward { l with replacement := t }])
  | create {xs : List Layer} (h : ∀ outer l, xs ≠ outer ++ [.forward l]) (l : Level)
    (recordOrigin : Bool) :
    Restacks xs (.forward l.replacement recordOrigin) (.forwarded .created) (xs ++ [.forward l])
  | uninclude (outer : List Layer) (l : Level) {inner : List Layer}
    (h : ∀ x ∈ inner, ¬ x.includes l.replacement.requestUri) :
    Restacks (outer ++ .inclusion l :: inner) (.uninclude l.replacement.requestUri) (.undone true)
      (outer ++ inner)
  | uncreate (outer : List Layer) (l : Level) {inner : List Layer} (h : ∀ x ∈ inner, x.kind ≠ .forward) :
    Restacks (outer ++ .forward l :: inner) (.unforward .created) (.undone true) (outer ++ inner)
  | unreuse (xs : List Layer) (l : Level) (previous : Target) :
    Restacks (xs ++ [.forward l]) (.unforward (.reused previous)) (.undone true)
      (xs ++ [.forward { l with replacement := previous }])
  | notIncluded {xs : List Layer} {uri : String} (h : ∀ x ∈ xs, ¬ x.includes uri) :
    Restacks xs (.uninclude uri) (.undone false) xs
  | notCreated {xs : List Layer} (h : ∀ x ∈ xs, x.kind ≠ .forward) :
    Restacks xs (.unforward .created) (.undone false) xs
  | notReused {xs : List Layer} (h : ∀ outer l, xs ≠ outer ++ [.forward l]) (previous : Target) :
    Restacks xs (.unforward (.reused previous)) (.undone false) xs

/-- What steps in a row do to the layers, with what each answers. -/
inductive RestacksAll : List Layer → List Step → List Reply → List Layer → Prop where
  | nil (xs : List Layer) : RestacksAll xs [] [] xs
  | cons {xs ys zs : List Layer} {s : Step} {reply : Reply} {steps : List Step} {replies : List Reply}
    (h : Restacks xs s reply ys) (rest : RestacksAll ys steps replies zs) :
    RestacksAll xs (s :: steps) (reply :: replies) zs

/-- No decorator comes behind a dispatch level. -/
def DecoratorsFirst (kinds : List Layer.Kind) : Prop :=
  kinds.Pairwise fun outer inner => inner = .decorator → outer = .decorator

theorem map_kind_of_frame {xs ys : List Layer} (h : ys.map Layer.frame = xs.map Layer.frame) :
    ys.map (·.kind) = xs.map (·.kind) := by
  have hkind : ∀ zs : List Layer, zs.map (·.kind) = (zs.map Layer.frame).map (·.kind) := by
    intro zs
    rw [List.map_map]
    exact List.map_congr_left fun x _ => (x.kind_mapWritten _).symm
  rw [hkind, h, ← hkind]

theorem DecoratorsFirst.concat {kinds : List Layer.Kind} (h : DecoratorsFirst kinds) {kind : Layer.Kind}
    (hkind : kind ≠ .decorator) : DecoratorsFirst (kinds ++ [kind]) := by
  refine List.pairwise_append.2 ⟨h, List.pairwise_singleton .., fun outer _ inner hinner he => ?_⟩
  rw [List.mem_singleton.1 hinner] at he
  exact absurd he hkind

/-- Decorators stay in front. -/
theorem Restacks.decoratorsFirst {xs ys : List Layer} {s : Step} {reply : Reply}
    (h : Restacks xs s reply ys) (hxs : DecoratorsFirst (xs.map (·.kind))) :
    DecoratorsFirst (ys.map (·.kind)) := by
  have hsublist : ∀ {outer inner : List Layer} {x : Layer},
      DecoratorsFirst ((outer ++ x :: inner).map (·.kind)) →
      DecoratorsFirst ((outer ++ inner).map (·.kind)) := by
    intro outer inner x h
    exact h.sublist (((List.sublist_cons_self x inner).append_left outer).map _)
  cases h with
  | write w h => rwa [map_kind_of_frame h]
  | decorate d => exact List.pairwise_cons.2 ⟨fun _ _ _ => rfl, hxs⟩
  | includeTarget l | create h l recordOrigin =>
    rw [List.map_append]
    exact hxs.concat nofun
  | reuse xs l t recordOrigin | unreuse xs l previous => simpa [Layer.kind] using hxs
  | uninclude outer l h | uncreate outer l h => exact hsublist hxs
  | notIncluded h | notCreated h | notReused h previous => exact hxs

theorem RestacksAll.decoratorsFirst {xs ys : List Layer} {steps : List Step} {replies : List Reply}
    (h : RestacksAll xs steps replies ys) (hxs : DecoratorsFirst (xs.map (·.kind))) :
    DecoratorsFirst (ys.map (·.kind)) := by
  induction h with
  | nil xs => exact hxs
  | cons h _ ih => exact ih (h.decoratorsFirst hxs)

/-! ### What the operations do to the list -/

section Layers
variable {β : Type}

theorem layers_aboveBottom (make : β → Chain β) (c : Chain β) :
    (c.aboveBottom make).layers = c.layers ++ (make c.bottom).layers := by
  induction c with
  | base request => rfl
  | layer outer inner ih => exact congrArg (outer :: ·) ih

theorem lastForward?_eq_none {c : Chain β} (h : c.lastForward? = none) (outer : List Layer) (l : Level) :
    c.layers ≠ outer ++ [.forward l] := by
  intro he
  have hc : c = (ofLayers outer c.bottom).push (.forward l) := ext (by simp [he]) (by simp)
  rw [hc, lastForward?_push] at h
  cases h

/-- The layer that is removed is the last one of its kind. -/
theorem layers_of_removeDeepest? {kind : Layer → Bool} {c c' : Chain β}
    (h : c.removeDeepest? kind = some c') :
    ∃ outer x inner, c.layers = outer ++ x :: inner ∧ c'.layers = outer ++ inner ∧ kind x = true ∧
      ∀ y ∈ inner, kind y = false := by
  induction c using pushInduction generalizing c' with
  | base request => cases h
  | push c x ih =>
    rw [removeDeepest?_push] at h
    cases hx : kind x with
    | true =>
      rw [hx] at h
      cases h
      exact ⟨c.layers, x, [], layers_push .., (List.append_nil _).symm, hx, nofun⟩
    | false =>
      rw [hx] at h
      obtain ⟨d, hd, rfl⟩ := Option.map_eq_some_iff.1 h
      obtain ⟨outer, y, inner, hc, hlayers, hy, hinner⟩ := ih hd
      refine ⟨outer, y, inner ++ [x], by simp [hc], by simp [hlayers], hy, ?_⟩
      exact List.forall_mem_append.2 ⟨hinner, List.forall_mem_singleton.2 hx⟩

theorem removeDeepest?_eq_none {kind : Layer → Bool} {c : Chain β} (h : c.removeDeepest? kind = none) :
    ∀ x ∈ c.layers, kind x = false := by
  induction c using pushInduction with
  | base request => nofun
  | push c x ih =>
    rw [removeDeepest?_push] at h
    cases hx : kind x with
    | true =>
      rw [hx] at h
      cases h
    | false =>
      rw [hx] at h
      rw [layers_push]
      exact List.forall_mem_append.2 ⟨ih (Option.map_eq_none_iff.1 h), List.forall_mem_singleton.2 hx⟩

variable [Underlying β]

theorem map_frame_write (c : Chain β) (w : Write) :
    (c.write w).layers.map Layer.frame = c.layers.map Layer.frame := by
  induction c generalizing w with
  | base request => rfl
  | layer outer inner ih =>
    have houter := outer.frame_pass inner.view w
    unfold write
    cases hp : (outer.pass inner.view w).2 with
    | none =>
      simp only [hp]
      exact congrArg (· :: inner.layers.map Layer.frame) houter
    | some passed =>
      simp only [hp]
      exact List.cons_eq_cons.2 ⟨houter, ih passed⟩

theorem map_frame_writeAll (c : Chain β) (ws : List Write) :
    (c.writeAll ws).layers.map Layer.frame = c.layers.map Layer.frame := by
  induction ws generalizing c with
  | nil => rfl
  | cons w rest ih => exact (ih (c.write w)).trans (map_frame_write c w)

/-- A new level comes last. What is recorded through it does not change what it is there for. -/
theorem layers_addLevel {make : Level → Layer} (hmake : make = .forward ∨ make = .inclusion)
    (c : Chain β) (t : Target) (recorded : View → List Write) :
    ∃ l : Level, (c.addLevel make t recorded).layers = c.layers ++ [make l] ∧ l.replacement = t := by
  have hframe := map_frame_writeAll
    (layer (make (.ofTarget (Underlying.view c.bottom) t)) (base c.bottom))
    (recorded (Underlying.view c.bottom))
  obtain ⟨x, hx, he⟩ := List.map_eq_singleton_iff.1 hframe
  have hmark : x.mark? = (make (.ofTarget (Underlying.view c.bottom) t)).mark? :=
    (x.mark?_mapWritten _).symm.trans ((congrArg Layer.mark? he).trans (Layer.mark?_mapWritten _ _))
  have hmade : ∃ l : Level, x = make l ∧ l.replacement = t := by
    rcases hmake with rfl | rfl
    · exact Layer.mark?_eq_forward hmark
    · exact Layer.mark?_eq_inclusion hmark
  obtain ⟨l, rfl, hl⟩ := hmade
  exact ⟨l, by rw [addLevel, layers_aboveBottom, hx], hl⟩

/-! ### Chains refine lists -/

theorem includes_eq_true_iff {x : Layer} {uri : String} :
    x.includes uri = true ↔ ∃ l : Level, x = .inclusion l ∧ l.replacement.requestUri = uri := by
  cases x <;> simp [Layer.includes]

/-- Each step does to the layers of a chain what it does to the list. -/
theorem restacks_step (c : Chain β) (s : Step) : Restacks c.layers s (c.step s).1 (c.step s).2.layers := by
  cases s with
  | write w => exact .write w (map_frame_write c w)
  | decorate d => exact .decorate c.layers d
  | includeTarget t =>
    obtain ⟨l, hlayers, rfl⟩ := layers_addLevel (.inr rfl) c t
      fun request => (t.origin request).recorded .inclusion
    show Restacks c.layers _ .done (c.includeTarget l.replacement).layers
    rw [includeTarget, hlayers]
    exact .includeTarget c.layers l
  | forward t recordOrigin =>
    show Restacks c.layers _ (.forwarded (c.forward t recordOrigin).1) (c.forward t recordOrigin).2.layers
    unfold forward
    cases h : c.lastForward? with
    | some l =>
      obtain ⟨outer, rfl⟩ := lastForward?_eq_some h
      simp only [replaceLast_push, layers_push]
      exact .reuse outer.layers l t recordOrigin
    | none =>
      obtain ⟨l, hlayers, rfl⟩ := layers_addLevel (.inl rfl) c t
        fun _ => if recordOrigin then c.view.origin.recorded .forward else []
      simp only [hlayers]
      exact .create (lastForward?_eq_none h) l recordOrigin
  | uninclude uri =>
    simp only [step, uninclude?]
    cases h : c.removeDeepest? (·.includes uri) with
    | some c' =>
      obtain ⟨outer, x, inner, hc, hlayers, hx, hinner⟩ := layers_of_removeDeepest? h
      obtain ⟨l, rfl, rfl⟩ := includes_eq_true_iff.1 hx
      simp only [hc, hlayers]
      exact .uninclude outer l fun y hy => by simp [hinner y hy]
    | none => exact .notIncluded fun x hx => by simp [removeDeepest?_eq_none h x hx]
  | unforward outcome =>
    simp only [step]
    cases outcome with
    | created =>
      simp only [unforward?]
      cases h : c.removeDeepest? (·.kind = .forward) with
      | some c' =>
        obtain ⟨outer, x, inner, hc, hlayers, hx, hinner⟩ := layers_of_removeDeepest? h
        cases x with
        | forward l =>
          simp only [hc, hlayers]
          exact .uncreate outer l fun y hy => of_decide_eq_false (hinner y hy)
        | inclusion l | decorator d => cases hx
      | none => exact .notCreated fun x hx => of_decide_eq_false (removeDeepest?_eq_none h x hx)
    | reused previous =>
      simp only [unforward?]
      cases h : c.lastForward? with
      | some l =>
        obtain ⟨outer, rfl⟩ := lastForward?_eq_some h
        simp only [Option.map_some, replaceLast_push, layers_push]
        exact .unreuse outer.layers l previous
      | none => exact .notReused (lastForward?_eq_none h) previous

/-- A step that finds nothing to undo leaves the chain as it is, the request included. -/
theorem step_of_undone_false {c : Chain β} {s : Step} (h : (c.step s).1 = .undone false) :
    (c.step s).2 = c := by
  cases s with
  | write w | decorate d | forward t recordOrigin | includeTarget t => cases h
  | unforward outcome =>
    simp only [step] at h ⊢
    cases hc : c.unforward? outcome with
    | none => rfl
    | some c' =>
      rw [hc] at h
      cases h
  | uninclude uri =>
    simp only [step] at h ⊢
    cases hc : c.uninclude? uri with
    | none => rfl
    | some c' =>
      rw [hc] at h
      cases h

/-- What each of some steps in a row answers. -/
def replies (c : Chain β) : List Step → List Reply
  | [] => []
  | s :: rest => (c.step s).1 :: (c.step s).2.replies rest

theorem restacks_run (c : Chain β) (steps : List Step) :
    RestacksAll c.layers steps (c.replies steps) (c.run steps).layers := by
  induction steps generalizing c with
  | nil => exact .nil c.layers
  | cons s rest ih => exact .cons (restacks_step c s) (ih _)

end Layers

/-- **A chain refines a list of layers.** From any chain that steps have made of a request, further steps
in any order, matching or not, do to the layers what they do to the list, and are answered as the list
says. Decorators come before all levels, and undoing what is not there leaves the chain as it is. -/
theorem refines_layers {β : Type} [Underlying β] (request : β) (earlier steps : List Step) :
    let c := (base request).run earlier
    RestacksAll c.layers steps (c.replies steps) (c.run steps).layers ∧
      DecoratorsFirst (c.run steps).kinds ∧
      ∀ s, (c.step s).1 = .undone false → (c.step s).2 = c := by
  intro c
  have hfirst : DecoratorsFirst c.kinds :=
    (restacks_run (base request) earlier).decoratorsFirst List.Pairwise.nil
  exact ⟨restacks_run c steps, (restacks_run c steps).decoratorsFirst hfirst,
    fun _ => step_of_undone_false⟩

/-- Of two inclusions of one URI, undone out of order around a forward, the inner one goes first. -/
example :
    let a : Target := ⟨"/a", "/a", none⟩
    let b : Target := ⟨"/b", "/b", none⟩
    let steps : List Step := [.includeTarget a, .forward b true, .includeTarget a, .uninclude "/a",
      .decorate .plain, .uninclude "/a", .unforward (.reused a), .uninclude "/a"]
    (base (Request.get "/")).replies steps =
        [.done, .forwarded .created, .done, .undone true, .done, .undone true, .undone true,
          .undone false] ∧
      ((base (Request.get "/")).run steps).kinds = [.decorator, .forward] := by
  decide +kernel

end Chain
end RequestDispatch
