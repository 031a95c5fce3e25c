import RequestDispatch.Proofs.Chain.ReadBack

/-! Removing attributes.

To write nothing under a name is to remove the name (`Chain.write_set_null`). A removal of a reserved
attribute is kept by the outermost level and goes on to the level beneath only if something else shows
there than the request answers. What it does not reach is therefore no more than the request answers, and
the outermost level does not give way to that: once removed, a name reads as nothing through any levels,
and no level is left with a value of its own under it (`Chain.removal_complete`). -/
namespace RequestDispatch

/-- What is left in levels that nothing was written through: nothing, or what the request has. -/
theorem eq_none_or_own_of_mem_overwrite {α : Type} [DecidableEq α] {own value : Option α}
    {values : List (Option α)} (h : value ∈ overwrite own none values) : value = none ∨ value = own := by
  induction values with
  | nil => cases h
  | cons first beneath ih =>
    rw [overwrite] at h
    rcases List.mem_cons.1 h with rfl | h
    · exact .inl rfl
    · by_cases hbeneath : deepest own beneath = own
      · rw [if_pos hbeneath] at h
        exact .inr (deepest_eq_own_iff.1 hbeneath value h)
      · rw [if_neg hbeneath] at h
        exact ih h

theorem Slots.put_put (slots : Slots) (key : Reserved) (value : Option Value) :
    (slots.put key value).put key value = slots.put key value := by
  funext k
  by_cases h : k = key <;> simp [put, h]

theorem Dictionary.erase_erase {α : Type} (d : Dictionary α) (key : String) :
    (d.erase key).erase key = d.erase key := by
  simp [erase]

namespace Request
variable (r : Request) (name : String)

theorem write_set_null : r.write (.set name .null) = r.write (.remove name) := by
  show { r with attributes := r.attributes.set name .null } = _
  rw [Attributes.set_null]
  rfl

theorem remove_remove : (r.write (.remove name)).write (.remove name) = r.write (.remove name) := by
  show { r with attributes := (r.attributes.remove name).remove name } =
    { r with attributes := r.attributes.remove name }
  simp only [Attributes.remove, Dictionary.erase_erase]

end Request

namespace Chain
variable {c : Chain Request}

/-- Nothing, written under a name, removes the name. -/
theorem write_set_null (hc : c.Plain) (name : String) :
    c.write (.set name .null) = c.write (.remove name) := by
  induction c with
  | base request => exact congrArg base (request.write_set_null name)
  | layer outer inner ih =>
    have hinner := ih hc.inner
    cases outer with
    | decorator d =>
      rw [hc _ List.mem_cons_self d rfl]
      exact congrArg (layer _) hinner
    | forward l | inclusion l =>
      cases hname : Reserved.ofName? name with
      | none =>
        have hset : Reserved.ofName? (Write.set name .null).name = none := hname
        have hremove : Reserved.ofName? (Write.remove name).name = none := hname
        simp only [write, Layer.pass, Level.pass_ordinary hset, Level.pass_ordinary hremove, hinner]
      | some key =>
        have hset : Reserved.ofName? (Write.set name .null).name = some key := hname
        have hremove : Reserved.ofName? (Write.remove name).name = some key := hname
        rw [write_layer rfl hset, write_layer rfl hremove]
        rfl

/-- There is nothing left to remove. -/
theorem write_remove_remove (hc : c.Plain) (name : String) :
    (c.write (.remove name)).write (.remove name) = c.write (.remove name) := by
  induction c with
  | base request => exact congrArg base (request.remove_remove name)
  | layer outer inner ih =>
    have hinner := ih hc.inner
    cases outer with
    | decorator d =>
      rw [hc _ List.mem_cons_self d rfl]
      exact congrArg (layer _) hinner
    | forward l | inclusion l =>
      cases hname : Reserved.ofName? name with
      | none =>
        have hremove : Reserved.ofName? (Write.remove name).name = none := hname
        simp only [write, Layer.pass, Level.pass_ordinary hremove, hinner]
      | some key =>
        have hremove : Reserved.ofName? (Write.remove name).name = some key := hname
        obtain rfl := Reserved.name_of_ofName? hname
        rw [write_layer rfl hremove,
          write_layer (l := l.mapWritten (·.put key (Write.remove key.name).outcome?)) rfl hremove]
        congr 1
        · simp only [Layer.mapWritten, Level.mapWritten, Slots.put_put]
        -- What is beneath was left, as it answers what the level covers, or has lost the name.
        · by_cases h : inner.view.attribute? key.name = l.snapshot key
          · simp only [if_pos h, Level.mapWritten]
          · simp only [if_neg h, hinner, ite_self]

/-- Whatever else is written, what is read under a name stays. -/
theorem attribute?_writeAll_of_ne (hc : c.Plain) {name : String} {ws : List Write}
    (hws : ∀ w ∈ ws, w.name ≠ name) : (c.writeAll ws).view.attribute? name = c.view.attribute? name := by
  induction ws generalizing c with
  | nil => rfl
  | cons w rest ih =>
    obtain ⟨hw, hrest⟩ := List.forall_mem_cons.1 hws
    have hplain : (c.write w).Plain := plain_of_frame (frame_write c w) hc
    exact (ih hplain hrest).trans (attribute?_write_of_ne hc hw.symm)

namespace Faithful

theorem attribute?_remove (h : c.Faithful) (name : String) :
    (c.write (.remove name)).view.attribute? name = none := by
  have hself := h.attribute?_write_self (.remove name)
  rwa [show (Write.remove name).outcome? = none from rfl, ite_self] at hself

/-- No level keeps a value of its own under a name that was removed. -/
theorem written_remove (h : c.Faithful) {key : Reserved} {l : Level}
    (hl : l ∈ (c.write (.remove key.name)).levels) :
    l.written key = none ∨ l.written key = c.bottom.attribute? key.name := by
  have hheld : (c.write (.remove key.name)).held key =
      overwrite (c.bottom.attribute? key.name) none (c.held key) :=
    (h.held_write (.remove key.name) key).trans (if_pos rfl)
  have hmem : l.written key ∈ (c.write (.remove key.name)).held key := List.mem_map_of_mem hl
  rw [hheld] at hmem
  exact eq_none_or_own_of_mem_overwrite hmem

end Faithful

/-- **Removal is complete.** To write nothing under a name is to remove it. After that nothing is read
under the name and it is not listed, whatever is written under other names, which read as before. No
level is left with a value under it that is not the request's own, and to remove it again changes
nothing. -/
theorem removal_complete {r : Request} (hc : LeadsTo Step.IsPlain (.base r) c) (name : String) :
    c.write (.set name .null) = c.write (.remove name) ∧
    (c.write (.remove name)).view.attribute? name = none ∧
    name ∉ (c.write (.remove name)).view.attributeNames ∧
    (∀ ws : List Write, (∀ w ∈ ws, w.name ≠ name) →
      ((c.write (.remove name)).writeAll ws).view.attribute? name = none) ∧
    (∀ key : Reserved, key.name = name → ∀ l ∈ (c.write (.remove name)).levels,
      l.written key = none ∨ l.written key = c.bottom.attribute? name) ∧
    (∀ other, other ≠ name →
      (c.write (.remove name)).view.attribute? other = c.view.attribute? other) ∧
    (c.write (.remove name)).write (.remove name) = c.write (.remove name) := by
  have h : c.Faithful := (Faithful.base r).leadsTo hc
  have hremoved : (c.write (.remove name)).Plain := (h.write (.remove name)).plain
  have hnone := h.attribute?_remove name
  refine ⟨write_set_null h.plain name, hnone, hremoved.lists.not_mem hnone, ?_, ?_, ?_,
    write_remove_remove h.plain name⟩
  · intro ws hws
    exact (attribute?_writeAll_of_ne hremoved hws).trans hnone
  · rintro key rfl l hl
    exact h.written_remove hl
  · intro other hother
    exact attribute?_write_of_ne h.plain hother

/-- The URI that is told by a request and two inclusions is gone at once. The path info stays as it is. -/
theorem twiceIncluded_removes :
    twiceIncluded.view.attribute? (Reserved.mk .inclusion .requestUri).name = some (.text "/b") ∧
    (twiceIncluded.write (.set (Reserved.mk .inclusion .requestUri).name .null)).view.attribute?
      (Reserved.mk .inclusion .requestUri).name = none ∧
    (twiceIncluded.write (.remove (Reserved.mk .inclusion .requestUri).name)).view.attribute?
      (Reserved.mk .inclusion .servletPath).name = some (.text "/b") := by
  obtain ⟨hnull, hnone, -, -, -, hothers, -⟩ :=
    removal_complete leadsTo_twiceIncluded (Reserved.mk .inclusion .requestUri).name
  refine ⟨by decide +kernel, by rw [hnull, hnone], ?_⟩
  rw [hothers (Reserved.mk .inclusion .servletPath).name (by decide)]
  decide +kernel

end Chain
end RequestDispatch
