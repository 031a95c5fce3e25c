import RequestDispatch.Proofs.Chain.Residue

/-! The request beneath the layers.

Dispatch goes on around a request and leaves it as it is. Every level knows what the request
holds for the reserved attributes, and with a level around it no step changes that
(`Faithful.reserved_step`). All other attributes are the request's own: whatever is put around it
or taken off, it holds what was last written (`Faithful.attribute?_run`). -/
namespace RequestDispatch

theorem Write.ne_name_of_reserved {w : Write} {key : Reserved} (hw : Reserved.ofName? w.name = some key)
    {name : String} (hname : Reserved.ofName? name = none) : name ≠ w.name := by
  rintro rfl
  rw [hw] at hname
  cases hname

namespace Chain

/-- A write of a reserved attribute leaves all others alone, wherever it ends. -/
theorem attribute?_write_reserved {c : Chain Request} (hc : c.Plain) {w : Write} {key : Reserved}
    (hw : Reserved.ofName? w.name = some key) {name : String} (hname : Reserved.ofName? name = none) :
    (c.write w).bottom.attribute? name = c.bottom.attribute? name := by
  induction c generalizing w key with
  | base request =>
    exact (Request.attribute?_write request w name).trans (if_neg (Write.ne_name_of_reserved hw hname))
  | layer outer inner ih =>
    cases outer with
    | forward l | inclusion l =>
      rw [write_layer rfl hw]
      split
      · rfl
      · exact ih hc.inner (w := .remove key.name) (Reserved.ofName?_name key)
    | decorator d =>
      rw [hc _ List.mem_cons_self d rfl]
      exact ih hc.inner hw

/-- Of all that is written, the request gets what is not reserved. -/
theorem attribute?_write {c : Chain Request} (hc : c.Plain) (w : Write) {name : String}
    (hname : Reserved.ofName? name = none) : (c.write w).bottom.attribute? name =
      if name = w.name then w.outcome? else c.bottom.attribute? name := by
  cases hw : Reserved.ofName? w.name with
  | none => rw [write_ordinary hc hw, mapBottom_eq, bottom_mapHeld, Request.attribute?_write]
  | some key =>
    rw [attribute?_write_reserved hc hw hname, if_neg (Write.ne_name_of_reserved hw hname)]

namespace Faithful
variable {c : Chain Request}

/-- With a level around it, the request holds on to its reserved attributes. -/
theorem reserved_step (h : c.Faithful) (hl : c.levels ≠ []) (s : Step) (key : Reserved) :
    (c.step s).2.bottom.attribute? key.name = c.bottom.attribute? key.name := by
  cases hs : s.write? with
  | none => rw [bottom_step_eq c hs]
  | some w =>
    rw [Step.write?_eq_some_iff.1 hs]
    exact h.reserved_write hl w key

/-- An attribute that is not reserved holds what was last written to it. -/
theorem attribute?_run (h : c.Faithful) {steps : List Step} (hsteps : ∀ s ∈ steps, s.IsPlain)
    {name : String} (hname : Reserved.ofName? name = none) : (c.run steps).bottom.attribute? name =
      (Write.last? name (steps.filterMap Step.write?)).getD (c.bottom.attribute? name) := by
  induction steps generalizing c with
  | nil => rfl
  | cons s rest ih =>
    obtain ⟨hs, hrest⟩ := List.forall_mem_cons.1 hsteps
    have hrun := ih (h.step hs) hrest
    refine Eq.trans hrun ?_
    cases hw : s.write? with
    | none => rw [bottom_step_eq c hw, List.filterMap_cons_none hw]
    | some w =>
      have hstep : (c.step s).2 = c.write w := by rw [Step.write?_eq_some_iff.1 hw]; rfl
      rw [hstep, attribute?_write h.plain w hname, List.filterMap_cons_some hw, Write.last?_cons]
      cases Write.last? name (rest.filterMap Step.write?) with
      | some value => rfl
      | none => by_cases hn : name = w.name <;> simp [hn]

end Faithful

/-- **The request beneath is kept apart.** After any steps, in any order, all levels go by what the
request holds for the reserved attributes now, and no step changes that while there is a level. Of
the request nothing changes but attributes, and one that is not reserved reads as it was last
written. -/
theorem request_isolated (r : Request) {steps : List Step} (hsteps : ∀ s ∈ steps, s.IsPlain)
    {c : Chain Request} (hc : c = (Chain.base r).run steps) :
    (∀ l ∈ c.levels, ∀ key : Reserved, l.snapshot key = c.bottom.attribute? key.name) ∧
    (c.levels ≠ [] → ∀ (s : Step) (key : Reserved),
      (c.step s).2.bottom.attribute? key.name = c.bottom.attribute? key.name) ∧
    c.bottom = { r with attributes := c.bottom.attributes } ∧
    ∀ name, Reserved.ofName? name = none →
      c.view.attribute? name = c.bottom.attribute? name ∧
      c.bottom.attribute? name =
        (Write.last? name (steps.filterMap Step.write?)).getD (r.attribute? name) := by
  have hreached : LeadsTo Step.IsPlain (.base r) c := ⟨steps, hsteps, hc⟩
  have h : c.Faithful := (Faithful.base r).leadsTo hreached
  refine ⟨fun l hl => (h.covers l hl).2, h.reserved_step, ?_, fun name hname => ?_⟩
  · have hframe : c.bottom.frame = r.frame := hreached.bottom
    generalize c.bottom = bottom at hframe
    cases bottom
    simp only [Request.frame, Request.mk.injEq] at hframe ⊢
    simp [hframe]
  · refine ⟨attribute?_ordinary h.plain hname, ?_⟩
    rw [hc]
    exact (Faithful.base r).attribute?_run hsteps hname

/-- Path info is given to a request, then two levels, within which other path info is written. The
level that was there first is undone first. -/
def outOfOrderSteps : List Step :=
  [.write (.set (Reserved.mk .inclusion .pathInfo).name (.text "/own")), .forward ⟨"/a", "/a", none⟩ true,
    .decorate .plain, .includeTarget ⟨"/b/x", "/b", some "/x"⟩,
    .write (.set (Reserved.mk .inclusion .pathInfo).name (.text "/mine")),
    .write (.set "user" (.text "guest")), .unforward .created]

def outOfOrder : Chain Request := (Chain.base (Request.get "/page")).run outOfOrderSteps

/-- Removed through the level that is left, the path info stays with the request. -/
theorem outOfOrder_isolated :
    outOfOrder.levels ≠ [] ∧
    (∀ l ∈ outOfOrder.levels, l.snapshot ⟨.inclusion, .pathInfo⟩ = some (.text "/own")) ∧
    (outOfOrder.step (.write (.remove (Reserved.mk .inclusion .pathInfo).name))).2.bottom.attribute?
      (Reserved.mk .inclusion .pathInfo).name = some (.text "/own") ∧
    outOfOrder.view.attribute? "user" = some (.text "guest") := by
  have hplain : ∀ s ∈ outOfOrderSteps, s.IsPlain := by simp [outOfOrderSteps, Step.IsPlain]
  have hne : outOfOrder.levels ≠ [] := List.ne_nil_of_length_pos (by decide +kernel)
  have hown : outOfOrder.bottom.attribute? (Reserved.mk .inclusion .pathInfo).name =
      some (.text "/own") := by decide +kernel
  obtain ⟨hsnapshot, hkept, -, hordinary⟩ :=
    request_isolated (Request.get "/page") hplain (c := outOfOrder) rfl
  obtain ⟨hview, hlast⟩ := hordinary "user" (by decide +kernel)
  refine ⟨hne, fun l hl => (hsnapshot l hl _).trans hown, (hkept hne _ _).trans hown, ?_⟩
  rw [hview, hlast]
  decide +kernel

end Chain
end RequestDispatch
