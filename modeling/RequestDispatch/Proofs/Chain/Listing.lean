import Mathlib.Data.List.Nodup
import RequestDispatch.Proofs.Chain.Ordinary

/-! The names that a chain lists.

A level lists the reserved names under which something shows and passes on the other names beneath
it, while it shows their values by another way. The two agree (`View.Lists`): a request lists each
name under which it holds something once, and every level and every plain decorator keeps it so. -/
namespace RequestDispatch

/-- Each name under which there is something is listed, once, and no other. -/
structure View.Lists (v : View) : Prop where
  nodup : v.attributeNames.Nodup
  mem_iff : ∀ name, name ∈ v.attributeNames ↔ ∃ value, value ≠ .null ∧ v.attribute? name = some value

namespace View.Lists
variable {v : View}

theorem not_mem (h : v.Lists) {name : String} (hnone : v.attribute? name = none) :
    name ∉ v.attributeNames := by
  intro hmem
  obtain ⟨value, -, hvalue⟩ := (h.mem_iff name).1 hmem
  rw [hnone] at hvalue
  cases hvalue

theorem count_eq_one (h : v.Lists) {name : String} {value : Value} (hne : value ≠ .null)
    (hvalue : v.attribute? name = some value) : v.attributeNames.count name = 1 :=
  List.count_eq_one_of_mem h.nodup ((h.mem_iff name).2 ⟨value, hne, hvalue⟩)

end View.Lists

theorem Request.lists_view (r : Request) : r.view.Lists where
  nodup := Dictionary.nodup_keys r.attributes.values
  mem_iff name := by
    show name ∈ r.attributes.values.keys ↔ ∃ value, value ≠ .null ∧ r.attributes.get? name = some value
    rw [Dictionary.mem_keys_iff, Option.isSome_iff_exists]
    constructor
    · rintro ⟨value, hvalue⟩
      refine ⟨value, ?_, hvalue⟩
      rintro rfl
      exact r.attributes.get?_ne_null name hvalue
    · rintro ⟨value, -, hvalue⟩
      exact ⟨value, hvalue⟩

namespace Level

/-- The reserved names that a level lists. -/
theorem mem_reservedNames_iff {l : Level} {inner : View} {name : String} :
    name ∈ (Reserved.all.filter fun key => (l.reserved? inner key).any (· ≠ .null)).map (·.name) ↔
      ∃ key : Reserved, key.name = name ∧ ∃ value, value ≠ .null ∧ l.reserved? inner key = some value := by
  simp only [List.mem_map, List.mem_filter, Reserved.mem_all, true_and, Option.any_eq_true,
    decide_eq_true_eq]
  constructor
  · rintro ⟨key, ⟨value, hvalue, hne⟩, hname⟩
    exact ⟨key, hname, value, hne, hvalue⟩
  · rintro ⟨key, hname, value, hne, hvalue⟩
    exact ⟨key, ⟨value, hvalue, hne⟩, hname⟩

/-- The names that a level passes on. -/
theorem mem_passedNames_iff {inner : View} {name : String} :
    name ∈ inner.attributeNames.filter (!Reserved.isReserved ·) ↔
      name ∈ inner.attributeNames ∧ Reserved.ofName? name = none := by
  simp [Reserved.isReserved]

theorem lists_view (l : Level) {inner : View} (h : inner.Lists) : (l.view inner).Lists where
  nodup := by
    refine List.nodup_append.2 ⟨?_, h.nodup.filter _, ?_⟩
    · refine List.Nodup.map ?_ (Reserved.nodup_all.filter _)
      exact fun _ _ hname => Reserved.name_inj.1 hname
    -- A name that is passed on is not reserved.
    · rintro name hreserved _ hpassed rfl
      obtain ⟨key, rfl, -⟩ := mem_reservedNames_iff.1 hreserved
      have hnone := (mem_passedNames_iff.1 hpassed).2
      rw [Reserved.ofName?_name] at hnone
      cases hnone
  mem_iff name := by
    show name ∈ _ ++ _ ↔ ∃ value, value ≠ .null ∧ l.attribute? inner name = some value
    rw [List.mem_append, mem_reservedNames_iff, mem_passedNames_iff, h.mem_iff]
    cases hname : Reserved.ofName? name with
    | none =>
      have hother : ¬ ∃ key : Reserved, key.name = name ∧
          ∃ value, value ≠ .null ∧ l.reserved? inner key = some value := by
        rintro ⟨key, rfl, -⟩
        rw [Reserved.ofName?_name] at hname
        cases hname
      simp only [attribute?, hname, hother, false_or, and_true]
    | some key =>
      obtain rfl := Reserved.name_of_ofName? hname
      simp only [attribute?, hname, Reserved.name_inj, exists_eq_left, reduceCtorEq, and_false, or_false]

end Level

/-- A chain over a request lists what it holds, whatever levels there are. -/
theorem Chain.Plain.lists {c : Chain Request} (hc : c.Plain) : c.view.Lists := by
  induction c with
  | base request => exact request.lists_view
  | layer outer inner ih =>
    have hinner := ih hc.inner
    cases outer with
    | forward l | inclusion l => exact l.lists_view hinner
    | decorator d =>
      rw [hc _ List.mem_cons_self d rfl]
      exact ⟨hinner.nodup, hinner.mem_iff⟩

end RequestDispatch
