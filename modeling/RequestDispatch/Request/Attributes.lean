import RequestDispatch.Attribute.Value
import RequestDispatch.Dictionary

/-! The attributes of a request: values under names, none of them nothing. Writing
nothing under a name is the same as removing the name (`set_null`). -/
namespace RequestDispatch

structure Attributes where
  values : Dictionary Value
  present : ∀ e ∈ values.entries, e.2 ≠ .null

namespace Attributes

def empty : Attributes := ⟨.empty, nofun⟩

instance : Inhabited Attributes := ⟨empty⟩

instance : DecidableEq Attributes := fun a b =>
  if h : a.values = b.values then isTrue (by cases a; cases b; simp_all)
  else isFalse fun e => h (congrArg _ e)

def get? (a : Attributes) (name : String) : Option Value := a.values.get? name

def names (a : Attributes) : List String := a.values.keys

def remove (a : Attributes) (name : String) : Attributes :=
  ⟨a.values.erase name, fun e he => a.present e (List.mem_filter.1 he).1⟩

def set (a : Attributes) (name : String) (value : Value) : Attributes :=
  if h : value = .null then a.remove name
  else ⟨a.values.insert name value, fun e he =>
    (Dictionary.mem_insertEntry he).elim (fun e' => e' ▸ h) (a.present e)⟩

theorem set_null (a : Attributes) (name : String) : a.set name .null = a.remove name := by
  simp [set]

@[simp] theorem get?_remove (a : Attributes) (name k : String) :
    (a.remove name).get? k = if k = name then none else a.get? k :=
  Dictionary.get?_erase ..

theorem get?_set {value : Value} (h : value ≠ .null) (a : Attributes) (name k : String) :
    (a.set name value).get? k = if k = name then some value else a.get? k := by
  unfold set get?
  rw [dif_neg h]
  exact Dictionary.get?_insert ..

theorem mem_of_look {l : List (String × Value)} {key : String} {v : Value}
    (h : Dictionary.look key l = some v) : (key, v) ∈ l := by
  induction l with
  | nil => cases h
  | cons e rest ih =>
    unfold Dictionary.look at h
    split at h
    next hk =>
      have : (key, v) = e := Prod.ext hk (Option.some.inj h).symm
      exact this ▸ List.mem_cons_self
    next => exact List.mem_cons_of_mem _ (ih h)

/-- What is read is never nothing. -/
theorem get?_ne_null (a : Attributes) (name : String) : a.get? name ≠ some .null :=
  fun h => a.present _ (mem_of_look h) rfl

end Attributes
end RequestDispatch
