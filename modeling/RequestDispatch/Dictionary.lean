/-! Dictionaries.

A dictionary gives texts a value each. Its entries stand in ascending order of their
keys, so each key stands once and the order in which entries came leaves no trace.
Looking up after a change is settled by `get?_insert` and `get?_erase`; `mem_keys_iff`
says that the keys are what a look-up finds. -/
namespace RequestDispatch

structure Dictionary (α : Type) where
  entries : List (String × α)
  ascending : entries.Pairwise fun a b => a.1 < b.1

namespace Dictionary
variable {α : Type}

def empty : Dictionary α := ⟨[], .nil⟩

instance : Inhabited (Dictionary α) := ⟨empty⟩

instance [DecidableEq α] : DecidableEq (Dictionary α) := fun a b =>
  if h : a.entries = b.entries then isTrue (by cases a; cases b; simp_all)
  else isFalse fun e => h (congrArg _ e)

/-- The value of the first entry for `key`. -/
def look (key : String) : List (String × α) → Option α
  | [] => none
  | e :: rest => if key = e.1 then some e.2 else look key rest

def get? (d : Dictionary α) (key : String) : Option α := look key d.entries

def keys (d : Dictionary α) : List String := d.entries.map (·.1)

/-! ### Changing one entry -/

/-- The entry for `key` put in its place; an older one is replaced. -/
def insertEntry (key : String) (value : α) : List (String × α) → List (String × α)
  | [] => [(key, value)]
  | e :: rest =>
    if key < e.1 then (key, value) :: e :: rest
    else if key = e.1 then (key, value) :: rest
    else e :: insertEntry key value rest

theorem mem_insertEntry {key : String} {value : α} {e : String × α} {l : List (String × α)}
    (h : e ∈ insertEntry key value l) : e = (key, value) ∨ e ∈ l := by
  induction l with
  | nil => simpa [insertEntry] using h
  | cons a rest ih =>
    unfold insertEntry at h
    split at h
    · simpa using h
    · split at h
      · rcases List.mem_cons.1 h with h | h
        · exact .inl h
        · exact .inr (List.mem_cons_of_mem _ h)
      · rcases List.mem_cons.1 h with h | h
        · exact .inr (h ▸ List.mem_cons_self)
        · exact (ih h).imp id (List.mem_cons_of_mem _)

theorem lt_of_not_lt_of_ne {a b : String} (h : ¬ a < b) (hne : a ≠ b) : b < a := by
  rcases String.le_total a b with h' | h'
  · exact absurd (String.le_antisymm h' (String.not_lt.1 h)) hne
  · exact String.not_le.1 fun h'' => hne (String.le_antisymm h'' h')

theorem ascending_insertEntry (key : String) (value : α) {l : List (String × α)}
    (h : l.Pairwise fun a b => a.1 < b.1) :
    (insertEntry key value l).Pairwise fun a b => a.1 < b.1 := by
  induction l with
  | nil => simp [insertEntry]
  | cons a rest ih =>
    obtain ⟨ha, hrest⟩ := List.pairwise_cons.1 h
    unfold insertEntry
    split
    next hlt =>
      refine List.pairwise_cons.2 ⟨fun b hb => ?_, h⟩
      rcases List.mem_cons.1 hb with rfl | hb
      · exact hlt
      · exact String.lt_trans hlt (ha b hb)
    next hlt =>
      split
      next heq => exact List.pairwise_cons.2 ⟨fun b hb => heq ▸ ha b hb, hrest⟩
      next hne =>
        refine List.pairwise_cons.2 ⟨fun b hb => ?_, ih hrest⟩
        rcases mem_insertEntry hb with rfl | hb
        · exact lt_of_not_lt_of_ne hlt hne
        · exact ha b hb

def insert (d : Dictionary α) (key : String) (value : α) : Dictionary α :=
  ⟨insertEntry key value d.entries, ascending_insertEntry key value d.ascending⟩

def erase (d : Dictionary α) (key : String) : Dictionary α :=
  ⟨d.entries.filter (·.1 ≠ key), d.ascending.filter _⟩

/-- The dictionary of a list of entries. Of two entries for one key the later counts. -/
def ofList (l : List (String × α)) : Dictionary α :=
  l.foldl (fun d e => d.insert e.1 e.2) empty

/-! ### Looking up -/

@[simp] theorem get?_empty (key : String) : (empty : Dictionary α).get? key = none := rfl

theorem look_insertEntry (key : String) (value : α) (l : List (String × α)) (k : String) :
    look k (insertEntry key value l) = if k = key then some value else look k l := by
  induction l with
  | nil => rfl
  | cons a rest ih =>
    unfold insertEntry
    split
    · rfl
    · split
      next heq => by_cases h : k = key <;> simp [look, h, ← heq]
      next hne =>
        by_cases ha : k = a.1
        · have : k ≠ key := fun h => hne (h ▸ ha)
          simp only [look, if_pos ha, if_neg this]
        · simp only [look, if_neg ha, ih]

@[simp] theorem get?_insert (d : Dictionary α) (key : String) (value : α) (k : String) :
    (d.insert key value).get? k = if k = key then some value else d.get? k :=
  look_insertEntry key value d.entries k

theorem look_filter_ne (key : String) (l : List (String × α)) (k : String) :
    look k (l.filter (·.1 ≠ key)) = if k = key then none else look k l := by
  induction l with
  | nil => simp [look]
  | cons a rest ih =>
    by_cases h : a.1 = key
    · by_cases hk : k = key <;> simp_all [look]
    · by_cases hk : k = a.1
      · have : k ≠ key := fun e => h (hk ▸ e)
        simp_all [look]
      · simp_all [look]

@[simp] theorem get?_erase (d : Dictionary α) (key k : String) :
    (d.erase key).get? k = if k = key then none else d.get? k :=
  look_filter_ne key d.entries k

theorem mem_keys_iff (d : Dictionary α) (key : String) :
    key ∈ d.keys ↔ (d.get? key).isSome := by
  unfold keys get?
  induction d.entries with
  | nil => simp [look]
  | cons a rest ih =>
    by_cases h : key = a.1
    · simp [look, h]
    · simp only [List.map_cons, List.mem_cons, h, false_or, look, if_false, ih]

theorem nodup_keys (d : Dictionary α) : d.keys.Nodup :=
  List.pairwise_map.2 (d.ascending.imp @fun a b (h : a.1 < b.1) (e : a.1 = b.1) =>
    String.lt_irrefl b.1 (e ▸ h))

end Dictionary
end RequestDispatch
