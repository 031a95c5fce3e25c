import Mathlib.Data.List.Destutter
import Mathlib.Data.List.Infix
import RequestDispatch.Path.Info

/-! Runs of slashes.

Collapsing takes slashes out of a path until no two are next to each other
(`Path.collapse_eq_destutter`). It shortens a path or leaves it alone (`collapse_eq_self_iff`), so that no
path holds anything beyond itself (`info?_self`). A front is left alone if it is tidy, without runs and
without a slash at its end (`collapse_append`); then what follows it is what the path holds beyond it
(`info?_append`). -/
namespace RequestDispatch.Path

/-- Not both are slashes. -/
def Apart (c d : Char) : Prop := ¬(c = '/' ∧ d = '/')

instance : DecidableRel Apart := fun _ _ => inferInstanceAs (Decidable (¬_))

/-- A path without two slashes in a row and without a slash at its end. -/
structure Tidy (path : String) : Prop where
  no_run : ¬ ['/', '/'] <:+: path.toList
  no_end : ¬ ['/'] <:+ path.toList

instance (path : String) : Decidable (Tidy path) :=
  decidable_of_iff (¬ ['/', '/'] <:+: path.toList ∧ ¬ ['/'] <:+ path.toList)
    ⟨fun h => ⟨h.1, h.2⟩, fun h => ⟨h.1, h.2⟩⟩

/-! ### Collapsing -/

variable {c : Char} {s t : List Char}

@[simp] theorem collapse_slash_slash (s : List Char) :
    collapse ('/' :: '/' :: s) = collapse ('/' :: s) := by rw [collapse]

/-- A character stays, unless it is a slash before a slash. -/
theorem collapse_cons (h : ∀ d ∈ s.head?, Apart c d) : collapse (c :: s) = c :: collapse s := by
  rw [collapse]
  rintro rest rfl rfl
  exact h '/' rfl ⟨rfl, rfl⟩

theorem collapse_cons_of_ne (hc : c ≠ '/') (s : List Char) : collapse (c :: s) = c :: collapse s :=
  collapse_cons fun _ _ h => hc h.1

theorem collapse_eq_destutter' (c : Char) (s : List Char) :
    collapse (c :: s) = s.destutter' Apart c := by
  induction s generalizing c with
  | nil => exact collapse_cons nofun
  | cons d s ih =>
    rw [List.destutter'_cons, ← ih d, ← ih c]
    split
    next h => exact collapse_cons fun e he => by cases he; exact h
    next h =>
      obtain ⟨rfl, rfl⟩ := not_not.1 h
      exact collapse_slash_slash s

/-- Of each run of slashes the first is left, and all other characters. -/
theorem collapse_eq_destutter (s : List Char) : collapse s = s.destutter Apart := by
  cases s with
  | nil => rfl
  | cons c s => exact collapse_eq_destutter' c s

theorem isChain_collapse (s : List Char) : (collapse s).IsChain Apart := by
  rw [collapse_eq_destutter]
  exact List.isChain_destutter Apart s

theorem isChain_apart_iff : s.IsChain Apart ↔ ¬ ['/', '/'] <:+: s := by
  constructor
  · intro h hrun
    have hpair : ['/', '/'].IsChain Apart := List.IsChain.infix h hrun
    exact (List.isChain_cons_cons.1 hpair).1 ⟨rfl, rfl⟩
  · intro h
    induction s with
    | nil => exact .nil
    | cons c s ih =>
      refine List.isChain_cons.2 ⟨fun d hd => ?_, ih fun hrun => h (hrun.trans (List.suffix_cons c s).isInfix)⟩
      rintro ⟨rfl, rfl⟩
      obtain ⟨s, rfl⟩ := List.head?_eq_some_iff.1 hd
      exact h (List.prefix_append ['/', '/'] s).isInfix

theorem collapse_eq_self_iff : collapse s = s ↔ ¬ ['/', '/'] <:+: s := by
  rw [collapse_eq_destutter, List.destutter_eq_self_iff, isChain_apart_iff]

theorem no_run_collapse (s : List Char) : ¬ ['/', '/'] <:+: collapse s :=
  isChain_apart_iff.1 (isChain_collapse s)

theorem exists_collapse_slash (s : List Char) : ∃ rest, collapse ('/' :: s) = '/' :: rest := by
  induction s with
  | nil => exact ⟨[], rfl⟩
  | cons d s ih =>
    by_cases hd : d = '/'
    · subst hd
      rwa [collapse_slash_slash]
    · exact ⟨_, collapse_cons fun e he h => hd (by cases he; exact h.2)⟩

/-- What is first stays first. -/
theorem head?_collapse (s : List Char) : (collapse s).head? = s.head? := by
  cases s with
  | nil => rfl
  | cons c s =>
    by_cases hc : c = '/'
    · subst hc
      obtain ⟨rest, hrest⟩ := exists_collapse_slash s
      rw [hrest]
      rfl
    · rw [collapse_cons_of_ne hc]
      rfl

theorem collapse_eq_nil_iff : collapse s = [] ↔ s = [] := by
  rw [← List.head?_eq_none_iff, head?_collapse, List.head?_eq_none_iff]

/-- A tidy front is left alone. -/
theorem collapse_append (hrun : ¬ ['/', '/'] <:+: s) (hend : ¬ ['/'] <:+ s) (t : List Char) :
    collapse (s ++ t) = s ++ collapse t := by
  induction s with
  | nil => rfl
  | cons c s ih =>
    have hapart : ∀ d ∈ (s ++ t).head?, Apart c d := by
      rintro d hd ⟨rfl, rfl⟩
      cases s with
      | nil => exact hend (List.suffix_refl _)
      | cons e s =>
        cases hd
        exact hrun (List.prefix_append ['/', '/'] s).isInfix
    rw [List.cons_append, collapse_cons hapart, List.cons_append]
    refine congrArg (c :: ·) (ih (fun h => hrun ?_) fun h => hend ?_)
    · exact h.trans (List.suffix_cons c s).isInfix
    · exact h.trans (List.suffix_cons c s)

/-! ### What a path holds beyond its front -/

variable {path matched : String}

theorem info?_of_collapse (h : collapse path.toList = matched.toList ++ t) :
    info? path matched =
      if t = [] ∧ matched ≠ "" then none else some (String.ofList (Text.Escape.decode t)) := by
  rw [info?, h, Text.dropLead?_append]

theorem info?_eq_none_of_run (h : ['/', '/'] <:+: matched.toList) (path : String) :
    info? path matched = none := by
  rw [info?]
  cases hdrop : Text.dropLead? matched.toList (collapse path.toList) with
  | none => rfl
  | some t =>
    have hfront : matched.toList <+: collapse path.toList :=
      ⟨t, (Text.dropLead?_eq_some_iff.1 hdrop).symm⟩
    exact absurd (h.trans hfront.isInfix) (no_run_collapse _)

/-- No path holds anything beyond itself, however much of it is collapsed. -/
theorem info?_self (hpath : path ≠ "") : info? path path = none := by
  by_cases hrun : ['/', '/'] <:+: path.toList
  · exact info?_eq_none_of_run hrun path
  · have hcollapse : collapse path.toList = path.toList ++ [] := by
      rw [List.append_nil, collapse_eq_self_iff.2 hrun]
    rw [info?_of_collapse hcollapse, if_pos ⟨rfl, hpath⟩]

/-- Beyond a tidy front a path holds all that follows it. -/
theorem info?_append (hmatched : Tidy matched) (rest : String) :
    info? (matched ++ rest) matched =
      if rest = "" ∧ matched ≠ "" then none
      else some (String.ofList (Text.Escape.decode (collapse rest.toList))) := by
  have hcollapse : collapse (matched ++ rest).toList = matched.toList ++ collapse rest.toList := by
    rw [String.toList_append, collapse_append hmatched.no_run hmatched.no_end]
  rw [info?_of_collapse hcollapse]
  simp only [collapse_eq_nil_iff, String.toList_eq_nil_iff]

end RequestDispatch.Path
