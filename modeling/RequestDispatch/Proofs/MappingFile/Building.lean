import Mathlib.Data.List.Induction
import RequestDispatch.Proofs.Dispatch.FirstMatch

/-! Building a registry.

A mapping is refused for its pattern, or else for a handler that the catalog does not know
(`MappingEntry.RefusedFor`). A file becomes a registry if all of its mappings are usable; else the first
one that is not decides the error (`MappingFile.registry?_eq_error_iff`). With a catalog that
knows all handlers of the file, which its placeholders do, only patterns are left to be refused
(`MappingFile.KnownTo.registry?_eq_error_iff`). -/
namespace RequestDispatch

/-! ### Traversals -/

section Traversal
variable {α β δ : Type} {g : α → Except δ β} {l : List α}

/-- A traversal fails at the first element that does. -/
theorem mapM_eq_error_iff {error : δ} :
    l.mapM g = .error error ↔ ∃ before a after, l = before ++ a :: after ∧
      (∀ a' ∈ before, ∃ b, g a' = .ok b) ∧ g a = .error error := by
  induction l with
  | nil =>
    refine ⟨nofun, ?_⟩
    rintro ⟨before, a, after, hl, -⟩
    cases before <;> cases hl
  | cons a l ih =>
    rw [List.mapM_cons]
    cases ha : g a with
    | error e =>
      constructor
      · intro h
        cases h
        exact ⟨[], a, l, rfl, nofun, ha⟩
      · rintro ⟨before, a', after, hl, hbefore, ha'⟩
        cases before with
        | nil =>
          cases hl
          cases ha.symm.trans ha'
          rfl
        | cons _ before =>
          cases hl
          obtain ⟨b, hb⟩ := hbefore a List.mem_cons_self
          cases ha.symm.trans hb
    | ok b =>
      have hrest : (do let b ← Except.ok b; let bs ← l.mapM g; pure (b :: bs)) = .error error ↔
          l.mapM g = .error error := by
        cases l.mapM g with
        | error e => exact Iff.rfl
        | ok bs => exact ⟨nofun, nofun⟩
      rw [hrest, ih]
      constructor
      · rintro ⟨before, a', after, rfl, hbefore, ha'⟩
        exact ⟨a :: before, a', after, rfl, List.forall_mem_cons.2 ⟨⟨b, ha⟩, hbefore⟩, ha'⟩
      · rintro ⟨before, a', after, hl, hbefore, ha'⟩
        cases before with
        | nil =>
          cases hl
          cases ha.symm.trans ha'
        | cons _ before =>
          cases hl
          exact ⟨before, a', after, rfl, (List.forall_mem_cons.1 hbefore).2, ha'⟩

theorem mapM_eq_ok_iff {out : List β} :
    l.mapM g = .ok out ↔ List.Forall₂ (fun a b => g a = .ok b) l out := by
  refine ⟨forall₂_of_mapM, fun h => ?_⟩
  induction h with
  | nil => rfl
  | cons ha _ ih =>
    rw [List.mapM_cons, ha, ih]
    rfl

theorem exists_mapM_eq_ok_iff : (∃ out, l.mapM g = .ok out) ↔ ∀ a ∈ l, ∃ b, g a = .ok b := by
  constructor
  · rintro ⟨out, hout⟩
    have hall := forall₂_of_mapM hout
    clear hout
    induction hall with
    | nil => exact nofun
    | cons ha _ ih => exact List.forall_mem_cons.2 ⟨⟨_, ha⟩, ih⟩
  · intro hall
    cases hout : l.mapM g with
    | ok out => exact ⟨out, rfl⟩
    | error error =>
      obtain ⟨before, a, after, rfl, -, ha⟩ := mapM_eq_error_iff.1 hout
      obtain ⟨b, hb⟩ := hall a (List.mem_append_right _ List.mem_cons_self)
      cases ha.symm.trans hb

end Traversal

/-- A list of entries gives a value to the texts in it. -/
theorem Dictionary.isSome_get?_ofList {α : Type} (l : List (String × α)) (key : String) :
    ((ofList l).get? key).isSome ↔ key ∈ l.map (·.1) := by
  induction l using List.reverseRecOn with
  | nil => simp [ofList]
  | append_singleton l e ih =>
    have hlast : ofList (l ++ [e]) = (ofList l).insert e.1 e.2 := List.foldl_concat ..
    rw [hlast, get?_insert, List.map_append, List.mem_append, ← ih]
    by_cases h : key = e.1 <;> simp [h]

/-! ### One mapping -/

theorem Pattern.ofText?_eq_error_iff {s : String} {style : PatternStyle} {error : MappingError} :
    ofText? s style = .error error ↔
      ∃ cause, read? s style = .error cause ∧ error = ⟨s, .pattern cause⟩ := by
  unfold ofText?
  cases read? s style with
  | error cause => simp [Except.mapError, eq_comm]
  | ok pattern => simp [Except.mapError]

namespace MappingEntry
variable {η : Type} {catalog : Catalog η} {e : MappingEntry}

/-- The pattern, as it is written, is one. -/
def Readable (e : MappingEntry) : Prop := ∃ pattern, Pattern.ofText? e.pattern e.style = .ok pattern

theorem not_readable_iff :
    ¬ e.Readable ↔ ∃ cause, Pattern.read? e.pattern e.style = .error cause := by
  unfold Readable Pattern.ofText?
  cases Pattern.read? e.pattern e.style <;> simp [Except.mapError]

/-- The pattern is one, and the catalog knows the handler. -/
structure Usable (catalog : Catalog η) (e : MappingEntry) : Prop where
  readable : e.Readable
  known : (catalog.get? e.handler).isSome

/-- What a mapping is refused for. Whether its handler is known counts only if its pattern is one. -/
inductive RefusedFor (catalog : Catalog η) (e : MappingEntry) : MappingError → Prop where
  | pattern {cause : PatternError} (h : Pattern.read? e.pattern e.style = .error cause) :
    RefusedFor catalog e ⟨e.pattern, .pattern cause⟩
  | handler (hreadable : e.Readable) (hunknown : catalog.get? e.handler = none) :
    RefusedFor catalog e ⟨e.pattern, .unknownHandler e.handler⟩

theorem definition?_eq_ok_iff {d : Definition η} : e.definition? catalog = .ok d ↔ e.Becomes catalog d := by
  refine ⟨becomes_of_definition?, fun h => ?_⟩
  rw [definition?, h.pattern, h.handler, ← h.name, ← h.initParams]
  exact congrArg (fun state => Except.ok (Definition.mk _ _ _ _ state)) h.state.symm

theorem exists_definition?_iff : (∃ d, e.definition? catalog = .ok d) ↔ e.Usable catalog := by
  constructor
  · rintro ⟨d, hd⟩
    have hbecomes := becomes_of_definition? hd
    exact ⟨⟨_, hbecomes.pattern⟩, by rw [hbecomes.handler, Option.isSome_some]⟩
  · rintro ⟨⟨pattern, hpattern⟩, hknown⟩
    obtain ⟨handler, hhandler⟩ := Option.isSome_iff_exists.1 hknown
    exact ⟨_, by rw [definition?, hpattern, hhandler]⟩

/-- The pattern is looked at before the handler. -/
theorem definition?_eq_error_iff {error : MappingError} :
    e.definition? catalog = .error error ↔ e.RefusedFor catalog error := by
  constructor
  · intro h
    unfold definition? at h
    split at h
    next hpattern =>
      cases h
      obtain ⟨cause, hcause, rfl⟩ := Pattern.ofText?_eq_error_iff.1 hpattern
      exact .pattern hcause
    next hpattern hunknown =>
      cases h
      exact .handler ⟨_, hpattern⟩ hunknown
    next => cases h
  · rintro (hcause | ⟨⟨pattern, hpattern⟩, hunknown⟩)
    · rw [definition?, Pattern.ofText?_eq_error_iff.2 ⟨_, hcause, rfl⟩]
    · rw [definition?, hpattern, hunknown]

end MappingEntry

/-! ### A file -/

namespace MappingFile
variable {η : Type} {f : MappingFile} {catalog : Catalog η} {error : MappingError}

/-- A file becomes a registry if all of its mappings are usable. -/
theorem exists_registry?_iff :
    (∃ r, f.registry? catalog = .ok r) ↔ ∀ e ∈ f.mappings, e.Usable catalog := by
  simp only [← MappingEntry.exists_definition?_iff, ← exists_mapM_eq_ok_iff]
  unfold registry?
  cases f.mappings.mapM (MappingEntry.definition? catalog) <;> simp [Except.map]

/-- A registry has a definition for each mapping of its file, and nothing else. -/
theorem registry?_eq_ok_iff {r : Registry η} : f.registry? catalog = .ok r ↔
    List.Forall₂ (MappingEntry.Becomes catalog) f.mappings r.definitions := by
  have hbecomes : MappingEntry.Becomes catalog = fun e d => e.definition? catalog = .ok d :=
    funext fun e => funext fun d => propext MappingEntry.definition?_eq_ok_iff.symm
  rw [hbecomes, ← mapM_eq_ok_iff, registry?]
  cases f.mappings.mapM (MappingEntry.definition? catalog) with
  | error => exact ⟨nofun, nofun⟩
  | ok ds =>
    constructor <;>
    · rintro ⟨⟩
      rfl

/-- The error of the first mapping that is not usable. -/
def FirstRefused (f : MappingFile) (catalog : Catalog η) (error : MappingError) : Prop :=
  ∃ before e after, f.mappings = before ++ e :: after ∧ (∀ e' ∈ before, e'.Usable catalog) ∧
    e.RefusedFor catalog error

theorem registry?_eq_error_iff : f.registry? catalog = .error error ↔ f.FirstRefused catalog error := by
  simp only [FirstRefused, ← MappingEntry.exists_definition?_iff, ← MappingEntry.definition?_eq_error_iff,
    ← mapM_eq_error_iff]
  unfold registry?
  cases f.mappings.mapM (MappingEntry.definition? catalog) <;> simp [Except.map]

/-- What the first mapping is refused for whose pattern is none. -/
def FirstUnreadable (f : MappingFile) (error : MappingError) : Prop :=
  ∃ before e after cause, f.mappings = before ++ e :: after ∧ (∀ e' ∈ before, e'.Readable) ∧
    Pattern.read? e.pattern e.style = .error cause ∧ error = ⟨e.pattern, .pattern cause⟩

/-- The catalog knows all handlers of the file. -/
def KnownTo (f : MappingFile) (catalog : Catalog η) : Prop :=
  ∀ e ∈ f.mappings, (catalog.get? e.handler).isSome

theorem knownTo_of_registry?_eq_ok {r : Registry η} (h : f.registry? catalog = .ok r) : f.KnownTo catalog :=
  fun e he => (exists_registry?_iff.1 ⟨r, h⟩ e he).known

theorem knownTo_placeholders (f : MappingFile) : f.KnownTo f.placeholders := by
  intro e he
  have hnames : (f.mappings.map (·.handler)).zipIdx.map (·.1) = f.mappings.map (·.handler) :=
    List.zipIdx_map_fst ..
  have hmem : e.handler ∈ (f.mappings.map (·.handler)).zipIdx.map (·.1) := by
    rw [hnames]
    exact List.mem_map_of_mem he
  apply (Dictionary.isSome_get?_ofList _ _).2
  rw [List.map_map]
  exact hmem

namespace KnownTo
variable (hknown : f.KnownTo catalog)
include hknown

theorem exists_registry?_iff :
    (∃ r, f.registry? catalog = .ok r) ↔ ∀ e ∈ f.mappings, e.Readable := by
  rw [MappingFile.exists_registry?_iff]
  exact forall₂_congr fun e he => ⟨fun h => h.readable, fun h => ⟨h, hknown e he⟩⟩

theorem registry?_eq_error_iff : f.registry? catalog = .error error ↔ f.FirstUnreadable error := by
  rw [MappingFile.registry?_eq_error_iff]
  constructor
  · rintro ⟨before, e, after, hmappings, hbefore, he⟩
    have hreadable (e') (he' : e' ∈ before) : e'.Readable := (hbefore e' he').readable
    cases he with
    | pattern hcause => exact ⟨before, e, after, _, hmappings, hreadable, hcause, rfl⟩
    | handler _ hunknown =>
      have hsome := hknown e (hmappings ▸ List.mem_append_right _ List.mem_cons_self)
      rw [hunknown] at hsome
      cases hsome
  · rintro ⟨before, e, after, cause, hmappings, hbefore, hcause, rfl⟩
    have husable (e') (he' : e' ∈ before) : e'.Usable catalog :=
      ⟨hbefore e' he', hknown e' (hmappings ▸ List.mem_append_left _ he')⟩
    exact ⟨before, e, after, hmappings, husable, .pattern hcause⟩

end KnownTo
end MappingFile
end RequestDispatch
