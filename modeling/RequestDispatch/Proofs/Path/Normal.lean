import Mathlib.Data.List.DropRight
import RequestDispatch.Path.Context

/-! The normal form of context paths.

A configured text is trimmed and given a slash at its front (`normalize_cases`). A text that begins with a
slash loses nothing but an end (`exists_eq_normalize_append`), and nothing at all if it ends in neither a
slash nor a blank. So the texts in normal form are those that are left as they are
(`normalize_eq_self_iff`). They are not all that normalizing gives: the slashes are taken off after the blanks,
and blanks before them stay. -/
namespace RequestDispatch

namespace Text

/-- Texts that begin alike have the same first character. -/
theorem beginsWith_of_append_eq {c : Char} {lead lead' rest rest' : String} (hlead : lead ≠ "")
    (h : lead ++ rest = lead' ++ rest') (hc : beginsWith c lead') : beginsWith c lead := by
  rw [beginsWith_iff_toList] at hc ⊢
  obtain ⟨t', ht'⟩ := hc
  obtain ⟨d, t, ht⟩ := List.exists_cons_of_ne_nil fun he => hlead (String.toList_eq_nil_iff.1 he)
  have hchars := congrArg String.toList h
  rw [String.toList_append, String.toList_append, ht, ht'] at hchars
  exact ⟨t, ht.trans (by rw [(List.cons.inj hchars).1])⟩

end Text

namespace Path

/-- A context path that can be used as it is written: empty, or one that begins with a slash and ends in
neither a slash nor a blank. -/
def IsNormal (context : String) : Prop :=
  context = "" ∨ Text.beginsWith '/' context ∧
    context.toList.getLast?.all fun last => last ≠ '/' && !Text.isBlank last

instance (context : String) : Decidable (IsNormal context) := inferInstanceAs (Decidable (_ ∨ _ ∧ _))

/-- A text without the blanks around it and the slashes at its end. -/
def stem (raw : String) : List Char := (Text.trim raw.toList).rdropWhile (· == '/')

variable {raw : String}

/-- A slash is put before a stem that begins with something else. -/
theorem normalize_cases (raw : String) :
    (normalize raw).toList = stem raw ∧ (stem raw = [] ∨ ∃ rest, stem raw = '/' :: rest) ∨
      (normalize raw).toList = '/' :: stem raw ∧ ∃ c rest, stem raw = c :: rest ∧ c ≠ '/' := by
  have hstem : stem raw = ((Text.trim raw.toList).reverse.dropWhile (· == '/')).reverse := rfl
  unfold normalize
  rw [← hstem]
  split
  next h => exact .inl ⟨h.symm, .inl h⟩
  next rest h => exact .inl ⟨String.toList_ofList.trans h.symm, .inr ⟨rest, h⟩⟩
  next hne hslash =>
    obtain ⟨c, rest, h⟩ := List.exists_cons_of_ne_nil hne
    exact .inr ⟨String.toList_ofList, c, rest, h, fun hc => hslash rest (hc ▸ h)⟩

theorem beginsWith_normalize (h : normalize raw ≠ "") : Text.beginsWith '/' (normalize raw) := by
  rw [Text.beginsWith_iff_toList]
  rcases normalize_cases raw with ⟨hstem, hempty | ⟨rest, hrest⟩⟩ | ⟨hslash, -⟩
  · exact absurd (String.toList_eq_nil_iff.1 (hstem.trans hempty)) h
  · exact ⟨rest, hstem.trans hrest⟩
  · exact ⟨stem raw, hslash⟩

/-- No character is put into a context path but the slash. -/
theorem not_mem_normalize {c : Char} (hc : c ≠ '/') (h : c ∉ raw.toList) : c ∉ (normalize raw).toList := by
  have hstem : c ∉ stem raw := fun hmem => h <| by
    have htrim := (List.rdropWhile_prefix _ _).subset hmem
    exact (List.dropWhile_sublist _).subset ((List.rdropWhile_prefix Text.isBlank _).subset htrim)
  rcases normalize_cases raw with ⟨he, -⟩ | ⟨he, -⟩ <;> simp [he, hstem, hc]

/-- Of a text that begins with a slash, an end is taken off and nothing else. -/
theorem toList_normalize (h : Text.beginsWith '/' raw) :
    (normalize raw).toList = (raw.toList.rdropWhile Text.isBlank).rdropWhile (· == '/') := by
  obtain ⟨rest, hraw⟩ := Text.beginsWith_iff_toList.1 h
  have hslash : ¬ Text.isBlank '/' = true := by decide
  have hstem : stem raw = (raw.toList.rdropWhile Text.isBlank).rdropWhile (· == '/') := by
    rw [stem, Text.trim, hraw, List.dropWhile_cons_of_neg hslash]
    rfl
  rcases normalize_cases raw with ⟨he, -⟩ | ⟨-, c, path, hpath, hc⟩
  · exact he.trans hstem
  · have hprefix : stem raw <+: raw.toList := by
      rw [hstem]
      exact (List.rdropWhile_prefix _ _).trans (List.rdropWhile_prefix _ _)
    rw [hpath, hraw, List.cons_prefix_cons] at hprefix
    exact absurd hprefix.1 hc

theorem exists_eq_normalize_append (h : Text.beginsWith '/' raw) : ∃ tail, raw = normalize raw ++ tail := by
  have hprefix : (normalize raw).toList <+: raw.toList := by
    rw [toList_normalize h]
    exact (List.rdropWhile_prefix _ _).trans (List.rdropWhile_prefix _ _)
  obtain ⟨tail, htail⟩ := hprefix
  exact ⟨String.ofList tail, String.ext (by rw [String.toList_append, String.toList_ofList, htail])⟩

theorem rdropWhile_rdropWhile_eq_self_iff {l : List Char} {p q : Char → Bool} :
    (l.rdropWhile p).rdropWhile q = l ↔ l.rdropWhile p = l ∧ l.rdropWhile q = l := by
  constructor
  · intro h
    have hlength : l.length ≤ (l.rdropWhile p).length :=
      calc l.length
        _ = ((l.rdropWhile p).rdropWhile q).length := by rw [h]
        _ ≤ (l.rdropWhile p).length := List.IsPrefix.length_le (List.rdropWhile_prefix q _)
    have hp := List.IsPrefix.eq_of_length_le (List.rdropWhile_prefix p l) hlength
    exact ⟨hp, by rwa [hp] at h⟩
  · rintro ⟨hp, hq⟩
    rw [hp, hq]

/-- Context paths in normal form are those that are left as they are. -/
theorem normalize_eq_self_iff : normalize raw = raw ↔ IsNormal raw := by
  by_cases hempty : raw = ""
  · subst hempty
    exact iff_of_true (by decide) (.inl rfl)
  by_cases hslash : Text.beginsWith '/' raw
  · have hne : raw.toList ≠ [] := fun h => hempty (String.toList_eq_nil_iff.1 h)
    have hlast : (raw.toList.getLast?.all fun last => last ≠ '/' && !Text.isBlank last) = true ↔
        raw.toList.getLast hne ≠ '/' ∧ Text.isBlank (raw.toList.getLast hne) = false := by
      simp [List.getLast?_eq_some_getLast hne]
    rw [← String.toList_inj, toList_normalize hslash, rdropWhile_rdropWhile_eq_self_iff,
      List.rdropWhile_eq_self_iff, List.rdropWhile_eq_self_iff, IsNormal, hlast]
    simp [hempty, hslash, hne, and_comm]
  · refine iff_of_false (fun h => ?_) (fun h => h.elim hempty fun h => hslash h.1)
    rw [← h] at hslash hempty
    exact hslash (beginsWith_normalize hempty)

/-- A blank before the slashes at the end stays at the end. -/
example : normalize " app // " = "/app " ∧ ¬ IsNormal "/app " := by decide

end Path
end RequestDispatch
