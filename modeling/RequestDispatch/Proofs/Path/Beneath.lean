import RequestDispatch.Proofs.Path.Cutting
import RequestDispatch.Proofs.Path.Normal

/-! What lies beneath a context path.

Normalizing gives texts of one form (`IsContext`), and every text of that form
(`exists_normalize_eq_iff`): what is taken off the end may have been put there. Beneath a context path
of that form lie the URIs that go on behind it with a slash, and the context path itself, and no others
(`cuts_what_lies_beneath`). -/
namespace RequestDispatch.Path

/-- What a context path looks like: it is empty or begins with a slash, and does not end in one. -/
structure IsContext (context : String) : Prop where
  rooted : context = "" ∨ Text.beginsWith '/' context
  no_end : ¬ ['/'] <:+ context.toList

variable {context raw : String}

/-! ### The form of context paths -/

theorem no_end_rdropWhile (s : List Char) : ¬ ['/'] <:+ s.rdropWhile (· == '/') := by
  rintro ⟨t, ht⟩
  have hself := List.rdropWhile_idempotent (· == '/') s
  rw [← ht, List.rdropWhile_concat_pos _ _ _ rfl] at hself
  have hlength := List.IsPrefix.length_le (List.rdropWhile_prefix (· == '/') t)
  rw [hself, List.length_append, List.length_singleton] at hlength
  omega

theorem isContext_normalize (raw : String) : IsContext (normalize raw) where
  rooted := or_iff_not_imp_left.2 beginsWith_normalize
  no_end := by
    have hstem : ¬ ['/'] <:+ stem raw := no_end_rdropWhile _
    rcases normalize_cases raw with ⟨he, -⟩ | ⟨he, c, rest, hrest, -⟩
    · rwa [he]
    · rw [he, List.suffix_cons_iff, not_or]
      exact ⟨by simp [hrest], hstem⟩

/-- A slash put at the end is taken off again, and keeps blanks before it. -/
theorem normalize_append_slash (h : IsContext context) : normalize (context ++ "/") = context := by
  rcases h.rooted with rfl | hslash
  · decide
  · have hslash' : Text.beginsWith '/' (context ++ "/") := by
      obtain ⟨rest, hrest⟩ := Text.beginsWith_iff_toList.1 hslash
      exact Text.beginsWith_iff_toList.2 ⟨rest ++ ['/'], by simp [hrest]⟩
    have hself : context.toList.rdropWhile (· == '/') = context.toList := by
      rw [List.rdropWhile_eq_self_iff]
      intro hne hlast
      exact h.no_end ⟨_, beq_iff_eq.1 hlast ▸ List.dropLast_append_getLast hne⟩
    apply String.ext
    rw [toList_normalize hslash', String.toList_append]
    show ((context.toList ++ ['/']).rdropWhile Text.isBlank).rdropWhile (· == '/') = _
    rw [List.rdropWhile_concat_neg _ _ _ (by decide), List.rdropWhile_concat_pos _ _ _ rfl, hself]

/-- Context paths are the texts that normalizing gives. -/
theorem exists_normalize_eq_iff : (∃ raw, normalize raw = context) ↔ IsContext context := by
  constructor
  · rintro ⟨raw, rfl⟩
    exact isContext_normalize raw
  · exact fun h => ⟨context ++ "/", normalize_append_slash h⟩

/-! ### Cutting a context path off -/

/-- A URI that goes on within the last segment of a context path does not lie beneath it. -/
theorem relative?_append_eq_none {rest : String} (hcontext : context ≠ "") (hrest : rest ≠ "")
    (hslash : Text.beginsWith '/' rest = false) : relative? (context ++ rest) context = none := by
  rw [relative?_append, beneath?, if_neg hrest, if_neg]
  simp [hcontext, hslash]

/-- What lies beneath a context path begins with a slash, since the context path does. -/
theorem beginsWith_of_relative?_eq_some {uri path : String} (h : IsContext context) (hcontext : context ≠ "")
    (hpath : relative? uri context = some path) : Text.beginsWith '/' uri := by
  obtain ⟨rest, hrest⟩ := Text.beginsWith_iff_toList.1 (h.rooted.resolve_left hcontext)
  rw [Text.beginsWith_iff_toList]
  rcases (relative?_eq_some_iff.1 hpath).2 with ⟨rfl, -⟩ | ⟨rfl, -, -⟩
  · exact ⟨rest, hrest⟩
  · exact ⟨rest ++ path.toList, by rw [String.toList_append, hrest, List.cons_append]⟩

/-- The root lies beneath no context path but the empty one. -/
theorem relative?_root (h : IsContext context) (hcontext : context ≠ "") : relative? "/" context = none := by
  rw [Option.eq_none_iff_forall_ne_some]
  intro path hpath
  obtain ⟨rest, hrest⟩ := Text.beginsWith_iff_toList.1 (h.rooted.resolve_left hcontext)
  rcases (relative?_eq_some_iff.1 hpath).2 with ⟨hroot, -⟩ | ⟨hroot, hne, -⟩
  · exact h.no_end (hroot ▸ List.suffix_refl _)
  · have hchars := congrArg String.toList hroot
    rw [String.toList_append, hrest, List.cons_append] at hchars
    obtain ⟨-, hnil⟩ := List.append_eq_nil_iff.1 (List.cons.inj hchars).2.symm
    exact hne (String.toList_eq_nil_iff.1 hnil)

theorem ne_empty_of_beneath? {rest path : String} (h : beneath? context rest = some path) : path ≠ "" := by
  rw [← relative?_append] at h
  rcases (relative?_eq_some_iff.1 h).2 with ⟨-, rfl⟩ | ⟨-, hne, -⟩
  · decide
  · exact hne

/-- Beneath a context path that is not empty lies what follows another one, if it would lie there by itself. -/
theorem bind_beneath? (h : IsContext context) (hcontext : context ≠ "") (outer rest : String) :
    (beneath? outer rest).bind (relative? · context) = relative? rest context := by
  by_cases hrest : rest = ""
  · subst hrest
    have hroot := relative?_root h hcontext
    have hnone : relative? "" context = none := if_pos rfl
    by_cases houter : outer = "" <;> simp [beneath?, houter, hroot, hnone]
  · by_cases hbegins : outer = "" ∨ Text.beginsWith '/' rest
    · rw [beneath?, if_neg hrest, if_pos hbegins, Option.bind_some]
    · rw [beneath?, if_neg hrest, if_neg hbegins, Option.bind_none, eq_comm, Option.eq_none_iff_forall_ne_some]
      exact fun path hpath => hbegins (.inr (beginsWith_of_relative?_eq_some h hcontext hpath))

/-- Context paths cut off one after the other are cut off as one. -/
theorem relative?_append_context (h : IsContext context) (outer uri : String) :
    relative? uri (outer ++ context) = (relative? uri outer).bind (relative? · context) := by
  rw [relative?_eq uri (outer ++ context), relative?_eq uri outer, Text.after?_append_lead, Option.bind_assoc,
    Option.bind_assoc]
  refine Option.bind_congr fun rest _ => ?_
  by_cases hcontext : context = ""
  · subst hcontext
    have hempty : Text.after? "" rest = some rest := Text.after?_eq_some_iff.2 String.empty_append.symm
    rw [hempty, Option.bind_some, String.append_empty]
    cases hpath : beneath? outer rest with
    | none => rfl
    | some path =>
      have hne := ne_empty_of_beneath? hpath
      exact (relative?_eq_some_iff.2 ⟨hne, .inr ⟨String.empty_append.symm, hne, nofun⟩⟩).symm
  · have hinner : beneath? (outer ++ context) = beneath? context := by
      funext path
      simp [beneath?, hcontext]
    rw [hinner, ← relative?_eq, bind_beneath? h hcontext]

/-- **What lies beneath a context path.** Normalizing gives the texts that are empty or begin with a slash and
that do not end in one, and no others. Beneath such a context path lies a URI that is not empty if it is the
context path itself, which leaves the root, or goes on behind it, with a slash unless it is empty, which leaves
what follows. So a path that begins with a slash is left of itself behind a context path, what only shares the
characters of a context path lies outside, and two context paths cut off one after the other are cut off as
one. -/
theorem cuts_what_lies_beneath :
    (∀ context, (∃ raw, normalize raw = context) ↔ IsContext context) ∧
    (∀ raw uri path, relative? uri (normalize raw) = some path ↔
      uri ≠ "" ∧ (uri = normalize raw ∧ path = "/" ∨
        uri = normalize raw ++ path ∧ path ≠ "" ∧ (normalize raw ≠ "" → Text.beginsWith '/' path))) ∧
    (∀ raw path, Text.beginsWith '/' path → relative? (normalize raw ++ path) (normalize raw) = some path) ∧
    (∀ raw rest, normalize raw ≠ "" → rest ≠ "" → Text.beginsWith '/' rest = false →
      relative? (normalize raw ++ rest) (normalize raw) = none) ∧
    ∀ raw raw' uri, relative? uri (normalize raw ++ normalize raw') =
      (relative? uri (normalize raw)).bind (relative? · (normalize raw')) := by
  refine ⟨fun context => exists_normalize_eq_iff, fun raw uri path => relative?_eq_some_iff,
    fun raw path hpath => relative?_append_eq_self_iff.2 (.inl hpath),
    fun raw rest => relative?_append_eq_none, fun raw raw' uri => ?_⟩
  exact relative?_append_context (isContext_normalize raw') (normalize raw) uri

/-- A shop whose context path is written with blanks around it and slashes behind it, which do not count. -/
theorem shop_cuts :
    normalize "\u3000shop/api//\n" = "/shop/api" ∧
      relative? (normalize "\u3000shop/api//\n" ++ "/cart/") (normalize "\u3000shop/api//\n") = some "/cart/" ∧
      relative? (normalize "\u3000shop/api//\n" ++ "s/cart") (normalize "\u3000shop/api//\n") = none := by
  obtain ⟨-, -, hcut, houtside, -⟩ := cuts_what_lies_beneath
  exact ⟨by decide, hcut _ _ (by decide), houtside _ _ (by decide) (by decide) (by decide)⟩

end RequestDispatch.Path
