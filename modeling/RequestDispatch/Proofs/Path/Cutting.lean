import Mathlib.Data.List.TakeWhile
import RequestDispatch.Path.Context
import RequestDispatch.Path.Parameter

/-! The order of cuts.

A path loses a context path at its front and a query or parameters at its end. What is cut off
first makes no difference as long as the one cut leaves the other alone (`Text.after?_upTo`,
`Path.relative?_bare`). Parameters that follow the context path at once are the exception, since
what is left beneath a context path is the root if nothing follows it and else has to begin with
a slash (`Path.relative?_of_parameters`). -/
namespace RequestDispatch

namespace Text
variable {kind : Char → Bool} {s lead rest : String}

theorem after?_append (lead s : String) : after? lead (lead ++ s) = some s := after?_eq_some_iff.2 rfl

theorem after?_append_lead (lead lead' s : String) :
    after? (lead ++ lead') s = (after? lead s).bind (after? lead') := by
  ext rest
  simp only [Option.bind_eq_some_iff, after?_eq_some_iff, String.append_assoc]
  constructor
  · intro h
    exact ⟨lead' ++ rest, h, rfl⟩
  · rintro ⟨middle, h, rfl⟩
    exact h

theorem upTo_append (hlead : ∀ c ∈ lead.toList, kind c = false) (s : String) :
    upTo kind (lead ++ s) = lead ++ upTo kind s := by
  apply String.ext
  simp only [toList_upTo, String.toList_append]
  exact List.takeWhile_append_of_pos fun c hc => by simp [hlead c hc]

/-- A cut loses what is behind it. -/
theorem exists_eq_upTo_append (kind : Char → Bool) (s : String) : ∃ tail, s = upTo kind s ++ tail := by
  refine ⟨String.ofList (s.toList.dropWhile fun c => !kind c), String.ext ?_⟩
  rw [String.toList_append, toList_upTo, String.toList_ofList, List.takeWhile_append_dropWhile]

theorem not_kind_of_mem_upTo {c : Char} (hc : c ∈ (upTo kind s).toList) : kind c = false := by
  rw [toList_upTo] at hc
  simpa using List.mem_takeWhile_imp hc

/-- What is before a cut is the longest front without what is cut off. -/
theorem prefix_upTo_iff {front : List Char} :
    front <+: (upTo kind s).toList ↔ front <+: s.toList ∧ ∀ c ∈ front, kind c = false := by
  constructor
  · intro h
    have hs : (upTo kind s).toList <+: s.toList := by
      rw [toList_upTo]
      exact List.takeWhile_prefix _
    exact ⟨h.trans hs, fun c hc => not_kind_of_mem_upTo (h.subset hc)⟩
  · rintro ⟨⟨rest, hrest⟩, hfront⟩
    rw [toList_upTo, ← hrest, List.takeWhile_append_of_pos (by simpa using hfront)]
    exact List.prefix_append front _

/-- What follows a text that is cut is cut off with the rest of it. -/
theorem upTo_append_of_ne (h : upTo kind s ≠ s) (tail : String) : upTo kind (s ++ tail) = upTo kind s := by
  have hlength : (s.toList.takeWhile fun c => !kind c).length ≠ s.toList.length := fun he =>
    h (String.ext (by rw [toList_upTo, List.IsPrefix.eq_of_length (List.takeWhile_prefix _) he]))
  apply String.ext
  rw [toList_upTo, toList_upTo, String.toList_append, List.takeWhile_append, if_neg hlength]

theorem upTo_of_not_mem {mark : Char} (h : mark ∉ s.toList) : upTo (· == mark) s = s := by
  apply String.ext
  rw [toList_upTo, List.takeWhile_eq_self_iff]
  intro c hc
  have hne : c ≠ mark := fun he => h (he ▸ hc)
  simpa using hne

/-- Of a text that was cut, no part is cut again. -/
theorem upTo_of_upTo_eq (h : upTo kind s = lead ++ rest) : upTo kind rest = rest := by
  apply String.ext
  rw [toList_upTo, List.takeWhile_eq_self_iff]
  intro c hc
  have hmem : c ∈ (upTo kind s).toList := by
    rw [h, String.toList_append]
    exact List.mem_append_right _ hc
  simp [not_kind_of_mem_upTo hmem]

theorem upTo_eq_empty_iff {mark : Char} :
    upTo (· == mark) s = "" ↔ s = "" ∨ beginsWith mark s := by
  rw [← String.toList_inj, ← String.toList_inj, toList_upTo, beginsWith]
  cases s.toList <;> simp

/-- What is first stays first, unless it is cut off. -/
theorem beginsWith_upTo {c : Char} (hc : kind c = false) (s : String) :
    beginsWith c (upTo kind s) = beginsWith c s := by
  rw [beginsWith, beginsWith, toList_upTo]
  cases s.toList with
  | nil => rfl
  | cons d _ =>
    cases hd : kind d with
    | false => simp [hd]
    | true =>
      have hne : d ≠ c := fun h => by rw [h, hc] at hd; cases hd
      simp [hd, hne]

/-- Splitting at a mark cuts at it, if it is there. -/
theorem fst_splitAt? (mark : Char) (s : String) :
    ((splitAt? mark s).map (·.1)).getD s = upTo (· == mark) s := by
  have hkind : (fun c => !(c == mark)) = fun c => decide (c ≠ mark) := by
    funext c
    by_cases h : c = mark <;> simp [h]
  unfold splitAt? upTo
  rw [hkind]
  cases h : s.toList.dropWhile (· ≠ mark) with
  | nil =>
    have hall := List.takeWhile_append_dropWhile (p := (· ≠ mark)) (l := s.toList)
    rw [h, List.append_nil] at hall
    exact String.ext (by rw [hall, String.toList_ofList]; rfl)
  | cons _ _ => rfl

/-- A front that the cut at the end leaves alone may be cut off first or last. -/
theorem after?_upTo (hlead : ∀ c ∈ lead.toList, kind c = false) (s : String) :
    after? lead (upTo kind s) = (after? lead s).map (upTo kind) := by
  ext rest
  rw [after?_eq_some_iff, Option.map_eq_some_iff]
  constructor
  · intro h
    obtain ⟨tail, htail⟩ := exists_eq_upTo_append kind s
    rw [h, String.append_assoc] at htail
    refine ⟨rest ++ tail, after?_eq_some_iff.2 htail, ?_⟩
    rw [htail, upTo_append hlead] at h
    exact (String.append_right_inj lead).1 h
  · rintro ⟨rest, h, rfl⟩
    rw [after?_eq_some_iff.1 h, upTo_append hlead]

/-- A front that the cut at the end shortens is not found afterwards. -/
theorem after?_upTo_eq_none {c : Char} (hc : c ∈ lead.toList) (hkind : kind c = true) (s : String) :
    after? lead (upTo kind s) = none := by
  rw [Option.eq_none_iff_forall_ne_some]
  intro rest hrest
  have hmem : c ∈ (upTo kind s).toList := by
    rw [after?_eq_some_iff.1 hrest, String.toList_append]
    exact List.mem_append_left _ hc
  rw [not_kind_of_mem_upTo hmem] at hkind
  cases hkind

end Text

namespace Path

/-- What follows a context path, as a path beneath it. -/
def beneath? (context rest : String) : Option String :=
  if rest = "" then if context = "" then none else some "/"
  else if context = "" ∨ Text.beginsWith '/' rest then some rest
  else none

theorem relative?_append (context rest : String) :
    relative? (context ++ rest) context = beneath? context rest := by
  rw [relative?, Text.after?_append]
  by_cases hrest : rest = "" <;> by_cases hcontext : context = "" <;>
    simp [beneath?, hrest, hcontext]

theorem relative?_eq (uri context : String) :
    relative? uri context = (Text.after? context uri).bind (beneath? context) := by
  cases h : Text.after? context uri with
  | none => simp [relative?, h]
  | some rest => rw [Text.after?_eq_some_iff.1 h, relative?_append, Option.bind_some]

theorem beneath?_eq_some {context rest path : String} (h : beneath? context rest = some path) :
    path = "/" ∨ path = rest := by
  grind [beneath?]

/-- Beneath a context path lie paths that begin with a slash, and beneath the empty one all but the empty
one. The context path itself is the root. -/
theorem relative?_eq_some_iff {uri context path : String} :
    relative? uri context = some path ↔
      uri ≠ "" ∧ (uri = context ∧ path = "/" ∨
        uri = context ++ path ∧ path ≠ "" ∧ (context ≠ "" → Text.beginsWith '/' path)) := by
  constructor
  · intro h
    rw [relative?_eq, Option.bind_eq_some_iff] at h
    obtain ⟨rest, hrest, hpath⟩ := h
    obtain rfl := Text.after?_eq_some_iff.1 hrest
    by_cases hempty : rest = ""
    · subst hempty
      by_cases hcontext : context = ""
      · simp [beneath?, hcontext] at hpath
      · have hroot : path = "/" := by simpa [beneath?, hcontext, eq_comm] using hpath
        exact ⟨by simpa using hcontext, .inl ⟨String.append_empty, hroot⟩⟩
    · simp only [beneath?, hempty, if_false, Option.ite_none_right_eq_some, Option.some.injEq] at hpath
      obtain ⟨hslash, rfl⟩ := hpath
      exact ⟨by simp [hempty], .inr ⟨rfl, hempty, hslash.resolve_left⟩⟩
  · rintro ⟨huri, ⟨rfl, rfl⟩ | ⟨rfl, hpath, hslash⟩⟩
    · simpa [beneath?, huri] using relative?_append uri ""
    · rw [relative?_append, beneath?, if_neg hpath, if_pos]
      by_cases hcontext : context = ""
      · exact .inl hcontext
      · exact .inr (hslash hcontext)

/-- Behind a context path, a path leads back to itself if it can lie there. -/
theorem relative?_append_eq_self_iff {context path : String} :
    relative? (context ++ path) context = some path ↔
      Text.beginsWith '/' path ∨ context = "" ∧ path ≠ "" := by
  rw [relative?_append]
  by_cases hpath : path = ""
  · subst hpath
    by_cases hcontext : context = "" <;> simp [beneath?, hcontext, Text.beginsWith]
  · by_cases hcontext : context = "" <;> simp [beneath?, hcontext, hpath]

/-- Without its query a path has none beneath the context path either. -/
theorem withoutQuery_of_relative? {uri context path : String}
    (h : relative? (withoutQuery uri) context = some path) : withoutQuery path = path := by
  rw [relative?_eq] at h
  obtain ⟨rest, hrest, hpath⟩ := Option.bind_eq_some_iff.1 h
  rcases beneath?_eq_some hpath with rfl | rfl
  · decide
  · exact Text.upTo_of_upTo_eq (Text.after?_eq_some_iff.1 hrest)

/-- Parameters that do not follow the context path at once may be cut off first or last. -/
theorem beneath?_upTo {context rest : String} (hrest : Text.beginsWith ';' rest = false) :
    beneath? context (Text.upTo (· == ';') rest) =
      (beneath? context rest).map (Text.upTo (· == ';')) := by
  have hempty : Text.upTo (· == ';') rest = "" ↔ rest = "" := by
    rw [Text.upTo_eq_empty_iff, hrest]
    simp
  unfold beneath?
  rw [Text.beginsWith_upTo (by decide)]
  simp only [hempty]
  split
  · split <;> rfl
  · split <;> rfl

section Relative
variable {uri context : String}

theorem no_mark_of_not_mem {mark : Char} (hcontext : mark ∉ context.toList) :
    ∀ c ∈ context.toList, (c == mark) = false :=
  fun _ hc => beq_false_of_ne fun he => hcontext (he ▸ hc)

theorem withoutQuery_of_not_mem (hquery : '?' ∉ uri.toList) : withoutQuery uri = uri :=
  Text.upTo_of_not_mem hquery

/-- Where there are neither parameters nor a query, nothing is cut off. -/
theorem bare_of_not_mem (hparameters : ';' ∉ uri.toList) (hquery : '?' ∉ uri.toList) : bare uri = uri := by
  rw [bare, withoutQuery_of_not_mem hquery, Text.upTo_of_not_mem hparameters]

theorem not_mem_bare (path : String) : ';' ∉ (bare path).toList ∧ '?' ∉ (bare path).toList := by
  constructor
  · intro h
    simpa using Text.not_kind_of_mem_upTo h
  · intro h
    rw [bare, Text.toList_upTo] at h
    simpa using Text.not_kind_of_mem_upTo ((List.takeWhile_sublist _).subset h)

theorem bare_eq_self_iff : bare uri = uri ↔ ';' ∉ uri.toList ∧ '?' ∉ uri.toList :=
  ⟨fun h => h ▸ not_mem_bare uri, fun h => bare_of_not_mem h.1 h.2⟩

/-- A bare path has no parameters and no query to cut off. -/
theorem bare_bare (path : String) : bare (bare path) = bare path := bare_eq_self_iff.2 (not_mem_bare path)

theorem bare_eq_append (hcontext : ';' ∉ context.toList) {rest : String}
    (h : withoutQuery uri = context ++ rest) : bare uri = context ++ Text.upTo (· == ';') rest := by
  rw [bare, h, Text.upTo_append (no_mark_of_not_mem hcontext)]

/-- Parameters in a context path are cut off with the rest of it. -/
theorem relative?_bare_of_mem (hcontext : ';' ∈ context.toList) (uri : String) :
    relative? (bare uri) context = none := by
  rw [relative?_eq, bare, Text.after?_upTo_eq_none hcontext rfl, Option.bind_none]

/-- Where parameters neither are in the context path nor follow it at once, they may be cut off
before it or after it. -/
theorem relative?_bare (hcontext : ';' ∉ context.toList)
    (hrest : ∀ rest, withoutQuery uri = context ++ rest → Text.beginsWith ';' rest = false) :
    relative? (bare uri) context = (relative? (withoutQuery uri) context).map bare := by
  cases hafter : Text.after? context (withoutQuery uri) with
  | none =>
    rw [relative?_eq, relative?_eq, bare, Text.after?_upTo (no_mark_of_not_mem hcontext), hafter]
    rfl
  | some rest =>
    have h := Text.after?_eq_some_iff.1 hafter
    have hbeneath : relative? (withoutQuery uri) context = beneath? context rest := by
      rw [h, relative?_append]
    rw [bare_eq_append hcontext h, relative?_append, beneath?_upTo (hrest rest h), ← hbeneath]
    refine Option.map_congr fun path hpath => ?_
    rw [bare, withoutQuery_of_relative? hpath]

theorem bare_of_beginsWith {path : String} (h : Text.beginsWith ';' path) : bare path = "" := by
  rw [bare, Text.upTo_eq_empty_iff, withoutQuery, Text.beginsWith_upTo (by decide)]
  exact .inr h

/-- Where they follow it at once, an empty path is left beneath an empty context path if they are cut
off last, and the root beneath any other if they are cut off first. -/
theorem relative?_of_parameters (hcontext : ';' ∉ context.toList) {rest : String}
    (h : withoutQuery uri = context ++ rest) (hrest : Text.beginsWith ';' rest) :
    (relative? (withoutQuery uri) context).map bare = (if context = "" then some "" else none) ∧
      relative? (bare uri) context = if context = "" then none else some "/" := by
  have hne : rest ≠ "" := by
    rintro rfl
    cases hrest
  have hslash : Text.beginsWith '/' rest = false := by
    have := beq_iff_eq.1 hrest
    simp [Text.beginsWith, this]
  have hcut : Text.upTo (· == ';') rest = "" := Text.upTo_eq_empty_iff.2 (.inr hrest)
  rw [bare_eq_append hcontext h, hcut, h, relative?_append, relative?_append]
  by_cases hempty : context = "" <;> simp [beneath?, hne, hslash, hempty, bare_of_beginsWith hrest]

end Relative

end Path
end RequestDispatch
