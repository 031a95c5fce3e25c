import RequestDispatch.Proofs.Path.Cutting
import RequestDispatch.Proofs.Path.Unescaping

/-! Paths that are read alike.

Two paths collapse to the same if they differ in nothing but the lengths of their runs of slashes
(`SameRuns`, `sameRuns_iff`). Path info tells no such paths apart, and tells all others apart
(`forall_info?_eq_iff`): the parts that a collapsed path goes beyond, and what it has beyond the longest of
them, give it back. Bare paths are the longest fronts without parameters and queries (`prefix_bare_iff`), in
whatever order the marks of these come. -/
namespace RequestDispatch.Path

variable {c : Char} {s t : List Char} {path path' tail : String}

/-! ### Runs of slashes -/

/-- The same but for the lengths of runs: against each run of slashes stands a run, and against any other
character that character. -/
inductive SameRuns : List Char → List Char → Prop
  | nil : SameRuns [] []
  | kept {c : Char} {s t : List Char} (hc : c ≠ '/') (rest : SameRuns s t) : SameRuns (c :: s) (c :: t)
  | run {s t : List Char} (m n : Nat) (hs : s.head? ≠ some '/') (ht : t.head? ≠ some '/')
      (rest : SameRuns s t) :
      SameRuns (List.replicate (m + 1) '/' ++ s) (List.replicate (n + 1) '/' ++ t)

theorem exists_run (s : List Char) :
    ∃ n rest, '/' :: s = List.replicate (n + 1) '/' ++ rest ∧ rest.head? ≠ some '/' := by
  induction s with
  | nil => exact ⟨0, [], rfl, nofun⟩
  | cons c s ih =>
    by_cases hc : c = '/'
    · subst hc
      obtain ⟨n, rest, hrun, hrest⟩ := ih
      exact ⟨n + 1, rest, by rw [hrun]; rfl, hrest⟩
    · exact ⟨0, c :: s, rfl, by simpa using hc⟩

/-- Induction on a path, run by run. -/
theorem runInduction {motive : List Char → Prop} (nil : motive [])
    (kept : ∀ c s, c ≠ '/' → motive s → motive (c :: s))
    (run : ∀ n s, s.head? ≠ some '/' → motive s → motive (List.replicate (n + 1) '/' ++ s))
    (s : List Char) : motive s := by
  induction hlength : s.length using Nat.strongRecOn generalizing s with
  | ind length ih =>
    cases s with
    | nil => exact nil
    | cons c s =>
      by_cases hc : c = '/'
      · subst hc
        obtain ⟨n, rest, hrun, hrest⟩ := exists_run s
        have hshorter : rest.length < length := by
          rw [← hlength, hrun, List.length_append, List.length_replicate]
          omega
        rw [hrun]
        exact run n rest hrest (ih _ hshorter rest rfl)
      · have hshorter : s.length < length := by
          rw [← hlength, List.length_cons]
          omega
        exact kept c s hc (ih _ hshorter s rfl)

/-- Of a run one slash is left. -/
theorem collapse_run (n : Nat) (hs : s.head? ≠ some '/') :
    collapse (List.replicate (n + 1) '/' ++ s) = '/' :: collapse s := by
  induction n with
  | zero =>
    show collapse ('/' :: s) = _
    exact collapse_cons fun d hd hboth => hs (by rw [hd, hboth.2])
  | succ n ih => exact (collapse_slash_slash _).trans ih

theorem SameRuns.collapse_eq (h : SameRuns s t) : collapse s = collapse t := by
  induction h with
  | nil => rfl
  | kept hc _ ih => rw [collapse_cons_of_ne hc, collapse_cons_of_ne hc, ih]
  | run m n hs ht _ ih => rw [collapse_run m hs, collapse_run n ht, ih]

/-- Collapsing forgets the lengths of runs and nothing else. -/
theorem sameRuns_iff : SameRuns s t ↔ collapse s = collapse t := by
  refine ⟨SameRuns.collapse_eq, fun h => ?_⟩
  induction s using runInduction generalizing t with
  | nil =>
    rw [collapse_eq_nil_iff.1 h.symm]
    exact .nil
  | kept c s hc ih =>
    rw [collapse_cons_of_ne hc] at h
    obtain ⟨t, rfl, ht⟩ := eq_cons_of_collapse hc h.symm
    exact .kept hc (ih ht.symm)
  | run n s hs ih =>
    rw [collapse_run n hs] at h
    have hhead : t.head? = some '/' := by
      rw [← head?_collapse, ← h]
      rfl
    obtain ⟨t, rfl⟩ := List.head?_eq_some_iff.1 hhead
    obtain ⟨m, rest, hrun, hrest⟩ := exists_run t
    rw [hrun, collapse_run m hrest] at h
    rw [hrun]
    exact .run n m hs hrest (ih (List.cons.inj h).2)

theorem collapse_collapse (s : List Char) : collapse (collapse s) = collapse s :=
  collapse_eq_self_iff.2 (no_run_collapse s)

/-! ### What path info tells -/

theorem exists_of_info?_eq_some {matched info : String} (h : info? path matched = some info) :
    ∃ rest, collapse path.toList = matched.toList ++ rest ∧
      info = String.ofList (Text.Escape.decode rest) := by
  rw [info?] at h
  cases hdrop : Text.dropLead? matched.toList (collapse path.toList) with
  | none =>
    rw [hdrop] at h
    cases h
  | some rest =>
    simp only [hdrop, Option.ite_none_left_eq_some, Option.some.injEq] at h
    exact ⟨rest, Text.dropLead?_eq_some_iff.1 hdrop, h.2.symm⟩

/-- A path that collapses to no more than another, and has the same path info beyond every part, collapses to
the same: beyond all but the last character of the longer one, both have that character. -/
theorem collapse_eq_of_info?_eq (hinfo : ∀ matched, info? path matched = info? path' matched)
    (hlength : (collapse path.toList).length ≤ (collapse path'.toList).length) :
    collapse path.toList = collapse path'.toList := by
  rcases List.eq_nil_or_concat' (collapse path'.toList) with hnil | ⟨front, last, hlast⟩
  · rw [hnil, List.length_nil, Nat.le_zero] at hlength
    rw [hnil, List.length_eq_zero_iff.1 hlength]
  · have hinfo' : info? path' (String.ofList front) = some (String.ofList [last]) := by
      have hcollapse : collapse path'.toList = (String.ofList front).toList ++ [last] := by
        rw [hlast, String.toList_ofList]
      rw [info?_of_collapse hcollapse, Text.Escape.decode_singleton, if_neg fun h => by cases h.1]
    obtain ⟨rest, hrest, hdecode⟩ := exists_of_info?_eq_some ((hinfo _).trans hinfo')
    rw [String.toList_ofList] at hrest
    have hdecode' : Text.Escape.decode rest = [last] := (String.ofList_injective hdecode).symm
    rw [hrest, hlast, List.length_append, List.length_append, Nat.add_le_add_iff_left] at hlength
    match rest, hlength with
    | [], _ =>
      rw [Text.Escape.decode_nil] at hdecode'
      cases hdecode'
    | [d], _ =>
      rw [Text.Escape.decode_singleton] at hdecode'
      rw [hrest, hlast, hdecode']

/-- Path info does not tell paths apart that differ in the lengths of runs only, but all others. -/
theorem forall_info?_eq_iff :
    (∀ matched, info? path matched = info? path' matched) ↔ SameRuns path.toList path'.toList := by
  rw [sameRuns_iff]
  constructor
  · intro h
    rcases Nat.le_total (collapse path.toList).length (collapse path'.toList).length with hle | hle
    · exact collapse_eq_of_info?_eq h hle
    · exact (collapse_eq_of_info?_eq (fun matched => (h matched).symm) hle).symm
  · intro h matched
    rw [info?, info?, h]

/-! ### Bare paths -/

/-- The marks before which a path is cut. -/
def isMark (c : Char) : Bool := c = ';' || c = '?'

/-- A path is cut before the first mark, of whichever kind. -/
theorem bare_eq_upTo (path : String) : bare path = Text.upTo isMark path := by
  apply String.ext
  rw [bare, withoutQuery, Text.toList_upTo, Text.toList_upTo, Text.toList_upTo, List.takeWhile_takeWhile]
  congr
  funext c
  simp [isMark]

/-- The fronts of a path that have neither parameters nor a query are those of the bare path. -/
theorem prefix_bare_iff : s <+: (bare path).toList ↔ s <+: path.toList ∧ ';' ∉ s ∧ '?' ∉ s := by
  rw [bare_eq_upTo, Text.prefix_upTo_iff]
  refine and_congr_right fun _ => ⟨fun h => ⟨fun hc => ?_, fun hc => ?_⟩, fun h c hc => ?_⟩
  · cases h _ hc
  · cases h _ hc
  · have hsemicolon : c ≠ ';' := fun he => h.1 (he ▸ hc)
    have hquestion : c ≠ '?' := fun he => h.2 (he ▸ hc)
    simp [isMark, hsemicolon, hquestion]

theorem bare_eq_empty_iff :
    bare path = "" ↔ path = "" ∨ Text.beginsWith ';' path ∨ Text.beginsWith '?' path := by
  rw [bare_eq_upTo, ← String.toList_inj, ← String.toList_inj, Text.toList_upTo, Text.beginsWith, Text.beginsWith]
  cases path.toList with
  | nil => simp
  | cons c rest => by_cases hc : c = ';' <;> simp [isMark, hc]

/-- What follows a path that is bare is cut as it would be by itself. -/
theorem bare_append_of_bare (h : bare path = path) (tail : String) : bare (path ++ tail) = path ++ bare tail := by
  have hkept : ∀ c ∈ path.toList, isMark c = false := by
    intro c hc
    rw [← h, bare_eq_upTo] at hc
    exact Text.not_kind_of_mem_upTo hc
  rw [bare_eq_upTo, bare_eq_upTo, Text.upTo_append hkept]

/-- What follows a path that something is cut off is cut off with it. -/
theorem bare_append_of_not_bare (h : bare path ≠ path) (tail : String) : bare (path ++ tail) = bare path := by
  rw [bare_eq_upTo] at h
  rw [bare_eq_upTo, bare_eq_upTo, Text.upTo_append_of_ne h]

/-- What follows a path makes no difference if the path is cut before it, or it is cut at its beginning. -/
theorem bare_append_eq_iff :
    bare (path ++ tail) = bare path ↔
      bare path ≠ path ∨ tail = "" ∨ Text.beginsWith ';' tail ∨ Text.beginsWith '?' tail := by
  rw [← bare_eq_empty_iff]
  by_cases h : bare path = path
  · rw [bare_append_of_bare h, h]
    simp
  · exact iff_of_true (bare_append_of_not_bare h tail) (.inl h)

/-- **Which paths are read alike.** A collapsed path has no two slashes in a row, is the path itself if that
has none, and stays as it is when it is collapsed again. Paths collapse to the same if and only if they
differ in nothing but the lengths of their runs of slashes, and if and only if they have the same path info
beyond every part. The bare path is the longest front without parameters and a query: the fronts of it are
those of the path that have neither mark. It stays as it is when it is cut again, and what follows a path makes
no difference to it if and only if it begins with a mark, or is empty or follows one. -/
theorem read_alike :
    (∀ path : String, ¬ ['/', '/'] <:+: collapse path.toList ∧
      (collapse path.toList = path.toList ↔ ¬ ['/', '/'] <:+: path.toList) ∧
      collapse (collapse path.toList) = collapse path.toList) ∧
    (∀ path path' : String,
      (SameRuns path.toList path'.toList ↔ collapse path.toList = collapse path'.toList) ∧
      (SameRuns path.toList path'.toList ↔ ∀ matched, info? path matched = info? path' matched)) ∧
    (∀ (path : String) (front : List Char),
      front <+: (bare path).toList ↔ front <+: path.toList ∧ ';' ∉ front ∧ '?' ∉ front) ∧
    (∀ path, bare (bare path) = bare path) ∧
    ∀ path tail, bare (path ++ tail) = bare path ↔
      bare path ≠ path ∨ tail = "" ∨ Text.beginsWith ';' tail ∨ Text.beginsWith '?' tail := by
  refine ⟨fun path => ⟨no_run_collapse _, collapse_eq_self_iff, collapse_collapse _⟩,
    fun path path' => ⟨sameRuns_iff, forall_info?_eq_iff.symm⟩, fun path front => prefix_bare_iff,
    bare_bare, fun path tail => bare_append_eq_iff⟩

/-- Slashes in a row, and marks in either order. -/
example : collapse "//a/b///".toList = collapse "/a//b/".toList ∧ bare "/a;v=1?q" = "/a" ∧ bare "/a?q;v=1" = "/a" := by
  decide

end RequestDispatch.Path
