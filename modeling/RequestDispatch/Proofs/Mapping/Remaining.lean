import RequestDispatch.Mapping.Target
import RequestDispatch.Proofs.Mapping.Forms
import RequestDispatch.Proofs.Path.Cutting
import RequestDispatch.Proofs.Path.Unescaping

/-! What remains of a path.

A pattern that accounts for whole paths leaves nothing of them (`Pattern.takes_whole_path`). One for all that
is beneath a root leaves what follows the root. The path is collapsed before the root is taken off it, as
it is written, so that what follows is told only if the root is tidy (`Pattern.keeps_remainder_iff`): a
root with a run of slashes is not found again, and one that ends in a slash takes the slash of the
remainder with it. -/
namespace RequestDispatch

namespace Path
variable {root rest : String} {t : List Char}

theorem exists_collapse_of_beginsWith (h : Text.beginsWith '/' rest) :
    ∃ t, collapse rest.toList = '/' :: t := by
  obtain ⟨rest, rfl⟩ := Text.beginsWith_iff.1 h
  rw [String.toList_append]
  exact exists_collapse_slash rest.toList

/-- Of a root that ends in a slash and the slash behind it, one is left, and goes with the root. -/
theorem info?_append_of_end (hrun : ¬ ['/', '/'] <:+: root.toList) (hend : ['/'] <:+ root.toList)
    (hrest : collapse rest.toList = '/' :: t) :
    info? (root ++ rest) root = if t = [] then none else some (String.ofList (Text.Escape.decode t)) := by
  obtain ⟨start, hstart⟩ := hend
  obtain ⟨rest', hrest'⟩ : ∃ rest', rest.toList = '/' :: rest' := by
    rw [← List.head?_eq_some_iff, ← head?_collapse, hrest]
    rfl
  have hstartRun : ¬ ['/', '/'] <:+: start := fun h =>
    hrun (hstart ▸ h.trans (List.prefix_append start ['/']).isInfix)
  have hstartEnd : ¬ ['/'] <:+ start := by
    rintro ⟨s, rfl⟩
    exact hrun ⟨s, [], by rw [← hstart]; simp⟩
  have hcollapse : collapse (root ++ rest).toList = root.toList ++ t := by
    calc collapse (root ++ rest).toList
        = collapse (start ++ '/' :: '/' :: rest') := by
          rw [String.toList_append, ← hstart, hrest', List.append_assoc, List.singleton_append]
      _ = start ++ collapse rest.toList := by
          rw [collapse_append hstartRun hstartEnd, collapse_slash_slash, hrest']
      _ = root.toList ++ t := by rw [hrest, ← hstart, List.append_assoc, List.singleton_append]
  have hroot : root ≠ "" := by
    rintro rfl
    simp at hstart
  rw [info?_of_collapse hcollapse]
  simp only [hroot, ne_eq, not_false_eq_true, and_true]

theorem tidy_empty : Tidy "" := by decide

/-- What follows a root is what a path holds beyond it, if the root is tidy or nothing follows it. -/
theorem info?_append_eq_iff (hrest : rest = "" ∨ Text.beginsWith '/' rest) :
    info? (root ++ rest) root = (if rest = "" ∧ root ≠ "" then none
      else some (String.ofList (Text.Escape.decode (collapse rest.toList)))) ↔
      rest = "" ∨ Tidy root := by
  constructor
  · intro h
    by_contra hlost
    obtain ⟨hne, htidy⟩ := not_or.1 hlost
    rw [if_neg fun hnothing => hne hnothing.1] at h
    by_cases hrun : ['/', '/'] <:+: root.toList
    · rw [info?_eq_none_of_run hrun] at h
      cases h
    · have hend : ['/'] <:+ root.toList := by_contra fun hend => htidy ⟨hrun, hend⟩
      obtain ⟨t, ht⟩ := exists_collapse_of_beginsWith (hrest.resolve_left hne)
      rw [info?_append_of_end hrun hend ht, ht, Text.Escape.decode_cons_of_ne (by decide)] at h
      -- The slash that went with the root is missing in front.
      split at h
      · cases h
      · have hlength := congrArg List.length (String.ofList_injective (Option.some.inj h))
        simp at hlength
  · rintro (rfl | htidy)
    · by_cases hroot : root = ""
      · subst hroot
        exact info?_append tidy_empty ""
      · rw [if_pos ⟨rfl, hroot⟩, String.append_empty, info?_self hroot]
    · exact info?_append htidy rest

end Path

/-- What a target keeps of a path that goes on behind a root: all of it in its URI, the root, and what the
remainder is read as, unless nothing remains. -/
structure Target.Keeps (t : Target) (context root rest : String) : Prop where
  requestUri : t.requestUri = context ++ (root ++ rest)
  servletPath : t.servletPath = root
  none_iff : t.pathInfo = none ↔ rest = "" ∧ root ≠ ""
  readAs : ∀ info, t.pathInfo = some info → Path.ReadAs rest info
  rooted : ∀ info, t.pathInfo = some info → Text.beginsWith '/' rest → Text.beginsWith '/' info

theorem Target.keeps_iff {t : Target} {context root rest : String} :
    t.Keeps context root rest ↔ t = ⟨context ++ (root ++ rest), root,
      if rest = "" ∧ root ≠ "" then none
      else some (String.ofList (Text.Escape.decode (Path.collapse rest.toList)))⟩ := by
  constructor
  · intro h
    have hinfo : t.pathInfo = if rest = "" ∧ root ≠ "" then none
        else some (String.ofList (Text.Escape.decode (Path.collapse rest.toList))) := by
      split
      next hnothing => exact h.none_iff.2 hnothing
      next hsomething =>
        cases ht : t.pathInfo with
        | none => exact absurd (h.none_iff.1 ht) hsomething
        | some info => rw [Path.readAs_iff.1 (h.readAs info ht)]
    rw [← h.requestUri, ← hinfo]
    exact congrArg (Target.mk t.requestUri · t.pathInfo) h.servletPath
  · rintro rfl
    exact
      { requestUri := rfl
        servletPath := rfl
        none_iff := by simp
        readAs := by
          intro info h
          split at h <;> cases h
          exact Path.readAs_iff.2 rfl
        rooted := by
          intro info h hrooted
          split at h <;> cases h
          obtain ⟨t, ht⟩ := Path.exists_collapse_of_beginsWith hrooted
          rw [ht, Text.Escape.decode_cons_of_ne (by decide), Text.beginsWith, String.toList_ofList]
          rfl }

namespace Pattern
variable {p : Pattern} {path context root rest : String}

/-- **Whole paths.** A pattern that is not for all beneath a root takes the whole of a path as it is, and
leaves no path info. -/
theorem takes_whole_path (hp : ∀ root, p ≠ .beneath root) (hpath : path ≠ "")
    (hparameters : ';' ∉ path.toList) (hquery : '?' ∉ path.toList) (context : String) :
    p.target path context = ⟨context ++ path, path, none⟩ := by
  have hmatched : (p.matchedPart? path).getD path = path := by
    cases p with
    | beneath root => exact absurd rfl (hp root)
    | literal | suffix | regex => rfl
  simp only [target, Path.bare_of_not_mem hparameters hquery, hmatched, Path.info?_self hpath]

/-- Slashes in a row and escaped ones are left in the path of a view. -/
theorem view_takes_whole_path :
    (suffix ".jsp").target "/a//b%2Fc.jsp" "/ctx" = ⟨"/ctx/a//b%2Fc.jsp", "/a//b%2Fc.jsp", none⟩ :=
  takes_whole_path (p := suffix ".jsp") (fun _ h => nomatch h) (by decide) (by decide) (by decide) "/ctx"

theorem WrittenAs.eq_beneath (h : WrittenAs p (root ++ "/*")) : p = .beneath root := by
  generalize hs : root ++ "/*" = s at h
  cases h with
  | suffix _ hslash =>
    have hmem : '/' ∈ (root ++ "/*").toList := by
      rw [String.toList_append]
      exact List.mem_append_right _ (by decide)
    rw [hs, String.toList_append] at hmem
    exact (List.mem_append.1 hmem).elim (fun h => absurd h (by decide)) fun h => absurd h hslash
  | beneath => rw [(String.append_left_inj _).1 hs]
  | literal hstar =>
    refine absurd ?_ hstar
    rw [← hs, String.toList_append]
    exact List.mem_append_right _ (by decide)

theorem serves_beneath_append_iff :
    (beneath root).serves (root ++ rest) = true ↔ rest = "" ∨ Text.beginsWith '/' rest := by
  have hself : root ++ rest = root ↔ rest = "" := by
    conv_lhs => rhs; rw [← String.append_empty (s := root)]
    exact String.append_right_inj root
  rw [serves, Text.after?_append, Bool.or_eq_true, decide_eq_true_iff, hself]
  rfl

theorem target_beneath (hparameters : ';' ∉ path.toList) (hquery : '?' ∉ path.toList) :
    (beneath root).target path context = ⟨context ++ path, root, Path.info? path root⟩ := by
  simp only [target, Path.bare_of_not_mem hparameters hquery, matchedPart?, Option.getD_some]

/-- **The remainder is kept** of every path beneath a root if the root is tidy, and else only where nothing
remains. -/
theorem keeps_remainder_iff (hp : ofText? (root ++ "/*") .servlet = .ok p)
    (hserves : p.serves (root ++ rest) = true) (hparameters : ';' ∉ (root ++ rest).toList)
    (hquery : '?' ∉ (root ++ rest).toList) (context : String) :
    (p.target (root ++ rest) context).Keeps context root rest ↔ rest = "" ∨ Path.Tidy root := by
  obtain rfl := (ofText?_servlet_eq_ok_iff.1 hp).eq_beneath
  rw [target_beneath hparameters hquery, Target.keeps_iff,
    ← Path.info?_append_eq_iff (serves_beneath_append_iff.1 hserves)]
  simp only [Target.mk.injEq, true_and]

/-- Beneath a tidy root the remainder is kept, whatever slashes it begins with. -/
theorem tidy_root_keeps_remainder :
    ∃ p, ofText? ("/test" ++ "/*") .servlet = .ok p ∧
      (p.target ("/test" ++ "//a%20b//c") "/ctx").Keeps "/ctx" "/test" "//a%20b//c" ∧
      (p.target ("/test" ++ "//a%20b//c") "/ctx").pathInfo = some "/a b/c" := by
  have hp : ofText? ("/test" ++ "/*") .servlet = .ok (.beneath "/test") := by decide +kernel
  have hserves : (beneath "/test").serves ("/test" ++ "//a%20b//c") = true := by decide +kernel
  have hkeeps := (keeps_remainder_iff hp hserves (by decide) (by decide) "/ctx").2 (.inr (by decide))
  exact ⟨_, hp, hkeeps, by decide +kernel⟩

/-- Beneath a root with a run of slashes it is lost, though the path is served. -/
theorem doubled_root_loses_remainder :
    ∃ p, ofText? "/a//b/*" .servlet = .ok p ∧ p.serves "/a//b/c" = true ∧
      p.target "/a//b/c" "" = ⟨"/a//b/c", "/a//b", none⟩ ∧
      ¬ (p.target "/a//b/c" "").Keeps "" "/a//b" "/c" := by
  have hp : ofText? "/a//b/*" .servlet = .ok (.beneath "/a//b") := by decide +kernel
  have htarget : (beneath "/a//b").target "/a//b/c" "" = ⟨"/a//b/c", "/a//b", none⟩ := by decide +kernel
  refine ⟨_, hp, by decide +kernel, htarget, fun hkeeps => ?_⟩
  rw [htarget] at hkeeps
  exact absurd (hkeeps.none_iff.1 rfl).1 (by decide)

end Pattern
end RequestDispatch
