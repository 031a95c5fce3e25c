import RequestDispatch.Proofs.Chain.Isolation
import RequestDispatch.Proofs.Chain.Listing

/-! Reading back what was written.

A write changes what is read under its own name only (`attribute?_write_of_ne`). Under that name what
was written is read, and listed once, through any number of levels, with one exception
(`Chain.Hides`). A reserved attribute is kept by the outermost level, which shows it as long as what is
beneath answers what the request does. If it answers something else, that is taken from the levels
beneath. Where the request has the attribute itself, the nothing that is left is once more not what the
request answers, so that the outermost level gives way to it and nothing is read. -/
namespace RequestDispatch

/-- What shows of a value that was written from the outside. -/
theorem deepest_overwrite {α : Type} [DecidableEq α] {own : Option α} (value first : Option α)
    (beneath : List (Option α)) :
    deepest own (overwrite own value (first :: beneath)) =
      if own = none ∨ deepest own beneath = own then value else none := by
  induction beneath generalizing value first with
  | nil => simp [overwrite, deepest, Level.shown]
  | cons next rest ih =>
    rw [overwrite]
    by_cases h : deepest own (next :: rest) = own
    · rw [if_pos h, deepest_cons, if_pos h, if_pos (.inr h)]
    · have htaken : deepest own (overwrite own none (next :: rest)) = none := by
        rw [ih none next, ite_self]
      rw [if_neg h, deepest_cons, htaken]
      simp only [h, or_false, eq_comm]

namespace Chain
variable {c : Chain Request}

/-- A write leaves what is read under all other names. -/
theorem attribute?_write_of_ne (hc : c.Plain) {w : Write} {name : String} (hname : name ≠ w.name) :
    (c.write w).view.attribute? name = c.view.attribute? name := by
  induction c generalizing w with
  | base request => exact (Request.attribute?_write request w name).trans (if_neg hname)
  | layer outer inner ih =>
    cases outer with
    | decorator d =>
      rw [hc _ List.mem_cons_self d rfl]
      exact ih hc.inner hname
    | forward l | inclusion l =>
      cases hw : Reserved.ofName? w.name with
      | none =>
        have hinner := ih hc.inner hname
        simp only [write, Layer.pass, Level.pass_ordinary hw, view, Layer.view, Level.view,
          Level.attribute?, Level.reserved?]
        cases hkey : Reserved.ofName? name with
        | none => exact hinner
        | some key =>
          obtain rfl := Reserved.name_of_ofName? hkey
          simp only [hinner]
      | some written =>
        have hne : name ≠ written.name := by rwa [Reserved.name_of_ofName? hw]
        have hinner : ((if inner.view.attribute? written.name = l.snapshot written then inner
            else inner.write (.remove written.name)).view.attribute? name) =
            inner.view.attribute? name := by
          split
          · rfl
          · exact ih hc.inner hne
        rw [write_layer rfl hw]
        simp only [view, Layer.mapWritten, Layer.view, Level.view, Level.attribute?]
        cases hkey : Reserved.ofName? name with
        | none => exact hinner
        | some key =>
          obtain rfl := Reserved.name_of_ofName? hkey
          have hput : l.written.put written w.outcome? key = l.written key :=
            if_neg fun he => hne (congrArg _ he)
          simp only [Level.reserved?, Level.mapWritten, hinner, hput]

/-- Without levels all that is written gets to the request. -/
theorem bottom_write_of_levels_eq_nil (hc : c.Plain) (hl : c.levels = []) (w : Write) :
    (c.write w).bottom = c.bottom.write w := by
  induction c with
  | base request => rfl
  | layer outer inner ih =>
    cases outer with
    | forward l | inclusion l => cases hl
    | decorator d =>
      rw [hc _ List.mem_cons_self d rfl]
      exact ih hc.inner hl

/-- What is written under a name does not show: the request has a reserved attribute itself, and
beneath the outermost level there is one with something else in its place. -/
def Hides (c : Chain Request) (name : String) : Prop :=
  ∃ key ∈ Reserved.ofName? name, c.bottom.attribute? name ≠ none ∧
    ∃ l ∈ c.levels.tail, l.written key ≠ c.bottom.attribute? name

instance (c : Chain Request) (name : String) : Decidable (c.Hides name) :=
  inferInstanceAs (Decidable (∃ key ∈ Reserved.ofName? name, _))

theorem not_hides_of_ordinary {name : String} (h : Reserved.ofName? name = none) : ¬ c.Hides name := by
  rintro ⟨key, hkey, -⟩
  rw [h] at hkey
  cases hkey

theorem not_hides_of_levels_eq_nil (hl : c.levels = []) (name : String) : ¬ c.Hides name := by
  rintro ⟨key, -, -, l, hmem, -⟩
  rw [hl] at hmem
  cases hmem

theorem not_hides_iff {key : Reserved} : ¬ c.Hides key.name ↔
    c.bottom.attribute? key.name = none ∨
      deepest (c.bottom.attribute? key.name) (c.held key).tail = c.bottom.attribute? key.name := by
  have hbeneath : deepest (c.bottom.attribute? key.name) (c.held key).tail = c.bottom.attribute? key.name ↔
      ∀ l ∈ c.levels.tail, l.written key = c.bottom.attribute? key.name := by
    rw [deepest_eq_own_iff, held, ← List.map_tail, List.forall_mem_map]
  rw [hbeneath]
  simp [Hides, Reserved.ofName?_name, or_iff_not_imp_left]

namespace Faithful

/-- What is read of a reserved attribute that was written through levels. -/
theorem attribute?_write_levels (h : c.Faithful) (hl : c.levels ≠ []) {w : Write} {key : Reserved}
    (hw : key.name = w.name) :
    (c.write w).view.attribute? key.name =
      if c.bottom.attribute? key.name = none ∨
          deepest (c.bottom.attribute? key.name) (c.held key).tail = c.bottom.attribute? key.name
        then w.outcome? else none := by
  have hview : (c.write w).view.attribute? key.name =
      deepest ((c.write w).bottom.attribute? key.name) ((c.write w).held key) := (h.write w).attribute? key
  rw [hview, h.reserved_write hl w key, h.held_write w key, if_pos hw]
  cases hheld : c.held key with
  | nil => exact absurd (List.map_eq_nil_iff.1 hheld) hl
  | cons first beneath => exact deepest_overwrite w.outcome? first beneath

/-- What is read under the name that was written. -/
theorem attribute?_write_self (h : c.Faithful) (w : Write) :
    (c.write w).view.attribute? w.name = if c.Hides w.name then none else w.outcome? := by
  cases hw : Reserved.ofName? w.name with
  | none =>
    rw [attribute?_ordinary (h.write w).plain hw, attribute?_write h.plain w hw, if_pos rfl,
      if_neg (not_hides_of_ordinary hw)]
  | some key =>
    have hname : key.name = w.name := Reserved.name_of_ofName? hw
    rw [← hname]
    by_cases hl : c.levels = []
    · have hview : (c.write w).view.attribute? key.name =
          deepest ((c.write w).bottom.attribute? key.name) ((c.write w).held key) := (h.write w).attribute? key
      have hnone : (c.write w).held key = [] :=
        List.map_eq_nil_iff.2 ((levels_eq_nil_iff_of_frame (frame_write c w)).2 hl)
      rw [hview, hnone, bottom_write_of_levels_eq_nil h.plain hl, Request.attribute?_write,
        if_neg (not_hides_of_levels_eq_nil hl key.name)]
      exact if_pos hname
    · rw [h.attribute?_write_levels hl hname]
      simp only [← not_hides_iff, ite_not]

end Faithful

/-- **Reading back what was written.** After a write of something, it is read under its name, and the name
is listed once, if and only if the chain does not hide it. If it does, nothing is read and the name is not
listed. All other names read as before. -/
theorem read_back_iff {r : Request} (hc : LeadsTo Step.IsPlain (.base r) c) (name : String)
    {value : Value} (hvalue : value ≠ .null) :
    ((c.write (.set name value)).view.attribute? name = some value ↔ ¬ c.Hides name) ∧
    ((c.write (.set name value)).view.attributeNames.count name = 1 ↔ ¬ c.Hides name) ∧
    (c.Hides name → (c.write (.set name value)).view.attribute? name = none ∧
      name ∉ (c.write (.set name value)).view.attributeNames) ∧
    ∀ other, other ≠ name →
      (c.write (.set name value)).view.attribute? other = c.view.attribute? other := by
  have h : c.Faithful := (Faithful.base r).leadsTo hc
  have hlists := (h.write (.set name value)).plain.lists
  have hself : (c.write (.set name value)).view.attribute? name =
      if c.Hides name then none else some value := by
    rw [← Write.outcome?_set hvalue name]
    exact h.attribute?_write_self (.set name value)
  have hothers : ∀ other, other ≠ name →
      (c.write (.set name value)).view.attribute? other = c.view.attribute? other :=
    fun other hother => attribute?_write_of_ne h.plain hother
  by_cases hhides : c.Hides name
  · rw [if_pos hhides] at hself
    have hmem := hlists.not_mem hself
    refine ⟨?_, ?_, fun _ => ⟨hself, hmem⟩, hothers⟩
    · simp [hself, hhides]
    · simp [List.count_eq_zero_of_not_mem hmem, hhides]
  · rw [if_neg hhides] at hself
    exact ⟨iff_of_true hself hhides, iff_of_true (hlists.count_eq_one hvalue hself) hhides,
      fun hhides' => absurd hhides' hhides, hothers⟩

/-- A request that tells of an inclusion itself. -/
def tellingRequest : Request :=
  (Request.get "/page").setAttribute (Reserved.mk .inclusion .requestUri).name (.text "/own")

/-- Two inclusions of it. -/
def twiceIncluded : Chain Request :=
  (Chain.base tellingRequest).run [.includeTarget ⟨"/a", "/a", none⟩, .includeTarget ⟨"/b", "/b", none⟩]

theorem leadsTo_twiceIncluded : LeadsTo Step.IsPlain (.base tellingRequest) twiceIncluded :=
  ⟨_, by simp [Step.IsPlain], rfl⟩

/-- The path info, which the request does not tell, is read back. -/
theorem twiceIncluded_reads_back :
    (twiceIncluded.write (.set (Reserved.mk .inclusion .pathInfo).name (.text "/x"))).view.attribute?
        (Reserved.mk .inclusion .pathInfo).name = some (.text "/x") ∧
      (twiceIncluded.write (.set (Reserved.mk .inclusion .pathInfo).name (.text "/x"))).view.attribute?
        (Reserved.mk .inclusion .requestUri).name = some (.text "/b") := by
  obtain ⟨hself, -, -, hothers⟩ := read_back_iff leadsTo_twiceIncluded
    (Reserved.mk .inclusion .pathInfo).name (show Value.text "/x" ≠ .null from nofun)
  refine ⟨hself.2 (by decide +kernel), ?_⟩
  rw [hothers (Reserved.mk .inclusion .requestUri).name (by decide)]
  decide +kernel

/-- The URI, which the request tells, is not. -/
theorem twiceIncluded_hides :
    (twiceIncluded.write (.set (Reserved.mk .inclusion .requestUri).name (.text "/mine"))).view.attribute?
        (Reserved.mk .inclusion .requestUri).name = none ∧
      (Reserved.mk .inclusion .requestUri).name ∉
        (twiceIncluded.write (.set (Reserved.mk .inclusion .requestUri).name
          (.text "/mine"))).view.attributeNames := by
  decide +kernel

end Chain
end RequestDispatch
