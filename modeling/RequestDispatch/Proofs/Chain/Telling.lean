import RequestDispatch.Proofs.Chain.Shown

/-! What the reserved attributes tell.

An inclusion records the paths of its target, a new forward level the paths that the chain
showed before. If nobody else writes a reserved attribute, levels hold just that (`Tells`),
and what the innermost level holds shows. Where it holds nothing, a level around it may
speak for it, which can only happen to path info (`Recording.tells_push`). -/
namespace RequestDispatch

theorem Slots.telling_other {phase other : Reserved.Phase} (h : other ≠ phase) (o : Origin)
    (detail : Reserved.Detail) : telling phase o ⟨other, detail⟩ = none := if_neg h

/-- What is told is left out only where there is nothing to tell. -/
theorem Slots.telling_eq_none_iff (phase : Reserved.Phase) (o : Origin) (detail : Reserved.Detail) :
    telling phase o ⟨phase, detail⟩ = none ↔
      (detail = .pathInfo ∧ o.pathInfo = none) ∨ (detail = .queryString ∧ o.queryString = none) := by
  cases detail <;> simp [telling]

/-- A level holds what its dispatch recorded, over the request `r`. -/
def Layer.Tells (r : Request) : Layer → Prop
  | inclusion l => l.written = .telling .inclusion (l.replacement.origin r.view)
  | forward l => l.written = .empty ∨
    ∃ o : Origin, o.queryString = r.queryString ∧ l.written = .telling .forward o
  | decorator d => d = .plain

namespace Layer.Tells
variable {r : Request} {l : Level}

theorem of_forward (h : Tells r (.forward l)) (detail : Reserved.Detail) :
    l.written ⟨.inclusion, detail⟩ = none := by
  rcases h with h | ⟨o, -, h⟩
  · rw [h]
    rfl
  · rw [h]
    exact Slots.telling_other (by decide) o detail

theorem of_inclusion (h : Tells r (.inclusion l)) (detail : Reserved.Detail) :
    l.written ⟨.forward, detail⟩ = none := by
  rw [show l.written = _ from h]
  exact Slots.telling_other (by decide) _ detail

/-- Where the request has no query, no level tells of one. -/
theorem query {x : Layer} (h : x.Tells r) (hl : x.level? = some l) (hr : r.queryString = none)
    (phase : Reserved.Phase) : l.written ⟨phase, .queryString⟩ = none := by
  cases x with
  | decorator d => cases hl
  | inclusion l' =>
    cases hl
    cases phase with
    | forward => exact h.of_inclusion _
    | inclusion =>
      rw [show l.written = _ from h, Slots.telling_eq_none_iff]
      exact .inr ⟨rfl, hr⟩
  | forward l' =>
    cases hl
    cases phase with
    | inclusion => exact h.of_forward _
    | forward =>
      rcases h with h | ⟨o, ho, h⟩
      · rw [h]
        rfl
      · rw [h, Slots.telling_eq_none_iff]
        exact .inr ⟨rfl, ho.trans hr⟩

end Layer.Tells

namespace Chain

/-- A step that puts no decorator on the chain that changes something, and writes no reserved
attribute. -/
def Step.LeavesReserved : Step → Prop
  | write w => Reserved.ofName? w.name = none
  | decorate d => d = .plain
  | _ => True

/-- A chain over `r` on which every level holds what its dispatch recorded. -/
structure Recording (r : Request) (c : Chain Request) : Prop where
  faithful : c.Faithful
  bottom : c.bottom.frame = r.frame
  silent : ∀ key : Reserved, c.bottom.attribute? key.name = none
  tells : ∀ x ∈ c.layers, x.Tells r

namespace Recording
variable {r : Request} {c : Chain Request}

theorem base (hr : ∀ key : Reserved, r.attribute? key.name = none) : Recording r (.base r) :=
  ⟨.base r, rfl, hr, nofun⟩

theorem queryString (h : Recording r c) : c.view.queryString = r.queryString :=
  (read_bottom View.queryString (fun _ _ => rfl) (fun _ => rfl) h.faithful.plain).trans
    (Request.shows_of_frame View.queryString (fun _ => rfl) h.bottom)

theorem origin (h : Recording r c) (t : Target) : t.origin c.bottom.view = t.origin r.view :=
  Request.shows_of_frame t.origin (fun _ => rfl) h.bottom

theorem write (h : Recording r c) {w : Write} (hw : Reserved.ofName? w.name = none) :
    Recording r (c.write w) := by
  have hsame := SameReserved.write h.faithful.plain hw
  refine ⟨h.faithful.write w, hsame.bottom.trans h.bottom, fun key => ?_, ?_⟩
  · rw [hsame.reserved, h.silent]
  · rw [hsame.layers]
    exact h.tells

theorem of_bottom {c' : Chain Request} (h : Recording r c) (hb : c'.bottom = c.bottom)
    (hf : c'.Faithful) (ht : ∀ x ∈ c'.layers, x.Tells r) : Recording r c' := by
  refine ⟨hf, ?_, ?_, ht⟩ <;> rw [hb]
  · exact h.bottom
  · exact h.silent

theorem push (h : Recording r c) {x : Layer} {l : Level} (hx : x.level? = some l)
    (hl : l.Covers c.bottom) (ht : x.Tells r) : Recording r (c.push x) := by
  refine h.of_bottom (bottom_push c x) ((Faithful.push_iff hx).2 ⟨h.faithful, hl⟩) ?_
  rw [layers_push]
  exact List.forall_mem_append.2 ⟨h.tells, List.forall_mem_singleton.2 ht⟩

theorem replaceLast (h : Recording r c) (t : Target) : Recording r (c.replaceLast t) := by
  refine h.of_bottom (bottom_replaceLast t c) (h.faithful.replaceLast t) ?_
  have htells := h.tells
  rcases c.replaceLast_eq t with he | ⟨outer, l, rfl, he⟩
  · rwa [he]
  · rw [layers_push, List.forall_mem_append, List.forall_mem_singleton] at htells
    rw [he, layers_push, List.forall_mem_append, List.forall_mem_singleton]
    exact htells

theorem removeDeepest? (h : Recording r c) {kind : Layer → Bool} {c' : Chain Request}
    (hc : c.removeDeepest? kind = some c') : Recording r c' := by
  obtain ⟨hsub, hb⟩ := removeDeepest?_eq_some hc
  exact h.of_bottom hb (h.faithful.removeDeepest? hc) fun x hx => h.tells x (hsub.subset hx)

theorem step (h : Recording r c) {s : Step} (hs : s.LeavesReserved) : Recording r (c.step s).2 := by
  have hchange := change_step c s
  generalize (c.step s).2 = c' at hchange ⊢
  cases hchange with
  | write w => exact h.write hs
  | decorate d =>
    have hfaithful : (c.decorate d).Faithful := h.faithful.step (s := .decorate d) hs
    exact ⟨hfaithful, h.bottom, h.silent, List.forall_mem_cons.2 ⟨hs, h.tells⟩⟩
  | forward t recordOrigin =>
    refine h.push rfl ⟨rfl, fun _ => rfl⟩ ?_
    cases recordOrigin with
    | false => exact .inl rfl
    | true => exact .inr ⟨c.view.origin, h.queryString, rfl⟩
  | inclusion t =>
    refine h.push rfl ⟨rfl, fun _ => rfl⟩ ?_
    exact congrArg (Slots.telling .inclusion) (h.origin t)
  | readdress _ t => exact h.replaceLast t
  | removal _ hc => exact h.removeDeepest? hc
  | nothing => exact h

theorem of_leadsTo (hr : ∀ key : Reserved, r.attribute? key.name = none)
    (h : LeadsTo Step.LeavesReserved (.base r) c) : Recording r c :=
  h.invariant (fun h hs => h.step hs) (.base hr)

/-- What a new level holds shows. If it holds nothing, what levels around it hold may show. -/
theorem attribute?_push {x : Layer} {l : Level} (hx : x.level? = some l) (h : Recording r (c.push x))
    (key : Reserved) :
    (c.push x).view.attribute? key.name = l.written key ↔
      (l.written key = none → ∀ l' ∈ c.levels, l'.written key = none) := by
  rw [h.faithful.attribute?, h.silent, levels_push hx, List.map_append, List.map_singleton,
    deepest_concat_eq_iff, List.forall_mem_map]

/-- A new level tells of everything, unless it has no path info to tell of and a level around it
has. -/
theorem tells_push {phase : Reserved.Phase} {o : Origin} {x : Layer} {l : Level}
    (hx : x.level? = some l) (hl : l.written = .telling phase o) (ho : o.queryString = r.queryString)
    (h : Recording r (c.push x)) (detail : Reserved.Detail) :
    (c.push x).view.attribute? (Reserved.mk phase detail).name =
        Slots.telling phase o ⟨phase, detail⟩ ↔
      (detail = .pathInfo → o.pathInfo = none →
        ∀ l' ∈ c.levels, l'.written ⟨phase, .pathInfo⟩ = none) := by
  have hshows := h.attribute?_push hx ⟨phase, detail⟩
  rw [hl, Slots.telling_eq_none_iff] at hshows
  rw [hshows]
  constructor
  · rintro hnone rfl hpath
    exact hnone (.inl ⟨rfl, hpath⟩)
  · rintro hnone (⟨rfl, hpath⟩ | ⟨rfl, hquery⟩)
    · exact hnone rfl hpath
    · intro l' hl'
      obtain ⟨x', hx', hlevel⟩ := List.mem_filterMap.1 hl'
      have htells : x'.Tells r := h.tells x' (by simp [hx'])
      exact htells.query hlevel (ho ▸ hquery) phase

end Recording

/-- **What the reserved attributes tell.** On a chain built over a request without reserved
attributes, where nobody else writes one, they tell of the dispatch that comes last, unless
it has no path info to tell of and a dispatch around it has. -/
theorem tells_current_level {r : Request} (hr : ∀ key : Reserved, r.attribute? key.name = none)
    {c : Chain Request} (hc : LeadsTo Step.LeavesReserved (.base r) c) (t : Target)
    (detail : Reserved.Detail) :
    ((c.includeTarget t).view.attribute? (Reserved.mk .inclusion detail).name =
        Slots.telling .inclusion (t.origin r.view) ⟨.inclusion, detail⟩ ↔
      (detail = .pathInfo → t.pathInfo = none →
        ∀ l, .inclusion l ∈ c.layers → l.replacement.pathInfo = none)) ∧
    ((c.forward t true).1 = .created →
      ((c.forward t true).2.view.attribute? (Reserved.mk .forward detail).name =
          Slots.telling .forward c.view.origin ⟨.forward, detail⟩ ↔
        (detail = .pathInfo → c.view.pathInfo = none →
          ∀ l, .forward l ∈ c.layers → l.written ⟨.forward, .pathInfo⟩ = none))) := by
  have h := Recording.of_leadsTo hr hc
  constructor
  · have hpushed : Recording r (c.includeTarget t) := h.step (s := .includeTarget t) trivial
    rw [includeTarget_eq, h.origin] at hpushed ⊢
    rw [hpushed.tells_push rfl rfl rfl]
    refine imp_congr_right fun _ => imp_congr_right fun _ => ?_
    have hpath : ∀ l, .inclusion l ∈ c.layers →
        (l.written ⟨.inclusion, .pathInfo⟩ = none ↔ l.replacement.pathInfo = none) := by
      intro l hl
      rw [show l.written = _ from h.tells _ hl, Slots.telling_eq_none_iff]
      simp [Target.origin]
    constructor
    · exact fun hnone l hl => (hpath l hl).1 (hnone l (mem_levels_iff.2 (.inr hl)))
    · intro hnone l hl
      rcases mem_levels_iff.1 hl with hl | hl
      · exact (h.tells _ hl).of_forward _
      · exact (hpath l hl).2 (hnone l hl)
  · intro hcreated
    have hpushed : Recording r (c.forward t true).2 := h.step (s := .forward t true) trivial
    rw [forward_of_created hcreated] at hpushed ⊢
    rw [hpushed.tells_push rfl rfl h.queryString]
    refine imp_congr_right fun _ => imp_congr_right fun _ => ?_
    constructor
    · exact fun hnone l hl => hnone l (mem_levels_iff.2 (.inl hl))
    · intro hnone l hl
      rcases mem_levels_iff.1 hl with hl | hl
      · exact hnone l hl
      · exact (h.tells _ hl).of_inclusion _

/-- A chain with an inclusion that has path info. -/
def insideInclusion : Chain Request :=
  (Chain.base (.get "/page")).includeTarget ⟨"/a/x", "/a", some "/x"⟩

theorem leadsTo_insideInclusion :
    LeadsTo Step.LeavesReserved (.base (Request.get "/page")) insideInclusion :=
  .step (.base (Request.get "/page")) (s := .includeTarget ⟨"/a/x", "/a", some "/x"⟩) trivial

theorem get_no_reserved (target : String) (key : Reserved) :
    (Request.get target).attribute? key.name = none := by
  unfold Request.get Request.received
  split
  rfl

/-- Path info and servlet paths that are there are told. -/
theorem insideInclusion_tells :
    (insideInclusion.includeTarget ⟨"/b/y", "/b", some "/y"⟩).view.attribute?
        (Reserved.mk .inclusion .pathInfo).name = some (.text "/y") ∧
      (insideInclusion.forward ⟨"/c", "/c", none⟩ true).2.view.attribute?
        (Reserved.mk .forward .servletPath).name = some (.text "/a") := by
  have htells := tells_current_level (get_no_reserved "/page") leadsTo_insideInclusion
  constructor
  · exact (htells ⟨"/b/y", "/b", some "/y"⟩ .pathInfo).1.2 nofun
  · exact ((htells ⟨"/c", "/c", none⟩ .servletPath).2 rfl).2 nofun

/-- An inclusion without path info tells of that of the inclusion around it. -/
theorem inclusion_tells_outer :
    (insideInclusion.includeTarget ⟨"/b", "/b", none⟩).view.attribute?
      (Reserved.mk .inclusion .pathInfo).name = some (.text "/x") := by
  decide +kernel

end Chain
end RequestDispatch
