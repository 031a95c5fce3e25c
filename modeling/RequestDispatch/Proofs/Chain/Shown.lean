import RequestDispatch.Proofs.Chain.Ordinary

/-! What levels show.

Every level compares what is beneath it with what the request answered when the level was
made. On a chain that was built by dispatch the request answers that still (`Faithful`),
whatever has been written since: no write of a reserved attribute gets to a request beneath
a level (`Faithful.bottom_write`). So of each thing that levels replace (`Facet`) the innermost
replacement shows that is not the request's own answer, and the request's own answer if
there is none (`Facet.read_view`). For all that dispatch replaces this is one rule
(`Chain.shows_innermost`). -/
namespace RequestDispatch

/-- The innermost of some values that is not `own`, if there is one. -/
def deepest {α : Type} [DecidableEq α] (own : α) (values : List α) : α :=
  values.foldr (fun value beneath => Level.shown beneath own value) own

section Deepest
variable {α : Type} [DecidableEq α] {own : α}

theorem deepest_cons (value : α) (beneath : List α) :
    deepest own (value :: beneath) =
      if deepest own beneath = own then value else deepest own beneath := rfl

theorem deepest_singleton (value : α) : deepest own [value] = value := if_pos rfl

/-- The innermost value counts first. -/
theorem deepest_concat (values : List α) (t : α) :
    deepest own (values ++ [t]) = if t = own then deepest own values else t := by
  induction values with
  | nil =>
    rw [List.nil_append, deepest_cons]
    by_cases h : t = own <;> simp [deepest, h]
  | cons value rest ih =>
    rw [List.cons_append, deepest_cons, ih]
    by_cases h : t = own
    · simp only [if_pos h, deepest_cons]
    · simp only [if_neg h]

theorem deepest_eq_own_iff {values : List α} : deepest own values = own ↔ ∀ v ∈ values, v = own := by
  induction values with
  | nil => simp [deepest]
  | cons value rest ih =>
    rw [deepest_cons, List.forall_mem_cons, ← ih]
    by_cases h : deepest own rest = own <;> simp [h]

/-- A value is hidden at the inner end only by values further out that stand for more. -/
theorem deepest_concat_eq_iff {values : List α} {t : α} :
    deepest own (values ++ [t]) = t ↔ (t = own → ∀ v ∈ values, v = own) := by
  rw [deepest_concat]
  by_cases h : t = own
  · simp [h, deepest_eq_own_iff]
  · simp [h]

/-- A part of the innermost level that has it other than `own`, or `own` if none has. -/
def innermost (own : α) (part : Level → α) (levels : List Level) : α :=
  (levels.reverse.find? (part · ≠ own)).elim own part

theorem innermost_cons (part : Level → α) (l : Level) (levels : List Level) :
    innermost own part (l :: levels) =
      if innermost own part levels = own then part l else innermost own part levels := by
  unfold innermost
  rw [List.reverse_cons, List.find?_append]
  cases hfind : levels.reverse.find? (part · ≠ own) with
  | none => by_cases hl : part l = own <;> simp [hl]
  | some l' =>
    have hl' : part l' ≠ own := by simpa using List.find?_some hfind
    simp [hl']

/-- Giving way level by level comes down to one search from the inside. -/
theorem deepest_eq_innermost (part : Level → α) (levels : List Level) :
    deepest own (levels.map part) = innermost own part levels := by
  induction levels with
  | nil => rfl
  | cons l rest ih => rw [List.map_cons, deepest_cons, innermost_cons, ih]

end Deepest

/-- Something that a request answers and that levels replace. -/
structure Facet (α : Type) [DecidableEq α] where
  read : View → α
  /-- What a level goes by when it decides whether to give way. -/
  covered : Level → α
  replacement : Level → α
  read_level : ∀ l inner, read (l.view inner) = Level.shown (read inner) (covered l) (replacement l)
  read_plain : ∀ inner, read (Decorator.plain.view inner) = read inner

/-- A path that every level replaces by itself. -/
def IsPath {α : Type} [DecidableEq α] (part : Target → α) : Prop :=
  ∀ (l : Level) inner, part (l.view inner).target =
    Level.shown (part inner.target) (part l.covered) (part l.replacement)

theorem isPath_requestUri : IsPath Target.requestUri := fun _ _ => rfl

theorem isPath_servletPath : IsPath Target.servletPath := fun _ _ => rfl

theorem isPath_pathInfo : IsPath Target.pathInfo := fun _ _ => rfl

namespace Facet
variable {α : Type} [DecidableEq α]

def path {part : Target → α} (h : IsPath part) : Facet α where
  read v := part v.target
  covered l := part l.covered
  replacement l := part l.replacement
  read_level := h
  read_plain _ := rfl

def reserved (key : Reserved) : Facet (Option Value) where
  read v := v.attribute? key.name
  covered l := l.snapshot key
  replacement l := l.written key
  read_level l inner := by
    simp only [Level.view, Level.attribute?, Reserved.ofName?_name, Level.reserved?]
  read_plain _ := rfl

theorem read_view (f : Facet α) {c : Chain Request} (hc : c.Plain)
    (h : ∀ l ∈ c.levels, f.covered l = f.read c.bottom.view) :
    f.read c.view = deepest (f.read c.bottom.view) (c.levels.map f.replacement) := by
  induction c with
  | base request => rfl
  | layer outer inner ih =>
    cases outer with
    | forward l | inclusion l =>
      have hinner := ih hc.inner fun l' hl' => h l' (List.mem_cons_of_mem l hl')
      have hl : f.covered l = f.read inner.bottom.view := h l List.mem_cons_self
      show f.read (l.view inner.view) = _
      rw [f.read_level, hinner, hl]
      rfl
    | decorator d =>
      rw [hc _ List.mem_cons_self d rfl]
      exact (f.read_plain inner.view).trans (ih hc.inner h)

end Facet

/-- The level goes by what the request answers. -/
def Level.Covers (l : Level) (request : Request) : Prop :=
  l.covered = request.view.target ∧ ∀ key : Reserved, l.snapshot key = request.attribute? key.name

namespace Chain

/-- What no layer replaces is read from the request. -/
theorem read_bottom {α : Type} (read : View → α) (hlevel : ∀ (l : Level) v, read (l.view v) = read v)
    (hplain : ∀ v, read (Decorator.plain.view v) = read v) {c : Chain Request} (hc : c.Plain) :
    read c.view = read c.bottom.view := by
  induction c with
  | base request => rfl
  | layer outer inner ih =>
    refine Eq.trans ?_ (ih hc.inner)
    cases outer with
    | forward l | inclusion l => exact hlevel l _
    | decorator d =>
      rw [hc _ List.mem_cons_self d rfl]
      exact hplain _

/-- A level keeps what is written to a reserved attribute. What is beneath loses the attribute
if it is not what it was. -/
theorem write_layer {x : Layer} {l : Level} (hx : x.level? = some l) {inner : Chain Request}
    {w : Write} {key : Reserved} (hw : Reserved.ofName? w.name = some key) :
    (layer x inner).write w =
      layer (x.mapWritten (·.put key w.outcome?))
        (if inner.view.attribute? key.name = l.snapshot key then inner
          else inner.write (.remove key.name)) := by
  have hname : w.name = key.name := (Reserved.name_of_ofName? hw).symm
  cases x with
  | decorator d => cases hx
  | forward l' | inclusion l' =>
    cases hx
    simp only [write, Layer.pass, Level.pass_reserved hw, hname]
    by_cases h : inner.view.attribute? key.name = l.snapshot key <;>
      simp [Level.isOverridden, h, Layer.mapWritten, Level.mapWritten]

/-- The decorators are plain, and every level covers what the request answers. -/
structure Faithful (c : Chain Request) : Prop where
  plain : c.Plain
  covers : ∀ l ∈ c.levels, l.Covers c.bottom

namespace Faithful

theorem base (request : Request) : Faithful (.base request) := ⟨nofun, nofun⟩

theorem path {α : Type} [DecidableEq α] {part : Target → α} (hpart : IsPath part) {c : Chain Request}
    (h : c.Faithful) : part c.view.target =
      deepest (part c.bottom.view.target) (c.levels.map fun l => part l.replacement) :=
  (Facet.path hpart).read_view h.plain fun l hl => congrArg part (h.covers l hl).1

theorem attribute? {c : Chain Request} (h : c.Faithful) (key : Reserved) :
    c.view.attribute? key.name = deepest (c.bottom.attribute? key.name) (c.levels.map (·.written key)) :=
  (Facet.reserved key).read_view h.plain fun l hl => (h.covers l hl).2 key

theorem inner {outer : Layer} {inner : Chain Request} (h : (layer outer inner).Faithful) :
    inner.Faithful where
  plain := h.plain.inner
  covers l hl := by
    refine h.covers l (mem_levels_iff.2 ?_)
    rcases mem_levels_iff.1 hl with hl | hl
    · exact .inl (List.mem_cons_of_mem outer hl)
    · exact .inr (List.mem_cons_of_mem outer hl)

/-- Frames and what the requests hold for reserved attributes are all that matters. -/
theorem of_frame {c d : Chain Request} (h : c.frame = d.frame)
    (hkeys : c.levels ≠ [] →
      ∀ key : Reserved, c.bottom.attribute? key.name = d.bottom.attribute? key.name)
    (hd : d.Faithful) : c.Faithful where
  plain := plain_of_frame h hd.plain
  covers l hl := by
    have hmem : l.mapWritten (fun _ => .empty) ∈ d.levels.map (·.mapWritten fun _ => .empty) := by
      rw [← levels_of_frame h]
      exact List.mem_map_of_mem hl
    obtain ⟨l', hl', he⟩ := List.mem_map.1 hmem
    obtain ⟨hcovered, hsnapshot⟩ := hd.covers l' hl'
    simp only [Level.mapWritten, Level.mk.injEq] at he
    have htarget := Request.shows_of_frame View.target (fun _ => rfl) (bottom_of_frame h)
    refine ⟨by rw [← he.2.2.1, hcovered, htarget], fun key => ?_⟩
    rw [← he.1, hsnapshot, hkeys (List.ne_nil_of_mem hl)]

/-- With a level around it, the request gets no reserved write. -/
theorem bottom_write {c : Chain Request} (h : c.Faithful) (hl : c.levels ≠ []) {w : Write}
    {key : Reserved} (hw : Reserved.ofName? w.name = some key) : (c.write w).bottom = c.bottom := by
  induction c generalizing w with
  | base request => exact absurd rfl hl
  | layer outer inner ih =>
    have hinner := ih h.inner
    cases outer with
    | forward l | inclusion l =>
      rw [write_layer rfl hw]
      split
      · rfl
      next hne =>
        -- Without a level beneath, what is beneath is what the level covers.
        refine hinner (fun hnil => hne ?_) (Reserved.ofName?_name key)
        rw [h.inner.attribute?, hnil]
        exact ((h.covers l List.mem_cons_self).2 key).symm
    | decorator d =>
      rw [h.plain _ List.mem_cons_self d rfl]
      exact hinner hl hw

/-- With a level around it, the request holds on to its reserved attributes. -/
theorem reserved_write {c : Chain Request} (h : c.Faithful) (hl : c.levels ≠ []) (w : Write)
    (key : Reserved) :
    (c.write w).bottom.attribute? key.name = c.bottom.attribute? key.name := by
  cases hw : Reserved.ofName? w.name with
  | none => exact (SameReserved.write h.plain hw).reserved key
  | some _ => rw [bottom_write h hl hw]

theorem write {c : Chain Request} (h : c.Faithful) (w : Write) : (c.write w).Faithful :=
  of_frame (frame_write c w)
    (fun hl => h.reserved_write (mt (levels_eq_nil_iff_of_frame (frame_write c w)).2 hl) w) h

end Faithful

/-- A step that puts no decorator on the chain, or one that changes nothing. -/
def Step.IsPlain : Step → Prop
  | decorate d => d = .plain
  | _ => True

namespace Faithful
variable {c : Chain Request}

theorem push_iff {x : Layer} {l : Level} (hx : x.level? = some l) :
    (c.push x).Faithful ↔ c.Faithful ∧ l.Covers c.bottom := by
  have hlevels : (∀ l' ∈ (c.push x).levels, l'.Covers (c.push x).bottom) ↔
      (∀ l' ∈ c.levels, l'.Covers c.bottom) ∧ l.Covers c.bottom := by
    rw [levels_push hx, bottom_push, List.forall_mem_append, List.forall_mem_singleton]
  constructor
  · intro h
    obtain ⟨hc, hl⟩ := hlevels.1 h.covers
    exact ⟨⟨(plain_push.1 h.plain).1, hc⟩, hl⟩
  · rintro ⟨h, hl⟩
    exact ⟨plain_push.2 ⟨h.plain, Layer.isPlain_of_level? hx⟩, hlevels.2 ⟨h.covers, hl⟩⟩

theorem replaceLast (h : c.Faithful) (t : Target) : (c.replaceLast t).Faithful := by
  rcases c.replaceLast_eq t with he | ⟨outer, l, rfl, he⟩
  · rwa [he]
  · obtain ⟨houter, hcovers⟩ := (push_iff rfl).1 h
    rw [he]
    exact (push_iff (l := { l with replacement := t }) rfl).2 ⟨houter, hcovers⟩

theorem removeDeepest? (h : c.Faithful) {kind : Layer → Bool} {c' : Chain Request}
    (hc : c.removeDeepest? kind = some c') : c'.Faithful where
  plain x hx := h.plain x ((removeDeepest?_eq_some hc).1.subset hx)
  covers l hl := by
    obtain ⟨hsub, hb⟩ := removeDeepest?_eq_some hc
    rw [hb]
    exact h.covers l ((hsub.filterMap Layer.level?).subset hl)

theorem step (h : c.Faithful) {s : Step} (hs : s.IsPlain) : (c.step s).2.Faithful := by
  have hchange := change_step c s
  generalize (c.step s).2 = c' at hchange ⊢
  cases hchange with
  | write w => exact h.write w
  | decorate d =>
    have hd : (Layer.decorator d).IsPlain := fun _ he => by cases he; exact hs
    exact ⟨List.forall_mem_cons.2 ⟨hd, h.plain⟩, h.covers⟩
  | forward | inclusion => exact (push_iff rfl).2 ⟨h, rfl, fun _ => rfl⟩
  | readdress _ t => exact h.replaceLast t
  | removal _ hc => exact h.removeDeepest? hc
  | nothing => exact h

theorem leadsTo {c' : Chain Request} (h : c.Faithful) (hc : LeadsTo Step.IsPlain c c') : c'.Faithful :=
  hc.invariant (fun h hs => h.step hs) h

end Faithful

/-- The write that a step is, if it is one. -/
def Step.write? : Step → Option Write
  | write w => some w
  | _ => none

theorem Step.write?_eq_some_iff {s : Step} {w : Write} : s.write? = some w ↔ s = .write w := by
  cases s <;> simp [write?]

/-- Only writes get to the request. -/
theorem bottom_step_eq (c : Chain Request) {s : Step} (hs : s.write? = none) :
    (c.step s).2.bottom = c.bottom := by
  have hchange := change_step c s
  generalize (c.step s).2 = c' at hchange ⊢
  cases hchange with
  | write w => cases hs
  | decorate | nothing => rfl
  | forward | inclusion => exact bottom_push ..
  | readdress _ t => exact bottom_replaceLast t c
  | removal _ hc => exact (removeDeepest?_eq_some hc).2

theorem bottom_step (c : Chain Request) (s : Step) : (c.step s).2.bottom.frame = c.bottom.frame := by
  cases hs : s.write? with
  | none => rw [bottom_step_eq c hs]
  | some w =>
    rw [Step.write?_eq_some_iff.1 hs]
    exact bottom_of_frame (frame_write c w)

theorem LeadsTo.bottom {ok : Step → Prop} {c c' : Chain Request} (h : LeadsTo ok c c') :
    c'.bottom.frame = c.bottom.frame :=
  h.invariant (I := fun c' => c'.bottom.frame = c.bottom.frame)
    (fun hc _ => (bottom_step _ _).trans hc) rfl

/-- **What a chain shows**: of each path and each reserved attribute what the innermost level has
in place of what the request answers, if it is something else, and what the request answers if no
level has something else. -/
theorem shows_innermost {r : Request} {c : Chain Request} (hc : LeadsTo Step.IsPlain (.base r) c) :
    c.view.requestUri = innermost c.bottom.requestUri (·.replacement.requestUri) c.levels ∧
    c.view.servletPath = innermost c.bottom.servletPath (·.replacement.servletPath) c.levels ∧
    c.view.pathInfo = innermost c.bottom.pathInfo (·.replacement.pathInfo) c.levels ∧
    ∀ key : Reserved, c.view.attribute? key.name =
      innermost (c.bottom.attribute? key.name) (·.written key) c.levels := by
  have h : c.Faithful := (Faithful.base r).leadsTo hc
  have hpath : ∀ {α : Type} [DecidableEq α] {part : Target → α}, IsPath part →
      part c.view.target =
        innermost (part c.bottom.view.target) (fun l => part l.replacement) c.levels :=
    fun hpart => (h.path hpart).trans (deepest_eq_innermost ..)
  refine ⟨hpath isPath_requestUri, hpath isPath_servletPath, hpath isPath_pathInfo, fun key => ?_⟩
  rw [h.attribute? key, deepest_eq_innermost]

/-- Two inclusions, the inner one without path info, in which the servlet path is written. -/
def inclusionSteps : List Step :=
  [.includeTarget ⟨"/a/x", "/a", some "/x"⟩, .includeTarget ⟨"/b", "/b", none⟩,
    .write (.set (Reserved.mk .inclusion .servletPath).name (.text "/mine"))]

/-- The inner inclusion has no path info, which is no more than the request has, so that of the
outer one shows. -/
theorem inclusionSteps_show :
    ((Chain.base (Request.get "/page")).run inclusionSteps).view.requestUri = "/b" ∧
    ((Chain.base (Request.get "/page")).run inclusionSteps).view.pathInfo = some "/x" ∧
    ((Chain.base (Request.get "/page")).run inclusionSteps).view.attribute?
      (Reserved.mk .inclusion .servletPath).name = some (.text "/mine") := by
  have hplain : ∀ s ∈ inclusionSteps, s.IsPlain := by simp [inclusionSteps, Step.IsPlain]
  obtain ⟨huri, -, hinfo, hattr⟩ :=
    shows_innermost (r := Request.get "/page") ⟨inclusionSteps, hplain, rfl⟩
  rw [huri, hinfo, hattr]
  decide +kernel

end Chain
end RequestDispatch
