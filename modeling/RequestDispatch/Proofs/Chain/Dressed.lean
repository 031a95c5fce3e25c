import RequestDispatch.Proofs.Chain.Ordinary

/-! Decorators on chains, seen from dispatch.

Decorators are put around a chain, dispatch works at its inner end, so neither takes notice of
the other: what is undone beneath decorators is undone as if they were not there (`Dressed.undo`).
What dispatch layers a chain has, for which targets, is its `marks`; no write and no decorator
changes them. -/
namespace RequestDispatch

/-- What a dispatch layer is there for: its kind and the paths it shows. -/
def Layer.mark? : Layer → Option (Layer.Kind × Target)
  | forward l => some (.forward, l.replacement)
  | inclusion l => some (.inclusion, l.replacement)
  | decorator _ => none

theorem Layer.mark?_mapWritten (f : Slots → Slots) (x : Layer) : (x.mapWritten f).mark? = x.mark? := by
  cases x <;> rfl

theorem Layer.mark?_eq_none_iff {x : Layer} : x.mark? = none ↔ x.level? = none := by
  cases x <;> simp [mark?, level?]

namespace Chain

/-- The dispatch layers, outermost first. -/
def marks {β : Type} (c : Chain β) : List (Layer.Kind × Target) := c.layers.filterMap Layer.mark?

section Marks
variable {β : Type} (c : Chain β)

theorem marks_push {x : Layer} {m : Layer.Kind × Target} (hx : x.mark? = some m) :
    (c.push x).marks = c.marks ++ [m] := by
  simp [marks, hx]

theorem marks_mapHeld (f : Slots → Slots) (g : β → β) : (c.mapHeld f g).marks = c.marks := by
  unfold marks
  rw [layers_mapHeld, List.filterMap_map]
  congr 1
  funext x
  exact x.mark?_mapWritten f

theorem marks_eq_nil_iff {c : Chain β} : c.marks = [] ↔ c.levels = [] := by
  unfold marks levels
  simp only [List.filterMap_eq_nil_iff, Layer.mark?_eq_none_iff]

theorem marks_frame (c : Chain Request) : c.frame.marks = c.marks := marks_mapHeld c _ _

end Marks

/-! ### Decorators around a chain -/

/-- The chain with decorators around it, the first of them outermost. -/
def decorateAll {β : Type} (c : Chain β) (ds : List Decorator) : Chain β :=
  ds.foldr (fun d c => c.decorate d) c

section DecorateAll
variable {β : Type} (c : Chain β) (ds : List Decorator)

theorem marks_decorateAll : (c.decorateAll ds).marks = c.marks := by
  induction ds with
  | nil => rfl
  | cons d rest ih => exact ih

theorem lastForward?_decorateAll : (c.decorateAll ds).lastForward? = c.lastForward? := by
  induction ds with
  | nil => rfl
  | cons d rest ih =>
    rw [← ih]
    show (layer (.decorator d) (c.decorateAll rest)).lastForward? = _
    cases c.decorateAll rest <;> rfl

theorem replaceLast_decorateAll (t : Target) :
    (c.decorateAll ds).replaceLast t = (c.replaceLast t).decorateAll ds := by
  induction ds with
  | nil => rfl
  | cons d rest ih =>
    show (layer (.decorator d) (c.decorateAll rest)).replaceLast t =
      layer (.decorator d) ((c.replaceLast t).decorateAll rest)
    rw [← ih]
    cases c.decorateAll rest <;> rfl

theorem removeDeepest?_decorateAll {kind : Layer → Bool} (hk : ∀ d, kind (.decorator d) = false) :
    (c.decorateAll ds).removeDeepest? kind = (c.removeDeepest? kind).map (·.decorateAll ds) := by
  induction ds with
  | nil => simp [decorateAll]
  | cons d rest ih =>
    show (layer (.decorator d) (c.decorateAll rest)).removeDeepest? kind = _
    rw [removeDeepest?_layer, ih, hk]
    cases c.removeDeepest? kind <;> rfl

theorem unforward?_decorateAll (outcome : ForwardOutcome) :
    (c.decorateAll ds).unforward? outcome = (c.unforward? outcome).map (·.decorateAll ds) := by
  cases outcome with
  | created => exact removeDeepest?_decorateAll c ds fun _ => rfl
  | reused previous =>
    simp only [unforward?, lastForward?_decorateAll, replaceLast_decorateAll]
    cases c.lastForward? <;> rfl

theorem uninclude?_decorateAll (uri : String) :
    (c.decorateAll ds).uninclude? uri = (c.uninclude? uri).map (·.decorateAll ds) :=
  removeDeepest?_decorateAll c ds fun _ => rfl

end DecorateAll

/-- The chain `c'` is `c` but for what is held in it and for decorators around it. -/
def Dressed (c c' : Chain Request) : Prop := ∃ ds, c'.frame = c.frame.decorateAll ds

namespace Dressed
variable {c c' c'' d : Chain Request}

theorem refl (c : Chain Request) : Dressed c c := ⟨[], rfl⟩

theorem trans (h : Dressed c c') (h' : Dressed c' c'') : Dressed c c'' := by
  obtain ⟨ds, h⟩ := h
  obtain ⟨ds', h'⟩ := h'
  refine ⟨ds' ++ ds, ?_⟩
  rw [h', h]
  exact List.foldr_append.symm

theorem write (c : Chain Request) (w : Write) : Dressed c (c.write w) := ⟨[], frame_write c w⟩

theorem decorate (c : Chain Request) (d : Decorator) : Dressed c (c.decorate d) := ⟨[d], rfl⟩

theorem marks (h : Dressed c c') : c'.marks = c.marks := by
  obtain ⟨ds, h⟩ := h
  rw [← marks_frame c', h, marks_decorateAll, marks_frame]

theorem isSome_lastForward? (h : Dressed c c') :
    c'.lastForward?.isSome = c.lastForward?.isSome := by
  obtain ⟨ds, h⟩ := h
  have hframe : ∀ c : Chain Request, c.frame.lastForward?.isSome = c.lastForward?.isSome := by
    intro c
    rw [frame, lastForward?_mapHeld, Option.isSome_map]
  rw [← hframe c', h, lastForward?_decorateAll, hframe]

/-- What goes by frames and works beneath decorators does the same on both chains. -/
theorem undo {f : Chain Request → Option (Chain Request)}
    (hframe : ∀ c, f c.frame = (f c).map frame)
    (hdecorated : ∀ c ds, f (c.decorateAll ds) = (f c).map (·.decorateAll ds))
    (h : Dressed c c') (hd : f c = some d) : ∃ d', f c' = some d' ∧ Dressed d d' := by
  obtain ⟨ds, h⟩ := h
  have hundone : (f c').map frame = some (d.frame.decorateAll ds) :=
    calc (f c').map frame
      _ = f (c.frame.decorateAll ds) := by rw [← hframe, h]
      _ = ((f c).map frame).map (·.decorateAll ds) := by rw [hdecorated, hframe]
      _ = some (d.frame.decorateAll ds) := by rw [hd]; rfl
  obtain ⟨d', hd', hframe'⟩ := Option.map_eq_some_iff.1 hundone
  exact ⟨d', hd', ds, hframe'⟩

theorem unforward? (h : Dressed c c') {outcome : ForwardOutcome} (hd : c.unforward? outcome = some d) :
    ∃ d', c'.unforward? outcome = some d' ∧ Dressed d d' :=
  h.undo (f := (·.unforward? outcome)) (unforward?_mapHeld _ _ · outcome)
    (unforward?_decorateAll · · outcome) hd

theorem uninclude? (h : Dressed c c') {uri : String} (hd : c.uninclude? uri = some d) :
    ∃ d', c'.uninclude? uri = some d' ∧ Dressed d d' :=
  h.undo (f := (·.uninclude? uri)) (uninclude?_mapHeld _ _ · uri) (uninclude?_decorateAll · · uri) hd

end Dressed
end Chain
end RequestDispatch
