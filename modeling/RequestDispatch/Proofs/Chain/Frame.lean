import RequestDispatch.Proofs.Chain.Recorded

/-! Frames.

A write ends in the values that a level holds or in the attributes of the request. The
frame of a chain is what is left of it without these: its layers with what they covered
when they were made and what they show in place of it, over the bare request. No write
changes the frame (`frame_write`), dispatches are undone by the frame alone
(`frame_unforward?`, `frame_uninclude?`), and with plain decorators all that a chain shows,
except attributes, is shown by its frame (`frame_view`). -/
namespace RequestDispatch

def Level.mapWritten (f : Slots → Slots) (l : Level) : Level := { l with written := f l.written }

def Layer.mapWritten (f : Slots → Slots) : Layer → Layer
  | forward l => forward (l.mapWritten f)
  | inclusion l => inclusion (l.mapWritten f)
  | decorator d => decorator d

/-- The layer without what was written through it. -/
def Layer.frame : Layer → Layer := mapWritten fun _ => .empty

/-- The request without its attributes. -/
def Request.frame (r : Request) : Request := { r with attributes := .empty }

/-- What is shown except attributes. -/
def View.frame (v : View) : View := { v with attribute? := fun _ => none, listNames := fun _ => [] }

/-- Requests with one frame answer alike, except for attributes. -/
theorem Request.shows_of_frame {α : Type} (read : View → α) (hread : ∀ v, read v.frame = read v)
    {r r' : Request} (h : r.frame = r'.frame) : read r.view = read r'.view := by
  rw [← hread r.view, ← hread r'.view]
  show read r.frame.view.frame = read r'.frame.view.frame
  rw [h]

@[simp] theorem Layer.mapWritten_id (x : Layer) : x.mapWritten id = x := by
  cases x <;> rfl

@[simp] theorem Layer.kind_mapWritten (f : Slots → Slots) (x : Layer) :
    (x.mapWritten f).kind = x.kind := by
  cases x <;> rfl

@[simp] theorem Layer.includes_mapWritten (f : Slots → Slots) (uri : String) (x : Layer) :
    (x.mapWritten f).includes uri = x.includes uri := by
  cases x <;> rfl

@[simp] theorem Layer.forward?_mapWritten (f : Slots → Slots) (x : Layer) :
    (x.mapWritten f).forward? = x.forward?.map (·.mapWritten f) := by
  cases x <;> rfl

theorem Layer.level?_mapWritten (f : Slots → Slots) (x : Layer) :
    (x.mapWritten f).level? = x.level?.map (·.mapWritten f) := by
  cases x <;> rfl

theorem Layer.isSome_level?_of_frame {x y : Layer} (h : x.frame = y.frame) :
    x.level?.isSome = y.level?.isSome := by
  simpa [Layer.frame, Layer.level?_mapWritten] using congrArg (·.level?.isSome) h

theorem Layer.kind_of_frame {x y : Layer} (h : x.frame = y.frame) : x.kind = y.kind := by
  simpa [Layer.frame] using congrArg kind h

theorem Layer.includes_of_frame {x y : Layer} (h : x.frame = y.frame) (uri : String) :
    x.includes uri = y.includes uri := by
  simpa [Layer.frame] using congrArg (includes uri) h

theorem Layer.readdress_mapWritten (f : Slots → Slots) (t : Target) (x : Layer) :
    (x.mapWritten f).readdress t = (x.readdress t).mapWritten f := by
  cases x <;> rfl

theorem Layer.frame_pass (x : Layer) (inner : View) (w : Write) :
    (x.pass inner w).1.frame = x.frame := by
  cases x with
  | forward l | inclusion l =>
    cases h : Reserved.ofName? w.name with
    | none => simp only [Layer.pass, Level.pass_ordinary h]
    | some key =>
      simp only [Layer.pass, Level.pass_reserved h]
      rfl
  | decorator d => rfl

theorem Layer.frame_view {x : Layer} (hx : x.IsPlain) {v v' : View} (h : v.frame = v'.frame) :
    (x.frame.view v).frame = (x.view v').frame := by
  cases v
  cases v'
  simp only [View.frame, View.mk.injEq] at h
  obtain ⟨-, -, rfl, rfl, rfl, rfl, rfl, rfl, rfl, rfl, rfl, rfl⟩ := h
  cases x with
  | forward l | inclusion l => rfl
  | decorator d =>
    rw [hx d rfl]
    rfl

namespace Chain
variable {β : Type}

/-- The chain with other values held: in the levels by `f`, in the request by `g`. -/
def mapHeld (f : Slots → Slots) (g : β → β) : Chain β → Chain β
  | base request => base (g request)
  | layer outer inner => layer (outer.mapWritten f) (inner.mapHeld f g)

def frame (c : Chain Request) : Chain Request := c.mapHeld (fun _ => .empty) Request.frame

variable (f : Slots → Slots) (g : β → β)

@[simp] theorem layers_mapHeld (c : Chain β) :
    (c.mapHeld f g).layers = c.layers.map (·.mapWritten f) := by
  induction c with
  | base request => rfl
  | layer outer inner ih => exact congrArg (outer.mapWritten f :: ·) ih

@[simp] theorem bottom_mapHeld (c : Chain β) : (c.mapHeld f g).bottom = g c.bottom := by
  induction c with
  | base request => rfl
  | layer outer inner ih => exact ih

theorem mapHeld_push (c : Chain β) (x : Layer) :
    (c.push x).mapHeld f g = (c.mapHeld f g).push (x.mapWritten f) :=
  ext (by simp) (by simp)

/-! ### Undoing commutes with holding other values -/

theorem lastForward?_mapHeld (c : Chain β) :
    (c.mapHeld f g).lastForward? = c.lastForward?.map (·.mapWritten f) := by
  induction c using pushInduction with
  | base request => rfl
  | push c x _ => rw [mapHeld_push, lastForward?_push, lastForward?_push, Layer.forward?_mapWritten]

theorem replaceLast_mapHeld (t : Target) (c : Chain β) :
    (c.mapHeld f g).replaceLast t = (c.replaceLast t).mapHeld f g := by
  induction c using pushInduction with
  | base request => rfl
  | push c x _ =>
    rw [mapHeld_push, replaceLast_push, replaceLast_push, mapHeld_push, Layer.readdress_mapWritten]

theorem removeDeepest?_mapHeld {kind : Layer → Bool} (hk : ∀ x, kind (x.mapWritten f) = kind x)
    (c : Chain β) :
    (c.mapHeld f g).removeDeepest? kind = (c.removeDeepest? kind).map (mapHeld f g) := by
  induction c using pushInduction with
  | base request => rfl
  | push c x ih =>
    rw [mapHeld_push, removeDeepest?_push, removeDeepest?_push, hk, ih]
    cases kind x
    · cases c.removeDeepest? kind with
      | none => rfl
      | some c' => exact congrArg some (mapHeld_push f g c' x).symm
    · rfl

theorem unforward?_mapHeld (c : Chain β) (outcome : ForwardOutcome) :
    (c.mapHeld f g).unforward? outcome = (c.unforward? outcome).map (mapHeld f g) := by
  cases outcome with
  | created => exact removeDeepest?_mapHeld f g (fun x => by simp) c
  | reused previous =>
    simp only [unforward?, lastForward?_mapHeld, replaceLast_mapHeld]
    cases c.lastForward? <;> rfl

theorem uninclude?_mapHeld (c : Chain β) (uri : String) :
    (c.mapHeld f g).uninclude? uri = (c.uninclude? uri).map (mapHeld f g) :=
  removeDeepest?_mapHeld f g (fun x => by simp) c

/-- Chains with one frame are undone alike. -/
theorem frame_unforward? {c d : Chain Request} (h : c.frame = d.frame) (outcome : ForwardOutcome) :
    (c.unforward? outcome).map frame = (d.unforward? outcome).map frame :=
  calc (c.unforward? outcome).map frame
    _ = c.frame.unforward? outcome := (unforward?_mapHeld _ _ c outcome).symm
    _ = d.frame.unforward? outcome := by rw [h]
    _ = (d.unforward? outcome).map frame := unforward?_mapHeld _ _ d outcome

theorem frame_uninclude? {c d : Chain Request} (h : c.frame = d.frame) (uri : String) :
    (c.uninclude? uri).map frame = (d.uninclude? uri).map frame :=
  calc (c.uninclude? uri).map frame
    _ = c.frame.uninclude? uri := (uninclude?_mapHeld _ _ c uri).symm
    _ = d.frame.uninclude? uri := by rw [h]
    _ = (d.uninclude? uri).map frame := uninclude?_mapHeld _ _ d uri

/-- Whatever was written meanwhile, undoing a forward brings the frame back. -/
theorem exists_unforward? {c c' : Chain Request} {t : Target} {recordOrigin : Bool}
    (h : c'.frame = (c.forward t recordOrigin).2.frame) :
    ∃ d, c'.unforward? (c.forward t recordOrigin).1 = some d ∧ d.frame = c.frame := by
  have := frame_unforward? h (c.forward t recordOrigin).1
  rwa [unforward?_forward, Option.map_some, Option.map_eq_some_iff] at this

theorem exists_uninclude? {c c' : Chain Request} {t : Target}
    (h : c'.frame = (c.includeTarget t).frame) :
    ∃ d, c'.uninclude? t.requestUri = some d ∧ d.frame = c.frame := by
  have := frame_uninclude? h t.requestUri
  rwa [uninclude?_includeTarget, Option.map_some, Option.map_eq_some_iff] at this

/-! ### Writes -/

/-- No write changes the frame. -/
theorem frame_write (c : Chain Request) (w : Write) : (c.write w).frame = c.frame := by
  induction c generalizing w with
  | base request => cases w <;> rfl
  | layer outer inner ih =>
    have h := outer.frame_pass inner.view w
    unfold write
    cases hp : (outer.pass inner.view w).2 with
    | none =>
      simp only [hp]
      exact congrArg (layer · inner.frame) h
    | some passed =>
      simp only [hp]
      show layer (outer.pass inner.view w).1.frame (inner.write passed).frame =
        layer outer.frame inner.frame
      rw [h, ih passed]

theorem frame_writeAll (c : Chain Request) (ws : List Write) : (c.writeAll ws).frame = c.frame := by
  induction ws generalizing c with
  | nil => rfl
  | cons w rest ih => exact (ih (c.write w)).trans (frame_write c w)

/-! ### What chains with one frame have in common -/

theorem layers_frame (c : Chain Request) : c.frame.layers = c.layers.map Layer.frame :=
  layers_mapHeld _ _ c

theorem layers_of_frame {c d : Chain Request} (h : c.frame = d.frame) :
    c.layers.map Layer.frame = d.layers.map Layer.frame := by
  rw [← layers_frame, ← layers_frame, h]

theorem levels_frame (c : Chain Request) :
    c.frame.levels = c.levels.map (·.mapWritten fun _ => .empty) := by
  unfold levels
  rw [layers_frame, List.filterMap_map, List.map_filterMap]
  congr 1
  funext x
  cases x <;> rfl

theorem levels_of_frame {c d : Chain Request} (h : c.frame = d.frame) :
    c.levels.map (·.mapWritten fun _ => .empty) = d.levels.map (·.mapWritten fun _ => .empty) := by
  rw [← levels_frame, ← levels_frame, h]

theorem levels_eq_nil_iff_of_frame {c d : Chain Request} (h : c.frame = d.frame) :
    c.levels = [] ↔ d.levels = [] := by
  rw [← List.map_eq_nil_iff, levels_of_frame h, List.map_eq_nil_iff]

theorem bottom_of_frame {c d : Chain Request} (h : c.frame = d.frame) :
    c.bottom.frame = d.bottom.frame := by
  have := congrArg bottom h
  rwa [frame, frame, bottom_mapHeld, bottom_mapHeld] at this

/-- A chain with the frame of one with a layer pushed has a layer pushed itself. -/
theorem exists_push_of_frame {c c' : Chain Request} {x : Layer} (h : c'.frame = (c.push x).frame) :
    ∃ (d : Chain Request) (y : Layer), c' = d.push y ∧ d.frame = c.frame ∧ y.frame = x.frame := by
  induction c' using pushInduction with
  | base request =>
    have hlayers := layers_of_frame h
    simp [layers] at hlayers
  | push d y _ =>
    rw [frame, frame, mapHeld_push, mapHeld_push] at h
    obtain ⟨hd, hy⟩ := push_inj h
    exact ⟨d, y, rfl, hd, hy⟩

theorem Plain.frame_iff {c : Chain Request} : c.frame.Plain ↔ c.Plain := by
  unfold Plain
  rw [layers_frame, List.forall_mem_map]
  refine forall₂_congr fun x _ => ?_
  cases x <;> simp [Layer.frame, Layer.mapWritten, Layer.IsPlain]

theorem plain_of_frame {c d : Chain Request} (h : c.frame = d.frame) (hd : d.Plain) : c.Plain :=
  Plain.frame_iff.1 (h ▸ Plain.frame_iff.2 hd)

/-- With plain decorators, all that a chain shows except attributes is shown by its frame. -/
theorem frame_view {c : Chain Request} (hc : c.Plain) : c.frame.view.frame = c.view.frame := by
  induction c with
  | base request => rfl
  | layer outer inner ih => exact Layer.frame_view (hc outer List.mem_cons_self) (ih hc.inner)

theorem view_of_frame {c d : Chain Request} (h : c.frame = d.frame) (hd : d.Plain) :
    c.view.frame = d.view.frame := by
  rw [← frame_view (plain_of_frame h hd), h, frame_view hd]

theorem shows_of_frame {α : Type} (read : View → α) (hread : ∀ v, read v.frame = read v)
    {c d : Chain Request} (h : c.frame = d.frame) (hd : d.Plain) : read c.view = read d.view := by
  rw [← hread c.view, view_of_frame h hd, hread]

end Chain
end RequestDispatch
