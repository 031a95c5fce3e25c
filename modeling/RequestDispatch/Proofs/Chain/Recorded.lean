import RequestDispatch.Proofs.Chain.Layers

/-! New levels.

A forward or an inclusion writes its attributes through the level it has just put around
the request. The level covers exactly what the request holds, so nothing of this passes
through to the request: dispatch pushes one level and changes nothing else
(`forward_created`, `includeTarget_eq`). -/
namespace RequestDispatch

namespace Slots

def empty : Slots := fun _ => none

/-- The values after a write. -/
def write (slots : Slots) (w : Write) : Slots :=
  match Reserved.ofName? w.name with
  | some key => slots.put key w.outcome?
  | none => slots

/-- The values that tell of some paths under the keys of a phase. -/
def telling (phase : Reserved.Phase) (o : Origin) : Slots := fun key =>
  if key.phase = phase then
    match key.detail with
    | .requestUri => some (.text o.requestUri)
    | .contextPath => some (.text o.contextPath)
    | .pathInfo => o.pathInfo.map .text
    | .queryString => o.queryString.map .text
    | .servletPath => some (.text o.servletPath)
  else none

end Slots

theorem outcome?_ofText? (name : String) (s : Option String) :
    (Write.set name (.ofText? s)).outcome? = s.map .text := by
  cases s <;> rfl

theorem foldl_write_recorded (phase : Reserved.Phase) (o : Origin) :
    (o.recorded phase).foldl Slots.write .empty = .telling phase o := by
  funext ⟨p, d⟩
  cases phase <;> cases p <;> cases d <;>
    simp [Origin.recorded, Slots.write, Write.name, Reserved.ofName?_name, outcome?_ofText?,
      Slots.put, Slots.empty, Slots.telling]

theorem isReserved_recorded {phase : Reserved.Phase} {o : Origin} {w : Write}
    (hw : w ∈ o.recorded phase) : ∃ key, Reserved.ofName? w.name = some key := by
  simp only [Origin.recorded, List.mem_cons, List.not_mem_nil, or_false] at hw
  rcases hw with rfl | rfl | rfl | rfl | rfl <;> exact ⟨_, Reserved.ofName?_name _⟩

namespace Level

/-- The level of a target over a request as it is, with some values written through it. -/
def above (request : Request) (t : Target) (written : Slots) : Level where
  snapshot key := request.attribute? key.name
  written := written
  covered := request.view.target
  replacement := t

theorem ofTarget_view (request : Request) (t : Target) :
    ofTarget request.view t = above request t .empty := by
  have h : ∀ name, (request.attribute? name).filter (· ≠ .null) = request.attribute? name := by
    intro name
    have hne := request.attributes.get?_ne_null name
    cases hv : request.attribute? name with
    | none => rfl
    | some value =>
      have : value ≠ .null := fun e => hne (e ▸ hv)
      simp [Option.filter, this]
  have : (fun key : Reserved => (request.view.attribute? key.name).filter (· ≠ .null)) =
      fun key => request.attribute? key.name := funext fun key => h key.name
  unfold ofTarget above
  rw [this]
  rfl

theorem pass_reserved {w : Write} {key : Reserved} (h : Reserved.ofName? w.name = some key)
    (l : Level) (inner : View) :
    l.pass inner w = ({ l with written := l.written.put key w.outcome? },
      if l.isOverridden inner key then some (.remove w.name) else none) := by
  simp only [pass, h]

theorem pass_ordinary {w : Write} (h : Reserved.ofName? w.name = none) (l : Level) (inner : View) :
    l.pass inner w = (l, some w) := by
  simp only [pass, h]

/-- A level passes on a write of no other attribute. -/
theorem name_of_pass {l : Level} {inner : View} {w passed : Write} (h : (l.pass inner w).2 = some passed) :
    passed.name = w.name := by
  cases hw : Reserved.ofName? w.name with
  | none =>
    rw [pass_ordinary hw] at h
    cases h
    rfl
  | some key =>
    rw [pass_reserved hw] at h
    obtain ⟨-, he⟩ := Option.ite_none_right_eq_some.1 h
    cases he
    rfl

theorem isOverridden_above (request : Request) (t : Target) (written : Slots) (key : Reserved) :
    (above request t written).isOverridden request.view key = false := by
  simp [isOverridden, above, Request.view]

/-- What a level that was just made takes of a reserved write is all there is to it. -/
theorem pass_above {w : Write} {key : Reserved} (h : Reserved.ofName? w.name = some key)
    (request : Request) (t : Target) (written : Slots) :
    (above request t written).pass request.view w = (above request t (written.write w), none) := by
  have hw : written.write w = written.put key w.outcome? := by simp only [Slots.write, h]
  rw [pass_reserved h, isOverridden_above, hw]
  rfl

end Level

namespace Chain

theorem writeAll_above {make : Level → Layer} (hmake : make = .forward ∨ make = .inclusion)
    (request : Request) (t : Target) (slots : Slots) {ws : List Write}
    (hws : ∀ w ∈ ws, ∃ key, Reserved.ofName? w.name = some key) :
    (layer (make (.above request t slots)) (base request)).writeAll ws =
      layer (make (.above request t (ws.foldl Slots.write slots))) (base request) := by
  induction ws generalizing slots with
  | nil => rfl
  | cons w rest ih =>
    obtain ⟨key, hkey⟩ := hws w List.mem_cons_self
    have hstep : (layer (make (.above request t slots)) (base request)).write w =
        layer (make (.above request t (slots.write w))) (base request) := by
      have hpass := Level.pass_above hkey request t slots
      rcases hmake with rfl | rfl <;> simp only [write, Layer.pass, view, Underlying.view, hpass]
    have := ih (slots.write w) fun w' hw' => hws w' (List.mem_cons_of_mem w hw')
    rw [List.foldl_cons, ← this, ← hstep]
    rfl

theorem addLevel_eq {make : Level → Layer} (hmake : make = .forward ∨ make = .inclusion)
    (c : Chain Request) (t : Target) {recorded : View → List Write}
    (hrec : ∀ v, ∀ w ∈ recorded v, ∃ key, Reserved.ofName? w.name = some key) :
    c.addLevel make t recorded =
      c.push (make (.above c.bottom t ((recorded c.bottom.view).foldl Slots.write .empty))) := by
  rw [← aboveBottom_layer_base
    (fun request => make (.above request t ((recorded request.view).foldl Slots.write .empty)))]
  unfold addLevel
  congr 1
  funext request
  show (layer (make (.ofTarget request.view t)) (base request)).writeAll (recorded request.view) = _
  rw [Level.ofTarget_view, writeAll_above hmake request t .empty (hrec _)]

theorem forward_reused {c : Chain Request} {l : Level} (h : c.lastForward? = some l) (t : Target)
    (recordOrigin : Bool) : c.forward t recordOrigin = (.reused l.replacement, c.replaceLast t) := by
  simp only [forward, h]

/-- What a new forward level records of the paths that the chain showed. -/
def forwardSlots (c : Chain Request) (recordOrigin : Bool) : Slots :=
  if recordOrigin then .telling .forward c.view.origin else .empty

theorem forward_created {c : Chain Request} (h : c.lastForward? = none) (t : Target)
    (recordOrigin : Bool) :
    c.forward t recordOrigin =
      (.created, c.push (.forward (.above c.bottom t (c.forwardSlots recordOrigin)))) := by
  simp only [forward, h]
  rw [addLevel_eq (.inl rfl)]
  · cases recordOrigin
    · rfl
    · simp only [if_true, foldl_write_recorded, forwardSlots]
  · intro v w hw
    cases recordOrigin
    · cases hw
    · exact isReserved_recorded hw

theorem forward_of_created {c : Chain Request} {t : Target} {recordOrigin : Bool}
    (h : (c.forward t recordOrigin).1 = .created) :
    (c.forward t recordOrigin).2 =
      c.push (.forward (.above c.bottom t (c.forwardSlots recordOrigin))) := by
  cases hl : c.lastForward? with
  | none => rw [forward_created hl]
  | some l =>
    rw [forward_reused hl] at h
    cases h

theorem includeTarget_eq (c : Chain Request) (t : Target) :
    c.includeTarget t =
      c.push (.inclusion (.above c.bottom t (.telling .inclusion (t.origin c.bottom.view)))) := by
  unfold includeTarget
  rw [addLevel_eq (.inr rfl) c t fun v w hw => isReserved_recorded hw, foldl_write_recorded]

theorem plain_forward {c : Chain Request} (hc : c.Plain) (t : Target) (recordOrigin : Bool) :
    (c.forward t recordOrigin).2.Plain := by
  cases h : c.lastForward? with
  | none =>
    rw [forward_created h]
    exact plain_push.2 ⟨hc, nofun⟩
  | some l =>
    rw [forward_reused h]
    exact plain_replaceLast hc t

theorem plain_includeTarget {c : Chain Request} (hc : c.Plain) (t : Target) :
    (c.includeTarget t).Plain := by
  rw [includeTarget_eq]
  exact plain_push.2 ⟨hc, nofun⟩

/-- After a forward, the innermost level shows the target. -/
theorem levels_forward (c : Chain Request) (t : Target) (recordOrigin : Bool) :
    ∃ outer l, (c.forward t recordOrigin).2.levels = outer ++ [l] ∧ l.replacement = t := by
  cases h : c.lastForward? with
  | none =>
    rw [forward_created h, levels_push rfl]
    exact ⟨_, _, rfl, rfl⟩
  | some l =>
    obtain ⟨outer, rfl⟩ := lastForward?_eq_some h
    rw [forward_reused h, replaceLast_push]
    exact ⟨outer.levels, { l with replacement := t }, levels_push rfl outer, rfl⟩

/-- So it is after an inclusion. -/
theorem levels_includeTarget (c : Chain Request) (t : Target) :
    ∃ outer l, (c.includeTarget t).levels = outer ++ [l] ∧ l.replacement = t := by
  rw [includeTarget_eq, levels_push rfl]
  exact ⟨_, _, rfl, rfl⟩

/-- What one step may make of a chain. -/
inductive Change (c : Chain Request) : Step → Chain Request → Prop where
  | write (w : Write) : Change c (.write w) (c.write w)
  | decorate (d : Decorator) : Change c (.decorate d) (c.decorate d)
  | forward (t : Target) (recordOrigin : Bool) : Change c (.forward t recordOrigin)
      (c.push (.forward (.above c.bottom t (c.forwardSlots recordOrigin))))
  | inclusion (t : Target) : Change c (.includeTarget t)
      (c.push (.inclusion (.above c.bottom t (.telling .inclusion (t.origin c.bottom.view)))))
  /-- A forward that reuses a level, or is undone after that. -/
  | readdress (s : Step) (t : Target) : Change c s (c.replaceLast t)
  | removal (s : Step) {kind : Layer → Bool} {c' : Chain Request}
      (h : c.removeDeepest? kind = some c') : Change c s c'
  /-- There was nothing to undo. -/
  | nothing (s : Step) : Change c s c

theorem change_step (c : Chain Request) (s : Step) : Change c s (c.step s).2 := by
  cases s with
  | write w => exact .write w
  | decorate d => exact .decorate d
  | forward t recordOrigin =>
    show Change c _ (c.forward t recordOrigin).2
    cases h : c.lastForward? with
    | none =>
      rw [forward_created h]
      exact .forward t recordOrigin
    | some l =>
      rw [forward_reused h]
      exact .readdress _ t
  | includeTarget t =>
    show Change c _ (c.includeTarget t)
    rw [includeTarget_eq]
    exact .inclusion t
  | unforward outcome =>
    simp only [step]
    split
    next c' h =>
      cases outcome with
      | created => exact .removal _ h
      | reused previous =>
        obtain ⟨l, -, rfl⟩ := Option.map_eq_some_iff.1 h
        exact .readdress _ previous
    next => exact .nothing _
  | uninclude uri =>
    simp only [step]
    split
    next h => exact .removal _ h
    next => exact .nothing _

/-! ### Undoing at once -/

/-- A forward that is undone at once leaves no trace. -/
theorem unforward?_forward (c : Chain Request) (t : Target) (recordOrigin : Bool) :
    (c.forward t recordOrigin).2.unforward? (c.forward t recordOrigin).1 = some c := by
  cases h : c.lastForward? with
  | some l =>
    rw [forward_reused h]
    induction c using pushInduction with
    | base request => cases h
    | push c x _ =>
      rw [lastForward?_push] at h
      simp [unforward?, h, Layer.readdress_of_forward? h]
  | none =>
    rw [forward_created h]
    simp [unforward?, removeDeepest?_push, Layer.kind]

/-- An inclusion that is undone at once leaves no trace. -/
theorem uninclude?_includeTarget (c : Chain Request) (t : Target) :
    (c.includeTarget t).uninclude? t.requestUri = some c := by
  rw [includeTarget_eq]
  simp [uninclude?, removeDeepest?_push, Layer.includes, Level.above]

end Chain
end RequestDispatch
