import RequestDispatch.Proofs.Chain.Frame

/-! Ordinary attributes.

All attributes but the reserved ones belong to the request. Through plain decorators and
any number of levels they are read from it (`attribute?_ordinary`) and written to it
(`write_ordinary`); neither the layers nor any reserved attribute take notice
(`SameReserved`). -/
namespace RequestDispatch

theorem Write.name_ne_of_ordinary {w : Write} (h : Reserved.ofName? w.name = none) (key : Reserved) :
    key.name ≠ w.name := by
  intro e
  rw [← e, Reserved.ofName?_name] at h
  cases h

theorem Write.outcome?_set {value : Value} (h : value ≠ .null) (name : String) :
    (set name value).outcome? = some value := by
  cases value <;> first | rfl | exact absurd rfl h

/-- A request holds what was last written to it. -/
theorem Request.attribute?_write (r : Request) (w : Write) (name : String) :
    (r.write w).attribute? name = if name = w.name then w.outcome? else r.attribute? name := by
  cases w with
  | set n value =>
    show (r.attributes.set n value).get? name = _
    by_cases hv : value = .null
    · subst hv
      rw [Attributes.set_null, Attributes.get?_remove]
      rfl
    · rw [Attributes.get?_set hv, Write.outcome?_set hv]
      rfl
  | remove n => exact Attributes.get?_remove ..

theorem Request.frame_write (r : Request) (w : Write) : (r.write w).frame = r.frame := by
  cases w <;> rfl

namespace Chain

theorem attribute?_ordinary {c : Chain Request} (hc : c.Plain) {name : String}
    (h : Reserved.ofName? name = none) : c.view.attribute? name = c.bottom.attribute? name := by
  induction c with
  | base request => rfl
  | layer outer inner ih =>
    rw [bottom, ← ih hc.inner]
    cases outer with
    | forward l | inclusion l => simp only [view, Layer.view, Level.view, Level.attribute?, h]
    | decorator d =>
      rw [hc _ List.mem_cons_self d rfl]
      rfl

theorem write_ordinary {c : Chain Request} (hc : c.Plain) {w : Write}
    (h : Reserved.ofName? w.name = none) : c.write w = c.mapBottom (·.write w) := by
  induction c with
  | base request => rfl
  | layer outer inner ih =>
    have hpass : outer.pass inner.view w = (outer, some w) := by
      cases outer with
      | forward l | inclusion l => simp only [Layer.pass, Level.pass_ordinary h]
      | decorator d =>
        rw [hc _ List.mem_cons_self d rfl]
        rfl
    simp only [write, hpass, mapBottom, ih hc.inner]

theorem bottom_unforward? {c d : Chain Request} {outcome : ForwardOutcome}
    (h : c.unforward? outcome = some d) : d.bottom = c.bottom := by
  cases outcome with
  | created => exact (removeDeepest?_eq_some h).2
  | reused previous =>
    obtain ⟨l, -, rfl⟩ := Option.map_eq_some_iff.1 h
    exact bottom_replaceLast previous c

theorem mapBottom_eq (g : Request → Request) (c : Chain Request) : c.mapBottom g = c.mapHeld id g := by
  induction c with
  | base request => rfl
  | layer outer inner ih => rw [mapBottom, mapHeld, ih, Layer.mapWritten_id]

/-- The same layers, over requests that differ at most in ordinary attributes. -/
structure SameReserved (c d : Chain Request) : Prop where
  layers : c.layers = d.layers
  bottom : c.bottom.frame = d.bottom.frame
  reserved : ∀ key : Reserved, c.bottom.attribute? key.name = d.bottom.attribute? key.name

namespace SameReserved

theorem refl (c : Chain Request) : SameReserved c c := ⟨rfl, rfl, fun _ => rfl⟩

theorem trans {c d e : Chain Request} (h : SameReserved c d) (h' : SameReserved d e) :
    SameReserved c e :=
  ⟨h.layers.trans h'.layers, h.bottom.trans h'.bottom,
    fun key => (h.reserved key).trans (h'.reserved key)⟩

theorem plain {c d : Chain Request} (h : SameReserved c d) (hd : d.Plain) : c.Plain := by
  unfold Plain
  rwa [h.layers]

theorem eq_mapHeld {c d : Chain Request} (h : SameReserved c d) :
    c = d.mapHeld id fun _ => c.bottom :=
  ext (by simp [h.layers]) (by simp)

theorem of_mapBottom {c : Chain Request} {g : Request → Request}
    (hg : (g c.bottom).frame = c.bottom.frame)
    (hkeys : ∀ key : Reserved, (g c.bottom).attribute? key.name = c.bottom.attribute? key.name) :
    SameReserved (c.mapBottom g) c := by
  rw [mapBottom_eq]
  exact ⟨by simp, by simpa using hg, by simpa using hkeys⟩

theorem write {c : Chain Request} (hc : c.Plain) {w : Write} (h : Reserved.ofName? w.name = none) :
    SameReserved (c.write w) c := by
  rw [write_ordinary hc h]
  exact of_mapBottom (Request.frame_write _ w)
    fun key => by rw [Request.attribute?_write, if_neg (Write.name_ne_of_ordinary h key)]

theorem of_mapHeld {d e : Chain Request} {r : Request} (he : e.bottom = d.bottom)
    (hb : r.frame = d.bottom.frame)
    (hr : ∀ key : Reserved, r.attribute? key.name = d.bottom.attribute? key.name) :
    SameReserved (e.mapHeld id fun _ => r) e :=
  ⟨by simp, by simp [he, hb], fun key => by simp [he, hr key]⟩

/-- Chains with the same layers are undone alike. -/
theorem unforward? {c d e : Chain Request} (h : SameReserved c d) {outcome : ForwardOutcome}
    (hd : d.unforward? outcome = some e) :
    ∃ c', c.unforward? outcome = some c' ∧ SameReserved c' e := by
  refine ⟨e.mapHeld id fun _ => c.bottom, ?_, of_mapHeld (bottom_unforward? hd) h.bottom h.reserved⟩
  rw [h.eq_mapHeld, unforward?_mapHeld, hd]
  simp

theorem uninclude? {c d e : Chain Request} (h : SameReserved c d) {uri : String}
    (hd : d.uninclude? uri = some e) : ∃ c', c.uninclude? uri = some c' ∧ SameReserved c' e := by
  refine ⟨e.mapHeld id fun _ => c.bottom, ?_,
    of_mapHeld (removeDeepest?_eq_some hd).2 h.bottom h.reserved⟩
  rw [h.eq_mapHeld, uninclude?_mapHeld, hd]
  simp

/-- What the request answers for a reserved attribute shows the same through the same layers. -/
theorem attribute? {c d : Chain Request} (h : SameReserved c d) (hd : d.Plain) (key : Reserved) :
    c.view.attribute? key.name = d.view.attribute? key.name := by
  have hkey := h.reserved key
  rw [h.eq_mapHeld]
  generalize c.bottom = r at hkey
  clear h
  induction d with
  | base request => exact hkey
  | layer outer inner ih =>
    have := ih hd.inner hkey
    cases outer with
    | forward l | inclusion l =>
      simp only [mapHeld, view, Layer.view, Layer.mapWritten_id, Level.view, Level.attribute?,
        Reserved.ofName?_name, Level.reserved?, this]
    | decorator p =>
      rw [mapHeld, Layer.mapWritten_id, hd _ List.mem_cons_self p rfl]
      exact this

end SameReserved

end Chain
end RequestDispatch
