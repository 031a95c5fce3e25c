import RequestDispatch.Proofs.Chain.Shown

/-! What is left of a write of a reserved attribute.

Such a write enters at the outermost level, which keeps the value, and takes from the levels
beneath it what they would show instead (`overwrite`); of several writes the last one counts
(`overwrite_overwrite`). If a level is undone that lay further in, the value stays where it
was kept and what was taken is not given back, so an attribute need not read as it did before
the level was made. -/
namespace RequestDispatch

section Overwrite
variable {α : Type} [DecidableEq α] {own : Option α}

/-- The values of levels over `own`, after one was written from the outside. -/
def overwrite (own value : Option α) : List (Option α) → List (Option α)
  | [] => []
  | _ :: beneath => value :: if deepest own beneath = own then beneath else overwrite own none beneath

/-- Only the last write counts. -/
theorem overwrite_overwrite (v w : Option α) (values : List (Option α)) :
    overwrite own w (overwrite own v values) = overwrite own w values := by
  induction values generalizing v w with
  | nil => rfl
  | cons _ beneath ih =>
    simp only [overwrite]
    by_cases h : deepest own beneath = own
    · simp only [if_pos h]
    · simp only [if_neg h, ih, ite_self]

theorem overwrite_ne_nil {value : Option α} {values : List (Option α)} (h : values ≠ []) :
    overwrite own value values ≠ [] := by
  cases values with
  | nil => exact absurd rfl h
  | cons _ _ => exact List.cons_ne_nil _ _

/-- What shows of a value that was written, once the innermost entry `t` is gone. Where the
request has a value of its own that is not shown, what was taken from a level in between shows
instead. -/
theorem deepest_dropLast_overwrite (value first t : Option α) (rest : List (Option α)) :
    deepest own (overwrite own value (first :: rest ++ [t])).dropLast =
      if own = none ∨ rest = [] ∨ deepest own (rest ++ [t]) = own then value else none := by
  induction rest generalizing value first with
  | nil =>
    rw [if_pos (.inr (.inl rfl))]
    have honly : (overwrite own value ([first] ++ [t])).dropLast = [value] := by
      by_cases h : deepest own [t] = own <;> simp [overwrite, h]
    rw [honly, deepest_singleton]
  | cons next rest ih =>
    have hcons : ∀ {xs : List (Option α)}, xs ≠ [] → (value :: xs).dropLast = value :: xs.dropLast :=
      fun h => List.dropLast_cons_of_ne_nil h
    by_cases h : deepest own (next :: rest ++ [t]) = own
    -- Nothing showed beneath, so nothing was taken and the value is all there is.
    · have hall := deepest_eq_own_iff.1 h
      have hrest : deepest own (next :: rest) = own :=
        deepest_eq_own_iff.2 fun v hv => hall v (List.mem_append_left [t] hv)
      rw [if_pos (.inr (.inr h)), List.cons_append, overwrite, if_pos h, hcons (by simp),
        List.dropLast_concat, deepest_cons, if_pos hrest]
    -- What showed beneath was taken: `ih` for nothing written to the next level.
    · have hlost := ih none next
      rw [ite_self] at hlost
      rw [List.cons_append, overwrite, if_neg h, hcons (overwrite_ne_nil (by simp)), deepest_cons,
        hlost]
      have hnone : (own = none ∨ next :: rest = [] ∨ deepest own (next :: rest ++ [t]) = own) ↔
          none = own := by
        simp only [h, or_false, reduceCtorEq, eq_comm]
      simp only [hnone]

end Overwrite

namespace Chain

/-- What the levels hold under a key, outermost first. -/
def held (c : Chain Request) (key : Reserved) : List (Option Value) := c.levels.map (·.written key)

theorem held_layer {x : Layer} {l : Level} (hx : x.level? = some l) (inner : Chain Request)
    (key : Reserved) : (layer x inner).held key = l.written key :: inner.held key := by
  simp [held, levels, layers, hx]

theorem held_push {x : Layer} {l : Level} (hx : x.level? = some l) (c : Chain Request)
    (key : Reserved) : (c.push x).held key = c.held key ++ [l.written key] := by
  simp [held, levels_push hx]

namespace Faithful

/-- A reserved write changes what is held under its key, and nothing else. -/
theorem held_write_reserved {c : Chain Request} (h : c.Faithful) {w : Write} {key : Reserved}
    (hw : Reserved.ofName? w.name = some key) (other : Reserved) :
    (c.write w).held other = if other = key
      then overwrite (c.bottom.attribute? key.name) w.outcome? (c.held key) else c.held other := by
  induction c generalizing w with
  | base request =>
    by_cases ho : other = key <;> simp [held, levels, layers, Chain.write, overwrite, ho]
  | layer outer inner ih =>
    cases outer with
    | forward l | inclusion l =>
      have hshown : inner.view.attribute? key.name =
          deepest (inner.bottom.attribute? key.name) (inner.held key) := h.inner.attribute? key
      have hsnapshot : l.snapshot key = inner.bottom.attribute? key.name :=
        (h.covers l List.mem_cons_self).2 key
      have hbeneath := ih h.inner (w := .remove key.name) (Reserved.ofName?_name key)
      rw [write_layer rfl hw, hshown, hsnapshot,
        held_layer (l := l.mapWritten (·.put key w.outcome?)) rfl, held_layer rfl, held_layer rfl]
      show l.written.put key w.outcome? other :: _ = _
      rw [apply_ite (held · other), hbeneath]
      by_cases ho : other = key
      · subst ho
        simp only [Slots.put, if_true, overwrite]
        rfl
      · simp only [Slots.put, if_neg ho, ite_self]
    | decorator d =>
      rw [h.plain _ List.mem_cons_self d rfl]
      exact ih h.inner hw

theorem held_write {c : Chain Request} (h : c.Faithful) (w : Write) (key : Reserved) :
    (c.write w).held key = if key.name = w.name
      then overwrite (c.bottom.attribute? key.name) w.outcome? (c.held key) else c.held key := by
  cases hw : Reserved.ofName? w.name with
  | none =>
    rw [if_neg (Write.name_ne_of_ordinary hw key), held, held, levels, levels,
      (SameReserved.write h.plain hw).layers]
  | some written =>
    rw [h.held_write_reserved hw key, ← Reserved.name_of_ofName? hw]
    by_cases he : key = written
    · rw [if_pos he, if_pos (Reserved.name_inj.2 he), he]
    · rw [if_neg he, if_neg (mt Reserved.name_inj.1 he)]

end Faithful
end Chain

/-- What the last of some writes of a name comes to. -/
def Write.last? (name : String) (ws : List Write) : Option (Option Value) :=
  (ws.reverse.find? (name = ·.name)).map (·.outcome?)

theorem Write.last?_cons (name : String) (w : Write) (ws : List Write) :
    last? name (w :: ws) = (last? name ws).or (if name = w.name then some w.outcome? else none) := by
  unfold last?
  rw [List.reverse_cons, List.find?_append]
  cases ws.reverse.find? (name = ·.name) with
  | some _ => rfl
  | none => by_cases h : name = w.name <;> simp [h]

namespace Chain.Faithful

/-- What writes come to for one key, on a chain with a level. -/
theorem writeAll {c : Chain Request} (h : c.Faithful) (hl : c.levels ≠ []) (ws : List Write)
    (key : Reserved) :
    (c.writeAll ws).Faithful ∧
      (c.writeAll ws).bottom.attribute? key.name = c.bottom.attribute? key.name ∧
      (c.writeAll ws).held key = ((Write.last? key.name ws).elim (c.held key)
        (overwrite (c.bottom.attribute? key.name) · (c.held key))) := by
  induction ws generalizing c with
  | nil => exact ⟨h, rfl, rfl⟩
  | cons w rest ih =>
    have hl' : (c.write w).levels ≠ [] := mt (levels_eq_nil_iff_of_frame (frame_write c w)).1 hl
    have hkey := h.reserved_write hl w key
    obtain ⟨hfaithful, hbottom, hheld⟩ := ih (h.write w) hl'
    refine ⟨hfaithful, hbottom.trans hkey, hheld.trans ?_⟩
    rw [Write.last?_cons, hkey, h.held_write w key]
    by_cases hn : key.name = w.name <;> cases Write.last? key.name rest <;>
      simp [hn, overwrite_overwrite]

end Chain.Faithful

namespace Chain

/-- What levels further out still show of a value that was written to a reserved attribute,
once the innermost level is gone, which held `entry` before. -/
def remainder (c : Chain Request) (key : Reserved) (entry value : Option Value) : Option Value :=
  let own := c.bottom.attribute? key.name
  let beneath := (c.held key).tail
  if own = none ∨ beneath = [] ∨ deepest own (beneath ++ [entry]) = own then value else none

section Push
variable {c d : Chain Request} {x y : Layer} {l : Level} {ws : List Write}

/-- What is held without the level that was pushed before the writes. -/
theorem held_of_push (h : c.Faithful) (hx : x.level? = some l) (hl : l.Covers c.bottom)
    (hd : (c.push x).writeAll ws = d.push y) (hy : y.frame = x.frame) (key : Reserved) :
    d.Faithful ∧ d.bottom.attribute? key.name = c.bottom.attribute? key.name ∧
      d.held key = ((Write.last? key.name ws).elim (c.held key ++ [l.written key])
        (overwrite (c.bottom.attribute? key.name) · (c.held key ++ [l.written key]))).dropLast := by
  have hpush : (c.push x).Faithful := (Faithful.push_iff hx).2 ⟨h, hl⟩
  have hne : (c.push x).levels ≠ [] := by simp [levels_push hx]
  obtain ⟨hfaithful, hbottom, hheld⟩ := hpush.writeAll hne ws key
  rw [hd] at hfaithful hbottom hheld
  rw [bottom_push, bottom_push] at hbottom
  obtain ⟨l', hl'⟩ : ∃ l', y.level? = some l' := by
    rw [← Option.isSome_iff_exists, Layer.isSome_level?_of_frame hy, hx, Option.isSome_some]
  refine ⟨((Faithful.push_iff hl').1 hfaithful).1, hbottom, ?_⟩
  rw [← held_push hx, ← bottom_push c x, ← hheld, held_push hl', List.dropLast_concat]

theorem attribute?_of_push (h : c.Faithful) (hx : x.level? = some l) (hl : l.Covers c.bottom)
    (hd : (c.push x).writeAll ws = d.push y) (hy : y.frame = x.frame) (key : Reserved) :
    d.view.attribute? key.name = match Write.last? key.name ws with
      | none => c.view.attribute? key.name
      | some value =>
        if c.levels = [] then c.view.attribute? key.name
        else c.remainder key (l.written key) value := by
  obtain ⟨hfaithful, hbottom, hheld⟩ := held_of_push h hx hl hd hy key
  have hafter : d.view.attribute? key.name = deepest (d.bottom.attribute? key.name) (d.held key) :=
    hfaithful.attribute? key
  have hbefore : c.view.attribute? key.name = deepest (c.bottom.attribute? key.name) (c.held key) :=
    h.attribute? key
  rw [hafter, hbottom, hheld]
  cases Write.last? key.name ws with
  | none => rw [Option.elim_none, List.dropLast_concat, hbefore]
  | some value =>
    rw [Option.elim_some]
    cases hc : c.held key with
    | nil =>
      have hnil : c.levels = [] := List.map_eq_nil_iff.1 hc
      have hnothing :
          (overwrite (c.bottom.attribute? key.name) value ([] ++ [l.written key])).dropLast = [] := by
        simp [overwrite, deepest]
      simp only [hnil, if_true, hnothing, hbefore, hc]
    | cons first rest =>
      have hne : c.levels ≠ [] := fun hnil => by simp [held, hnil] at hc
      simp only [if_neg hne, deepest_dropLast_overwrite, remainder, hc, List.tail_cons]

end Push

/-- The writes leave no trace under a key, once the innermost level is gone, which held `entry`
before them. -/
def Forgets (c : Chain Request) (key : Reserved) (entry : Option Value) (ws : List Write) : Prop :=
  ∀ value, Write.last? key.name ws = some value →
    c.levels = [] ∨ c.remainder key entry value = c.view.attribute? key.name

/-- Any writes leave a layer to undo where one was pushed. -/
theorem exists_undone {c : Chain Request} (h : c.Faithful) {x : Layer} {l : Level}
    (hx : x.level? = some l) (hl : l.Covers c.bottom) (ws : List Write) :
    ∃ (d : Chain Request) (y : Layer), (c.push x).writeAll ws = d.push y ∧ y.frame = x.frame ∧
      ∀ key : Reserved, d.view.attribute? key.name = c.view.attribute? key.name ↔
        c.Forgets key (l.written key) ws := by
  obtain ⟨d, y, hd, -, hy⟩ := exists_push_of_frame (frame_writeAll (c.push x) ws)
  refine ⟨d, y, hd, hy, fun key => ?_⟩
  rw [attribute?_of_push h hx hl hd hy, Forgets]
  cases Write.last? key.name ws with
  | none => simp
  | some value => by_cases hc : c.levels = [] <;> simp [hc]

/-- **What outlives a level.** A new level can be undone after any writes, and a reserved attribute
reads as before if and only if it was not written, there are no levels but the new one, or
what is left of the last write is what was there. -/
theorem restored_iff {r : Request} {c : Chain Request} (hc : LeadsTo Step.IsPlain (.base r) c)
    (ws : List Write) (key : Reserved) (t : Target) :
    (∃ c', ((c.includeTarget t).writeAll ws).uninclude? t.requestUri = some c' ∧
      (c'.view.attribute? key.name = c.view.attribute? key.name ↔
        c.Forgets key (Slots.telling .inclusion (t.origin r.view) key) ws)) ∧
    ∀ recordOrigin, (c.forward t recordOrigin).1 = .created →
      ∃ c', ((c.forward t recordOrigin).2.writeAll ws).unforward? .created = some c' ∧
        (c'.view.attribute? key.name = c.view.attribute? key.name ↔
          c.Forgets key (c.forwardSlots recordOrigin key) ws) := by
  have h : c.Faithful := (Faithful.base r).leadsTo hc
  constructor
  · have horigin : t.origin c.bottom.view = t.origin r.view :=
      Request.shows_of_frame t.origin (fun _ => rfl) hc.bottom
    rw [includeTarget_eq, horigin]
    obtain ⟨d, y, hd, hy, hforgets⟩ := exists_undone h
      (x := .inclusion (.above c.bottom t (.telling .inclusion (t.origin r.view)))) rfl
      ⟨rfl, fun _ => rfl⟩ ws
    have hincludes : y.includes t.requestUri = true :=
      (Layer.includes_of_frame hy _).trans (decide_eq_true rfl)
    exact ⟨d, by rw [hd, uninclude?, removeDeepest?_push, if_pos hincludes], hforgets key⟩
  · intro recordOrigin hcreated
    rw [forward_of_created hcreated]
    obtain ⟨d, y, hd, hy, hforgets⟩ := exists_undone h
      (x := .forward (.above c.bottom t (c.forwardSlots recordOrigin))) rfl ⟨rfl, fun _ => rfl⟩ ws
    have hkind : y.kind = .forward := Layer.kind_of_frame hy
    exact ⟨d, by rw [hd, unforward?, removeDeepest?_push, if_pos (decide_eq_true hkind)], hforgets key⟩

/-- A chain with an inclusion. -/
def withInclusion : Chain Request := (Chain.base (.get "/page")).includeTarget ⟨"/a", "/a", none⟩

theorem leadsTo_withInclusion : LeadsTo Step.IsPlain (.base (Request.get "/page")) withInclusion :=
  .step (.base (Request.get "/page")) (s := .includeTarget ⟨"/a", "/a", none⟩) trivial

/-- Around an inclusion in which the path info is written, the servlet path stays what it was. A
forward that is the only level takes everything with it. -/
theorem withInclusion_restored :
    (∃ c', ((withInclusion.includeTarget ⟨"/b", "/b", none⟩).writeAll
        [.set (Reserved.mk .inclusion .pathInfo).name (.text "/mine")]).uninclude? "/b" = some c' ∧
      c'.view.attribute? (Reserved.mk .inclusion .servletPath).name =
        withInclusion.view.attribute? (Reserved.mk .inclusion .servletPath).name) ∧
    ∃ c', (((Chain.base (Request.get "/page")).forward ⟨"/b", "/b", none⟩ true).2.writeAll
        [.set (Reserved.mk .forward .pathInfo).name (.text "/mine")]).unforward? .created = some c' ∧
      c'.view.attribute? (Reserved.mk .forward .pathInfo).name =
        (Chain.base (Request.get "/page")).view.attribute? (Reserved.mk .forward .pathInfo).name := by
  constructor
  · obtain ⟨⟨c', hc', hiff⟩, -⟩ := restored_iff leadsTo_withInclusion
      [.set (Reserved.mk .inclusion .pathInfo).name (.text "/mine")] ⟨.inclusion, .servletPath⟩
      ⟨"/b", "/b", none⟩
    exact ⟨c', hc', hiff.2 nofun⟩
  · obtain ⟨c', hc', hiff⟩ := (restored_iff (.refl (.base (Request.get "/page")))
      [.set (Reserved.mk .forward .pathInfo).name (.text "/mine")] ⟨.forward, .pathInfo⟩
      ⟨"/b", "/b", none⟩).2 true rfl
    exact ⟨c', hc', hiff.2 fun _ _ => .inl rfl⟩

/-- What was written inside one inclusion shows in the one around it. -/
theorem write_outlives_inclusion :
    withInclusion.view.attribute? (Reserved.mk .inclusion .requestUri).name = some (.text "/a") ∧
      (((withInclusion.includeTarget ⟨"/b", "/b", none⟩).writeAll
          [.set (Reserved.mk .inclusion .requestUri).name (.text "/mine")]).uninclude? "/b").map
        (·.view.attribute? (Reserved.mk .inclusion .requestUri).name) = some (some (.text "/mine")) := by
  decide +kernel

end Chain
end RequestDispatch
