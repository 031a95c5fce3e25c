import RequestDispatch.Proofs.Chain.Decorated
import RequestDispatch.Proofs.Chain.Shown
import RequestDispatch.Proofs.Dispatch.Passage

/-! The mark of a request that is being served.

To serve a request is to mark it, to invoke a handler and to remove the mark. The mark is an attribute of the
request, which all runs share, and nothing keeps what it was: a handler that has the request served anew finds
it without the mark afterwards. Handlers and decorators that leave the mark alone (`SparesMarker`) never change
it on their own, and forwards and inclusions take it as it is (`Chain.SparesMarker.marker?_enter`). So along any
piece of a run the mark stays as it was or is lost (`conserved_marker`), and once it is lost, whatever is
forwarded to or included finds it lost (`upheld_unmarked`). -/
namespace RequestDispatch

/-! ### Leaving the mark alone -/

/-- A decorator that shows the mark as it is beneath, hands on what is written to it and makes no other write
into one of it. -/
structure Decorator.SparesMarker (d : Decorator) : Prop where
  shows : ∀ inner, d.attribute? inner managed = inner.attribute? managed
  passes : ∀ inner w, w.name = managed → d.pass inner w = some w
  spares : ∀ inner w passed, w.name ≠ managed → d.pass inner w = some passed → passed.name ≠ managed

theorem Decorator.sparesMarker_plain : plain.SparesMarker where
  shows _ := rfl
  passes _ _ _ := rfl
  spares _ _ _ hw h := by cases h; exact hw

/-- A step that neither writes the mark nor puts a decorator around the request that does not leave it alone. -/
def Chain.Step.SparesMarker : Step → Prop
  | write w => w.name ≠ managed
  | decorate d => d.SparesMarker
  | forward _ _ | unforward _ | includeTarget _ | uninclude _ => True

namespace Chain

/-- Whatever decorator the step puts around the request leaves the mark alone. -/
def Step.DecoratesSparingly (s : Step) : Prop := ∀ d, s = .decorate d → d.SparesMarker

theorem Step.SparesMarker.decoratesSparingly {s : Step} (hs : s.SparesMarker) : s.DecoratesSparingly := by
  rintro d rfl
  exact hs

theorem Step.OfDispatch.decoratesSparingly {s : Step} (hs : s.OfDispatch) : s.DecoratesSparingly := by
  rintro d rfl
  exact hs.elim

/-- What is read of the mark. -/
def marker? (c : Chain Request) : Option Value := c.view.attribute? managed

/-- All decorators leave the mark alone. -/
def SparesMarker (c : Chain Request) : Prop := ∀ d, .decorator d ∈ c.layers → d.SparesMarker

theorem Plain.sparesMarker {c : Chain Request} (hc : c.Plain) : c.SparesMarker := by
  intro d hd
  rw [hc _ hd d rfl]
  exact Decorator.sparesMarker_plain

theorem SparesMarker.inner {outer : Layer} {inner : Chain Request} (h : (layer outer inner).SparesMarker) :
    inner.SparesMarker :=
  DecoratedBy.inner h

/-- The mark is an attribute of the request. -/
theorem SparesMarker.marker? {c : Chain Request} (hc : c.SparesMarker) :
    c.marker? = c.bottom.attribute? managed := by
  induction c with
  | base request => rfl
  | layer outer inner ih =>
    refine Eq.trans ?_ (ih hc.inner)
    cases outer with
    | forward l | inclusion l =>
      simp only [Chain.marker?, view, Layer.view, Level.view, Level.attribute?, managed_not_reserved]
    | decorator d => exact (hc d List.mem_cons_self).shows inner.view

theorem SparesMarker.bottom_write {c : Chain Request} (hc : c.SparesMarker) {w : Write}
    (hw : w.name = managed) : (c.write w).bottom = c.bottom.write w := by
  induction c with
  | base request => rfl
  | layer outer inner ih =>
    have hordinary : Reserved.ofName? w.name = none := hw ▸ managed_not_reserved
    have hpass : outer.pass inner.view w = (outer, some w) := by
      cases outer with
      | forward l | inclusion l => simp only [Layer.pass, Level.pass_ordinary hordinary]
      | decorator d => simp only [Layer.pass, (hc d List.mem_cons_self).passes inner.view w hw]
    simp only [write, hpass]
    exact ih hc.inner

/-- Other writes leave the mark alone, whatever the layers make of them. -/
theorem SparesMarker.bottom_write_other {c : Chain Request} (hc : c.SparesMarker) {w : Write}
    (hw : w.name ≠ managed) : (c.write w).bottom.attribute? managed = c.bottom.attribute? managed := by
  induction c generalizing w with
  | base request => exact (Request.attribute?_write request w managed).trans (if_neg (Ne.symm hw))
  | layer outer inner ih =>
    have hpassed : ∀ passed, (outer.pass inner.view w).2 = some passed → passed.name ≠ managed := by
      intro passed hpassed
      cases outer with
      | forward l | inclusion l =>
        have hname : passed.name = w.name := Level.name_of_pass (l := l) hpassed
        rwa [hname]
      | decorator d => exact (hc d List.mem_cons_self).spares inner.view w passed hw hpassed
    unfold write
    cases h : (outer.pass inner.view w).2 with
    | none =>
      simp only [h]
      rfl
    | some passed =>
      simp only [h]
      exact ih hc.inner (hpassed passed h)

/-! ### Steps, and entering and leaving dispatches -/

theorem SparesMarker.step {c : Chain Request} (hc : c.SparesMarker) {s : Step}
    (hs : s.DecoratesSparingly) : (c.step s).2.SparesMarker :=
  DecoratedBy.step hc hs

theorem SparesMarker.leadsTo {c c' : Chain Request} (hc : c.SparesMarker)
    (h : LeadsTo Step.DecoratesSparingly c c') : c'.SparesMarker :=
  DecoratedBy.leadsTo hc h

theorem SparesMarker.enter {c : Chain Request} (hc : c.SparesMarker) (d : Dispatched) :
    (c.enter d).SparesMarker :=
  hc.leadsTo (.enter (fun _ hs => hs.decoratesSparingly) c d)

theorem SparesMarker.leave {c c' : Chain Request} (hc : c'.SparesMarker) (d : Dispatched) :
    (c.leave d c').SparesMarker :=
  hc.leadsTo (.leave (fun _ hs => hs.decoratesSparingly) c c' d)

/-- A step that leaves the mark alone does not change it. -/
theorem SparesMarker.marker?_step {c : Chain Request} (hc : c.SparesMarker) {s : Step}
    (hs : s.SparesMarker) : (c.step s).2.marker? = c.marker? := by
  have hafter : (c.step s).2.SparesMarker := hc.step hs.decoratesSparingly
  rw [hafter.marker?, hc.marker?]
  cases hw : s.write? with
  | none => rw [bottom_step_eq c hw]
  | some w =>
    obtain rfl := Step.write?_eq_some_iff.1 hw
    exact hc.bottom_write_other hs

theorem SparesMarker.marker?_unforward {c : Chain Request} (hc : c.SparesMarker)
    (outcome : ForwardOutcome) : ((c.unforward? outcome).getD c).marker? = c.marker? := by
  rw [← step_unforward]
  exact hc.marker?_step (s := .unforward outcome) trivial

theorem SparesMarker.marker?_uninclude {c : Chain Request} (hc : c.SparesMarker) (uri : String) :
    ((c.uninclude? uri).getD c).marker? = c.marker? := by
  rw [← step_uninclude]
  exact hc.marker?_step (s := .uninclude uri) trivial

/-- A request that is served is marked. All other dispatches take the mark as it is. -/
theorem SparesMarker.marker?_enter {c : Chain Request} (hc : c.SparesMarker) (d : Dispatched) :
    (c.enter d).marker? = if d.kind = .request then some (.bool true) else c.marker? := by
  have hmarker := (hc.enter d).marker?
  obtain ⟨kind, t⟩ := d
  cases kind with
  | request =>
    have hforward : (c.forward t false).2.SparesMarker := hc.step (s := .forward t false) nofun
    have hset : (c.enter ⟨.request, t⟩).bottom =
        (c.forward t false).2.bottom.write (.set managed (.bool true)) := hforward.bottom_write rfl
    rw [hmarker, hset, Request.attribute?_write]
    rfl
  | forward => exact hc.marker?_step (s := .forward t true) trivial
  | inclusion => exact hc.marker?_step (s := .includeTarget t) trivial

/-- Once a request was served, it is not marked, whether or not it was before. All other dispatches leave the mark
as it is. -/
theorem SparesMarker.marker?_leave {c c' : Chain Request} (hc : c'.SparesMarker) (d : Dispatched) :
    (c.leave d c').marker? = if d.kind = .request then none else c'.marker? := by
  obtain ⟨kind, t⟩ := d
  cases kind with
  | request =>
    have hremove : (c'.write (.remove managed)).SparesMarker :=
      hc.step (s := .write (.remove managed)) nofun
    have hundo : (c.leave ⟨.request, t⟩ c').marker? = (c'.write (.remove managed)).marker? :=
      hremove.marker?_unforward _
    rw [hundo, hremove.marker?, hc.bottom_write rfl, Request.attribute?_write]
    rfl
  | forward => exact hc.marker?_unforward _
  | inclusion => exact hc.marker?_uninclude _

end Chain

/-! ### Runs -/

variable {ε : Type}

/-- From one session to the other the mark stays as it was or is lost, and is left alone from then on. -/
def Session.KeepsOrLosesMarker (s s' : Session ε) : Prop :=
  s.chain.SparesMarker → s'.chain.SparesMarker ∧
    (s'.chain.marker? = s.chain.marker? ∨ s'.chain.marker? = none)

theorem conserved_marker : Conserved Chain.Step.SparesMarker (Session.KeepsOrLosesMarker (ε := ε)) where
  refl s hs := ⟨hs, .inl rfl⟩
  trans h h' hs := by
    obtain ⟨ht, hfirst⟩ := h hs
    obtain ⟨hu, hsecond⟩ := h' ht
    refine ⟨hu, hsecond.elim (fun he => ?_) .inr⟩
    rwa [he]
  note s event hs := ⟨hs, .inl rfl⟩
  request s step hstep hs :=
    ⟨hs.step hstep.decoratesSparingly, .inl (hs.marker?_step hstep)⟩
  respond s step hs := ⟨hs, .inl rfl⟩
  dispatch {s s' d} _ h hs := by
    obtain ⟨hs', hmarker⟩ := h (hs.enter d)
    rw [Session.chain_enter, hs.marker?_enter] at hmarker
    refine ⟨hs'.leave d, ?_⟩
    rw [Session.chain_leave, hs'.marker?_leave]
    by_cases hd : d.kind = .request
    · exact .inr (if_pos hd)
    · rwa [if_neg hd] at hmarker ⊢

/-- Inside some dispatches, the request is not marked, unless it is being served anew. -/
def UnmarkedWithin (outside around : List Dispatched) (s : Session ε) : Prop :=
  ∃ inside, around = inside ++ outside ∧ ((∀ d ∈ inside, d.kind ≠ .request) → s.chain.marker? = none)

/-- A mark that is lost stays lost until the request is served anew. -/
theorem upheld_unmarked (outside : List Dispatched) :
    Upheld Chain.Step.SparesMarker (Session.KeepsOrLosesMarker (ε := ε))
      fun around s => s.chain.SparesMarker ∧ UnmarkedWithin outside around s where
  toConserved := conserved_marker
  kept := by
    rintro around s s' ⟨hs, inside, hinside, hunmarked⟩ hR
    obtain ⟨hs', hmarker⟩ := hR hs
    refine ⟨hs', inside, hinside, fun hwithout => hmarker.elim (fun he => ?_) id⟩
    rw [he, hunmarked hwithout]
  enter := by
    rintro around s d ⟨hs, inside, hinside, hunmarked⟩ -
    refine ⟨hs.enter d, d :: inside, by rw [hinside, List.cons_append], fun hwithout => ?_⟩
    obtain ⟨hd, hwithout⟩ := List.forall_mem_cons.1 hwithout
    rw [Session.chain_enter, hs.marker?_enter, if_neg hd, hunmarked hwithout]

/-- From `s` to `s'` the mark is gone, and no handler that is forwarded to or included finds it, unless the request
is being served anew. -/
def Session.UnmarkedSince (outside : List Dispatched) (s s' : Session ε) : Prop :=
  s'.chain.marker? = none ∧ ∃ new, s'.record = s.record ++ new ∧ ∀ i, .invoked i ∈ new →
    ∃ inside, i.around = inside ++ outside ∧
      ((∀ d ∈ i.dispatched :: inside, d.kind ≠ .request) → i.chain.marker? = none)

/-- What a handler goes on with that has lost the mark. -/
theorem Program.unmarkedSince {p : Pipeline ε} (hp : p.Takes Chain.Step.SparesMarker) {limit : Nat}
    {around : List Dispatched} {depth : Nat} {rest : Program ε} (hrest : rest.Takes Chain.Step.SparesMarker)
    {s s' : Session ε} (hs : s.chain.SparesMarker) (hlost : s.chain.marker? = none)
    {result : Except Failure Unit}
    (h : rest.run (p.surroundings (p.invoke limit around) depth) s = some (result, s')) :
    s.UnmarkedSince around s' := by
  have hU := upheld_unmarked (ε := ε) around
  have hstart : UnmarkedWithin around around s := ⟨[], rfl, fun _ => hlost⟩
  have hpassage := hU.run (hU.passes hp limit around) hrest ⟨hs, hstart⟩ h
  obtain ⟨new, hnew, hinvoked⟩ := hpassage.record
  refine ⟨(hpassage.kept hs).2.elim (fun he => he.trans hlost) id, new, hnew, fun i hi => ?_⟩
  obtain ⟨s₀, ⟨hs₀, inside, hinside, hunmarked⟩, hfrom⟩ := hinvoked i hi
  refine ⟨inside, hinside, fun hwithout => ?_⟩
  obtain ⟨hd, hwithout⟩ := List.forall_mem_cons.1 hwithout
  rw [hfrom.chain, Session.chain_enter, hs₀.marker?_enter, if_neg hd, hunmarked hwithout]

/-- Once a mapping has served the request, it is not marked. -/
theorem Pipeline.marker?_serveWith {p : Pipeline ε} (hp : p.Takes Chain.Step.SparesMarker) {limit : Nat}
    {around : List Dispatched} {s s' : Session ε} (hs : s.chain.SparesMarker)
    {r : Except DispatchError Bool} (h : p.serveWith (p.invoke limit around) s = some (r, s')) :
    (r = .ok false ∧ s' = s) ∨ r ≠ .ok false ∧ s'.chain.SparesMarker ∧ s'.chain.marker? = none := by
  rcases serveWith_eq_some h with ⟨-, hr, he⟩ | ⟨d, path, result, s₁, hd, hrun, rfl, rfl⟩
  · exact .inl ⟨hr, he⟩
  · have hU := (conserved_marker (ε := ε)).upheld
    let served : Dispatched := ⟨.request, d.target path s.chain.view.contextPath⟩
    have ha : s.Admits served := nofun
    have hinside := (hU.passes hp limit around) trivial ha (serving?_eq_some hd) rfl hrun
    have hs₁ : s₁.chain.SparesMarker := (hinside.kept (hs.enter served)).1
    exact .inr ⟨by cases result <;> nofun, hs₁.leave served, hs₁.marker?_leave served⟩

/-- **When a request that is served keeps its mark.** Handlers and decorators leave the mark alone. After a
request was served, whatever came of it, the mark reads as it did before if and only if no mapping served it,
which changes nothing at all, or there was no mark before. A handler that has the request served by a mapping
goes on without a mark, and so does all that it forwards to or includes from then on. -/
theorem mark_given_back_iff (p : Pipeline ε) (hp : p.Takes Chain.Step.SparesMarker) (limit : Nat)
    (around : List Dispatched) {s s' : Session ε} (hs : s.chain.SparesMarker) {r : Except DispatchError Bool}
    (h : p.serveWith (p.invoke limit around) s = some (r, s')) :
    (s'.chain.marker? = s.chain.marker? ↔ r = .ok false ∨ s.chain.marker? = none) ∧
    (r = .ok false → s' = s) ∧
    (r ≠ .ok false → ∀ (depth : Nat) (rest : Program ε) result s'', rest.Takes Chain.Step.SparesMarker →
      rest.run (p.surroundings (p.invoke limit around) depth) s' = some (result, s'') →
      s'.UnmarkedSince around s'') := by
  rcases Pipeline.marker?_serveWith hp hs h with ⟨rfl, rfl⟩ | ⟨hr, hs', hlost⟩
  · exact ⟨iff_of_true rfl (.inl rfl), fun _ => rfl, fun hr => absurd rfl hr⟩
  · refine ⟨?_, fun he => absurd he hr, fun _ depth rest result s'' hrest hrun =>
      Program.unmarkedSince hp hrest hs' hlost hrun⟩
    rw [hlost, or_iff_right hr, eq_comm]

/-- A page that has the request served once more, which leads to the page itself, and includes an end. Both note
whether the request is marked. -/
def reentering : Pipeline Bool where
  registry := ⟨[.ofHandler (.literal "/end") "end" ⟨0, ending⟩ .empty,
    .ofHandler (.beneath "/page") "page" ⟨1, page⟩ .empty]⟩
  context := ⟨"", .empty⟩
where
  noting (next : Program Bool) : Program Bool := .look fun c _ => .note c.view.isManaged next
  ending := { service _ := noting .finish }
  rest := noting (.dispatch .inclusion "/end" fun _ => .finish)
  page :=
    { service _ := .look fun c _ =>
        if (c.view.attribute? "again").isSome then rest
        else .request (.write (.set "again" (.bool true))) fun _ => .serve fun _ => rest }

theorem takes_reentering : reentering.Takes Chain.Step.SparesMarker := by
  intro d hd situation
  have hd : d = .ofHandler (.literal "/end") "end" ⟨0, reentering.ending⟩ .empty ∨
      d = .ofHandler (.beneath "/page") "page" ⟨1, reentering.page⟩ .empty := by
    simpa [reentering] using hd
  have hrest : reentering.rest.Takes Chain.Step.SparesMarker := fun _ _ _ => trivial
  rcases hd with rfl | rfl
  · exact fun _ _ => trivial
  · intro c o
    show Program.Takes _ (if _ then _ else _)
    split
    · exact hrest
    · exact ⟨(by decide : "again" ≠ managed), fun _ _ => hrest⟩

/-- The page is asked for. -/
def asked : Session Bool := .start (.get "/page/x") (.fresh 64 none)

def pageAsked : Dispatched := ⟨.request, ⟨"/page/x", "/page", some "/x"⟩⟩

/-- The page is about to have the request served once more. -/
def askedAgain : Session Bool :=
  let inside := asked.enter pageAsked
  { inside with chain := inside.chain.write (.set "again" (.bool true)) }

theorem sparesMarker_asked : asked.chain.SparesMarker := nofun

theorem sparesMarker_askedAgain : askedAgain.chain.SparesMarker :=
  (sparesMarker_asked.enter pageAsked).step (s := .write (.set "again" (.bool true))) nofun

/-- Asked for from outside, the request is as little marked as before. Inside the page its mark is gone, and the page
includes the end without one. -/
theorem reentering_gives_back :
    (∃ r s', reentering.serve 4 asked = some (r, s') ∧ s'.chain.marker? = asked.chain.marker?) ∧
    ∃ s', reentering.serveWith (reentering.invoke 3 [pageAsked]) askedAgain = some (.ok true, s') ∧
      s'.chain.marker? ≠ askedAgain.chain.marker? ∧
      ∃ result s'', reentering.rest.run (reentering.surroundings (reentering.invoke 3 [pageAsked]) 0) s' =
          some (result, s'') ∧ s'.UnmarkedSince [pageAsked] s'' := by
  constructor
  · have hrun : (reentering.serve 4 asked).isSome = true := by decide +kernel
    obtain ⟨⟨r, s'⟩, hserve⟩ := Option.isSome_iff_exists.1 hrun
    have hiff := (mark_given_back_iff reentering takes_reentering 4 [] sparesMarker_asked hserve).1
    exact ⟨r, s', hserve, hiff.2 (.inr (by decide +kernel))⟩
  · have hrun : (reentering.serveWith (reentering.invoke 3 [pageAsked]) askedAgain).any (fun x =>
        x.1.toOption = some true ∧ (reentering.rest.run
          (reentering.surroundings (reentering.invoke 3 [pageAsked]) 0) x.2).isSome) = true := by
      decide +kernel
    obtain ⟨⟨r, s'⟩, hserve, hgoes⟩ := (Option.any_eq_true ..).1 hrun
    obtain ⟨hr, hrest⟩ := of_decide_eq_true hgoes
    obtain ⟨⟨result, s''⟩, hrest⟩ := Option.isSome_iff_exists.1 hrest
    obtain rfl : r = .ok true := by
      cases r <;> cases hr
      rfl
    have hmarked : askedAgain.chain.marker? = some (.bool true) := by decide +kernel
    obtain ⟨hiff, -, hlost⟩ :=
      mark_given_back_iff reentering takes_reentering 3 [pageAsked] sparesMarker_askedAgain hserve
    refine ⟨s', hserve, fun he => ?_, result, s'', hrest,
      hlost nofun 0 reentering.rest result s'' (fun _ _ _ => trivial) hrest⟩
    rcases hiff.1 he with he | he
    · cases he
    · rw [hmarked] at he
      cases he

/-- The page is marked when it has the request served once more, and not afterwards: the page that is invoked
then and the end that it includes find the mark, the page that goes on and the end it includes do not. -/
theorem reentering_loses_mark :
    reentering.Takes Chain.Step.SparesMarker ∧ askedAgain.chain.SparesMarker ∧
    askedAgain.chain.marker? = some (.bool true) ∧
    (∃ s', reentering.serveWith (reentering.invoke 3 [pageAsked]) askedAgain = some (.ok true, s') ∧
      s'.chain.marker? = none) ∧
    ∃ s', reentering.serve 4 asked = some (.ok true, s') ∧ s'.notes = [true, true, false, false] := by
  have hinside : (reentering.serveWith (reentering.invoke 3 [pageAsked]) askedAgain).any (fun x =>
      x.1.toOption = some true ∧ x.2.chain.marker? = none) = true := by decide +kernel
  have houtside : (reentering.serve 4 asked).any (fun x =>
      x.1.toOption = some true ∧ x.2.notes = [true, true, false, false]) = true := by decide +kernel
  have hok : ∀ {r : Except DispatchError Bool}, r.toOption = some true → r = .ok true := by
    intro r hr
    cases r <;> cases hr
    rfl
  obtain ⟨⟨r, s'⟩, hserve, hresult⟩ := (Option.any_eq_true ..).1 hinside
  obtain ⟨hr, hlost⟩ := of_decide_eq_true hresult
  obtain ⟨⟨r', s''⟩, hserve', hresult'⟩ := (Option.any_eq_true ..).1 houtside
  obtain ⟨hr', hnotes⟩ := of_decide_eq_true hresult'
  obtain rfl := hok hr
  obtain rfl := hok hr'
  exact ⟨takes_reentering, sparesMarker_askedAgain, by decide +kernel, ⟨s', hserve, hlost⟩, s'', hserve',
    hnotes⟩

end RequestDispatch
