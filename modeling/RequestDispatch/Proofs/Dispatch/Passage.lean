import RequestDispatch.Proofs.Dispatch.Entry

/-! What runs keep.

A relation between sessions that single steps keep and that holds across a dispatch if it
holds inside (`Conserved`) holds between the ends of every run. A condition on sessions
that may depend on the dispatches under way (`Upheld`) holds of every session that an
invocation is entered from. Both are proved once, for handlers whose steps on the request
are of a given kind (`Takes`), by induction on how deep dispatches are nested and, at each
depth, on the handler's program: `Upheld.serveWith`, `Upheld.dispatchAt` and
`Upheld.dispatcher` for the three ways to start a run. -/
namespace RequestDispatch
variable {ε : Type}

/-- Every step that the program takes on the request is of a kind. -/
def Program.Takes (ok : Chain.Step → Prop) : Program ε → Prop
  | .finish | .fail _ => True
  | .note _ next => next.Takes ok
  | .recollect next => ∀ events, (next events).Takes ok
  | .look next => ∀ c o, (next c o).Takes ok
  | .request step next => ok step ∧ ∀ reply, (next reply).Takes ok
  | .respond _ next => ∀ reply, (next reply).Takes ok
  | .find _ next => ∀ found, (next found).Takes ok
  | .dispatch _ _ next => ∀ reply, (next reply).Takes ok
  | .serve next => ∀ reply, (next reply).Takes ok

/-- So it is with all handlers of a pipeline, however they are invoked. -/
def Pipeline.Takes (ok : Chain.Step → Prop) (p : Pipeline ε) : Prop :=
  ∀ d ∈ p.registry.definitions, ∀ situation, (d.handler.content.service situation).Takes ok

def Invocation.dispatched (i : Invocation) : Dispatched := ⟨i.situation.kind, i.target⟩

/-- The invocation finds what a session is on entering its dispatch, by a mapping of the
pipeline that matches. -/
structure Invocation.EnteredFrom (p : Pipeline ε) (i : Invocation) (s : Session ε) : Prop where
  admits : s.Admits i.dispatched
  mapping : ∃ d path, p.registry.firstMatch? path = some d ∧ i.situation.handlerName = d.name ∧
    i.pattern = d.pattern ∧ i.target = d.target path s.chain.view.contextPath
  chain : i.chain = (s.enter i.dispatched).chain
  outlet : i.outlet = (s.enter i.dispatched).outlet

/-- A relation that every piece of a run keeps, if its handlers take steps of a kind. -/
structure Conserved (ok : Chain.Step → Prop) (R : Session ε → Session ε → Prop) : Prop where
  refl : ∀ s, R s s
  trans : ∀ {s t u}, R s t → R t u → R s u
  note : ∀ s event, R s (s.add event)
  request : ∀ s {step}, ok step → R s { s with chain := (s.chain.step step).2 }
  respond : ∀ s step, R s { s with outlet := (s.outlet.step step).2 }
  dispatch : ∀ {s s' d}, s.Admits d → R (s.enter d) s' → R s (s.leave d s')

/-- A condition, given the dispatches under way, that holds on along a run. -/
structure Upheld (ok : Chain.Step → Prop) (R : Session ε → Session ε → Prop)
    (Inv : List Dispatched → Session ε → Prop) : Prop extends Conserved ok R where
  kept : ∀ {around s s'}, Inv around s → R s s' → Inv around s'
  enter : ∀ {around s d}, Inv around s → s.Admits d → Inv (d :: around) (s.enter d)

/-- What a piece of a run keeps, and what it records. -/
structure Passage (p : Pipeline ε) (R : Session ε → Session ε → Prop)
    (Inv : List Dispatched → Session ε → Prop) (s s' : Session ε) : Prop where
  kept : R s s'
  record : ∃ new, s'.record = s.record ++ new ∧
    ∀ i, .invoked i ∈ new → ∃ s₀, Inv i.around s₀ ∧ i.EnteredFrom p s₀

/-- An invoker whose invocations inside some dispatches pass. -/
def Invoke.Passes (p : Pipeline ε) (R : Session ε → Session ε → Prop)
    (Inv : List Dispatched → Session ε → Prop) (around : List Dispatched) (invoke : Invoke ε) : Prop :=
  ∀ ⦃d path dispatched depth s r s'⦄, Inv around s → s.Admits dispatched →
    p.registry.firstMatch? path = some d → dispatched.target = d.target path s.chain.view.contextPath →
    invoke d dispatched depth (s.enter dispatched) = some (r, s') →
    Passage p R Inv (s.enter dispatched) s'

namespace Upheld
variable {ok : Chain.Step → Prop} {R : Session ε → Session ε → Prop}
variable {Inv : List Dispatched → Session ε → Prop} {p : Pipeline ε} {invoke : Invoke ε}
variable {around : List Dispatched} {s s' : Session ε}

theorem refl_passage (U : Upheld ok R Inv) (s : Session ε) : Passage p R Inv s s :=
  ⟨U.refl s, [], by simp, by simp⟩

theorem trans_passage (U : Upheld ok R Inv) {t : Session ε} (h : Passage p R Inv s t)
    (h' : Passage p R Inv t s') : Passage p R Inv s s' := by
  obtain ⟨new, hnew, hi⟩ := h.record
  obtain ⟨new', hnew', hi'⟩ := h'.record
  refine ⟨U.trans h.kept h'.kept, new ++ new', by rw [hnew', hnew, List.append_assoc], fun i him => ?_⟩
  rcases List.mem_append.1 him with him | him
  · exact hi i him
  · exact hi' i him

/-- A step that invokes nothing. -/
theorem quiet_passage (h : R s s') (new : List ε) (hr : s'.record = s.record ++ new.map .noted) :
    Passage p R Inv s s' :=
  ⟨h, _, hr, fun i hi => by simp at hi⟩

theorem leave_passage (U : Upheld ok R Inv) {d : Dispatched} (ha : s.Admits d)
    (h : Passage p R Inv (s.enter d) s') : Passage p R Inv s (s.leave d s') :=
  ⟨U.dispatch ha h.kept, h.record⟩

theorem dispatcher (U : Upheld ok R Inv) (hinv : invoke.Passes p R Inv around) (hI : Inv around s)
    {depth : Nat} {manner : Manner} {path : String} {d : Dispatcher ε} {r : Except DispatchError Unit}
    (hd : p.dispatcherAt? depth path = some d) (h : d.dispatch invoke manner s = some (r, s')) :
    Passage p R Inv s s' := by
  obtain ⟨hmatch, -, -⟩ := Pipeline.dispatcherAt?_eq_some hd
  rcases Dispatcher.dispatch_eq_some h with ⟨-, -, rfl⟩ | ⟨ha, s₁, hrun, rfl⟩
  · exact U.refl_passage _
  · exact U.leave_passage ha (hinv hI ha hmatch rfl hrun)

theorem dispatchAt (U : Upheld ok R Inv) (hinv : invoke.Passes p R Inv around) (hI : Inv around s)
    {depth : Nat} {manner : Manner} {path : String} {r : Option (Except DispatchError Unit)}
    (h : p.dispatchAt invoke depth manner path s = some (r, s')) : Passage p R Inv s s' := by
  rcases Pipeline.dispatchAt_eq_some h with ⟨-, -, rfl⟩ | ⟨d, result, hd, -, hrun⟩
  · exact U.refl_passage _
  · exact U.dispatcher hinv hI hd hrun

theorem serveWith (U : Upheld ok R Inv) (hinv : invoke.Passes p R Inv around) (hI : Inv around s)
    {r : Except DispatchError Bool} (h : p.serveWith invoke s = some (r, s')) :
    Passage p R Inv s s' := by
  rcases Pipeline.serveWith_eq_some h with ⟨-, -, rfl⟩ | ⟨d, path, result, s₁, hd, hrun, -, rfl⟩
  · exact U.refl_passage _
  · have ha : s.Admits ⟨.request, d.target path s.chain.view.contextPath⟩ := nofun
    exact U.leave_passage ha (hinv hI ha (Pipeline.serving?_eq_some hd) rfl hrun)

/-- A program whose steps are of the kind, in surroundings that pass. -/
theorem run (U : Upheld ok R Inv) (hinv : invoke.Passes p R Inv around) {depth : Nat}
    {program : Program ε} (hp : program.Takes ok) {s s' : Session ε} (hI : Inv around s)
    {r : Except Failure Unit} (h : program.run (p.surroundings invoke depth) s = some (r, s')) :
    Passage p R Inv s s' := by
  induction program generalizing s with
  | finish =>
    cases h
    exact U.refl_passage _
  | fail failure =>
    cases h
    exact U.refl_passage _
  | note event next ih =>
    have hn := U.note s (.noted event)
    exact U.trans_passage (quiet_passage hn [event] rfl) (ih hp (U.kept hI hn) h)
  | recollect next ih => exact ih _ (hp _) hI h
  | look next ih => exact ih _ _ (hp _ _) hI h
  | request step next ih =>
    have hs := U.request s hp.1
    exact U.trans_passage (quiet_passage hs [] (by simp)) (ih _ (hp.2 _) (U.kept hI hs) h)
  | respond step next ih =>
    have hs := U.respond s step
    exact U.trans_passage (quiet_passage hs [] (by simp)) (ih _ (hp _) (U.kept hI hs) h)
  | find path next ih => exact ih _ (hp _) hI h
  | dispatch manner path next ih =>
    simp only [Program.run] at h
    split at h
    · cases h
    next reply s₁ hd =>
      have hpass := U.dispatchAt hinv hI hd
      exact U.trans_passage hpass (ih _ (hp _) (U.kept hI hpass.kept) h)
  | serve next ih =>
    simp only [Program.run] at h
    split at h
    · cases h
    next reply s₁ hd =>
      have hpass := U.serveWith hinv hI hd
      exact U.trans_passage hpass (ih _ (hp _) (U.kept hI hpass.kept) h)

/-- Invocations pass, however deep dispatches may be nested. -/
theorem passes (U : Upheld ok R Inv) (hp : p.Takes ok) (limit : Nat) (around : List Dispatched) :
    (p.invoke limit around).Passes p R Inv around := by
  induction limit generalizing around with
  | zero =>
    intro d path dispatched depth s r s' _ _ _ _ h
    cases h
  | succ n ih =>
    intro d path dispatched depth s r s' hI ha hmatch htarget h
    obtain ⟨n', result, hn, -, hrun⟩ := Pipeline.invoke_eq_some h
    cases hn
    have hnote := U.note (s.enter dispatched)
      (.invoked (Pipeline.invocation d dispatched around depth (s.enter dispatched)))
    have hentered : Passage p R Inv (s.enter dispatched) ((s.enter dispatched).add
        (.invoked (Pipeline.invocation d dispatched around depth (s.enter dispatched)))) := by
      refine ⟨hnote, _, rfl, fun i hi => ?_⟩
      cases List.mem_singleton.1 hi
      exact ⟨s, hI, ha, ⟨d, path, hmatch, rfl, rfl, htarget⟩, rfl, rfl⟩
    -- Dispatches of this handler have one level less to go, which is what `ih` is about.
    have hinside := U.kept (U.enter hI ha) hnote
    exact U.trans_passage hentered
      (U.run (ih (dispatched :: around)) (hp d (Pipeline.mem_of_firstMatch? hmatch) _) hinside hrun)

end Upheld

/-- A relation that is kept, whatever the dispatches under way. -/
theorem Conserved.upheld {ok : Chain.Step → Prop} {R : Session ε → Session ε → Prop}
    (C : Conserved ok R) : Upheld ok R fun _ _ => True :=
  { C with kept := fun _ _ => trivial, enter := fun _ _ => trivial }

/-- Runs do nothing to the chain but take steps on it: those of the handlers and those of
dispatch. -/
theorem upheld_leadsTo {ok : Chain.Step → Prop} (hok : ∀ s : Chain.Step, s.OfDispatch → ok s)
    (c : Chain Request) :
    Upheld ok (fun s s' : Session ε => Chain.LeadsTo ok s.chain s'.chain)
      fun _ s => Chain.LeadsTo ok c s.chain where
  refl s := .refl s.chain
  trans h h' := h.trans h'
  note s _ := .refl s.chain
  request s _ hs := .step s.chain hs
  respond s _ := .refl s.chain
  dispatch _ h := ((Chain.LeadsTo.enter hok _ _).trans h).trans (.leave hok _ _ _)
  kept h h' := h.trans h'
  enter h _ := h.trans (.enter hok _ _)

/-- Whatever a run invokes, it enters from a chain that steps have made of the first one. -/
theorem Pipeline.invoked_from {ok : Chain.Step → Prop} (hok : ∀ s : Chain.Step, s.OfDispatch → ok s)
    {p : Pipeline ε} (hp : p.Takes ok) {limit : Nat} {r : Request} {outlet : Outlet} {s' : Session ε}
    (h : (∃ result, p.serve limit (.start r outlet) = some (result, s')) ∨
      ∃ manner path result, p.dispatch limit manner path (.start r outlet) = some (result, s')) :
    ∀ i ∈ s'.invocations, ∃ s : Session ε, Chain.LeadsTo ok (.base r) s.chain ∧ i.EnteredFrom p s := by
  intro i hi
  have U : Upheld ok _ fun _ (s : Session ε) => Chain.LeadsTo ok (.base r) s.chain :=
    upheld_leadsTo hok (.base r)
  have hpasses := U.passes hp limit []
  have hstart : Chain.LeadsTo ok (.base r) (.start r outlet : Session ε).chain := .refl _
  have hrecord : ∃ new, s'.record = [] ++ new ∧ ∀ i, .invoked i ∈ new →
      ∃ s : Session ε, Chain.LeadsTo ok (.base r) s.chain ∧ i.EnteredFrom p s := by
    rcases h with ⟨result, h⟩ | ⟨manner, path, result, h⟩
    · exact (U.serveWith hpasses hstart h).record
    · exact (U.dispatchAt hpasses hstart h).record
  obtain ⟨new, hnew, hinvoked⟩ := hrecord
  rw [Session.mem_invocations_iff, hnew] at hi
  exact hinvoked i hi

end RequestDispatch
