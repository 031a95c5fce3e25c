import Mathlib.Data.List.Infix
import Mathlib.Logic.Relation
import RequestDispatch.Proofs.Dispatch.OneTarget

/-! Failures passed on.

A handler that fails because a dispatch it made failed passes the failure on, and whoever dispatched to it
gets a failure one level deeper (`Failure.within`). What each level shows is told once: in front of the
message, and in the list of causes from its own cause on (`Failure.texts_within`, by induction on the
levels). So it comes about in runs as well (`Errand.FailsThrough`): each handler comes to a dispatch, whatever
it did before, and from its failure to its own, whatever it does in between. -/
namespace RequestDispatch

/-! ### Failures within failures -/

/-- What a handler that failed puts in front of the message. -/
def DispatchError.lead (name : String) : String := "handler '" ++ name ++ "' failed: "

/-- What handlers that fail one within the other, the outermost first, make of a message. -/
def DispatchError.told (names : List String) (message : String) : String :=
  (names.map lead).foldr (· ++ ·) message

namespace Failure
variable {root : Failure}

/-- The failure of the first of some handlers, which all fail because the next one does, but for the last,
which fails by itself. -/
def within (root : Failure) : List String → Failure
  | [] => root
  | name :: names => .dispatch (.handler name (root.within names))

theorem message_within (root : Failure) (names : List String) :
    (root.within names).message = DispatchError.told names root.message := by
  induction names with
  | nil => rfl
  | cons name names ih =>
    show DispatchError.lead name ++ (root.within names).message = _
    rw [ih]
    rfl

/-- Of a failure and its causes, each tells what is left of the levels. -/
theorem texts_within (h : root.causes = []) (names : List String) :
    (root.within names).message :: (root.within names).causes =
      names.tails.map (DispatchError.told · root.message) := by
  induction names with
  | nil => rw [within, h]; rfl
  | cons name names ih =>
    have hcauses : (root.within (name :: names)).causes =
        (root.within names).message :: (root.within names).causes := rfl
    rw [hcauses, ih, message_within, List.tails, List.map_cons]

end Failure

/-- What the error of a dispatch shows of handlers that failed one within the other, the outermost first:
each of them once, and the message with which the innermost one failed. -/
structure DispatchError.Reports (e : DispatchError) (names : List String) (text : String) : Prop where
  message : e.message = told names text
  length : e.causes.length = names.length
  cause : ∀ k < names.length, e.causes[k]? = some (told (names.drop (k + 1)) text)
  last : e.causes.getLast? = some text

/-- A failure of one handler or more is reported in full. -/
theorem DispatchError.reports_of_within {e : DispatchError} {root : Failure} {name : String}
    {names : List String} (h : Failure.dispatch e = root.within (name :: names)) (hroot : root.causes = []) :
    e.Reports (name :: names) root.message := by
  have hmessage : e.message = told (name :: names) root.message := by
    rw [← Failure.message_within, ← h, Failure.message]
  have hcauses : e.causes = names.tails.map (told · root.message) := by
    have htexts := Failure.texts_within hroot (name :: names)
    rw [← h, List.tails, List.map_cons] at htexts
    exact (List.cons.inj htexts).2
  have hcause : ∀ k < (name :: names).length,
      e.causes[k]? = some (told ((name :: names).drop (k + 1)) root.message) := by
    intro k hk
    rw [List.length_cons] at hk
    simp [hcauses, hk]
  have hlength : e.causes.length = (name :: names).length := by simp [hcauses]
  have hlast : e.causes[names.length]? = some root.message := by
    rw [hcause names.length (by simp), List.drop_of_length_le (by simp)]
    rfl
  refine ⟨hmessage, hlength, hcause, ?_⟩
  rw [List.getLast?_eq_getElem?, hlength]
  exact hlast

/-! ### One handler -/

variable {ε : Type}

namespace Program

/-- What a program comes to next. A dispatch is one step, with all that happens inside it. -/
def step? (around : Surroundings ε) : Program ε × Session ε → Option (Program ε × Session ε)
  | (.finish, _) | (.fail _, _) => none
  | (.note event next, s) => some (next, s.add (.noted event))
  | (.recollect next, s) => some (next s.notes, s)
  | (.look next, s) => some (next s.chain s.outlet, s)
  | (.request step next, s) =>
    let (reply, chain) := s.chain.step step
    some (next reply, { s with chain })
  | (.respond step next, s) =>
    let (reply, outlet) := s.outlet.step step
    some (next reply, { s with outlet })
  | (.find path next, s) => some (next (around.find path), s)
  | (.dispatch manner path next, s) => (around.dispatch manner path s).map fun (reply, s) => (next reply, s)
  | (.serve next, s) => (around.serve s).map fun (reply, s) => (next reply, s)

/-- A program comes to some moment in some number of steps. -/
def Comes (around : Surroundings ε) : Program ε × Session ε → Program ε × Session ε → Prop :=
  Relation.ReflTransGen fun m m' => step? around m = some m'

section Run
variable {around : Surroundings ε} {m m' : Program ε × Session ε}

theorem run_of_step? (h : step? around m = some m') : m.1.run around m.2 = m'.1.run around m'.2 := by
  obtain ⟨program, s⟩ := m
  cases program with
  | finish | fail _ => cases h
  | note _ _ | recollect _ | look _ | request _ _ | respond _ _ | find _ _ =>
    cases h
    rfl
  | dispatch manner path next =>
    obtain ⟨⟨reply, s₁⟩, hreply, rfl⟩ := Option.map_eq_some_iff.1 h
    simp only [run, hreply]
  | serve next =>
    obtain ⟨⟨reply, s₁⟩, hreply, rfl⟩ := Option.map_eq_some_iff.1 h
    simp only [run, hreply]

/-- A run is what it comes to. -/
theorem Comes.run_eq (h : Comes around m m') : m.1.run around m.2 = m'.1.run around m'.2 := by
  induction h with
  | refl => rfl
  | tail _ hstep ih => exact ih.trans (run_of_step? hstep)

end Run
end Program

/-- An errand: a handler to be invoked for a dispatch, at some depth and inside other dispatches, with some further
levels to go, and the session inside the dispatch. -/
structure Errand (ε : Type) where
  definition : Definition (Handler ε)
  dispatched : Dispatched
  depth : Nat
  around : List Dispatched
  limit : Nat
  session : Session ε

/-- The errand on which a dispatcher sends its handler. -/
def Dispatcher.errand (d : Dispatcher ε) (manner : Manner) (around : List Dispatched) (limit : Nat)
    (s : Session ε) : Errand ε :=
  ⟨d.definition, d.dispatched manner s, d.depth, around, limit, s.enter (d.dispatched manner s)⟩

/-- The errand on which a request sends the handler whose mapping serves it. -/
def Session.errand (s : Session ε) (d : Definition (Handler ε)) (path : String) (around : List Dispatched)
    (limit : Nat) : Errand ε :=
  let dispatched : Dispatched := ⟨.request, d.target path s.chain.view.contextPath⟩
  ⟨d, dispatched, 0, around, limit, s.enter dispatched⟩

namespace Errand
variable (p : Pipeline ε) (x : Errand ε)

/-- What comes of it. -/
def result : Run ε (Except DispatchError Unit) :=
  p.invoke (x.limit + 1) x.around x.definition x.dispatched x.depth x.session

def surroundings : Surroundings ε := p.surroundings (p.invoke x.limit (x.dispatched :: x.around)) x.depth

/-- The handler's program and the session when it starts. -/
def start : Program ε × Session ε :=
  (x.definition.handler.content.service ⟨x.definition.name, x.dispatched.kind, x.depth⟩,
    x.session.add (.invoked (Pipeline.invocation x.definition x.dispatched x.around x.depth x.session)))

/-- The handler comes to some moment of its work. -/
def Comes (m : Program ε × Session ε) : Prop := Program.Comes (x.surroundings p) x.start m

/-- From a dispatch that failed, the handler comes to fail because of it. -/
def PassesOn (next : Option (Except DispatchError Unit) → Program ε) (e : DispatchError) (s : Session ε) :
    Prop :=
  ∃ s', Program.Comes (x.surroundings p) (next (some (.error e)), s) (.fail (.dispatch e), s')

variable {p x}

/-- A handler that comes to fail fails the dispatch, with its name in front. -/
theorem result_of_fail {failure : Failure} {s : Session ε} (h : x.Comes p (.fail failure, s)) :
    x.result p = some (.error (.handler x.definition.name failure), s) := by
  have hrun : x.start.1.run (x.surroundings p) x.start.2 = some (.error failure, s) := h.run_eq
  unfold result Pipeline.invoke
  simp only
  split
  next hnone => exact absurd (hnone.symm.trans hrun) nofun
  next r s' hsome =>
    cases hsome.symm.trans hrun
    rfl

/-- A dispatch in the handler's work is the first step from it, with the result that the dispatch has. -/
theorem comes_of_dispatch {manner : Manner} {path : String} {s s' : Session ε} {e : DispatchError}
    {next : Option (Except DispatchError Unit) → Program ε}
    (hcomes : x.Comes p (.dispatch manner path next, s))
    (hdispatch : (x.surroundings p).dispatch manner path s = some (some (.error e), s')) :
    x.Comes p (next (some (.error e)), s') := by
  refine Relation.ReflTransGen.tail hcomes ?_
  simp only [Program.step?, hdispatch, Option.map_some]

end Errand

/-! ### Handlers within handlers -/

namespace Pipeline
variable {p : Pipeline ε} {s : Session ε}

/-- A dispatch has the result of its handler's errand. -/
theorem dispatchAt_of_errand {depth limit : Nat} {manner : Manner} {path : String} {d : Dispatcher ε}
    {around : List Dispatched} (hd : p.dispatcherAt? depth path = some d)
    (hadmits : s.Admits (d.dispatched manner s)) {r : Except DispatchError Unit} {s' : Session ε}
    (h : (d.errand manner around limit s).result p = some (r, s')) :
    p.dispatchAt (p.invoke (limit + 1) around) depth manner path s =
      some (some r, s.leave (d.dispatched manner s) s') := by
  have hinvoke : p.invoke (limit + 1) around d.definition (d.dispatched manner s) d.depth
      (s.enter (d.dispatched manner s)) = some (r, s') := h
  simp only [dispatchAt, hd, Dispatcher.dispatch_of_admits hadmits, hinvoke, Option.map_some]

theorem dispatchAt_refused {depth : Nat} {path : String} {d : Dispatcher ε} {invoke : Invoke ε}
    (hd : p.dispatcherAt? depth path = some d) (hcommitted : s.outlet.response.committed = true) :
    p.dispatchAt invoke depth .forward path s = some (some (.error .committed), s) := by
  have hrefused : ¬ s.Admits (d.dispatched .forward s) := fun h => by simp [h rfl] at hcommitted
  simp only [dispatchAt, hd, Dispatcher.dispatch_of_not_admits hrefused, Option.map_some]

theorem serveWith_of_errand {d : Definition (Handler ε)} {path : String} {around : List Dispatched} {limit : Nat}
    (hd : p.serving? s.chain.view = some (d, path)) {r : Except DispatchError Unit} {s' : Session ε}
    (h : (s.errand d path around limit).result p = some (r, s')) :
    p.serveWith (p.invoke (limit + 1) around) s = some (r.map fun _ => true,
      s.leave ⟨.request, d.target path s.chain.view.contextPath⟩ s') := by
  have hinvoke : p.invoke (limit + 1) around d ⟨.request, d.target path s.chain.view.contextPath⟩ 0
      (s.enter ⟨.request, d.target path s.chain.view.contextPath⟩) = some (r, s') := h
  rw [serveWith_of_some hd rfl, hinvoke, Option.map_some]

end Pipeline

/-- The handlers of these names fail one within the other, the outermost first. The innermost one fails with
a message of its own, or because a forward is refused. Each other one fails because of the forward or the
inclusion that the next one fails, and for the same reason. -/
inductive Errand.FailsThrough (p : Pipeline ε) : Errand ε → List String → String → Prop
  | own {x : Errand ε} {message : String} {s : Session ε} :
    x.Comes p (.fail (.plain message []), s) → FailsThrough p x [x.definition.name] message
  | refused {x : Errand ε} {path : String} {next : Option (Except DispatchError Unit) → Program ε}
      {s : Session ε} {d : Dispatcher ε} :
    x.Comes p (.dispatch .forward path next, s) → p.dispatcherAt? (x.depth + 1) path = some d →
    s.outlet.response.committed = true → x.PassesOn p next .committed s →
    FailsThrough p x [x.definition.name] DispatchError.committed.message
  | nested {x : Errand ε} {limit : Nat} {manner : Manner} {path : String}
      {next : Option (Except DispatchError Unit) → Program ε} {s : Session ε} {d : Dispatcher ε}
      {names : List String} {message : String} :
    x.limit = limit + 1 → x.Comes p (.dispatch manner path next, s) →
    p.dispatcherAt? (x.depth + 1) path = some d → s.Admits (d.dispatched manner s) →
    FailsThrough p (d.errand manner (x.dispatched :: x.around) limit s) names message →
    (∀ e s', (d.errand manner (x.dispatched :: x.around) limit s).result p = some (.error e, s') →
      x.PassesOn p next e (s.leave (d.dispatched manner s) s')) →
    FailsThrough p x (x.definition.name :: names) message

namespace Errand
variable {p : Pipeline ε} {x : Errand ε}

/-- A handler that passes on the failure of a dispatch fails one level further out. -/
theorem result_of_passesOn {manner : Manner} {path : String} {s s' : Session ε} {e : DispatchError}
    {next : Option (Except DispatchError Unit) → Program ε}
    (hcomes : x.Comes p (.dispatch manner path next, s))
    (hdispatch : (x.surroundings p).dispatch manner path s = some (some (.error e), s'))
    (hpasses : x.PassesOn p next e s') :
    ∃ s₁, x.result p = some (.error (.handler x.definition.name (.dispatch e)), s₁) := by
  obtain ⟨s₁, hfail⟩ := hpasses
  exact ⟨s₁, result_of_fail ((comes_of_dispatch hcomes hdispatch).trans hfail)⟩

/-- What comes of it is the failure of the innermost handler within those of all others. -/
theorem FailsThrough.result {names : List String} {message : String} (h : x.FailsThrough p names message) :
    ∃ (e : DispatchError) (s' : Session ε) (root : Failure), x.result p = some (.error e, s') ∧
      .dispatch e = root.within names ∧ root.causes = [] ∧ root.message = message := by
  induction h with
  | own hfail => exact ⟨_, _, _, result_of_fail hfail, rfl, rfl, rfl⟩
  | refused hcomes hd hcommitted hpasses =>
    obtain ⟨s', hresult⟩ := result_of_passesOn hcomes (Pipeline.dispatchAt_refused hd hcommitted) hpasses
    exact ⟨_, s', .dispatch .committed, hresult, rfl, rfl, rfl⟩
  | @nested x limit manner path next s d names message hlimit hcomes hd hadmits _ hpasses ih =>
    obtain ⟨e, s', root, hinner, hwithin, hroot⟩ := ih
    have hdispatch : (x.surroundings p).dispatch manner path s =
        some (some (.error e), s.leave (d.dispatched manner s) s') := by
      show p.dispatchAt (p.invoke x.limit (x.dispatched :: x.around)) (x.depth + 1) manner path s = _
      rw [hlimit]
      exact Pipeline.dispatchAt_of_errand hd hadmits hinner
    obtain ⟨s₁, hresult⟩ := result_of_passesOn hcomes hdispatch (hpasses e s' hinner)
    exact ⟨_, s₁, root, hresult, by rw [hwithin]; rfl, hroot⟩

theorem FailsThrough.reports {names : List String} {message : String} (h : x.FailsThrough p names message) :
    ∃ e s', x.result p = some (.error e, s') ∧ e.Reports names message := by
  obtain ⟨e, s', root, hresult, hwithin, hroot, hmessage⟩ := h.result
  have hreports : e.Reports names root.message := by
    cases h <;> exact DispatchError.reports_of_within hwithin hroot
  exact ⟨e, s', hresult, hmessage ▸ hreports⟩

end Errand

/-- **Nested failures are told once each.** Where handlers fail one within the other, each but the innermost
because the dispatch it made failed, the outermost dispatch fails. Its error has the name of each of them in
front of the message with which the innermost one failed, the outermost first, and as many causes as there are
handlers: each tells what is left when the first names are taken off, one more for each cause, and the last one
the message alone. So it is whether the outermost dispatch serves a request, forwards it or includes another. -/
theorem Pipeline.tells_nested_failures (p : Pipeline ε) (limit : Nat) (around : List Dispatched) (s : Session ε)
    {names : List String} {message : String} :
    (∀ d path, p.serving? s.chain.view = some (d, path) →
      (s.errand d path around limit).FailsThrough p names message →
      ∃ e s', p.serveWith (p.invoke (limit + 1) around) s = some (.error e, s') ∧ e.Reports names message) ∧
    ∀ depth manner path d, p.dispatcherAt? depth path = some d → s.Admits (d.dispatched manner s) →
      (d.errand manner around limit s).FailsThrough p names message →
      ∃ e s', p.dispatchAt (p.invoke (limit + 1) around) depth manner path s = some (some (.error e), s') ∧
        e.Reports names message := by
  constructor
  · intro d path hd h
    obtain ⟨e, s', hresult, hreports⟩ := h.reports
    exact ⟨e, _, serveWith_of_errand hd hresult, hreports⟩
  · intro depth manner path d hd hadmits h
    obtain ⟨e, s', hresult, hreports⟩ := h.reports
    exact ⟨e, _, dispatchAt_of_errand hd hadmits hresult, hreports⟩

/-- A page that includes a fragment, which forwards to an end, which fails. Each passes on what it gets. -/
def relays : Pipeline Unit where
  registry := ⟨[ending, fragment, page]⟩
  context := ⟨"", .empty⟩
where
  ending := .ofHandler (.literal "/end") "end" ⟨0, { service _ := .fail (.plain "no paper" []) }⟩ .empty
  fragment :=
    .ofHandler (.literal "/fragment") "fragment" ⟨1, { service _ := .dispatch .forward "/end" passOn }⟩ .empty
  page :=
    .ofHandler (.literal "/page") "page" ⟨2, { service _ := .dispatch .inclusion "/fragment" passOn }⟩ .empty
  passOn : Option (Except DispatchError Unit) → Program Unit
    | some (.error e) => .fail (.dispatch e)
    | _ => .finish

namespace relays

def fragmentAt (depth : Nat) : Dispatcher Unit := ⟨fragment, "/fragment", depth⟩

def endAt (depth : Nat) : Dispatcher Unit := ⟨ending, "/end", depth⟩

def pageAt (depth : Nat) : Dispatcher Unit := ⟨page, "/page", depth⟩

theorem passOn_passesOn (x : Errand Unit) (e : DispatchError) (s : Session Unit) :
    x.PassesOn relays passOn e s := ⟨s, .refl⟩

def askedFor (outlet : Outlet) : Session Unit := .start (.get "/page") outlet

def untouched : Session Unit := askedFor (.fresh 64 none)

/-- What was written before the request gets to the page has been sent. -/
def sent : Session Unit := askedFor ((Outlet.fresh 64 none).change (·.flush))

theorem untouched_failsThrough :
    (untouched.errand page "/page" [] 2).FailsThrough relays ["page", "fragment", "end"] "no paper" := by
  have hfragment : relays.dispatcherAt? 1 "/fragment" = some (fragmentAt 1) := rfl
  have hend : relays.dispatcherAt? 2 "/end" = some (endAt 2) := rfl
  refine .nested rfl .refl hfragment nofun ?_ fun e _ _ => passOn_passesOn _ e _
  refine .nested rfl .refl hend (fun _ => rfl) ?_ fun e _ _ => passOn_passesOn _ e _
  exact .own .refl

/-- The forward of the fragment is refused where something has been sent. -/
theorem sent_failsThrough :
    ((pageAt 1).errand .inclusion [] 1 sent).FailsThrough relays ["page", "fragment"]
      DispatchError.committed.message := by
  have hfragment : relays.dispatcherAt? 2 "/fragment" = some (fragmentAt 2) := rfl
  have hend : relays.dispatcherAt? 3 "/end" = some (endAt 3) := rfl
  refine .nested rfl .refl hfragment nofun ?_ fun e _ _ => passOn_passesOn _ e _
  exact .refused .refl hend rfl (passOn_passesOn _ _ _)

end relays

/-- The page is asked for, and it is included when something has been sent. -/
theorem relays_tell_failures :
    (∃ e s', relays.serve 3 relays.untouched = some (.error e, s') ∧
      e.Reports ["page", "fragment", "end"] "no paper") ∧
    ∃ e s', relays.dispatch 2 .inclusion "/page" relays.sent = some (some (.error e), s') ∧
      e.Reports ["page", "fragment"] DispatchError.committed.message := by
  have hserving : relays.serving? relays.untouched.chain.view = some (relays.page, "/page") := rfl
  have hpage : relays.dispatcherAt? 1 "/page" = some (relays.pageAt 1) := rfl
  constructor
  · exact (relays.tells_nested_failures 2 [] relays.untouched).1 _ _ hserving relays.untouched_failsThrough
  · exact (relays.tells_nested_failures 1 [] relays.sent).2 1 .inclusion "/page" _ hpage nofun
      relays.sent_failsThrough

/-- What is shown of the page, and its causes. -/
example : ((Failure.plain "no paper" []).within ["page", "end"]).message =
      "handler 'page' failed: handler 'end' failed: no paper" ∧
    ((Failure.plain "no paper" []).within ["page", "end"]).causes =
      ["handler 'end' failed: no paper", "no paper"] := by decide

end RequestDispatch
