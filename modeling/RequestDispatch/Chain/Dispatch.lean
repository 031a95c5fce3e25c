import RequestDispatch.Chain.Basic

/-! Dispatch on chains.

A forward gives the chain the paths of its target. If a forward level lies directly
around the request it takes the new paths and gives the old ones back; else a new level
is put there. An inclusion always puts a level of its own. Each is undone by its
counterpart, which says so if there is nothing to undo. -/
namespace RequestDispatch

/-- What a forward did, for the sake of undoing it. -/
inductive ForwardOutcome where
  | created
  | reused (previous : Target)
  deriving DecidableEq, Repr

/-- The paths that an inclusion tells of: those of its target, with the context path and the
query of the request. -/
def Target.origin (t : Target) (request : View) : Origin :=
  ⟨t.requestUri, request.contextPath, t.servletPath, t.pathInfo, request.queryString⟩

/-- The attributes of a phase that tell of some paths. -/
def Origin.recorded (phase : Reserved.Phase) (o : Origin) : List Write :=
  let put := fun detail value => Write.set (Reserved.name ⟨phase, detail⟩) (.ofText? value)
  [put .requestUri (some o.requestUri), put .contextPath (some o.contextPath),
    put .pathInfo o.pathInfo, put .queryString o.queryString,
    put .servletPath (some o.servletPath)]

namespace Chain
variable {β : Type}

/-! ### Layers around the request -/

/-- The chain with its request replaced by a chain. -/
def aboveBottom (make : β → Chain β) : Chain β → Chain β
  | base request => make request
  | layer outer inner => layer outer (inner.aboveBottom make)

/-- The forward level directly around the request. -/
def lastForward? : Chain β → Option Level
  | base _ => none
  | layer (.forward l) (base _) => some l
  | layer _ inner => inner.lastForward?

/-- The forward level directly around the request with other paths. -/
def replaceLast (t : Target) : Chain β → Chain β
  | base request => base request
  | layer (.forward l) (base request) => layer (.forward { l with replacement := t }) (base request)
  | layer outer inner => layer outer (inner.replaceLast t)

/-- The chain without the deepest layer of a kind, if it has one. -/
def removeDeepest? (kind : Layer → Bool) : Chain β → Option (Chain β)
  | base _ => none
  | layer outer inner =>
    match inner.removeDeepest? kind with
    | some inner => some (layer outer inner)
    | none => if kind outer then some inner else none

/-! ### Forwards and inclusions -/

variable [Underlying β]

/-- A new level around the request, with attributes written through it. -/
def addLevel (make : Level → Layer) (t : Target) (recorded : View → List Write)
    (c : Chain β) : Chain β :=
  c.aboveBottom fun request =>
    let v := Underlying.view request
    (layer (make (.ofTarget v t)) (base request)).writeAll (recorded v)

/-- Forwards the chain to a target. A new level records the paths that the chain showed, if it
is told to. -/
def forward (c : Chain β) (t : Target) (recordOrigin : Bool) : ForwardOutcome × Chain β :=
  match c.lastForward? with
  | some l => (.reused l.replacement, c.replaceLast t)
  | none =>
    let recorded := if recordOrigin then c.view.origin.recorded .forward else []
    (.created, c.addLevel .forward t fun _ => recorded)

/-- Undoes a forward, if there is a level it can have left. -/
def unforward? (c : Chain β) : ForwardOutcome → Option (Chain β)
  | .created => c.removeDeepest? (·.kind = .forward)
  | .reused previous => c.lastForward?.map fun _ => c.replaceLast previous

/-- Includes a target. -/
def includeTarget (c : Chain β) (t : Target) : Chain β :=
  c.addLevel .inclusion t fun request => (t.origin request).recorded .inclusion

/-- Undoes the latest inclusion of a URI, if there is one. -/
def uninclude? (c : Chain β) (uri : String) : Option (Chain β) :=
  c.removeDeepest? (·.includes uri)

end Chain
end RequestDispatch
