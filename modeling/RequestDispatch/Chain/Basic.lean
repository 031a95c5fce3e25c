import RequestDispatch.Chain.Decorator
import RequestDispatch.Chain.Level

/-! Chains.

A chain is a request with layers around it. The outermost layer is what a handler sees;
each layer shows what is beneath it, changed. Decorators are put around the whole chain,
dispatch levels directly around the request, beneath all other layers. -/
namespace RequestDispatch

inductive Layer where
  | forward (level : Level)
  | inclusion (level : Level)
  | decorator (d : Decorator)

inductive Layer.Kind where
  | forward
  | inclusion
  | decorator
  deriving DecidableEq, Repr

namespace Layer

def kind : Layer → Kind
  | forward _ => .forward
  | inclusion _ => .inclusion
  | decorator _ => .decorator

def view (inner : View) : Layer → View
  | forward l | inclusion l => l.view inner
  | decorator d => d.view inner

/-- The layer after a write, and the write it passes on. -/
def pass (inner : View) (w : Write) : Layer → Layer × Option Write
  | forward l => let (l, passed) := l.pass inner w; (forward l, passed)
  | inclusion l => let (l, passed) := l.pass inner w; (inclusion l, passed)
  | decorator d => (decorator d, d.pass inner w)

/-- Whether the layer is an inclusion of a URI. -/
def includes (uri : String) : Layer → Bool
  | inclusion l => l.replacement.requestUri = uri
  | forward _ | decorator _ => false

end Layer

/-- A request of type `β` with layers around it. -/
inductive Chain (β : Type) where
  | base (request : β)
  | layer (outer : Layer) (inner : Chain β)

namespace Chain
variable {β : Type}

/-- The layers from the outermost to the one around the request. -/
def layers : Chain β → List Layer
  | base _ => []
  | layer outer inner => outer :: inner.layers

/-- The request at the bottom. -/
def bottom : Chain β → β
  | base request => request
  | layer _ inner => inner.bottom

def kinds (c : Chain β) : List Layer.Kind := c.layers.map (·.kind)

def depth (c : Chain β) : Nat := c.layers.length

def decorate (c : Chain β) (d : Decorator) : Chain β := layer (.decorator d) c

/-- The request at the bottom exchanged or changed. -/
def mapBottom (f : β → β) : Chain β → Chain β
  | base request => base (f request)
  | layer outer inner => layer outer (inner.mapBottom f)

/-! ### Reading and writing -/

variable [Underlying β]

/-- What the chain answers. -/
def view : Chain β → View
  | base request => Underlying.view request
  | layer outer inner => outer.view inner.view

/-- Each layer takes its part of a write and passes on the rest. -/
def write : Chain β → Write → Chain β
  | base request, w => base (Underlying.write request w)
  | layer outer inner, w =>
    let (outer, passed) := outer.pass inner.view w
    match passed with
    | some w => layer outer (inner.write w)
    | none => layer outer inner

def writeAll (c : Chain β) (ws : List Write) : Chain β := ws.foldl write c

end Chain
end RequestDispatch
