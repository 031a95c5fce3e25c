import RequestDispatch.Dispatch.Session
import RequestDispatch.Registry.Lifecycle

/-! Dispatch.

A pipeline has a request served by the first mapping that matches it, and lets handlers
forward the request or include others. Around each invocation the chain is given the
paths of the target and brought back afterwards, whatever came of it. A handler may
dispatch to itself without end, so a run is given a limit on how deep dispatches may be
nested; a run that reaches it has no outcome, and a run that does not is the same under
any higher limit. -/
namespace RequestDispatch

structure Pipeline (ε : Type) where
  registry : Registry (Handler ε)
  context : AppContext

/-- A way to dispatch to a path: the mapping it leads to, the path without parameters, and
how deep the dispatch is. -/
structure Dispatcher (ε : Type) where
  definition : Definition (Handler ε)
  path : String
  depth : Nat

variable {ε : Type}

/-- What a run gives: a result and the session afterwards, unless it went too deep. -/
abbrev Run (ε α : Type) := Option (α × Session ε)

/-- What a dispatch needs to invoke a handler. -/
abbrev Invoke (ε : Type) :=
  Definition (Handler ε) → Dispatched → (depth : Nat) → Session ε → Run ε (Except DispatchError Unit)

/-! ### Programs -/

/-- What a program asks of the pipeline it runs in. -/
structure Surroundings (ε : Type) where
  find : String → Option Found
  dispatch : Manner → String → Session ε → Run ε (Option (Except DispatchError Unit))
  serve : Session ε → Run ε (Except DispatchError Bool)

def Program.run (around : Surroundings ε) :
    Program ε → Session ε → Run ε (Except Failure Unit)
  | .finish, s => some (.ok (), s)
  | .fail failure, s => some (.error failure, s)
  | .note event next, s => next.run around (s.add (.noted event))
  | .recollect next, s => (next s.notes).run around s
  | .look next, s => (next s.chain s.outlet).run around s
  | .request step next, s =>
    let (reply, chain) := s.chain.step step
    (next reply).run around { s with chain }
  | .respond step next, s =>
    let (reply, outlet) := s.outlet.step step
    (next reply).run around { s with outlet }
  | .find path next, s => (next (around.find path)).run around s
  | .dispatch manner path next, s =>
    match around.dispatch manner path s with
    | none => none
    | some (reply, s) => (next reply).run around s
  | .serve next, s =>
    match around.serve s with
    | none => none
    | some (reply, s) => (next reply).run around s

/-! ### Forwards and inclusions -/

namespace Dispatcher

def found (d : Dispatcher ε) : Found := ⟨d.definition.name, d.path⟩

/-- What the handler is told about its path. -/
def target (d : Dispatcher ε) (s : Session ε) : Target :=
  d.definition.target d.path s.chain.view.contextPath

/-- Forwards: nothing of the response has been sent, and what has been written is dropped. -/
def forward (invoke : Invoke ε) (d : Dispatcher ε) (s : Session ε) :
    Run ε (Except DispatchError Unit) :=
  if s.outlet.response.committed then some (.error .committed, s)
  else
    let target := d.target s
    let (outcome, chain) := s.chain.forward target true
    match invoke d.definition ⟨.forward, target⟩ d.depth
        { s with chain, outlet := s.outlet.change (·.reset) } with
    | none => none
    | some (result, s) => some (result, { s with chain := (s.chain.unforward? outcome).getD s.chain })

/-- Includes: what the handler writes is added to the response. -/
def includeTarget (invoke : Invoke ε) (d : Dispatcher ε) (s : Session ε) :
    Run ε (Except DispatchError Unit) :=
  let target := d.target s
  match invoke d.definition ⟨.inclusion, target⟩ d.depth
      { s with chain := s.chain.includeTarget target } with
  | none => none
  | some (result, s) =>
    some (result, { s with chain := (s.chain.uninclude? target.requestUri).getD s.chain })

def dispatch (invoke : Invoke ε) (d : Dispatcher ε) : Manner → Session ε →
    Run ε (Except DispatchError Unit)
  | .forward => d.forward invoke
  | .inclusion => d.includeTarget invoke

end Dispatcher

/-! ### Pipelines -/

namespace Pipeline

/-- The dispatcher for a path, at some depth. -/
def dispatcherAt? (p : Pipeline ε) (depth : Nat) (path : String) : Option (Dispatcher ε) :=
  let path := Path.bare path
  (p.registry.firstMatch? path).map fun d => ⟨d, path, depth⟩

/-- The dispatcher for a path, for use outside any handler. -/
def dispatcher? (p : Pipeline ε) (path : String) : Option (Dispatcher ε) := p.dispatcherAt? 1 path

/-- The mapping that serves the session's request, with its path beneath the context path. -/
def serving? (p : Pipeline ε) (v : View) : Option (Definition (Handler ε) × String) :=
  (Path.relative? v.requestUri v.contextPath).bind fun relative =>
    let path := Path.bare relative
    (p.registry.firstMatch? path).map fun d => (d, path)

/-- Has the request served, given a way to invoke handlers. Answers whether a mapping
serves it. -/
def serveWith (p : Pipeline ε) (invoke : Invoke ε) (s : Session ε) :
    Run ε (Except DispatchError Bool) :=
  let v := s.chain.view
  match p.serving? v with
  | none => some (.ok false, s)
  | some (d, path) =>
    let target := d.target path v.contextPath
    let (outcome, chain) := s.chain.forward target false
    match invoke d ⟨.request, target⟩ 0 { s with chain := chain.write (.set managed (.bool true)) } with
    | none => none
    | some (result, s) =>
      let chain := s.chain.write (.remove managed)
      some (result.map fun _ => true, { s with chain := (chain.unforward? outcome).getD chain })

/-- Forwards to a path or includes it at some depth, given a way to invoke handlers. No
mapping may serve the path. -/
def dispatchAt (p : Pipeline ε) (invoke : Invoke ε) (depth : Nat) (manner : Manner) (path : String)
    (s : Session ε) : Run ε (Option (Except DispatchError Unit)) :=
  match p.dispatcherAt? depth path with
  | none => some (none, s)
  | some d => (d.dispatch invoke manner s).map fun (r, s) => (some r, s)

/-- What surrounds a handler at some depth, given a way to invoke others. -/
def surroundings (p : Pipeline ε) (deeper : Invoke ε) (depth : Nat) : Surroundings ε where
  find path := (p.dispatcherAt? (depth + 1) path).map (·.found)
  dispatch := p.dispatchAt deeper (depth + 1)
  serve := p.serveWith deeper

/-- Invokes the handler of a mapping, with `limit` further levels to go, inside the given
dispatches. -/
def invoke (p : Pipeline ε) : (limit : Nat) → (around : List Dispatched) → Invoke ε
  | 0, _ => fun _ _ _ _ => none
  | limit + 1, around => fun d dispatched depth s =>
    let situation : Situation := ⟨d.name, dispatched.kind, depth⟩
    let deeper := p.invoke limit (dispatched :: around)
    let s := s.add (.invoked ⟨situation, d.pattern, dispatched.target, around, s.chain, s.outlet⟩)
    match (d.handler.content.service situation).run (p.surroundings deeper depth) s with
    | none => none
    | some (result, s) => some (result.mapError (.handler d.name), s)

/-- Has the session's request served. -/
def serve (p : Pipeline ε) (limit : Nat) (s : Session ε) : Run ε (Except DispatchError Bool) :=
  p.serveWith (p.invoke limit []) s

/-- Forwards the session's request to a path or includes one, from outside any handler. No
mapping may serve the path. -/
def dispatch (p : Pipeline ε) (limit : Nat) (manner : Manner) (path : String) (s : Session ε) :
    Run ε (Option (Except DispatchError Unit)) :=
  p.dispatchAt (p.invoke limit []) 1 manner path s

/-- Sets up all handlers. -/
def setUp (p : Pipeline ε) :
    Pipeline ε × List (Definition (Handler ε)) × Except DispatchError Nat :=
  let (registry, attempts, result) :=
    p.registry.setUp fun d => d.handler.content.init (d.config p.context)
  ({ p with registry }, attempts, result)

/-- Takes down all handlers. -/
def takeDown (p : Pipeline ε) :
    Pipeline ε × List (Definition (Handler ε)) × List DispatchError :=
  let (registry, attempts, failures) := p.registry.takeDown (·.handler.content.destroy)
  ({ p with registry }, attempts, failures)

end Pipeline
end RequestDispatch
