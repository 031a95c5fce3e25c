import RequestDispatch.Attribute.Reserved
import RequestDispatch.Chain.View

/-! Dispatch levels.

A forward or an inclusion puts a level between a request and its handler. The level
shows the paths of its target in place of those beneath it, and keeps the reserved
attributes that are written through it to itself. Both give way: where the request
beneath no longer answers what it answered when the level was made, its answer shows
through. All other attributes belong to the request beneath. -/
namespace RequestDispatch

/-- Values of reserved attributes. -/
abbrev Slots := Reserved → Option Value

def Slots.put (slots : Slots) (key : Reserved) (value : Option Value) : Slots :=
  fun k => if k = key then value else slots k

structure Level where
  /-- The reserved attributes beneath, when the level was made. -/
  snapshot : Slots
  /-- The reserved attributes written through the level. -/
  written : Slots
  /-- The paths beneath, when the level was made. -/
  covered : Target
  /-- The paths shown in their place. -/
  replacement : Target

namespace Level

/-- A level for a target over a request. -/
def ofTarget (inner : View) (replacement : Target) : Level where
  snapshot key := (inner.attribute? key.name).filter (· ≠ .null)
  written _ := none
  covered := inner.target
  replacement := replacement

/-- Whether a reserved attribute beneath is no longer what it was. -/
def isOverridden (l : Level) (inner : View) (key : Reserved) : Bool :=
  inner.attribute? key.name ≠ l.snapshot key

/-! ### What a level shows -/

/-- What is beneath, if it is not what it was, else what is shown in its place. -/
def shown {α : Type} [DecidableEq α] (live covered replacement : α) : α :=
  if live = covered then replacement else live

def reserved? (l : Level) (inner : View) (key : Reserved) : Option Value :=
  shown (inner.attribute? key.name) (l.snapshot key) (l.written key)

def attribute? (l : Level) (inner : View) (name : String) : Option Value :=
  match Reserved.ofName? name with
  | some key => l.reserved? inner key
  | none => inner.attribute? name

/-- The reserved attributes that hold something, then the other names beneath. -/
def attributeNames (l : Level) (inner : View) : List String :=
  (Reserved.all.filter fun key => (l.reserved? inner key).any (· ≠ .null)).map (·.name) ++
    inner.attributeNames.filter (!Reserved.isReserved ·)

def requestUri (l : Level) (inner : View) : String :=
  shown inner.requestUri l.covered.requestUri l.replacement.requestUri

def servletPath (l : Level) (inner : View) : String :=
  shown inner.servletPath l.covered.servletPath l.replacement.servletPath

def pathInfo (l : Level) (inner : View) : Option String :=
  shown inner.pathInfo l.covered.pathInfo l.replacement.pathInfo

def url (l : Level) (inner : View) : String :=
  if inner.requestUri = l.covered.requestUri then
    requestUrl inner.scheme inner.serverName inner.serverPort l.replacement.requestUri
  else inner.requestUrl

def view (l : Level) (inner : View) : View :=
  { inner with
    attribute? := l.attribute? inner
    listNames := fun _ => l.attributeNames inner
    requestUri := l.requestUri inner
    servletPath := l.servletPath inner
    pathInfo := l.pathInfo inner
    requestUrl := l.url inner }

/-! ### What a level does with a write -/

/-- The level after a write, and the write it passes on. A reserved attribute stays in the
level; if the request beneath overrides it, it is removed there, so that what was written
shows. -/
def pass (l : Level) (inner : View) (w : Write) : Level × Option Write :=
  match Reserved.ofName? w.name with
  | some key =>
    ({ l with written := l.written.put key w.outcome? },
      if l.isOverridden inner key then some (.remove w.name) else none)
  | none => (l, some w)

end Level
end RequestDispatch
