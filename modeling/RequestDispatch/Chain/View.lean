import RequestDispatch.Attribute.Reserved
import RequestDispatch.Mapping.Target
import RequestDispatch.Request.Basic

/-! What a request answers, and what can be written to it.

A `View` is all that one can ask of a request at a moment, whether it is a request as
received or one with layers around it. A request that a chain can stand on offers a
view and takes writes (`Underlying`). -/
namespace RequestDispatch

structure View where
  attribute? : String → Option Value
  /-- The names of the attributes, listed when they are asked for. -/
  listNames : Unit → List String
  method : String
  requestUri : String
  contextPath : String
  servletPath : String
  pathInfo : Option String
  queryString : Option String
  scheme : String
  serverName : String
  serverPort : Option UInt16
  requestUrl : String

/-- The paths of a request, as a forward records them. -/
structure Origin where
  requestUri : String
  contextPath : String
  servletPath : String
  pathInfo : Option String
  queryString : Option String
  deriving DecidableEq, Repr

namespace View

def attributeNames (v : View) : List String := v.listNames ()

def origin (v : View) : Origin :=
  ⟨v.requestUri, v.contextPath, v.servletPath, v.pathInfo, v.queryString⟩

/-- The part of the paths that a target replaces. -/
def target (v : View) : Target := ⟨v.requestUri, v.servletPath, v.pathInfo⟩

/-- The text of an attribute that holds one. -/
def attributeText? (v : View) (name : String) : Option String :=
  (v.attribute? name).bind Value.text?

/-- Whether the request is marked as being served. -/
def isManaged (v : View) : Bool := v.attribute? managed = some (.bool true)

end View

/-! ### Writes -/

/-- A change of one attribute. -/
inductive Write where
  | set (name : String) (value : Value)
  | remove (name : String)
  deriving DecidableEq, Inhabited

namespace Write

def name : Write → String
  | set name _ | remove name => name

/-- What the attribute holds afterwards. Nothing, when it is set to nothing. -/
def outcome? : Write → Option Value
  | set _ .null => none
  | set _ value => some value
  | remove _ => none

end Write

/-- What a chain asks of the request it stands on. -/
class Underlying (β : Type) where
  view : β → View
  write : β → Write → β

namespace Request

def view (r : Request) : View where
  attribute? := r.attribute?
  listNames _ := r.attributeNames
  method := r.method
  requestUri := r.requestUri
  contextPath := r.contextPath
  servletPath := r.servletPath
  pathInfo := r.pathInfo
  queryString := r.queryString
  scheme := r.scheme
  serverName := r.serverName
  serverPort := r.serverPort
  requestUrl := r.url

def write (r : Request) : Write → Request
  | .set name value => r.setAttribute name value
  | .remove name => r.removeAttribute name

instance : Underlying Request := ⟨view, write⟩

end Request
end RequestDispatch
