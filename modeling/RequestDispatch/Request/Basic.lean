import RequestDispatch.Path.Context
import RequestDispatch.Request.Attributes
import RequestDispatch.Request.Url

/-! Requests as they are received.

A request keeps what it was received with: its method, the server it was sent to, its
paths and its query. Only its attributes change. -/
namespace RequestDispatch

structure Request where
  method : String
  scheme : String
  serverName : String
  serverPort : Option UInt16
  contextPath : String
  requestUri : String
  servletPath : String
  pathInfo : Option String
  queryString : Option String
  attributes : Attributes
  deriving DecidableEq, Inhabited

namespace Request

/-- A request for a target, which is a URI with or without a query. Until it is mapped, its
servlet path is the whole URI. -/
def received (method target : String) : Request :=
  let (uri, query) := match Text.splitAt? '?' target with
    | some (uri, query) => (uri, some query)
    | none => (target, none)
  { method, scheme := "http", serverName := "localhost", serverPort := some 80, contextPath := "",
    requestUri := uri, servletPath := uri, pathInfo := none, queryString := query,
    attributes := .empty }

def get (target : String) : Request := received "GET" target

/-- The request under a context path. The servlet path becomes the part of the URI beneath
it, if the URI lies beneath it. -/
def withContextPath (r : Request) (contextPath : String) : Request :=
  { r with
    contextPath
    servletPath := (Path.relative? r.requestUri contextPath).getD r.servletPath }

def withServletPath (r : Request) (servletPath : String) (pathInfo : Option String) : Request :=
  { r with servletPath, pathInfo }

def withServer (r : Request) (scheme serverName : String) (serverPort : Option UInt16) : Request :=
  { r with scheme, serverName, serverPort }

/-- The URI with its query, as received. -/
def rawTarget (r : Request) : String :=
  match r.queryString with
  | some query => r.requestUri ++ "?" ++ query
  | none => r.requestUri

def url (r : Request) : String := requestUrl r.scheme r.serverName r.serverPort r.requestUri

/-! ### Attributes -/

def attribute? (r : Request) (name : String) : Option Value := r.attributes.get? name

def attributeNames (r : Request) : List String := r.attributes.names

/-- Nothing, written under a name, removes the name. -/
def setAttribute (r : Request) (name : String) (value : Value) : Request :=
  { r with attributes := r.attributes.set name value }

def removeAttribute (r : Request) (name : String) : Request :=
  { r with attributes := r.attributes.remove name }

end Request
end RequestDispatch
