import RequestDispatch.Request.Basic
import RequestDispatch.Request.Uri

/-! Requests that arrive as HTTP messages.

The server a request was sent to is named by its `Host` header or else by its URI. The
port is the URI's, else the header's, else the one that the scheme implies. -/
namespace RequestDispatch

/-- The head of an HTTP message. -/
structure Http.Message where
  method : String
  uri : Uri
  headers : List (String × String)
  deriving DecidableEq, Repr

namespace Http

/-- A message with the given parts, if each is well formed. -/
def Message.ofParts? (method uri : String) (headers : List (String × String)) : Option Message :=
  if isToken method && headers.all fun h => isToken h.1 && isHeaderValue h.2 then
    (Uri.ofText? uri).map fun uri => ⟨method, uri, headers⟩
  else none

/-- The first `Host` header, if it is readable. -/
def Message.host? (m : Message) : Option String :=
  match m.headers.find? fun h => lower h.1 = "host" with
  | some (_, value) => if isVisibleAscii value then some value else none
  | none => none

end Http

/-- The server's name, and the port the `Host` header gives. A header that is no authority
is the name as it stands. -/
def Http.Message.server (m : Http.Message) : String × Option UInt16 :=
  match m.host? with
  | some host =>
    match Authority.ofText? host.toList with
    | some a => (a.host, a.port?)
    | none => (host, none)
  | none => (m.uri.host?.getD "localhost", none)

/-- The request a message brings to an application under a context path. -/
def Request.arrived (m : Http.Message) (contextPath : String) : Request :=
  let (serverName, headerPort) := m.server
  let scheme := m.uri.scheme.getD "http"
  let requestUri := m.uri.path
  { method := m.method, scheme, serverName,
    serverPort := (m.uri.port?.or headerPort).or (defaultPort? scheme)
    contextPath, requestUri,
    servletPath := (Path.relative? requestUri contextPath).getD requestUri
    pathInfo := none, queryString := m.uri.query, attributes := .empty }

end RequestDispatch
