import RequestDispatch.Chain.View

/-! Decorators.

An application may put decorators around a request. A decorator answers some questions
itself, by what the request beneath answers, and hands each write on as it is, as another
or not at all. It cannot change the method, the context path or the server. -/
namespace RequestDispatch

structure Decorator where
  attribute? : View → String → Option Value := fun inner => inner.attribute?
  attributeNames : View → List String := fun inner => inner.attributeNames
  requestUri : View → String := fun inner => inner.requestUri
  servletPath : View → String := fun inner => inner.servletPath
  pathInfo : View → Option String := fun inner => inner.pathInfo
  queryString : View → Option String := fun inner => inner.queryString
  pass : View → Write → Option Write := fun _ w => some w

namespace Decorator

/-- What a decorator shows. The URL follows the URI. -/
def view (d : Decorator) (inner : View) : View :=
  { inner with
    attribute? := d.attribute? inner
    listNames := fun _ => d.attributeNames inner
    requestUri := d.requestUri inner
    servletPath := d.servletPath inner
    pathInfo := d.pathInfo inner
    queryString := d.queryString inner
    requestUrl := requestUrl inner.scheme inner.serverName inner.serverPort (d.requestUri inner) }

/-- A decorator that changes nothing. -/
def plain : Decorator := {}

/-- A decorator that answers for one attribute. -/
def tagged (name : String) (value : Value) : Decorator where
  attribute? inner n := if n = name then some value else inner.attribute? n
  attributeNames inner := inner.attributeNames.filter (· ≠ name) ++ [name]

/-- A decorator that puts a text before every path and before the query, which are there
from then on. -/
def lengthened (lead : String) : Decorator where
  requestUri inner := lead ++ inner.requestUri
  servletPath inner := lead ++ inner.servletPath
  pathInfo inner := some (lead ++ inner.pathInfo.getD "")
  queryString inner := some (lead ++ inner.queryString.getD "")

/-- A decorator that keeps every write to itself and forgets it. -/
def readonly : Decorator where
  pass _ _ := none

end Decorator
end RequestDispatch
