import RequestDispatch.Chain.View

/-! Requests that a host goes on changing.

A host may keep its hand on a request that a chain stands on: it exchanges the request,
writes its attributes, and may answer an explicit nothing for a name, which is not the
same as not knowing the name. Any later write of the name ends that. -/
namespace RequestDispatch

structure HostedRequest where
  request : Request
  /-- The names that are answered with nothing. -/
  vacant : List String
  deriving DecidableEq, Inhabited

namespace HostedRequest

def ofRequest (request : Request) : HostedRequest := ⟨request, []⟩

def attribute? (h : HostedRequest) (name : String) : Option Value :=
  if name ∈ h.vacant then some .null else h.request.attribute? name

def attributeNames (h : HostedRequest) : List String :=
  h.request.attributeNames.filter (!h.vacant.contains ·) ++ h.vacant

def write (h : HostedRequest) (w : Write) : HostedRequest :=
  ⟨h.request.write w, h.vacant.filter (· ≠ w.name)⟩

/-- From now on the name is answered with nothing. -/
def vacate (h : HostedRequest) (name : String) : HostedRequest :=
  { h with vacant := h.vacant.filter (· ≠ name) ++ [name] }

/-- Another request in place of this one. It keeps its own attributes and takes over those
that this one has. -/
def exchange (h : HostedRequest) (request : Request) : HostedRequest :=
  let held := h.request.attributes.values.entries
  { h with request := held.foldl (fun r e => r.setAttribute e.1 e.2) request }

instance : Underlying HostedRequest where
  view h :=
    { h.request.view with attribute? := h.attribute?, listNames := fun _ => h.attributeNames }
  write := write

end HostedRequest
end RequestDispatch
