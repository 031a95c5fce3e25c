/-! Reserved attributes.

Ten attribute names belong to dispatch itself: five describe the request that was
forwarded and five the target that is being included. `Reserved.all` lists them in the
order in which they are reported. One further name marks a request that is being
served (`managed`); it is not reserved. -/
namespace RequestDispatch

/-- Which dispatch a reserved attribute speaks of. -/
inductive Reserved.Phase where
  | forward
  | inclusion
  deriving DecidableEq, Repr

/-- What a reserved attribute tells. -/
inductive Reserved.Detail where
  | requestUri
  | contextPath
  | pathInfo
  | queryString
  | servletPath
  deriving DecidableEq, Repr

structure Reserved where
  phase : Reserved.Phase
  detail : Reserved.Detail
  deriving DecidableEq, Repr

namespace Reserved

/-- The attribute's name. -/
def name : Reserved → String
  | ⟨.forward, .requestUri⟩ => "javax.servlet.forward.request_uri"
  | ⟨.forward, .contextPath⟩ => "javax.servlet.forward.context_path"
  | ⟨.forward, .pathInfo⟩ => "javax.servlet.forward.path_info"
  | ⟨.forward, .queryString⟩ => "javax.servlet.forward.query_string"
  | ⟨.forward, .servletPath⟩ => "javax.servlet.forward.servlet_path"
  | ⟨.inclusion, .requestUri⟩ => "javax.servlet.include.request_uri"
  | ⟨.inclusion, .contextPath⟩ => "javax.servlet.include.context_path"
  | ⟨.inclusion, .pathInfo⟩ => "javax.servlet.include.path_info"
  | ⟨.inclusion, .queryString⟩ => "javax.servlet.include.query_string"
  | ⟨.inclusion, .servletPath⟩ => "javax.servlet.include.servlet_path"

def details : List Detail := [.requestUri, .contextPath, .pathInfo, .queryString, .servletPath]

/-- The ten keys in the order in which they are reported. -/
def all : List Reserved := details.map (⟨.forward, ·⟩) ++ details.map (⟨.inclusion, ·⟩)

theorem mem_all (key : Reserved) : key ∈ all := by
  obtain ⟨phase, detail⟩ := key
  cases phase <;> cases detail <;> decide

theorem nodup_all : all.Nodup := by decide

/-- The key of a reserved name. -/
def ofName? (name : String) : Option Reserved := all.find? (·.name = name)

def isReserved (name : String) : Bool := (ofName? name).isSome

theorem name_of_ofName? {name : String} {key : Reserved} (h : ofName? name = some key) :
    key.name = name := by
  simpa using List.find?_some h

theorem ofName?_name (key : Reserved) : ofName? key.name = some key := by
  obtain ⟨phase, detail⟩ := key
  cases phase <;> cases detail <;> decide

theorem name_inj {key other : Reserved} : key.name = other.name ↔ key = other := by
  constructor
  · intro h
    have hsome : some key = some other := by rw [← ofName?_name key, h, ofName?_name]
    exact Option.some.inj hsome
  · rintro rfl
    rfl

end Reserved

/-- The attribute that marks a request as being served. -/
def managed : String := "com.google.inject.servlet.guice_managed"

theorem managed_not_reserved : Reserved.ofName? managed = none := by decide

end RequestDispatch
