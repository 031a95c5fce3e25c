import Mathlib.Data.List.Forall2
import RequestDispatch.MappingFile.Catalog
import RequestDispatch.Proofs.Dispatch.Callers
import RequestDispatch.Proofs.Dispatch.Trailer

/-! The first match.

A mapping file becomes a pipeline mapping by mapping, in order (`MappingFile.registry?_eq_ok`). So what
decides who serves a request is the file: the first mapping in it that serves the path of the request
(`MappingFile.FirstServing`). A request that none serves, or that lies outside its context path, is
declined. -/
namespace RequestDispatch

/-- The path that a mapping is sought for: what the URI has beneath the context path, but for parameters
and the query. -/
def View.sought? (v : View) : Option String := (Path.relative? v.requestUri v.contextPath).map Path.bare

namespace MappingEntry
variable {η : Type}

/-- The pattern, as it is written, serves a path. -/
def Serves (e : MappingEntry) (path : String) : Prop :=
  ∃ pattern, Pattern.ofText? e.pattern e.style = .ok pattern ∧ pattern.serves path = true

/-- What a mapping is in a registry. -/
structure Becomes (catalog : Catalog η) (e : MappingEntry) (d : Definition η) : Prop where
  name : d.name = e.handler
  handler : catalog.get? e.handler = some d.handler
  pattern : Pattern.ofText? e.pattern e.style = .ok d.pattern
  initParams : d.initParams = e.initParams
  state : d.state = .uninitialized

theorem becomes_of_definition? {catalog : Catalog η} {e : MappingEntry} {d : Definition η}
    (h : e.definition? catalog = .ok d) : e.Becomes catalog d := by
  unfold definition? at h
  split at h
  · cases h
  · cases h
  next pattern handler hpattern hhandler =>
    cases h
    exact ⟨rfl, hhandler, hpattern, rfl, rfl⟩

theorem Becomes.serves_iff {catalog : Catalog η} {e : MappingEntry} {d : Definition η}
    (h : e.Becomes catalog d) (path : String) : e.Serves path ↔ d.serves path = true := by
  constructor
  · rintro ⟨pattern, hpattern, hserves⟩
    cases h.pattern.symm.trans hpattern
    exact hserves
  · exact fun hserves => ⟨d.pattern, h.pattern, hserves⟩

end MappingEntry

/-- A traversal that succeeds does so element by element. -/
theorem forall₂_of_mapM {α β δ : Type} {g : α → Except δ β} {l : List α} {out : List β}
    (h : l.mapM g = .ok out) : List.Forall₂ (fun a b => g a = .ok b) l out := by
  induction l generalizing out with
  | nil =>
    cases h
    exact .nil
  | cons a l ih =>
    rw [List.mapM_cons] at h
    cases ha : g a with
    | error e =>
      rw [ha] at h
      cases h
    | ok b =>
      cases hl : l.mapM g with
      | error e =>
        rw [ha, hl] at h
        cases h
      | ok bs =>
        rw [ha, hl] at h
        cases h
        exact .cons ha (ih hl)

namespace MappingFile
variable {η : Type} {f : MappingFile} {path : String}

/-- Of the mappings of a file, the first that serves a path. -/
def FirstServing (f : MappingFile) (path : String) (e : MappingEntry) : Prop :=
  ∃ before after, f.mappings = before ++ e :: after ∧ e.Serves path ∧ ∀ e' ∈ before, ¬ e'.Serves path

theorem registry?_eq_ok {catalog : Catalog η} {r : Registry η} (h : f.registry? catalog = .ok r) :
    List.Forall₂ (MappingEntry.Becomes catalog) f.mappings r.definitions := by
  unfold registry? at h
  cases hds : f.mappings.mapM (MappingEntry.definition? catalog) with
  | error e =>
    rw [hds] at h
    cases h
  | ok ds =>
    rw [hds] at h
    cases h
    exact (forall₂_of_mapM hds).imp fun _ _ => MappingEntry.becomes_of_definition?

/-- The first match is that of the file. -/
theorem find?_cases {catalog : Catalog η} {es : List MappingEntry} {ds : List (Definition η)}
    (h : List.Forall₂ (MappingEntry.Becomes catalog) es ds) (path : String) :
    (ds.find? (·.serves path) = none ∧ ∀ e ∈ es, ¬ e.Serves path) ∨
      ∃ before e after d, es = before ++ e :: after ∧ ds.find? (·.serves path) = some d ∧
        e.Becomes catalog d ∧ e.Serves path ∧ ∀ e' ∈ before, ¬ e'.Serves path := by
  induction h with
  | nil => exact .inl ⟨rfl, nofun⟩
  | @cons e d es ds hd _ ih =>
    cases hserves : d.serves path with
    | true =>
      have hfound : (d :: ds).find? (·.serves path) = some d := List.find?_cons_of_pos hserves
      exact .inr ⟨[], e, es, d, rfl, hfound, hd, (hd.serves_iff path).2 hserves, nofun⟩
    | false =>
      have hnot : ¬ e.Serves path := fun h => by simp [(hd.serves_iff path).1 h] at hserves
      rw [List.find?_cons_of_neg (by simp [hserves])]
      rcases ih with ⟨hnone, hall⟩ | ⟨before, e', after, d', rfl, hfound, hd', he', hbefore⟩
      · exact .inl ⟨hnone, List.forall_mem_cons.2 ⟨hnot, hall⟩⟩
      · exact .inr ⟨e :: before, e', after, d', rfl, hfound, hd', he',
          List.forall_mem_cons.2 ⟨hnot, hbefore⟩⟩

theorem firstMatch?_cases {catalog : Catalog η} {r : Registry η} (h : f.registry? catalog = .ok r)
    (path : String) :
    (r.firstMatch? path = none ∧ ∀ e ∈ f.mappings, ¬ e.Serves path) ∨
      ∃ e d, r.firstMatch? path = some d ∧ f.FirstServing path e ∧ e.Becomes catalog d := by
  rcases find?_cases (registry?_eq_ok h) path with hnone |
    ⟨before, e, after, d, hmappings, hfound, hd, hserves, hbefore⟩
  · exact .inl hnone
  · exact .inr ⟨e, d, hfound, ⟨before, after, hmappings, hserves, hbefore⟩, hd⟩

end MappingFile

variable {ε : Type} {f : MappingFile} {catalog : Catalog (Handler ε)} {p : Pipeline ε}

theorem Pipeline.serving?_eq_sought (p : Pipeline ε) (v : View) :
    p.serving? v = v.sought?.bind fun path => (p.registry.firstMatch? path).map fun d => (d, path) := by
  rw [serving?, View.sought?, Option.bind_map]
  rfl

theorem MappingFile.pipeline?_eq_ok (hp : f.pipeline? catalog = .ok p) :
    f.registry? catalog = .ok p.registry ∧ p.context = f.appContext := by
  unfold pipeline? at hp
  cases hr : f.registry? catalog with
  | error e =>
    rw [hr] at hp
    cases hp
  | ok r =>
    rw [hr] at hp
    cases hp
    exact ⟨rfl, rfl⟩

/-- **The first match serves.** A pipeline built from a file declines a request that lies outside its
context path or that no mapping of the file serves, and changes nothing. Any other it has served by the
handler of the first mapping in the file that serves the path, under the name the mapping has for it, and
all other handlers are invoked by handlers. -/
theorem MappingFile.first_match_serves (hp : f.pipeline? catalog = .ok p) (s : Session ε) :
    ((∀ path, s.chain.view.sought? = some path → ∀ e ∈ f.mappings, ¬ e.Serves path) ∧ p.Declines s) ∨
      ∃ path e d, s.chain.view.sought? = some path ∧ f.FirstServing path e ∧ e.Becomes catalog d ∧
        p.ServedBy s d (d.target path s.chain.view.contextPath) := by
  have hserving := p.serving?_eq_sought s.chain.view
  cases hsought : s.chain.view.sought? with
  | none =>
    rw [hsought, Option.bind_none] at hserving
    exact .inl ⟨nofun, Pipeline.declines_iff.2 hserving⟩
  | some path =>
    rw [hsought, Option.bind_some] at hserving
    rcases firstMatch?_cases (pipeline?_eq_ok hp).1 path with ⟨hnone, hall⟩ | ⟨e, d, hfound, he, hd⟩
    · rw [hnone, Option.map_none] at hserving
      refine .inl ⟨fun path' hpath' => ?_, Pipeline.declines_iff.2 hserving⟩
      cases hpath'
      exact hall
    · rw [hfound, Option.map_some] at hserving
      exact .inr ⟨path, e, d, rfl, he, hd, Pipeline.servedBy_of_serving? hserving⟩

/-- Mappings that overlap. -/
def shop : MappingFile :=
  ⟨"/shop", .empty, [⟨"/part/*", .servlet, "part", .empty⟩, ⟨"*.jsp", .servlet, "view", .empty⟩,
    ⟨"/a/b.jsp", .servlet, "page", .empty⟩, ⟨"/[a-z]*/.*", .regex, "page", .empty⟩]⟩

/-- A view that includes a part. -/
def shopHandlers : Catalog (Handler Unit) := .ofList
  [("part", ⟨0, { service _ := .finish }⟩), ("page", ⟨1, { service _ := .finish }⟩),
    ("view", ⟨2, { service _ := .dispatch .inclusion "/part/x" fun _ => .finish }⟩)]

def shopPage : Session Unit :=
  .start ((Request.get "/shop/a/b.jsp;v=1?q").withContextPath "/shop") (.fresh 64 none)

/-- Three mappings serve the page. The view is the first, and invokes the part. -/
theorem view_serves_shopPage :
    ∃ p s', shop.pipeline? shopHandlers = .ok p ∧ p.serve 2 shopPage = some (.ok true, s') ∧
      s'.invocations.map (·.situation.handlerName) = ["view", "part"] ∧
      ∃ e d t, shop.FirstServing "/a/b.jsp" e ∧ e.handler = "view" ∧ e.Becomes shopHandlers d ∧
        p.ServedBy shopPage d t := by
  have hrun : (shop.pipeline? shopHandlers).toOption.any (fun p => (p.serve 2 shopPage).any fun x =>
      x.1.toOption = some true ∧ x.2.invocations.map (·.situation.handlerName) = ["view", "part"]) = true := by
    decide +kernel
  have ok_of_toOption {δ α : Type} {x : Except δ α} {a : α} (h : x.toOption = some a) : x = .ok a := by
    cases x <;> cases h
    rfl
  obtain ⟨p, hp, hrun⟩ := (Option.any_eq_true ..).1 hrun
  obtain ⟨⟨r, s'⟩, hserve, hresult⟩ := (Option.any_eq_true ..).1 hrun
  obtain ⟨hr, hnames⟩ := of_decide_eq_true hresult
  replace hp := ok_of_toOption hp
  obtain rfl := ok_of_toOption hr
  refine ⟨p, s', hp, hserve, hnames, ?_⟩
  rcases MappingFile.first_match_serves hp shopPage with ⟨-, hdeclines⟩ | ⟨path, e, d, hpath, he, hd, hserved⟩
  · cases (hdeclines (p.invoke 2 [])).symm.trans hserve
  · have hsought : shopPage.chain.view.sought? = some "/a/b.jsp" := by decide +kernel
    cases hpath.symm.trans hsought
    obtain ⟨i, rest, hinvocations, hsituation, -⟩ := hserved.invokes 2 (.ok true) s' hserve
    have hname : d.name = "view" := by
      have hnothing : shopPage.invocations = [] := rfl
      rw [hinvocations, hnothing] at hnames
      have hfirst : i.situation.handlerName = "view" := (List.cons.inj hnames).1
      rwa [hsituation] at hfirst
    exact ⟨e, d, _, he, hd.name.symm.trans hname, hd, hserved⟩

end RequestDispatch
