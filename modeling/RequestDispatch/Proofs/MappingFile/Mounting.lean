import RequestDispatch.Environment
import RequestDispatch.MappingFile.Catalog
import RequestDispatch.Proofs.Dispatch.LeadingBack
import RequestDispatch.Proofs.Inspection.Foretelling
import RequestDispatch.Proofs.Path.Normal

/-! Where an application is mounted.

A context path comes from a mapping file, which is taken at its word, or from the environment, which is
brought into normal form. Both mount the application at the same place if the text is in normal form
already (`Path.normalize_eq_self_iff`). If it is not, they differ on some URI as soon as anything can be
served at all (`Registry.resolves_alike_iff`): what is served beneath the longer of two context paths is served
beneath the shorter one as well, under a shorter URI, and URIs do not get shorter forever. -/
namespace RequestDispatch

namespace Path

section Relative
variable {uri context path : String}

/-- Nothing is cut off a text if nothing is cut off its parts. -/
theorem bare_append_eq_self_iff :
    bare (context ++ path) = context ++ path ↔ bare context = context ∧ bare path = path := by
  simp only [bare_eq_self_iff, String.toList_append, List.mem_append, not_or]
  exact and_and_and_comm

theorem bare_eq_self_of_bare_eq_append (h : bare uri = context ++ path) :
    bare context = context ∧ bare path = path := by
  rw [← bare_append_eq_self_iff, ← h, bare_bare]

theorem bare_normalize_eq_self (h : bare context = context) : bare (normalize context) = normalize context := by
  rw [bare_eq_self_iff] at h ⊢
  exact ⟨not_mem_normalize (by decide) h.1, not_mem_normalize (by decide) h.2⟩

/-- Beneath a context path that is not empty lie paths that begin with a slash. -/
theorem relative?_eq_some_iff_of_ne (hcontext : context ≠ "") :
    relative? uri context = some path ↔
      Text.beginsWith '/' path ∧ (uri = context ++ path ∨ uri = context ∧ path = "/") := by
  have hslash : Text.beginsWith '/' path → path ≠ "" := by
    rintro h rfl
    cases h
  rw [relative?_eq_some_iff]
  constructor
  · rintro ⟨-, ⟨huri, rfl⟩ | ⟨huri, -, hpath⟩⟩
    · exact ⟨by decide, .inr ⟨huri, rfl⟩⟩
    · exact ⟨hpath hcontext, .inl huri⟩
  · rintro ⟨hpath, rfl | ⟨rfl, rfl⟩⟩
    · exact ⟨by simp [hcontext], .inr ⟨rfl, hslash hpath, fun _ => hpath⟩⟩
    · exact ⟨hcontext, .inl ⟨rfl, rfl⟩⟩

end Relative

end Path

namespace Registry
variable {η : Type} {r : Registry η} {context : String}

theorem requestUri_of_servedAt? {path : String} {s : Resolution.Served} (h : r.servedAt? context path = some s) :
    s.target.requestUri = context ++ Path.bare path := by
  obtain ⟨d, -, rfl⟩ := Option.map_eq_some_iff.1 h
  rfl

/-- A path that is served is served wherever it can lie. -/
theorem resolve_append {path : String} (hcontext : Path.bare context = context) (hpath : Path.bare path = path)
    (hslash : Text.beginsWith '/' path) :
    (r.resolve context (context ++ path)).served = r.servedAt? context path := by
  rw [resolve_served, Path.bare_append_eq_self_iff.2 ⟨hcontext, hpath⟩,
    Path.relative?_append_eq_self_iff.2 (.inl hslash), Option.bind_some]

/-- Whether a path is served does not depend on the context path. -/
theorem servedAt?_ne_none {context' path : String} {s : Resolution.Served}
    (h : r.servedAt? context path = some s) : r.servedAt? context' path ≠ none := by
  rw [ne_eq, servedAt?_eq_none_iff, ← r.servedAt?_eq_none_iff context, h]
  nofun

/-- What a resolution that finds something has found, beneath a context path that is not empty. -/
theorem exists_of_resolve_eq_some {uri : String} (hcontext : context ≠ "") {s : Resolution.Served}
    (h : (r.resolve context uri).served = some s) :
    ∃ path, Text.beginsWith '/' path ∧ r.servedAt? context path = some s ∧
      (Path.bare uri = context ++ path ∨ Path.bare uri = context ∧ path = "/") := by
  rw [resolve_served, Option.bind_eq_some_iff] at h
  obtain ⟨path, hpath, hserved⟩ := h
  obtain ⟨hslash, hlies⟩ := (Path.relative?_eq_some_iff_of_ne hcontext).1 hpath
  exact ⟨path, hslash, hserved, hlies⟩

/-- A URI that goes on behind the context path is shown as it is. -/
theorem requestUri_of_resolve_append {tail uri : String} (htail : tail ≠ "")
    (huri : Path.bare uri = context ++ tail) {s : Resolution.Served}
    (h : (r.resolve context uri).served = some s) : s.target.requestUri = context ++ tail := by
  rw [resolve_served, huri, Path.relative?_append, Option.bind_eq_some_iff] at h
  obtain ⟨path, hpath, hserved⟩ := h
  have hself : tail = path := by
    simp only [Path.beneath?, if_neg htail, Option.ite_none_right_eq_some, Option.some.injEq] at hpath
    exact hpath.2
  have hbare := Path.bare_eq_self_of_bare_eq_append huri
  rw [requestUri_of_servedAt? hserved, ← hself, hbare.2]

/-- If one context path goes on where another ends and both resolve every URI alike, nothing is served: what
is served beneath the longer one is served beneath the shorter one at the same path, under a shorter URI. -/
theorem resolve_eq_none_of_append {tail : String} (htail : tail ≠ "")
    (halike : ∀ uri, (r.resolve (context ++ tail) uri).served = (r.resolve context uri).served) (uri : String) :
    (r.resolve context uri).served = none := by
  have hlonger : context ++ tail ≠ "" := by simp [htail]
  induction hn : (Path.bare uri).length using Nat.strongRecOn generalizing uri with
  | ind n ih =>
    cases h : (r.resolve context uri).served with
    | none => rfl
    | some s =>
      obtain ⟨path, hslash, hserved, huri | ⟨huri, rfl⟩⟩ :=
        exists_of_resolve_eq_some hlonger ((halike uri).trans h)
      · obtain ⟨hbare, hpath⟩ := Path.bare_eq_self_of_bare_eq_append huri
        have hcontext := (Path.bare_append_eq_self_iff.1 hbare).1
        have hshorter : (Path.bare (context ++ path)).length < n := by
          have htailLength : tail.length ≠ 0 := fun h => htail (String.length_eq_zero_iff.1 h)
          rw [← hn, huri, Path.bare_append_eq_self_iff.2 ⟨hcontext, hpath⟩]
          simp only [String.length_append]
          omega
        have hnone := (resolve_append hcontext hpath hslash).symm.trans (ih _ hshorter _ rfl)
        exact absurd hnone (servedAt?_ne_none hserved)
      · have hroot := requestUri_of_servedAt? hserved
        have hlength := congrArg String.length (hroot.symm.trans (requestUri_of_resolve_append htail huri h))
        simp [show Path.bare "/" = "/" by decide] at hlength

/-- What is served beneath a context path as it is written can be served beneath its normal form. -/
theorem resolve_eq_none_of_normalize {raw : String} (hraw : raw ≠ "")
    (h : ∀ uri, (r.resolve (Path.normalize raw) uri).served = none) (uri : String) :
    (r.resolve raw uri).served = none := by
  cases hs : (r.resolve raw uri).served with
  | none => rfl
  | some s =>
    obtain ⟨path, hslash, hserved, hlies⟩ := exists_of_resolve_eq_some hraw hs
    have hbare : Path.bare raw = raw ∧ Path.bare path = path := by
      rcases hlies with huri | ⟨huri, rfl⟩
      · exact Path.bare_eq_self_of_bare_eq_append huri
      · exact ⟨by rw [← huri, Path.bare_bare], by decide⟩
    have hnormal := resolve_append (r := r) (Path.bare_normalize_eq_self hbare.1) hbare.2 hslash
    exact absurd (hnormal.symm.trans (h _)) (servedAt?_ne_none hserved)

theorem exists_eq_append_of_resolve {uri : String} {s : Resolution.Served}
    (h : (r.resolve context uri).served = some s) : ∃ rest, Path.bare uri = context ++ rest := by
  rw [resolve_served, Option.bind_eq_some_iff] at h
  obtain ⟨path, hpath, -⟩ := h
  rw [Path.relative?_eq, Option.bind_eq_some_iff] at hpath
  obtain ⟨rest, hrest, -⟩ := hpath
  exact ⟨rest, Text.after?_eq_some_iff.1 hrest⟩

/-- A context path without a slash at its beginning is never found where a path is. -/
theorem resolve_eq_none_of_not_beginsWith {raw : String} (hraw : raw ≠ "")
    (hslash : ¬ Text.beginsWith '/' raw) (hnormal : Path.normalize raw ≠ "")
    (halike : ∀ uri, (r.resolve raw uri).served = (r.resolve (Path.normalize raw) uri).served) (uri : String) :
    (r.resolve (Path.normalize raw) uri).served = none := by
  cases h : (r.resolve (Path.normalize raw) uri).served with
  | none => rfl
  | some s =>
    obtain ⟨rest, hrest⟩ := exists_eq_append_of_resolve ((halike uri).trans h)
    obtain ⟨rest', hrest'⟩ := exists_eq_append_of_resolve h
    exact absurd (Text.beginsWith_of_append_eq hraw (hrest.symm.trans hrest') (Path.beginsWith_normalize hnormal))
      hslash

theorem resolve_eq_iff {context' uri : String} :
    r.resolve context uri = r.resolve context' uri ↔
      (r.resolve context uri).served = (r.resolve context' uri).served :=
  ⟨congrArg Resolution.served, fun h => congrArg (Resolution.mk uri) h⟩

/-- A context path and its normal form resolve every URI alike only if they are the same, or nothing is
served at all. -/
theorem resolves_alike_iff (r : Registry η) (raw : String) :
    (∀ uri, r.resolve raw uri = r.resolve (Path.normalize raw) uri) ↔
      Path.IsNormal raw ∨ ∀ uri, (r.resolve (Path.normalize raw) uri).served = none := by
  by_cases hnormal : Path.IsNormal raw
  · exact iff_of_true (fun _ => by rw [Path.normalize_eq_self_iff.2 hnormal]) (.inl hnormal)
  have hraw : raw ≠ "" := fun h => hnormal (.inl h)
  simp only [hnormal, false_or, resolve_eq_iff]
  constructor
  · intro halike
    by_cases hfront : Text.beginsWith '/' raw ∨ Path.normalize raw = ""
    · obtain ⟨tail, htail⟩ : ∃ tail, raw = Path.normalize raw ++ tail :=
        hfront.elim Path.exists_eq_normalize_append fun h => ⟨raw, by rw [h, String.empty_append]⟩
      have hne : tail ≠ "" := by
        rintro rfl
        exact hnormal (Path.normalize_eq_self_iff.1 (htail.trans String.append_empty).symm)
      exact resolve_eq_none_of_append hne fun uri => by rw [← htail, halike]
    · rw [not_or] at hfront
      exact resolve_eq_none_of_not_beginsWith hraw hfront.1 hfront.2 halike
  · intro hnone uri
    rw [hnone uri, resolve_eq_none_of_normalize hraw hnone uri]

end Registry

/-- **Where the source of a context path makes no difference.** A mapping file that has a text for its context
path, and the file with that text prescribed by the environment, mount the application at the same place if
and only if the text is empty, or begins with a slash and ends in neither a slash nor a blank. They have the
same registry in any case, and it resolves every URI alike under both if and only if the text is of that form,
or nothing is served at all. -/
theorem MappingFile.mounts_alike_iff (f : MappingFile) {context : String} {plain prescribing : Environment}
    (hplain : plain.get? Environment.contextPathVariable = none)
    (hprescribing : prescribing.get? Environment.contextPathVariable = some context) :
    let own := { f with contextPath := context }.mountedAt plain.contextPath?
    let prescribed := f.mountedAt prescribing.contextPath?
    (own.appContext.contextPath = prescribed.appContext.contextPath ↔ Path.IsNormal context) ∧
    ∀ {η : Type} (catalog : Catalog η), own.registry? catalog = prescribed.registry? catalog ∧
      ∀ r, own.registry? catalog = .ok r →
        ((∀ uri, r.resolve own.contextPath uri = r.resolve prescribed.contextPath uri) ↔
          Path.IsNormal context ∨ ∀ uri, (r.resolve prescribed.contextPath uri).served = none) := by
  intro own prescribed
  have hown : own.contextPath = context := by
    show (plain.contextPath?).getD context = context
    rw [Environment.contextPath?, hplain, Option.map_none, Option.getD_none]
  have hprescribed : prescribed.contextPath = Path.normalize context := by
    show (prescribing.contextPath?).getD f.contextPath = _
    rw [Environment.contextPath?, hprescribing, Option.map_some, Option.getD_some]
  refine ⟨?_, fun catalog => ⟨rfl, fun r _ => ?_⟩⟩
  · show own.contextPath = prescribed.contextPath ↔ _
    rw [hown, hprescribed, eq_comm, Path.normalize_eq_self_iff]
  · rw [hown, hprescribed, Registry.resolves_alike_iff]

/-- A file with one handler for all paths. -/
def homeFile : MappingFile := ⟨"", .empty, [⟨"/*", .servlet, "home", .empty⟩]⟩

/-- An environment that prescribes a context path. -/
def Environment.prescribing (context : String) : Environment := .ofList [(Environment.contextPathVariable, context)]

/-- With a context path in normal form the file and the environment agree. -/
theorem shop_mounted_alike :
    ∃ r, homeFile.registry? homeFile.placeholders = .ok r ∧ ∀ uri, r.resolve "/shop/api" uri =
      r.resolve (homeFile.mountedAt (Environment.prescribing "/shop/api").contextPath?).contextPath uri := by
  have hplain : (Dictionary.empty : Environment).get? Environment.contextPathVariable = none := rfl
  have hprescribing : (Environment.prescribing "/shop/api").get? Environment.contextPathVariable =
      some "/shop/api" := rfl
  obtain ⟨-, halike⟩ := MappingFile.mounts_alike_iff homeFile hplain hprescribing
  have hbuilt : (homeFile.registry? homeFile.placeholders).isOk = true := by decide +kernel
  cases hr : homeFile.registry? homeFile.placeholders with
  | error error =>
    rw [hr] at hbuilt
    cases hbuilt
  | ok r => exact ⟨r, rfl, ((halike homeFile.placeholders).2 r hr).2 (.inl (by decide))⟩

/-- What is reported of a URI under a file's context path. -/
def MappingFile.line? (f : MappingFile) (uri : String) : Option String :=
  (f.registry? f.placeholders).toOption.map fun r => (r.resolve f.contextPath uri).line

/-- A slash at its end makes the file's context path hide what the environment's does not. -/
theorem trailing_slash_hides_home :
    let own := { homeFile with contextPath := "/app/" }
    let prescribed := homeFile.mountedAt (Environment.prescribing "/app/").contextPath?
    own.appContext.contextPath ≠ prescribed.appContext.contextPath ∧
    own.line? "/app/x" = some "/app/x -> no match" ∧
    prescribed.line? "/app/x" = some "/app/x -> home (/*) request_uri=/app/x servlet_path= path_info=/x" :=
  ⟨by decide, by decide +kernel, by decide +kernel⟩

end RequestDispatch
