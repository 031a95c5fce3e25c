import RequestDispatch.Inspection.Report
import RequestDispatch.Proofs.MappingFile.Building

/-! Inspection with placeholders.

Which mapping serves a path, and what its handler is told, has nothing to do with the handler. All that
counts of a registry is its shell (`Registry.shell`), and that is the same whatever catalog a file is
built with (`MappingFile.shell_eq`). So a catalog with nothing behind the names shows what an application
does with a file, as long as it knows the names (`MappingFile.KnownTo.suffices`). -/
namespace RequestDispatch
variable {η θ : Type}

/-! ### Registries but for their handlers -/

/-- The mapping with nothing behind it. -/
def Definition.shell (d : Definition η) : Definition Unit :=
  ⟨d.pattern, d.name, ⟨0, ()⟩, d.initParams, d.state⟩

namespace Registry

/-- The registry with nothing behind its mappings. -/
def shell (r : Registry η) : Registry Unit := ⟨r.definitions.map Definition.shell⟩

/-- The position of the first mapping that serves a path. -/
def position? (r : Registry η) (path : String) : Option Nat :=
  r.definitions.findIdx? (·.serves path)

@[simp] theorem firstMatch?_shell (r : Registry η) (path : String) :
    r.shell.firstMatch? path = (r.firstMatch? path).map Definition.shell := List.find?_map

@[simp] theorem position?_shell (r : Registry η) (path : String) :
    r.shell.position? path = r.position? path := List.findIdx?_map

@[simp] theorem routes_shell (r : Registry η) : r.shell.routes = r.routes := List.map_map

@[simp] theorem resolve_shell (r : Registry η) (context uri : String) :
    r.shell.resolve context uri = r.resolve context uri := by
  unfold resolve
  cases Path.relative? (Path.bare uri) context with
  | none => rfl
  | some path =>
    simp only [Option.bind_eq_bind, Option.bind_some, firstMatch?_shell]
    cases r.firstMatch? path <;> rfl

/-- For a path, both registries have a match at the same position, with the same pattern and name, and
the same target under every context path, or neither has one. -/
structure FindsAs (r : Registry η) (r' : Registry θ) (path : String) : Prop where
  position : r.position? path = r'.position? path
  pattern : (r.firstMatch? path).map (·.pattern) = (r'.firstMatch? path).map (·.pattern)
  name : (r.firstMatch? path).map (·.name) = (r'.firstMatch? path).map (·.name)
  target : ∀ context,
    (r.firstMatch? path).map (·.target path context) = (r'.firstMatch? path).map (·.target path context)

/-- What is read off a match without its handler can be read off the shell. -/
theorem findsAs_of_shell_eq {r : Registry η} {r' : Registry θ} (h : r.shell = r'.shell) (path : String) :
    r.FindsAs r' path := by
  have hposition : r.shell.position? path = r'.shell.position? path := by rw [h]
  have hfound : (r.firstMatch? path).map Definition.shell = (r'.firstMatch? path).map Definition.shell := by
    rw [← firstMatch?_shell, ← firstMatch?_shell, h]
  have hread {α : Type} (read : Definition Unit → α) :
      (r.firstMatch? path).map (read ·.shell) = (r'.firstMatch? path).map (read ·.shell) := by
    simpa only [Option.map_map, Function.comp_def] using congrArg (Option.map read) hfound
  exact
    { position := by simpa only [position?_shell] using hposition
      pattern := hread (·.pattern)
      name := hread (·.name)
      target := fun context => hread (·.target path context) }

end Registry

/-- What a command reports of a registry. -/
def Command.lines (c : Command) (context : String) (r : Registry η) : List String :=
  match c with
  | .routes _ => Report.routes context r
  | .resolve _ uris json => Report.resolutions context r uris json

@[simp] theorem Command.lines_shell (c : Command) (context : String) (r : Registry η) :
    c.lines context r.shell = c.lines context r := by
  cases c with
  | routes => simp only [lines, Report.routes, Registry.routes_shell]
  | resolve => simp only [lines, Report.resolutions, Registry.resolve_shell]

/-! ### One file, two catalogs -/

theorem MappingEntry.Becomes.shell_eq {catalog : Catalog η} {catalog' : Catalog θ} {e : MappingEntry}
    {d : Definition η} {d' : Definition θ} (h : e.Becomes catalog d) (h' : e.Becomes catalog' d') :
    d.shell = d'.shell := by
  have hpattern : d.pattern = d'.pattern := Except.ok.inj (h.pattern.symm.trans h'.pattern)
  simp only [Definition.shell, hpattern, h.name, h'.name, h.initParams, h'.initParams, h.state, h'.state]

namespace MappingFile
variable {f : MappingFile}

theorem shell_eq {catalog : Catalog η} {catalog' : Catalog θ} {r : Registry η} {r' : Registry θ}
    (h : f.registry? catalog = .ok r) (h' : f.registry? catalog' = .ok r') : r.shell = r'.shell := by
  replace h := registry?_eq_ok h
  replace h' := registry?_eq_ok h'
  unfold Registry.shell
  generalize f.mappings = es at h h'
  generalize r.definitions = ds at h
  generalize r'.definitions = ds' at h'
  refine congrArg Registry.mk ?_
  induction h generalizing ds' with
  | nil =>
    cases h'
    rfl
  | cons hd _ ih =>
    obtain _ | ⟨hd', hds'⟩ := h'
    rw [List.map_cons, List.map_cons, hd.shell_eq hd', ih _ hds']

/-- With the catalog, a file shows all that an application makes of it but for the handlers. -/
structure Suffices (f : MappingFile) (stubs : Catalog θ) : Prop where
  /-- No handler is unknown. -/
  known : ∀ error name, f.registry? stubs = .error error → error.cause ≠ .unknownHandler name
  /-- A file is refused for its patterns alone. -/
  refused : (∃ error, f.registry? stubs = .error error) ↔
    ∃ e ∈ f.mappings, ∃ cause, Pattern.read? e.pattern e.style = .error cause
  /-- It is refused for the first pattern that is none. -/
  error : ∀ error, f.registry? stubs = .error error ↔ f.FirstUnreadable error
  /-- Whatever registry the file becomes with handlers, it becomes one without, which finds the same. -/
  finds : ∀ {η : Type} (catalog : Catalog η) (r : Registry η), f.registry? catalog = .ok r →
    ∃ r', f.registry? stubs = .ok r' ∧ ∀ path, r'.FindsAs r path

theorem KnownTo.suffices {stubs : Catalog θ} (hknown : f.KnownTo stubs) : f.Suffices stubs where
  known error name h := by
    obtain ⟨-, e, -, cause, -, -, -, rfl⟩ := hknown.registry?_eq_error_iff.1 h
    exact nofun
  refused := by
    constructor
    · rintro ⟨error, h⟩
      obtain ⟨before, e, after, cause, hmappings, -, hcause, -⟩ := hknown.registry?_eq_error_iff.1 h
      exact ⟨e, hmappings ▸ List.mem_append_right _ List.mem_cons_self, cause, hcause⟩
    · rintro ⟨e, he, hcause⟩
      cases h : f.registry? stubs with
      | error error => exact ⟨error, rfl⟩
      | ok r =>
        exact absurd (hknown.exists_registry?_iff.1 ⟨r, h⟩ e he) (MappingEntry.not_readable_iff.2 hcause)
  error _ := hknown.registry?_eq_error_iff
  finds catalog r h := by
    have hreadable := (knownTo_of_registry?_eq_ok h).exists_registry?_iff.1 ⟨r, h⟩
    obtain ⟨r', h'⟩ := hknown.exists_registry?_iff.2 hreadable
    exact ⟨r', h', Registry.findsAs_of_shell_eq (shell_eq h' h)⟩

/-- **Placeholders suffice.** With nothing but names behind its mappings a file is refused for no
handler, and is refused for the first of its patterns that is none, if there is one. Where an application
has it built, it is built with placeholders too, and for each path the same mapping is found. -/
theorem placeholders_suffice (f : MappingFile) : f.Suffices f.placeholders :=
  (knownTo_placeholders f).suffices

/-- Handlers that nobody knows, and of three patterns two that are none. -/
def draft : MappingFile :=
  ⟨"", .empty, [⟨"/a", .servlet, "nobody", .empty⟩, ⟨"b*", .servlet, "nothing", .empty⟩,
    ⟨"c", .servlet, "nobody", .empty⟩]⟩

/-- The draft is refused for its second mapping. The shop is built, and its second mapping is found for
the page with and without handlers. -/
theorem placeholders_suffice_for_shop :
    draft.registry? draft.placeholders = .error ⟨"b*", .pattern .starMisplaced⟩ ∧
      ∃ r r', shop.registry? shopHandlers = .ok r ∧ shop.registry? shop.placeholders = .ok r' ∧
        r.position? "/a/b.jsp" = some 1 ∧ r'.FindsAs r "/a/b.jsp" := by
  constructor
  · have hfirst : Pattern.ofText? "/a" .servlet = .ok (.literal "/a") := by decide +kernel
    have hsecond : Pattern.read? "b*" .servlet = .error .starMisplaced := by decide +kernel
    refine ((placeholders_suffice draft).error _).2 ⟨[_], _, [_], _, rfl, fun e he => ?_, hsecond, rfl⟩
    cases List.mem_singleton.1 he
    exact ⟨_, hfirst⟩
  · have hposition :
        (shop.registry? shopHandlers).toOption.bind (·.position? "/a/b.jsp") = some 1 := by
      decide +kernel
    cases hr : shop.registry? shopHandlers with
    | error error =>
      rw [hr] at hposition
      cases hposition
    | ok r =>
      rw [hr] at hposition
      obtain ⟨r', hr', hfinds⟩ := (placeholders_suffice shop).finds shopHandlers r hr
      exact ⟨r, r', rfl, hr', hposition, hfinds "/a/b.jsp"⟩

end MappingFile

/-- **What is reported is what is deployed.** Of a file that an application has built, the commands
report what the application's registry does. -/
theorem Command.report_eq_ok {c : Command} {e : Environment} {content : Option (List UInt8)}
    {f : MappingFile} {catalog : Catalog η} {r : Registry η}
    (hf : MappingFile.load? c.config content = .ok f)
    (hr : MappingFile.registry? (f.mountedAt e.contextPath?) catalog = .ok r) :
    c.report e content = .ok (c.lines (f.mountedAt e.contextPath?).contextPath r) := by
  have hknown := (f.mountedAt e.contextPath?).knownTo_placeholders
  obtain ⟨r', hr', -⟩ := hknown.suffices.finds catalog r hr
  have hshell : r'.shell = r.shell := MappingFile.shell_eq hr' hr
  have hreport : c.report e content = .ok (c.lines (f.mountedAt e.contextPath?).contextPath r') := by
    unfold report
    rw [hf]
    simp only [Except.mapError, bind, Except.bind, hr']
    cases c <;> rfl
  rw [hreport, ← lines_shell, hshell, lines_shell]

end RequestDispatch
