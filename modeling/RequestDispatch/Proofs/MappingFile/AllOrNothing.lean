import RequestDispatch.Proofs.Mapping.Forms
import RequestDispatch.Proofs.MappingFile.Building
import RequestDispatch.Proofs.Registry.Passes

/-! All of a file or nothing.

A registry keeps for each mapping of its file what the file has for it, and one instance behind each name
(`MappingFile.KeptBy`), so that under no name an instance is set up twice. A mapping that is not usable
leaves a file without a registry, and the first such mapping is what is reported
(`MappingFile.FirstRefused`). -/
namespace RequestDispatch
variable {η : Type}

/-- What is read in a style is in that style, and gives the text back. -/
theorem Pattern.text_style_of_ofText? {s : String} {style : PatternStyle} {p : Pattern}
    (h : ofText? s style = .ok p) : p.text = s ∧ p.style = style := by
  cases style with
  | servlet =>
    have hwritten : WrittenAs p s := ofText?_servlet_eq_ok_iff.1 h
    refine ⟨hwritten.text_eq, ?_⟩
    cases hwritten <;> rfl
  | regex =>
    unfold ofText? read? regex? at h
    cases hprogram : Regex.ofText? (anchored s) <;> rw [hprogram] at h <;> cases h
    exact ⟨rfl, rfl⟩

/-! ### One instance behind each name -/

/-- Mappings of one name lead to one instance. -/
def Registry.SharesByName (r : Registry η) : Prop :=
  ∀ d ∈ r.definitions, ∀ e ∈ r.definitions, d.name = e.name → d.handler = e.handler

/-- No pass calls two instances, or one twice, under one name. -/
theorem Stage.nodup_names {x : Stage η} (hx : x.registry.SharesByName) : (x.attempts.map (·.name)).Nodup := by
  have hnumbers : (x.attempts.map (·.handler.number)).Nodup := by
    have hcalls := x.nodup_calls
    rwa [calls, List.map_map] at hcalls
  refine List.pairwise_map.2 ((List.pairwise_map.1 hnumbers).imp_of_mem fun hd he hne hname => hne ?_)
  rw [hx _ (mem_of_mem_attempts hd) _ (mem_of_mem_attempts he) hname]

/-! ### What a file becomes -/

namespace MappingFile
variable {f : MappingFile} {catalog : Catalog η} {r : Registry η}

/-- What a registry keeps of the file it was built from. -/
structure KeptBy (f : MappingFile) (catalog : Catalog η) (r : Registry η) : Prop where
  /-- Each definition has the pattern, the name, the parameters and the handler of its mapping. -/
  becomes : List.Forall₂ (MappingEntry.Becomes catalog) f.mappings r.definitions
  routes : r.routes = f.mappings.map fun e => (e.pattern, e.handler)
  styles : r.definitions.map (·.pattern.style) = f.mappings.map (·.style)
  shares : r.SharesByName
  /-- Whatever comes of it, setting up calls no two instances under one name, and none twice. -/
  once : ∀ attempt, ((r.setUp attempt).2.1.map (·.name)).Nodup

section Becomes
variable (h : List.Forall₂ (MappingEntry.Becomes catalog) f.mappings r.definitions)
include h

theorem sharesByName_of_becomes : r.SharesByName := by
  have hknown : ∀ d ∈ r.definitions, catalog.get? d.name = some d.handler := by
    generalize f.mappings = es, r.definitions = ds at h
    induction h with
    | nil => exact nofun
    | cons hd _ ih => exact List.forall_mem_cons.2 ⟨by rw [hd.name, hd.handler], ih⟩
  intro d hd e he hname
  have hsame : some d.handler = some e.handler := by rw [← hknown d hd, hname, hknown e he]
  exact Option.some.inj hsame

/-- What each definition has of its mapping, all of them have of the file. -/
theorem map_eq_map_of_becomes {β : Type} {read : Definition η → β} {read' : MappingEntry → β}
    (hread : ∀ e d, e.Becomes catalog d → read' e = read d) :
    r.definitions.map read = f.mappings.map read' := by
  rw [eq_comm, ← List.forall₂_eq_eq_eq, List.forall₂_map_left_iff, List.forall₂_map_right_iff]
  exact h.imp hread

end Becomes

theorem keptBy_of_registry?_eq_ok (h : f.registry? catalog = .ok r) : f.KeptBy catalog r := by
  have hbecomes := registry?_eq_ok_iff.1 h
  have hshares := sharesByName_of_becomes hbecomes
  have hroute (e : MappingEntry) (d : Definition η) (hd : e.Becomes catalog d) :
      (e.pattern, e.handler) = (d.pattern.text, d.name) := by
    rw [(Pattern.text_style_of_ofText? hd.pattern).1, hd.name]
  exact
    { becomes := hbecomes
      routes := map_eq_map_of_becomes hbecomes hroute
      styles := map_eq_map_of_becomes hbecomes fun _ _ hd =>
        (Pattern.text_style_of_ofText? hd.pattern).2.symm
      shares := hshares
      once := fun attempt => Stage.nodup_names (x := ⟨r, ⟨.init, attempt⟩⟩) hshares }

/-- **All or nothing.** A file becomes a registry exactly if all of its mappings are usable, and the
registry keeps all there is in the file. Else the first mapping that is not usable is what is reported. -/
theorem builds_all_or_nothing (f : MappingFile) (catalog : Catalog η) :
    ((∃ r, f.registry? catalog = .ok r) ↔ ∀ e ∈ f.mappings, e.Usable catalog) ∧
      (∀ r, f.registry? catalog = .ok r → f.KeptBy catalog r) ∧
      ∀ error, f.registry? catalog = .error error ↔ f.FirstRefused catalog error :=
  ⟨exists_registry?_iff, fun _ => keptBy_of_registry?_eq_ok, fun _ => registry?_eq_error_iff⟩

/-- Two patterns that are none, and handlers that nobody knows. -/
def misprint : MappingFile :=
  ⟨"", .empty, [⟨"/page", .servlet, "page", .empty⟩, ⟨"*.", .servlet, "nobody", .empty⟩,
    ⟨"/part", .servlet, "nobody", .empty⟩, ⟨"part", .servlet, "part", .empty⟩]⟩

/-- The misprint is refused for the pattern of its second mapping. The shop is built, and its two pages are
set up as one. -/
theorem shop_built_misprint_refused :
    misprint.registry? shopHandlers = .error ⟨"*.", .pattern .extensionForm⟩ ∧
      ∃ r, shop.registry? shopHandlers = .ok r ∧ shop.KeptBy shopHandlers r ∧
        (r.setUp fun _ => .ok ()).2.1.map (·.name) = ["part", "view", "page"] := by
  constructor
  · have hpage : Pattern.ofText? "/page" .servlet = .ok (.literal "/page") := by decide +kernel
    have hsecond : Pattern.read? "*." .servlet = .error .extensionForm := by decide +kernel
    refine ((builds_all_or_nothing misprint shopHandlers).2.2 _).2
      ⟨[_], _, [_, _], rfl, fun e he => ?_, .pattern hsecond⟩
    cases List.mem_singleton.1 he
    exact ⟨⟨_, hpage⟩, by decide +kernel⟩
  · have hnames : (shop.registry? shopHandlers).toOption.map
        (fun r => (r.setUp fun _ => .ok ()).2.1.map (·.name)) = some ["part", "view", "page"] := by
      decide +kernel
    cases hr : shop.registry? shopHandlers with
    | error error =>
      rw [hr] at hnames
      cases hnames
    | ok r =>
      rw [hr] at hnames
      exact ⟨r, rfl, (builds_all_or_nothing shop shopHandlers).2.1 r hr, Option.some.inj hnames⟩

end MappingFile
end RequestDispatch
