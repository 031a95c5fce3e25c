import RequestDispatch.Proofs.Chain.Listing
import RequestDispatch.Proofs.Chain.Residue

/-! Names and values.

The names that a chain lists are found on one way down its layers, the value under a name on another. An
explicit nothing would keep them apart, as it is read but not listed. There is none: what is written as
nothing is removed, and what dispatch has nothing to tell of it leaves out (`Chain.Present`, kept by every
step). So the names listed are just those under which something is read, and a level lists the reserved ones
first, in their order (`Chain.names_are_domain`). -/
namespace RequestDispatch

/-- No explicit nothing is held. -/
def Slots.Present (slots : Slots) : Prop := ∀ key, slots key ≠ some .null

theorem Slots.present_empty : empty.Present := nofun

theorem Slots.present_telling (phase : Reserved.Phase) (o : Origin) : (telling phase o).Present := by
  rintro ⟨p, detail⟩
  by_cases hp : p = phase
  · cases detail <;> simp [telling, hp]
  · simp [telling, hp]

theorem Write.outcome?_ne_null (w : Write) : w.outcome? ≠ some .null := by
  cases w with
  | remove name => nofun
  | set name value => cases value <;> simp [outcome?]

/-- What a write leaves in levels: the value, nothing, or what was there. -/
theorem mem_overwrite {α : Type} [DecidableEq α] {own value v : Option α} {values : List (Option α)}
    (h : v ∈ overwrite own value values) : v = value ∨ v = none ∨ v ∈ values := by
  induction values generalizing value with
  | nil => cases h
  | cons first beneath ih =>
    rw [overwrite] at h
    rcases List.mem_cons.1 h with rfl | h
    · exact .inl rfl
    · by_cases hbeneath : deepest own beneath = own
      · rw [if_pos hbeneath] at h
        exact .inr (.inr (List.mem_cons_of_mem first h))
      · rw [if_neg hbeneath] at h
        rcases ih h with hnone | hnone | hmem
        · exact .inr (.inl hnone)
        · exact .inr (.inl hnone)
        · exact .inr (.inr (List.mem_cons_of_mem first hmem))

theorem deepest_mem {α : Type} [DecidableEq α] (own : α) (values : List α) :
    deepest own values ∈ own :: values := by
  induction values with
  | nil => exact List.mem_singleton_self own
  | cons value beneath ih =>
    rw [deepest_cons]
    split
    · simp
    · rcases List.mem_cons.1 ih with h | h
      · simp [h]
      · simp [h]

namespace Level
variable (l : Level) (inner : View)

/-- A level lists reserved names first, in their order, and no other names among them. -/
theorem attributeNames_view :
    (l.view inner).attributeNames =
      (Reserved.all.filter fun key => ((l.view inner).attribute? key.name).any (· ≠ .null)).map (·.name) ++
        inner.attributeNames.filter (!Reserved.isReserved ·) := by
  have hreserved : ∀ key : Reserved, (l.view inner).attribute? key.name = l.reserved? inner key := by
    intro key
    show l.attribute? inner key.name = _
    simp only [attribute?, Reserved.ofName?_name]
  simp only [hreserved]
  rfl

end Level

namespace Chain
variable {c : Chain Request}

/-- No level holds an explicit nothing. -/
def Present (c : Chain Request) : Prop := ∀ l ∈ c.levels, l.written.Present

namespace Present

theorem base (r : Request) : Present (.base r) := nofun

theorem push {x : Layer} {l : Level} (hx : x.level? = some l) (h : c.Present) (hl : l.written.Present) :
    (c.push x).Present := by
  unfold Present
  rw [levels_push hx]
  exact List.forall_mem_append.2 ⟨h, List.forall_mem_singleton.2 hl⟩

theorem replaceLast (h : c.Present) (t : Target) : (c.replaceLast t).Present := by
  rcases c.replaceLast_eq t with he | ⟨outer, l, rfl, he⟩
  · rwa [he]
  · unfold Present at h ⊢
    rw [levels_push rfl, List.forall_mem_append, List.forall_mem_singleton] at h
    rw [he, levels_push (l := { l with replacement := t }) rfl, List.forall_mem_append,
      List.forall_mem_singleton]
    exact h

theorem write (h : c.Present) (hc : c.Faithful) (w : Write) : (c.write w).Present := by
  intro l hl key
  have hmem : l.written key ∈ (c.write w).held key := List.mem_map_of_mem hl
  have hkept : ∀ v ∈ c.held key, v ≠ some .null := by
    intro v hv
    obtain ⟨l', hl', rfl⟩ := List.mem_map.1 hv
    exact h l' hl' key
  rw [hc.held_write w key] at hmem
  split at hmem
  · rcases mem_overwrite hmem with hv | hv | hv
    · rw [hv]
      exact w.outcome?_ne_null
    · rw [hv]
      nofun
    · exact hkept _ hv
  · exact hkept _ hmem

theorem step (h : c.Present) (hc : c.Faithful) (s : Step) : (c.step s).2.Present := by
  have hchange := change_step c s
  generalize (c.step s).2 = c' at hchange ⊢
  cases hchange with
  | write w => exact h.write hc w
  | decorate | nothing => exact h
  | forward t recordOrigin =>
    refine h.push rfl ?_
    cases recordOrigin with
    | false => exact Slots.present_empty
    | true => exact Slots.present_telling .forward _
  | inclusion t => exact h.push rfl (Slots.present_telling .inclusion _)
  | readdress _ t => exact h.replaceLast t
  | removal _ hremoved =>
    exact fun l hl => h l (((removeDeepest?_eq_some hremoved).1.filterMap Layer.level?).subset hl)

end Present

/-- Nothing explicit is read from a chain over a request. -/
theorem Faithful.attribute?_ne_null (h : c.Faithful) (hp : c.Present) (name : String) :
    c.view.attribute? name ≠ some .null := by
  have hbottom : c.bottom.attribute? name ≠ some .null := c.bottom.attributes.get?_ne_null name
  cases hname : Reserved.ofName? name with
  | none => rwa [attribute?_ordinary h.plain hname]
  | some key =>
    obtain rfl := Reserved.name_of_ofName? hname
    rw [h.attribute?]
    rcases List.mem_cons.1 (deepest_mem (c.bottom.attribute? key.name) (c.levels.map (·.written key)))
      with hown | hheld
    · rwa [hown]
    · obtain ⟨l, hl, hwritten⟩ := List.mem_map.1 hheld
      rw [← hwritten]
      exact hp l hl key

/-- With a level on it, a chain lists reserved names first. -/
theorem Plain.attributeNames (hc : c.Plain) (hl : c.levels ≠ []) :
    ∃ others, c.view.attributeNames =
      (Reserved.all.filter fun key => (c.view.attribute? key.name).any (· ≠ .null)).map (·.name) ++ others ∧
      ∀ name ∈ others, Reserved.ofName? name = none := by
  induction c with
  | base request => exact absurd rfl hl
  | layer outer inner ih =>
    cases outer with
    | forward l | inclusion l =>
      exact ⟨_, l.attributeNames_view inner.view, fun name hname => (Level.mem_passedNames_iff.1 hname).2⟩
    | decorator d =>
      rw [hc _ List.mem_cons_self d rfl]
      exact ih hc.inner hl

/-- **The names that are listed are those under which something is read.** On a chain that steps have made of a
request, each of them is listed once. With a level on the chain the reserved ones come first, in their
order. -/
theorem names_are_domain {r : Request} (hc : LeadsTo Step.IsPlain (.base r) c) :
    c.view.attributeNames.Nodup ∧
    (∀ name, name ∈ c.view.attributeNames ↔ (c.view.attribute? name).isSome) ∧
    (c.levels ≠ [] → ∃ others, c.view.attributeNames =
        (Reserved.all.filter fun key => (c.view.attribute? key.name).isSome).map (·.name) ++ others ∧
      ∀ name ∈ others, Reserved.ofName? name = none) := by
  have hkept : c.Faithful ∧ c.Present := hc.invariant (I := fun c => c.Faithful ∧ c.Present)
    (fun h hs => ⟨h.1.step hs, h.2.step h.1 _⟩) ⟨.base r, .base r⟩
  obtain ⟨h, hp⟩ := hkept
  have hpresent : ∀ name, (c.view.attribute? name).any (· ≠ .null) = (c.view.attribute? name).isSome := by
    intro name
    have hne := h.attribute?_ne_null hp name
    cases hvalue : c.view.attribute? name with
    | none => rfl
    | some value =>
      rw [hvalue] at hne
      simpa using hne
  have hlists := h.plain.lists
  refine ⟨hlists.nodup, fun name => ?_, fun hl => ?_⟩
  · rw [hlists.mem_iff, ← hpresent, Option.any_eq_true]
    simp only [decide_eq_true_eq, and_comm]
  · simpa only [hpresent] using h.plain.attributeNames hl

/-- A request that tells of an inclusion itself, and is included. The URI that both tell is removed. -/
def withoutUriSteps : List Step :=
  [.write (.set (Reserved.mk .inclusion .requestUri).name (.text "/own")),
    .includeTarget ⟨"/a", "/a", none⟩, .write (.set "user" (.text "guest")), .decorate .plain,
    .write (.remove (Reserved.mk .inclusion .requestUri).name)]

def withoutUri : Chain Request := (Chain.base (Request.get "/page")).run withoutUriSteps

/-- The request still holds the URI, but it is not listed. The context path and the servlet path are, in this
order and before the user. -/
theorem withoutUri_names :
    withoutUri.bottom.attribute? (Reserved.mk .inclusion .requestUri).name = some (.text "/own") ∧
    (Reserved.mk .inclusion .requestUri).name ∉ withoutUri.view.attributeNames ∧
    "user" ∈ withoutUri.view.attributeNames ∧
    ∃ others, withoutUri.view.attributeNames = (Reserved.mk .inclusion .contextPath).name ::
      (Reserved.mk .inclusion .servletPath).name :: others := by
  have hreached : LeadsTo Step.IsPlain (.base (Request.get "/page")) withoutUri :=
    ⟨withoutUriSteps, by simp [withoutUriSteps, Step.IsPlain], rfl⟩
  obtain ⟨-, hmem, hfirst⟩ := names_are_domain hreached
  obtain ⟨others, hnames, -⟩ := hfirst (List.ne_nil_of_length_pos (by decide +kernel))
  have hlisted : (Reserved.all.filter fun key => (withoutUri.view.attribute? key.name).isSome) =
      [⟨.inclusion, .contextPath⟩, ⟨.inclusion, .servletPath⟩] := by decide +kernel
  refine ⟨by decide +kernel, ?_, (hmem _).2 (by decide +kernel), others, by rw [hnames, hlisted]; rfl⟩
  rw [hmem]
  decide +kernel

end Chain
end RequestDispatch
