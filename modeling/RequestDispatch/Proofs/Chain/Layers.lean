import RequestDispatch.Chain.Step

/-! Chains as lists of layers.

A chain is its layers, outermost first, over a request (`ofLayers_layers`). Dispatch works
at its inner end: a chain is a request alone or another chain with one more layer around
the request (`push`, `pushInduction`), and each operation on the inner end is settled by
what it does to a chain with a layer pushed. -/
namespace RequestDispatch

namespace Layer

/-- The dispatch level that a layer is, unless it is a decorator. -/
def level? : Layer → Option Level
  | forward l | inclusion l => some l
  | decorator _ => none

/-- The level of a layer that is a forward. -/
def forward? : Layer → Option Level
  | forward l => some l
  | inclusion _ | decorator _ => none

/-- A forward level takes other paths, any other layer stays as it is. -/
def readdress (t : Target) : Layer → Layer
  | forward l => forward { l with replacement := t }
  | inclusion l => inclusion l
  | decorator d => decorator d

/-- A decorator that changes nothing, or a level. -/
def IsPlain (x : Layer) : Prop := ∀ d, x = .decorator d → d = .plain

theorem forward?_eq_some_iff {x : Layer} {l : Level} : x.forward? = some l ↔ x = .forward l := by
  cases x <;> simp [forward?]

@[simp] theorem forward?_readdress (t : Target) (x : Layer) :
    (x.readdress t).forward? = x.forward?.map ({ · with replacement := t }) := by
  cases x <;> rfl

@[simp] theorem readdress_readdress (t u : Target) (x : Layer) :
    (x.readdress t).readdress u = x.readdress u := by
  cases x <;> rfl

theorem readdress_of_forward? {x : Layer} {l : Level} (h : x.forward? = some l) :
    x.readdress l.replacement = x := by
  rw [forward?_eq_some_iff.1 h]
  rfl

theorem isPlain_of_level? {x : Layer} {l : Level} (h : x.level? = some l) : x.IsPlain := by
  rintro d rfl
  cases h

end Layer

namespace Chain
variable {β : Type}

def ofLayers (layers : List Layer) (request : β) : Chain β := layers.foldr layer (base request)

theorem ofLayers_layers (c : Chain β) : ofLayers c.layers c.bottom = c := by
  induction c with
  | base request => rfl
  | layer outer inner ih => exact congrArg (layer outer) ih

@[simp] theorem layers_ofLayers (layers : List Layer) (request : β) :
    (ofLayers layers request).layers = layers := by
  induction layers with
  | nil => rfl
  | cons x rest ih => exact congrArg (x :: ·) ih

@[simp] theorem bottom_ofLayers (layers : List Layer) (request : β) :
    (ofLayers layers request).bottom = request := by
  induction layers with
  | nil => rfl
  | cons x rest ih => exact ih

theorem ext {c d : Chain β} (hl : c.layers = d.layers) (hb : c.bottom = d.bottom) : c = d := by
  rw [← ofLayers_layers c, ← ofLayers_layers d, hl, hb]

/-- The dispatch levels, outermost first. -/
def levels (c : Chain β) : List Level := c.layers.filterMap Layer.level?

/-- Every decorator in the chain changes nothing. -/
def Plain (c : Chain β) : Prop := ∀ x ∈ c.layers, x.IsPlain

theorem mem_levels_iff {c : Chain β} {l : Level} :
    l ∈ c.levels ↔ .forward l ∈ c.layers ∨ .inclusion l ∈ c.layers := by
  unfold levels
  rw [List.mem_filterMap]
  constructor
  · rintro ⟨x, hx, hl⟩
    cases x <;> cases hl
    · exact .inl hx
    · exact .inr hx
  · rintro (h | h) <;> exact ⟨_, h, rfl⟩

theorem Plain.inner {outer : Layer} {inner : Chain β} (h : (layer outer inner).Plain) :
    inner.Plain :=
  fun x hx => h x (List.mem_cons_of_mem outer hx)

/-! ### The inner end -/

/-- The chain with one more layer, directly around the request. -/
def push (c : Chain β) (x : Layer) : Chain β := c.aboveBottom fun request => layer x (base request)

theorem aboveBottom_layer_base (make : β → Layer) (c : Chain β) :
    (c.aboveBottom fun request => layer (make request) (base request)) = c.push (make c.bottom) := by
  induction c with
  | base request => rfl
  | layer outer inner ih => exact congrArg (layer outer) ih

@[simp] theorem layers_push (c : Chain β) (x : Layer) : (c.push x).layers = c.layers ++ [x] := by
  induction c with
  | base request => rfl
  | layer outer inner ih => exact congrArg (outer :: ·) ih

@[simp] theorem bottom_push (c : Chain β) (x : Layer) : (c.push x).bottom = c.bottom := by
  induction c with
  | base request => rfl
  | layer outer inner ih => exact ih

theorem push_inj {c d : Chain β} {x y : Layer} (h : c.push x = d.push y) : c = d ∧ x = y := by
  have hlayers := congrArg layers h
  have hbottom := congrArg bottom h
  rw [layers_push, layers_push] at hlayers
  rw [bottom_push, bottom_push] at hbottom
  obtain ⟨hl, hx⟩ := List.append_inj' hlayers rfl
  exact ⟨ext hl hbottom, List.singleton_inj.1 hx⟩

theorem levels_push {x : Layer} {l : Level} (h : x.level? = some l) (c : Chain β) :
    (c.push x).levels = c.levels ++ [l] := by
  simp [levels, h]

/-- Induction from the request outwards to chains with more layers around it. -/
theorem pushInduction {motive : Chain β → Prop} (base : ∀ request, motive (.base request))
    (push : ∀ c x, motive c → motive (c.push x)) (c : Chain β) : motive c := by
  suffices h : ∀ xs : List Layer, motive (ofLayers xs.reverse c.bottom) by
    have := h c.layers.reverse
    rwa [List.reverse_reverse, ofLayers_layers] at this
  intro xs
  induction xs with
  | nil => exact base c.bottom
  | cons x xs ih =>
    have hx : ofLayers (x :: xs).reverse c.bottom = (ofLayers xs.reverse c.bottom).push x :=
      ext (by simp) (by simp)
    rw [hx]
    exact push _ x ih

@[simp] theorem lastForward?_push (c : Chain β) (x : Layer) :
    (c.push x).lastForward? = x.forward? := by
  induction c with
  | base request => cases x <;> rfl
  | layer outer inner ih =>
    rw [← ih]
    cases inner <;> cases outer <;> rfl

@[simp] theorem replaceLast_push (t : Target) (c : Chain β) (x : Layer) :
    (c.push x).replaceLast t = c.push (x.readdress t) := by
  induction c with
  | base request => cases x <;> rfl
  | layer outer inner ih =>
    have h : ((layer outer inner).push x).replaceLast t =
        layer outer ((inner.push x).replaceLast t) := by
      cases inner <;> cases outer <;> rfl
    rw [h, ih]
    rfl

theorem removeDeepest?_layer (kind : Layer → Bool) (outer : Layer) (inner : Chain β) :
    (layer outer inner).removeDeepest? kind =
      ((inner.removeDeepest? kind).map (layer outer)).or
        (if kind outer then some inner else none) := by
  rw [removeDeepest?]
  cases inner.removeDeepest? kind <;> rfl

/-- A layer of the kind that is sought is found at the inner end first. -/
theorem removeDeepest?_push (kind : Layer → Bool) (c : Chain β) (x : Layer) :
    (c.push x).removeDeepest? kind =
      if kind x then some c else (c.removeDeepest? kind).map (·.push x) := by
  induction c with
  | base request => cases h : kind x <;> simp [push, aboveBottom, removeDeepest?, h]
  | layer outer inner ih =>
    show (layer outer (inner.push x)).removeDeepest? kind = _
    rw [removeDeepest?_layer, removeDeepest?_layer, ih]
    cases kind x
    · cases inner.removeDeepest? kind
      · cases kind outer <;> rfl
      · rfl
    · rfl

/-- Where a forward level is around the request, there is a chain around it. -/
theorem lastForward?_eq_some {c : Chain β} {l : Level} (h : c.lastForward? = some l) :
    ∃ outer : Chain β, c = outer.push (.forward l) := by
  induction c using pushInduction with
  | base request => cases h
  | push c x _ =>
    rw [lastForward?_push, Layer.forward?_eq_some_iff] at h
    exact ⟨c, by rw [h]⟩

theorem replaceLast_of_none {c : Chain β} (h : c.lastForward? = none) (t : Target) :
    c.replaceLast t = c := by
  induction c using pushInduction with
  | base request => rfl
  | push c x _ =>
    rw [lastForward?_push] at h
    cases x with
    | forward l => cases h
    | inclusion l | decorator d => exact replaceLast_push ..

/-- Other paths go to the forward level around the request, if there is one. -/
theorem replaceLast_eq (c : Chain β) (t : Target) : c.replaceLast t = c ∨
    ∃ (outer : Chain β) (l : Level), c = outer.push (.forward l) ∧
      c.replaceLast t = outer.push (.forward { l with replacement := t }) := by
  cases h : c.lastForward? with
  | none => exact .inl (replaceLast_of_none h t)
  | some l =>
    obtain ⟨outer, rfl⟩ := lastForward?_eq_some h
    exact .inr ⟨outer, l, rfl, replaceLast_push ..⟩

theorem lastForward?_of_levels_eq_nil {c : Chain β} (hc : c.levels = []) : c.lastForward? = none := by
  cases h : c.lastForward? with
  | none => rfl
  | some l =>
    obtain ⟨outer, rfl⟩ := lastForward?_eq_some h
    simp [levels_push (x := .forward l) rfl] at hc

/-! ### What the operations leave as it is -/

theorem plain_push {c : Chain β} {x : Layer} : (c.push x).Plain ↔ c.Plain ∧ x.IsPlain := by
  unfold Plain
  rw [layers_push, List.forall_mem_append, List.forall_mem_singleton]

theorem plain_replaceLast {c : Chain β} (hc : c.Plain) (t : Target) : (c.replaceLast t).Plain := by
  rcases c.replaceLast_eq t with he | ⟨outer, l, rfl, he⟩
  · rwa [he]
  · rw [he]
    exact plain_push.2 ⟨(plain_push.1 hc).1, nofun⟩

@[simp] theorem bottom_replaceLast (t : Target) (c : Chain β) :
    (c.replaceLast t).bottom = c.bottom := by
  induction c using pushInduction with
  | base request => rfl
  | push c x _ => simp

theorem removeDeepest?_eq_some {kind : Layer → Bool} {c c' : Chain β}
    (h : c.removeDeepest? kind = some c') : c'.layers.Sublist c.layers ∧ c'.bottom = c.bottom := by
  induction c generalizing c' with
  | base request => cases h
  | layer outer inner ih =>
    rw [removeDeepest?_layer] at h
    cases hinner : inner.removeDeepest? kind with
    | some inner' =>
      rw [hinner] at h
      cases h
      obtain ⟨hl, hb⟩ := ih hinner
      exact ⟨hl.cons_cons outer, hb⟩
    | none =>
      rw [hinner, Option.map_none, Option.none_or] at h
      split at h
      · cases h
        exact ⟨List.sublist_cons_self outer _, rfl⟩
      · cases h

/-! ### Steps in a row -/

variable [Underlying β]

/-- The chain `c'` is what steps of a kind make of `c`. -/
def LeadsTo (ok : Step → Prop) (c c' : Chain β) : Prop :=
  ∃ steps, (∀ s ∈ steps, ok s) ∧ c' = c.run steps

namespace LeadsTo
variable {ok : Step → Prop} {c c' c'' : Chain β}

theorem refl (c : Chain β) : LeadsTo ok c c := ⟨[], nofun, rfl⟩

theorem trans (h : LeadsTo ok c c') (h' : LeadsTo ok c' c'') : LeadsTo ok c c'' := by
  obtain ⟨steps, hs, rfl⟩ := h
  obtain ⟨steps', hs', rfl⟩ := h'
  exact ⟨steps ++ steps', List.forall_mem_append.2 ⟨hs, hs'⟩, List.foldl_append.symm⟩

theorem step (c : Chain β) {s : Step} (hs : ok s) : LeadsTo ok c (c.step s).2 :=
  ⟨[s], List.forall_mem_singleton.2 hs, rfl⟩

/-- What each step keeps is kept. -/
theorem invariant {I : Chain β → Prop} (hstep : ∀ {c s}, I c → ok s → I (c.step s).2)
    (h : LeadsTo ok c c') (hc : I c) : I c' := by
  obtain ⟨steps, hs, rfl⟩ := h
  induction steps generalizing c with
  | nil => exact hc
  | cons s rest ih =>
    obtain ⟨hs, hrest⟩ := List.forall_mem_cons.1 hs
    exact ih (hstep hc hs) hrest

end LeadsTo

end Chain
end RequestDispatch
