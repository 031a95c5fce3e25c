import RequestDispatch.Proofs.Chain.Residue
import RequestDispatch.Proofs.Chain.Restacking

/-! Forwards in a row.

The first of some forwards in a row may put a level on the chain. All others find one around the request, take
it over and answer with the paths it had, so that together they come to the first one with other paths
(`forwardAll_cons`). What the level holds is not written again: the reserved attributes go on telling of the
paths that the first forward found. Each answer undoes its forward (`unforward?_forward`), hence all of them, handed
back from the last to the first, undo the row one by one (`undo_outcomes`). -/
namespace RequestDispatch.Chain
variable {β : Type} [Underlying β]

/-- The chain after forwards in a row, each of which is to record what it finds. -/
def forwardAll (c : Chain β) (ts : List Target) : Chain β := ts.foldl (fun c t => (c.forward t true).2) c

/-- What each of them answers. -/
def outcomes (c : Chain β) : List Target → List ForwardOutcome
  | [] => []
  | t :: rest => (c.forward t true).1 :: (c.forward t true).2.outcomes rest

/-- The steps that undo forwards, from the last to the first. -/
def undoing (outcomes : List ForwardOutcome) : List Step := outcomes.reverse.map .unforward

theorem run_append (c : Chain β) (steps steps' : List Step) :
    c.run (steps ++ steps') = (c.run steps).run steps' := List.foldl_append

theorem replies_append (c : Chain β) (steps steps' : List Step) :
    c.replies (steps ++ steps') = c.replies steps ++ (c.run steps).replies steps' := by
  induction steps generalizing c with
  | nil => rfl
  | cons s rest ih => exact congrArg ((c.step s).1 :: ·) (ih _)

theorem forwardAll_append (c : Chain β) (ts ts' : List Target) :
    c.forwardAll (ts ++ ts') = (c.forwardAll ts).forwardAll ts' := List.foldl_append

theorem outcomes_append (c : Chain β) (ts ts' : List Target) :
    c.outcomes (ts ++ ts') = c.outcomes ts ++ (c.forwardAll ts).outcomes ts' := by
  induction ts generalizing c with
  | nil => rfl
  | cons t rest ih => exact congrArg ((c.forward t true).1 :: ·) (ih _)

theorem length_outcomes (c : Chain β) (ts : List Target) : (c.outcomes ts).length = ts.length := by
  induction ts generalizing c with
  | nil => rfl
  | cons t rest ih => exact congrArg (· + 1) (ih _)

/-! ### What a row comes to -/

variable {c : Chain Request} {l : Level}

theorem lastForward?_replaceLast (h : c.lastForward? = some l) (t : Target) :
    (c.replaceLast t).lastForward? = some { l with replacement := t } := by
  obtain ⟨outer, rfl⟩ := lastForward?_eq_some h
  rw [replaceLast_push, lastForward?_push]
  rfl

/-- After a forward there is a level around the request that shows its target. -/
theorem lastForward?_forward (c : Chain Request) (t : Target) (recordOrigin : Bool) :
    ∃ l, (c.forward t recordOrigin).2.lastForward? = some l ∧ l.replacement = t := by
  cases h : c.lastForward? with
  | none =>
    rw [forward_created h]
    exact ⟨_, lastForward?_push .., rfl⟩
  | some l =>
    rw [forward_reused h]
    exact ⟨_, lastForward?_replaceLast h t, rfl⟩

/-- Where there is a level to take over, each forward answers with the paths of the one before. -/
theorem outcomes_of_lastForward? (h : c.lastForward? = some l) (ts : List Target) :
    c.outcomes ts = (l.replacement :: ts).dropLast.map .reused := by
  induction ts generalizing c l with
  | nil => rfl
  | cons t rest ih =>
    rw [outcomes, forward_reused h, ih (lastForward?_replaceLast h t), List.dropLast_cons_cons, List.map_cons]

theorem forwardAll_of_lastForward? (h : c.lastForward? = some l) (ts : List Target) :
    c.forwardAll ts = c.replaceLast (ts.getLast?.getD l.replacement) := by
  obtain ⟨outer, rfl⟩ := lastForward?_eq_some h
  induction ts generalizing l with
  | nil => rw [replaceLast_push]; rfl
  | cons t rest ih =>
    have hfirst : (outer.push (.forward l)).forwardAll (t :: rest) =
        (outer.push (.forward { l with replacement := t })).forwardAll rest := by
      show ((outer.push (.forward l)).forward t true).2.forwardAll rest = _
      rw [forward_reused h, replaceLast_push]
      rfl
    rw [hfirst, ih (lastForward?_push ..), replaceLast_push, replaceLast_push, List.getLast?_cons]
    rfl

/-- A row of forwards is the first one with the paths of the last. -/
theorem forwardAll_cons (c : Chain Request) (t : Target) (rest : List Target) :
    c.forwardAll (t :: rest) = (c.forward t true).2.replaceLast (rest.getLast?.getD t) := by
  obtain ⟨l, hl, rfl⟩ := lastForward?_forward c t true
  exact forwardAll_of_lastForward? hl rest

/-- At every point of a row the chain is what the first forward made of it, with other paths. -/
theorem forwardAll_take (c : Chain Request) {ts : List Target} {k : Nat} (hk : 1 ≤ k) (hlength : k ≤ ts.length) :
    ∃ first last, c.forwardAll (ts.take 1) = (c.forward first true).2 ∧
      c.forwardAll (ts.take k) = (c.forward first true).2.replaceLast last := by
  obtain ⟨first, rest, rfl⟩ := List.exists_cons_of_length_pos (Nat.lt_of_lt_of_le hk hlength)
  obtain ⟨k, rfl⟩ := Nat.exists_eq_add_of_le' hk
  exact ⟨first, _, rfl, by rw [List.take_succ_cons, forwardAll_cons]⟩

/-- What the forwards from some point on answer. -/
theorem drop_outcomes (c : Chain Request) {ts : List Target} {k : Nat} (hlength : k ≤ ts.length) :
    (c.outcomes ts).drop k = (c.forwardAll (ts.take k)).outcomes (ts.drop k) := by
  have hsplit : c.outcomes ts = c.outcomes (ts.take k) ++ (c.forwardAll (ts.take k)).outcomes (ts.drop k) := by
    rw [← outcomes_append, List.take_append_drop]
  rw [hsplit, List.drop_left' (by rw [length_outcomes, List.length_take_of_le hlength])]

/-! ### What other paths leave alone -/

theorem depth_replaceLast (c : Chain Request) (t : Target) : (c.replaceLast t).depth = c.depth := by
  rcases c.replaceLast_eq t with he | ⟨outer, l, rfl, he⟩
  · rw [he]
  · simp [depth, he]

theorem held_replaceLast (c : Chain Request) (t : Target) (key : Reserved) :
    (c.replaceLast t).held key = c.held key := by
  rcases c.replaceLast_eq t with he | ⟨outer, l, rfl, he⟩
  · rw [he]
  · rw [he, held_push (x := .forward l) rfl]
    exact held_push (x := .forward { l with replacement := t }) rfl outer key

theorem Faithful.attribute?_replaceLast (h : c.Faithful) (t : Target) (key : Reserved) :
    (c.replaceLast t).view.attribute? key.name = c.view.attribute? key.name := by
  rw [(h.replaceLast t).attribute?, h.attribute?, bottom_replaceLast]
  exact congrArg (deepest _) (held_replaceLast c t key)

/-! ### What the first forward finds -/

/-- Without levels the paths are those of the request. -/
theorem origin_of_levels_eq_nil (hc : c.Plain) (hl : c.levels = []) : c.view.origin = c.bottom.view.origin := by
  induction c with
  | base request => rfl
  | layer outer inner ih =>
    cases outer with
    | forward l | inclusion l => cases hl
    | decorator d =>
      rw [hc _ List.mem_cons_self d rfl]
      exact ih hc.inner hl

/-- A forward that puts the only level on a chain tells of the request, whatever that holds itself. -/
theorem Faithful.attribute?_forward (h : c.Faithful) (hl : c.levels = []) (t : Target) (key : Reserved) :
    (c.forward t true).2.view.attribute? key.name = Slots.telling .forward c.bottom.view.origin key := by
  have hforward : (c.forward t true).2.Faithful := h.step (s := .forward t true) trivial
  rw [forward_created (lastForward?_of_levels_eq_nil hl)] at hforward ⊢
  have hlevels : (c.push (.forward (.above c.bottom t (c.forwardSlots true)))).levels =
      [.above c.bottom t (c.forwardSlots true)] := by rw [levels_push rfl, hl, List.nil_append]
  rw [hforward.attribute?, hlevels, List.map_singleton, deepest_singleton]
  show Slots.telling .forward c.view.origin key = _
  rw [origin_of_levels_eq_nil h.plain hl]

/-! ### Undoing a row -/

/-- The answers, handed back from the last to the first, undo the row, and each finds what it is to undo. -/
theorem undo_outcomes (c : Chain Request) (ts : List Target) :
    (c.forwardAll ts).run (undoing (c.outcomes ts)) = c ∧
      (c.forwardAll ts).replies (undoing (c.outcomes ts)) = List.replicate ts.length (.undone true) := by
  induction ts generalizing c with
  | nil => exact ⟨rfl, rfl⟩
  | cons t rest ih =>
    obtain ⟨hrun, hreplies⟩ := ih (c.forward t true).2
    have hsteps : undoing (c.outcomes (t :: rest)) =
        undoing ((c.forward t true).2.outcomes rest) ++ [.unforward (c.forward t true).1] := by
      simp [undoing, outcomes]
    have hlast : (c.forward t true).2.step (.unforward (c.forward t true).1) = (.undone true, c) := by
      simp only [step, unforward?_forward]
    have hrow : c.forwardAll (t :: rest) = (c.forward t true).2.forwardAll rest := rfl
    rw [hsteps, hrow, run_append, replies_append, hrun, hreplies, List.length_cons, List.replicate_succ']
    exact ⟨congrArg Prod.snd hlast, congrArg (fun x => _ ++ [x]) (congrArg Prod.fst hlast)⟩

/-- **Forwards in a row share one level**, which keeps telling of what the first of them found. Each further
forward answers with the paths of the one before, adds no layer and changes no reserved attribute. If there was
no level before, the forward attributes tell of the request throughout. The answers, handed back from the last
one on, each find something to undo, and leave the chain at every point as it was before the forward that was
undone. -/
theorem forwards_share_level {r : Request} (hc : LeadsTo Step.IsPlain (.base r) c) (ts : List Target) :
    (c.outcomes ts).tail = ts.dropLast.map .reused ∧
    (∀ k, 1 ≤ k → k ≤ ts.length →
      (c.forwardAll (ts.take k)).depth = (c.forwardAll (ts.take 1)).depth ∧
      (∀ key : Reserved, (c.forwardAll (ts.take k)).view.attribute? key.name =
        (c.forwardAll (ts.take 1)).view.attribute? key.name) ∧
      (c.levels = [] → ∀ detail,
        (c.forwardAll (ts.take k)).view.attribute? (Reserved.mk .forward detail).name =
          Slots.telling .forward c.bottom.view.origin ⟨.forward, detail⟩)) ∧
    ∀ k, k ≤ ts.length →
      (c.forwardAll ts).run (undoing ((c.outcomes ts).drop k)) = c.forwardAll (ts.take k) ∧
      (c.forwardAll ts).replies (undoing ((c.outcomes ts).drop k)) =
        List.replicate (ts.length - k) (.undone true) := by
  have h : c.Faithful := (Faithful.base r).leadsTo hc
  refine ⟨?_, fun k hk hlength => ?_, fun k hlength => ?_⟩
  · cases ts with
    | nil => rfl
    | cons t rest =>
      obtain ⟨l, hl, rfl⟩ := lastForward?_forward c t true
      exact outcomes_of_lastForward? hl rest
  · obtain ⟨first, last, hfirst, hrow⟩ := forwardAll_take c hk hlength
    have hforward : (c.forward first true).2.Faithful := h.step (s := .forward first true) trivial
    rw [hfirst, hrow]
    refine ⟨depth_replaceLast _ last, hforward.attribute?_replaceLast last, fun hl detail => ?_⟩
    rw [hforward.attribute?_replaceLast, h.attribute?_forward hl]
  · have hrow : c.forwardAll ts = (c.forwardAll (ts.take k)).forwardAll (ts.drop k) := by
      rw [← forwardAll_append, List.take_append_drop]
    rw [drop_outcomes c hlength, hrow, ← List.length_drop]
    exact undo_outcomes _ _

/-- The targets of three forwards. -/
def threeTargets : List Target := [⟨"/a", "/a", none⟩, ⟨"/b/x", "/b", some "/x"⟩, ⟨"/c", "/c", none⟩]

/-- At the last of them the forward attributes tell of the request, with its query string and without path info,
and two of the three forwards can be undone to get back to the first. -/
theorem threeTargets_share_level :
    let c := Chain.base (Request.get "/page?x=1")
    (c.outcomes threeTargets).tail = [.reused ⟨"/a", "/a", none⟩, .reused ⟨"/b/x", "/b", some "/x"⟩] ∧
    (c.forwardAll threeTargets).depth = 1 ∧
    (c.forwardAll threeTargets).view.attribute? (Reserved.mk .forward .requestUri).name = some (.text "/page") ∧
    (c.forwardAll threeTargets).view.attribute? (Reserved.mk .forward .queryString).name = some (.text "x=1") ∧
    (c.forwardAll threeTargets).view.attribute? (Reserved.mk .forward .pathInfo).name = none ∧
    (c.forwardAll threeTargets).run (undoing ((c.outcomes threeTargets).drop 1)) =
      c.forwardAll [⟨"/a", "/a", none⟩] := by
  intro c
  have hreached : LeadsTo Step.IsPlain (.base (Request.get "/page?x=1")) c := ⟨[], nofun, rfl⟩
  obtain ⟨houtcomes, hshared, hundone⟩ := forwards_share_level hreached threeTargets
  obtain ⟨hdepth, -, htells⟩ := hshared 3 (by decide) (by decide)
  have hall : threeTargets.take 3 = threeTargets := rfl
  rw [hall] at hdepth htells
  have htold := htells rfl
  refine ⟨houtcomes, ?_, ?_, ?_, ?_, (hundone 1 (by decide)).1⟩
  · rw [hdepth]; decide +kernel
  · rw [htold]; decide +kernel
  · rw [htold]; decide +kernel
  · rw [htold]; decide +kernel

end RequestDispatch.Chain
