import Mathlib.Data.List.Chain
import RequestDispatch.Proofs.Chain.Dressed
import RequestDispatch.Proofs.Dispatch.Nesting

/-! Layers mirror dispatches.

While dispatches are under way the chain has a layer for each inclusion among them, and one
forward layer for what leads up to an inclusion or to the handler that is running: a forward
that follows the request or another forward takes over its layer (`Dispatched.marks`). Entering
a dispatch keeps to that (`Mirrors.enter`). What handlers do inside adds decorators on top at
most, and leaving the dispatch gives back the layers there were (`Dressed.leave`), so it holds at
every invocation, for requests that are served from a chain without levels. -/
namespace RequestDispatch

namespace Dispatched

/-- The layer of a dispatch, given the dispatch inside it. A forward inside takes over the layer of
what is no inclusion. -/
def mark (d : Dispatched) (next : Option Dispatched) : List (Layer.Kind × Target) :=
  if d.kind = .inclusion then [(.inclusion, d.target)]
  else if next.any (·.kind ≠ .inclusion) then []
  else [(.forward, d.target)]

/-- The layers of dispatches under way, outermost first. -/
def marks : List Dispatched → List (Layer.Kind × Target)
  | [] => []
  | d :: inner => d.mark inner.head? ++ marks inner

theorem mark_inclusion {d : Dispatched} (hd : d.kind = .inclusion) (next : Option Dispatched) :
    d.mark next = [(.inclusion, d.target)] := if_pos hd

theorem marks_ne_nil {ds : List Dispatched} (h : ds ≠ []) : marks ds ≠ [] := by
  induction ds with
  | nil => exact absurd rfl h
  | cons d inner ih =>
    cases inner with
    | nil => by_cases hd : d.kind = .inclusion <;> simp [marks, mark, hd]
    | cons e rest => exact List.append_ne_nil_of_right_ne_nil _ (ih (List.cons_ne_nil _ _))

/-- One more dispatch adds a layer, unless it takes over the last one. -/
theorem marks_concat (ds : List Dispatched) (d : Dispatched) :
    marks (ds ++ [d]) =
      if d.kind = .inclusion then marks ds ++ [(.inclusion, d.target)]
      else if ds.getLast?.any (·.kind ≠ .inclusion) then (marks ds).dropLast ++ [(.forward, d.target)]
      else marks ds ++ [(.forward, d.target)] := by
  induction ds with
  | nil => by_cases hd : d.kind = .inclusion <;> simp [marks, mark, hd]
  | cons e inner ih =>
    cases inner with
    | nil =>
      by_cases hd : d.kind = .inclusion <;> by_cases he : e.kind = .inclusion <;>
        simp [marks, mark, hd, he]
    | cons f rest =>
      have hmarks : ∀ inner, marks (e :: f :: inner) = e.mark (some f) ++ marks (f :: inner) :=
        fun _ => rfl
      have hne : marks (f :: rest) ≠ [] := marks_ne_nil (List.cons_ne_nil f rest)
      rw [List.cons_append] at ih
      rw [List.cons_append, List.cons_append, hmarks, ih, hmarks rest, List.getLast?_cons_cons,
        List.dropLast_append_of_ne_nil hne]
      simp only [apply_ite (e.mark (some f) ++ ·), List.append_assoc]

theorem count_marks (ds : List Dispatched) :
    (marks ds).countP (·.1 = .inclusion) = ds.countP (·.kind = .inclusion) := by
  induction ds with
  | nil => rfl
  | cons d inner ih =>
    have hmark : (d.mark inner.head?).countP (·.1 = .inclusion) = if d.kind = .inclusion then 1 else 0 := by
      unfold mark
      split
      · rfl
      · split <;> rfl
    rw [marks, List.countP_append, ih, hmark, List.countP_cons, Nat.add_comm]
    simp

/-- No two forward layers are next to each other. -/
theorem isChain_marks (ds : List Dispatched) :
    (marks ds).IsChain fun outer inner => ¬ (outer.1 = .forward ∧ inner.1 = .forward) := by
  induction ds with
  | nil => exact .nil
  | cons d inner ih =>
    by_cases hd : d.kind = .inclusion
    · rw [marks, mark_inclusion hd, List.singleton_append]
      exact List.isChain_cons.2 ⟨fun _ _ => by simp, ih⟩
    · cases inner with
      | nil => simp [marks, mark, hd]
      | cons e rest =>
        by_cases he : e.kind = .inclusion
        · have hinner : marks (e :: rest) = (.inclusion, e.target) :: marks rest := by
            rw [marks, mark_inclusion he, List.singleton_append]
          have houter : marks (d :: e :: rest) = (.forward, d.target) :: marks (e :: rest) := by
            simp [marks, mark, hd, he]
          rw [houter]
          rw [hinner] at ih ⊢
          exact .cons_cons (by simp) ih
        · simpa [marks, mark, hd, he] using ih

end Dispatched
namespace Chain

/-- A step that writes an attribute or puts a decorator on the chain. -/
def Step.SparesLevels : Step → Prop
  | write _ | decorate _ => True
  | forward _ _ | unforward _ | includeTarget _ | uninclude _ => False

/-- Leaving a dispatch undoes it beneath all decorators that were put on inside. -/
theorem Dressed.leave {c c' : Chain Request} {d : Dispatched} (h : Dressed (c.enter d) c') :
    Dressed c (c.leave d c') := by
  obtain ⟨kind, t⟩ := d
  cases kind with
  | request =>
    have hmarked : Dressed (c.forward t false).2 c' := (Dressed.write _ _).trans h
    obtain ⟨e, he, hdressed⟩ :=
      (hmarked.trans (.write c' (.remove managed))).unforward? (unforward?_forward c t false)
    simpa [Chain.leave, he] using hdressed
  | forward =>
    obtain ⟨e, he, hdressed⟩ := h.unforward? (unforward?_forward c t true)
    simpa [Chain.leave, he] using hdressed
  | inclusion =>
    obtain ⟨e, he, hdressed⟩ := h.uninclude? (uninclude?_includeTarget c t)
    simpa [Chain.leave, he] using hdressed

/-- The chain has the layers of some dispatches under way, given outermost first. The last one, if
it is no inclusion, has the layer around the request. -/
structure Mirrors (active : List Dispatched) (c : Chain Request) : Prop where
  marks : c.marks = Dispatched.marks active
  last : c.lastForward?.isSome = active.getLast?.any (·.kind ≠ .inclusion)

namespace Mirrors
variable {active : List Dispatched} {c c' : Chain Request}

theorem start (hc : c.levels = []) : Mirrors [] c where
  marks := marks_eq_nil_iff.2 hc
  last := by rw [lastForward?_of_levels_eq_nil hc]; rfl

theorem dressed (h : Mirrors active c) (hc : Dressed c c') : Mirrors active c' :=
  ⟨hc.marks.trans h.marks, hc.isSome_lastForward?.trans h.last⟩

theorem forward (h : Mirrors active c) {d : Dispatched} (hd : d.kind ≠ .inclusion) (recordOrigin : Bool) :
    Mirrors (active ++ [d]) (c.forward d.target recordOrigin).2 := by
  have hmarks := Dispatched.marks_concat active d
  rw [if_neg hd, ← h.last, ← h.marks] at hmarks
  have hlast : (active ++ [d]).getLast?.any (·.kind ≠ .inclusion) = true := by simp [hd]
  cases hl : c.lastForward? with
  | none =>
    rw [forward_created hl]
    rw [hl] at hmarks
    exact ⟨(marks_push c rfl).trans hmarks.symm, by rw [lastForward?_push, hlast]; rfl⟩
  | some l =>
    obtain ⟨outer, rfl⟩ := lastForward?_eq_some hl
    rw [forward_reused hl, replaceLast_push]
    rw [hl, marks_push outer rfl] at hmarks
    refine ⟨(marks_push outer rfl).trans ?_, by rw [lastForward?_push, hlast]; rfl⟩
    simpa using hmarks.symm

theorem includeTarget (h : Mirrors active c) {d : Dispatched} (hd : d.kind = .inclusion) :
    Mirrors (active ++ [d]) (c.includeTarget d.target) := by
  have hmarks := Dispatched.marks_concat active d
  rw [if_pos hd, ← h.marks] at hmarks
  rw [includeTarget_eq]
  exact ⟨(marks_push c rfl).trans hmarks.symm, by rw [lastForward?_push]; simp [hd, Layer.forward?]⟩

theorem enter (h : Mirrors active c) (d : Dispatched) : Mirrors (active ++ [d]) (c.enter d) := by
  obtain ⟨kind, t⟩ := d
  cases kind with
  | request => exact (h.forward (d := ⟨.request, t⟩) (by simp) false).dressed (.write _ _)
  | forward => exact h.forward (d := ⟨.forward, t⟩) (by simp) true
  | inclusion => exact h.includeTarget (d := ⟨.inclusion, t⟩) rfl

end Mirrors
end Chain

/-- The layers mirror the dispatches under way, from one session to the next. -/
theorem upheld_mirrors {ε : Type} :
    Upheld Chain.Step.SparesLevels (fun s s' : Session ε => s.chain.Dressed s'.chain)
      fun around s => s.chain.Mirrors around.reverse where
  refl s := .refl s.chain
  trans h h' := h.trans h'
  note s event := .refl s.chain
  request s step hstep := by
    cases step with
    | write w => exact .write s.chain w
    | decorate d => exact .decorate s.chain d
    | _ => exact hstep.elim
  respond s step := .refl s.chain
  dispatch _ h := h.leave
  kept h h' := h.dressed h'
  enter h _ := by
    rw [List.reverse_cons]
    exact h.enter _

/-- **Layers mirror dispatches.** At every invocation while a request is served, from a chain without
levels, there are the request and some forwards and inclusions under way, as many as the handler is
told, and the dispatch layers of the chain are theirs: one for each inclusion, no two forward layers
next to each other. -/
theorem layers_mirror_dispatches {ε : Type} (p : Pipeline ε) (hp : p.Takes Chain.Step.SparesLevels)
    (hserves : p.NeverServes) (limit : Nat) (s s' : Session ε) (hs : s.chain.levels = [])
    (result : Except DispatchError Bool) (h : p.serve limit s = some (result, s')) :
    ∃ new, s'.record = s.record ++ new ∧ ∀ i, .invoked i ∈ new →
      (∃ t inner, i.active = ⟨.request, t⟩ :: inner ∧ (∀ d ∈ inner, d.kind ≠ .request) ∧
        i.situation.depth = inner.length) ∧
      i.chain.marks = Dispatched.marks i.active ∧
      (i.chain.marks.IsChain fun outer inner => ¬ (outer.1 = .forward ∧ inner.1 = .forward)) ∧
      i.chain.marks.countP (·.1 = .inclusion) = i.active.countP (·.kind = .inclusion) := by
  have U := @upheld_mirrors ε
  obtain ⟨new, hnew, hinvoked⟩ := (U.serveWith (U.passes hp limit []) (.start hs) h).record
  obtain ⟨nested, hnested, hdepth⟩ := Pipeline.serve_nests hserves h
  obtain rfl : new = nested := List.append_cancel_left (hnew.symm.trans hnested)
  refine ⟨new, hnew, fun i hi => ?_⟩
  obtain ⟨s₀, hmirrors, hfrom⟩ := hinvoked i hi
  have hentered : (s₀.enter i.dispatched).chain.Mirrors i.active := by
    rw [Invocation.active, List.reverse_cons]
    exact hmirrors.enter i.dispatched
  rw [hfrom.chain, hentered.marks]
  exact ⟨(hdepth i hi).reverse, rfl, Dispatched.isChain_marks _, Dispatched.count_marks _⟩

/-- A page that forwards to a hub, which includes a part. The part writes something, puts a decorator
on the request and forwards to an end by way of a turn. -/
def windingDispatches : Pipeline Unit where
  registry := ⟨[.ofHandler (.literal "/end") "end" ⟨0, ending⟩ .empty,
    .ofHandler (.literal "/turn") "turn" ⟨1, onto .forward "/end"⟩ .empty,
    .ofHandler (.literal "/part") "part" ⟨2, part⟩ .empty,
    .ofHandler (.literal "/hub") "hub" ⟨3, onto .inclusion "/part"⟩ .empty,
    .ofHandler (.beneath "/page") "page" ⟨4, onto .forward "/hub"⟩ .empty]⟩
  context := ⟨"", .empty⟩
where
  ending := { service _ := .fail (.plain "end" []) }
  onto (manner : Manner) (path : String) := { service _ := .dispatch manner path fun _ => .finish }
  part :=
    { service _ := .request (.write (.set "user" (.text "guest"))) fun _ =>
        .request (.decorate .readonly) fun _ => .dispatch .forward "/turn" fun _ => .finish }

theorem takes_windingDispatches : windingDispatches.Takes Chain.Step.SparesLevels := by
  intro d hd situation
  simp only [windingDispatches, List.mem_cons, List.not_mem_nil, or_false] at hd
  rcases hd with rfl | rfl | rfl | rfl | rfl
  · exact trivial
  · exact fun _ => trivial
  · exact ⟨trivial, fun _ => ⟨trivial, fun _ _ => trivial⟩⟩
  · exact fun _ => trivial
  · exact fun _ => trivial

theorem neverServes_windingDispatches : windingDispatches.NeverServes := by
  intro d hd situation
  simp only [windingDispatches, List.mem_cons, List.not_mem_nil, or_false] at hd
  rcases hd with rfl | rfl | rfl | rfl | rfl
  · exact trivial
  · exact fun _ => trivial
  · exact fun _ _ _ => trivial
  · exact fun _ => trivial
  · exact fun _ => trivial

/-- At the end there are four dispatches under way inside the request, and three layers. -/
theorem windingDispatches_mirrored :
    ∃ result s', windingDispatches.serve 5 (.start (.get "/page/x") (.fresh 64 none)) = some (result, s') ∧
      ∃ i ∈ s'.invocations, i.situation.handlerName = "end" ∧ i.situation.depth = 4 ∧
        i.chain.marks = [(.forward, ⟨"/hub", "/hub", none⟩), (.inclusion, ⟨"/part", "/part", none⟩),
          (.forward, ⟨"/end", "/end", none⟩)] := by
  have hrun : (windingDispatches.serve 5 (.start (.get "/page/x") (.fresh 64 none))).any (fun x =>
      x.2.invocations.any fun i => i.situation.handlerName = "end" ∧
        i.active = [⟨.request, ⟨"/page/x", "/page", some "/x"⟩⟩, ⟨.forward, ⟨"/hub", "/hub", none⟩⟩,
          ⟨.inclusion, ⟨"/part", "/part", none⟩⟩, ⟨.forward, ⟨"/turn", "/turn", none⟩⟩,
          ⟨.forward, ⟨"/end", "/end", none⟩⟩]) = true := by decide +kernel
  obtain ⟨⟨result, s'⟩, hserve, hi⟩ := (Option.any_eq_true ..).1 hrun
  obtain ⟨i, hi, hend⟩ := List.any_eq_true.1 hi
  obtain ⟨hname, hactive⟩ := of_decide_eq_true hend
  obtain ⟨new, hnew, hmirrored⟩ := layers_mirror_dispatches windingDispatches takes_windingDispatches
    neverServes_windingDispatches 5 _ s' rfl result hserve
  have hmem : .invoked i ∈ new := by
    rw [Session.mem_invocations_iff, hnew] at hi
    exact hi
  obtain ⟨⟨t, inner, hinner, -, hdepth⟩, hmarks, -, -⟩ := hmirrored i hmem
  refine ⟨result, s', hserve, i, hi, hname, ?_, by rw [hmarks, hactive]; rfl⟩
  rw [hactive] at hinner
  obtain ⟨-, rfl⟩ := List.cons.inj hinner
  exact hdepth

end RequestDispatch
