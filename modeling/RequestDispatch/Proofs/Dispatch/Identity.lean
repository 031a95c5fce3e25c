import RequestDispatch.Proofs.Chain.Shown
import RequestDispatch.Proofs.Dispatch.Passage

/-! What a handler sees of its own paths.

The level of a dispatch is the innermost of the chain when its handler is invoked, so each
path of the target shows, unless the target agrees with the request in it. Then the level
cannot be told from the request, and what the dispatches around it show instead shows: a
fragment without path info, included by a page with path info, is told that of the page. -/
namespace RequestDispatch

namespace Chain

/-- The innermost level inside a dispatch is the one that shows its target. -/
theorem levels_enter {c : Chain Request} (hc : c.Plain) (d : Dispatched) :
    ∃ outer l, (c.enter d).levels = outer ++ [l] ∧ l.replacement = d.target := by
  obtain ⟨kind, t⟩ := d
  cases kind with
  | request =>
    have hlayers := (SameReserved.write (w := .set managed (.bool true)) (plain_forward hc t false)
      managed_not_reserved).layers
    have hlevels : (c.enter ⟨.request, t⟩).levels = (c.forward t false).2.levels := by
      unfold levels
      exact congrArg _ hlayers
    rw [hlevels]
    exact levels_forward c t false
  | forward => exact levels_forward c t true
  | inclusion => exact levels_includeTarget c t

/-- A path of the target shows inside a dispatch, unless the request answers the same itself
and a level around answers otherwise. -/
theorem sees_enter {α : Type} [DecidableEq α] {part : Target → α} (hpart : IsPath part)
    {c : Chain Request} (hc : c.Plain) {d : Dispatched} (h : (c.enter d).Faithful) :
    part (c.enter d).view.target = part d.target ↔
      (part d.target = part (c.enter d).bottom.view.target →
        ∀ l ∈ (c.enter d).levels, part l.replacement = part (c.enter d).bottom.view.target) := by
  obtain ⟨outer, l, hlevels, ht⟩ := levels_enter hc d
  rw [h.path hpart, hlevels, List.map_append, List.map_singleton, ht, deepest_concat_eq_iff]
  refine imp_congr_right fun he => ?_
  rw [List.forall_mem_map, List.forall_mem_append, List.forall_mem_singleton, ht]
  exact (and_iff_left he).symm

end Chain

/-- **What handlers see of their paths.** Each handler is invoked with the paths of its mapping,
and it sees each of them, unless the request as received has the same there and some level
shows something else in its place. Handlers may do anything, short of putting decorators on
the request that change something. -/
theorem sees_own_paths {ε : Type} (p : Pipeline ε) (hp : p.Takes Chain.Step.IsPlain) (limit : Nat)
    (r : Request) (outlet : Outlet) (s' : Session ε)
    (h : (∃ result, p.serve limit (.start r outlet) = some (result, s')) ∨
      ∃ manner path result, p.dispatch limit manner path (.start r outlet) = some (result, s')) :
    ∀ i ∈ s'.invocations,
      (∃ d path, p.registry.firstMatch? path = some d ∧ i.situation.handlerName = d.name ∧
        i.target = d.target path r.contextPath) ∧
      (i.chain.view.requestUri = i.target.requestUri ↔ (i.target.requestUri = r.requestUri →
        ∀ l ∈ i.chain.levels, l.replacement.requestUri = r.requestUri)) ∧
      (i.chain.view.servletPath = i.target.servletPath ↔ (i.target.servletPath = r.servletPath →
        ∀ l ∈ i.chain.levels, l.replacement.servletPath = r.servletPath)) ∧
      (i.chain.view.pathInfo = i.target.pathInfo ↔ (i.target.pathInfo = r.pathInfo →
        ∀ l ∈ i.chain.levels, l.replacement.pathInfo = r.pathInfo)) := by
  intro i hi
  have hok : ∀ s : Chain.Step, s.OfDispatch → s.IsPlain := by
    intro s hs
    cases s <;> first | exact trivial | exact hs.elim
  obtain ⟨s, hs, hfrom⟩ := Pipeline.invoked_from hok hp h i hi
  have henter : Chain.LeadsTo Chain.Step.IsPlain (.base r) (s.chain.enter i.dispatched) :=
    hs.trans (.enter hok _ _)
  have hfaithful : s.chain.Faithful := (Chain.Faithful.base r).leadsTo hs
  have hinside : (s.chain.enter i.dispatched).Faithful := (Chain.Faithful.base r).leadsTo henter
  have hcontext : s.chain.view.contextPath = r.contextPath := by
    rw [Chain.read_bottom View.contextPath (fun _ _ => rfl) (fun _ => rfl) hfaithful.plain]
    exact Request.shows_of_frame View.contextPath (fun _ => rfl) hs.bottom
  have hown : (s.chain.enter i.dispatched).bottom.view.target = r.view.target :=
    Request.shows_of_frame View.target (fun _ => rfl) henter.bottom
  obtain ⟨d, path, hmatch, hname, -, htarget⟩ := hfrom.mapping
  have hsees : ∀ {α : Type} [DecidableEq α] {part : Target → α}, IsPath part →
      (part i.chain.view.target = part i.target ↔ (part i.target = part r.view.target →
        ∀ l ∈ i.chain.levels, part l.replacement = part r.view.target)) := by
    intro α _ part hpart
    have hchain : i.chain = s.chain.enter i.dispatched := hfrom.chain
    have := Chain.sees_enter hpart hfaithful.plain hinside
    rwa [hown, ← hchain] at this
  exact ⟨⟨d, path, hmatch, hname, by rw [htarget, hcontext]⟩,
    hsees isPath_requestUri, hsees isPath_servletPath, hsees isPath_pathInfo⟩

/-- A page with path info that includes a fragment without. -/
def includingPage : Pipeline Unit where
  registry := ⟨[.ofHandler (.literal "/fragment") "fragment" ⟨0, fragment⟩ .empty,
    .ofHandler (.beneath "/page") "page" ⟨1, page⟩ .empty]⟩
  context := ⟨"", .empty⟩
where
  fragment := { service _ := .finish }
  page := { service _ := .dispatch .inclusion "/fragment" fun _ => .finish }

theorem takes_includingPage (ok : Chain.Step → Prop) : includingPage.Takes ok := by
  intro d hd situation
  have hd : d = .ofHandler (.literal "/fragment") "fragment" ⟨0, includingPage.fragment⟩ .empty ∨
      d = .ofHandler (.beneath "/page") "page" ⟨1, includingPage.page⟩ .empty := by
    simpa [includingPage] using hd
  rcases hd with rfl | rfl
  · exact trivial
  · exact fun _ => trivial

/-- The page sees its path info, as the request has none. -/
theorem includingPage_sees :
    ∃ result s', includingPage.serve 3 (.start (.get "/page/x") (.fresh 64 none)) = some (result, s') ∧
      ∃ i ∈ s'.invocations, i.situation.handlerName = "page" ∧ i.target.pathInfo = some "/x" ∧
        i.chain.view.pathInfo = some "/x" := by
  have hrun : (includingPage.serve 3 (.start (.get "/page/x") (.fresh 64 none))).any (fun x =>
      x.2.invocations.any fun i => i.situation.handlerName = "page" ∧ i.target.pathInfo = some "/x") =
      true := by decide +kernel
  obtain ⟨⟨result, s'⟩, hserve, hi⟩ := (Option.any_eq_true ..).1 hrun
  obtain ⟨i, hi, hpage⟩ := List.any_eq_true.1 hi
  obtain ⟨hname, htarget⟩ : i.situation.handlerName = "page" ∧ i.target.pathInfo = some "/x" := by
    simpa using hpage
  have hsees := (sees_own_paths includingPage (takes_includingPage _) 3 (.get "/page/x")
    (.fresh 64 none) s' (.inl ⟨result, hserve⟩) i hi).2.2.2
  refine ⟨result, s', hserve, i, hi, hname, htarget, ?_⟩
  rw [hsees.2 fun he => ?_, htarget]
  rw [htarget] at he
  cases he

/-- The fragment is told the path info of the page in place of its own. -/
theorem fragment_sees_page :
    ∃ result s', includingPage.serve 3 (.start (.get "/page/x") (.fresh 64 none)) = some (result, s') ∧
      ∃ i ∈ s'.invocations, i.situation.handlerName = "fragment" ∧ i.target.pathInfo = none ∧
        i.chain.view.pathInfo = some "/x" := by
  have hrun : (includingPage.serve 3 (.start (.get "/page/x") (.fresh 64 none))).any (fun x =>
      x.2.invocations.any fun i => i.situation.handlerName = "fragment" ∧ i.target.pathInfo = none ∧
        i.chain.view.pathInfo = some "/x") = true := by decide +kernel
  obtain ⟨⟨result, s'⟩, hserve, hi⟩ := (Option.any_eq_true ..).1 hrun
  obtain ⟨i, hi, hfragment⟩ := List.any_eq_true.1 hi
  exact ⟨result, s', hserve, i, hi, by simpa using hfragment⟩

end RequestDispatch
