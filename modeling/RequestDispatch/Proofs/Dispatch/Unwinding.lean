import RequestDispatch.Proofs.Dispatch.Marker

/-! Dispatches are undone.

Handlers that write attributes, work on the response and dispatch further, to any depth and
with any outcome, leave a dispatch with the layers it found: the layer that is sought when
a dispatch is left is the one it put there, because what ran inside left the frame of the
chain alone (`conserved_frame`). If they keep off the reserved attributes, these are left
alone too (`conserved_reserved`). So it is for requests that are served, forwarded or
included, from outside or within other dispatches. -/
namespace RequestDispatch

/-- A step that writes an attribute. -/
def Chain.Step.Writes : Chain.Step → Prop
  | write _ => True
  | _ => False

/-- A step that writes an attribute that is not reserved. -/
def Chain.Step.WritesOrdinary : Chain.Step → Prop
  | write w => Reserved.ofName? w.name = none
  | _ => False

namespace Chain

/-- Leaving a dispatch brings the frame back, if it was not changed inside. -/
theorem frame_leave {c c' : Chain Request} {d : Dispatched} (h : c'.frame = (c.enter d).frame) :
    (c.leave d c').frame = c.frame := by
  obtain ⟨kind, t⟩ := d
  cases kind with
  | request =>
    -- Neither the mark nor its removal touches the frame.
    have hmarked : (c'.write (.remove managed)).frame = (c.forward t false).2.frame := by
      rw [frame_write, h]
      exact frame_write _ _
    obtain ⟨e, he, hframe⟩ := exists_unforward? hmarked
    simpa [leave, he] using hframe
  | forward =>
    obtain ⟨e, he, hframe⟩ := exists_unforward? h
    simpa [leave, he] using hframe
  | inclusion =>
    obtain ⟨e, he, hframe⟩ := exists_uninclude? h
    simpa [leave, he] using hframe

theorem plain_enter {c : Chain Request} (hc : c.Plain) (d : Dispatched) : (c.enter d).Plain := by
  obtain ⟨kind, t⟩ := d
  cases kind with
  | request =>
    have hplain := plain_forward hc t false
    have hmark := SameReserved.write (w := .set managed (.bool true)) hplain managed_not_reserved
    exact hmark.plain hplain
  | forward => exact plain_forward hc t true
  | inclusion => exact plain_includeTarget hc t

theorem sameReserved_leave {c c' : Chain Request} {d : Dispatched} (hc : c.Plain)
    (h : SameReserved c' (c.enter d)) : SameReserved (c.leave d c') c := by
  obtain ⟨kind, t⟩ := d
  cases kind with
  | request =>
    have hplain := plain_forward hc t false
    have hset : SameReserved (c.enter ⟨.request, t⟩) (c.forward t false).2 :=
      .write (w := .set managed (.bool true)) hplain managed_not_reserved
    have hinside : SameReserved c' (c.forward t false).2 := h.trans hset
    have hremove : SameReserved (c'.write (.remove managed)) c' :=
      .write (w := .remove managed) (hinside.plain hplain) managed_not_reserved
    obtain ⟨e, he, hsame⟩ := (hremove.trans hinside).unforward? (unforward?_forward c t false)
    simpa [leave, he] using hsame
  | forward =>
    obtain ⟨e, he, hsame⟩ := h.unforward? (unforward?_forward c t true)
    simpa [leave, he] using hsame
  | inclusion =>
    obtain ⟨e, he, hsame⟩ := h.uninclude? (uninclude?_includeTarget c t)
    simpa [leave, he] using hsame

end Chain

theorem conserved_frame {ε : Type} :
    Conserved Chain.Step.Writes fun s s' : Session ε => s'.chain.frame = s.chain.frame where
  refl s := rfl
  trans h h' := h'.trans h
  note s event := rfl
  request s step hstep := by
    cases step with
    | write w => exact Chain.frame_write s.chain w
    | _ => exact hstep.elim
  respond s step := rfl
  dispatch _ h := Chain.frame_leave h

theorem conserved_reserved {ε : Type} :
    Conserved Chain.Step.WritesOrdinary fun s s' : Session ε =>
      s.chain.Plain → Chain.SameReserved s'.chain s.chain where
  refl s _ := .refl s.chain
  trans h h' hs := (h' ((h hs).plain hs)).trans (h hs)
  note s event _ := .refl s.chain
  request s step hstep hs := by
    cases step with
    | write w => exact .write hs hstep
    | _ => exact hstep.elim
  respond s step _ := .refl s.chain
  dispatch _ h hs := Chain.sameReserved_leave hs (h (Chain.plain_enter hs _))

namespace Chain

/-- A request that was served is not marked any more. -/
theorem managed_leave {c c' : Chain Request} (hc : c.Plain) {t : Target}
    (h : c'.frame = (c.enter ⟨.request, t⟩).frame) :
    (c.leave ⟨.request, t⟩ c').view.attribute? managed = none :=
  have hplain : c'.Plain := plain_of_frame h (plain_enter hc _)
  hplain.sparesMarker.marker?_leave ⟨.request, t⟩

/-- The chain `c'` has the layers of `c`, each with what it covered when it was made and what
it shows in place of it, over the same request, and shows the same paths. -/
structure Unwound (c c' : Chain Request) : Prop where
  layers : c'.layers.map Layer.frame = c.layers.map Layer.frame
  bottom : c'.bottom.frame = c.bottom.frame
  depth : c'.depth = c.depth
  requestUri : c'.view.requestUri = c.view.requestUri
  servletPath : c'.view.servletPath = c.view.servletPath
  pathInfo : c'.view.pathInfo = c.view.pathInfo
  requestUrl : c'.view.requestUrl = c.view.requestUrl

theorem unwound_of_frame {c c' : Chain Request} (hc : c.Plain) (h : c'.frame = c.frame) :
    c.Unwound c' := by
  have hlayers := layers_of_frame h
  exact
    { layers := hlayers
      bottom := bottom_of_frame h
      depth := by simpa [depth] using congrArg List.length hlayers
      requestUri := shows_of_frame View.requestUri (fun _ => rfl) h hc
      servletPath := shows_of_frame View.servletPath (fun _ => rfl) h hc
      pathInfo := shows_of_frame View.pathInfo (fun _ => rfl) h hc
      requestUrl := shows_of_frame View.requestUrl (fun _ => rfl) h hc }

/-- All reserved attributes read the same. -/
def AgreesOnReserved (c c' : Chain Request) : Prop :=
  ∀ key : Reserved, c'.view.attribute? key.name = c.view.attribute? key.name

end Chain

/-- **Every dispatch is undone**, whatever its handlers write, whatever they dispatch to and
whatever comes of it. Reserved attributes read as before if no handler writes one, and a
request that was served is not marked afterwards. -/
theorem dispatch_unwinds {ε : Type} (p : Pipeline ε) (hp : p.Takes Chain.Step.Writes) (limit : Nat)
    (around : List Dispatched) (s : Session ε) (hs : s.chain.Plain) :
    (∀ r s', p.serveWith (p.invoke limit around) s = some (r, s') →
      s.chain.Unwound s'.chain ∧
      (p.Takes Chain.Step.WritesOrdinary → s.chain.AgreesOnReserved s'.chain) ∧
      ((r = .ok false ∧ s' = s) ∨ s'.chain.view.attribute? managed = none)) ∧
    (∀ depth path d manner r s', p.dispatcherAt? depth path = some d →
      d.dispatch (p.invoke limit around) manner s = some (r, s') →
      s.chain.Unwound s'.chain ∧
      (p.Takes Chain.Step.WritesOrdinary → s.chain.AgreesOnReserved s'.chain)) := by
  have hframe := (@conserved_frame ε).upheld
  have hpasses := hframe.passes hp limit around
  have hreserved := (@conserved_reserved ε).upheld
  refine ⟨fun r s' h => ⟨?_, fun ho => ?_, ?_⟩,
    fun depth path d manner r s' hd h => ⟨?_, fun ho => ?_⟩⟩
  · exact Chain.unwound_of_frame hs (hframe.serveWith hpasses trivial h).kept
  · have := (hreserved.serveWith (hreserved.passes ho limit around) trivial h).kept hs
    exact fun key => this.attribute? hs key
  · rcases Pipeline.serveWith_eq_some h with ⟨-, hr, he⟩ | ⟨d, path, result, s₁, hd, hrun, -, rfl⟩
    · exact .inl ⟨hr, he⟩
    · have ha : s.Admits ⟨.request, d.target path s.chain.view.contextPath⟩ := nofun
      have hinside := hpasses trivial ha (Pipeline.serving?_eq_some hd) rfl hrun
      exact .inr (Chain.managed_leave hs hinside.kept)
  · exact Chain.unwound_of_frame hs (hframe.dispatcher hpasses trivial hd h).kept
  · have := (hreserved.dispatcher (hreserved.passes ho limit around) trivial hd h).kept hs
    exact fun key => this.attribute? hs key

/-- A page that includes a fragment twice before it fails. The fragment forwards to an end,
which writes something and fails as well. -/
def nestedFailures (w : Write) : Pipeline Unit where
  registry := ⟨[.ofHandler (.literal "/end") "end" ⟨0, ending⟩ .empty,
    .ofHandler (.literal "/fragment") "fragment" ⟨1, fragment⟩ .empty,
    .ofHandler (.beneath "/page") "page" ⟨2, page⟩ .empty]⟩
  context := ⟨"", .empty⟩
where
  ending := { service _ := .request (.write w) fun _ => .fail (.plain "end" []) }
  fragment := { service _ := .dispatch .forward "/end" fun _ => .finish }
  page :=
    { service _ := .dispatch .inclusion "/fragment" fun _ =>
        .dispatch .inclusion "/fragment" fun _ => .fail (.plain "page" []) }

theorem takes_nestedFailures {ok : Chain.Step → Prop} {w : Write} (h : ok (.write w)) :
    (nestedFailures w).Takes ok := by
  intro d hd situation
  have hd : d = .ofHandler (.literal "/end") "end" ⟨0, nestedFailures.ending w⟩ .empty ∨
      d = .ofHandler (.literal "/fragment") "fragment" ⟨1, nestedFailures.fragment⟩ .empty ∨
      d = .ofHandler (.beneath "/page") "page" ⟨2, nestedFailures.page⟩ .empty := by
    simpa [nestedFailures] using hd
  rcases hd with rfl | rfl | rfl
  · exact ⟨h, fun _ => trivial⟩
  · exact fun _ => trivial
  · exact fun _ _ => trivial

def atPage : Session Unit := .start (.get "/page/x") (.fresh 64 none)

/-- The page is asked for, and it is included from outside. -/
theorem nestedFailures_unwind :
    (∃ r s', (nestedFailures (.set (Reserved.mk .inclusion .pathInfo).name (.text "/mine"))).serve 4
        atPage = some (r, s') ∧ r.isOk = false ∧
      atPage.chain.Unwound s'.chain ∧ s'.chain.view.attribute? managed = none) ∧
    ∃ d r s', (nestedFailures (.set "note" (.text "mine"))).dispatcherAt? 1 "/page/y" = some d ∧
      d.dispatch ((nestedFailures (.set "note" (.text "mine"))).invoke 4 []) .inclusion atPage =
        some (r, s') ∧
      atPage.chain.Unwound s'.chain ∧ atPage.chain.AgreesOnReserved s'.chain := by
  have hplain : atPage.chain.Plain := nofun
  constructor
  · have hrun : ((nestedFailures (.set (Reserved.mk .inclusion .pathInfo).name (.text "/mine"))).serve 4
        atPage).any (! ·.1.isOk) = true := by decide +kernel
    obtain ⟨⟨r, s'⟩, hserve, hr⟩ := (Option.any_eq_true ..).1 hrun
    have hr : r.isOk = false := by simpa using hr
    obtain ⟨hunwound, -, hmarked⟩ :=
      (dispatch_unwinds _ (takes_nestedFailures trivial) 4 [] atPage hplain).1 r s' hserve
    refine ⟨r, s', hserve, hr, hunwound, hmarked.resolve_left ?_⟩
    rintro ⟨rfl, -⟩
    cases hr
  · have hrun : ((nestedFailures (.set "note" (.text "mine"))).dispatcherAt? 1 "/page/y").any (fun d =>
        (d.dispatch ((nestedFailures (.set "note" (.text "mine"))).invoke 4 []) .inclusion atPage).isSome) =
        true := by decide +kernel
    obtain ⟨d, hd, hdispatch⟩ := (Option.any_eq_true ..).1 hrun
    obtain ⟨⟨r, s'⟩, hdispatch⟩ := Option.isSome_iff_exists.1 hdispatch
    have hnote : Reserved.ofName? "note" = none := by decide
    obtain ⟨hunwound, hreserved⟩ := (dispatch_unwinds _ (takes_nestedFailures trivial) 4 [] atPage
      hplain).2 1 "/page/y" d .inclusion r s' hd hdispatch
    exact ⟨d, r, s', hd, hdispatch, hunwound, hreserved (takes_nestedFailures hnote)⟩

end RequestDispatch
