import RequestDispatch.Proofs.Chain.Decorated
import RequestDispatch.Proofs.Chain.Ordinary
import RequestDispatch.Proofs.Chain.Url

/-! The port in a URL.

A URL tells the port of a request only where the scheme implies one (`requestUrl_told_iff`). No layer of a chain
asks for the port, and decorators that do not ask for it either (`Decorator.PortBlind`) show the same on every
port (`Chain.portless_run_onPort`), so what becomes of the port in a URL is the same for a request and for all
chains around it. -/
namespace RequestDispatch

/-! ### URLs -/

/-- A port that a URL has to tell, since it is known and is not the one that the scheme implies. -/
structure IsTold (scheme : String) (port : UInt16) : Prop where
  known : port ≠ 0
  not_implied : ¬ (scheme = "http" ∧ port = 80 ∨ scheme = "https" ∧ port = 443)

section Url
variable {scheme : String} {port port' : UInt16}

theorem defaultPort?_eq_some_iff :
    defaultPort? scheme = some port ↔ scheme = "http" ∧ port = 80 ∨ scheme = "https" ∧ port = 443 := by
  unfold defaultPort?
  split <;> simp_all [eq_comm]

theorem exists_defaultPort?_iff :
    (∃ implied, defaultPort? scheme = some implied) ↔ scheme = "http" ∨ scheme = "https" := by
  simp [defaultPort?_eq_some_iff, exists_or]

/-- Where the scheme implies no port, none is told. -/
theorem portText_of_not_implied (h : ¬ (scheme = "http" ∨ scheme = "https")) (p : Option UInt16) :
    portText scheme p = "" := by
  have hnone : defaultPort? scheme = none := by
    rw [Option.eq_none_iff_forall_ne_some]
    exact fun implied himplied => h (exists_defaultPort?_iff.1 ⟨implied, himplied⟩)
  cases p <;> simp [portText, hnone]

theorem colon_append_ne_empty (s : String) : "" ≠ ":" ++ s := by
  intro he
  have hchars := congrArg String.toList he
  rw [String.toList_append] at hchars
  cases hchars

/-- The number that is written can be read back. -/
theorem colon_toString_inj : ":" ++ toString port.toNat = ":" ++ toString port'.toNat ↔ port = port' := by
  rw [String.append_right_inj]
  refine ⟨fun h => UInt16.toNat_inj.1 ?_, fun h => by rw [h]⟩
  have hread := congrArg (fun digits => Nat.ofDigitChars 10 digits.toList 0) h
  simpa [Nat.toString_eq_ofList_toDigits, Nat.ofDigitChars_ten_toDigits] using hread

/-- Where the scheme implies a port, only the port that has to be told is told as it has to be. -/
theorem portText_eq_iff (hscheme : scheme = "http" ∨ scheme = "https") (h : IsTold scheme port)
    {p : Option UInt16} : portText scheme p = ":" ++ toString port.toNat ↔ p = some port := by
  obtain ⟨implied, himplied⟩ := exists_defaultPort?_iff.2 hscheme
  cases p with
  | none => exact iff_of_false (colon_append_ne_empty _) nofun
  | some port' =>
    simp only [portText, himplied, Option.some.injEq]
    split
    next hhidden =>
      refine iff_of_false (colon_append_ne_empty _) ?_
      rintro rfl
      exact hhidden.elim h.known fun he => h.not_implied (defaultPort?_eq_some_iff.1 (he ▸ himplied))
    next => exact colon_toString_inj

theorem requestUrl_none (scheme host uri : String) :
    requestUrl scheme host none uri = scheme ++ "://" ++ host ++ uri := by
  rw [requestUrl, portText, String.append_empty]

theorem requestUrl_of_implied (h : defaultPort? scheme = some port) (host uri : String) :
    requestUrl scheme host (some port) uri = requestUrl scheme host none uri := by
  simp [requestUrl, portText, h]

/-- A URL tells a port that it has to tell if and only if the scheme implies some other. -/
theorem requestUrl_told_iff (h : IsTold scheme port) (host uri : String) :
    requestUrl scheme host (some port) uri = scheme ++ "://" ++ host ++ (":" ++ toString port.toNat) ++ uri ↔
      scheme = "http" ∨ scheme = "https" := by
  rw [requestUrl, String.append_left_inj, String.append_right_inj]
  by_cases hscheme : scheme = "http" ∨ scheme = "https"
  · exact iff_of_true ((portText_eq_iff hscheme h).2 rfl) hscheme
  · rw [portText_of_not_implied hscheme]
    exact iff_of_false (colon_append_ne_empty _) hscheme

/-- A port that has to be told tells URLs apart if and only if the scheme implies some other. -/
theorem requestUrl_ne_iff (h : IsTold scheme port) {p : Option UInt16} (hp : p ≠ some port) (host uri : String) :
    requestUrl scheme host (some port) uri ≠ requestUrl scheme host p uri ↔
      scheme = "http" ∨ scheme = "https" := by
  rw [ne_eq, requestUrl, requestUrl, String.append_left_inj, String.append_right_inj]
  by_cases hscheme : scheme = "http" ∨ scheme = "https"
  · rw [(portText_eq_iff hscheme h).2 rfl]
    exact iff_of_true (fun he => hp ((portText_eq_iff hscheme h).1 he.symm)) hscheme
  · rw [portText_of_not_implied hscheme, portText_of_not_implied hscheme]
    exact iff_of_false (fun hne => hne rfl) hscheme

end Url

/-! ### What does not depend on the port -/

/-- The request as it would have been received on another port. -/
def Request.onPort (r : Request) (port : Option UInt16) : Request := { r with serverPort := port }

/-- What is shown but for the port, and for the URL that it may stand in. -/
def View.portless (v : View) : View := { v with serverPort := none, requestUrl := "" }

/-- A decorator that asks neither for the port nor for the URL. -/
structure Decorator.PortBlind (d : Decorator) : Prop where
  shows : ∀ inner, (d.view inner.portless).portless = (d.view inner).portless
  passes : ∀ inner w, d.pass inner.portless w = d.pass inner w

theorem Decorator.portBlind_lengthened (lead : String) : (lengthened lead).PortBlind where
  shows _ := rfl
  passes _ _ := rfl

namespace Layer
variable {x : Layer} {v v' : View}

theorem portless_view (hx : ∀ d, x = .decorator d → d.PortBlind) (h : v.portless = v'.portless) :
    (x.view v).portless = (x.view v').portless := by
  cases x with
  | forward l | inclusion l =>
    cases v
    cases v'
    simp only [View.portless, View.mk.injEq] at h
    obtain ⟨rfl, rfl, rfl, rfl, rfl, rfl, rfl, rfl, rfl, rfl, -, -⟩ := h
    rfl
  | decorator d =>
    have hd := hx d rfl
    calc ((decorator d).view v).portless
      _ = (d.view v.portless).portless := (hd.shows v).symm
      _ = (d.view v'.portless).portless := by rw [h]
      _ = ((decorator d).view v').portless := hd.shows v'

theorem pass_of_portless (hx : ∀ d, x = .decorator d → d.PortBlind) (h : v.portless = v'.portless) (w : Write) :
    x.pass v w = x.pass v' w := by
  cases x with
  | forward l | inclusion l =>
    have hattribute : v.portless.attribute? = v'.portless.attribute? := by rw [h]
    have hpass : l.pass v w = l.pass v' w := by
      unfold Level.pass Level.isOverridden
      exact hattribute ▸ rfl
    simp only [pass, hpass]
  | decorator d =>
    have hd := hx d rfl
    have hpass : d.pass v w = d.pass v' w :=
      calc d.pass v w
        _ = d.pass v.portless w := (hd.passes v w).symm
        _ = d.pass v'.portless w := by rw [h]
        _ = d.pass v' w := hd.passes v' w
    rw [pass, pass, hpass]

end Layer

namespace Chain

/-- No decorator asks for the port or for the URL. -/
abbrev PortBlind (c : Chain Request) : Prop := c.DecoratedBy Decorator.PortBlind

/-- No decorator that the step puts around the request asks for the port or for the URL. -/
abbrev Step.PortBlind (s : Step) : Prop := s.DecoratesBy Decorator.PortBlind

/-- The chain over the request on another port. -/
def onPort (c : Chain Request) (port : Option UInt16) : Chain Request := c.mapBottom (·.onPort port)

variable {c : Chain Request} (port : Option UInt16)

theorem portless_onPort (hc : c.PortBlind) : (c.onPort port).view.portless = c.view.portless := by
  induction c with
  | base request => rfl
  | layer outer inner ih =>
    exact Layer.portless_view (fun d hd => hc d (List.mem_cons.2 (.inl hd.symm))) (ih hc.inner)

theorem write_onPort (hc : c.PortBlind) (w : Write) : (c.onPort port).write w = (c.write w).onPort port := by
  induction c generalizing w with
  | base request => cases w <;> rfl
  | layer outer inner ih =>
    have hpass := Layer.pass_of_portless (x := outer) (fun d hd => hc d (List.mem_cons.2 (.inl hd.symm)))
      (portless_onPort port hc.inner) w
    show (layer outer (inner.onPort port)).write w = _
    simp only [write, hpass]
    cases (outer.pass inner.view w).2 with
    | none => rfl
    | some passed => exact congrArg (layer (outer.pass inner.view w).1) (ih hc.inner passed)

theorem onPort_push (x : Layer) : (c.push x).onPort port = (c.onPort port).push x := by
  simp only [onPort, mapBottom_eq, mapHeld_push, Layer.mapWritten_id]

theorem bottom_onPort : (c.onPort port).bottom = c.bottom.onPort port := by
  rw [onPort, mapBottom_eq, bottom_mapHeld]

theorem forward_onPort (hc : c.PortBlind) (t : Target) (recordOrigin : Bool) :
    ((c.onPort port).forward t recordOrigin).2 = (c.forward t recordOrigin).2.onPort port := by
  have hlast : (c.onPort port).lastForward? = c.lastForward? := by
    rw [onPort, mapBottom_eq, lastForward?_mapHeld]
    exact Option.map_id' (x := c.lastForward?)
  cases h : c.lastForward? with
  | some l =>
    rw [forward_reused h, forward_reused (hlast.trans h), onPort, onPort, mapBottom_eq, mapBottom_eq,
      replaceLast_mapHeld]
  | none =>
    have horigin : (c.onPort port).view.origin = c.view.origin :=
      congrArg (fun v => v.portless.origin) (portless_onPort port hc)
    have hslots : (c.onPort port).forwardSlots recordOrigin = c.forwardSlots recordOrigin := by
      rw [forwardSlots, forwardSlots, horigin]
    rw [forward_created h, forward_created (hlast.trans h), onPort_push, bottom_onPort, hslots]
    rfl

theorem includeTarget_onPort (t : Target) :
    (c.onPort port).includeTarget t = (c.includeTarget t).onPort port := by
  rw [includeTarget_eq, includeTarget_eq, onPort_push, bottom_onPort]
  rfl

/-- Steps do to a chain on one port what they do on any other. -/
theorem step_onPort (hc : c.PortBlind) (s : Step) : ((c.onPort port).step s).2 = (c.step s).2.onPort port := by
  cases s with
  | write w => exact write_onPort port hc w
  | decorate d => rfl
  | forward t recordOrigin => exact forward_onPort port hc t recordOrigin
  | includeTarget t => exact includeTarget_onPort port t
  | unforward outcome =>
    simp only [step, onPort, mapBottom_eq, unforward?_mapHeld]
    cases c.unforward? outcome <;> rfl
  | uninclude uri =>
    simp only [step, onPort, mapBottom_eq, uninclude?_mapHeld]
    cases c.uninclude? uri <;> rfl

theorem run_onPort (hc : c.PortBlind) {steps : List Step} (hs : ∀ s ∈ steps, s.PortBlind) :
    (c.onPort port).run steps = (c.run steps).onPort port := by
  induction steps generalizing c with
  | nil => rfl
  | cons s rest ih =>
    obtain ⟨hs, hrest⟩ := List.forall_mem_cons.1 hs
    show ((c.onPort port).step s).2.run rest = _
    rw [step_onPort port hc s]
    exact ih (hc.step hs) hrest

/-- After the same steps a request shows the same on every port, but for the port and the URL. -/
theorem portless_run_onPort (r : Request) {steps : List Step} (hs : ∀ s ∈ steps, s.PortBlind) :
    ((base (r.onPort port)).run steps).view.portless = ((base r).run steps).view.portless := by
  have hrun : (base (r.onPort port)).run steps = ((base r).run steps).onPort port :=
    run_onPort port (DecoratedBy.base r) hs
  rw [hrun]
  exact portless_onPort port ((DecoratedBy.base r).leadsTo ⟨steps, hs, rfl⟩)

/-- No step changes the port. -/
theorem serverPort_run (r : Request) (steps : List Step) :
    ((base r).run steps).view.serverPort = r.serverPort := by
  have hreached : LeadsTo (fun _ => True) (base r) ((base r).run steps) := ⟨steps, fun _ _ => trivial, rfl⟩
  have hserver : ((base r).run steps).view.server = r.view.server :=
    (server_view _).trans (Request.shows_of_frame View.server (fun _ => rfl) hreached.bottom)
  exact congrArg (·.2.2) hserver

end Chain

/-- **Which URLs tell the port.** Without a port, and with the one that the scheme implies, a URL is made of
the scheme, the host and the URI. Any other port but 0 stands in it if and only if the scheme is `http` or
`https`. Two chains that show the same but for such a port have different URLs if and only if it is, and so
have chains that the same steps make of one request on two ports, as long as no decorator asks for the port. -/
theorem port_told_iff (scheme : String) :
    (∀ host uri, requestUrl scheme host none uri = scheme ++ "://" ++ host ++ uri) ∧
    (∀ host uri port, port ≠ 0 →
      (requestUrl scheme host (some port) uri =
          (if scheme = "http" ∧ port = 80 ∨ scheme = "https" ∧ port = 443 then scheme ++ "://" ++ host ++ uri
            else scheme ++ "://" ++ host ++ (":" ++ toString port.toNat) ++ uri) ↔
        scheme = "http" ∨ scheme = "https")) ∧
    (∀ (c c' : Chain Request) port, c.view.portless = c'.view.portless → c.view.scheme = scheme →
      c.view.serverPort = some port → c'.view.serverPort ≠ some port → IsTold scheme port →
      (c.view.requestUrl ≠ c'.view.requestUrl ↔ scheme = "http" ∨ scheme = "https")) ∧
    ∀ (r : Request) (steps : List Chain.Step), (∀ s ∈ steps, s.PortBlind) → ∀ port,
      ((Chain.base (r.onPort port)).run steps).view.portless = ((Chain.base r).run steps).view.portless ∧
      ((Chain.base (r.onPort port)).run steps).view.serverPort = port := by
  refine ⟨requestUrl_none scheme, fun host uri port hknown => ?_,
    fun c c' port hsame hscheme hport hport' htold => ?_, fun r steps hs port =>
      ⟨Chain.portless_run_onPort port r hs, Chain.serverPort_run (r.onPort port) steps⟩⟩
  · split
    next hport =>
      have himplied := defaultPort?_eq_some_iff.2 hport
      have hurl := (requestUrl_of_implied himplied host uri).trans (requestUrl_none scheme host uri)
      exact iff_of_true hurl (exists_defaultPort?_iff.1 ⟨port, himplied⟩)
    next hnot => exact requestUrl_told_iff ⟨hknown, hnot⟩ host uri
  · have hname : c'.view.portless.serverName = c.view.serverName := by rw [← hsame]; rfl
    have huri : c'.view.portless.requestUri = c.view.requestUri := by rw [← hsame]; rfl
    have hscheme' : c'.view.portless.scheme = scheme := by rw [← hsame]; exact hscheme
    have hurl' : c'.view.requestUrl =
        requestUrl scheme c.view.serverName c'.view.serverPort c.view.requestUri := by
      rw [← hname, ← huri, ← hscheme']
      exact c'.urlFollowsUri_view
    rw [c.urlFollowsUri_view, hurl', hscheme, hport]
    exact requestUrl_ne_iff htold hport' _ _

/-- Forwards, a decorator and an inclusion of the request's own URI, on one port and on another. -/
theorem readdressed_port_told :
    (∀ s ∈ Chain.readdressedSteps, s.PortBlind) ∧
      ((Chain.base (Chain.readdressedRequest.onPort (some 8443))).run Chain.readdressedSteps).view.requestUrl ≠
        ((Chain.base (Chain.readdressedRequest.onPort (some 80))).run Chain.readdressedSteps).view.requestUrl := by
  have hblind : ∀ s ∈ Chain.readdressedSteps, s.PortBlind := by
    intro s hs d hd
    subst hd
    simp only [Chain.readdressedSteps, List.mem_cons, List.not_mem_nil, or_false, reduceCtorEq, false_or,
      Chain.Step.decorate.injEq] at hs
    subst hs
    exact Decorator.portBlind_lengthened "/lead"
  obtain ⟨-, -, htold, hports⟩ := port_told_iff "https"
  obtain ⟨hsame, hport⟩ := hports Chain.readdressedRequest Chain.readdressedSteps hblind (some 8443)
  obtain ⟨hsame', hport'⟩ := hports Chain.readdressedRequest Chain.readdressedSteps hblind (some 80)
  refine ⟨hblind, (htold _ _ 8443 (hsame.trans hsame'.symm) ?_ hport ?_ ⟨by decide, by decide⟩).2 (.inr rfl)⟩
  · decide +kernel
  · rw [hport']
    decide

/-- The port of a file server is not told, so that two of them have one URL. -/
theorem ftp_drops_port :
    IsTold "ftp" 2121 ∧ requestUrl "ftp" "files" (some 2121) "/a" ≠ "ftp://files:2121/a" ∧
      requestUrl "ftp" "files" (some 2121) "/a" = "ftp://files/a" ∧
      requestUrl "ftp" "files" (some 2121) "/a" = requestUrl "ftp" "files" (some 2122) "/a" :=
  ⟨⟨by decide, by decide⟩, by decide, by decide, by decide⟩

end RequestDispatch
