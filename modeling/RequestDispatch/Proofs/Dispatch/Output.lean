import RequestDispatch.Proofs.Dispatch.Machine
import RequestDispatch.Proofs.Response.Buffering

/-! What becomes of output.

Between one moment of a run and the next a response is left alone, takes one step of the handler at work,
or is reset by a forward, and a forward resets it only before it is committed (`Pipeline.response_next?`).
So handlers that never reset it themselves cannot lose a byte of a committed response, whatever they
forward to, include or have served, to any depth, and however they go on after a forward that was refused
(`Pipeline.output_kept`). -/
namespace RequestDispatch
variable {ε : Type}

/-- The program never drops what is unsent, but by forwarding. -/
def Program.NeverResets : Program ε → Prop
  | .finish | .fail _ => True
  | .note _ next => next.NeverResets
  | .recollect next => ∀ events, (next events).NeverResets
  | .look next => ∀ c o, (next c o).NeverResets
  | .request _ next => ∀ reply, (next reply).NeverResets
  | .respond step next => step ≠ .reset ∧ ∀ reply, (next reply).NeverResets
  | .find _ next => ∀ found, (next found).NeverResets
  | .dispatch _ _ next => ∀ reply, (next reply).NeverResets
  | .serve next => ∀ reply, (next reply).NeverResets

theorem Program.NeverResets.continues {program next : Program ε} (h : program.NeverResets)
    (hnext : program.Continues next) : next.NeverResets := by
  cases hnext with
  | note event => exact h
  | look next c o => exact h c o
  | respond step next reply => exact h.2 reply
  | _ => exact h _

/-- So it is with all handlers of a pipeline, however they are invoked. -/
def Pipeline.NeverResets (p : Pipeline ε) : Prop :=
  ∀ d ∈ p.registry.definitions, ∀ situation, (d.handler.content.service situation).NeverResets

/-- So it is with the program at work and with all that its callers go on with. -/
structure Moment.NeverResets (m : Moment ε) : Prop where
  program : m.program.NeverResets
  callers : ∀ d ∈ m.stack, ∀ result, (d.next result).NeverResets

/-! ### The response from one moment to the next -/

/-- A write that fails leaves the response alone. -/
theorem Outlet.response_step (o : Outlet) (s : Response.Step) :
    (o.step s).2.response = o.response ∨ (o.step s).2.response = o.response.step s := by
  cases s with
  | write data =>
    obtain ⟨response, writesLeft⟩ := o
    match writesLeft with
    | some 0 => exact .inl rfl
    | some (n + 1) => exact .inr rfl
    | none => exact .inr rfl
  | _ => exact .inr rfl

/-- A handler that is forwarded to finds the response reset. Any other finds it as it is. -/
theorem Moment.response_invoked (stack : List (Pending ε)) (s : Session ε) (d : Definition (Handler ε))
    (dispatched : Dispatched) (depth : Nat) (next : Except DispatchError Unit → Program ε) :
    (invoked stack s d dispatched depth next).response =
      if dispatched.kind = .forward then s.outlet.response.step .reset else s.outlet.response := by
  show (s.enter dispatched).outlet.response = _
  unfold Session.enter
  dsimp only
  split <;> rfl

namespace Pipeline
variable {p : Pipeline ε} {m m' : Moment ε}

/-- What a step of the machine does to the response. -/
theorem response_next? (h : p.next? m = some m') :
    m'.response = m.response ∨
      (∃ step next, m.program = .respond step next ∧ m'.response = m.response.step step) ∨
      (∃ path next, m.program = .dispatch .forward path next ∧ m.response.committed = false ∧
        m'.response = m.response.step .reset) := by
  rcases next?_eq_some h with ⟨result, hleave⟩ | ⟨_, d, dispatched, depth, next, rfl, -, -, hforward⟩ |
    ⟨-, -, hsame | ⟨step, next, hm, hstep⟩⟩
  · obtain ⟨d, stack, -, -, -, hsession⟩ := Moment.leave?_eq_some hleave
    exact .inl (congrArg (·.outlet.response) hsession)
  · rw [Moment.response_invoked]
    split
    next hkind =>
      obtain ⟨hc, path, next, hm⟩ := hforward hkind
      exact .inr (.inr ⟨path, next, hm, hc, rfl⟩)
    · exact .inl rfl
  · exact .inl (congrArg Outlet.response hsame)
  · rcases m.session.outlet.response_step step with he | he
    · exact .inl ((congrArg Outlet.response hstep).trans he)
    · exact .inr (.inl ⟨step, next, hm, (congrArg Outlet.response hstep).trans he⟩)

theorem sound_next? (hs : m.response.Sound) (h : p.next? m = some m') : m'.response.Sound := by
  rcases response_next? h with he | ⟨step, _, _, he⟩ | ⟨_, _, _, _, he⟩
  · rwa [he]
  · rw [he]
    exact hs.step step
  · rw [he]
    exact hs.step .reset

theorem neverResets_next? (hp : p.NeverResets) (hm : m.NeverResets) (h : p.next? m = some m') :
    m'.NeverResets := by
  rcases next?_eq_some h with ⟨result, hleave⟩ | ⟨_, d, dispatched, depth, next, rfl, hd, hnext, -⟩ |
    ⟨hnext, hstack, -⟩
  · obtain ⟨d, stack, hstack, hstack', hprogram, -⟩ := Moment.leave?_eq_some hleave
    obtain ⟨hd, hcallers⟩ := List.forall_mem_cons.1 (hstack ▸ hm.callers)
    exact ⟨hprogram ▸ hd _, hstack' ▸ hcallers⟩
  · have hcaller : ∀ result, (next result).NeverResets := fun result => hm.program.continues (hnext result)
    exact ⟨hp d (mem_of_firstMatch? hd) _, List.forall_mem_cons.2 ⟨hcaller, hm.callers⟩⟩
  · exact ⟨hm.program.continues hnext, hstack ▸ hm.callers⟩

/-- Without resets of their own, programs add to the body, but for a forward before the response is
committed. -/
theorem body_next? (hm : m.program.NeverResets) (h : p.next? m = some m') :
    (m.response.body <+: m'.response.body ∧
        (m.response.committed = true → m'.response.committed = true)) ∨
      ∃ path next, m.program = .dispatch .forward path next ∧ m.response.committed = false := by
  rcases response_next? h with he | ⟨step, next, hstep, he⟩ | ⟨path, next, hforward, hc, -⟩
  · exact .inl (by rw [he]; exact ⟨List.prefix_rfl, id⟩)
  · rw [hstep] at hm
    rw [he, Response.body_step _ hm.1, Response.committed_step]
    exact .inl ⟨List.prefix_append _ _, fun hc => by rw [hc, Bool.true_or]⟩
  · exact .inr ⟨path, next, hforward, hc⟩

/-- A committed response stays so, and its body is only added to. -/
theorem committed_goes (hp : p.NeverResets) (hm : m.NeverResets) (hc : m.response.committed = true)
    (h : p.Goes m m') : m'.response.committed = true ∧ m.response.body <+: m'.response.body := by
  have hkept : m'.NeverResets ∧ m'.response.committed = true ∧ m.response.body <+: m'.response.body := by
    refine h.invariant (P := fun m' => m'.NeverResets ∧ m'.response.committed = true ∧
      m.response.body <+: m'.response.body) ?_ ⟨hm, hc, List.prefix_rfl⟩
    rintro m₁ m₂ ⟨hm₁, hc₁, hbody₁⟩ hnext
    rcases body_next? hm₁.program hnext with ⟨hbody, hcommitted⟩ | ⟨path, next, -, hopen⟩
    · exact ⟨neverResets_next? hp hm₁ hnext, hcommitted hc₁, hbody₁.trans hbody⟩
    · rw [hc₁] at hopen
      cases hopen
  exact hkept.2

/-- What becomes of output from a moment of a run on. -/
structure KeepsOutput (p : Pipeline ε) (m : Moment ε) : Prop where
  /-- A forward of a committed response fails. Nothing is invoked, and the request and the response
  are left alone. -/
  refused : ∀ path next, m.program = .dispatch .forward path next → (m.dispatcher? p path).isSome →
    m.response.committed = true →
    p.next? m = some { m with program := next (some (.error .committed)) }
  /-- Any other forward invokes its handler, which finds an empty body, and status and headers as they
  are. -/
  forwarded : ∀ path next d, m.program = .dispatch .forward path next → m.dispatcher? p path = some d →
    m.response.committed = false → ∃ m', p.next? m = some m' ∧
      m'.program = d.definition.handler.content.service ⟨d.definition.name, .forward, d.depth⟩ ∧
      m'.response.body = [] ∧ m'.response.status = m.response.status ∧
      m'.response.headers = m.response.headers
  /-- Once the response is committed, the body is only added to, to the end of the run. -/
  added : m.response.committed = true → ∀ m', p.Goes m m' →
    m'.response.committed = true ∧ m.response.body <+: m'.response.body
  /-- Before that, the body is only added to as well, but for forwards. -/
  shortened : ∀ m', p.next? m = some m' → ¬ m.response.body <+: m'.response.body →
    m.response.committed = false ∧ ∃ path next, m.program = .dispatch .forward path next

theorem keepsOutput (hp : p.NeverResets) (hm : m.NeverResets) (hs : m.response.Sound) :
    p.KeepsOutput m where
  refused path next hprogram hd hc := by
    obtain ⟨d, hd⟩ := Option.isSome_iff_exists.1 hd
    exact next?_refused hprogram hd ⟨rfl, hc⟩
  forwarded path next d hprogram hd hc := by
    have hopen : ¬ (Manner.forward = .forward ∧ m.response.committed = true) := by simp [hc]
    have hreset : (Moment.invoked m.stack m.session d.definition (d.dispatched .forward m.session) d.depth
        fun result => next (some result)).response = m.response.step .reset :=
      (Moment.response_invoked ..).trans (if_pos rfl)
    refine ⟨_, next?_dispatched hprogram hd hopen, rfl, ?_⟩
    rw [hreset]
    exact ⟨(m.response.body_step_reset).trans (hs.sent_nil hc), rfl, rfl⟩
  added hc _ h := committed_goes hp hm hc h
  shortened m' h hshort := by
    rcases body_next? hm.program h with ⟨hbody, -⟩ | ⟨path, next, hforward, hc⟩
    · exact absurd hbody hshort
    · exact ⟨hc, path, next, hforward⟩

end Pipeline

/-- **Committed output is not lost, and a late forward does nothing.** Serving a request, forwarding it and
including a target, from outside any handler, are runs of the machine. At every moment of one, whatever
handlers do but reset the response themselves, a forward is refused if the response is committed and drops
what is unsent if it is not, and nothing else takes anything out of the body. -/
theorem output_kept (p : Pipeline ε) (hp : p.NeverResets) (s : Session ε) (capacity : Nat)
    (steps : List Response.Step) (hs : s.outlet.response = (Response.fresh capacity).run steps) :
    (∀ limit r s', p.serve limit s = some (r, s') → ∀ next, p.Goes ⟨.serve next, [], s⟩ ⟨next r, [], s'⟩) ∧
    (∀ limit manner path r s', p.dispatch limit manner path s = some (r, s') → ∀ next,
      p.Goes ⟨.dispatch manner path next, [], s⟩ ⟨next r, [], s'⟩) ∧
    ∀ host : Program ε, host.NeverResets → ∀ m, p.Goes ⟨host, [], s⟩ m → p.KeepsOutput m := by
  refine ⟨fun _ _ _ h => Pipeline.goes_of_serve h, fun _ _ _ _ _ h => Pipeline.goes_of_dispatch h,
    fun host hhost m hm => ?_⟩
  have hsound : s.outlet.response.Sound := hs ▸ (Response.Sound.fresh capacity).run steps
  have hstart : (Moment.mk host [] s).NeverResets ∧ (Moment.mk host [] s).response.Sound :=
    ⟨⟨hhost, List.forall_mem_nil _⟩, hsound⟩
  have hmoment : m.NeverResets ∧ m.response.Sound :=
    hm.invariant (P := fun m => m.NeverResets ∧ m.response.Sound)
      (fun _ _ h hnext => ⟨Pipeline.neverResets_next? hp h.1 hnext, Pipeline.sound_next? h.2 hnext⟩) hstart
  exact Pipeline.keepsOutput hp hmoment.1 hmoment.2

/-- A page that drafts something and forwards to a view. The view writes too much to be held back, and
includes a part before it forwards to an error page. The part does so as well, and both go on after it. -/
def lateForwards : Pipeline Unit where
  registry := ⟨[.ofHandler (.literal "/error") "error" ⟨0, { service _ := writing [9] .finish }⟩ .empty,
    .ofHandler (.literal "/part") "part" ⟨1, { service _ := writing [4] toError }⟩ .empty,
    .ofHandler (.literal "/view") "view" ⟨2, { service _ := view }⟩ .empty,
    .ofHandler (.beneath "/page") "page" ⟨3, { service _ := page }⟩ .empty]⟩
  context := ⟨"", .empty⟩
where
  writing (data : List UInt8) (next : Program Unit) : Program Unit := .respond (.write data) fun _ => next
  toError : Program Unit := .dispatch .forward "/error" fun _ => writing [5] .finish
  view := writing [2, 3] (.dispatch .inclusion "/part" fun _ => toError)
  page := writing [1] (.dispatch .forward "/view" fun _ => .finish)

theorem neverResets_lateForwards : lateForwards.NeverResets := by
  intro d hd situation
  simp only [lateForwards, List.mem_cons, List.not_mem_nil, or_false] at hd
  rcases hd with rfl | rfl | rfl | rfl
  · exact ⟨nofun, fun _ => trivial⟩
  · exact ⟨nofun, fun _ _ => ⟨nofun, fun _ => trivial⟩⟩
  · exact ⟨nofun, fun _ _ _ => ⟨nofun, fun _ => trivial⟩⟩
  · exact ⟨nofun, fun _ _ => trivial⟩

/-- The moment at which the page is asked for. -/
def lateForwards.start : Moment Unit where
  program := .serve fun _ => .finish
  stack := []
  session := .start (.get "/page/x") (.fresh 1 none)

/-- The draft is dropped, and nothing of what the view and the part write. -/
theorem lateForwards_keep_output :
    ∃ r s', lateForwards.serve 3 lateForwards.start.session = some (r, s') ∧ r.isOk = true ∧
      s'.outlet.response.body = [2, 3, 4, 5, 5] ∧ lateForwards.Goes lateForwards.start ⟨.finish, [], s'⟩ ∧
      ∀ m, lateForwards.Goes lateForwards.start m → lateForwards.KeepsOutput m := by
  have hrun : (lateForwards.serve 3 lateForwards.start.session).any (fun x =>
      x.1.isOk = true ∧ x.2.outlet.response.body = [2, 3, 4, 5, 5]) = true := by decide +kernel
  obtain ⟨⟨r, s'⟩, hserve, hresult⟩ := (Option.any_eq_true ..).1 hrun
  obtain ⟨hr, hbody⟩ := of_decide_eq_true hresult
  obtain ⟨hgoes, -, hkept⟩ :=
    output_kept lateForwards neverResets_lateForwards lateForwards.start.session 1 [] rfl
  exact ⟨r, s', hserve, hr, hbody, hgoes 3 r s' hserve _, hkept _ fun _ => trivial⟩

end RequestDispatch
