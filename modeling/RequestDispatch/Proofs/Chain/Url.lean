import RequestDispatch.Proofs.Chain.Shown

/-! The URL of a request follows its URI.

Each layer answers for the URL in a way of its own. A level builds it from its replacement where it shows the
replacement, and hands on the URL beneath where it gives way, a decorator builds it anew. So the URL at any
point of a chain is made of the URI that is shown there, whatever levels and decorators lie between it and the
request (`Chain.urlFollowsUri_view`), and of the scheme and the server that the request was received with
(`Chain.url_follows_uri`). -/
namespace RequestDispatch

/-- The URL is made of the scheme, the server and the URI that are shown with it. -/
def View.UrlFollowsUri (v : View) : Prop :=
  v.requestUrl = RequestDispatch.requestUrl v.scheme v.serverName v.serverPort v.requestUri

theorem Request.urlFollowsUri_view (r : Request) : r.view.UrlFollowsUri := rfl

theorem Level.urlFollowsUri_view (l : Level) {inner : View} (h : inner.UrlFollowsUri) :
    (l.view inner).UrlFollowsUri := by
  show l.url inner = requestUrl inner.scheme inner.serverName inner.serverPort (l.requestUri inner)
  unfold url Level.requestUri shown
  by_cases hcovered : inner.requestUri = l.covered.requestUri
  · rw [if_pos hcovered, if_pos hcovered]
  -- The level gives way in both.
  · rw [if_neg hcovered, if_neg hcovered]
    exact h

theorem Decorator.urlFollowsUri_view (d : Decorator) (inner : View) : (d.view inner).UrlFollowsUri := rfl

theorem Layer.urlFollowsUri_view (x : Layer) {inner : View} (h : inner.UrlFollowsUri) :
    (x.view inner).UrlFollowsUri := by
  cases x with
  | forward l | inclusion l => exact l.urlFollowsUri_view h
  | decorator d => exact d.urlFollowsUri_view inner

/-- The scheme and the server, which no layer can change. -/
def View.server (v : View) : String × String × Option UInt16 := (v.scheme, v.serverName, v.serverPort)

theorem Layer.server_view (x : Layer) (inner : View) : (x.view inner).server = inner.server := by
  cases x <;> rfl

namespace Chain

/-- The chain itself, and what each of its layers lies around, down to the request. -/
def nodes {β : Type} : Chain β → List (Chain β)
  | base request => [base request]
  | layer outer inner => layer outer inner :: inner.nodes

theorem mem_nodes_self {β : Type} (c : Chain β) : c ∈ c.nodes := by
  cases c <;> exact List.mem_cons_self

theorem bottom_of_mem_nodes {β : Type} {c node : Chain β} (h : node ∈ c.nodes) : node.bottom = c.bottom := by
  induction c with
  | base request => rw [List.mem_singleton.1 h]
  | layer outer inner ih =>
    rcases List.mem_cons.1 h with rfl | h
    · rfl
    · exact ih h

theorem urlFollowsUri_view (c : Chain Request) : c.view.UrlFollowsUri := by
  induction c with
  | base request => exact request.urlFollowsUri_view
  | layer outer inner ih => exact outer.urlFollowsUri_view ih

theorem server_view (c : Chain Request) : c.view.server = c.bottom.view.server := by
  induction c with
  | base request => rfl
  | layer outer inner ih => exact (outer.server_view inner.view).trans ih

/-- **The URL follows the URI**, at the head of a chain and at every point beneath, after any steps and with
any decorators. The scheme and the server in it are always those of the request as it was received. -/
theorem url_follows_uri (r : Request) (steps : List Step) : ∀ node ∈ ((base r).run steps).nodes,
    node.view.requestUrl =
      requestUrl node.view.scheme node.view.serverName node.view.serverPort node.view.requestUri ∧
    node.view.scheme = r.scheme ∧ node.view.serverName = r.serverName ∧ node.view.serverPort = r.serverPort := by
  intro node hnode
  have hreached : LeadsTo (fun _ => True) (base r) ((base r).run steps) := ⟨steps, fun _ _ => trivial, rfl⟩
  have hserver : node.view.server = r.view.server :=
    calc node.view.server
      _ = node.bottom.view.server := node.server_view
      _ = ((base r).run steps).bottom.view.server := by rw [bottom_of_mem_nodes hnode]
      _ = r.view.server := Request.shows_of_frame View.server (fun _ => rfl) hreached.bottom
  simp only [View.server, Prod.mk.injEq] at hserver
  exact ⟨node.urlFollowsUri_view, hserver⟩

/-- An inclusion of the request's own URI inside two forwards, of which the second takes over the level of the
first, and a decorator around them. -/
def readdressedSteps : List Step :=
  [.forward ⟨"/a", "/a", none⟩ true, .forward ⟨"/b", "/b", none⟩ true, .decorate (.lengthened "/lead"),
    .includeTarget ⟨"/page", "/page", none⟩]

def readdressedRequest : Request := (Request.get "/page").withServer "https" "host" (some 8443)

/-- The inclusion shows no other URI than the request, so it is the forward that speaks for the URL as well. -/
theorem readdressed_url :
    ((base readdressedRequest).run readdressedSteps).view.requestUrl = "https://host:8443/lead/b" ∧
      ∃ node ∈ ((base readdressedRequest).run readdressedSteps).nodes,
        node.kinds = [.forward, .inclusion] ∧ node.view.requestUrl = "https://host:8443/b" := by
  have hfollows := url_follows_uri readdressedRequest readdressedSteps
  have hinner : ((base readdressedRequest).run readdressedSteps).nodes.any (fun node =>
      node.kinds = [.forward, .inclusion] ∧ node.view.requestUri = "/b") = true := by decide +kernel
  obtain ⟨node, hnode, hshows⟩ := List.any_eq_true.1 hinner
  obtain ⟨hkinds, huri⟩ := of_decide_eq_true hshows
  constructor
  · obtain ⟨hurl, hscheme, hname, hport⟩ := hfollows _ (mem_nodes_self _)
    rw [hurl, hscheme, hname, hport]
    decide +kernel
  · obtain ⟨hurl, hscheme, hname, hport⟩ := hfollows node hnode
    refine ⟨node, hnode, hkinds, ?_⟩
    rw [hurl, hscheme, hname, hport, huri]
    decide +kernel

end Chain
end RequestDispatch
