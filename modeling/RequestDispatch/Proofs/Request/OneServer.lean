import RequestDispatch.Request.Arrival

/-! The server a request was sent to.

A message names the server it was sent to in its `Host` header or else in its URI, and its name and port
belong together if both are taken from the one place (`Http.Message.SentTo`). A request has the name of that
server, but a port in the URI counts before one in the header. So it has a port that belongs to another server
if the URI gives one that the header does not (`Request.arrives_at_one_server_iff`), which takes a URI with an
authority: a target that is a path has none (`Uri.authority_of_beginsWith`). -/
namespace RequestDispatch

/-! ### Names and ports that belong together -/

namespace Http.Message

/-- The port implied by the scheme of the URI, which is that of HTTP where the URI has none. -/
def impliedPort? (m : Message) : Option UInt16 := defaultPort? (m.uri.scheme.getD "http")

/-- The server that a message was sent to, by its name and its port. Both are those of a readable `Host`
header, or of the URI where there is none. Where a port is missing, it is the one that the scheme implies. -/
inductive SentTo (m : Message) : String → Option UInt16 → Prop
  | header {host : String} {a : Authority} (hhost : m.host? = some host)
      (ha : Authority.ofText? host.toList = some a) : SentTo m a.host (a.port?.or m.impliedPort?)
  /-- A header that is no authority is a name as it stands, and no port. -/
  | name {host : String} (hhost : m.host? = some host) (ha : Authority.ofText? host.toList = none) :
      SentTo m host m.impliedPort?
  | uri {a : Authority} (hhost : m.host? = none) (ha : m.uri.authority = some a) :
      SentTo m a.host (a.port?.or m.impliedPort?)
  | nowhere (hhost : m.host? = none) (ha : m.uri.authority = none) : SentTo m "localhost" m.impliedPort?

/-- The port that stands beside the name of the server. -/
def ownPort? (m : Message) : Option UInt16 := if m.host? = none then m.uri.port? else m.server.2

variable {m : Message} {name : String} {port : Option UInt16}

/-- A message was sent to one server. -/
theorem sentTo_iff : m.SentTo name port ↔ name = m.server.1 ∧ port = m.ownPort?.or m.impliedPort? := by
  constructor
  · intro h
    cases h with
    | header hhost ha => simp [server, ownPort?, hhost, ha]
    | name hhost ha => simp [server, ownPort?, hhost, ha]
    | uri hhost ha => simp [server, ownPort?, hhost, Uri.host?, Uri.port?, ha]
    | nowhere hhost ha => simp [server, ownPort?, hhost, Uri.host?, Uri.port?, ha]
  · rintro ⟨rfl, rfl⟩
    cases hhost : m.host? with
    | some host =>
      cases ha : Authority.ofText? host.toList with
      | some a => simpa [server, ownPort?, hhost, ha] using SentTo.header hhost ha
      | none => simpa [server, ownPort?, hhost, ha] using SentTo.name hhost ha
    | none =>
      cases ha : m.uri.authority with
      | some a => simpa [server, ownPort?, hhost, Uri.host?, Uri.port?, ha] using SentTo.uri hhost ha
      | none => simpa [server, ownPort?, hhost, Uri.host?, Uri.port?, ha] using SentTo.nowhere hhost ha

theorem uri_of_ofParts? {method target : String} {headers : List (String × String)}
    (h : ofParts? method target headers = some m) : Uri.ofText? target = some m.uri := by
  rw [ofParts?, Option.ite_none_right_eq_some] at h
  obtain ⟨-, hmap⟩ := h
  obtain ⟨uri, huri, rfl⟩ := Option.map_eq_some_iff.1 hmap
  exact huri

end Http.Message

/-- A URI that is a path names no server. -/
theorem Uri.authority_of_beginsWith {target : String} {u : Uri} (h : ofText? target = some u)
    (hslash : Text.beginsWith '/' target) : u.authority = none := by
  obtain ⟨rest, hrest⟩ := Text.beginsWith_iff_toList.1 hslash
  simp only [ofText?, hrest, Option.ite_none_left_eq_some, Option.map_eq_some_iff] at h
  obtain ⟨-, parts, -, rfl⟩ := h
  rfl

/-! ### Requests that arrive -/

namespace Request
variable (m : Http.Message) (contextPath : String)

theorem serverName_arrived : (arrived m contextPath).serverName = m.server.1 := rfl

theorem serverPort_arrived :
    (arrived m contextPath).serverPort = (m.uri.port?.or m.server.2).or m.impliedPort? := rfl

/-- A port in the URI is the only one that can go with another server's name. -/
theorem sentTo_arrived_iff :
    m.SentTo (arrived m contextPath).serverName (arrived m contextPath).serverPort ↔
      m.host? = none ∨ m.uri.port? = none ∨ m.uri.port? = m.server.2.or m.impliedPort? := by
  rw [serverName_arrived, serverPort_arrived, Http.Message.sentTo_iff, and_iff_right rfl]
  by_cases hhost : m.host? = none
  · have hheader : m.server.2 = none := by simp [Http.Message.server, hhost]
    simp [Http.Message.ownPort?, hhost, hheader]
  · rw [Http.Message.ownPort?, if_neg hhost]
    cases m.uri.port? with
    | none => simp
    | some port => simp [hhost]

/-- **When name and port of a request belong together.** A request has the name of the server that the message
was sent to. It has the port of that server if and only if there is no `Host` header that can be read, or the
URI gives no port, or it gives the one that the header gives or, if that gives none, the scheme implies. So it
has if the message names its target by a path. -/
theorem arrives_at_one_server_iff :
    (∃ port, m.SentTo (arrived m contextPath).serverName port) ∧
    (m.SentTo (arrived m contextPath).serverName (arrived m contextPath).serverPort ↔
      m.host? = none ∨ m.uri.port? = none ∨ m.uri.port? = m.server.2.or m.impliedPort?) ∧
    ∀ method target headers, Http.Message.ofParts? method target headers = some m →
      Text.beginsWith '/' target →
        m.SentTo (arrived m contextPath).serverName (arrived m contextPath).serverPort := by
  refine ⟨⟨_, Http.Message.sentTo_iff.2 ⟨rfl, rfl⟩⟩, sentTo_arrived_iff m contextPath,
    fun method target headers hm htarget => ?_⟩
  have hauthority := Uri.authority_of_beginsWith (Http.Message.uri_of_ofParts? hm) htarget
  have hport : m.uri.port? = none := by rw [Uri.port?, hauthority, Option.bind_none]
  exact (sentTo_arrived_iff m contextPath).2 (.inr (.inl hport))

/-- A message to a shop behind a port of its own, which names its target by a path. -/
def cartMessage : Http.Message :=
  { method := "POST"
    uri := { scheme := none, authority := none, path := "/app/cart/items", query := some "page=2" }
    headers := [("Host", "shop.example:8443")] }

/-- The shop's name and port are those of the header. -/
theorem cart_arrives_at_shop :
    Http.Message.ofParts? "POST" "/app/cart/items?page=2" [("Host", "shop.example:8443")] = some cartMessage ∧
      cartMessage.SentTo "shop.example" (some 8443) := by
  have hmessage : Http.Message.ofParts? "POST" "/app/cart/items?page=2" [("Host", "shop.example:8443")] =
      some cartMessage := by decide +kernel
  obtain ⟨-, -, hpath⟩ := arrives_at_one_server_iff cartMessage "/app"
  have hserver := hpath _ _ _ hmessage (by decide)
  have hname : (arrived cartMessage "/app").serverName = "shop.example" := by decide +kernel
  have hport : (arrived cartMessage "/app").serverPort = some 8443 := by decide +kernel
  rw [hname, hport] at hserver
  exact ⟨hmessage, hserver⟩

/-- The same shop, in a message that names another server and its port in the URI. -/
def proxiedMessage : Http.Message :=
  { method := "GET"
    uri := { scheme := some "http", authority := some ⟨"up.example:81".toList⟩, path := "/a", query := none }
    headers := [("Host", "shop.example:8443")] }

/-- The name is the header's and the port is the URI's, so that the URL leads to neither server. -/
theorem proxied_splits_server :
    Http.Message.ofParts? "GET" "http://up.example:81/a" [("Host", "shop.example:8443")] = some proxiedMessage ∧
      proxiedMessage.SentTo "shop.example" (some 8443) ∧
      (arrived proxiedMessage "").serverName = "shop.example" ∧
      (arrived proxiedMessage "").serverPort = some 81 ∧
      ¬ proxiedMessage.SentTo "shop.example" (some 81) ∧
      (arrived proxiedMessage "").url = "http://shop.example:81/a" := by
  refine ⟨by decide +kernel, Http.Message.sentTo_iff.2 (by decide +kernel), by decide +kernel, by decide +kernel,
    ?_, by decide +kernel⟩
  rw [Http.Message.sentTo_iff]
  decide +kernel

end Request
end RequestDispatch
