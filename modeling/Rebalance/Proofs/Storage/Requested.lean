import Rebalance.Proofs.Net.Endpoint
import Rebalance.Proofs.Storage.Load
import Rebalance.Proofs.Storage.Valid

/-!
# The requests for the settings of nodes

* `Act.urls`: the URLs that an action on a world requests.
* `urls_volumePaths`, `urls_fetchPaths`: asking a node for its paths requests one URL, that of the
  setting on the node.
* `Node.address_eq_iff`: the last colon of a node's address stands between its host and its port.
* `requested_by_endpoint`: a client requests one URL for two valid nodes just when they have the
  same network address and the same port, and both can be read off the address of a node.
-/

namespace Rebalance

/-- The URLs that an action requests, in the order of the requests. -/
def Act.urls {α : Type} (x : Act World α) (w : World) : List String :=
  ((x w).2.link.requests.drop w.link.requests.length).map Net.Request.url

theorem Act.urls_eq
    {α : Type}
    {x : Act World α}
    {w : World}
    {r : Net.Request}
    (h : (x w).2.link.requests = w.link.requests ++ [r]) :
    x.urls w = [r.url] := by
  rw [urls, h, List.drop_left, List.map_singleton]

/-- Asking for the paths at an address requests one URL. -/
theorem Net.Client.urls_volumePaths
    (c : Client)
    (address : String)
    (w : World) :
    (c.volumePaths address).urls w = [c.url address] := by
  refine Act.urls_eq (r := c.request address) ?_
  rw [volumePaths_eq, World.tell_link]
  exact Link.send_requests w.link _

theorem Net.Client.url_eq_iff
    (c : Client)
    {a b : String} :
    c.url a = c.url b ↔ a = b := by
  constructor
  · intro h
    rw [← String.toList_inj] at h ⊢
    simpa [url] using h
  · rintro rfl
    rfl

namespace Storage

/-- Giving a node the paths it answers with requests one URL, whatever the answer. -/
theorem Node.urls_fetchPaths
    (n : Node)
    (c : Net.Client)
    (w : World) :
    (n.fetchPaths c).urls w = [c.url n.address] := by
  refine Act.urls_eq (r := c.request n.address) ?_
  rw [fetchPaths_eq, World.tell_link]
  exact Net.Link.send_requests w.link _

/-- The address of a node has one cut at a colon with no colon behind it: between the host and the
port. -/
theorem Node.address_eq_iff
    (n : Node)
    (front last : String) :
    n.address = front ++ ":" ++ last ∧ ':' ∉ last.toList ↔
      front = n.ip.host ∧ last = Decimal.intText n.port := by
  have hport : (Decimal.intText n.port).toList = Decimal.digits n.port := by
    simp [Decimal.intText]
  have hcut : Net.cutLast? n.address.toList
      = some (n.ip.host.toList, (Decimal.intText n.port).toList) := by
    rw [hport]
    exact Net.cutLast?_endpoint n.ip n.port
  have hjoined : n.address = front ++ ":" ++ last ↔
      n.address.toList = front.toList ++ ':' :: last.toList := by
    rw [← String.toList_inj]
    simp
  calc n.address = front ++ ":" ++ last ∧ ':' ∉ last.toList
    _ ↔ Net.cutLast? n.address.toList = some (front.toList, last.toList) := by
      rw [hjoined, Net.cutLast?_eq_some_iff]
    _ ↔ n.ip.host = front ∧ Decimal.intText n.port = last := by
      rw [hcut, Option.some.injEq, Prod.mk.injEq, String.toList_inj, String.toList_inj]
    _ ↔ front = n.ip.host ∧ last = Decimal.intText n.port :=
      and_congr eq_comm eq_comm

/-- A client requests one URL for two valid nodes just when they have the same network address, that
is the same version, number and zone, and the same port.  The port is what stands behind the last
colon of a node's address, and in front of it stands the text of the network address, for version 6
in square brackets.  So both are read off the node's address. -/
theorem requested_by_endpoint
    (c : Net.Client)
    {n m : Node}
    (hn : n.Valid)
    (hm : m.Valid) :
    let same := n.ip = m.ip ∧ n.port = m.port
    (∀ v w, (c.volumePaths n.address).urls v = (c.volumePaths m.address).urls w ↔ same) ∧
      (∀ v w, (n.fetchPaths c).urls v = (m.fetchPaths c).urls w ↔ same) ∧
      (c.url n.address = c.url m.address ↔ same) ∧
      (∀ front last, n.address = front ++ ":" ++ last ∧ ':' ∉ last.toList ↔
        front = n.ip.host ∧ last = Decimal.intText n.port) ∧
      (n.ip.version = 4 → n.ip.host = n.ip.text) ∧
      (n.ip.version = 6 → n.ip.host = "[" ++ n.ip.text ++ "]") ∧
      Net.readEndpoint? n.address = some (n.ip.text, n.port) ∧
      Net.Address.read? n.ip.text = some n.ip := by
  intro same
  have hurl : c.url n.address = c.url m.address ↔ same :=
    (c.url_eq_iff).trans (Net.endpoint_eq_iff hn.address hm.address)
  have hsingle : [c.url n.address] = [c.url m.address] ↔ same := by
    rw [List.singleton_inj, hurl]
  refine ⟨?_, ?_, hurl, n.address_eq_iff, ?_, ?_, Net.readEndpoint?_endpoint n.ip n.port,
    Net.read?_text hn.address⟩
  · intro v w
    rw [c.urls_volumePaths, c.urls_volumePaths]
    exact hsingle
  · intro v w
    rw [n.urls_fetchPaths, m.urls_fetchPaths]
    exact hsingle
  · intro hversion
    exact if_neg (by rw [hversion]; decide)
  · intro hversion
    exact if_pos hversion

/-- The zone `1]:2` makes the address of one node begin with that of another, which has the zone `1`
and the port 2.  Different URLs are requested for the two. -/
theorem requested_by_endpoint_of_zones :
    let c : Net.Client := ⟨"S", "http", 10⟩
    let node (zone : String) (port : Nat) : Node :=
      ⟨"n", .v6 0xfe800000000000000000000000000001 (Text.codes zone), port, "", 0.0, []⟩
    let n := node "1]:2" 3
    let m := node "1" 2
    n.Valid ∧ m.Valid ∧ n.address = m.address ++ "]:3" ∧
      (∀ v w, (n.fetchPaths c).urls v ≠ (m.fetchPaths c).urls w) ∧
      Net.readEndpoint? n.address = some ("fe80::1%1]:2", 3) ∧
      Net.readEndpoint? m.address = some ("fe80::1%1", 2) := by
  intro c node n m
  have hn : n.Valid := by decide +kernel
  have hm : m.Valid := by decide +kernel
  obtain ⟨-, hurls, -, -, -, -, hread, -⟩ := requested_by_endpoint c hn hm
  obtain ⟨-, -, -, -, -, -, hread', -⟩ := requested_by_endpoint c hm hn
  refine ⟨hn, hm, by decide +kernel, ?_, ?_, ?_⟩
  · intro v w h
    exact absurd ((hurls v w).mp h).2 (by decide)
  · rw [hread]
    decide +kernel
  · rw [hread']
    decide +kernel

end Storage
end Rebalance
