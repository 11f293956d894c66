import Rebalance.Proofs.Net.Plain
import Rebalance.Proofs.Storage.Acceptance
import Rebalance.Proofs.Storage.Lookup

/-!
# Naming a node by the address that its document gives

* `Node.read?_of_read`: the text of a document's address is read as the address of its node.
* `Cluster.isSome_node?_iff`: a text leads to a node of every valid cluster that holds a given one
  just when it names that one.
* `named_as_written`: the text of a document's address names its node just when it is plain, or is
  the host name or the identity of the node.
-/

namespace Rebalance
namespace Storage

open Schema

/-- The text of a document's address is read as the address of its node. -/
theorem Node.read?_of_read
    {es : List (Data × Data)}
    {s : String}
    {n : Node}
    (hip : Data.find? "ip" es = some (.text s))
    (hn : Node.read (.map es) = .ok n) :
    Net.Address.read? s = some n.ip := by
  obtain ⟨es', hes, hentries⟩ := Node.drawn_of_read hn
  obtain rfl := Data.map.inj hes
  obtain ⟨d, hd, hread⟩ := hentries.ip
  obtain rfl := Option.some.inj (hip.symm.trans hd)
  have hread' : readAddress (.text s) = .ok n.ip := hread
  unfold readAddress at hread'
  dsimp only at hread'
  split at hread'
  · next a ha =>
    cases hread'
    exact ha
  · cases hread'

/-- A text leads to a node of every valid cluster that holds a given one just when it names that
one. -/
theorem Cluster.isSome_node?_iff
    {n : Node}
    (hn : n.Valid)
    (name : String) :
    (∀ c : Cluster, c.Valid → n ∈ c.nodes → (c.node? name).isSome = true) ↔
      n.isNamed name = true := by
  constructor
  · intro h
    have hvalid : Valid ⟨[n], []⟩ :=
      ⟨List.forall_mem_singleton.mpr hn, List.nodup_singleton n.uuid⟩
    have hsome := h ⟨[n], []⟩ hvalid List.mem_cons_self
    obtain ⟨m, hm⟩ := Option.isSome_iff_exists.mp hsome
    have hnamed := List.find?_some (p := fun k : Node => k.isNamed name) hm
    rwa [List.mem_singleton.mp (List.mem_of_find?_eq_some hm)] at hnamed
  · intro h c _ hmem
    exact List.find?_isSome.mpr ⟨n, hmem, h⟩

/-- The text of a document's address names its node, in every valid cluster that holds the node,
just when it is plain or is the host name or the identity of the node.  The plain text names every
node, and an address of version 4 has no other. -/
theorem named_as_written
    {es : List (Data × Data)}
    {s : String}
    {n : Node}
    (hip : Data.find? "ip" es = some (.text s))
    (hn : Node.read (.map es) = .ok n) :
    (n.isNamed s = true ↔ n.ip.IsPlain s ∨ s = n.hostname ∨ s = n.uuid) ∧
      ((∀ c : Cluster, c.Valid → n ∈ c.nodes → (c.node? s).isSome = true) ↔
        n.ip.IsPlain s ∨ s = n.hostname ∨ s = n.uuid) ∧
      (n.ip.version = 4 → n.ip.IsPlain s) ∧
      Net.Address.read? n.ip.text = some n.ip ∧ n.ip.IsPlain n.ip.text ∧
      n.isNamed n.ip.text = true := by
  have hvalid := Node.valid_of_read hn
  have hread := Node.read?_of_read hip hn
  have htext := Net.read?_text hvalid.address
  have hnamed : n.isNamed s = true ↔ n.ip.IsPlain s ∨ s = n.hostname ∨ s = n.uuid := by
    rw [Node.isNamed_iff, Node.HasAlias, Net.eq_text_iff hread, or_assoc]
  refine ⟨hnamed, (Cluster.isSome_node?_iff hvalid s).trans hnamed, ?_, htext,
    (Net.eq_text_iff htext).mp rfl, (n.isNamed_iff n.ip.text).mpr (.inl (.inl rfl))⟩
  intro hversion
  generalize n.ip = a at hversion
  cases a with
  | v4 value => trivial
  | v6 value zone => exact absurd hversion (show ¬ 6 = 4 by decide)

/-- An address in capital letters does not name its node; in small letters it does. -/
theorem named_as_written_in_capitals :
    let es (s : String) : List (Data × Data) :=
      [(.text "uuid", .text "n"), (.text "ip", .text s), (.text "port", .int 5)]
    let n : Node := ⟨"n", .v6 0xfe800000000000000000000000000001 [], 5, "", 0.0, []⟩
    (Data.find? "ip" (es "FE80::1") = some (.text "FE80::1") ∧
        Node.read (.map (es "FE80::1")) = .ok n ∧ ¬ n.ip.IsPlain "FE80::1" ∧
        n.isNamed "FE80::1" = false ∧
        ¬ ∀ c : Cluster, c.Valid → n ∈ c.nodes → (c.node? "FE80::1").isSome = true) ∧
      Data.find? "ip" (es "fe80::1") = some (.text "fe80::1") ∧
        Node.read (.map (es "fe80::1")) = .ok n ∧ n.ip.IsPlain "fe80::1" ∧
        ∀ c : Cluster, c.Valid → n ∈ c.nodes → (c.node? "fe80::1").isSome = true := by
  intro es n
  have hcapital : Node.read (.map (es "FE80::1")) = .ok n := rfl
  have hsmall : Node.read (.map (es "fe80::1")) = .ok n := rfl
  have hunnamed : n.isNamed "FE80::1" = false := by decide +kernel
  have hnamed : n.isNamed "fe80::1" = true := by decide +kernel
  obtain ⟨hiff, hlookup, -⟩ := named_as_written (s := "FE80::1") rfl hcapital
  obtain ⟨hiff', hlookup', -⟩ := named_as_written (s := "fe80::1") rfl hsmall
  have hnot : ¬ (n.ip.IsPlain "FE80::1" ∨ "FE80::1" = n.hostname ∨ "FE80::1" = n.uuid) := fun h =>
    Bool.false_ne_true (hunnamed.symm.trans (hiff.mpr h))
  refine ⟨⟨rfl, hcapital, fun h => hnot (.inl h), hunnamed, fun h => hnot (hlookup.mp h)⟩,
    rfl, hsmall, ?_, hlookup'.mpr (hiff'.mp hnamed)⟩
  rcases hiff'.mp hnamed with hplain | hhost | huuid
  · exact hplain
  · exact absurd hhost (by decide)
  · exact absurd huuid (by decide)

end Storage
end Rebalance
