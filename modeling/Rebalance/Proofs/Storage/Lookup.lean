import Mathlib.Data.List.Nodup
import Rebalance.Proofs.Storage.Load
import Rebalance.Proofs.Storage.Valid

/-!
# Finding a node by its identity

* `Node.HasAlias`: the other names of a node, its address and its host name.
* `Cluster.find?_uuid`: an identity leads to the first node in front of its own that has it as
  another name, or else to its own node.
* `lookup_by_uuid`: when an identity leads to its own node, in the order of a cluster and in every
  order of its nodes.
-/

namespace Rebalance
namespace Storage

/-! ## Names of a node -/

/-- Whether a text is another name of a node: its address or its host name. -/
def Node.HasAlias (n : Node) (name : String) : Prop :=
  name = n.ip.text ∨ name = n.hostname

instance (n : Node) (name : String) : Decidable (n.HasAlias name) :=
  inferInstanceAs (Decidable (name = n.ip.text ∨ name = n.hostname))

theorem Node.isNamed_iff
    (n : Node)
    (name : String) :
    n.isNamed name = true ↔ n.HasAlias name ∨ name = n.uuid := by
  simp [isNamed, HasAlias]

@[simp] theorem Node.isNamed_uuid
    (n : Node) :
    n.isNamed n.uuid = true :=
  (n.isNamed_iff n.uuid).mpr (.inr rfl)

/-- The identity of another node is a name of a node just when it is another name of it. -/
theorem Node.isNamed_iff_of_ne
    {m : Node}
    {name : String}
    (h : m.uuid ≠ name) :
    m.isNamed name = true ↔ m.HasAlias name := by
  rw [isNamed_iff]
  exact or_iff_left h.symm

namespace Cluster

variable {c : Cluster} {place : Nat} {n : Node}

/-! ## The first node of a name -/

theorem findIdx?_congr
    {α : Type}
    {p q : α → Bool}
    {l : List α}
    (h : ∀ a ∈ l, p a = q a) :
    l.findIdx? p = l.findIdx? q := by
  induction l with
  | nil => rfl
  | cons a l ih =>
    rw [List.forall_mem_cons] at h
    rw [List.findIdx?_cons, List.findIdx?_cons, h.1, ih h.2]

theorem nodes_eq
    (hn : c.nodes[place]? = some n) :
    c.nodes = c.nodes.take place ++ n :: c.nodes.drop (place + 1) := by
  obtain ⟨hplace, rfl⟩ := List.getElem?_eq_some_iff.mp hn
  rw [← List.drop_eq_getElem_cons hplace, List.take_append_drop]

/-- The nodes in front of a node of a valid cluster have other identities. -/
theorem Valid.uuid_ne
    (hc : c.Valid)
    (hn : c.nodes[place]? = some n)
    {m : Node}
    (hm : m ∈ c.nodes.take place) :
    m.uuid ≠ n.uuid := by
  have hdistinct := hc.distinct
  rw [nodes_eq hn, List.map_append, List.nodup_append] at hdistinct
  exact hdistinct.2.2 _ (List.mem_map_of_mem hm) _ List.mem_cons_self

/-- An identity leads to the first node in front of its own that has it as another name, or else to
its own node. -/
theorem find?_uuid
    (hc : c.Valid)
    (hn : c.nodes[place]? = some n) :
    c.find? n.uuid =
      some (((c.nodes.take place).findIdx? fun m => m.HasAlias n.uuid).getD place) := by
  have hfront : (c.nodes.take place).findIdx? (fun m => m.isNamed n.uuid) =
      (c.nodes.take place).findIdx? fun m => m.HasAlias n.uuid := by
    refine findIdx?_congr ?_
    intro m hm
    rw [Bool.eq_iff_iff, decide_eq_true_iff]
    exact Node.isNamed_iff_of_ne (hc.uuid_ne hn hm)
  have hlength : (c.nodes.take place).length = place := by
    obtain ⟨hplace, _⟩ := List.getElem?_eq_some_iff.mp hn
    rw [List.length_take]
    omega
  unfold find?
  rw [nodes_eq hn, List.findIdx?_append, ← nodes_eq hn, hfront, List.findIdx?_cons, hlength]
  cases (c.nodes.take place).findIdx? fun m => m.HasAlias n.uuid <;> simp

/-- The node that an identity leads to, if it is not its own, has it as another name, and no node in
front has. -/
theorem exists_find?_uuid
    (hc : c.Valid)
    (hn : c.nodes[place]? = some n) :
    ∃ i ≤ place, c.find? n.uuid = some i ∧
      (i ≠ place → ∃ m, c.nodes[i]? = some m ∧ m.HasAlias n.uuid) ∧
      ∀ m ∈ c.nodes.take i, ¬ m.HasAlias n.uuid := by
  have hfind := find?_uuid hc hn
  cases hfirst : (c.nodes.take place).findIdx? fun m => decide (m.HasAlias n.uuid) with
  | none =>
    rw [hfirst] at hfind
    refine ⟨place, Nat.le_refl _, hfind, fun h => absurd rfl h, ?_⟩
    simpa using List.findIdx?_eq_none_iff.mp hfirst
  | some i =>
    rw [hfirst] at hfind
    obtain ⟨hlt, halias, hbefore⟩ := List.findIdx?_eq_some_iff_getElem.mp hfirst
    have hlt' := hlt
    rw [List.length_take] at hlt'
    refine ⟨i, by omega, hfind, ?_, ?_⟩
    · rintro -
      refine ⟨c.nodes[i], List.getElem?_eq_getElem (by omega), ?_⟩
      simpa using halias
    · intro m hm
      obtain ⟨j, hj, rfl⟩ := List.mem_take_iff_getElem.mp hm
      have hnot := hbefore j (by omega)
      simpa using hnot

/-- Nodes of one identity are one node. -/
theorem Valid.eq_of_uuid
    (hc : c.Valid)
    {m : Node}
    (hm : m ∈ c.nodes)
    (hn : n ∈ c.nodes)
    (h : m.uuid = n.uuid) :
    m = n :=
  List.inj_on_of_nodup_map hc.distinct hm hn h

/-- In every order of the nodes an identity leads to its own node just when it is another name of no
other one. -/
theorem forall_perm_node?_uuid_iff
    (hc : c.Valid)
    (hn : n ∈ c.nodes) :
    (∀ k : Cluster, k.nodes.Perm c.nodes → k.node? n.uuid = some n) ↔
      ∀ m ∈ c.nodes, m.uuid ≠ n.uuid → ¬ m.HasAlias n.uuid := by
  constructor
  · intro h m hm hne halias
    obtain ⟨front, back, hsplit⟩ := List.append_of_mem hm
    -- The order with this node first is the one that goes wrong.
    have hfirst := h ⟨m :: (front ++ back), []⟩ (by rw [hsplit]; exact List.perm_middle.symm)
    have hnamed : m.isNamed n.uuid = true := (Node.isNamed_iff_of_ne hne).mpr halias
    have hfound : node? ⟨m :: (front ++ back), []⟩ n.uuid = some m :=
      List.find?_cons_of_pos (p := fun k : Node => k.isNamed n.uuid) hnamed
    rw [hfound] at hfirst
    exact hne (congrArg Node.uuid (Option.some.inj hfirst))
  · intro h k hk
    cases hfound : k.node? n.uuid with
    | none =>
      have hnone := List.find?_eq_none.mp hfound n (hk.mem_iff.mpr hn)
      exact absurd n.isNamed_uuid hnone
    | some m =>
      have hm : m ∈ c.nodes := hk.mem_iff.mp (List.mem_of_find?_eq_some hfound)
      have hnamed : m.isNamed n.uuid = true :=
        List.find?_some (p := fun k : Node => k.isNamed n.uuid) hfound
      by_cases huuid : m.uuid = n.uuid
      · rw [hc.eq_of_uuid hm hn huuid]
      · exact absurd ((Node.isNamed_iff_of_ne huuid).mp hnamed) (h m hm huuid)

end Cluster

/-- The identity of a node of a valid cluster leads to that node just when no node in front of it
has it as its address or host name, and otherwise to the first one that has.  In every order of the
nodes it leads to its own just when no other node has it as its address or host name. -/
theorem lookup_by_uuid
    {c : Cluster}
    (hc : c.Valid)
    {place : Nat}
    {n : Node}
    (hn : c.nodes[place]? = some n) :
    (c.find? n.uuid = some place ↔ ∀ m ∈ c.nodes.take place, ¬ m.HasAlias n.uuid) ∧
      (∃ i ≤ place, c.find? n.uuid = some i ∧
        (i ≠ place → ∃ m, c.nodes[i]? = some m ∧ m.HasAlias n.uuid) ∧
        ∀ m ∈ c.nodes.take i, ¬ m.HasAlias n.uuid) ∧
      ((∀ k : Cluster, k.nodes.Perm c.nodes → k.node? n.uuid = some n) ↔
        ∀ m ∈ c.nodes, m.uuid ≠ n.uuid → ¬ m.HasAlias n.uuid) := by
  obtain ⟨i, hle, hfind, hother, hfront⟩ := Cluster.exists_find?_uuid hc hn
  refine ⟨?_, ⟨i, hle, hfind, hother, hfront⟩,
    Cluster.forall_perm_node?_uuid_iff hc (List.mem_of_getElem? hn)⟩
  constructor
  · intro hplace
    cases hfind.symm.trans hplace
    exact hfront
  · intro hnone
    by_cases hi : i = place
    · rw [hfind, hi]
    · obtain ⟨m, hm, halias⟩ := hother hi
      obtain ⟨hlt, hmi⟩ := List.getElem?_eq_some_iff.mp hm
      have hmem : m ∈ c.nodes.take place :=
        List.mem_take_iff_getElem.mpr ⟨i, by omega, hmi⟩
      exact absurd halias (hnone m hmem)

/-- A node in front of one whose host name is its identity is found, though not in every order. -/
theorem lookup_by_uuid_in_front :
    let b : Node := ⟨"b", .v4 0x01010102, 2, "", 0.0, []⟩
    let a : Node := ⟨"a", .v4 0x01010101, 1, "b", 0.0, []⟩
    let c : Cluster := ⟨[b, a], []⟩
    c.Valid ∧ c.nodes[0]? = some b ∧ c.find? b.uuid = some 0 ∧
      ¬ ∀ k : Cluster, k.nodes.Perm c.nodes → k.node? b.uuid = some b := by
  intro b a c
  have hvalid : c.Valid := by decide +kernel
  have hfirst : c.nodes[0]? = some b := rfl
  obtain ⟨hplace, -, horder⟩ := lookup_by_uuid hvalid hfirst
  refine ⟨hvalid, hfirst, hplace.mpr (by simp), ?_⟩
  intro h
  exact horder.mp h a (by simp [c]) (by decide) (.inr rfl)

/-- The identity of a node leads to another node in front of it, whose host name it is. -/
theorem lookup_by_uuid_of_hostname :
    let a : Node := ⟨"a", .v4 0x01010101, 1, "b", 0.0, []⟩
    let b : Node := ⟨"b", .v4 0x01010102, 2, "", 0.0, []⟩
    let c : Cluster := ⟨[a, b], []⟩
    Cluster.read (.map [(.text "nodes", .list
      [.map [(.text "uuid", .text "a"), (.text "ip", .text "1.1.1.1"), (.text "port", .int 1),
         (.text "hostname", .text "b")],
       .map [(.text "uuid", .text "b"), (.text "ip", .text "1.1.1.2"), (.text "port", .int 2)]])]) =
        .ok c ∧
      c.nodes[1]? = some b ∧ c.find? b.uuid = some 0 ∧ c.node? b.uuid ≠ some b := by
  intro a b c
  have hnode : c.node? b.uuid = some a := rfl
  refine ⟨rfl, rfl, rfl, ?_⟩
  intro h
  have hsame : a = b := Option.some.inj (hnode.symm.trans h)
  exact absurd (congrArg Node.uuid hsame) (by decide)

end Storage
end Rebalance
