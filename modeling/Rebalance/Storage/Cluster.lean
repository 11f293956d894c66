import Rebalance.Storage.Node

/-!
# Clusters

A cluster holds its nodes and, beside them, the scope of the planner: the nodes a plan is computed
for.  A node in scope is usually one of the cluster's own, and then follows its changes; a snapshot
may also bring nodes of its own for the scope.  Documents leave the scope out.
-/

namespace Rebalance
namespace Storage

/-- A node in scope: a node of the cluster, by its place, or a node apart from it. -/
inductive InScope
  | member (place : Nat)
  | apart (node : Node)

/-- The nodes of a cluster and the scope of the planner. -/
structure Cluster where
  nodes : List Node
  scope : List InScope

namespace Cluster

/-- A cluster without nodes. -/
def empty : Cluster :=
  ⟨[], []⟩

/-- The place of the first node that a text names. -/
def find? (c : Cluster) (name : String) : Option Nat :=
  c.nodes.findIdx? fun n => n.isNamed name

/-- The first node that a text names. -/
def node? (c : Cluster) (name : String) : Option Node :=
  c.nodes.find? fun n => n.isNamed name

/-- The cluster with its scope restricted to some of its nodes. -/
def withScope (c : Cluster) (places : List Nat) : Cluster :=
  { c with scope := places.map .member }

/-- The node that an entry of the scope stands for. -/
def resolve? (c : Cluster) : InScope → Option Node
  | .member place => c.nodes[place]?
  | .apart node => some node

/-- The nodes in scope. -/
def scopeNodes (c : Cluster) : List Node :=
  c.scope.filterMap c.resolve?

/-- The cluster with the node at one place changed. -/
def updateNode (c : Cluster) (place : Nat) (f : Node → Node) : Cluster :=
  { c with nodes := c.nodes.modify place f }

/-- Refuses a cluster with two nodes of one identity. -/
def checkNodes (c : Cluster) : Schema.Checked Cluster :=
  match Duplicates.ofNames? "uuid" (c.nodes.map Node.uuid) with
  | some text => .flaw (.rule text)
  | none => .ok c

open Schema in
/-- Reads a cluster from the entries of a document. -/
def readEntries (es : List (Data × Data)) : Checked Cluster :=
  (Cluster.mk
    <$> optional es "nodes" [] (readList Node.read)
    <*> optional es "nodes_to_process" []
      fun d => (readList Node.read d).map (List.map .apart)).andThen checkNodes

/-- Reads a cluster. -/
def read : Data → Schema.Checked Cluster :=
  Schema.readEntity "Cluster" readEntries

/-- A cluster as a document. -/
def toData (c : Cluster) : Data :=
  .map [(.text "nodes", .list (c.nodes.map Node.toData))]

/-- The text of a cluster's document. -/
def document (c : Cluster) : Except Failure String :=
  (Json.document c.toData).mapError .unwritable

end Cluster
end Storage
end Rebalance
