import Rebalance.Yaml.Kind
import Rebalance.Yaml.Node

/-!
# Documents as graphs

The nodes of a document as a graph.  Every node has a number, and a list or map gives the numbers
of the nodes in it, so a reference leads to the very node it names, which may be one around it.

* `Node.kind`: the kind of a node.  A tag names it; a node without one is a text, a list or a map,
  but for a plain scalar, whose kind is that of its text.
* `Graph.ofNode`: the graph of a node, and the number of the node itself.
-/

namespace Rebalance
namespace Yaml

/-! ## Kinds of nodes -/

/-- The kind of a node. -/
def Node.kind : Node → Kind
  | .scalar tag codes isPlain =>
    match tag with
    | some t =>
      if t = "!" then Kind.ofSpelling (charsOf codes) else Kind.ofTag t
    | none => if isPlain then Kind.ofSpelling (charsOf codes) else .text
  | .list tag _ => if tag = none ∨ tag = some "!" then .list else Kind.ofTag (tag.getD "")
  | .map tag _ => if tag = none ∨ tag = some "!" then .map else Kind.ofTag (tag.getD "")
  | .named _ n => n.kind
  | .reference _ => .unknown

/-- Whether a value of this kind is a scalar. -/
def Kind.isScalar (k : Kind) : Bool :=
  k == .null || k == .truth || k == .whole || k == .real || k == .time || k == .text || k == .bytes

/-- Whether a value of this kind holds other values. -/
def Kind.isCollection (k : Kind) : Bool :=
  k == .list || k == .map || k == .members || k == .pairs || k == .orderedPairs

/-! ## Graphs -/

/-- A node of a graph, by its kind and the numbers of the nodes in it. -/
inductive Vertex
  | scalar (kind : Kind) (codes : List Nat)
  | list (kind : Kind) (items : List Nat)
  | map (kind : Kind) (entries : Array (Nat × Nat))
deriving Repr

instance : Inhabited Vertex := ⟨.scalar .unknown []⟩

namespace Vertex

/-- The kind of a node. -/
def kind : Vertex → Kind
  | .scalar k _ | .list k _ | .map k _ => k

/-- A node with another kind. -/
def withKind (k : Kind) : Vertex → Vertex
  | .scalar _ codes => .scalar k codes
  | .list _ items => .list k items
  | .map _ entries => .map k entries

/-- The entries of a map. -/
def entries : Vertex → Array (Nat × Nat)
  | .map _ es => es
  | _ => #[]

/-- A map with other entries. -/
def withEntries (es : Array (Nat × Nat)) : Vertex → Vertex
  | .map k _ => .map k es
  | v => v

end Vertex

/-- The nodes of a document, by their numbers. -/
abbrev Graph := Array Vertex

namespace Graph

/-- The node of a number. -/
def vertex (g : Graph) (i : Nat) : Vertex :=
  g[i]?.getD default

/-- The kind of the node of a number. -/
def kindAt (g : Graph) (i : Nat) : Kind :=
  (g.vertex i).kind

/-- The entries of the map of a number. -/
def entriesAt (g : Graph) (i : Nat) : Array (Nat × Nat) :=
  (g.vertex i).entries

/-- A graph with another kind for one node. -/
def setKind (g : Graph) (i : Nat) (k : Kind) : Graph :=
  g.modify i (Vertex.withKind k)

/-- A graph with other entries for one map. -/
def setEntries (g : Graph) (i : Nat) (es : Array (Nat × Nat)) : Graph :=
  g.modify i (Vertex.withEntries es)

/-- A graph that grows, and the numbers of the nodes that have names. -/
structure Growth where
  graph : Graph
  names : List (List Char × Nat)

namespace Growth

/-- One more node, which may have a name. -/
def add (s : Growth) (name : Option (List Char)) (v : Vertex) : Growth :=
  let names := match name with
    | some n => (n, s.graph.size) :: s.names
    | none => s.names
  ⟨s.graph.push v, names⟩

/-- The number of the node of a name. -/
def find (s : Growth) (name : List Char) : Nat :=
  ((s.names.find? fun e => e.1 == name).map Prod.snd).getD s.graph.size

/-- A growing graph with another node for a number. -/
def set (s : Growth) (i : Nat) (v : Vertex) : Growth :=
  { s with graph := s.graph.set! i v }

end Growth

mutual

/-- Adds a node and the nodes in it.  A list or map has its number and its name before the nodes in
it have theirs. -/
def grow (s : Growth) (name : Option (List Char)) : Node → Nat × Growth
  | .reference n => (s.find n, s)
  | .named n node => grow s (some n) node
  | .scalar tag codes isPlain =>
    (s.graph.size, s.add name (.scalar (Node.scalar tag codes isPlain).kind codes))
  | .list tag items =>
    let kind := (Node.list tag items).kind
    let here := s.graph.size
    let (is, s) := growItems (s.add name (.list kind [])) items
    (here, s.set here (.list kind is))
  | .map tag entries =>
    let kind := (Node.map tag entries).kind
    let here := s.graph.size
    let (es, s) := growEntries (s.add name (.map kind #[])) entries
    (here, s.set here (.map kind es.toArray))

/-- Adds the items of a list. -/
def growItems (s : Growth) : List Node → List Nat × Growth
  | [] => ([], s)
  | n :: rest =>
    let (i, s) := grow s none n
    let (is, s) := growItems s rest
    (i :: is, s)

/-- Adds the entries of a map. -/
def growEntries (s : Growth) : List (Node × Node) → List (Nat × Nat) × Growth
  | [] => ([], s)
  | (k, v) :: rest =>
    let (i, s) := grow s none k
    let (j, s) := grow s none v
    let (es, s) := growEntries s rest
    ((i, j) :: es, s)

end

/-- The graph of a node, and the number of the node itself. -/
def ofNode (n : Node) : Graph × Nat :=
  let (i, s) := grow ⟨#[], []⟩ none n
  (s.graph, i)

end Graph
end Yaml
end Rebalance
