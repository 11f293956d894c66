import Rebalance.Text.Pieces
import Rebalance.Yaml.Merge
import Rebalance.Yaml.Token.Lexer

/-!
# The value of a YAML text

A scalar has its value at once; a list or map is empty at first and is filled later, in the order
in which the collections were met, so a fault further out is found before one deeper inside,
wherever they stand.  A node has one value, whatever the number of references to it.

A value may hold itself.  As a value of a document it is unrolled `unrolledDepth` times, which is
deeper than anything that is read from a document.
-/

namespace Rebalance
namespace Yaml

/-- A part of a value: a value without parts, or the collection of a node.  Two values that are no
number are the same key only if they have one origin: the sign `.nan`, or one node. -/
inductive Part
  | plain (d : Data)
  | noNumber (x : Float) (origin : Option Nat)
  | node (number : Nat)

namespace Part

/-- Whether two parts are the same key. -/
def same : Part → Part → Bool
  | .plain d, .plain e => d.same e
  | .noNumber _ a, .noNumber _ b => a == b
  | .node i, .node j => i == j
  | _, _ => false

/-- Whether a part can be a key. -/
def isKey : Part → Bool
  | .node _ => false
  | _ => true

/-- Entries with the value of one key replaced, or with a new entry at the end. -/
def put (key value : Part) : List (Part × Part) → List (Part × Part)
  | [] => [(key, value)]
  | (k, v) :: rest =>
    if k.same key then (k, value) :: rest else (k, v) :: put key value rest

end Part

/-- What the collection of a node holds. -/
inductive Body
  | list (items : List Part)
  | pairs (items : List (Part × Part))
  | map (entries : List (Part × Part))
  | members (items : List Part)

/-- Values in the making: those of the nodes met so far, what their collections hold, and the
collections still to be filled, those met last in front. -/
structure Making where
  graph : Graph
  parts : Array (Option Part)
  bodies : Array Body
  now : List Nat
  later : List Nat

namespace Making

/-- The start of the making. -/
def start (g : Graph) : Making :=
  ⟨g, g.map fun _ => none, g.map fun _ => .list [], [], []⟩

/-- How many maps may stand for one scalar, one inside the other. -/
def standInDepth : Nat :=
  980

/-- The code points of a scalar.  A map with the key `=` stands for the scalar under it. -/
def scalarCodes (g : Graph) : (fuel : Nat) → (number : Nat) → Except Fault (List Nat)
  | 0, _ => .error (.tooDeep false)
  | fuel + 1, i =>
    match g.vertex i with
    | .scalar _ codes => .ok codes
    | .list _ _ => .error .malformed
    | .map _ entries =>
      match entries.find? fun e => g.kindAt e.1 == .standIn with
      | some e => scalarCodes g fuel e.2
      | none => .error .malformed

/-- The value of a scalar of a kind. -/
def scalarValue (kind : Kind) (codes : List Nat) : Except Fault Data :=
  match kind with
  | .null => .ok .null
  | .truth => readTruth codes
  | .whole => readWhole codes
  | .real => readReal codes
  | .time => readTime codes
  | .text => .ok (.text (Text.ofCodes codes))
  | .bytes => readBytes codes
  | _ => .error .malformed

/-- Whether a vertex is a map. -/
def isMap : Vertex → Bool
  | .map _ _ => true
  | _ => false

/-- The value of a node of a scalar kind. -/
def scalarPart (g : Graph) (i : Nat) : Except Fault Part :=
  let v := g.vertex i
  match scalarCodes g standInDepth i with
  | .error e => .error e
  | .ok codes =>
    if v.kind == .time && isMap v then .error .timeOfMap
    else
      match scalarValue v.kind codes with
      | .error e => .error e
      | .ok (.float x) =>
        .ok (if x.isNaN then .noNumber x (if isNanSign codes then none else some i)
          else .plain (.float x))
      | .ok d => .ok (.plain d)

/-- Keeps the value of a node. -/
def keep (m : Making) (i : Nat) (p : Part) : Making :=
  { m with parts := m.parts.set! i (some p) }

/-- The value of a node, which is made if it was not met before. -/
def part (m : Making) (i : Nat) : Except Fault (Part × Making) :=
  match m.parts[i]?.join with
  | some p => .ok (p, m)
  | none =>
    let kind := m.graph.kindAt i
    if kind.isScalar then (scalarPart m.graph i).map fun p => (p, m.keep i p)
    else if kind.isCollection then
      .ok (.node i, { m.keep i (.node i) with later := i :: m.later })
    else .error .malformed

/-- The values of items. -/
def itemParts (m : Making) : List Nat → Except Fault (List Part × Making)
  | [] => .ok ([], m)
  | i :: rest =>
    match m.part i with
    | .error e => .error e
    | .ok (p, m) => (itemParts m rest).map fun (ps, m) => (p :: ps, m)

/-- The values of the entries of a map, after the entries `before`.  A key is checked before its
value is made. -/
def entryParts (m : Making) (before : List (Part × Part)) :
    List (Nat × Nat) → Except Fault (List (Part × Part) × Making)
  | [] => .ok (before, m)
  | (i, j) :: rest =>
    match m.part i with
    | .error e => .error e
    | .ok (k, m) =>
      if !k.isKey then .error .malformed
      else
        match m.part j with
        | .error e => .error e
        | .ok (v, m) => entryParts m (Part.put k v before) rest

/-- The values of items that are maps of a single entry each, as pairs. -/
def pairParts (m : Making) : List Nat → Except Fault (List (Part × Part) × Making)
  | [] => .ok ([], m)
  | i :: rest =>
    match (m.graph.entriesAt i).toList with
    | [(k, v)] =>
      match m.part k with
      | .error e => .error e
      | .ok (k, m) =>
        match m.part v with
        | .error e => .error e
        | .ok (v, m) => (pairParts m rest).map fun (ps, m) => ((k, v) :: ps, m)
    | _ => .error .malformed

/-- Puts what a collection holds into it. -/
def putBody (m : Making) (i : Nat) (b : Body) : Making :=
  { m with bodies := m.bodies.set! i b }

/-- Fills the collection of a map whose merge keys were followed. -/
def fillMap (m : Making) (i : Nat) (kind : Kind) : Except Fault Making :=
  match m.entryParts [] (m.graph.entriesAt i).toList with
  | .error e => .error e
  | .ok (es, m) =>
    .ok (m.putBody i (if kind == .members then .members (es.map Prod.fst) else .map es))

/-- Fills the collection of a node. -/
def fill (m : Making) (i : Nat) : Except Fault Making :=
  match m.graph.kindAt i, m.graph.vertex i with
  | .list, .list _ items => (m.itemParts items).map fun (ps, m) => m.putBody i (.list ps)
  | .pairs, .list _ items | .orderedPairs, .list _ items =>
    (m.pairParts items).map fun (ps, m) => m.putBody i (.pairs ps)
  | kind, .map _ _ =>
    if kind == .map || kind == .members then
      match m.graph.merge i with
      | .error e => .error e
      | .ok g => fillMap { m with graph := g } i kind
    else .error .malformed
  | _, _ => .error .malformed

/-- Fills the collections in the order in which they were met, with fuel for them. -/
def fillAll : (fuel : Nat) → Making → Except Fault Making
  | 0, m => .ok m
  | fuel + 1, m =>
    match m.now with
    | i :: rest =>
      match { m with now := rest }.fill i with
      | .error e => .error e
      | .ok m => fillAll fuel m
    | [] => if m.later.isEmpty then .ok m
      else fillAll fuel { m with now := m.later.reverse, later := [] }

end Making

/-! ## Values of a document -/

/-- A part as a value, where `values` are those of the collections. -/
def Part.toData (values : Array Data) : Part → Data
  | .plain d => d
  | .noNumber x _ => .float x
  | .node i => values[i]?.getD .null

/-- What a collection holds as a value. -/
def Body.toData (values : Array Data) : Body → Data
  | .list ps => .list (ps.map (Part.toData values))
  | .pairs es => .list (es.map fun e => .list [e.1.toData values, e.2.toData values])
  | .map es => .map (es.map fun e => (e.1.toData values, e.2.toData values))
  | .members ps => .set (ps.map (Part.toData values))

/-- How often a value is unrolled. -/
def unrolledDepth : Nat :=
  12

/-- The values of collections, unrolled so many times. -/
def unrolled (bodies : Array Body) : (depth : Nat) → Array Data
  | 0 => bodies.map fun _ => .null
  | depth + 1 =>
    let values := unrolled bodies depth
    bodies.map (Body.toData values)

/-- The value of a node. -/
def valueOf (n : Node) : Except Fault Data :=
  let (g, root) := Graph.ofNode n
  match (Making.start g).part root with
  | .error e => .error e
  | .ok (p, m) =>
    match m.fillAll (2 * g.size + 2) with
    | .error e => .error e
    | .ok m => .ok (p.toData (unrolled m.bodies unrolledDepth))

/-! ## Texts -/

/-- A text as far as it can be looked through, and the fault, if any, of what follows it. -/
structure Source where
  text : List Char
  ending : Option Fault
deriving DecidableEq, Repr

namespace Source

/-- A whole text. -/
def ofText (cs : List Char) : Source :=
  if cs.all isAllowed then ⟨cs, none⟩ else ⟨[], some .malformed⟩

/-- Pieces up to the first one with a character that may not stand in a text, after which `ending`
follows. -/
def ofTexts (ending : Option Fault) : List (List Char) → Source
  | [] => ⟨[], ending⟩
  | t :: rest =>
    if t.all isAllowed then
      let s := ofTexts ending rest
      { s with text := t ++ s.text }
    else ⟨[], some .malformed⟩

/-- A text that arrives in pieces.  The first two are there from the start, and each further one is
looked at only when the text before it is used up. -/
def ofPieces (p : Text.Pieces) : Source :=
  let ending := p.fault.map Fault.unreadable
  match p.texts with
  | first :: second :: rest => ofTexts ending ((first ++ second) :: rest)
  | texts => if ending.isSome then ⟨[], ending⟩ else ofTexts none texts

end Source

/-- The value of a text; a text without a document has none. -/
def read (s : Source) : Except Fault Data :=
  let (ts, stop) := tokens s.text s.ending
  match documentOf ts stop with
  | .error e => .error e
  | .ok none => .ok .null
  | .ok (some n) => valueOf n

end Yaml
end Rebalance
