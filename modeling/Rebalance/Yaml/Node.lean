import Rebalance.Yaml.Token.Lexer

/-!
# The nodes of a YAML text

The nodes of a YAML text: scalars, lists and maps as they are written, with their tags.  A name
given to a node with `&` stays on the node, and `*` leaves a reference to it.

Each kind of collection is read by one function.  They take fuel, a few units for each token, and
the depth of the collections around them.
-/

namespace Rebalance
namespace Yaml

/-- A node. -/
inductive Node
  | scalar (tag : Option String) (codes : List Nat) (isPlain : Bool)
  | list (tag : Option String) (items : List Node)
  | map (tag : Option String) (entries : List (Node × Node))
  | named (name : List Char) (node : Node)
  | reference (name : List Char)

instance : Inhabited Node := ⟨.list none []⟩

/-- The node where a text has none. -/
def Node.absent : Node :=
  .scalar none [] true

/-- How deep collections may nest. -/
def depthLimit : Nat :=
  488

/-- How deep a list between brackets may stand in collections. -/
def bracketLimit : Nat :=
  491

/-- How many tokens are read ahead of a bracket that might begin a key. -/
def lookahead : Nat :=
  1024

/-- What the readers of nodes need to know: the tag handles of the document, and the fault, if
any, that ended the tokens. -/
structure Scope where
  handles : List (List Char × List Char)
  stop : Option Fault
deriving DecidableEq, Repr

/-- The handles every document has. -/
def standardHandles : List (List Char × List Char) :=
  [(['!'], ['!']), (['!', '!'], "tag:yaml.org,2002:".toList)]

/-- A tag in full. -/
def Scope.resolve (s : Scope) (t : Tag) : Except Fault String :=
  match t.handle with
  | none => .ok (String.ofList t.suffix)
  | some h =>
    match s.handles.find? fun e => e.1 == h with
    | some e => .ok (String.ofList (e.2 ++ t.suffix))
    | none => .error .malformed

/-- A tag in full, if there is one. -/
def Scope.resolveAll (s : Scope) : Option Tag → Except Fault (Option String)
  | none => .ok none
  | some t => (s.resolve t).map some

/-- The fault of tokens that do not fit. -/
def Scope.fault (s : Scope) : List Token → Fault
  | [] => s.stop.getD .malformed
  | _ :: _ => .malformed

/-- The name and tag in front of a node, in either order. -/
def takeProperties : List Token → Option (List Char) × Option Tag × List Token
  | .anchor n :: .tag t :: rest => (some n, some t, rest)
  | .anchor n :: rest => (some n, none, rest)
  | .tag t :: .anchor n :: rest => (some n, some t, rest)
  | .tag t :: rest => (none, some t, rest)
  | rest => (none, none, rest)

/-- A node with a name, if it has one. -/
def Node.withName (n : Node) : Option (List Char) → Node
  | some name => .named name n
  | none => n

/-- Whether an item of a block list is left out before this token. -/
def endsItem : List Token → Bool
  | .entry :: _ | .blockEnd :: _ => true
  | _ => false

/-- Whether an item of a list at the indentation of its map is left out before this token. -/
def endsDangling : List Token → Bool
  | .entry :: _ | .key :: _ | .value :: _ | .blockEnd :: _ => true
  | _ => false

/-- Whether a key or value of a block map is left out before this token. -/
def endsBlockPart : List Token → Bool
  | .key :: _ | .value :: _ | .blockEnd :: _ => true
  | _ => false

/-- Whether a value in a list between brackets is left out before this token. -/
def endsListPart : List Token → Bool
  | .comma :: _ | .closeList :: _ => true
  | _ => false

/-- Whether a value in a map between braces is left out before this token. -/
def endsMapPart : List Token → Bool
  | .comma :: _ | .closeMap :: _ => true
  | _ => false

/-- Whether a value follows. -/
def startsValue : List Token → Bool
  | .value :: _ => true
  | _ => false

/-- The tokens after the comma that separates two parts, which the first part does not need. -/
def afterComma (s : Scope) (isFirst : Bool) : List Token → Except Fault (List Token)
  | .comma :: rest => if isFirst then .ok (.comma :: rest) else .ok rest
  | ts => if isFirst then .ok ts else .error (s.fault ts)

/-- Whether a collection begins with one more bracket or brace than are read ahead, or with a key
between quotes. -/
def opensInCall : List Token → Bool
  | .key :: .scalar _ isPlain :: _ => !isPlain
  | ts => decide (lookahead < (ts.takeWhile fun t => t == .openList || t == .openMap).length)

/-- The fault of a collection that is nested too deep; its tokens tell where that is found out. -/
def depthFault (ts : List Token) : Fault :=
  .tooDeep (opensInCall ts)

/-- A node and the tokens after it. -/
abbrev Parsed (α : Type) := Except Fault (α × List Token)

/-- A part of a collection, which may be left out. -/
def part (isAbsent : Bool) (read : List Token → Parsed Node) (ts : List Token) : Parsed Node :=
  if isAbsent then .ok (.absent, ts) else read ts

/-- The value of an entry, which may be left out together with its mark. -/
def valuePart (ends : List Token → Bool) (read : List Token → Parsed Node) :
    List Token → Parsed Node
  | .value :: rest => part (ends rest) read rest
  | rest => .ok (.absent, rest)

mutual

/-- Reads a node.  Block collections are possible where `inBlock` says so, and a list at the
indentation of its map where `mayDangle` does. -/
def node (s : Scope) (inBlock mayDangle : Bool) :
    (fuel depth : Nat) → List Token → Parsed Node
  | 0, _, _ => .error .malformed
  | fuel + 1, depth, ts =>
    match ts with
    | .alias n :: rest => .ok (.reference n, rest)
    | ts =>
      let (name, written, rest) := takeProperties ts
      match s.resolveAll written with
      | .error e => .error e
      | .ok tag =>
        match content s inBlock mayDangle fuel depth tag rest with
        | .ok (some n, rest) => .ok (n.withName name, rest)
        | .error e => .error e
        | .ok (none, rest) =>
          if (rest.isEmpty ∧ s.stop.isSome) ∨ (name.isNone ∧ written.isNone) then
            .error (s.fault rest)
          else .ok ((Node.scalar tag [] (tag.isNone ∨ tag = some "!")).withName name, rest)
termination_by structural fuel => fuel

/-- Reads what follows the name and tag of a node, if anything does. -/
def content (s : Scope) (inBlock mayDangle : Bool) :
    (fuel depth : Nat) → Option String → List Token → Parsed (Option Node)
  | 0, _, _, _ => .error .malformed
  | fuel + 1, depth, tag, ts =>
    match ts with
    | .scalar codes isPlain :: rest => .ok (some (.scalar tag codes isPlain), rest)
    | .openList :: rest =>
      match flowItems s true fuel (depth + 1) rest with
      | .ok (ns, rest) => .ok (some (.list tag ns), rest)
      | .error e => .error e
    | .openMap :: rest =>
      match flowEntries s true fuel (depth + 1) rest with
      | .ok (es, rest) => .ok (some (.map tag es), rest)
      | .error e => .error e
    | .entry :: rest =>
      if mayDangle then
        match danglingItems s fuel (depth + 1) (.entry :: rest) with
        | .ok (ns, rest) => .ok (some (.list tag ns), rest)
        | .error e => .error e
      else .ok (none, ts)
    | .blockSequence :: rest =>
      if inBlock then
        match blockItems s fuel (depth + 1) rest with
        | .ok (ns, rest) => .ok (some (.list tag ns), rest)
        | .error e => .error e
      else .ok (none, ts)
    | .blockMapping :: rest =>
      if inBlock then
        match blockEntries s fuel (depth + 1) rest with
        | .ok (es, rest) => .ok (some (.map tag es), rest)
        | .error e => .error e
      else .ok (none, ts)
    | ts => .ok (none, ts)
termination_by structural fuel => fuel

/-- Reads the items of a block list and its end. -/
def blockItems (s : Scope) : (fuel depth : Nat) → List Token → Parsed (List Node)
  | 0, _, _ => .error .malformed
  | fuel + 1, depth, ts =>
    if depthLimit < depth then .error (depthFault ts)
    else
      match ts with
      | .blockEnd :: rest => .ok ([], rest)
      | .entry :: rest =>
        match part (endsItem rest) (node s true false fuel depth) rest with
        | .error e => .error e
        | .ok (n, rest) =>
          match blockItems s fuel depth rest with
          | .ok (ns, rest) => .ok (n :: ns, rest)
          | .error e => .error e
      | ts => .error (s.fault ts)
termination_by structural fuel => fuel

/-- Reads the items of a list at the indentation of its map. -/
def danglingItems (s : Scope) : (fuel depth : Nat) → List Token → Parsed (List Node)
  | 0, _, _ => .error .malformed
  | fuel + 1, depth, ts =>
    if depthLimit < depth then .error (depthFault ts)
    else
      match ts with
      | .entry :: rest =>
        match part (endsDangling rest) (node s true false fuel depth) rest with
        | .error e => .error e
        | .ok (n, rest) =>
          match danglingItems s fuel depth rest with
          | .ok (ns, rest) => .ok (n :: ns, rest)
          | .error e => .error e
      | ts => .ok ([], ts)
termination_by structural fuel => fuel

/-- Reads the entries of a block map and its end. -/
def blockEntries (s : Scope) : (fuel depth : Nat) → List Token → Parsed (List (Node × Node))
  | 0, _, _ => .error .malformed
  | fuel + 1, depth, ts =>
    if depthLimit < depth then .error (depthFault ts)
    else
      match ts with
      | .blockEnd :: rest => .ok ([], rest)
      | .key :: rest =>
        match part (endsBlockPart rest) (node s true true fuel depth) rest with
        | .error e => .error e
        | .ok (k, rest) =>
          match valuePart endsBlockPart (node s true true fuel depth) rest with
          | .error e => .error e
          | .ok (v, rest) =>
            match blockEntries s fuel depth rest with
            | .ok (es, rest) => .ok ((k, v) :: es, rest)
            | .error e => .error e
      | ts => .error (s.fault ts)
termination_by structural fuel => fuel

/-- Reads the items of a list between brackets and the closing bracket.  An item may be a single
entry of a map. -/
def flowItems (s : Scope) (isFirst : Bool) : (fuel depth : Nat) → List Token → Parsed (List Node)
  | 0, _, _ => .error .malformed
  | fuel + 1, depth, ts =>
    if bracketLimit < depth then .error (depthFault ts)
    else
      match ts with
      | .closeList :: rest => .ok ([], rest)
      | ts =>
        match afterComma s isFirst ts with
        | .error e => .error e
        | .ok (.closeList :: rest) => .ok ([], rest)
        | .ok (.key :: rest) =>
          match part (startsValue rest || endsListPart rest) (node s false false fuel (depth + 1))
              rest with
          | .error e => .error e
          | .ok (k, rest) =>
            match valuePart endsListPart (node s false false fuel (depth + 1)) rest with
            | .error e => .error e
            | .ok (v, rest) =>
              match flowItems s false fuel depth rest with
              | .ok (ns, rest) => .ok (.map none [(k, v)] :: ns, rest)
              | .error e => .error e
        | .ok rest =>
          match node s false false fuel depth rest with
          | .error e => .error e
          | .ok (n, rest) =>
            match flowItems s false fuel depth rest with
            | .ok (ns, rest) => .ok (n :: ns, rest)
            | .error e => .error e
termination_by structural fuel => fuel

/-- Reads the entries of a map between braces and the closing brace. -/
def flowEntries (s : Scope) (isFirst : Bool) :
    (fuel depth : Nat) → List Token → Parsed (List (Node × Node))
  | 0, _, _ => .error .malformed
  | fuel + 1, depth, ts =>
    if depthLimit < depth then .error (depthFault ts)
    else
      match ts with
      | .closeMap :: rest => .ok ([], rest)
      | ts =>
        match afterComma s isFirst ts with
        | .error e => .error e
        | .ok (.closeMap :: rest) => .ok ([], rest)
        | .ok (.key :: rest) =>
          match part (startsValue rest || endsMapPart rest) (node s false false fuel depth)
              rest with
          | .error e => .error e
          | .ok (k, rest) =>
            match valuePart endsMapPart (node s false false fuel depth) rest with
            | .error e => .error e
            | .ok (v, rest) =>
              match flowEntries s false fuel depth rest with
              | .ok (es, rest) => .ok ((k, v) :: es, rest)
              | .error e => .error e
        | .ok rest =>
          match node s false false fuel depth rest with
          | .error e => .error e
          | .ok (k, rest) =>
            match flowEntries s false fuel depth rest with
            | .ok (es, rest) => .ok ((k, Node.absent) :: es, rest)
            | .error e => .error e
termination_by structural fuel => fuel

end

/-! ## Documents -/

/-- The directives in front of a document: whether a version was among them, and the handles. -/
def takeDirectives (versioned : Bool) (handles : List (List Char × List Char)) :
    List Token → Parsed (List (List Char × List Char))
  | .version major :: rest =>
    if versioned ∨ major ≠ 1 then .error .malformed else takeDirectives true handles rest
  | .tagHandle h start :: rest =>
    if handles.any fun e => e.1 == h then .error .malformed
    else takeDirectives versioned (handles ++ [(h, start)]) rest
  | .directive :: rest => takeDirectives versioned handles rest
  | rest => .ok (handles ++ standardHandles, rest)

/-- Whether a document that begins with a mark has no content before this token. -/
def endsDocument : List Token → Bool
  | [] | .version _ :: _ | .tagHandle _ _ :: _ | .directive :: _ | .documentStart :: _
  | .documentEnd :: _ => true
  | _ => false

/-- Reads the document that follows its directives and start mark. -/
def markedDocument (stop : Option Fault) (ts : List Token) : Parsed Node :=
  match takeDirectives false [] ts with
  | .error e => .error e
  | .ok (handles, .documentStart :: rest) =>
    if rest.isEmpty ∧ stop.isSome then .error (stop.getD .malformed)
    else if endsDocument rest then .ok (.absent, rest)
    else node ⟨handles, stop⟩ true false (4 * rest.length + 4) 0 rest
  | .ok (_, rest) => .error (if rest.isEmpty then stop.getD .malformed else .malformed)

/-- Whether a document has no start mark. -/
def isBare : List Token → Bool
  | [] | .version _ :: _ | .tagHandle _ _ :: _ | .directive :: _ | .documentStart :: _ => false
  | _ => true

/-- The tokens before the first one that shows a wrong use of a name, if there is one: a reference
to a name that no earlier node has, or a second node of one name, which shows at the token after
the name and the tag.  `names` are the names so far. -/
def beforeBadName? (names : List (List Char)) (repeated : Bool) :
    List Token → Option (List Token)
  | [] => none
  | .tag t :: rest => (beforeBadName? names repeated rest).map (.tag t :: ·)
  | t :: rest =>
    if repeated then some []
    else
      match t with
      | .anchor n =>
        (beforeBadName? (n :: names) (names.contains n) rest).map (.anchor n :: ·)
      | .alias n =>
        if names.contains n then (beforeBadName? names false rest).map (.alias n :: ·)
        else some []
      | t => (beforeBadName? names false rest).map (t :: ·)

/-- The fault of what follows a document, which can only be the end of the text. -/
def trailingFault (stop : Option Fault) (ts : List Token) : Option Fault :=
  match ts.dropWhile (· == .documentEnd) with
  | [] => stop
  | ts =>
    match takeDirectives false [] ts with
    | .ok (_, []) => some (stop.getD .malformed)
    | _ => some .malformed

/-- The only document of a text, if it has one. -/
def documentOf (ts : List Token) (stop : Option Fault) : Except Fault (Option Node) :=
  let (ts, stop) : List Token × Option Fault :=
    match beforeBadName? [] false ts with
    | some kept => (kept, some .malformed)
    | none => (ts, stop)
  let first : Except Fault (Option Node × List Token) :=
    if isBare ts then
      (node ⟨standardHandles, stop⟩ true false (4 * ts.length + 4) 0 ts).map
        fun (n, ts) => (some n, ts)
    else
      match ts.dropWhile (· == .documentEnd) with
      | [] => (match stop with
        | some e => .error e
        | none => .ok (none, []))
      | ts => (markedDocument stop ts).map fun (n, ts) => (some n, ts)
  match first with
  | .error e => .error e
  | .ok (n, rest) =>
    match trailingFault stop rest with
    | some e => .error e
    | none => .ok n

end Yaml
end Rebalance
