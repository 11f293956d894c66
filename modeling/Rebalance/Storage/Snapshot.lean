import Rebalance.Run.World
import Rebalance.Storage.Cluster
import Rebalance.Text.Wrap
import Rebalance.Yaml.Value

/-!
# Cluster snapshots

A snapshot is a JSON or YAML file, told apart by the end of its name; it holds either the entries
of a cluster or the bare list of its nodes.
-/

namespace Rebalance
namespace Storage
namespace Snapshot

/-- The formats of a snapshot. -/
inductive Format
  | json
  | yaml
deriving DecidableEq, Repr

/-- The format of a file by the end of its name. -/
def formatOf? (p : Files.Path) : Option Format :=
  if p.suffix = ".json" then some .json
  else if p.suffix = ".yaml" ∨ p.suffix = ".yml" then some .yaml
  else none

/-- The value of a JSON file. -/
def parseJson (p : Files.Path) (content : List Nat) : Except Failure Data :=
  match Text.decode? content with
  | .error e => .error (.badEncoding (.utf8 e))
  | .ok cs =>
    match Json.read (Text.heldChars (Text.unifyBreaks cs)) with
    | .ok d => .ok d
    | .error (.malformed _ _) => .error (.brokenSnapshot p false)
    | .error fault => .error (.json fault)

/-- The value of a YAML file. -/
def parseYaml (p : Files.Path) (content : List Nat) : Except Failure Data :=
  match Yaml.read (.ofPieces (.ofBytes content)) with
  | .ok d => .ok d
  | .error .malformed => .error (.brokenSnapshot p true)
  | .error fault => .error (.yaml fault)

/-- The value of a file. -/
def parse (p : Files.Path) : Format → List Nat → Except Failure Data
  | .json => parseJson p
  | .yaml => parseYaml p

/-- The content of a file. -/
def content (files : Files.Tree) (p : Files.Path) : Except Failure (List Nat) :=
  match p.check with
  | .error f => .error f
  | .ok () =>
    match files.readFile p with
    | .ok bytes => .ok bytes
    | .error .notFound => .error (.unreadableSnapshot p .notFound)
    | .error .isFolder => .error (.unreadableSnapshot p .isFolder)
    | .error fault => .error (.unusablePath p fault)

/-- The value of a snapshot, which has to be present. -/
def value (files : Files.Tree) (p : Files.Path) : Except Failure Data := do
  match formatOf? p with
  | none => .error (.unknownFormat p)
  | some format =>
    let bytes ← content files p
    let d ← parse p format bytes
    if d.isPresent then return d else .error (.emptySnapshot p)

/-- Whether a value is a text. -/
def isText : Data → Bool
  | .text _ => true
  | _ => false

/-- The cluster that a value describes. -/
def clusterOf (d : Data) : Except Failure Cluster :=
  let checked : Except Failure (Schema.Checked Cluster) :=
    match d with
    | .map es => if es.all fun e => isText e.1 then .ok (Cluster.readEntries es)
      else .error .keyNotText
    | d => .ok (Cluster.readEntries [(.text "nodes", d)])
  match checked with
  | .error f => .error f
  | .ok (.ok c) => .ok c
  | .ok (.wrong issues) => .error (.invalidSnapshot issues)

/-- Whether a failure is one of those that a snapshot is expected to have. -/
def isExpected : Failure → Bool
  | .noSnapshot | .unknownFormat _ | .unreadableSnapshot _ _ | .brokenSnapshot _ _
  | .emptySnapshot _ | .invalidSnapshot _ => true
  | _ => false

/-- Fails, and logs a failure that is expected. -/
def refuse {α : Type} (f : Failure) : Act World α :=
  if isExpected f then Act.abort f else Act.fail f

/-- Loads a cluster. -/
def load (uri : Option Files.Path) : Act World Cluster := do
  match uri with
  | none => refuse .noSnapshot
  | some p =>
    Act.log .info ("Loading cluster snapshot from file: " ++ p.text)
    let w ← Act.get
    match value w.files p >>= clusterOf with
    | .error f => refuse f
    | .ok c =>
      Act.log .info ("Cluster snapshot loaded. Nodes: " ++ Decimal.intText c.nodes.length)
      return c

end Snapshot
end Storage
end Rebalance
