import Rebalance.Duplicates
import Rebalance.Storage.Volume

/-!
# Storage nodes

The volume sets of a node are kept under their storage types, in the order they were given, and no
two volumes of a node share an identity.
-/

namespace Rebalance
namespace Storage

/-- A storage node. -/
structure Node where
  uuid : String
  ip : Net.Address
  port : Nat
  hostname : String
  dataDensity : Float
  volumeSets : List (String × VolumeSet)

namespace Node

/-- All volumes of a node, set by set. -/
def volumes (n : Node) : List Volume :=
  n.volumeSets.flatMap fun s => s.2.volumes

/-- Where to reach a node. -/
def address (n : Node) : String :=
  n.ip.endpoint n.port

/-- Whether a text names a node, by its address, its host name or its identity. -/
def isNamed (n : Node) (name : String) : Bool :=
  name == n.ip.text || name == n.hostname || name == n.uuid

/-- The message about a set under a key that is not its storage type. -/
def keyMessage (key : String) (s : VolumeSet) : String :=
  "Volume set with key " ++ key ++ " has storage type " ++ s.storageType

/-- Refuses a node with a set under a wrong key or with two volumes of one identity. -/
def checkVolumes (n : Node) : Schema.Checked Node :=
  match n.volumeSets.find? fun s => decide (s.1 ≠ s.2.storageType) with
  | some s => .flaw (.rule (keyMessage s.1 s.2))
  | none =>
    match Duplicates.ofNames? "uuid" (n.volumes.map Volume.uuid) with
    | some text => .flaw (.rule text)
    | none => .ok n

open Schema in
/-- Reads a node. -/
def read : Data → Checked Node :=
  readEntity "DataNode" fun es =>
    (Node.mk
      <$> required es "uuid" readName
      <*> required es "ip" readAddress
      <*> required es "port" readPort
      <*> optional es "hostname" "" readText
      <*> optional es "data_density" 0.0 readNumber
      <*> optional es "volume_sets" [] (readMap readText VolumeSet.read)).andThen checkVolumes

/-- A node as a document. -/
def toData (n : Node) : Data :=
  .map
    [(.text "uuid", .text n.uuid),
     (.text "ip", .text n.ip.text),
     (.text "port", .int n.port),
     (.text "hostname", .text n.hostname),
     (.text "data_density", .float n.dataDensity),
     (.text "volume_sets", .map (n.volumeSets.map fun s => (.text s.1, s.2.toData)))]

/-- The text of a node's document. -/
def document (n : Node) : Except Failure String :=
  (Json.document n.toData).mapError .unwritable

/-- The node with every volume changed by a function. -/
def mapVolumes (f : Volume → Volume) (n : Node) : Node :=
  { n with
    volumeSets := n.volumeSets.map fun s => (s.1, { s.2 with volumes := s.2.volumes.map f }) }

end Node
end Storage
end Rebalance
