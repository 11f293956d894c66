import Rebalance.Net.Client
import Rebalance.Storage.Cluster

/-!
# Paths for the volumes of a node

A volume the map knows gets its path, the empty one too, and any other keeps the path it has.
-/

namespace Rebalance
namespace Storage

/-- A volume with its path from a map. -/
def Volume.located (m : Net.PathMap) (v : Volume) : Volume :=
  match m.get? v.uuid with
  | some path => { v with path := path }
  | none => v

/-- A node with the paths of its volumes from a map. -/
def Node.located (m : Net.PathMap) (n : Node) : Node :=
  n.mapVolumes (Volume.located m)

/-- The records about a map and about the volumes it leaves out. -/
def Node.locatedRecords (m : Net.PathMap) (n : Node) : List Log.Record :=
  ⟨.debug, "Volume paths=" ++ m.toData.quoted⟩
    :: (n.volumes.filter fun v => (m.get? v.uuid).isNone).map fun v =>
      ⟨.debug, "No path found for volume " ++ v.uuid⟩

/-- Gives the volumes of a node their paths, and logs the map. -/
def Node.locate (n : Node) (m : Net.PathMap) : Act World Node := do
  Act.logAll (n.locatedRecords m)
  return n.located m

/-- Asks a node for the paths of its volumes and gives them these paths. -/
def Node.fetchPaths (n : Node) (c : Net.Client) : Act World Node := do
  let m ← c.volumePaths n.address
  n.locate m

end Storage
end Rebalance
