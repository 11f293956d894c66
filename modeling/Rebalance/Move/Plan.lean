import Rebalance.Size
import Rebalance.Storage.Volume

/-!
# Plans

A plan lists, for one node, the moves of data between its volumes.
-/

namespace Rebalance
namespace Move

open Storage

/-- A single move between two volumes of a node.  A bandwidth or error limit of zero leaves the
choice to the mover. -/
structure Step where
  source : Volume
  destination : Volume
  bytesToMove : Nat
  volumeSet : String
  idealStorage : Float
  tolerancePercent : Nat
  bandwidth : Nat
  maxDiskErrors : Nat

namespace Step

open Schema in
/-- Reads a step. -/
def read : Data → Checked Step :=
  readEntity "Step" fun es =>
    Step.mk
      <$> required es "source_volume" Volume.read
      <*> required es "destination_volume" Volume.read
      <*> required es "bytes_to_move" readCount
      <*> optional es "volume_set_id" "" readText
      <*> optional es "ideal_storage" 0.0 readAmount
      <*> optional es "tolerance_percent" 0 readCount
      <*> optional es "bandwidth" 0 readCount
      <*> optional es "max_disk_errors" 0 readCount

/-- A step as a document. -/
def toData (s : Step) : Data :=
  .map
    [(.text "source_volume", s.source.toData),
     (.text "destination_volume", s.destination.toData),
     (.text "bytes_to_move", .int s.bytesToMove),
     (.text "volume_set_id", .text s.volumeSet),
     (.text "ideal_storage", .float s.idealStorage),
     (.text "tolerance_percent", .int s.tolerancePercent),
     (.text "bandwidth", .int s.bandwidth),
     (.text "max_disk_errors", .int s.maxDiskErrors)]

/-- The text of a step's document. -/
def document (s : Step) : Except Failure String :=
  (Json.document s.toData).mapError .unwritable

/-- The size of a move for human readers. -/
def sizeText? (s : Step) : Option String :=
  Size.text? s.bytesToMove

end Step

/-- The moves that balance a node. -/
structure Plan where
  nodeName : String
  nodeUuid : String
  port : Nat
  timestamp : Time.Moment
  steps : List Step

namespace Plan

open Schema in
/-- Reads a plan.  One without a time was made now. -/
def read (now : Time.Moment) : Data → Checked Plan :=
  readEntity "NodePlan" fun es =>
    Plan.mk
      <$> required es "node_name" readText
      <*> required es "node_uuid" readText
      <*> required es "port" readPort
      <*> optional es "timestamp" now.inUtc readMoment
      <*> optional es "steps" [] (readList Step.read)

/-- A plan as a document. -/
def toData (p : Plan) : Data :=
  .map
    [(.text "node_name", .text p.nodeName),
     (.text "node_uuid", .text p.nodeUuid),
     (.text "port", .int p.port),
     (.text "timestamp", .text (String.ofList p.timestamp.text)),
     (.text "steps", .list (p.steps.map Step.toData))]

/-- The text of a plan's document. -/
def document (p : Plan) : Except Failure String :=
  (Json.document p.toData).mapError .unwritable

end Plan
end Move
end Rebalance
