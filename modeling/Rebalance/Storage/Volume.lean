import Rebalance.Decimal.Binary
import Rebalance.Json.Writer
import Rebalance.Run.Failure
import Rebalance.Schema.Record
import Rebalance.Schema.Scalar

/-!
# Volumes

Volumes, the disks of a storage node, and the sets that group volumes of one storage type.
-/

namespace Rebalance
namespace Storage

/-- A disk: its identity, its metrics in bytes, its flags, and where it is mounted. -/
structure Volume where
  uuid : String
  storageType : String
  capacity : Nat
  used : Nat
  reserved : Nat
  failed : Bool
  readOnly : Bool
  skip : Bool
  transient : Bool
  path : String
deriving DecidableEq, Repr

namespace Volume

/-- The bytes the balancer may use. -/
def effectiveCapacity (v : Volume) : Nat :=
  v.capacity - v.reserved

/-- The bytes still free. -/
def freeSpace (v : Volume) : Nat :=
  v.effectiveCapacity - v.used

/-- The used part of the effective capacity, zero when there is none; `none` when the quotient lies
beyond the doubles. -/
def usedRatio? (v : Volume) : Option Float :=
  if v.effectiveCapacity = 0 then some 0.0
  else Decimal.quotient? v.used v.effectiveCapacity

open Schema in
/-- Reads a volume. -/
def read : Data → Checked Volume :=
  readEntity "Volume" fun es =>
    Volume.mk
      <$> required es "uuid" readName
      <*> required es "storage_type" readText
      <*> required es "capacity" readCount
      <*> optional es "used" 0 readCount
      <*> optional es "reserved" 0 readCount
      <*> optional es "failed" false readBool
      <*> optional es "read_only" false readBool
      <*> optional es "skip" false readBool
      <*> optional es "transient" false readBool
      <*> optional es "path" "" readText

/-- A volume as a document. -/
def toData (v : Volume) : Data :=
  .map
    [(.text "uuid", .text v.uuid),
     (.text "storage_type", .text v.storageType),
     (.text "capacity", .int v.capacity),
     (.text "used", .int v.used),
     (.text "reserved", .int v.reserved),
     (.text "failed", .bool v.failed),
     (.text "read_only", .bool v.readOnly),
     (.text "skip", .bool v.skip),
     (.text "transient", .bool v.transient),
     (.text "path", .text v.path)]

/-- The text of a volume's document. -/
def document (v : Volume) : Except Failure String :=
  (Json.document v.toData).mapError .unwritable

end Volume

/-- The volumes of one storage type on a node. -/
structure VolumeSet where
  storageType : String
  volumes : List Volume
deriving DecidableEq, Repr

namespace VolumeSet

/-- The message about a volume of another storage type than its set. -/
def strangerMessage (s : VolumeSet) (v : Volume) : String :=
  "Volume " ++ v.uuid ++ " has storage type " ++ v.storageType ++ " but belongs to the "
    ++ s.storageType ++ " volume set"

/-- Refuses a set with a volume of another storage type. -/
def checkTypes (s : VolumeSet) : Schema.Checked VolumeSet :=
  match s.volumes.find? fun v => decide (v.storageType ≠ s.storageType) with
  | some v => .flaw (.rule (s.strangerMessage v))
  | none => .ok s

open Schema in
/-- Reads a volume set. -/
def read : Data → Checked VolumeSet :=
  readEntity "VolumeSet" fun es =>
    (VolumeSet.mk
      <$> required es "storage_type" readText
      <*> optional es "volumes" [] (readList Volume.read)).andThen checkTypes

/-- A volume set as a document. -/
def toData (s : VolumeSet) : Data :=
  .map
    [(.text "storage_type", .text s.storageType),
     (.text "volumes", .list (s.volumes.map Volume.toData))]

/-- The text of a volume set's document. -/
def document (s : VolumeSet) : Except Failure String :=
  (Json.document s.toData).mapError .unwritable

end VolumeSet
end Storage
end Rebalance
