import Rebalance.Move.Plan
import Rebalance.Run.Failure
import Rebalance.Storage.Cluster

/-!
# Planners

The one that computes its plans looks at each node in scope for the widest gap in use between two
volumes and, when the gap is above the threshold, moves half of the difference.  The other one
always gives the plans it was made with.
-/

namespace Rebalance
namespace Move

open Storage

/-- A source of plans. -/
inductive Planner
  | widestGap
  | fixed (plans : List Plan)

/-- A volume and the part of it that is in use. -/
structure Usage where
  volume : Volume
  ratio : Float

namespace Usage

/-- The usage of a volume. -/
def of (v : Volume) : Except Failure Usage :=
  match v.usedRatio? with
  | some r => .ok ⟨v, r⟩
  | none => .error .ratioTooLarge

/-- Sorted usages with one more, before the first that is not less. -/
def insert (u : Usage) : List Usage → List Usage
  | [] => [u]
  | v :: rest => if u.ratio ≤ v.ratio then u :: v :: rest else v :: insert u rest

/-- Usages from the least to the greatest; equal ones keep their order. -/
def sorted (us : List Usage) : List Usage :=
  us.foldr insert []

end Usage

/-- The issue with a number of bytes below zero. -/
def negativeBytes : Schema.Issue :=
  ⟨[.key "bytes_to_move"], .notAtLeast 0⟩

/-- The move from one volume to another of half of the difference in use. -/
def halfMove (source destination : Volume) : Except Failure Step :=
  let bytes := ((source.used : Int) - (destination.used : Int)).fdiv 2
  if bytes < 0 then .error (.invalidEntity "Step" [negativeBytes])
  else
    .ok
      { source := source
        destination := destination
        bytesToMove := bytes.toNat
        volumeSet := source.storageType
        idealStorage := 0.0
        tolerancePercent := 0
        bandwidth := 0
        maxDiskErrors := 0 }

/-- The moves for a node whose usages are sorted. -/
def gapSteps (threshold : Float) (us : List Usage) : Except Failure (List Step) :=
  match us.head?, us.getLast? with
  | some low, some high =>
    if (high.ratio - low.ratio) * 100.0 > threshold then
      (halfMove high.volume low.volume).map fun s => [s]
    else .ok []
  | _, _ => .error .noVolumes

/-- The plan for one node. -/
def gapPlan (now : Time.Moment) (threshold : Float) (n : Node) : Except Failure Plan := do
  let us ← n.volumes.mapM Usage.of
  let steps ← gapSteps threshold (Usage.sorted us)
  return ⟨n.hostname, n.uuid, n.port, now.inUtc, steps⟩

/-- The plans for a cluster. -/
def Planner.plans (p : Planner) (now : Time.Moment) (c : Cluster) (threshold : Float) :
    Except Failure (List Plan) :=
  match p with
  | .widestGap => c.scopeNodes.mapM (gapPlan now threshold)
  | .fixed plans => .ok plans

end Move
end Rebalance
