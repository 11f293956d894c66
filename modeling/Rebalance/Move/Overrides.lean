import Rebalance.Log.Record
import Rebalance.Move.Plan

/-!
# Overrides

A user's bandwidth and error limit replace those of every step; one that is not positive leaves the
planner's choice.
-/

namespace Rebalance
namespace Move

/-- A user's bandwidth and error limit. -/
structure Overrides where
  bandwidth : Int
  maxErrors : Int
deriving DecidableEq, Repr

namespace Overrides

/-- A number with its override applied. -/
def choose (override_ : Int) (own : Nat) : Nat :=
  if 0 < override_ then override_.toNat else own

/-- A step with the overrides applied. -/
def onStep (o : Overrides) (s : Step) : Step :=
  { s with
    bandwidth := choose o.bandwidth s.bandwidth
    maxDiskErrors := choose o.maxErrors s.maxDiskErrors }

/-- A plan with the overrides applied to every step. -/
def onPlan (o : Overrides) (p : Plan) : Plan :=
  { p with steps := p.steps.map o.onStep }

/-- Plans with the overrides applied. -/
def apply (o : Overrides) (plans : List Plan) : List Plan :=
  plans.map o.onPlan

/-- The overrides in force, by the names of the fields they replace. -/
def inForce (o : Overrides) : List (Data × Data) :=
  (if 0 < o.bandwidth then [(.text "bandwidth", .int o.bandwidth)] else [])
    ++ (if 0 < o.maxErrors then [(.text "max_disk_errors", .int o.maxErrors)] else [])

/-- The record about the overrides, if any is in force. -/
def records (o : Overrides) : List Log.Record :=
  match o.inForce with
  | [] => []
  | es => [⟨.debug, "Setting step parameters " ++ (Data.map es).quoted⟩]

end Overrides
end Move
end Rebalance
