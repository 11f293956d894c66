import Rebalance.Move.Overrides
import Rebalance.Move.Table
import Rebalance.Run.Artifact
import Rebalance.Run.Settings
import Rebalance.Storage.Paths
import Rebalance.Storage.Snapshot
import Rebalance.Threshold

/-!
# The plan command

A run loads the cluster, settles the threshold, finds the node, asks it for the paths of its
volumes, computes the plans and applies the overrides; then it writes the cluster as it is, and the
plan if the node needs one, and prints the table if it is asked to.  Each stage reached is logged
and kept, so that after a failure the stage tells how far the run got.
-/

namespace Rebalance
namespace Run

/-- How far a run has got. -/
inductive Stage
  | init
  | clusterLoaded
  | thresholdResolved
  | nodeResolved
  | pathsAnnotated
  | planComputed
  | constraintsApplied
  | snapshotWritten
  | planWritten
  | noPlanNeeded
  | reported
  | done
deriving DecidableEq, Repr

/-- The name of a stage. -/
def Stage.name : Stage → String
  | .init => "init"
  | .clusterLoaded => "cluster-loaded"
  | .thresholdResolved => "threshold-resolved"
  | .nodeResolved => "node-resolved"
  | .pathsAnnotated => "paths-annotated"
  | .planComputed => "plan-computed"
  | .constraintsApplied => "constraints-applied"
  | .snapshotWritten => "snapshot-written"
  | .planWritten => "plan-written"
  | .noPlanNeeded => "no-plan-needed"
  | .reported => "reported"
  | .done => "done"

/-- Where the cluster of a run comes from: a snapshot, read anew for each run, or the cluster held
from run to run. -/
inductive Loader
  | snapshot
  | held
deriving DecidableEq, Repr

/-- A plan command: its settings, its planner, its source of clusters, and the room that there is
for a field of a template. -/
structure Command where
  settings : Settings
  planner : Move.Planner
  loader : Loader
  room : Nat

/-- The state of a command: the world it works in, the stage reached, the cluster at hand, and the
thresholds its planner was called with. -/
structure Session where
  world : World
  stage : Stage
  cluster : Storage.Cluster
  calls : List Float

/-- What a run has done. -/
structure Outcome where
  stage : Stage
  threshold : Float
  outputDir : Files.Path
  beforePath : Files.Path
  planPath : Option Files.Path
  planWritten : Bool
  plans : List Move.Plan

/-- The options of a run: the values as they were given under their names, or options read
already. -/
inductive Order
  | entries (es : List (String × Data))
  | options (o : Options)

/-- The options of an order, and the node they name. -/
def Order.settle : Order → Except Failure (Options × String)
  | .entries es => do
    let o ← Options.parse es
    let name ← o.target
    return (o, name)
  | .options o => do
    let name ← o.target
    return (o, name)

namespace Session

/-- An action on the world of a session. -/
def inWorld {α : Type} (x : Act World α) : Act Session α :=
  Act.on Session.world (fun w s => { s with world := w }) x

/-- Enters a stage. -/
def enter (stage : Stage) : Act Session Unit := do
  let s ← Act.get
  inWorld (Act.log .debug ("Plan command: " ++ s.stage.name ++ " -> " ++ stage.name))
  Act.modify fun s => { s with stage := stage }

/-- Makes a cluster the one at hand. -/
def keep (c : Storage.Cluster) : Act Session Unit :=
  Act.modify fun s => { s with cluster := c }

end Session

namespace Command

open Session

/-- Loads the cluster. -/
def loadCluster (c : Command) (uri : Option Files.Path) : Act Session Unit :=
  match c.loader with
  | .snapshot => do
    let cluster ← inWorld (Storage.Snapshot.load uri)
    keep cluster
  | .held =>
    inWorld (Act.log .info
      ("loader " ++ ((uri.map Files.Path.text).getD "None")))

/-- Settles the threshold. -/
def resolveThreshold (c : Command) (o : Options) : Act Session Float := do
  let (q, records) :=
    Threshold.resolve (o.threshold.map .real) (some (.real c.settings.threshold))
  inWorld (Act.logAll records)
  return q.toFloat

/-- Finds the place of the node and makes the node the scope. -/
def findNode (name : String) : Act Session Nat := do
  let s ← Act.get
  match s.cluster.find? name with
  | none => inWorld (Act.abort (.nodeNotFound name))
  | some place =>
    keep (s.cluster.withScope [place])
    return place

/-- Asks the node at a place for the paths of its volumes. -/
def annotate (c : Command) (place : Nat) : Act Session Unit := do
  let s ← Act.get
  match s.cluster.nodes[place]? with
  | none => return ()
  | some node =>
    let node ← inWorld (node.fetchPaths c.settings.client)
    keep (s.cluster.updateNode place fun _ => node)

/-- Computes the plans. -/
def computePlans (c : Command) (threshold : Float) : Act Session (List Move.Plan) := do
  Act.modify fun s => { s with calls := s.calls ++ [threshold] }
  let s ← Act.get
  Act.ofExcept (c.planner.plans s.world.now s.cluster threshold)

/-- Applies the overrides. -/
def override (o : Options) (plans : List Move.Plan) : Act Session (List Move.Plan) := do
  let overrides : Move.Overrides := ⟨o.bandwidth, o.maxError⟩
  inWorld (Act.logAll overrides.records)
  return overrides.apply plans

/-- The folder for the files of a run: the user's, or a new one named for the time. -/
def outputDir (c : Command) (now : Time.Moment) (o : Options) : Files.Path :=
  match o.output with
  | some p => p
  | none => c.settings.outputDir.child now.folderName

/-- The writer of a run's files. -/
def writer (c : Command) (dir : Files.Path) : Writer :=
  ⟨dir, c.settings.beforeTemplate, c.settings.planTemplate, c.room⟩

/-- Writes the first plan, if it has a step. -/
def storePlan (w : Writer) (name : String) (threshold : Float) (plans : List Move.Plan) :
    Act Session (Option Files.Path) := do
  match plans.head?.filter fun p => !p.steps.isEmpty with
  | some plan =>
    let path ← inWorld (w.writePlan name plan)
    enter .planWritten
    return some path
  | none =>
    inWorld (Act.log .info ("No plan generated. Disk balancing not needed for node: " ++ name
      ++ " threshold used: " ++ Decimal.floatText threshold))
    enter .noPlanNeeded
    return none

/-- Prints the table of the plans, if it is asked for and there is a step to show. -/
def report (o : Options) (plans : List Move.Plan) : Act Session Unit := do
  if o.verbose && plans.any fun p => !p.steps.isEmpty then
    match Move.Table.render? plans with
    | some text =>
      inWorld (Act.print text)
      enter .reported
    | none => Act.fail .sizeTooLarge
  else
    return ()

/-- Finds the node, asks it for the paths of its volumes, computes the plans and applies the
overrides. -/
def compute (c : Command) (o : Options) (name : String) (threshold : Float) :
    Act Session (List Move.Plan) := do
  let place ← findNode name
  enter .nodeResolved
  c.annotate place
  enter .pathsAnnotated
  let plans ← c.computePlans threshold
  enter .planComputed
  let plans ← override o plans
  enter .constraintsApplied
  return plans

/-- Writes the cluster, and the plan if there is one, and prints the table. -/
def deliver (c : Command) (o : Options) (name : String) (threshold : Float)
    (plans : List Move.Plan) : Act Session Outcome := do
  let s ← Act.get
  let dir := c.outputDir s.world.now o
  let w := c.writer dir
  let beforePath ← inWorld (w.writeBefore name s.cluster)
  enter .snapshotWritten
  let planPath ← storePlan w name threshold plans
  report o plans
  enter .done
  let s ← Act.get
  return ⟨s.stage, threshold, dir, beforePath, planPath, planPath.isSome, plans⟩

/-- Runs the command. -/
def execute (c : Command) (order : Order) : Act Session Outcome := do
  inWorld (Act.log .debug "Processing plan command")
  let (o, name) ← Act.ofExcept order.settle
  c.loadCluster (o.clusterUri <|> c.settings.clusterUri)
  enter .clusterLoaded
  let threshold ← c.resolveThreshold o
  enter .thresholdResolved
  let plans ← c.compute o name threshold
  c.deliver o name threshold plans

end Command
end Run
end Rebalance
