import Rebalance.Files.Path
import Rebalance.Run.Failure
import Rebalance.Schema.Record
import Rebalance.Schema.Scalar

/-!
# The options of a run

A bandwidth or error limit of zero, or none, keeps the planner's choice.
-/

namespace Rebalance
namespace Run

/-- Options as the user gave them. -/
structure Options where
  node : Option String
  clusterUri : Option Files.Path
  output : Option Files.Path
  threshold : Option Float
  bandwidth : Nat
  maxError : Nat
  verbose : Bool

open Schema in
/-- Reads a path. -/
def readPath (d : Data) : Checked Files.Path :=
  match d with
  | .text s => .ok (.ofString s)
  | _ => .flaw .notPath

open Schema in
/-- Reads a count that is zero when it is not given. -/
def readSetCount (d : Data) : Checked Nat :=
  match d with
  | .null => .ok 0
  | d => readCount d

namespace Options

open Schema in
/-- Reads options from values under their names. -/
def read (values : List (String × Data)) : Checked Options :=
  let es := named values
  Options.mk
    <$> optional es "node" none (readNullable readText)
    <*> optional es "cluster_uri" none (readNullable readPath)
    <*> optional es "output" none (readNullable readPath)
    <*> optional es "threshold" none (readNullable readNumber)
    <*> optional es "bandwidth" 0 readSetCount
    <*> optional es "max_error" 0 readSetCount
    <*> optional es "verbose" false readBool

/-- The name of the node, which has to be there. -/
def target (o : Options) : Except Failure String :=
  match o.node with
  | none => .error .nodeRequired
  | some name => if name = "" then .error .nodeRequired else .ok name

/-- Reads options that name a node. -/
def parse (values : List (String × Data)) : Except Failure Options :=
  match read values with
  | .wrong issues => .error (.invalidOptions issues)
  | .ok o => o.target.map fun _ => o

end Options
end Run
end Rebalance
