import Rebalance.Details
import Rebalance.Run.Failure

/-!
# Kinds of failure

The kinds of failure that end a plan command in good order.  Such a failure carries a message and
may carry further values; every other failure is a fault of the program or of its setup.
-/

namespace Rebalance
namespace Run

/-- A kind of failure that the command answers with a message. -/
inductive Kind
  | aborted
  | invalidCluster
  | invalidArgument
  | nodeNotFound
  | noConnection
  | unreadableAnswer
  | unwrittenFile
deriving DecidableEq, Repr

/-- A wider group of failures. -/
inductive Group
  | badValue
  | failedSearch
  | connection
  | system
deriving DecidableEq, Repr

namespace Kind

/-- The wider groups of a kind, the narrowest first. -/
def groups : Kind → List Group
  | .aborted | .invalidCluster => []
  | .invalidArgument | .unreadableAnswer => [.badValue]
  | .nodeNotFound => [.failedSearch]
  | .noConnection => [.connection, .system]
  | .unwrittenFile => [.system]

/-- What a failure of a kind carries. -/
def details (k : Kind) (message : Data) (more : List Data) : Details :=
  ⟨k.groups.contains .system, message :: more⟩

end Kind
end Run

/-- The kind of a failure that ends a command in good order. -/
def Failure.kind? : Failure → Option Run.Kind
  | .noSnapshot | .unreadableSnapshot _ _ | .noPlanner | .notPlanner _ => some .aborted
  | .unknownFormat _ | .brokenSnapshot _ _ | .emptySnapshot _ | .invalidSnapshot _ =>
    some .invalidCluster
  | .invalidOptions _ | .nodeRequired => some .invalidArgument
  | .nodeNotFound _ => some .nodeNotFound
  | .rejected _ _ | .unreachable _ _ => some .noConnection
  | .badAnswer _ _ => some .unreadableAnswer
  | .badTemplate _ _ | .badFileName _ | .writeFailed _ _ _ => some .unwrittenFile
  | _ => none

end Rebalance
