import Rebalance.Move.Plan
import Rebalance.Run.World
import Rebalance.Storage.Cluster

/-!
# The files of a run

The files of a run: the cluster as it was before, and the plan.  Both lie in the output folder,
under names made from templates.
-/

namespace Rebalance
namespace Run

/-- Where the files of a run go and how they are named.  `room` is the greatest width of a
template's field that there is room for in memory. -/
structure Writer where
  folder : Files.Path
  beforeTemplate : String
  planTemplate : String
  room : Nat
deriving DecidableEq, Repr

/-- Whether a text is the name of a single file: as a path, all of it is the last name. -/
def isFileName (name : String) : Bool :=
  name != "" && name != "." && name != ".." && (Files.Path.ofString name).name == name

namespace Writer

/-- The path of a node's file. -/
def path (w : Writer) (template node : String) : Except Failure Files.Path :=
  match Template.format w.room template node with
  | .error cause =>
    if cause.isMisfit then .error (.badTemplate template cause) else .error (.templateMisuse cause)
  | .ok name => if isFileName name then .ok (w.folder.join name) else .error (.badFileName node)

/-- The path of a node's file; what prevents it is logged. -/
def artifactPath (w : Writer) (template node : String) : Act World Files.Path :=
  match w.path template node with
  | .ok p => return p
  | .error (.templateMisuse cause) => Act.fail (.templateMisuse cause)
  | .error f => Act.abort f

end Writer

/-- Makes the folders on the way to a file and puts a content into the file.  The folders stay
when the file cannot be written; none is made when too many are missing. -/
def store (content : List Nat) (target : Files.Path) (t : Files.Tree) :
    Except Failure Unit × Files.Tree :=
  match target.parent.check with
  | .error f => (.error f, t)
  | .ok () =>
    if t.IsDeep target.parent then (.error .tooManyFolders, t)
    else
      match t.makeFolders target.parent with
      | (t, .error (at_, fault)) => (.error (.writeFailed target at_ fault), t)
      | (t, .ok ()) =>
        match target.check with
        | .error f => (.error f, t)
        | .ok () =>
          match t.writeFile target content with
          | .error fault => (.error (.writeFailed target target fault), t)
          | .ok t => (.ok (), t)

/-- Writes a file; what prevents it is logged. -/
def write (content : List Nat) (target : Files.Path) : Act World Unit := do
  Act.log .debug ("Writing " ++ Decimal.intText content.length ++ " bytes to " ++ target.text)
  match ← Act.on World.files (fun t w => { w with files := t })
      (fun t => let (r, t) := store content target t; (.ok r, t)) with
  | .ok () => return ()
  | .error (.writeFailed target at_ fault) => Act.abort (.writeFailed target at_ fault)
  | .error f => Act.fail f

namespace Writer

/-- Writes the cluster as it is before the plan. -/
def writeBefore (w : Writer) (node : String) (c : Storage.Cluster) : Act World Files.Path := do
  let target ← w.artifactPath w.beforeTemplate node
  let document ← Act.ofExcept c.document
  write (Text.encode document) target
  return target

/-- Writes the plan. -/
def writePlan (w : Writer) (node : String) (p : Move.Plan) : Act World Files.Path := do
  let target ← w.artifactPath w.planTemplate node
  Act.log .info ("Writing plan to: " ++ target.text)
  let document ← Act.ofExcept p.document
  write (Text.encode document) target
  return target

end Writer
end Run
end Rebalance
