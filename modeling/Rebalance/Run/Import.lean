import Rebalance.Data.Printed
import Rebalance.Schema.Issue
import Rebalance.Text.Classes
import Rebalance.Text.Wrap

/-!
# Objects that settings can name

A name is a module's name with a member's name after a colon, or after the last dot when there is
no module of the whole name.
-/

namespace Rebalance
namespace Run

/-- An object that a setting names or holds. -/
inductive Thing
  | gapPlanner
  | abstractPlanner
  | kind (shown : String)
  | value (d : Data)

namespace Thing

/-- An object as messages show it. -/
def shown : Thing → String
  | .gapPlanner => "<class 'tests.stubs.StubPlanner'>"
  | .abstractPlanner => "<class 'diskbalancer.planner.Planner'>"
  | .kind shown => shown
  | .value d => d.quoted

end Thing

/-- The homes of the kinds that belong to the program itself. -/
def ownKinds : List (String × List String) :=
  [("artifacts", ["ArtifactWriter"]),
   ("config", ["Settings"]),
   ("core", ["PlanResult", "PlanCommand"]),
   ("exceptions", ["AbortProcedureError", "InvalidClusterError", "InvalidArgumentError",
      "NodeNotFoundError", "ConnectivityError", "ParseError", "ArtifactWriteError"]),
   ("logger", ["StdoutFilter", "StderrFilter"]),
   ("models.core", ["JsonModel"]),
   ("models.volume", ["Volume", "VolumeSet"]),
   ("models.node", ["DataNode"]),
   ("models.cluster", ["Cluster"]),
   ("models.plan", ["Step", "NodePlan"]),
   ("models.options", ["PlanOptions"]),
   ("node_client", ["VolumePathFetcher", "NodeClient"])]

/-- Kinds that a module takes from another one, by the name of that one. -/
def sharedKinds : List (String × List (String × List String)) :=
  [("artifacts", [("exceptions", ["ArtifactWriteError"]), ("models.cluster", ["Cluster"]),
      ("models.plan", ["NodePlan"])]),
   ("constraints", [("models.plan", ["NodePlan"])]),
   ("core", [("artifacts", ["ArtifactWriter"]), ("config", ["Settings"]),
      ("exceptions", ["InvalidArgumentError", "NodeNotFoundError"]),
      ("models.cluster", ["Cluster"]), ("models.options", ["PlanOptions"]),
      ("models.plan", ["NodePlan"]), ("node_client", ["VolumePathFetcher"])]),
   ("loaders.cluster_file", [("exceptions", ["AbortProcedureError", "InvalidClusterError"]),
      ("models.cluster", ["Cluster"])]),
   ("main", [("core", ["PlanCommand"]), ("exceptions", ["AbortProcedureError",
      "ArtifactWriteError", "ConnectivityError", "InvalidArgumentError", "InvalidClusterError",
      "NodeNotFoundError", "ParseError"]), ("node_client", ["NodeClient"])]),
   ("models.volume", [("models.core", ["JsonModel"])]),
   ("models.node", [("models.core", ["JsonModel"]), ("models.volume", ["Volume", "VolumeSet"])]),
   ("models.cluster", [("models.core", ["JsonModel"]), ("models.node", ["DataNode"])]),
   ("models.plan", [("models.core", ["JsonModel"]), ("models.volume", ["Volume"])]),
   ("node_client", [("exceptions", ["ConnectivityError", "ParseError"]),
      ("models.node", ["DataNode"])]),
   ("planner", [("config", ["Settings"]), ("exceptions", ["AbortProcedureError"]),
      ("models.cluster", ["Cluster"]), ("models.plan", ["NodePlan"])]),
   ("report", [("models.plan", ["NodePlan"])])]

/-- The name of the package of the program. -/
def package : String :=
  "diskbalancer"

/-- A kind of the program by its home and name. -/
def ownKind (home name : String) : Thing :=
  .kind ("<class '" ++ package ++ "." ++ home ++ "." ++ name ++ "'>")

/-- The modules of the program. -/
def ownModules : List String :=
  ["artifacts", "config", "constraints", "core", "exceptions", "loaders", "loaders.cluster_file",
   "logger", "main", "models", "models.cluster", "models.core", "models.node", "models.options",
   "models.plan", "models.volume", "node_client", "parser", "planner", "report", "threshold",
   "utils"]

/-- The members of a module of the program. -/
def ownMembers (name : String) : List (String × Thing) :=
  let listed (home : String) (names : List String) : List (String × Thing) :=
    names.map fun n => (n, ownKind home n)
  let own := ((ownKinds.find? fun e => e.1 == name).map fun e => listed name e.2).getD []
  let shared := ((sharedKinds.find? fun e => e.1 == name).map fun e =>
    e.2.flatMap fun h => listed h.1 h.2).getD []
  let planner :=
    if name = "planner" ∨ name = "core" then [("Planner", Thing.abstractPlanner)] else []
  let state := if name = "core" then [("PlanState", Thing.kind "<enum 'PlanState'>")] else []
  own ++ (shared ++ (planner ++ state))

/-- A module: its name, whether it holds modules itself, and its members. -/
structure Module where
  name : String
  isPackage : Bool
  members : List (String × Thing)

/-- The modules that a setting can name. -/
def modules : List Module :=
  [⟨"math", false, [("pi", .value (.float 3.141592653589793)),
      ("e", .value (.float 2.718281828459045))]⟩,
   ⟨"collections", true, [("OrderedDict", .kind "<class 'collections.OrderedDict'>")]⟩,
   ⟨"string", false, [("digits", .value (.text "0123456789"))]⟩,
   ⟨"tests", true, []⟩,
   ⟨"tests.stubs", false,
     [("StubPlanner", .gapPlanner), ("StubFetcher", .kind "<class 'tests.stubs.StubFetcher'>"),
      ("Planner", .abstractPlanner), ("Cluster", ownKind "models.cluster" "Cluster"),
      ("NodePlan", ownKind "models.plan" "NodePlan"), ("Step", ownKind "models.plan" "Step"),
      ("VolumePathFetcher", ownKind "node_client" "VolumePathFetcher")]⟩,
   ⟨package, true, []⟩]
  ++ ownModules.map fun n =>
    ⟨package ++ "." ++ n, n == "models" || n == "loaders", ownMembers n⟩

/-- The module of a name. -/
def module? (name : String) : Option Module :=
  modules.find? fun m => m.name == name

/-- The message about a module that is not there.  `outer` is the module that should hold it. -/
def absence (name : String) (outer : Option Module) : String :=
  let base := "No module named " ++ Text.quote name
  match outer with
  | some m => if m.isPackage then base else base ++ "; " ++ Text.quote m.name ++ " is not a package"
  | none => base

/-- Finds a module part by part: what is found so far, and the parts to come. -/
def findParts (found : Option Module) : (path : List String) → List String → Except String Module
  | path, [] =>
    match found with
    | some m => .ok m
    | none => .error (absence (Text.joined "." path) none)
  | path, part :: rest =>
    let name := Text.joined "." (path ++ [part])
    match module? name with
    | some m => findParts (some m) (path ++ [part]) rest
    | none => .error (absence name found)

/-- Finds a module by its name. -/
def findModule (name : String) : Except String Module :=
  findParts none [] ((name.toList.splitOn '.').map String.ofList)

/-- A member of a module. -/
def member (m : Module) (name : String) : Except String Thing :=
  match m.members.find? fun e => e.1 == name with
  | some e => .ok e.2
  | none => .error ("cannot import name " ++ Text.quote name ++ " from " ++ Text.quote m.name)

/-- The parts of a name before and after its last dot. -/
def splitLast (cs : List Char) : List Char × List Char :=
  let tail := (cs.reverse.takeWhile (· ≠ '.')).reverse
  (cs.take (cs.length - tail.length - 1), tail)

/-- Finds the object of a name. -/
def findThing (name : String) : Except String Thing :=
  let cs := Text.trim Text.isBlank name.toList
  match cs.splitOn ':' with
  | [] => .error ""
  | [path] =>
    if path.isEmpty then
      .error ("Import strings should have a nonempty module name; received " ++ Text.quote name)
    else
      match findModule (String.ofList path) with
      | .ok m => .ok (.kind ("<module " ++ Text.quote m.name ++ ">"))
      | .error e =>
        if path.contains '.' then
          let (outer, last) := splitLast path
          match (findModule (String.ofList outer)).bind fun m =>
              member m (String.ofList last) with
          | .ok t => .ok t
          | .error _ => .error e
        else .error e
  | [path, name'] =>
    if path.isEmpty then
      .error ("Import strings should have a nonempty module name; received " ++ Text.quote name)
    else (findModule (String.ofList path)).bind fun m => member m (String.ofList name')
  | _ =>
    .error ("Import strings should have at most one ':'; received " ++ Text.quote name)

/-- The name of a module that begins with a dot, if a text names an object by such a module.  The
dot would lead from a package, and settings belong to none. -/
def relativeModule? (name : String) : Option String :=
  let parts := (Text.trim Text.isBlank name.toList).splitOn ':'
  match parts with
  | path :: _ =>
    if path.head? = some '.' ∧ parts.length ≤ 2 then some (String.ofList path) else none
  | [] => none

open Schema in
/-- Reads an object: a text names it, and any other value stands for itself. -/
def readThing (d : Data) : Checked Thing :=
  match d with
  | .text s =>
    match findThing s with
    | .ok t => .ok t
    | .error text => .flaw (.noImport text)
  | d => .ok (.value d)

end Run
end Rebalance
