import Rebalance.Duplicates
import Rebalance.Files.Tree
import Rebalance.Json.Reader
import Rebalance.Net.Link
import Rebalance.Run.Lookup.Fault
import Rebalance.Schema.Issue
import Rebalance.Template
import Rebalance.Text.Unwritten
import Rebalance.Yaml.Fault

/-!
# Failures

Everything that can stop the program, by its cause.  `Failure.message` gives the words.
-/

namespace Rebalance

/-- Why a node's answer holds no paths. -/
inductive AnswerFault
  | malformed
  | unfit (issues : List Schema.Issue)
deriving DecidableEq, Repr

/-- What can stop the program. -/
inductive Failure
  | invalidEntity (name : String) (issues : List Schema.Issue)
  | duplicates (fault : Duplicates.Fault)
  | sizeTooLarge
  | ratioTooLarge
  | noVolumes
  | noSnapshot
  | unknownFormat (path : Files.Path)
  | unreadableSnapshot (path : Files.Path) (fault : Files.Fault)
  | brokenSnapshot (path : Files.Path) (isYaml : Bool)
  | emptySnapshot (path : Files.Path)
  | invalidSnapshot (issues : List Schema.Issue)
  | keyNotText
  | unusablePath (path : Files.Path) (fault : Files.Fault)
  | nulInPath
  | badEncoding (fault : Text.Undecodable)
  | unwritable (text : String)
  | unwritableName (path : Files.Path)
  | noLookup (fault : Run.LookupFault)
  | relativeModule (name : String)
  | json (fault : Json.Fault)
  | yaml (fault : Yaml.Fault)
  | invalidOptions (issues : List Schema.Issue)
  | nodeRequired
  | nodeNotFound (name : String)
  | rejected (address : String) (status : Int)
  | unreachable (address : String) (cause : Net.Breakdown)
  | answerMissing
  | escaped (cause : Net.Breakdown)
  | badDetails (fault : Net.DetailsFault)
  | badAnswer (address : String) (cause : AnswerFault)
  | badTemplate (template : String) (cause : Template.Fault)
  | templateMisuse (cause : Template.Fault)
  | badFileName (node : String)
  | writeFailed (target at_ : Files.Path) (fault : Files.Fault)
  | tooManyFolders
  | noPlanner
  | notPlanner (shown : String)
  | abstractPlanner
  | badLevel (shown : String)
  | tooManyDigits
  | noLevel
  | exit (code : Nat)

/-- Refuses a path that no file can have. -/
def Files.Path.check (p : Files.Path) : Except Failure Unit :=
  if !Text.isWritableName p.text then .error (.unwritableName p)
  else if p.text.toList.contains (Char.ofNat 0) then .error .nulInPath
  else .ok ()

/-- The words of a failure. -/
def Failure.message : Failure → String
  | .invalidEntity name _ => name
  | .duplicates fault => fault.message
  | .sizeTooLarge => "int too large to convert to float"
  | .ratioTooLarge => "integer division result too large for a float"
  | .noVolumes => "list index out of range"
  | .noSnapshot => "No cluster snapshot given. Use --uri or set CLUSTER_URI"
  | .unknownFormat path => "Unsupported cluster snapshot format: " ++ path.text
  | .unreadableSnapshot path _ => "Error reading file " ++ path.text
  | .brokenSnapshot path _ => "Error parsing file " ++ path.text
  | .emptySnapshot path => "Empty cluster snapshot: " ++ path.text
  | .invalidSnapshot _ => "Invalid cluster snapshot"
  | .keyNotText => "keywords must be strings"
  | .unusablePath path fault => fault.message path
  | .nulInPath => "embedded null byte"
  | .badEncoding fault => fault.message
  | .unwritable text =>
    "Error serializing to JSON: UnicodeEncodeError: " ++ Text.unwrittenMessage false text
  | .unwritableName path => Text.unwrittenMessage true path.text
  | .noLookup fault => fault.message
  | .relativeModule name =>
    "the 'package' argument is required to perform a relative import for " ++ Text.quote name
  | .json fault => fault.message
  | .yaml fault => fault.message
  | .invalidOptions _ => "Invalid plan options"
  | .nodeRequired => "A node name is required to create a plan."
  | .nodeNotFound name => "Unable to find the specified node. " ++ name
  | .rejected address status =>
    "Node " ++ address ++ " rejected the request. Status code: " ++ Decimal.intText status
  | .unreachable address cause =>
    "Unable to connect to node " ++ address ++ ": " ++ cause.text
  | .answerMissing =>
    "cannot access local variable 'resp' where it is not associated with a value"
  | .escaped cause => cause.text
  | .badDetails fault => fault.message
  | .badAnswer address _ => "Invalid volume mapping received from node " ++ address
  | .badTemplate template _ => "Invalid artifact name template '" ++ template ++ "'"
  | .templateMisuse cause => cause.message
  | .badFileName node => "Node identifier '" ++ node ++ "' produces an invalid file name"
  | .writeFailed target at_ fault =>
    "Error writing file " ++ target.text ++ ": " ++ fault.message at_
  | .tooManyFolders => "maximum recursion depth exceeded while calling a Python object"
  | .noPlanner => "No planner configured. Set the PLANNER variable"
  | .notPlanner shown => shown ++ " is not a Planner class"
  | .abstractPlanner =>
    "Can't instantiate abstract class Planner with abstract method compute_plan"
  | .badLevel shown => "Level not an integer or a valid string: " ++ shown
  | .tooManyDigits => Decimal.tooLongMessage
  | .noLevel => "'list' object has no attribute 'upper'"
  | .exit code => Decimal.intText code

end Rebalance
