import Rebalance.Move.Planner
import Rebalance.Net.Client
import Rebalance.Run.Import
import Rebalance.Run.Lookup
import Rebalance.Run.Options

/-!
# The settings of the program

A value among words wins over one given directly, which wins over the environment, the environment
over the file of variables in the working folder, that file over a folder of secrets, and all of
them over the standard value.  Names are found in any letter case, unless the look-up says
otherwise.  A name that is no setting is passed over in the environment and among secrets; given
directly or in the file it is an issue.
-/

namespace Rebalance
namespace Run

/-- The settings. -/
structure Settings where
  appName : String
  threshold : Float
  outputDir : Files.Path
  beforeTemplate : String
  planTemplate : String
  volumeSetting : String
  scheme : String
  timeout : Nat
  clusterUri : Option Files.Path
  planner : Option Thing

namespace Settings

/-- The names of the settings, in order. -/
def names : List String :=
  ["APP_NAME", "DISK_BALANCER_THRESHOLD", "OUTPUT_DIR", "BEFORE_TEMPLATE", "PLAN_TEMPLATE",
   "VOLUME_NAME_SETTING", "NODE_RPC_SCHEME", "NODE_RPC_TIMEOUT", "CLUSTER_URI", "PLANNER"]

open Schema in
/-- Reads a text that must not be empty. -/
def readFilled (d : Data) : Checked String :=
  (readText d).andThen fun s =>
    if s = "" then .flaw (.rule "Empty string is not a valid value") else .ok s

open Schema in
/-- Reads a number of seconds. -/
def readTimeout (d : Data) : Checked Nat :=
  (readWhole d).andThen (atLeast 1)

open Schema in
/-- Reads the settings from the values found for them. -/
def ofValues (es : List (Data × Data)) : Checked Settings :=
  Settings.mk
    <$> optional es "APP_NAME" "DiskBalancer" readText
    <*> optional es "DISK_BALANCER_THRESHOLD" 10.0 readNumber
    <*> optional es "OUTPUT_DIR" (.ofString "/system/diskbalancer") readPath
    <*> optional es "BEFORE_TEMPLATE" "\x7bnode\x7d.before.json" readFilled
    <*> optional es "PLAN_TEMPLATE" "\x7bnode\x7d.plan.json" readFilled
    <*> optional es "VOLUME_NAME_SETTING" "DiskBalancerVolumeName" readFilled
    <*> optional es "NODE_RPC_SCHEME" "http" readText
    <*> optional es "NODE_RPC_TIMEOUT" 10 readTimeout
    <*> optional es "CLUSTER_URI" none (readNullable readPath)
    <*> optional es "PLANNER" none (readNullable readThing)

/-- The setting that a name given directly belongs to. -/
def settingOf? (l : Lookup) (name : String) : Option String :=
  names.find? fun n => l.spelling n == l.spelling name

/-- The values of settings among those given directly: under the names themselves, and else under
names in another case. -/
def fromGiven (l : Lookup) (given : List (String × Data)) : List (Data × Data) :=
  names.filterMap fun n =>
    let exact := given.find? fun e => e.1 == n
    let other := given.find? fun e => settingOf? l e.1 == some n
    (exact <|> other).map fun e => (.text n, e.2)

/-- The values of settings among variables. -/
def fromVariables (l : Lookup) (found : List (String × String)) : List (Data × Data) :=
  names.filterMap fun n =>
    (found.find? fun e => e.1 == l.variableOf n).map fun e => (.text n, l.valueOf e.2)

/-- A variable of a file that is no setting's.  An empty one is passed over, and so is one named as
a setting without the text that should stand in front. -/
def isStrange (l : Lookup) (e : String × String) : Bool :=
  e.2 != "" && !(names.any fun n => l.variableOf n == e.1)
    && !(l.lead != "" && names.contains e.1)

/-- The sources of settings: words, values given directly, the environment, the variables of
files, and secrets. -/
structure Sources where
  words : List (String × Data)
  given : List (String × Data)
  environment : List (String × String)
  file : List (String × String)
  secrets : List (String × Data)

/-- No sources at all. -/
def Sources.none : Sources :=
  ⟨[], [], [], [], []⟩

/-- The values that some sources give to settings, the first of a name before all others. -/
def Sources.values (s : Sources) (l : Lookup) : List (Data × Data) :=
  Schema.named s.words ++ (fromGiven l s.given ++ (fromVariables l s.environment
    ++ (fromVariables l s.file ++ Schema.named s.secrets)))

/-- The names in some sources that are no settings. -/
def Sources.strangers (s : Sources) (l : Lookup) : List String :=
  let inFile := (s.file.filter (isStrange l)).map Prod.fst
  let given := (s.given.map Prod.fst).filter fun n =>
    (settingOf? l n).isNone && !inFile.contains n
  inFile ++ given

/-- The settings of some sources.  A name with a surrogate is an issue in place of all others. -/
def read (l : Lookup) (s : Sources) : Schema.Checked Settings :=
  let strangers := s.strangers l
  let issues := strangers.map fun n => (⟨[.key n], .unexpected⟩ : Schema.Issue)
  if strangers.any Text.hasSurrogate then .flaw .brokenText
  else
    match ofValues (s.values l), issues with
    | .ok settings, [] => .ok settings
    | .ok _, issues => .wrong issues
    | .wrong found, issues => .wrong (found ++ issues)

/-- The module that the planner's setting leads to by a dot, if it does. -/
def relativePlanner? (values : List (Data × Data)) : Option String :=
  match Data.find? "PLANNER" values with
  | some (.text s) => relativeModule? s
  | _ => none

/-- The sources that are looked up when values are given directly. -/
def lookUp (files : Files.Tree) (environment : List (String × String))
    (given : List (String × Data)) :
    Except Failure (Lookup × Sources) := do
  let home := (environment.find? fun e => e.1 == "HOME").map Prod.snd
  let l ← (Lookup.choose home given).mapError .noLookup
  let file ← l.fileVariables files environment
  let words ← Lookup.wordValues given names
  (Lookup.checkLead given "APP_NAME").mapError .noLookup
  let secrets ← l.secretValues files names
  let own := given.filter fun e => !Lookup.controls.contains e.1
  return (l, ⟨words, own, l.environmentVariables environment, file, secrets⟩)

/-- The sources of settings when values are given directly. -/
def sources (files : Files.Tree) (environment : List (String × String))
    (given : List (String × Data)) :
    Except Failure (Lookup × Sources) :=
  if given.any fun e => e.1 == Lookup.receiver then .error (.noLookup .selfGiven)
  else
    match Lookup.control? given "_build_sources" with
    | some d => (Lookup.checkSources d).mapError .noLookup |>.map fun () => (.usual, .none)
    | none =>
      if given.any fun e => e.1 == "cls" then .error (.noLookup .classGiven)
      else lookUp files environment given

/-- Loads the settings from values given directly, words, the environment, files of variables and
secrets. -/
def load (files : Files.Tree) (environment : List (String × String))
    (given : List (String × Data)) :
    Except Failure Settings := do
  let (l, s) ← sources files environment given
  match relativePlanner? (s.values l) with
  | some name => .error (.relativeModule name)
  | none =>
    match read l s with
    | .ok s => return s
    | .wrong issues => .error (.invalidEntity "Settings" issues)

/-- The client of the settings. -/
def client (s : Settings) : Net.Client :=
  ⟨s.volumeSetting, s.scheme, s.timeout⟩

end Settings

/-- The planner of the settings. -/
def choosePlanner (s : Settings) : Act World Move.Planner := do
  match s.planner with
  | none => Act.abort .noPlanner
  | some .gapPlanner =>
    Act.log .info "Using planner StubPlanner"
    return .widestGap
  | some .abstractPlanner =>
    Act.log .info "Using planner Planner"
    Act.fail .abstractPlanner
  | some t => Act.abort (.notPlanner t.shown)

end Run
end Rebalance
