import Rebalance.Decimal.Integer
import Rebalance.Log.Level
import Rebalance.Run.Words

/-!
# The command line

The command line of the plan command.

* `Arguments.read`: the arguments, a call for help, or the first complaint.
-/

namespace Rebalance
namespace Run

/-- An option of the command line. -/
inductive Flag
  | help
  | node
  | clusterUri
  | output
  | bandwidth
  | threshold
  | maxError
  | verbose
  | logLevel
deriving DecidableEq, Repr

namespace Flag

/-- All options, in order. -/
def all : List Flag :=
  [.help, .node, .clusterUri, .output, .bandwidth, .threshold, .maxError, .verbose, .logLevel]

/-- The letter of an option. -/
def letter : Flag → Char
  | .help => 'h'
  | .node => 'p'
  | .clusterUri => 'u'
  | .output => 'o'
  | .bandwidth => 'b'
  | .threshold => 't'
  | .maxError => 'm'
  | .verbose => 'v'
  | .logLevel => 'l'

/-- The word of an option. -/
def word : Flag → String
  | .help => "help"
  | .node => "plan"
  | .clusterUri => "uri"
  | .output => "out"
  | .bandwidth => "bandwidth"
  | .threshold => "thresholdPercentage"
  | .maxError => "maxerror"
  | .verbose => "verbose"
  | .logLevel => "loglevel"

/-- The spellings of an option: its letter after one dash, and its word after two. -/
def spellings (f : Flag) : List String :=
  [String.ofList ['-', f.letter], "--" ++ f.word]

/-- Whether an option takes a value. -/
def takesValue : Flag → Bool
  | .help | .verbose => false
  | _ => true

/-- The options of the command line. -/
def grammar : Grammar Flag :=
  ⟨'-', all.flatMap fun f => f.spellings.map fun s => (s, f), takesValue, true⟩

end Flag

/-- Why a command line cannot be read. -/
inductive Misuse
  | lapse (fault : Lapse Flag)
  | notWhole (flag : Flag) (value : String)
  | notNumber (flag : Flag) (value : String)
  | noChoice (flag : Flag) (value : String)
  | strangers (words : List String)
deriving DecidableEq, Repr

/-- The levels to choose from. -/
def levelChoices : List String :=
  Log.levelNames.map fun e => e.1.map Char.toLower

/-- The words of a complaint. -/
def Misuse.message : Misuse → String
  | .lapse fault => Flag.grammar.lapseMessage fault
  | .notWhole flag value => Flag.grammar.about flag ("invalid int value: " ++ Text.quote value)
  | .notNumber flag value => Flag.grammar.about flag ("invalid float value: " ++ Text.quote value)
  | .noChoice flag value =>
    Flag.grammar.about flag ("invalid choice: " ++ Text.quote value ++ " (choose from "
      ++ Text.joined ", " (levelChoices.map Text.quote) ++ ")")
  | .strangers words => Grammar.strangersMessage words

/-- What comes of a command line that gives no arguments. -/
inductive Refusal
  | help
  | misuse (m : Misuse)
deriving DecidableEq, Repr

/-- The arguments of the command. -/
structure Arguments where
  node : Option (Supply String)
  clusterUri : Option (Supply String)
  output : Option (Supply String)
  bandwidth : Supply Int
  threshold : Option (Supply Float)
  maxError : Supply Int
  verbose : Bool
  logLevel : Supply String

namespace Arguments

/-- The arguments of an empty command line. -/
def standard : Arguments :=
  ⟨none, none, none, .value 0, none, .value 0, false, .value "warning"⟩

/-- Reads a whole number. -/
def readWhole (flag : Flag) (value : String) : Except Refusal Int :=
  match Decimal.readInteger 10 value.toList with
  | .ok n => .ok n
  | .error _ => .error (.misuse (.notWhole flag value))

/-- Takes an option without a value. -/
def switch (a : Arguments) (flag : Flag) : Except Refusal Arguments :=
  match flag with
  | .help => .error .help
  | .verbose => .ok { a with verbose := true }
  | _ => .error (.misuse (.lapse (.valueExpected flag)))

/-- Takes an option with its value. -/
def set (a : Arguments) (flag : Flag) (value : String) : Except Refusal Arguments :=
  match flag with
  | .node => .ok { a with node := some (.value value) }
  | .clusterUri => .ok { a with clusterUri := some (.value value) }
  | .output => .ok { a with output := some (.value value) }
  | .bandwidth => (readWhole flag value).map fun n => { a with bandwidth := .value n }
  | .maxError => (readWhole flag value).map fun n => { a with maxError := .value n }
  | .threshold =>
    match Decimal.readNumber? value.toList with
    | some x => .ok { a with threshold := some (.value x) }
    | none => .error (.misuse (.notNumber flag value))
  | .logLevel =>
    if levelChoices.contains value then .ok { a with logLevel := .value value }
    else .error (.misuse (.noChoice flag value))
  | .help | .verbose => .error (.misuse (.lapse (.valueRefused flag value)))

/-- Takes an option with nothing for its value. -/
def clear (a : Arguments) : Flag → Arguments
  | .node => { a with node := some .nothing }
  | .clusterUri => { a with clusterUri := some .nothing }
  | .output => { a with output := some .nothing }
  | .bandwidth => { a with bandwidth := .nothing }
  | .maxError => { a with maxError := .nothing }
  | .threshold => { a with threshold := some .nothing }
  | .logLevel => { a with logLevel := .nothing }
  | .help | .verbose => a

/-- Takes an option with what it is given. -/
def supply (a : Arguments) (flag : Flag) : Supply String → Except Refusal Arguments
  | .value v => a.set flag v
  | .nothing => .ok (a.clear flag)

/-- Follows steps; `strange` are the words so far that nothing takes. -/
def follow (strange : List String) : Arguments → List (Step Flag) → Except Refusal Arguments
  | a, [] => if strange.isEmpty then .ok a else .error (.misuse (.strangers strange))
  | a, .switch flag :: rest =>
    match a.switch flag with
    | .ok a => follow strange a rest
    | .error e => .error e
  | a, .give flag value :: rest =>
    match a.supply flag value with
    | .ok a => follow strange a rest
    | .error e => .error e
  | a, .stranger s :: rest => follow (strange ++ [s]) a rest
  | _, .lapse fault :: _ => .error (.misuse (.lapse fault))

/-- Reads a command line. -/
def read (words : List String) : Except Refusal Arguments :=
  follow [] standard (Flag.grammar.steps words)

/-- What an option that may be missing is given, as a value. -/
def given {α : Type} (f : α → Data) (s : Option (Supply α)) : Data :=
  match s with
  | none => .null
  | some s => s.toData f

/-- The arguments as options of a run. -/
def entries (a : Arguments) : List (String × Data) :=
  [("node", given .text a.node), ("cluster_uri", given .text a.clusterUri),
   ("output", given .text a.output), ("bandwidth", a.bandwidth.toData .int),
   ("threshold", given .float a.threshold), ("max_error", a.maxError.toData .int),
   ("verbose", .bool a.verbose)]

end Arguments
end Run
end Rebalance
