import Rebalance.Run.Arguments
import Rebalance.Text.Wrap

/-!
# The texts about the command line

The texts about the command line: how the command is called, and what its options mean.  They are
laid out in the columns that the environment names.

* `Usage.summary`, `Usage.help`: the short and the whole text.
* `Usage.complaint`: what is said about a command line that cannot be read.
-/

namespace Rebalance
namespace Run

/-- The name for the value of an option, if it takes one. -/
def Flag.valueName? : Flag → Option String
  | .help | .verbose => none
  | .node => some "NODE"
  | .clusterUri => some "CLUSTER_URI"
  | .output => some "OUTPUT"
  | .bandwidth => some "BANDWIDTH"
  | .threshold => some "THRESHOLD"
  | .maxError => some "MAX_ERROR"
  | .logLevel => some ("\x7b" ++ Text.joined "," levelChoices ++ "\x7d")

/-- What an option means. -/
def Flag.meaning : Flag → String
  | .help => "show this help message and exit"
  | .node => "IP address, hostname or UUID of the node to create a plan for."
  | .clusterUri => "Path to the JSON or YAML cluster snapshot. Default from CLUSTER_URI."
  | .output =>
    "Output directory. The generated plan will be written to a file in this directory."
  | .bandwidth => "Maximum bandwidth to be used while copying."
  | .threshold => "Percentage skew that we tolerate before diskbalancer starts working."
  | .maxError => "Max errors to tolerate between 2 disks."
  | .verbose => "Run plan command in verbose mode."
  | .logLevel =>
    "Provide logging level. Valid values: ["
      ++ Text.joined ", " (levelChoices.map Text.quote)
      ++ "]. Example --loglevel debug, default=warning"

/-- A spelling of an option with the name for its value. -/
def Flag.invocation (f : Flag) (spelling : String) : String :=
  match f.valueName? with
  | some v => spelling ++ " " ++ v
  | none => spelling

namespace Usage

/-- The name of the command. -/
def command : String :=
  "diskbalancer-plan"

/-- The word in front of the short text. -/
def lead : String :=
  "usage: "

/-- What the command does. -/
def purpose : String :=
  "Creates a plan that describes how much data should be moved between disks."

/-- What the plan is for. -/
def outlook : String :=
  "Plan command creates a set of steps that represent a planned data move. A plan file can be "
    ++ "executed on a data node, which will balance the data."

/-- The columns of a screen that the environment says nothing of. -/
def usualColumns : Nat :=
  80

/-- The columns that the environment names. -/
def columnsOf (environment : List (String × String)) : Nat :=
  match environment.find? fun e => e.1 == "COLUMNS" with
  | none => usualColumns
  | some (_, s) =>
    match Decimal.readInteger 10 s.toList with
    | .ok n => if 0 < n then n.toNat else usualColumns
    | .error _ => usualColumns

/-- The columns that are written to. -/
def widthOf (columns : Nat) : Nat :=
  columns - 2

/-- The least width of a block of words. -/
def leastWidth : Nat :=
  11

/-- Lines, each with its end. -/
def ofLines (lines : List String) : String :=
  String.join (lines.map (· ++ "\n"))

/-- Blanks. -/
def blanks (n : Nat) : String :=
  String.ofList (List.replicate n ' ')

/-- Parts laid out in lines of a width, each behind an indent.  `used` is the length of the line so
far, and `line` its parts, the last one first. -/
def layParts (width indent : Nat) : (used : Nat) → (line : List String) → List String → List String
  | _, line, [] =>
    if line.isEmpty then [] else [blanks indent ++ Text.joined " " line.reverse]
  | used, line, p :: rest =>
    if width < used + 1 + p.length ∧ !line.isEmpty then
      (blanks indent ++ Text.joined " " line.reverse)
        :: layParts width indent (indent + p.length) [p] rest
    else layParts width indent (used + 1 + p.length) (p :: line) rest

/-- Lines with the blanks that begin the first one taken away. -/
def dropIndent (indent : Nat) : List String → List String
  | [] => []
  | l :: rest => String.ofList (l.toList.drop indent) :: rest

/-- How each option is written in the short text. -/
def parts : List String :=
  Flag.all.map fun f => "[" ++ f.invocation ((f.spellings.head?).getD "") ++ "]"

/-- The lines after the lead of the short text.  A command with a short name has options on its
line. -/
def summaryLines (width : Nat) : List String :=
  let whole := Text.joined " " (command :: parts)
  let head := lead.length + command.length
  if lead.length + whole.length ≤ width then [whole]
  else if 4 * head ≤ 3 * width then
    dropIndent (head + 1) (layParts width (head + 1) (lead.length - 1) [] (command :: parts))
  else command :: layParts width lead.length (lead.length - 1) [] parts

/-- The short text, which comes with every complaint. -/
def summary (columns : Nat) : String :=
  lead ++ ofLines (summaryLines (widthOf columns))

/-- How far to the right the meanings of options begin. -/
def meaningColumn (width : Nat) : Nat :=
  min 24 (max (width - 20) 4)

/-- The lines about an option. -/
def optionLines (width : Nat) (f : Flag) : List String :=
  let column := meaningColumn width
  let header := Text.joined ", " (f.spellings.map f.invocation)
  let room := column - 4
  let meaning := Text.wrap (max (width - column) leastWidth) f.meaning
  let shifted := meaning.map (blanks column ++ ·)
  if header.length ≤ room then
    ("  " ++ header ++ blanks (room - header.length) ++ "  " ++ (meaning.head?).getD "")
      :: shifted.drop 1
  else ("  " ++ header) :: shifted

/-- The whole text. -/
def help (columns : Nat) : String :=
  let width := widthOf columns
  let block (s : String) : List String := Text.wrap (max width leastWidth) s
  summary columns
    ++ ofLines ("" :: block purpose ++ ["", "options:"]
      ++ Flag.all.flatMap (optionLines width) ++ "" :: block outlook)

/-- A complaint with the short text before it. -/
def complaint (columns : Nat) (text : String) : String :=
  summary columns ++ command ++ ": error: " ++ text ++ "\n"

end Usage
end Run
end Rebalance
