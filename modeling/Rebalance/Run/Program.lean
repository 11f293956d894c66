import Rebalance.Log.Console
import Rebalance.Run.Arguments
import Rebalance.Run.Command
import Rebalance.Run.Kind
import Rebalance.Run.Usage

/-!
# The program

The program: a plan command from its command line to its exit.  A command line that cannot be read
ends with code 2 and a call for help with code 0, before anything else is touched.  A failure of the
command that has a message ends with code 1; the message is in the log.

* `Program.run`: how the program ended, what it wrote, and the world it left.
* `Program.runBy`: the same with another way to choose the planner.
-/

namespace Rebalance
namespace Run
namespace Program

/-- How a run of the program ended, what it wrote, and the world it left. -/
structure Ending where
  result : Except Failure Unit
  output : Log.Output
  world : World

/-- Runs the plan command with a planner on options read from the command line. -/
def planWith (room : Nat) (s : Settings) (o : Options) (planner : Move.Planner) :
    Act World Unit := fun w =>
  let c : Command := ⟨s, planner, .snapshot, room⟩
  match c.execute (.options o) ⟨w, .init, .empty, []⟩ with
  | (.ok _, session) => (.ok (), session.world)
  | (.error f, session) => (.error f, session.world)

/-- A way to choose the planner of some settings. -/
abbrev Chooser := Settings → Act World Move.Planner

/-- Reads the options, has a planner chosen and runs the plan command. -/
def plan (room : Nat) (choose : Chooser) (s : Settings) (a : Arguments) : Act World Unit := do
  let o ← Act.ofExcept (Options.parse a.entries)
  let planner ← choose s
  planWith room s o planner

/-- Logs a failure once more and leaves with code 1. -/
def leave (f : Failure) : Act World Unit := do
  Act.log .error f.message
  Act.log .error "Plan command aborted."
  Act.fail (.exit 1)

/-- An action that leaves with code 1 on a failure with a message. -/
def orLeave (x : Act World Unit) : Act World Unit := fun w =>
  match x w with
  | (.ok (), w) => (.ok (), w)
  | (.error f, w) => if f.kind?.isSome then leave f w else (.error f, w)

/-- What an event adds to the outputs. -/
def shown (c : Log.Console) (stamp name : String) : Log.Event → Log.Output
  | .printed s => ⟨s, ""⟩
  | .logged r => c.written stamp name (.number r.severity.level) r.text

/-- What events add to the outputs, in order. -/
def shownAll (c : Log.Console) (stamp name : String) (es : List Log.Event) : Log.Output :=
  es.foldl (fun o e => o ++ shown c stamp name e) .none

/-- What is said about the lines of the file of variables that cannot be read. -/
def fileWarnings (files : Files.Tree) : Log.Output :=
  match Lookup.fileLines (.ok .utf8) files Lookup.usualFile with
  | .error _ => .none
  | .ok ls =>
    ⟨"", Usage.ofLines ((EnvFile.unreadable ls).map fun (n : Nat) =>
      "python-dotenv could not parse statement starting at line " ++ Decimal.intText n)⟩

/-- Runs the program with arguments that were read and the level of its log. -/
def withArguments (room : Nat) (choose : Chooser) (stamp : String) (a : Arguments)
    (logLevel : String) (environment : List (String × String)) (w : World) : Ending :=
  let warnings := fileWarnings w.files
  match Settings.load w.files environment [] with
  | .error f => ⟨.error f, warnings, w⟩
  | .ok s =>
    match Log.Console.start.create stamp s.appName (.text (logLevel.map Char.toUpper)) with
    | (.error f, _) => ⟨.error f, warnings, w⟩
    | (.ok made, console) =>
      let (r, w) := orLeave (plan room choose s a) { w with events := [] }
      ⟨r, warnings ++ (made ++ shownAll console stamp s.appName w.events), w⟩

/-- Runs the program with a way to choose its planner. `stamp` stands at the head of each line of
the log, and `room` is the greatest width of a template's field that there is room for. -/
def runBy (room : Nat) (choose : Chooser) (stamp : String) (words : List String)
    (environment : List (String × String)) (w : World) : Ending :=
  match Arguments.read words with
  | .error .help => ⟨.error (.exit 0), ⟨Usage.help (Usage.columnsOf environment), ""⟩, w⟩
  | .error (.misuse m) =>
    ⟨.error (.exit 2), ⟨"", Usage.complaint (Usage.columnsOf environment) m.message⟩, w⟩
  | .ok a =>
    match a.logLevel with
    | .value logLevel => withArguments room choose stamp a logLevel environment w
    | .nothing => ⟨.error .noLevel, .none, w⟩

/-- Runs the program with the planner that its settings name. -/
def run (room : Nat) (stamp : String) (words : List String)
    (environment : List (String × String)) (w : World) : Ending :=
  runBy room choosePlanner stamp words environment w

end Program
end Run
end Rebalance
