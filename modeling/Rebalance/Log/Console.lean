import Rebalance.Log.Level
import Rebalance.Log.Pattern
import Rebalance.Run.Act

/-!
# Loggers and the console

Loggers and the console they write to.  A logger that was created has two handlers: one writes
records up to warnings to the standard output, the other writes records from errors on to the
standard error.  A record of a logger goes through its own handlers and those of all loggers around
it, where dots in a name say which loggers are around it, and the root is around all.  A logger
without a level of its own takes the level of the nearest logger around it that has one.

* `Console.create`: a logger with its handlers, and a new level if one is given.
* `Console.log`: what a record adds to the two outputs.
-/

namespace Rebalance
namespace Log

/-- A logger. -/
structure Logger where
  name : String
  level : Level
  hasHandlers : Bool
deriving DecidableEq, Repr

/-- Text for the standard output and for the standard error. -/
structure Output where
  out : String
  err : String
deriving DecidableEq, Repr

namespace Output

/-- No text. -/
def none : Output :=
  ⟨"", ""⟩

/-- One output after another. -/
def append (a b : Output) : Output :=
  ⟨a.out ++ b.out, a.err ++ b.err⟩

instance : Append Output := ⟨append⟩

/-- An output several times over. -/
def repeated (o : Output) : Nat → Output
  | 0 => none
  | n + 1 => o ++ repeated o n

end Output

/-- Whether the handler of the standard output takes a record. -/
def isForOut (level : Int) : Bool :=
  decide (level ≤ 30)

/-- Whether the handler of the standard error takes a record. -/
def isForErr (level : Int) : Bool :=
  decide (40 ≤ level)

/-- What the two handlers of one logger write. -/
def handled (level : Int) (line : String) : Output :=
  ⟨if isForOut level then line else "", if isForErr level then line else ""⟩

/-- What is written about a record that no handler was asked for. -/
def unhandled (level : Int) (message : String) : Output :=
  ⟨"", if 30 ≤ level then message ++ "\n" else ""⟩

/-- The loggers asked for so far, in that order.  The first one is the root. -/
structure Console where
  loggers : List Logger
deriving DecidableEq, Repr

namespace Console

/-- The name of the root. -/
def rootName : String :=
  "root"

/-- The root as it is at first. -/
def firstRoot : Logger :=
  ⟨rootName, .warning, false⟩

/-- A console with a root and no other logger. -/
def start : Console :=
  ⟨[firstRoot]⟩

/-- The name of the logger that a name asks for. -/
def nameOf (name : String) : String :=
  if name = "" then rootName else name

/-- The logger of a name, if it was asked for. -/
def find? (c : Console) (name : String) : Option Logger :=
  c.loggers.find? fun l => l.name == name

/-- A logger that was asked for now. -/
def fresh (name : String) : Logger :=
  ⟨name, .unset, false⟩

/-- The logger of a name. -/
def logger (c : Console) (name : String) : Logger :=
  (c.find? (nameOf name)).getD (fresh (nameOf name))

/-- The root. -/
def root (c : Console) : Logger :=
  (c.find? rootName).getD firstRoot

/-- Asks for a logger. -/
def ask (c : Console) (name : String) : Console :=
  if (c.find? (nameOf name)).isSome then c else ⟨c.loggers ++ [fresh (nameOf name)]⟩

/-- Asks for a logger and changes it. -/
def update (c : Console) (name : String) (f : Logger → Logger) : Console :=
  ⟨(c.ask name).loggers.map fun l => if l.name = nameOf name then f l else l⟩

/-! ## The loggers around a logger -/

/-- The part of a name before its last dot. -/
def beforeDot (cs : List Char) : List Char :=
  ((cs.reverse.dropWhile (· ≠ '.')).drop 1).reverse

/-- The names around a name, nearest first. -/
def outerNames : (fuel : Nat) → List Char → List String
  | 0, _ => []
  | fuel + 1, cs =>
    let outer := beforeDot cs
    if outer.isEmpty then [] else String.ofList outer :: outerNames fuel outer.dropLast

/-- Whether one logger was asked for before another. -/
def isBefore (c : Console) (earlier later : String) : Bool :=
  (c.loggers.takeWhile fun l => l.name ≠ later).any fun l => l.name == earlier

/-- Whether a logger stands around another whose name says so.  A logger whose name begins the
root's name leaves those asked for before it to the root. -/
def takesIn (c : Console) (outer inner : String) : Bool :=
  (c.find? outer).isSome && (!rootName.startsWith outer || c.isBefore outer inner)

/-- The nearest logger around a logger, apart from the root. -/
def outer? (c : Console) (name : String) : Option String :=
  (outerNames name.length name.toList).find? fun outer => c.takesIn outer name

/-- A logger and those around it, from the inside out. -/
def lineage (c : Console) : (fuel : Nat) → String → List Logger
  | 0, _ => [c.root]
  | fuel + 1, name =>
    if name = rootName then [c.root]
    else
      c.logger name ::
        match c.outer? name with
        | some outer => lineage c fuel outer
        | none => [c.root]

/-- The loggers that a record of a logger goes through. -/
def lineageOf (c : Console) (name : String) : List Logger :=
  c.lineage (name.length + 1) (nameOf name)

/-- The level that a record of a logger must reach. -/
def levelOf (c : Console) (name : String) : Int :=
  (((c.lineageOf name).map fun l => l.level.value).find? (· ≠ 0)).getD 0

/-! ## Records -/

/-- Whether a logger takes a record of a level. -/
def isEnabled (c : Console) (name : String) (level : Int) : Bool :=
  decide (0 < level) && decide (c.levelOf name ≤ level)

/-- The line of a record of a level by its name. -/
def line (stamp name called message : String) : String :=
  stamp ++ " - " ++ called ++ " - " ++ nameOf name ++ " - " ++ message ++ "\n"

/-- What a record adds to the outputs.  There is no record of a level that cannot be named. -/
def written (c : Console) (stamp name : String) (level : Level) (message : String) : Output :=
  if c.isEnabled name level.value then
    match level.name? with
    | some called =>
      match ((c.lineageOf name).filter Logger.hasHandlers).length with
      | 0 => unhandled level.value message
      | n => (handled level.value (line stamp name called message)).repeated n
    | none => .none
  else .none

/-- Logs a message. -/
def log (c : Console) (stamp name : String) (level : Level) (message : String) :
    Console × Output :=
  let c := c.ask name
  (c, c.written stamp name level message)

/-- Logs a message given by a pattern and its arguments.  A pattern that does not fit its arguments
is not written, nor is one with a place that there is no room for. -/
def logPattern (c : Console) (room : Nat) (stamp name : String) (level : Level) (pattern : String)
    (args : List Data) : Console × Output :=
  match Pattern.message? room pattern args with
  | some message => c.log stamp name level message
  | none => (c.ask name, .none)

/-! ## Creating loggers -/

/-- A logger with its handlers. -/
def attach (l : Logger) : Logger :=
  { l with hasHandlers := true }

/-- A logger with its handlers and a level. -/
def attachAt (level : Level) (l : Logger) : Logger :=
  { l with hasHandlers := true, level := level }

/-- Creates a logger, or changes the level of the one there is.  A name of no level leaves the level
alone and is logged as an error; any other value that is no level stops the creation. -/
def create (c : Console) (stamp name : String) (level : Data) :
    Except Failure Output × Console :=
  match level with
  | .null => (.ok .none, c.update name attach)
  | level =>
    match Level.read level with
    | .ok l => (.ok .none, c.update name (attachAt l))
    | .error (.noLevel d) =>
      (.error (if d.isShown then .badLevel d.quoted else .tooManyDigits), c.ask name)
    | .error (.unknownName s) =>
      let (c, o) := (c.update name attach).log stamp name .error ("Invalid log level: " ++ s)
      (.ok o, c)

end Console
end Log
end Rebalance
