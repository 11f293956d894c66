import Rebalance.Data

/-!
# Levels of records and loggers

Levels of log records and of loggers.  A level is a number; the usual ones have names.  `Level.read`
takes a name or a number.
-/

namespace Rebalance
namespace Log

/-- A level: a number, or a truth value that counts as one. -/
inductive Level
  | number (n : Int)
  | truth (b : Bool)
deriving DecidableEq, Repr

/-- Why a value is no level. -/
inductive LevelFault
  | unknownName (name : String)
  | noLevel (given : Data)

/-- The names that stand for levels. -/
def levelNames : List (String × Int) :=
  [("CRITICAL", 50), ("FATAL", 50), ("ERROR", 40), ("WARN", 30), ("WARNING", 30), ("INFO", 20),
   ("DEBUG", 10), ("NOTSET", 0)]

namespace Level

/-- The number of a level. -/
def value : Level → Int
  | .number n => n
  | .truth b => if b then 1 else 0

/-- The level that stands for no level of one's own. -/
def unset : Level :=
  .number 0

/-- The level of warnings. -/
def warning : Level :=
  .number 30

/-- The level of errors. -/
def error : Level :=
  .number 40

/-- The level as messages show it.  A number of too many digits has no text. -/
def text? : Level → Option String
  | .number n => if Decimal.isShort n then some (Decimal.intText n) else none
  | .truth b => some (if b then "True" else "False")

/-- What a record of the level is called, if it can be called anything. -/
def name? (l : Level) : Option String :=
  match l.value with
  | 50 => some "CRITICAL"
  | 40 => some "ERROR"
  | 30 => some "WARNING"
  | 20 => some "INFO"
  | 10 => some "DEBUG"
  | 0 => some "NOTSET"
  | _ => l.text?.map ("Level " ++ ·)

/-- The level of a name. -/
def ofName? (name : String) : Option Level :=
  (levelNames.find? fun e => e.1 == name).map fun e => .number e.2

/-- Reads a level. -/
def read : Data → Except LevelFault Level
  | .int n => .ok (.number n)
  | .bool b => .ok (.truth b)
  | .text s =>
    match ofName? s with
    | some l => .ok l
    | none => .error (.unknownName s)
  | d => .error (.noLevel d)

end Level
end Log
end Rebalance
