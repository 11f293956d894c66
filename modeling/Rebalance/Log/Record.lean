/-!
# What a run says

What a run leaves for its reader, in order: log records of four severities, and printed text.
-/

namespace Rebalance
namespace Log

/-- How much a record matters. -/
inductive Severity
  | debug
  | info
  | warning
  | error
deriving DecidableEq, Repr

/-- The number of a severity. -/
def Severity.level : Severity → Int
  | .debug => 10
  | .info => 20
  | .warning => 30
  | .error => 40

/-- The name of a severity. -/
def Severity.name : Severity → String
  | .debug => "DEBUG"
  | .info => "INFO"
  | .warning => "WARNING"
  | .error => "ERROR"

/-- A log record. -/
structure Record where
  severity : Severity
  text : String
deriving DecidableEq, Repr

/-- A log record or a printed text. -/
inductive Event
  | logged (r : Record)
  | printed (text : String)
deriving DecidableEq, Repr

/-- The log record of an event. -/
def Event.record? : Event → Option Record
  | .logged r => some r
  | .printed _ => none

/-- The printed text of an event. -/
def Event.text? : Event → Option String
  | .logged _ => none
  | .printed s => some s

end Log
end Rebalance
