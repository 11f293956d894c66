import Rebalance.Log.Record
import Rebalance.Run.Act

/-!
# The world of a run

The world a run works in: its files, its link to the nodes, the time, and what it has logged and
printed so far.
-/

namespace Rebalance

/-- Files, link, time and output. -/
structure World where
  files : Files.Tree
  link : Net.Link
  now : Time.Moment
  events : List Log.Event

namespace World

/-- The world after one more event. -/
def push (w : World) (e : Log.Event) : World :=
  { w with events := w.events ++ [e] }

/-- The log records so far. -/
def records (w : World) : List Log.Record :=
  w.events.filterMap Log.Event.record?

/-- The printed text so far. -/
def printed (w : World) : String :=
  String.join (w.events.filterMap Log.Event.text?)

end World

namespace Act

/-- Logs a record. -/
def log (severity : Log.Severity) (text : String) : Act World Unit :=
  modify fun w => w.push (.logged ⟨severity, text⟩)

/-- Logs records. -/
def logAll (records : List Log.Record) : Act World Unit :=
  modify fun w => { w with events := w.events ++ records.map .logged }

/-- Prints a text. -/
def print (text : String) : Act World Unit :=
  modify fun w => w.push (.printed text)

/-- Logs a failure's words as an error, and fails. -/
def abort {α : Type} (f : Failure) : Act World α := do
  log .error f.message
  fail f

end Act
end Rebalance
