import Rebalance.Decimal.Rounded
import Rebalance.Text.Codes
import Rebalance.Time.Reader

/-!
# Issues of a document

What can be wrong with the fields of a document.  An issue names the place of a value, as the keys
and positions that lead to it, and its flaw; each flaw has one message.
-/

namespace Rebalance
namespace Schema

/-- A step on the way to a value. -/
inductive Place
  | key (name : String)
  | index (i : Int)
deriving DecidableEq, Repr

/-- What is wrong with a value. -/
inductive Flaw
  | missing
  | notText
  | emptyText
  | brokenText
  | notWhole
  | unreadableWhole
  | wholeTooLong
  | hasFraction
  | notFinite
  | notNumber
  | unreadableNumber
  | notBool
  | unreadableBool
  | notAbove (bound : Nat)
  | notAtLeast (bound : Nat)
  | notBelow (bound : Nat)
  | notList
  | notMap
  | notEntity (name : String)
  | notPath
  | notAddress
  | notMoment
  | unreadableMoment (fault : Time.MomentFault)
  | rule (text : String)
  | unexpected
  | noImport (text : String)
deriving DecidableEq, Repr

/-- The message about a text that is no moment. -/
def momentMessage : Time.MomentFault → String
  | .date fault => "Input should be a valid datetime or date, " ++ fault.message
  | .notNumber => "Input should be a valid datetime, NaN values not permitted"
  | .range fault => "Input should be a valid datetime, " ++ fault.message
  | .yearZero => "Input should be a valid datetime, year 0 is out of range"

/-- The message of a flaw. -/
def Flaw.message : Flaw → String
  | .missing => "Field required"
  | .notText => "Input should be a valid string"
  | .emptyText => "String should have at least 1 character"
  | .brokenText => "Input should be a valid string, unable to parse raw data as a unicode string"
  | .notWhole => "Input should be a valid integer"
  | .unreadableWhole => "Input should be a valid integer, unable to parse string as an integer"
  | .wholeTooLong => "Unable to parse input string as an integer, exceeded maximum size"
  | .hasFraction => "Input should be a valid integer, got a number with a fractional part"
  | .notFinite => "Input should be a finite number"
  | .notNumber => "Input should be a valid number"
  | .unreadableNumber => "Input should be a valid number, unable to parse string as a number"
  | .notBool => "Input should be a valid boolean"
  | .unreadableBool => "Input should be a valid boolean, unable to interpret input"
  | .notAbove bound => "Input should be greater than " ++ Decimal.intText bound
  | .notAtLeast bound => "Input should be greater than or equal to " ++ Decimal.intText bound
  | .notBelow bound => "Input should be less than " ++ Decimal.intText bound
  | .notList => "Input should be a valid list"
  | .notMap => "Input should be a valid dictionary"
  | .notEntity name => "Input should be a valid dictionary or instance of " ++ name
  | .notPath => "Input is not a valid path for <class 'pathlib.Path'>"
  | .notAddress => "value is not a valid IPv4 or IPv6 address"
  | .notMoment => "Input should be a valid datetime"
  | .unreadableMoment fault => momentMessage fault
  | .rule text => "Value error, " ++ Text.withoutSurrogates text
  | .unexpected => "Extra inputs are not permitted"
  | .noImport text => "Invalid python path: " ++ text

/-- A flaw and the way to the value that has it. -/
structure Issue where
  loc : List Place
  flaw : Flaw
deriving DecidableEq, Repr

/-- The same issue, seen from one step further out. -/
def Issue.under (p : Place) (i : Issue) : Issue :=
  { i with loc := p :: i.loc }

/-- The outcome of checking: a value, or everything that is wrong. -/
inductive Checked (α : Type)
  | ok (value : α)
  | wrong (issues : List Issue)

namespace Checked

variable {α β : Type}

/-- A single flaw at the value itself. -/
def flaw (f : Flaw) : Checked α :=
  .wrong [⟨[], f⟩]

/-- The same outcome, seen from one step further out. -/
def under (p : Place) : Checked α → Checked α
  | .ok a => .ok a
  | .wrong is => .wrong (is.map (Issue.under p))

/-- A further check of a value that is right so far. -/
def andThen (x : Checked α) (f : α → Checked β) : Checked β :=
  match x with
  | .ok a => f a
  | .wrong is => .wrong is

/-- The value, changed. -/
def map (f : α → β) : Checked α → Checked β
  | .ok a => .ok (f a)
  | .wrong is => .wrong is

/-- Two outcomes side by side: every issue of both counts. -/
def seq (f : Checked (α → β)) (x : Unit → Checked α) : Checked β :=
  match f, x () with
  | .ok f, .ok a => .ok (f a)
  | .ok _, .wrong is => .wrong is
  | .wrong is, .ok _ => .wrong is
  | .wrong is, .wrong js => .wrong (is ++ js)

instance : Applicative Checked where
  pure := .ok
  map := map
  seq := seq

/-- The value, if there is one. -/
def value? : Checked α → Option α
  | .ok a => some a
  | .wrong _ => none

end Checked
end Schema
end Rebalance
