import Rebalance.Decimal.Layout
import Rebalance.Log.Record

/-!
# Thresholds

The tolerated skew between disks, as a percentage above 0 and up to 100.  A user's percentage that
is missing or out of range gives way to the default of the settings, and a default out of range
gives way to 10.
-/

namespace Rebalance
namespace Threshold

/-- A number as it was given. -/
inductive Quantity
  | truth (b : Bool)
  | whole (n : Int)
  | real (x : Float)

/-- The text of a number. -/
def Quantity.text : Quantity → String
  | .truth b => if b then "True" else "False"
  | .whole n => Decimal.intText n
  | .real x => Decimal.floatText x

/-- The text of a number that may be missing. -/
def textOf : Option Quantity → String
  | none => "None"
  | some q => q.text

/-- Whether a number is a percentage above 0 and up to 100. -/
def Quantity.isValid : Quantity → Bool
  | .truth b => b
  | .whole n => decide (0 < n ∧ n ≤ 100)
  | .real x => decide (0.0 < x) && decide (x ≤ 100.0)

/-- Whether there is a number and it is a percentage above 0 and up to 100. -/
def isValid : Option Quantity → Bool
  | none => false
  | some q => q.isValid

/-- A number as a double. -/
def Quantity.toFloat : Quantity → Float
  | .truth b => if b then 1.0 else 0.0
  | .whole n => Decimal.ofInt n
  | .real x => x

/-- The percentage that stands in for a bad default. -/
def fallback : Quantity :=
  .real 10.0

/-- The percentage to use, and the records that tell how it was found. -/
def resolve (user standard : Option Quantity) : Quantity × List Log.Record :=
  let warned : Quantity × List Log.Record :=
    (fallback, [⟨.warning, "Invalid default threshold " ++ textOf standard
      ++ ". Using " ++ fallback.text⟩])
  let (q, records) :=
    match user.filter Quantity.isValid, standard.filter Quantity.isValid with
    | some q, _ => (q, [])
    | none, some q => (q, [])
    | none, none => warned
  (q, records ++ [⟨.debug, "Threshold percentage is " ++ q.text⟩])

end Threshold
end Rebalance
