import Rebalance.Data.Printed

/-!
# Repeated values

A value is repeated when an equal one stands before it, so that a value occurring `m` times is
repeated `m - 1` times, each time with its own text.
-/

namespace Rebalance
namespace Duplicates

/-- The values that have an equal one before them or among those already seen. -/
def repeats {α : Type} (same : α → α → Bool) (seen : List α) : List α → List α
  | [] => []
  | a :: rest =>
    if seen.any (same a) then a :: repeats same seen rest
    else repeats same (a :: seen) rest

/-- The message about repeated values, or about a repeated field of items. -/
def message (field : Option String) (texts : List String) : String :=
  match field with
  | some name => "There are multiple items with identical " ++ name ++ ": " ++ Text.joined "," texts
  | none => "There are multiple identical items: " ++ Text.joined "," texts

/-- The message about the repeated names among a list of names, if there are any. -/
def ofNames? (field : String) (names : List String) : Option String :=
  match repeats (· == ·) [] names with
  | [] => none
  | dupes => some (message (some field) dupes)

/-- Why a list of values is refused. -/
inductive Fault
  | noField (name : String)
  | notComparable (kind : String)
  | tooManyDigits
  | repeated (field : Option String) (texts : List String)
deriving DecidableEq, Repr

/-- The message of a fault. -/
def Fault.message : Fault → String
  | .noField name => "'types.SimpleNamespace' object has no attribute '" ++ name ++ "'"
  | .notComparable kind => "unhashable type: '" ++ kind ++ "'"
  | .tooManyDigits => Decimal.tooLongMessage
  | .repeated field texts => Duplicates.message field texts

/-- The kind of a value that cannot be told apart by a look-up. -/
def kindOf : Data → String
  | .list _ => "list"
  | .set _ => "set"
  | _ => "dict"

/-- Checks that values are pairwise different.  Values are looked up one after the other, and each
that is repeated is turned into its text at once, so what comes first of a text that cannot be made
and a value that cannot be looked up is the fault. -/
def check (field : Option String) (values : List Data) : Except Fault Unit :=
  let dupes := repeats Data.same [] (values.takeWhile Data.isKey)
  if !dupes.all Data.isShown then .error .tooManyDigits
  else
    match values.find? fun d => !d.isKey with
    | some d => .error (.notComparable (kindOf d))
    | none => if dupes.isEmpty then .ok () else .error (.repeated field (dupes.map Data.plain))

/-! ## Items with fields -/

/-- A field of an item. -/
def fieldOf (name : String) (entries : List (Data × Data)) : Except Fault Data :=
  match Data.find? name entries with
  | some d => .ok d
  | none => .error (.noField name)

/-- Checks that a field differs between items.  Every item has to have it. -/
def checkField (name : String) (items : List (List (Data × Data))) : Except Fault Unit := do
  let values ← items.mapM (fieldOf name)
  check (some name) values

end Duplicates
end Rebalance
