import Rebalance.Data.Printed

/-!
# What a failure carries

What a failure carries: a list of values, of which the first is the message if there is one.  One
value reads as itself and more of them as a list in round brackets.  A failure of the system may
instead give a number, its meaning, and the names of up to two files; it then reads like the
system's own messages, and keeps only the number and the meaning.
-/

namespace Rebalance

/-- The values of a failure. -/
structure Details where
  isSystem : Bool
  items : List Data

namespace Details

/-- A value that is there. -/
def given? : Data → Option Data
  | .null => none
  | d => some d

/-- The names of files in a system failure: the third value, and the fifth beside it. -/
def names : List Data → List Data
  | [_, _, name] | [_, _, name, _] => (given? name).toList
  | [_, _, name, _, other] =>
    match given? name with
    | some name => name :: (given? other).toList
    | none => []
  | _ => []

/-- Whether values give a number and its meaning. -/
def isNumbered (ds : List Data) : Bool :=
  decide (2 ≤ ds.length ∧ ds.length ≤ 5)

/-- The values that are kept. -/
def kept (d : Details) : List Data :=
  if d.isSystem && isNumbered d.items && !(names d.items).isEmpty then d.items.take 2 else d.items

/-- A list of values in round brackets. -/
def listed (ds : List Data) : String :=
  "(" ++ Data.commas (Data.quotedItems ds) ++ ")"

/-- A number and its meaning, and the names they concern. -/
def numbered (ds : List Data) : String :=
  let head := ds.take 2
  let lead := "[Errno " ++ Data.plain (head.headD .null) ++ "] "
    ++ Data.plain ((head.drop 1).headD .null)
  match names ds with
  | [] => lead
  | ns => lead ++ ": " ++ Text.joined " -> " (ns.map Data.quoted)

/-- What a failure says. -/
def text (d : Details) : String :=
  match d.items with
  | [] => ""
  | [x] => x.plain
  | ds => if d.isSystem && isNumbered ds then numbered ds else listed ds

end Details
end Rebalance
