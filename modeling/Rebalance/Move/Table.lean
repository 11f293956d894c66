import Rebalance.Move.Plan
import Rebalance.Text.Align
import Rebalance.Text.Wrap

/-!
# The table of planned moves

The table of planned moves: a heading, one row for each step, and a closing rule.
-/

namespace Rebalance
namespace Move
namespace Table

/-- The titles and widths of the columns. -/
def columns : List (String × Nat) :=
  [("Source Disk", 30), ("Dest.Disk", 30), ("Size", 10), ("Type", 10)]

/-- The line above the titles and below the rows. -/
def rule : String :=
  String.ofList (List.replicate 80 '=')

/-- A text in the middle of a column. -/
def cell (text : String) (width : Nat) : String :=
  String.ofList (Text.centre width text.toList)

/-- The line of titles. -/
def titles : String :=
  String.join (columns.map fun c => cell c.1 c.2)

/-- A row of the table. -/
def row (values : List String) : String :=
  Text.joined " " (List.zipWith (fun v c => cell v c.2) values columns)

/-- The row of a step; `none` when its size has no text. -/
def stepRow? (s : Step) : Option String :=
  s.sizeText?.map fun size =>
    row [s.source.path, s.destination.path, size, s.destination.storageType]

/-- The lines of the table; `none` when a size has no text. -/
def lines? (plans : List Plan) : Option (List String) :=
  ((plans.flatMap Plan.steps).mapM stepRow?).map fun rows =>
    ["", "Plan :", "", rule, titles] ++ rows ++ [rule]

/-- The text of the table; `none` when a size has no text. -/
def render? (plans : List Plan) : Option String :=
  (lines? plans).map fun ls => Text.joined "\n" ls ++ "\n"

end Table
end Move
end Rebalance
