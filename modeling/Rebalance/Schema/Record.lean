import Rebalance.Data.Printed
import Rebalance.Schema.Issue

/-!
# Reading lists, maps and entities

Every part is read, and the issues of all parts are reported in the order of the parts.  An entity
reads the entries it knows by name and passes over all others.
-/

namespace Rebalance
namespace Schema

variable {α : Type}

/-- Reads the items of a list from place `i` on. -/
def readItems (read : Data → Checked α) (i : Nat) : List Data → Checked (List α)
  | [] => .ok []
  | d :: rest => List.cons <$> (read d).under (.index i) <*> readItems read (i + 1) rest

/-- Reads a list. -/
def readList (read : Data → Checked α) : Data → Checked (List α)
  | .list items => readItems read 0 items
  | .set items => readItems read 0 items
  | _ => .flaw .notList

/-- The step that leads to the value of a key. -/
def placeOf : Data → Place
  | .text s => .key (Text.withoutSurrogates s)
  | .bool b => .index (if b then 1 else 0)
  | .int n => if -2 ^ 63 ≤ n ∧ n < 2 ^ 63 then .index n else .key (Decimal.intText n)
  | d => .key d.quoted

/-- Reads the entries of a map, their keys by `readKey`. -/
def readEntries (readKey : Data → Checked String) (read : Data → Checked α) :
    List (Data × Data) → Checked (List (String × α))
  | [] => .ok []
  | (k, v) :: rest =>
    let place := placeOf k
    let key := ((readKey k).under (.key "[key]")).under place
    let entry := Prod.mk <$> key <*> (read v).under place
    List.cons <$> entry <*> readEntries readKey read rest

/-- An entry written into a map whose keys are texts. -/
def put (key : String) (value : α) : List (String × α) → List (String × α)
  | [] => [(key, value)]
  | (k, v) :: rest => if k = key then (k, value) :: rest else (k, v) :: put key value rest

/-- Reads a map.  Keys that are read as the same text count once. -/
def readMap (readKey : Data → Checked String) (read : Data → Checked α) :
    Data → Checked (List (String × α))
  | .map entries =>
    (readEntries readKey read entries).map fun es => es.foldl (fun acc e => put e.1 e.2 acc) []
  | _ => .flaw .notMap

/-- Values under their names, as the entries of a map. -/
def named (values : List (String × Data)) : List (Data × Data) :=
  values.map fun e => (.text e.1, e.2)

/-- Reads an entity from a map. -/
def readEntity (name : String) (read : List (Data × Data) → Checked α) : Data → Checked α
  | .map entries => read entries
  | _ => .flaw (.notEntity name)

/-- Reads an entry that has to be there. -/
def required (entries : List (Data × Data)) (name : String) (read : Data → Checked α) :
    Checked α :=
  match Data.find? name entries with
  | some d => (read d).under (.key name)
  | none => (Checked.flaw .missing).under (.key name)

/-- Reads an entry that has a value of its own when it is not there. -/
def optional (entries : List (Data × Data)) (name : String) (value : α)
    (read : Data → Checked α) :
    Checked α :=
  match Data.find? name entries with
  | some d => (read d).under (.key name)
  | none => .ok value

/-- Reads a value that may be `null`. -/
def readNullable (read : Data → Checked α) : Data → Checked (Option α)
  | .null => .ok none
  | d => (read d).map some

end Schema
end Rebalance
