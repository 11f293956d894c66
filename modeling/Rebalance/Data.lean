import Rebalance.Decimal.Binary
import Rebalance.Text.Codes
import Rebalance.Time.Moment

/-!
# Values of a document

Values of a document before anything is known about their meaning: what a JSON text, a YAML text or
a command's options hold.

* `Data.same`: equality of values that can be keys; numbers are equal across their kinds.
* `Data.put`: an entry written into a list of entries; the last value of a key wins and keeps the
  place of the first.
-/

namespace Rebalance

/-- A value of a document. -/
inductive Data
  | null
  | bool (b : Bool)
  | int (n : Int)
  | float (x : Float)
  | text (s : String)
  | bytes (bs : List Nat)
  | date (year month day : Nat)
  | moment (t : Time.Moment)
  | list (items : List Data)
  | set (items : List Data)
  | map (entries : List (Data × Data))

instance : Inhabited Data := ⟨.null⟩

namespace Data

/-- The whole number that a truth value or number is equal to. -/
def whole? : Data → Option Int
  | .bool b => some (if b then 1 else 0)
  | .int n => some n
  | .float x => Decimal.wholeValue? x
  | _ => none

/-- Whether a value can be a key or the member of a set. -/
def isKey : Data → Bool
  | .list _ | .set _ | .map _ => false
  | _ => true

/-- Equality of keys. -/
def same (a b : Data) : Bool :=
  match a, b with
  | .null, .null => true
  | .text s, .text t => s == t
  | .bytes s, .bytes t => s == t
  | .date y m d, .date y' m' d' => y == y' && m == m' && d == d'
  | .moment s, .moment t => s.same t
  | .float x, .float y => x == y || (x.isNaN && y.isNaN)
  | a, b =>
    match a.whole?, b.whole? with
    | some m, some n => m == n
    | _, _ => false

/-- Whether a value counts as present: zeros and empty values do not. -/
def isPresent : Data → Bool
  | .null => false
  | .bool b => b
  | .int n => n != 0
  | .float x => x != 0.0
  | .text s => !s.isEmpty
  | .bytes bs => !bs.isEmpty
  | .date _ _ _ | .moment _ => true
  | .list items | .set items => !items.isEmpty
  | .map entries => !entries.isEmpty

/-- Entries with the value of one key replaced, or with a new entry at the end. -/
def put (key value : Data) : List (Data × Data) → List (Data × Data)
  | [] => [(key, value)]
  | (k, v) :: rest => if k.same key then (k, value) :: rest else (k, v) :: put key value rest

/-- Entries written one after the other. -/
def ofEntries (entries : List (Data × Data)) : List (Data × Data) :=
  entries.foldl (fun es e => put e.1 e.2 es) []

/-- Whether a key is a given text. -/
def isText (name : String) : Data → Bool
  | .text s => s == name
  | _ => false

/-- The value of a named entry. -/
def find? (name : String) (entries : List (Data × Data)) : Option Data :=
  (entries.find? fun e => e.1.isText name).map Prod.snd

/-- The entries of a map. -/
def entries? : Data → Option (List (Data × Data))
  | .map es => some es
  | _ => none

end Data
end Rebalance
