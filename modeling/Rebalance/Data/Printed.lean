import Rebalance.Data
import Rebalance.Decimal.Layout
import Rebalance.Text.Quoted
import Rebalance.Text.Wrap

/-!
# Values in messages

Values as messages show them.  `Data.quoted` shows texts between quotes, so that different values
look different; `Data.plain` shows a text as itself, and a date or moment as it is written.  A value
with a whole number of too many digits cannot be shown (`Data.isShown`).
-/

namespace Rebalance
namespace Data

/-- Parts of a printed value with commas between them. -/
def commas (parts : List String) : String :=
  Text.joined ", " parts

/-- A distance from UTC, in minutes, as a printed moment shows it. -/
def zonePart : Option Int → List String
  | none => []
  | some 0 => ["tzinfo=datetime.timezone.utc"]
  | some minutes =>
    let seconds := minutes * 60
    let days := seconds.fdiv 86400
    let rest := seconds.fmod 86400
    let parts :=
      (if days = 0 then [] else ["days=" ++ Decimal.intText days])
        ++ (if rest = 0 then [] else ["seconds=" ++ Decimal.intText rest])
    ["tzinfo=datetime.timezone(datetime.timedelta(" ++ commas parts ++ "))"]

/-- A printed moment.  Seconds and microseconds are left out from the end while they are zero. -/
def momentText (t : Time.Moment) : String :=
  let numbers :=
    [t.year, t.month, t.day, t.hour, t.minute]
      ++ (if t.micro ≠ 0 then [t.second, t.micro] else if t.second ≠ 0 then [t.second] else [])
  "datetime.datetime("
    ++ commas (numbers.map (fun n : Nat => Decimal.intText n) ++ zonePart t.offset) ++ ")"

/-- A moment on its own, with a blank between its date and its time. -/
def spacedMoment (t : Time.Moment) : List Char :=
  t.dateText ++ ' ' :: (Decimal.filled 2 t.hour ++ ':' :: (Decimal.filled 2 t.minute
    ++ ':' :: (Decimal.filled 2 t.second
      ++ ((if t.micro = 0 then [] else '.' :: Decimal.filled 6 t.micro)
        ++ ((t.offset.map Time.offsetText).getD [])))))

/-- Bytes between quotes; those that are no visible ASCII character are escaped. -/
def bytesText (bs : List Nat) : String :=
  let cs := bs.map Char.ofNat
  let mark := Text.quoteMark cs
  let plain (c : Char) : Bool := decide (0x20 ≤ c.toNat ∧ c.toNat < 0x7f)
  String.ofList ('b' :: mark :: (cs.flatMap (Text.quoteChar plain mark) ++ [mark]))

mutual

/-- A value as messages show it inside other values. -/
def quoted : Data → String
  | .null => "None"
  | .bool b => if b then "True" else "False"
  | .int n => Decimal.intText n
  | .float x => Decimal.floatText x
  | .text s => Text.quote s
  | .bytes bs => bytesText bs
  | .date y m d =>
    "datetime.date(" ++ commas ([y, m, d].map fun n => Decimal.intText (n : Nat)) ++ ")"
  | .moment t => momentText t
  | .list items => "[" ++ commas (quotedItems items) ++ "]"
  | .set items => if items.isEmpty then "set()" else "\x7b" ++ commas (quotedItems items) ++ "\x7d"
  | .map entries => "\x7b" ++ commas (quotedEntries entries) ++ "\x7d"

/-- The shown items of a list. -/
def quotedItems : List Data → List String
  | [] => []
  | d :: rest => quoted d :: quotedItems rest

/-- The shown entries of a map. -/
def quotedEntries : List (Data × Data) → List String
  | [] => []
  | (k, v) :: rest => (quoted k ++ ": " ++ quoted v) :: quotedEntries rest

end

mutual

/-- Whether messages can show a value: no whole number in it has too many digits. -/
def isShown : Data → Bool
  | .int n => Decimal.isShort n
  | .list items | .set items => areShown items
  | .map entries => haveShown entries
  | _ => true

/-- Whether messages can show the items of a list. -/
def areShown : List Data → Bool
  | [] => true
  | d :: rest => isShown d && areShown rest

/-- Whether messages can show the entries of a map. -/
def haveShown : List (Data × Data) → Bool
  | [] => true
  | (k, v) :: rest => isShown k && isShown v && haveShown rest

end

/-- The name of a value's kind, as messages give it. -/
def kindName : Data → String
  | .null => "NoneType"
  | .bool _ => "bool"
  | .int _ => "int"
  | .float _ => "float"
  | .text _ => "str"
  | .bytes _ => "bytes"
  | .date _ _ _ => "datetime.date"
  | .moment _ => "datetime.datetime"
  | .list _ => "list"
  | .set _ => "set"
  | .map _ => "dict"

/-- A value as a message shows it on its own. -/
def plain : Data → String
  | .text s => s
  | .date y m d =>
    String.ofList (Decimal.filled 4 y ++ '-' :: (Decimal.filled 2 m ++ '-' :: Decimal.filled 2 d))
  | .moment t => String.ofList (spacedMoment t)
  | d => quoted d

end Data
end Rebalance
