import Rebalance.Decimal.Rounded
import Rebalance.Time.Calendar

/-!
# Moments

Moments: a date, a time of day to the microsecond, and perhaps a distance from UTC.

* `Moment.text`: the stored form, where UTC is `Z` and microseconds appear only when there are any.
* `Moment.folderName`: the name of the folder of a run, which tells runs apart by the second.
-/

namespace Rebalance
namespace Time

/-- A point of a clock's time.  `offset` counts the minutes east of UTC; a moment without one is
a wall clock's time. -/
structure Moment where
  year : Nat
  month : Nat
  day : Nat
  hour : Nat
  minute : Nat
  second : Nat
  micro : Nat
  offset : Option Int
deriving DecidableEq, Repr

/-- A distance from UTC as sign, hours and minutes. -/
def offsetText (minutes : Int) : List Char :=
  let sign := if minutes < 0 then '-' else '+'
  let size := minutes.natAbs
  sign :: (Decimal.filled 2 (size / 60) ++ ':' :: Decimal.filled 2 (size % 60))

/-- The zone at the end of a stored moment. -/
def zoneText : Option Int → List Char
  | none => []
  | some 0 => ['Z']
  | some minutes => offsetText minutes

/-- The date of a moment. -/
def Moment.dateText (t : Moment) : List Char :=
  Decimal.filled 4 t.year ++ '-' :: (Decimal.filled 2 t.month ++ '-' :: Decimal.filled 2 t.day)

/-- The stored form of a moment. -/
def Moment.text (t : Moment) : List Char :=
  t.dateText ++ 'T' :: (Decimal.filled 2 t.hour ++ ':' :: (Decimal.filled 2 t.minute
    ++ ':' :: (Decimal.filled 2 t.second
      ++ ((if t.micro = 0 then [] else '.' :: Decimal.filled 6 t.micro) ++ zoneText t.offset))))

/-- The name of the folder of a run that starts at a moment. -/
def Moment.folderName (t : Moment) : String :=
  String.ofList <|
    Decimal.digits t.year ++ '-' :: ((monthName t.month).toList
      ++ '-' :: (Decimal.filled 2 t.day ++ '-' :: (Decimal.filled 2 t.hour
        ++ '-' :: (Decimal.filled 2 t.minute ++ '-' :: Decimal.filled 2 t.second))))

/-- The microseconds from the start of the day numbering, on the moment's own clock. -/
def Moment.ticks (t : Moment) : Int :=
  ((dayNumber t.year t.month t.day * 24 + t.hour) * 60 + t.minute) * 60000000
    + t.second * 1000000 + t.micro

/-- Whether two moments are the same.  With offsets the instants are compared, without them the
clocks; a moment with an offset is never one without. -/
def Moment.same (s t : Moment) : Bool :=
  match s.offset, t.offset with
  | none, none => decide (s.ticks = t.ticks)
  | some a, some b => decide (s.ticks - a * 60000000 = t.ticks - b * 60000000)
  | _, _ => false

/-- The same clock time, said to be in UTC. -/
def Moment.inUtc (t : Moment) : Moment :=
  { t with offset := some 0 }

end Time
end Rebalance
