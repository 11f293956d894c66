import Rebalance.Decimal.Numeral
import Rebalance.Text.Classes
import Rebalance.Time.Moment

/-!
# Reading moments

A text is a date and a time of day, with an optional distance from UTC; or a number of seconds
since the start of 1970; or a date alone, which means its midnight.  A number too large to be
seconds counts milliseconds.
-/

namespace Rebalance
namespace Time

/-- What is wrong with a date. -/
inductive DateFault
  | tooShort
  | badYear
  | badMonthChar
  | badDayChar
  | badSeparator
  | monthRange
  | dayRange
  | extra
  | tooLate
  | tooEarly
deriving DecidableEq, Repr

/-- The message of a fault in a date. -/
def DateFault.message : DateFault → String
  | .tooShort => "input is too short"
  | .badYear => "invalid character in year"
  | .badMonthChar => "invalid character in month"
  | .badDayChar => "invalid character in day"
  | .badSeparator => "invalid date separator, expected `-`"
  | .monthRange => "month value is outside expected range of 1-12"
  | .dayRange => "day value is outside expected range"
  | .extra => "unexpected extra characters at the end of the input"
  | .tooLate => "dates after 9999 are not supported as unix timestamps"
  | .tooEarly => "dates before 0000 are not supported as unix timestamps"

/-- What is wrong with a moment. -/
inductive MomentFault
  | date (fault : DateFault)
  | notNumber
  | range (fault : DateFault)
  | yearZero
deriving DecidableEq, Repr

/-- The value of exactly `n` digits at the head of a text. -/
def fixed? (n : Nat) (cs : List Char) : Option (Nat × List Char) :=
  let ds := cs.take n
  if ds.length = n ∧ ds.all Decimal.isDigit then some (Decimal.valueOf 0 ds, cs.drop n) else none

/-- Reads a date at the head of a text, which has to be ten bytes long at least. -/
def readDate (cs : List Char) : Except DateFault ((Nat × Nat × Nat) × List Char) :=
  if (String.ofList cs).utf8ByteSize < 10 then .error .tooShort
  else
    match fixed? 4 cs with
    | none => .error .badYear
    | some (year, rest) =>
      if rest.head? ≠ some '-' then .error .badSeparator
      else
        match fixed? 2 (rest.drop 1) with
        | none => .error .badMonthChar
        | some (month, rest) =>
          if rest.head? ≠ some '-' then .error .badSeparator
          else
            match fixed? 2 (rest.drop 1) with
            | none => .error .badDayChar
            | some (day, rest) =>
              if month < 1 ∨ 12 < month then .error .monthRange
              else if day < 1 ∨ daysIn year month < day then .error .dayRange
              else .ok ((year, month, day), rest)

/-- Reads hours and minutes of a distance from UTC, up to the end of the text. -/
def readOffset? (negative : Bool) (cs : List Char) : Option Int := do
  let (hours, rest) ← fixed? 2 cs
  let rest := if rest.head? = some ':' then rest.drop 1 else rest
  let (minutes, rest) ← fixed? 2 rest
  if rest.isEmpty ∧ hours < 24 ∧ minutes < 60 then
    let size : Int := (hours : Int) * 60 + (minutes : Int)
    return if negative then -size else size
  else none

/-- Reads the zone at the end of a text, where an empty text means none. -/
def readZone? : List Char → Option (Option Int)
  | [] => some none
  | c :: rest =>
    if c = 'Z' ∨ c = 'z' then (if rest.isEmpty then some (some 0) else none)
    else if c = '+' then (readOffset? false rest).map some
    else if c = '-' ∨ c.toNat = 0x2212 then (readOffset? true rest).map some
    else none

/-- Reads an optional fraction of a second, of which six digits count. -/
def readMicro? : List Char → Option (Nat × List Char)
  | [] => some (0, [])
  | c :: rest =>
    if c = '.' ∨ c = ',' then
      let ds := rest.takeWhile Decimal.isDigit
      if ds.isEmpty then none
      else
        let kept := ds.take 6
        some (Decimal.valueOf 0 kept * 10 ^ (6 - kept.length), rest.dropWhile Decimal.isDigit)
    else some (0, c :: rest)

/-- Reads a time of day and a zone after a date. -/
def readClock? (date : Nat × Nat × Nat) (cs : List Char) : Option Moment := do
  let (hour, rest) ← fixed? 2 cs
  if rest.head? ≠ some ':' then none
  let (minute, rest) ← fixed? 2 (rest.drop 1)
  if 23 < hour ∨ 59 < minute then none
  let (second, micro, rest) ←
    (if rest.head? = some ':' then do
      let (second, rest) ← fixed? 2 (rest.drop 1)
      let (micro, rest) ← readMicro? rest
      return (second, micro, rest)
    else
      return (0, 0, rest) : Option (Nat × Nat × List Char))
  if 59 < second then none
  let offset ← readZone? rest
  return ⟨date.1, date.2.1, date.2.2, hour, minute, second, micro, offset⟩

/-- Reads a date and a time of day. -/
def readFull? (cs : List Char) : Option Moment :=
  match readDate cs with
  | .ok (date, sep :: rest) =>
    if sep = 'T' ∨ sep = 't' ∨ sep = ' ' ∨ sep = '_' then readClock? date rest else none
  | _ => none

/-- The number of seconds above which a number counts milliseconds. -/
def secondsLimit : Nat :=
  20000000000

/-- The last second of the year 9999 and the first of the year 0. -/
def secondRange : Int × Int :=
  (-62167219200, 253402300799)

/-- The moment that lies some microseconds after the start of 1970, in UTC. -/
def ofMicros (micros : Int) : Except MomentFault Moment :=
  let seconds := micros.fdiv 1000000
  if seconds < secondRange.1 then .error (.range .tooEarly)
  else if secondRange.2 < seconds then .error (.range .tooLate)
  else
    let days := seconds.fdiv 86400
    let rest := (seconds - days * 86400).toNat
    let (year, month, day) := dateOf (days + epochDay)
    if year ≤ 0 then .error .yearZero
    else
      .ok ⟨year.toNat, month, day, rest / 3600, rest / 60 % 60, rest % 60,
        (micros.fmod 1000000).toNat, some 0⟩

/-- How many microseconds a unit of a number has: a second, or a millisecond where the number is
too large to count seconds. -/
def unitOf (large : Bool) : Nat :=
  if large then 1000 else 1000000

/-- The moment of a whole number of seconds or milliseconds. -/
def ofUnix (n : Int) : Except MomentFault Moment :=
  ofMicros (n * unitOf (decide (secondsLimit < n.natAbs)))

/-- Reads a whole number of 64 bits. -/
def readInt64? (cs : List Char) : Option Int :=
  let (negative, ds) := Decimal.takeSign cs
  let n := Decimal.valueOf 0 ds
  if ds.isEmpty ∨ !ds.all Decimal.isDigit ∨ 2 ^ 63 ≤ n then none
  else some (if negative then -(n : Int) else n)

/-- Reads a number with a decimal point whose whole part has 64 bits. -/
def readPoint? (cs : List Char) : Option Float :=
  let rest := (Decimal.takeSign cs).2
  let whole := rest.takeWhile Decimal.isDigit
  if (rest.dropWhile Decimal.isDigit).head? = some '.' ∧ Decimal.valueOf 0 whole < 2 ^ 63 then
    Decimal.readFloat? cs
  else none

/-- The moment of a number of seconds or milliseconds.  What the number exceeds its floor by is
rounded to microseconds. -/
def ofNumber (x : Float) : Except MomentFault Moment :=
  if x.isNaN then .error .notNumber
  else
    match Decimal.wholeValue? x.floor with
    | none => .error (.range (if x < 0.0 then .tooEarly else .tooLate))
    | some n =>
      let unit := unitOf (decide (Decimal.ofInt secondsLimit < x.abs))
      let micros := ((x - x.floor) * Decimal.ofInt unit).round
      ofMicros (n * unit + (Decimal.wholeValue? micros).getD 0)

/-- A moment whose year exists. -/
def checkYear (t : Moment) : Except MomentFault Moment :=
  if t.year = 0 then .error .yearZero else .ok t

/-- The moment that a text without a time of day stands for. -/
def readDateOnly (cs : List Char) : Except MomentFault Moment :=
  match readDate cs with
  | .ok (date, rest) =>
    if rest.isEmpty then checkYear ⟨date.1, date.2.1, date.2.2, 0, 0, 0, 0, none⟩
    else .error (.date .extra)
  | .error fault => .error (.date fault)

/-- A fault of a number that was given as a text counts as a fault of a date. -/
def asDateFault : Except MomentFault Moment → Except MomentFault Moment
  | .error (.range fault) => .error (.date fault)
  | r => r

/-- Reads a moment. -/
def readMoment (s : String) : Except MomentFault Moment :=
  let cs := s.toList
  match readFull? cs with
  | some t => checkYear t
  | none =>
    match readInt64? cs with
    | some n => asDateFault (ofUnix n)
    | none =>
      match readPoint? cs with
      | some x =>
        match ofNumber x with
        | .error (.range _) => readDateOnly cs
        | r => r
      | none => readDateOnly cs

end Time
end Rebalance
