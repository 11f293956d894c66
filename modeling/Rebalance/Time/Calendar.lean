/-!
# The Gregorian calendar

The Gregorian calendar, carried back before its first use.  Days are numbered from the first of
March of the year zero, so that the leap day closes a year and every month is counted alike.
-/

namespace Rebalance
namespace Time

/-- Whether a year has a 29th of February. -/
def isLeap (year : Nat) : Bool :=
  decide (year % 4 = 0 ∧ (year % 100 ≠ 0 ∨ year % 400 = 0))

/-- How many days a month has. -/
def daysIn (year month : Nat) : Nat :=
  if month = 2 then (if isLeap year then 29 else 28)
  else if month = 4 ∨ month = 6 ∨ month = 9 ∨ month = 11 then 30
  else 31

/-- The English short name of a month. -/
def monthName : Nat → String
  | 1 => "Jan"
  | 2 => "Feb"
  | 3 => "Mar"
  | 4 => "Apr"
  | 5 => "May"
  | 6 => "Jun"
  | 7 => "Jul"
  | 8 => "Aug"
  | 9 => "Sep"
  | 10 => "Oct"
  | 11 => "Nov"
  | _ => "Dec"

/-- The number of the day of a date. -/
def dayNumber (year month day : Nat) : Int :=
  let y : Int := (year : Int) - if month ≤ 2 then 1 else 0
  let era := y.fdiv 400
  let ofEra := y - era * 400
  let m : Int := if month ≤ 2 then (month : Int) + 9 else (month : Int) - 3
  let ofYear := (153 * m + 2) / 5 + (day : Int) - 1
  era * 146097 + (ofEra * 365 + ofEra / 4 - ofEra / 100 + ofYear)

/-- The number of the first of January 1970. -/
def epochDay : Int :=
  719468

/-- The date of a day number: year, month and day. -/
def dateOf (number : Int) : Int × Nat × Nat :=
  let era := number.fdiv 146097
  let ofEra := number - era * 146097
  let year := (ofEra - ofEra / 1460 + ofEra / 36524 - ofEra / 146096) / 365
  let ofYear := ofEra - (365 * year + year / 4 - year / 100)
  let m := (5 * ofYear + 2) / 153
  let day := ofYear - (153 * m + 2) / 5 + 1
  let month := if m < 10 then m + 3 else m - 9
  (year + era * 400 + (if month ≤ 2 then 1 else 0), month.toNat, day.toNat)

end Time
end Rebalance
