import Rebalance.Time.Calendar

/-!
# Dates of day numbers

* `exists_parts`: a day of an era of four hundred years as century, leap period, year and day.
* `dateOf_eq`: the date of a day number, by the parts of its day.
* `isDate_of_dateOf`: the date of a day number is one of the calendar.
* `le_of_dateOf`: the years are those of four digits up to their last day.
-/

namespace Rebalance
namespace Time

/-- Whether a month and a day are those of a year. -/
structure IsDate (year month day : Nat) : Prop where
  inYear : 1 ≤ month ∧ month ≤ 12
  inMonth : 1 ≤ day ∧ day ≤ daysIn year month

theorem isDate_iff
    {year month day : Nat} :
    IsDate year month day ↔ (1 ≤ month ∧ month ≤ 12) ∧ 1 ≤ day ∧ day ≤ daysIn year month :=
  ⟨fun h => ⟨h.inYear, h.inMonth⟩, fun h => ⟨h.1, h.2⟩⟩

instance (year month day : Nat) : Decidable (IsDate year month day) :=
  decidable_of_iff _ isDate_iff.symm

theorem daysIn_le
    (year month : Nat) :
    daysIn year month ≤ 31 := by
  unfold daysIn
  split
  · split <;> omega
  · split <;> omega

/-! ## A day of an era -/

/-- A day of an era by its century `c`, its leap period `k` of four years, its year `j` of the
period and its day `r` of the year.  Only the last year of a period has a day 365, and the last
period of a century has none, but for the last century. -/
structure Parts (e c k j r : Int) : Prop where
  sum : e = 36524 * c + 1461 * k + 365 * j + r
  century : 0 ≤ c ∧ c ≤ 3
  period : 0 ≤ k ∧ k ≤ 24
  year : 0 ≤ j ∧ j ≤ 3
  day : 0 ≤ r ∧ r ≤ 365
  leap : r = 365 → j = 3 ∧ (k = 24 → c = 3)

theorem exists_parts
    {e : Int}
    (hlow : 0 ≤ e)
    (hhigh : e < 146097) :
    ∃ c k j r, Parts e c k j r := by
  -- The last day of the era would begin a fifth century, and the last day of a period a fifth year.
  have hcentury : ∃ c e₁, e = 36524 * c + e₁ ∧ 0 ≤ c ∧ c ≤ 3 ∧ 0 ≤ e₁ ∧ e₁ ≤ 36524 ∧
      (e₁ = 36524 → c = 3) :=
    ⟨min (e / 36524) 3, e - 36524 * min (e / 36524) 3, by omega⟩
  obtain ⟨c, e₁, rfl, hc, hc', he₁, he₁', hlast⟩ := hcentury
  have hperiod : ∃ k e₂, e₁ = 1461 * k + e₂ ∧ 0 ≤ k ∧ k ≤ 24 ∧ 0 ≤ e₂ ∧ e₂ ≤ 1460 :=
    ⟨e₁ / 1461, e₁ % 1461, by omega⟩
  obtain ⟨k, e₂, rfl, hk, hk', he₂, he₂'⟩ := hperiod
  have hyear : ∃ j r, e₂ = 365 * j + r ∧ 0 ≤ j ∧ j ≤ 3 ∧ 0 ≤ r ∧ r ≤ 365 ∧ (r = 365 → j = 3) :=
    ⟨min (e₂ / 365) 3, e₂ - 365 * min (e₂ / 365) 3, by omega⟩
  obtain ⟨j, r, rfl, hj, hj', hr, hr', hleap⟩ := hyear
  exact ⟨c, k, j, r, by omega, ⟨hc, hc'⟩, ⟨hk, hk'⟩, ⟨hj, hj'⟩, ⟨hr, hr'⟩,
    fun h => ⟨hleap h, fun h24 => hlast (by omega)⟩⟩

/-- The last day of an era is counted in both quotients, so their difference is the century. -/
theorem Parts.centuries
    {e c k j r : Int}
    (h : Parts e c k j r) :
    e / 36524 - e / 146096 = c := by
  obtain ⟨hsum, hc, hk, hj, hr, hleap⟩ := h
  have hrest : e - 36524 * c ≤ 36523 ∨ e = 146096 ∧ c = 3 := by
    by_cases hlast : r = 365 ∧ k = 24
    · have hparts := hleap hlast.1
      omega
    · omega
  rcases hrest with hrest | ⟨rfl, rfl⟩
  · have hquotient : e / 36524 = c := by omega
    have hera : e / 146096 = 0 := by omega
    omega
  · decide

/-- The last days of a period may lie in the next of the shorter periods of four common years. -/
theorem Parts.periods
    {e c k j r : Int}
    (h : Parts e c k j r) :
    ∃ s, e / 1460 = 25 * c + k + s ∧ 0 ≤ s ∧ s ≤ 365 * j + r ∧ r - s ≤ 364 := by
  obtain ⟨rfl, hc, hk, hj, hr, hleap⟩ := h
  exact ⟨(24 * c + k + 365 * j + r) / 1460, by omega⟩

theorem Parts.yearOf
    {e c k j r : Int}
    (h : Parts e c k j r) :
    (e - e / 1460 + e / 36524 - e / 146096) / 365 = 100 * c + 4 * k + j := by
  obtain ⟨s, hs, hbounds⟩ := h.periods
  have hcenturies := h.centuries
  obtain ⟨rfl, hc, hk, hj, hr, hleap⟩ := h
  omega

theorem Parts.dayOf
    {e c k j r : Int}
    (h : Parts e c k j r) :
    let year := 100 * c + 4 * k + j
    e - (365 * year + year / 4 - year / 100) = r := by
  intro year
  obtain ⟨rfl, hc, hk, hj, hr, hleap⟩ := h
  omega

/-! ## Months -/

/-- The month of a day of a year that begins in March. -/
def monthOf (r : Int) : Int :=
  let m := (5 * r + 2) / 153
  if m < 10 then m + 3 else m - 9

/-- The day of the month of a day of a year that begins in March. -/
def monthDayOf (r : Int) : Int :=
  r - (153 * ((5 * r + 2) / 153) + 2) / 5 + 1

/-- A day of a year that begins in March, where only a leap year has a day 365. -/
theorem isDate_ofYearDay
    {year : Nat}
    {r : Int}
    (hlow : 0 ≤ r)
    (hhigh : r ≤ 365)
    (hleap : r = 365 → isLeap year = true) :
    IsDate year (monthOf r).toNat (monthDayOf r).toNat := by
  unfold monthDayOf
  generalize hmonth : (monthOf r).toNat = month
  unfold monthOf at hmonth
  dsimp only at hmonth
  generalize hm : (5 * r + 2) / 153 = m at hmonth ⊢
  have hrange : 0 ≤ m ∧ m ≤ 11 := by omega
  refine ⟨by omega, by omega, ?_⟩
  unfold daysIn
  split
  · have hfebruary : m = 11 := by omega
    split
    · omega
    · next hcommon =>
      have hday : r ≠ 365 := fun h => hcommon (hleap h)
      omega
  · split
    · have hshort : m = 1 ∨ m = 3 ∨ m = 6 ∨ m = 8 := by omega
      rcases hshort with rfl | rfl | rfl | rfl <;> omega
    · omega

/-! ## Dates -/

/-- The date of a day number by the parts of its day: a year from March to February is the one of
its March. -/
theorem dateOf_eq
    (number : Int) :
    ∃ c k j r, Parts (number - number.fdiv 146097 * 146097) c k j r ∧
      dateOf number = (100 * c + 4 * k + j + number.fdiv 146097 * 400
        + (if monthOf r ≤ 2 then 1 else 0), (monthOf r).toNat, (monthDayOf r).toNat) := by
  have hera : number.fdiv 146097 = number / 146097 := Int.fdiv_eq_ediv_of_nonneg _ (by decide)
  obtain ⟨c, k, j, r, h⟩ :=
    exists_parts (e := number - number.fdiv 146097 * 146097) (by omega) (by omega)
  refine ⟨c, k, j, r, h, ?_⟩
  unfold dateOf
  dsimp only
  rw [h.yearOf, h.dayOf]
  rfl

/-- The date of a day number is one of the calendar. -/
theorem isDate_of_dateOf
    {number year : Int}
    {month day : Nat}
    (h : dateOf number = (year, month, day))
    (hpos : 0 < year) :
    IsDate year.toNat month day := by
  obtain ⟨c, k, j, r, hparts, heq⟩ := dateOf_eq number
  rw [heq] at h
  cases h
  refine isDate_ofYearDay hparts.day.1 hparts.day.2 ?_
  intro hlast
  have hfebruary : monthOf r = 2 := by
    rw [hlast]
    rfl
  obtain ⟨hj, hk⟩ := hparts.leap hlast
  have hc := hparts.century
  have hperiod := hparts.period
  unfold isLeap
  rw [hfebruary, if_pos (by decide)] at hpos ⊢
  refine decide_eq_true ⟨by omega, ?_⟩
  by_cases h24 : k = 24
  · have hlastCentury := hk h24
    omega
  · omega

/-- The last day of the year 9999. -/
def lastDay : Int :=
  3652364

theorem le_of_dateOf
    {number year : Int}
    {month day : Nat}
    (h : dateOf number = (year, month, day))
    (hlast : number ≤ lastDay) :
    year ≤ 9999 := by
  obtain ⟨c, k, j, r, hparts, heq⟩ := dateOf_eq number
  rw [heq] at h
  cases h
  have hera : number.fdiv 146097 = number / 146097 := Int.fdiv_eq_ediv_of_nonneg _ (by decide)
  obtain ⟨hsum, hc, hk, hj, hr, -⟩ := hparts
  unfold lastDay at hlast
  -- Only the last March of the last era may come before a January of a fifth digit.
  by_cases hyear : number / 146097 = 24 ∧ 100 * c + 4 * k + j = 399
  · have hmonth : ¬ monthOf r ≤ 2 := by
      unfold monthOf
      dsimp only
      omega
    rw [if_neg hmonth]
    omega
  · split <;> omega

end Time
end Rebalance
