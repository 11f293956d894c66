import Rebalance.Proofs.Decimal.Digits
import Rebalance.Proofs.Time.Calendar
import Rebalance.Schema.Scalar

/-!
# Moments that exist

* `Moment.Valid`: a date of the calendar with a year of four digits, a time of day, and a distance
  from UTC of less than a day.
* `valid_of_readMoment`: every moment that is read from a text exists.
* `valid_of_ofMicros`: so does every moment that a number stands for.
* `Schema.valid_of_readMoment`: so does every moment that is read from a value of a document.
-/

namespace Rebalance
namespace Time

/-- Whether a moment exists. -/
structure Moment.Valid (t : Moment) : Prop where
  year : 1 ≤ t.year ∧ t.year ≤ 9999
  date : IsDate t.year t.month t.day
  hour : t.hour < 24
  minute : t.minute < 60
  second : t.second < 60
  micro : t.micro < 1000000
  offset : ∀ o ∈ t.offset, o.natAbs < 1440

theorem Moment.valid_iff
    {t : Moment} :
    t.Valid ↔ (1 ≤ t.year ∧ t.year ≤ 9999) ∧ IsDate t.year t.month t.day ∧ t.hour < 24 ∧
      t.minute < 60 ∧ t.second < 60 ∧ t.micro < 1000000 ∧ ∀ o ∈ t.offset, o.natAbs < 1440 :=
  ⟨fun h => ⟨h.year, h.date, h.hour, h.minute, h.second, h.micro, h.offset⟩,
    fun ⟨hyear, hdate, hhour, hminute, hsecond, hmicro, hoffset⟩ =>
      ⟨hyear, hdate, hhour, hminute, hsecond, hmicro, hoffset⟩⟩

instance (t : Moment) : Decidable t.Valid :=
  decidable_of_iff _ Moment.valid_iff.symm

theorem Moment.Valid.inUtc
    {t : Moment}
    (h : t.Valid) :
    t.inUtc.Valid := by
  refine ⟨h.year, h.date, h.hour, h.minute, h.second, h.micro, ?_⟩
  rintro o ⟨⟩
  decide

/-- The midnight of a date exists. -/
theorem valid_midnight
    {year month day : Nat}
    (hyear : 1 ≤ year ∧ year ≤ 9999)
    (hdate : IsDate year month day) :
    Moment.Valid ⟨year, month, day, 0, 0, 0, 0, none⟩ := by
  constructor <;> simp [hyear, hdate]

theorem valid_of_checkYear
    {t u : Moment}
    (h : checkYear t = .ok u)
    (hvalid : 1 ≤ t.year → t.Valid) :
    u.Valid := by
  unfold checkYear at h
  split at h
  · cases h
  · next hyear =>
    cases h
    exact hvalid (Nat.one_le_iff_ne_zero.mpr hyear)

/-! ## Pieces of a text -/

theorem lt_of_fixed?
    {n v : Nat}
    {cs rest : List Char}
    (h : fixed? n cs = some (v, rest)) :
    v < 10 ^ n := by
  unfold fixed? at h
  dsimp only at h
  split at h
  · next hdigits =>
    cases h
    have hlt := Decimal.valueOf_lt hdigits.2 0
    rwa [hdigits.1, Nat.zero_add, Nat.one_mul] at hlt
  · cases h

theorem isDate_of_readDate
    {cs rest : List Char}
    {year month day : Nat}
    (h : readDate cs = .ok ((year, month, day), rest)) :
    year ≤ 9999 ∧ IsDate year month day := by
  unfold readDate at h
  split at h
  · cases h
  split at h
  · cases h
  next hyear =>
  split at h
  · cases h
  split at h
  · cases h
  split at h
  · cases h
  split at h
  · cases h
  split at h
  · cases h
  next hmonth =>
  split at h
  · cases h
  next hday =>
  cases h
  have hbound := lt_of_fixed? hyear
  exact ⟨by omega, by omega, by omega⟩

theorem natAbs_of_readOffset?
    {negative : Bool}
    {cs : List Char}
    {o : Int}
    (h : readOffset? negative cs = some o) :
    o.natAbs < 1440 := by
  unfold readOffset? at h
  obtain ⟨⟨hours, rest⟩, hhours, h⟩ := Option.bind_eq_some_iff.mp h
  obtain ⟨⟨minutes, rest'⟩, hminutes, h⟩ := Option.bind_eq_some_iff.mp h
  dsimp only at h
  split at h
  · cases h
    cases negative <;> simp only [if_true, Bool.false_eq_true, if_false] <;> omega
  · cases h

theorem natAbs_of_readZone?
    {cs : List Char}
    {zone : Option Int}
    (h : readZone? cs = some zone) :
    ∀ o ∈ zone, o.natAbs < 1440 := by
  have hread {negative : Bool} {rest : List Char}
      (h : (readOffset? negative rest).map some = some zone) :
      ∀ o ∈ zone, o.natAbs < 1440 := by
    obtain ⟨o, ho, rfl⟩ := Option.map_eq_some_iff.mp h
    rintro _ ⟨⟩
    exact natAbs_of_readOffset? ho
  unfold readZone? at h
  split at h
  · cases h
    rintro o ⟨⟩
  split at h
  · split at h
    · cases h
      rintro o ⟨⟩
      decide
    · cases h
  split at h
  · exact hread h
  split at h
  · exact hread h
  · cases h

theorem lt_of_readMicro?
    {cs rest : List Char}
    {micro : Nat}
    (h : readMicro? cs = some (micro, rest)) :
    micro < 1000000 := by
  unfold readMicro? at h
  split at h
  · cases h
    decide
  split at h
  · dsimp only at h
    split at h
    · cases h
    · cases h
      rename_i c rest _ _
      generalize hkept : (rest.takeWhile Decimal.isDigit).take 6 = kept
      have hdigits : kept.all Decimal.isDigit = true := by
        rw [List.all_eq_true, ← hkept]
        intro d hd
        exact List.all_eq_true.mp List.all_takeWhile d (List.mem_of_mem_take hd)
      have hlength : kept.length ≤ 6 := hkept ▸ List.length_take_le _ _
      have hlt := Decimal.valueOf_lt hdigits 0
      rw [Nat.zero_add, Nat.one_mul] at hlt
      calc Decimal.valueOf 0 kept * 10 ^ (6 - kept.length)
          < 10 ^ kept.length * 10 ^ (6 - kept.length) :=
            Nat.mul_lt_mul_of_pos_right hlt (Nat.pow_pos (by decide))
        _ = 10 ^ 6 := by rw [← Nat.pow_add, Nat.add_sub_cancel' hlength]
  · cases h
    decide

/-! ## Texts -/

theorem valid_of_readClock?
    {year month day : Nat}
    {cs : List Char}
    {t : Moment}
    (h : readClock? (year, month, day) cs = some t)
    (hyear : year ≤ 9999)
    (hdate : IsDate year month day)
    (hpos : 1 ≤ t.year) :
    t.Valid := by
  unfold readClock? at h
  obtain ⟨⟨hour, afterHour⟩, -, h⟩ := Option.bind_eq_some_iff.mp h
  dsimp only at h
  split at h
  · cases h
  obtain ⟨⟨minute, afterMinute⟩, -, h⟩ := Option.bind_eq_some_iff.mp h
  dsimp only at h
  split at h
  · cases h
  next hclock =>
  obtain ⟨⟨second, micro, zone⟩, hseconds, h⟩ := Option.bind_eq_some_iff.mp h
  dsimp only at h
  split at h
  · cases h
  next hsecond =>
  obtain ⟨offset, hoffset, h⟩ := Option.bind_eq_some_iff.mp h
  cases h
  have hmicro : micro < 1000000 := by
    split at hseconds
    · obtain ⟨⟨_, _⟩, -, hseconds⟩ := Option.bind_eq_some_iff.mp hseconds
      obtain ⟨⟨_, _⟩, hfraction, hseconds⟩ := Option.bind_eq_some_iff.mp hseconds
      cases hseconds
      exact lt_of_readMicro? hfraction
    · cases hseconds
      decide
  have htime : hour < 24 ∧ minute < 60 ∧ second < 60 := by omega
  exact ⟨⟨hpos, hyear⟩, hdate, htime.1, htime.2.1, htime.2.2, hmicro, natAbs_of_readZone? hoffset⟩

theorem valid_of_readFull?
    {cs : List Char}
    {t : Moment}
    (h : readFull? cs = some t)
    (hpos : 1 ≤ t.year) :
    t.Valid := by
  unfold readFull? at h
  split at h
  · next hdate =>
    obtain ⟨hyear, hdate⟩ := isDate_of_readDate hdate
    split at h
    · exact valid_of_readClock? h hyear hdate hpos
    · cases h
  · cases h

theorem valid_of_readDateOnly
    {cs : List Char}
    {t : Moment}
    (h : readDateOnly cs = .ok t) :
    t.Valid := by
  unfold readDateOnly at h
  split at h
  · next hdate =>
    obtain ⟨hyear, hdate⟩ := isDate_of_readDate hdate
    split at h
    · exact valid_of_checkYear h fun hpos => valid_midnight ⟨hpos, hyear⟩ hdate
    · cases h
  · cases h

/-! ## Numbers -/

/-- Every moment that lies some microseconds after the start of 1970 exists. -/
theorem valid_of_ofMicros
    {micros : Int}
    {t : Moment}
    (h : ofMicros micros = .ok t) :
    t.Valid := by
  unfold ofMicros at h
  dsimp only at h
  split at h
  · cases h
  split at h
  · cases h
  next hlast =>
  split at h
  · cases h
  next hyear =>
  cases h
  generalize hseconds : micros.fdiv 1000000 = seconds at hlast hyear ⊢
  generalize hdays : seconds.fdiv 86400 = days at hyear ⊢
  rw [Int.fdiv_eq_ediv_of_nonneg _ (by decide)] at hdays
  have hlimit : days + epochDay ≤ lastDay := by
    simp only [secondRange, epochDay, lastDay] at hlast ⊢
    omega
  obtain ⟨year, month, day, hdate⟩ : ∃ year month day, dateOf (days + epochDay) = (year, month, day) :=
    ⟨_, _, _, rfl⟩
  rw [hdate] at hyear ⊢
  have hpos : 0 < year := Int.not_le.mp hyear
  have hbound := le_of_dateOf hdate hlimit
  have hrange : 1 ≤ year.toNat ∧ year.toNat ≤ 9999 := by omega
  have hmicro : micros.fmod 1000000 < 1000000 := Int.fmod_lt_of_pos _ (by decide)
  generalize hrest : (seconds - days * 86400).toNat = rest
  have hclock : rest / 3600 < 24 ∧ rest / 60 % 60 < 60 ∧ rest % 60 < 60 := by omega
  refine ⟨hrange, isDate_of_dateOf hdate hpos, hclock.1, hclock.2.1, hclock.2.2, ?_, ?_⟩
  · show (micros.fmod 1000000).toNat < 1000000
    omega
  · rintro o ⟨⟩
    decide

theorem valid_of_ofUnix
    {n : Int}
    {t : Moment}
    (h : ofUnix n = .ok t) :
    t.Valid :=
  valid_of_ofMicros h

theorem valid_of_ofNumber
    {x : Float}
    {t : Moment}
    (h : ofNumber x = .ok t) :
    t.Valid := by
  unfold ofNumber at h
  split at h
  · cases h
  split at h
  · cases h
  · exact valid_of_ofMicros h

theorem asDateFault_ok
    {r : Except MomentFault Moment}
    {t : Moment}
    (h : asDateFault r = .ok t) :
    r = .ok t := by
  unfold asDateFault at h
  split at h
  · cases h
  · exact h

/-- Every moment that is read from a text exists. -/
theorem valid_of_readMoment
    {s : String}
    {t : Moment}
    (h : readMoment s = .ok t) :
    t.Valid := by
  unfold readMoment at h
  dsimp only at h
  split at h
  · next hfull =>
    exact valid_of_checkYear h fun hpos => valid_of_readFull? hfull hpos
  split at h
  · exact valid_of_ofUnix (asDateFault_ok h)
  split at h
  · split at h
    · exact valid_of_readDateOnly h
    · exact valid_of_ofNumber h
  · exact valid_of_readDateOnly h

end Time

/-! ## Values of documents -/

namespace Schema

open Time

/-- Whether a value exists in time: a moment that exists, the date of one, or neither. -/
def IsReal : Data → Prop
  | .moment t => t.Valid
  | .date year month day => (1 ≤ year ∧ year ≤ 9999) ∧ IsDate year month day
  | _ => True

theorem checkedMoment_ok
    {r : Except MomentFault Moment}
    {t : Moment}
    (h : checkedMoment r = .ok t) :
    r = .ok t := by
  cases r with
  | ok u =>
    cases h
    rfl
  | error fault => cases h

/-- Every moment that is read from a value of a document exists when the value does. -/
theorem valid_of_readMoment
    {d : Data}
    {t : Moment}
    (h : readMoment d = .ok t)
    (hreal : IsReal d) :
    t.Valid := by
  cases d with
  | text s =>
    simp only [readMoment] at h
    split at h
    · cases h
    · exact Time.valid_of_readMoment (checkedMoment_ok h)
  | bytes bs => exact Time.valid_of_readMoment (checkedMoment_ok h)
  | int n =>
    simp only [readMoment] at h
    split at h
    · exact valid_of_ofUnix (checkedMoment_ok h)
    split at h
    · exact valid_of_ofNumber (checkedMoment_ok h)
    · cases h
  | float x => exact valid_of_ofNumber (checkedMoment_ok h)
  | moment u =>
    cases h
    exact hreal
  | date year month day =>
    cases h
    exact valid_midnight hreal.1 hreal.2
  | _ => cases h

end Schema
end Rebalance
