import Rebalance.Proofs.Time.Valid

/-!
# The names of the folders of runs

* `Moment.splitOn_folderName`: between its dashes a name has the six fields of its time.
* `Moment.folderName_eq_iff`: two times have one name just when they agree up to the second.
* `Moment.isAlphanum_of_mem_folderName`: a name is made of letters, digits and dashes, and it has a
  dash (`Moment.folderName_ne`).
-/

namespace Rebalance
namespace Time

/-- Whether two times agree up to the second. -/
structure Moment.SameSecond (s t : Moment) : Prop where
  year : s.year = t.year
  month : s.month = t.month
  day : s.day = t.day
  hour : s.hour = t.hour
  minute : s.minute = t.minute
  second : s.second = t.second

/-! ## Names of months -/

theorem monthName_inj
    {m n : Nat}
    (hm : 1 ≤ m ∧ m ≤ 12)
    (hn : 1 ≤ n ∧ n ≤ 12)
    (h : monthName m = monthName n) :
    m = n := by
  have hnames : ∀ m ∈ List.range' 1 12, ∀ n ∈ List.range' 1 12, monthName m = monthName n → m = n :=
    by decide
  exact hnames m (List.mem_range'_1.mpr (by omega)) n (List.mem_range'_1.mpr (by omega)) h

theorem isAlpha_of_mem_monthName
    {month : Nat}
    {c : Char}
    (h : c ∈ (monthName month).toList) :
    c.isAlpha = true := by
  have hletters : ((monthName month).toList.all Char.isAlpha) = true := by
    unfold monthName
    split <;> decide
  exact List.all_eq_true.mp hletters c h

namespace Moment

/-! ## Fields of a name -/

theorem dash_not_mem_digits
    (n : Nat) :
    '-' ∉ Decimal.digits n :=
  fun h => absurd (Decimal.isDigit_of_mem_digits h) (by decide)

theorem dash_not_mem_filled
    (size n : Nat) :
    '-' ∉ Decimal.filled size n :=
  fun h => absurd (Decimal.isDigit_of_mem_filled h) (by decide)

theorem dash_not_mem_monthName
    (month : Nat) :
    '-' ∉ (monthName month).toList :=
  fun h => absurd (isAlpha_of_mem_monthName h) (by decide)

/-- Between its dashes a name has the six fields of its time. -/
theorem splitOn_folderName
    (t : Moment) :
    t.folderName.toList.splitOn '-' =
      [Decimal.digits t.year, (monthName t.month).toList, Decimal.filled 2 t.day,
        Decimal.filled 2 t.hour, Decimal.filled 2 t.minute, Decimal.filled 2 t.second] := by
  rw [folderName, String.toList_ofList,
    List.splitOn_append_cons_self_of_not_mem (dash_not_mem_digits _),
    List.splitOn_append_cons_self_of_not_mem (dash_not_mem_monthName _),
    List.splitOn_append_cons_self_of_not_mem (dash_not_mem_filled _ _),
    List.splitOn_append_cons_self_of_not_mem (dash_not_mem_filled _ _),
    List.splitOn_append_cons_self_of_not_mem (dash_not_mem_filled _ _),
    List.splitOn_eq_singleton (dash_not_mem_filled _ _)]

theorem filled_inj
    {size m n : Nat}
    (h : Decimal.filled size m = Decimal.filled size n) :
    m = n := by
  rw [← Decimal.valueOf_filled size m, h, Decimal.valueOf_filled]

/-- Two times have one name just when they agree up to the second.  The year and the fields may be
of any length, as none of them holds a dash. -/
theorem folderName_eq_iff
    {s t : Moment}
    (hs : s.Valid)
    (ht : t.Valid) :
    s.folderName = t.folderName ↔ s.SameSecond t := by
  constructor
  · intro h
    have hfields := congrArg (fun name => name.toList.splitOn '-') h
    simp only [splitOn_folderName, List.cons.injEq, and_true] at hfields
    obtain ⟨hyear, hmonth, hday, hhour, hminute, hsecond⟩ := hfields
    refine ⟨?_, ?_, filled_inj hday, filled_inj hhour, filled_inj hminute, filled_inj hsecond⟩
    · rw [← Decimal.valueOf_digits s.year, hyear, Decimal.valueOf_digits]
    · exact monthName_inj hs.date.inYear ht.date.inYear (String.toList_inj.mp hmonth)
  · rintro ⟨hyear, hmonth, hday, hhour, hminute, hsecond⟩
    simp only [folderName, hyear, hmonth, hday, hhour, hminute, hsecond]

/-! ## Characters of a name -/

/-- A name is made of letters, digits and dashes. -/
theorem isAlphanum_of_mem_folderName
    {t : Moment}
    {c : Char}
    (h : c ∈ t.folderName.toList) :
    c.isAlphanum = true ∨ c = '-' := by
  have hdigit (hc : Decimal.isDigit c = true) : c.isAlphanum = true := by
    rw [Char.isAlphanum, ← Decimal.isDigit_eq, hc, Bool.or_true]
  simp only [folderName, String.toList_ofList, List.mem_append, List.mem_cons] at h
  rcases h with h | rfl | h | rfl | h | rfl | h | rfl | h | rfl | h
  · exact .inl (hdigit (Decimal.isDigit_of_mem_digits h))
  · exact .inr rfl
  · exact .inl (by rw [Char.isAlphanum, isAlpha_of_mem_monthName h, Bool.true_or])
  · exact .inr rfl
  · exact .inl (hdigit (Decimal.isDigit_of_mem_filled h))
  · exact .inr rfl
  · exact .inl (hdigit (Decimal.isDigit_of_mem_filled h))
  · exact .inr rfl
  · exact .inl (hdigit (Decimal.isDigit_of_mem_filled h))
  · exact .inr rfl
  · exact .inl (hdigit (Decimal.isDigit_of_mem_filled h))

theorem dash_mem_folderName
    (t : Moment) :
    '-' ∈ t.folderName.toList := by
  simp [folderName]

theorem slash_not_mem_folderName
    (t : Moment) :
    '/' ∉ t.folderName.toList :=
  fun h => absurd (isAlphanum_of_mem_folderName h) (by decide)

/-- A text without a dash is no name. -/
theorem folderName_ne
    (t : Moment)
    {name : String}
    (h : '-' ∉ name.toList) :
    t.folderName ≠ name :=
  fun heq => h (heq ▸ t.dash_mem_folderName)

end Moment
end Time
end Rebalance
