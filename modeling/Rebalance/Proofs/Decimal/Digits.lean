import Rebalance.Decimal.Layout
import Rebalance.Decimal.Numeral
import Rebalance.Text.Quoted

/-!
# Numbers in digits

* `valueOf_digits`: the decimal digits of a number are read as that number.
* `valueOf_filled`: so are digits that zeros fill up to a width.
* `hexValue?_digitChar`, `hexValue?_hexDigit`: so are hexadecimal digits, in both spellings of one.
* `isNumeral_of_storedText?`: the text of a double is made of digits, signs, points and exponents.
-/

namespace Rebalance
namespace Decimal

/-! ## Decimal digits -/

theorem isDigit_eq
    (c : Char) :
    isDigit c = c.isDigit := by
  unfold isDigit Char.isDigit
  rw [Bool.decide_and]
  rfl

theorem isDigit_of_mem_digits
    {n : Nat}
    {c : Char}
    (h : c ∈ digits n) :
    isDigit c = true := by
  rw [isDigit_eq]
  exact Nat.isDigit_of_mem_toDigits (by decide) (by decide) h

/-- A digit takes one byte and ends no line. -/
theorem low_of_isDigit
    {c : Char}
    (h : isDigit c = true) :
    c.toNat < 0x80 ∧ c ≠ '\r' := by
  have hbounds : '0' ≤ c ∧ c ≤ '9' := of_decide_eq_true h
  have hhigh : c.toNat ≤ '9'.toNat := hbounds.2
  refine ⟨Nat.lt_of_le_of_lt hhigh (by decide), ?_⟩
  rintro rfl
  exact Bool.false_ne_true h

theorem digits_ne_nil
    (n : Nat) :
    digits n ≠ [] :=
  Nat.toDigits_ne_nil

theorem valueOf_eq_ofDigitChars
    (acc : Nat)
    (ds : List Char) :
    valueOf acc ds = Nat.ofDigitChars 10 ds acc := by
  rw [valueOf, Nat.ofDigitChars_eq_foldl]
  congr 1
  funext n c
  rw [Nat.mul_comm]

/-- The decimal digits of a number are read as that number. -/
theorem valueOf_digits
    (n : Nat) :
    valueOf 0 (digits n) = n := by
  rw [valueOf_eq_ofDigitChars]
  exact Nat.ofDigitChars_ten_toDigits

/-- The digits of a number other than zero do not begin with a zero. -/
theorem digits_eq_cons
    {n : Nat}
    (h : n ≠ 0) :
    ∃ c rest, digits n = c :: rest ∧ c ≠ '0' := by
  induction n using Nat.strongRecOn with
  | ind n ih =>
    unfold digits
    rw [Nat.toDigits_eq_if (by decide)]
    split
    · refine ⟨_, [], rfl, fun hc => h ?_⟩
      exact Nat.digitChar_eq_zero.mp hc
    · next hge =>
      obtain ⟨c, rest, hds, hc⟩ := ih (n / 10) (by omega) (by omega)
      refine ⟨c, rest ++ [(n % 10).digitChar], ?_, hc⟩
      unfold digits at hds
      rw [hds]
      rfl

theorem width_le_iff
    {n k : Nat}
    (h : 0 < k) :
    width n ≤ k ↔ n < 10 ^ k :=
  Nat.length_toDigits_le_iff (by decide) h

/-- Digits stand for a number with no more digits. -/
theorem valueOf_lt
    {ds : List Char}
    (h : ds.all isDigit = true)
    (acc : Nat) :
    valueOf acc ds < (acc + 1) * 10 ^ ds.length := by
  induction ds generalizing acc with
  | nil => simp [valueOf]
  | cons c ds ih =>
    rw [List.all_cons, Bool.and_eq_true] at h
    have hbounds : '0' ≤ c ∧ c ≤ '9' := of_decide_eq_true h.1
    have hdigit : c.toNat - '0'.toNat < 10 := by
      have hhigh : c.toNat ≤ '9'.toNat := hbounds.2
      have hlast : '9'.toNat = '0'.toNat + 9 := rfl
      omega
    calc valueOf acc (c :: ds)
        = valueOf (acc * 10 + (c.toNat - '0'.toNat)) ds := rfl
      _ < (acc * 10 + (c.toNat - '0'.toNat) + 1) * 10 ^ ds.length := ih h.2 _
      _ ≤ (acc + 1) * 10 * 10 ^ ds.length := Nat.mul_le_mul_right _ (by omega)
      _ = (acc + 1) * 10 ^ (c :: ds).length := by
        rw [List.length_cons, Nat.pow_succ, Nat.mul_assoc, Nat.mul_comm 10]

/-- Digits stand for a number of no greater width. -/
theorem width_valueOf_le
    {ds : List Char}
    (h : ds.all isDigit = true)
    {k : Nat}
    (hk : 0 < k)
    (hlength : ds.length ≤ k) :
    width (valueOf 0 ds) ≤ k := by
  refine (width_le_iff hk).mpr ?_
  calc valueOf 0 ds
      < (0 + 1) * 10 ^ ds.length := valueOf_lt h 0
    _ = 10 ^ ds.length := by rw [Nat.zero_add, Nat.one_mul]
    _ ≤ 10 ^ k := Nat.pow_le_pow_right (by decide) hlength

/-! ## Digits of a fixed width -/

theorem length_filled
    {size n : Nat}
    (hsize : 0 < size)
    (h : n < 10 ^ size) :
    (filled size n).length = size := by
  have hwidth : (digits n).length ≤ size := (width_le_iff hsize).mpr h
  unfold filled
  dsimp only
  rw [List.length_append, List.length_replicate]
  omega

theorem isDigit_of_mem_filled
    {size n : Nat}
    {c : Char}
    (h : c ∈ filled size n) :
    isDigit c = true := by
  rcases List.mem_append.mp h with h | h
  · rw [(List.mem_replicate.mp h).2]
    rfl
  · exact isDigit_of_mem_digits h

/-- Digits that zeros fill up to a width are read as the number. -/
theorem valueOf_filled
    (size n : Nat) :
    valueOf 0 (filled size n) = n := by
  unfold filled
  dsimp only
  rw [valueOf_eq_ofDigitChars, Nat.ofDigitChars_append, Nat.ofDigitChars_replicate_zero,
    Nat.mul_zero, ← valueOf_eq_ofDigitChars, valueOf_digits]

/-! ## Hexadecimal digits -/

theorem hexValue?_digitChar :
    ∀ k < 16, Text.hexValue? k.digitChar = some k := by
  decide

theorem hexValue?_hexDigit :
    ∀ k < 16, Text.hexValue? (Text.hexDigit k) = some k := by
  decide

/-! ## Doubles -/

/-- Whether a character can stand in the text of a double. -/
def IsNumeral (c : Char) : Prop :=
  isDigit c = true ∨ c ∈ ['.', '-', '+', 'e']

theorem isNumeral_zeros
    {k : Nat}
    {c : Char}
    (h : c ∈ List.replicate k '0') :
    IsNumeral c := by
  rw [(List.mem_replicate.mp h).2]
  exact .inl rfl

theorem isNumeral_digits
    {n : Nat}
    {c : Char}
    (h : c ∈ digits n) :
    IsNumeral c :=
  .inl (isDigit_of_mem_digits h)

theorem isNumeral_exponentText
    {l : Layout}
    {e : Int}
    {c : Char}
    (h : c ∈ l.exponentText e) :
    IsNumeral c := by
  unfold Layout.exponentText filled at h
  rcases List.mem_cons.mp h with rfl | h
  · split <;> exact .inr (by decide)
  · rcases List.mem_append.mp h with h | h
    · exact isNumeral_zeros h
    · exact isNumeral_digits h

theorem isNumeral_positive
    {l : Layout}
    {s : Scientific}
    {c : Char}
    (h : c ∈ l.positive s) :
    IsNumeral c := by
  unfold Layout.positive at h
  dsimp only at h
  split at h
  · split at h
    · simp only [List.mem_cons, List.mem_append] at h
      rcases h with rfl | rfl | h | h
      · exact .inl rfl
      · exact .inr (by decide)
      · exact isNumeral_zeros h
      · exact isNumeral_digits h
    · split at h
      · simp only [List.mem_cons, List.mem_append, List.not_mem_nil, or_false] at h
        rcases h with h | h | rfl | rfl
        · exact isNumeral_digits h
        · exact isNumeral_zeros h
        · exact .inr (by decide)
        · exact .inl rfl
      · simp only [List.mem_cons, List.mem_append] at h
        rcases h with h | rfl | h
        · exact isNumeral_digits (List.mem_of_mem_take h)
        · exact .inr (by decide)
        · exact isNumeral_digits (List.mem_of_mem_drop h)
  · simp only [List.mem_cons, List.mem_append] at h
    rcases h with (h | h) | rfl | h
    · exact isNumeral_digits (List.mem_of_mem_take h)
    · split at h
      · cases h
      · rcases List.mem_cons.mp h with rfl | h
        · exact .inr (by decide)
        · exact isNumeral_digits (List.mem_of_mem_drop h)
    · exact .inr (by decide)
    · exact isNumeral_exponentText h

theorem isNumeral_of_storedText?
    {x : Float}
    {cs : List Char}
    (h : storedText? x = some cs) :
    ∀ c ∈ cs, IsNumeral c := by
  have hfinite (m : Nat) (e : Int) :
      ∀ c ∈ if m = 0 then ['0', '.', '0'] else Layout.stored.positive (shortest m e),
        IsNumeral c := by
    intro c hc
    split at hc
    · simp only [List.mem_cons, List.not_mem_nil, or_false] at hc
      rcases hc with rfl | rfl | rfl
      · exact .inl rfl
      · exact .inr (by decide)
      · exact .inl rfl
    · exact isNumeral_positive hc
  unfold storedText? at h
  split at h
  · next negative m e _ =>
    cases h
    intro c hc
    unfold Layout.finite at hc
    dsimp only at hc
    cases negative with
    | false => exact hfinite m e c hc
    | true =>
      rcases List.mem_cons.mp hc with rfl | hc
      · exact .inr (by decide)
      · exact hfinite m e c hc
  · cases h

end Decimal
end Rebalance
