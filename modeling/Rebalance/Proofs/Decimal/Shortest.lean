import Rebalance.Proofs.Decimal.Digits

/-!
# The shortest decimal number that rounds to a double

* `den_mul_pow_decimalOrder_le`: a positive quotient is no less than ten to its order.
* `coefficient_shortest`: the digits found for a double other than zero do not stand for zero.
-/

namespace Rebalance
namespace Decimal

/-! ## Orders of magnitude -/

/-- A positive quotient is no less than ten to its order. -/
theorem den_mul_pow_decimalOrder_le
    {num : Nat}
    (hnum : 0 < num)
    (den : Nat) :
    den * 10 ^ (decimalOrder num den).toNat ≤ num * 10 ^ (-decimalOrder num den).toNat := by
  unfold decimalOrder
  split
  · next hle =>
    have hwidth : 0 < width (num / den) := List.length_pos_iff.mpr (digits_ne_nil _)
    have hup : ((width (num / den) : Int) - 1).toNat = width (num / den) - 1 := by omega
    have hdown : (-((width (num / den) : Int) - 1)).toNat = 0 := by omega
    rw [hup, hdown, Nat.pow_zero, Nat.mul_one]
    by_cases hone : width (num / den) = 1
    · rw [hone, Nat.sub_self, Nat.pow_zero, Nat.mul_one]
      exact hle
    · have hpow : 10 ^ (width (num / den) - 1) ≤ num / den := by
        refine Nat.not_lt.mp fun hlt => ?_
        have hshort := (width_le_iff (by omega)).mpr hlt
        omega
      calc den * 10 ^ (width (num / den) - 1)
          ≤ den * (num / den) := Nat.mul_le_mul_left _ hpow
        _ ≤ num := Nat.mul_div_le num den
  · have hup : (-(width ((den - 1) / num) : Int)).toNat = 0 := by omega
    have hdown : (- -(width ((den - 1) / num) : Int)).toNat = width ((den - 1) / num) := by omega
    have hwidth : 0 < width ((den - 1) / num) := List.length_pos_iff.mpr (digits_ne_nil _)
    have hlt : (den - 1) / num < 10 ^ width ((den - 1) / num) :=
      (width_le_iff hwidth).mp (Nat.le_refl _)
    have hbound := Nat.lt_mul_of_div_lt hlt hnum
    rw [hup, hdown, Nat.pow_zero, Nat.mul_one, Nat.mul_comm num]
    omega

/-- The same holds of every lower power. -/
theorem den_mul_pow_le
    {num : Nat}
    (hnum : 0 < num)
    (den : Nat)
    {k : Int}
    (hk : k ≤ decimalOrder num den) :
    den * 10 ^ k.toNat ≤ num * 10 ^ (-k).toNat :=
  calc den * 10 ^ k.toNat
      ≤ den * 10 ^ (decimalOrder num den).toNat :=
        Nat.mul_le_mul_left _ (Nat.pow_le_pow_right (by decide) (by omega))
    _ ≤ num * 10 ^ (-decimalOrder num den).toNat := den_mul_pow_decimalOrder_le hnum den
    _ ≤ num * 10 ^ (-k).toNat :=
        Nat.mul_le_mul_left _ (Nat.pow_le_pow_right (by decide) (by omega))

/-! ## Windows -/

/-- A window above zero does not hold zero. -/
theorem Window.holds_zero
    {w : Window}
    (hlow : 0 < w.low)
    {den : Nat}
    (hden : 0 < den) :
    w.holds 0 den = false := by
  have hpos : 0 < w.low * den := Nat.mul_pos hlow hden
  unfold holds
  split
  · simp [Nat.ne_of_gt hpos]
  · simp

theorem Window.onGrid?_ne_zero
    {w : Window}
    (hlow : 0 < w.low)
    {k : Int}
    {n : Nat}
    (h : w.onGrid? k = some n) :
    n ≠ 0 := by
  have hdown : 0 < 10 ^ (-k).toNat := Nat.pow_pos (by decide)
  have hinside {m : Nat} (hm : w.holds (m * 10 ^ k.toNat) (10 ^ (-k).toNat) = true) : m ≠ 0 := by
    rintro rfl
    rw [Nat.zero_mul, Window.holds_zero hlow hdown] at hm
    cases hm
  unfold onGrid? at h
  dsimp only at h
  split at h
  · next hfloor _ =>
    have hne := hinside hfloor
    split at h
    · cases h
      exact hne
    · split at h
      · cases h
        exact Nat.succ_ne_zero _
      · cases h
        exact fun he => hne (Nat.eq_zero_of_add_eq_zero_right he)
  · next hfloor _ =>
    cases h
    exact hinside hfloor
  · cases h
    exact Nat.succ_ne_zero _
  · cases h

/-- A search from no more than the order of the value finds a number other than zero. -/
theorem Window.coefficient_search
    {w : Window}
    (hlow : 0 < w.low)
    (hvalue : 0 < w.value)
    (hden : 0 < w.den)
    (fuel : Nat)
    {k : Int}
    (hk : k ≤ decimalOrder w.value w.den) :
    (w.search fuel k).coefficient ≠ 0 := by
  induction fuel generalizing k with
  | zero =>
    have hunit : 0 < w.den * 10 ^ k.toNat := Nat.mul_pos hden (Nat.pow_pos (by decide))
    exact Nat.ne_of_gt (Nat.div_pos (den_mul_pow_le hvalue w.den hk) hunit)
  | succ fuel ih =>
    rw [search]
    split
    · next n hgrid => exact onGrid?_ne_zero hlow hgrid
    · exact ih (by omega)

theorem Scientific.coefficient_stripped
    (fuel : Nat)
    {s : Scientific}
    (h : s.coefficient ≠ 0) :
    (Scientific.stripped fuel s).coefficient ≠ 0 := by
  induction fuel generalizing s with
  | zero => exact h
  | succ fuel ih =>
    rw [stripped]
    split
    · refine ih ?_
      dsimp only
      omega
    · exact h

/-- The digits found for a double other than zero do not stand for zero. -/
theorem coefficient_shortest
    {mantissa : Nat}
    (h : mantissa ≠ 0)
    (exponent : Int) :
    (shortest mantissa exponent).coefficient ≠ 0 := by
  have hlow : 0 < (window mantissa exponent).low ∧ 0 < (window mantissa exponent).value ∧
      0 < (window mantissa exponent).den := by
    have hpow (n : Nat) : 0 < 2 ^ n := Nat.pow_pos (by decide)
    have hmantissa : 0 < 4 * mantissa := by omega
    have hbelow : 0 < if mantissa = 2 ^ 52 ∧ exponent ≠ -1074 then 4 * mantissa - 1
        else 4 * mantissa - 2 := by
      split <;> omega
    unfold window
    dsimp only
    split
    · exact ⟨Nat.mul_pos hbelow (hpow _), Nat.mul_pos hmantissa (hpow _), Nat.succ_pos 3⟩
    · exact ⟨hbelow, hmantissa, Nat.mul_pos (by decide) (hpow _)⟩
  unfold shortest
  exact Scientific.coefficient_stripped 20
    (Window.coefficient_search hlow.1 hlow.2.1 hlow.2.2 20 (Int.le_refl _))

end Decimal
end Rebalance
