import Rebalance.Decimal.Binary
import Mathlib.Algebra.Order.Field.Power
import Mathlib.Algebra.Order.Ring.Rat
import Mathlib.Tactic.FieldSimp
import Mathlib.Tactic.Linarith
import Mathlib.Tactic.Positivity
import Mathlib.Tactic.Ring

/-!
# Rounding to the nearest point of a grid, with ties to an even one

* `IsNearest`: what it means to be rounded so; the point is unique where any two even points have
  another between them (`IsNearest.value_eq`).
* `isNearest_roundDiv`: a quotient is rounded so to a whole number.
* `Normal`: the numbers of 53 binary digits, which are the greater doubles and those that would
  follow the greatest one.
* `exists_isNearest`: a quotient is rounded so to one of them, which `nearestBits` gives.
-/

namespace Rebalance
namespace Decimal

/-- Whether a point of a grid lies nearest to a number, and is an even one where another point lies
as near. -/
structure IsNearest {ι : Type} (value : ι → ℚ) (IsEven : ι → Prop) (x : ℚ) (i : ι) : Prop where
  closest : ∀ j, |x - value i| ≤ |x - value j|
  even : ∀ j, value j ≠ value i → |x - value j| = |x - value i| → IsEven i

namespace IsNearest

variable {ι : Type} {value : ι → ℚ} {IsEven : ι → Prop} {x : ℚ}

/-- A number on the grid is its own nearest point. -/
theorem of_eq
    {i : ι}
    (h : value i = x) :
    IsNearest value IsEven x i := by
  have hzero : |x - value i| = 0 := by rw [h, sub_self, abs_zero]
  constructor
  · intro j
    rw [hzero]
    exact abs_nonneg _
  · intro j hne hdist
    rw [hzero, abs_eq_zero, sub_eq_zero] at hdist
    exact absurd (hdist.symm.trans h.symm) hne

/-- Stretching a grid moves no point away from a number that is stretched with it. -/
theorem scale
    {i : ι}
    (h : IsNearest value IsEven x i)
    {c : ℚ}
    (hc : 0 < c) :
    IsNearest (fun j => value j * c) IsEven (x * c) i := by
  have hdist (j : ι) : |x * c - value j * c| = |x - value j| * c := by
    rw [← sub_mul, abs_mul, abs_of_pos hc]
  constructor
  · intro j
    rw [hdist, hdist]
    exact mul_le_mul_of_nonneg_right (h.closest j) hc.le
  · intro j hne heq
    rw [hdist, hdist] at heq
    exact h.even j (fun hj => hne (by rw [hj])) (mul_right_cancel₀ hc.ne' heq)

/-- No point of the grid comes between a number and the point nearest to it. -/
theorem le_value
    {i j : ι}
    (h : IsNearest value IsEven x i)
    (hj : value j ≤ x) :
    value j ≤ value i := by
  by_contra hlt
  have hcloser := h.closest j
  rw [abs_of_nonneg (by linarith : 0 ≤ x - value j), abs_of_pos (by linarith)] at hcloser
  linarith

theorem value_le
    {i j : ι}
    (h : IsNearest value IsEven x i)
    (hj : x ≤ value j) :
    value i ≤ value j := by
  by_contra hlt
  have hcloser := h.closest j
  rw [abs_of_nonpos (by linarith : x - value j ≤ 0), abs_of_neg (by linarith)] at hcloser
  linarith

/-- Where any two even points have a point between them, the nearest one is unique. -/
theorem value_eq
    (hbetween : ∀ i j, IsEven i → IsEven j → value i < value j →
      ∃ k, value i < value k ∧ value k < value j)
    {i j : ι}
    (hi : IsNearest value IsEven x i)
    (hj : IsNearest value IsEven x j) :
    value i = value j := by
  -- Between two points that lie as near, one would lie nearer.
  have hnot {i j : ι} (hi : IsNearest value IsEven x i) (hj : IsNearest value IsEven x j) :
      ¬ value i < value j := by
    intro hlt
    have hdist : |x - value j| = |x - value i| := le_antisymm (hj.closest i) (hi.closest j)
    obtain ⟨k, hik, hkj⟩ := hbetween i j (hi.even j hlt.ne' hdist)
      (hj.even i hlt.ne hdist.symm) hlt
    have hmiddle : x - value i = value j - x := by
      rcases abs_eq_abs.mp hdist with h | h <;> linarith
    have hk := hi.closest k
    rw [abs_of_pos (by linarith : 0 < x - value i)] at hk
    rcases abs_cases (x - value k) with ⟨habs, _⟩ | ⟨habs, _⟩ <;> linarith
  exact le_antisymm (not_lt.mp (hnot hj hi)) (not_lt.mp (hnot hi hj))

end IsNearest

/-! ## Whole numbers -/

/-- A quotient half a unit away from what it is rounded to is rounded to an even number. -/
theorem even_roundDiv
    {num den : ℕ}
    (h : 2 * num + den = 2 * (roundDiv num den * den) ∨
      2 * num = 2 * (roundDiv num den * den) + den)
    (hden : 0 < den) :
    Even (roundDiv num den) := by
  have hdiv := Nat.div_add_mod num den
  have hmod := Nat.mod_lt num hden
  rw [Nat.mul_comm] at hdiv
  unfold roundDiv at h ⊢
  dsimp only at h ⊢
  split at h
  · omega
  · split at h
    · rw [Nat.add_mul] at h
      omega
    · rw [if_neg ‹_›, if_neg ‹_›, Nat.even_iff]
      omega

/-- Rounding a quotient gives the whole number nearest to it. -/
theorem isNearest_roundDiv
    (num : ℕ)
    {den : ℕ}
    (h : 0 < den) :
    IsNearest (fun k : ℕ => (k : ℚ)) Even (num / den) (roundDiv num den) := by
  have hden : (0 : ℚ) < den := Nat.cast_pos.mpr h
  have hmul : (num : ℚ) = num / den * den := (div_mul_cancel₀ _ hden.ne').symm
  have hhigh : 2 * ((roundDiv num den : ℚ) * den) ≤ 2 * num + den := by
    exact_mod_cast two_mul_roundDiv_le num h
  have hlow : 2 * (num : ℚ) ≤ 2 * ((roundDiv num den : ℚ) * den) + den := by
    exact_mod_cast le_two_mul_roundDiv num h
  have heven : 2 * (num : ℚ) + den = 2 * ((roundDiv num den : ℚ) * den) ∨
      2 * (num : ℚ) = 2 * ((roundDiv num den : ℚ) * den) + den → Even (roundDiv num den) := by
    intro htie
    exact even_roundDiv (by exact_mod_cast htie) h
  generalize roundDiv num den = q at hhigh hlow heven ⊢
  have hnear : |(num : ℚ) / den - q| ≤ 1 / 2 := by
    rw [abs_le]
    constructor <;> nlinarith
  -- Every other whole number is one unit away from the rounded one at least.
  have hfar (k : ℕ) (hne : (k : ℚ) ≠ q) : 1 / 2 ≤ |(num : ℚ) / den - k| := by
    have hunit : 1 ≤ |(q : ℚ) - k| := by
      have hint : 1 ≤ |(q : ℤ) - k| := Int.one_le_abs (by
        intro hzero
        exact hne (by exact_mod_cast (sub_eq_zero.mp hzero).symm))
      exact_mod_cast hint
    have htriangle := abs_sub_le (q : ℚ) (num / den) k
    rw [abs_sub_comm (q : ℚ) (num / den)] at htriangle
    linarith
  constructor
  · intro k
    by_cases hk : (k : ℚ) = q
    · rw [hk]
    · exact hnear.trans (hfar k hk)
  · intro k hne hdist
    have hhalf : |(num : ℚ) / den - q| = 1 / 2 := le_antisymm hnear (hdist ▸ hfar k hne)
    apply heven
    rcases abs_eq (by norm_num : (0 : ℚ) ≤ 1 / 2) |>.mp hhalf with h | h
    · right
      nlinarith
    · left
      nlinarith

/-- Between two even numbers lies the one after the first. -/
theorem exists_even_between
    (i j : ℕ)
    (hi : Even i)
    (hj : Even j)
    (h : (i : ℚ) < j) :
    ∃ k : ℕ, (i : ℚ) < k ∧ (k : ℚ) < j := by
  rw [Nat.even_iff] at hi hj
  rw [Nat.cast_lt] at h
  refine ⟨i + 1, ?_, ?_⟩ <;> rw [Nat.cast_lt] <;> omega

/-! ## Numbers of 53 binary digits -/

/-- A positive number of 53 binary digits: a mantissa of just that many, in units of a power of two.
The exponent has no bounds, so there are numbers to round to beyond the greatest double too. -/
@[ext]
structure Normal where
  mantissa : ℕ
  exponent : ℤ
  low : 2 ^ 52 ≤ mantissa
  high : mantissa < 2 ^ 53

namespace Normal

/-- What a number of 53 binary digits stands for. -/
def value (d : Normal) : ℚ :=
  d.mantissa * 2 ^ d.exponent

/-- Whether the last binary digit is zero. -/
def IsEven (d : Normal) : Prop :=
  Even d.mantissa

theorem zpow_two_pos
    (e : ℤ) :
    (0 : ℚ) < 2 ^ e :=
  zpow_pos (by norm_num) e

theorem low_mul_le
    (d : Normal) :
    2 ^ 52 * 2 ^ d.exponent ≤ d.value := by
  have hlow : (2 ^ 52 : ℚ) ≤ d.mantissa := by exact_mod_cast d.low
  exact mul_le_mul_of_nonneg_right hlow (zpow_two_pos _).le

theorem lt_high_mul
    (d : Normal) :
    d.value < 2 ^ 53 * 2 ^ d.exponent := by
  have hhigh : (d.mantissa : ℚ) < 2 ^ 53 := by exact_mod_cast d.high
  exact mul_lt_mul_of_pos_right hhigh (zpow_two_pos _)

theorem value_pos
    (d : Normal) :
    0 < d.value :=
  lt_of_lt_of_le (mul_pos (by norm_num) (zpow_two_pos _)) d.low_mul_le

/-- The greater exponent makes the greater number, whatever the mantissas. -/
theorem value_lt_of_exponent_lt
    {d : Normal}
    {e : ℤ}
    (h : d.exponent < e) :
    d.value < 2 ^ 52 * 2 ^ e :=
  calc d.value
      < 2 ^ 53 * 2 ^ d.exponent := d.lt_high_mul
    _ = 2 ^ 52 * 2 ^ (d.exponent + 1) := by
        rw [zpow_add_one₀ (by norm_num)]
        ring
    _ ≤ 2 ^ 52 * 2 ^ e :=
        mul_le_mul_of_nonneg_left (zpow_le_zpow_right₀ (by norm_num) h) (by norm_num)

theorem exponent_le
    {d b : Normal}
    (h : d.value ≤ b.value) :
    d.exponent ≤ b.exponent := by
  by_contra hlt
  have hless := value_lt_of_exponent_lt (not_le.mp hlt)
  exact absurd (lt_of_lt_of_le hless d.low_mul_le) (not_lt.mpr h)

/-- A number is a whole multiple of every power of two up to its own. -/
theorem exists_multiple
    (d : Normal)
    {e : ℤ}
    (h : e ≤ d.exponent) :
    ∃ k : ℕ, d.value = k * 2 ^ e := by
  obtain ⟨j, hj⟩ := Int.eq_ofNat_of_zero_le (sub_nonneg.mpr h)
  have hexponent : d.exponent = j + e := by omega
  refine ⟨d.mantissa * 2 ^ j, ?_⟩
  rw [value, hexponent, zpow_add₀ (by norm_num), zpow_natCast]
  push_cast
  ring

/-- The next number is one unit of the last digit away. -/
theorem succ_mul_le
    {d b : Normal}
    (h : d.value < b.value) :
    (d.mantissa + 1 : ℕ) * (2 : ℚ) ^ d.exponent ≤ b.value := by
  obtain ⟨k, hk⟩ := b.exists_multiple (exponent_le h.le)
  rw [hk] at h ⊢
  have hlt : d.mantissa < k := by
    exact_mod_cast lt_of_mul_lt_mul_right h (zpow_two_pos _).le
  have hle : ((d.mantissa + 1 : ℕ) : ℚ) ≤ k := by exact_mod_cast hlt
  exact mul_le_mul_of_nonneg_right hle (zpow_two_pos _).le

/-- Different mantissas or exponents stand for different numbers. -/
theorem eq_of_value
    {d b : Normal}
    (h : d.value = b.value) :
    d = b := by
  have hexponent : d.exponent = b.exponent :=
    le_antisymm (exponent_le h.le) (exponent_le h.ge)
  have hmantissa : (d.mantissa : ℚ) = b.mantissa := by
    rw [value, value, hexponent] at h
    exact mul_right_cancel₀ (zpow_two_pos _).ne' h
  exact Normal.ext (by exact_mod_cast hmantissa) hexponent

/-- Between two numbers with an even mantissa lies the next one after the first. -/
theorem exists_between
    (d b : Normal)
    (hd : d.IsEven)
    (hb : b.IsEven)
    (h : d.value < b.value) :
    ∃ c : Normal, d.value < c.value ∧ c.value < b.value := by
  unfold IsEven at hd hb
  have hhigh := d.high
  rw [Nat.even_iff] at hd hb
  let c : Normal := ⟨d.mantissa + 1, d.exponent, Nat.le_succ_of_le d.low, by omega⟩
  refine ⟨c, ?_, lt_of_le_of_ne (succ_mul_le h) ?_⟩
  · refine mul_lt_mul_of_pos_right ?_ (zpow_two_pos _)
    exact_mod_cast Nat.lt_succ_self _
  · intro heq
    have hmantissa : d.mantissa + 1 = b.mantissa := congrArg mantissa (eq_of_value heq)
    omega

/-- The number of 53 binary digits nearest to another is unique. -/
theorem eq_of_isNearest
    {x : ℚ}
    {d b : Normal}
    (hd : IsNearest value IsEven x d)
    (hb : IsNearest value IsEven x b) :
    d = b :=
  eq_of_value (hd.value_eq exists_between hb)

/-! ### Rounding -/

/-- A mantissa of 53 binary digits, or the first of 54, in units of a power of two. -/
def carry
    (mantissa : ℕ)
    (exponent : ℤ)
    (low : 2 ^ 52 ≤ mantissa) :
    Normal :=
  if high : mantissa < 2 ^ 53 then ⟨mantissa, exponent, low, high⟩
  else ⟨2 ^ 52, exponent + 1, by decide, by decide⟩

variable {q : ℕ} {p : ℤ} {hlow : 2 ^ 52 ≤ q}

theorem value_carry
    (hhigh : q ≤ 2 ^ 53) :
    (carry q p hlow).value = q * 2 ^ p := by
  unfold carry
  split
  · rfl
  · obtain rfl : q = 2 ^ 53 := by omega
    rw [value, zpow_add_one₀ (by norm_num)]
    push_cast
    ring

theorem isEven_carry
    (h : Even q) :
    (carry q p hlow).IsEven := by
  unfold carry
  split
  · exact h
  · exact (Nat.even_pow.mpr ⟨even_two, by decide⟩ : Even (2 ^ 52))

/-- Rounding to a multiple of the power of two that leaves 53 binary digits gives the nearest number
of so many. -/
theorem isNearest_carry
    {x : ℚ}
    (hx : 2 ^ 52 * 2 ^ p ≤ x)
    (hhigh : q ≤ 2 ^ 53)
    (hq : IsNearest (fun k : ℕ => (k : ℚ)) Even (x / 2 ^ p) q) :
    IsNearest value IsEven x (carry q p hlow) := by
  have hunit := zpow_two_pos p
  have hscaled : IsNearest (fun k : ℕ => (k : ℚ) * 2 ^ p) Even x q := by
    have hscale := hq.scale hunit
    rwa [div_mul_cancel₀ _ hunit.ne'] at hscale
  have hvalue : (carry q p hlow).value = q * 2 ^ p := value_carry hhigh
  -- A number of a smaller exponent is farther away than the least one of this exponent.
  have hsmall (b : Normal) (hb : b.exponent < p) :
      |x - (carry q p hlow).value| < |x - b.value| := by
    have hless := value_lt_of_exponent_lt hb
    have hleast : |x - q * 2 ^ p| ≤ |x - ((2 ^ 52 : ℕ) : ℚ) * 2 ^ p| := hscaled.closest (2 ^ 52)
    rw [Nat.cast_pow, Nat.cast_ofNat] at hleast
    rw [hvalue]
    rw [abs_of_nonneg (by linarith : 0 ≤ x - 2 ^ 52 * 2 ^ p)] at hleast
    rw [abs_of_pos (by linarith : 0 < x - b.value)]
    linarith
  constructor
  · intro b
    by_cases hb : b.exponent < p
    · exact (hsmall b hb).le
    · obtain ⟨k, hk⟩ := b.exists_multiple (not_lt.mp hb)
      rw [hvalue, hk]
      exact hscaled.closest k
  · intro b hne hdist
    by_cases hb : b.exponent < p
    · exact absurd hdist (hsmall b hb).ne'
    · obtain ⟨k, hk⟩ := b.exists_multiple (not_lt.mp hb)
      rw [hvalue, hk] at hne hdist
      exact isEven_carry (hscaled.even k hne hdist)

/-! ### Bits -/

/-- The bits of a double that has a mantissa of 53 binary digits. -/
def bits (d : Normal) : ℕ :=
  (d.exponent + 1074).toNat * 2 ^ 52 + d.mantissa

theorem bits_carry
    (hhigh : q ≤ 2 ^ 53)
    (hp : -1074 ≤ p) :
    (carry q p hlow).bits = (p + 1074).toNat * 2 ^ 52 + q := by
  unfold carry
  split
  · rfl
  · unfold bits
    dsimp only
    omega

theorem bits_lt_infinityBits_iff
    {d : Normal}
    (h : -1074 ≤ d.exponent) :
    d.bits < infinityBits ↔ d.exponent < 972 := by
  have hlow := d.low
  have hhigh := d.high
  unfold bits infinityBits
  omega

/-- The bits of a double tell its mantissa and its exponent. -/
theorem ofBits_bits
    {d : Normal}
    (hleast : -1074 ≤ d.exponent)
    (hmost : d.exponent < 972) :
    Binary.ofBits d.bits = .finite false d.mantissa d.exponent := by
  have hlow := d.low
  have hhigh := d.high
  have hsign : decide (2 ^ 63 ≤ d.bits) = false := by
    unfold bits
    simp only [decide_eq_false_iff_not]
    omega
  have hfield : d.bits / 2 ^ 52 % 2 ^ 11 = (d.exponent + 1075).toNat := by
    unfold bits
    omega
  have hfraction : 2 ^ 52 + d.bits % 2 ^ 52 = d.mantissa := by
    unfold bits
    omega
  have hexponent : ((d.exponent + 1075).toNat : ℤ) - 1075 = d.exponent := by omega
  unfold Binary.ofBits
  dsimp only
  rw [hsign, hfield, hfraction, hexponent, if_neg (by omega), if_neg (by omega)]

end Normal

/-! ## Rounding of quotients -/

theorem zpow_two_of_nonneg
    {p : ℤ}
    (h : 0 ≤ p) :
    (2 : ℚ) ^ p = (2 ^ p.toNat : ℕ) := by
  obtain ⟨k, rfl⟩ := Int.eq_ofNat_of_zero_le h
  simp

theorem zpow_two_of_nonpos
    {p : ℤ}
    (h : p ≤ 0) :
    (2 : ℚ) ^ p = ((2 ^ (-p).toNat : ℕ) : ℚ)⁻¹ := by
  obtain ⟨k, hk⟩ := Int.eq_ofNat_of_zero_le (neg_nonneg.mpr h)
  obtain rfl : p = -k := by omega
  simp

/-- A quotient in units of a power of two is rounded to the nearest whole number of them. -/
theorem isNearest_roundScaled
    (num : ℕ)
    {den : ℕ}
    (hden : 0 < den)
    (p : ℤ) :
    IsNearest (fun k : ℕ => (k : ℚ)) Even (num / den / 2 ^ p) (roundScaled num den p) := by
  unfold roundScaled
  split
  · next hp =>
    have hquotient := isNearest_roundDiv num (Nat.mul_pos hden (Nat.two_pow_pos p.toNat))
    rwa [Nat.cast_mul, ← zpow_two_of_nonneg hp, ← div_div] at hquotient
  · next hp =>
    have hquotient := isNearest_roundDiv (num * 2 ^ (-p).toNat) hden
    rwa [Nat.cast_mul, ← inv_inv ((2 ^ (-p).toNat : ℕ) : ℚ),
      ← zpow_two_of_nonpos (not_le.mp hp).le, ← div_eq_mul_inv, div_right_comm] at hquotient

/-- A power of two fits into a quotient: the test by which the binary order is found. -/
theorem reached_iff
    (num : ℕ)
    {den : ℕ}
    (hden : 0 < den)
    (e : ℤ) :
    (if 0 ≤ e then decide (den * 2 ^ e.toNat ≤ num) else decide (den ≤ num * 2 ^ (-e).toNat))
      = true ↔ (2 : ℚ) ^ e ≤ num / den := by
  rw [le_div_iff₀ (Nat.cast_pos.mpr hden)]
  split
  · next he =>
    rw [decide_eq_true_eq, zpow_two_of_nonneg he, ← Nat.cast_mul, Nat.cast_le, Nat.mul_comm]
  · next he =>
    have hscale : (0 : ℚ) < (2 ^ (-e).toNat : ℕ) := Nat.cast_pos.mpr (Nat.two_pow_pos _)
    rw [decide_eq_true_eq, zpow_two_of_nonpos (not_le.mp he).le, inv_mul_le_iff₀ hscale,
      ← Nat.cast_mul, Nat.cast_le, Nat.mul_comm]

/-- A number lies between two to its binary logarithm and the next power of two. -/
theorem log2_bounds
    {n : ℕ}
    (hn : 0 < n) :
    (2 : ℚ) ^ (Nat.log2 n : ℤ) ≤ n ∧ (n : ℚ) < 2 ^ ((Nat.log2 n : ℤ) + 1) := by
  constructor
  · rw [zpow_natCast]
    exact_mod_cast Nat.log2_self_le hn.ne'
  · have hlt : n < 2 ^ (Nat.log2 n + 1) := Nat.lt_log2_self
    have hcast : ((Nat.log2 n : ℤ) + 1) = ((Nat.log2 n + 1 : ℕ) : ℤ) := rfl
    rw [hcast, zpow_natCast]
    exact_mod_cast hlt

/-- A positive quotient lies between two to its binary order and the next power of two. -/
theorem binaryOrder_bounds
    {num den : ℕ}
    (hnum : 0 < num)
    (hden : 0 < den) :
    (2 : ℚ) ^ binaryOrder num den ≤ num / den ∧
      (num : ℚ) / den < 2 ^ (binaryOrder num den + 1) := by
  have htwo : (2 : ℚ) ≠ 0 := by norm_num
  have hpos : (0 : ℚ) < den := Nat.cast_pos.mpr hden
  have hreached := reached_iff num hden ((Nat.log2 num : ℤ) - Nat.log2 den)
  obtain ⟨hnumLow, hnumHigh⟩ := log2_bounds hnum
  obtain ⟨hdenLow, hdenHigh⟩ := log2_bounds hden
  unfold binaryOrder
  dsimp only
  generalize (Nat.log2 num : ℤ) = a at hreached hnumLow hnumHigh ⊢
  generalize (Nat.log2 den : ℤ) = b at hreached hdenLow hdenHigh ⊢
  by_cases he : (2 : ℚ) ^ (a - b) ≤ num / den
  · rw [if_pos (hreached.mpr he)]
    refine ⟨he, ?_⟩
    rw [div_lt_iff₀ hpos]
    calc (num : ℚ)
        < 2 ^ (a + 1) := hnumHigh
      _ = 2 ^ (a - b + 1) * 2 ^ b := by
          rw [← zpow_add₀ htwo]
          congr 1
          omega
      _ ≤ 2 ^ (a - b + 1) * den :=
          mul_le_mul_of_nonneg_left hdenLow (Normal.zpow_two_pos _).le
  · rw [if_neg (mt hreached.mp he), sub_add_cancel]
    refine ⟨?_, not_le.mp he⟩
    rw [le_div_iff₀ hpos]
    calc 2 ^ (a - b - 1) * (den : ℚ)
        ≤ 2 ^ (a - b - 1) * 2 ^ (b + 1) :=
          mul_le_mul_of_nonneg_left hdenHigh.le (Normal.zpow_two_pos _).le
      _ = 2 ^ a := by
          rw [← zpow_add₀ htwo]
          congr 1
          omega
      _ ≤ num := hnumLow

/-- The number of 53 binary digits nearest to a quotient.  Rounding to a double gives its bits, or
those of infinity if there is no such double. -/
theorem exists_isNearest
    {num den : ℕ}
    (hnum : 0 < num)
    (hden : 0 < den) :
    ∃ d : Normal, IsNearest Normal.value Normal.IsEven (num / den) d ∧
      d.value = roundScaled num den (binaryOrder num den - 52) * 2 ^ (binaryOrder num den - 52) ∧
      (-1022 ≤ binaryOrder num den → nearestBits num den = min infinityBits d.bits) := by
  obtain ⟨hleast, hmost⟩ := binaryOrder_bounds hnum hden
  have hround := isNearest_roundScaled num hden (binaryOrder num den - 52)
  have hbits : -1022 ≤ binaryOrder num den → nearestBits num den =
      min infinityBits ((binaryOrder num den - 52 + 1074).toNat * 2 ^ 52 +
        roundScaled num den (binaryOrder num den - 52)) := by
    intro horder
    unfold nearestBits
    dsimp only
    rw [if_neg hnum.ne', max_eq_left (by omega)]
  generalize binaryOrder num den = order at hleast hmost hround hbits ⊢
  generalize roundScaled num den (order - 52) = q at hround hbits ⊢
  have htwo : (2 : ℚ) ≠ 0 := by norm_num
  have hunit := Normal.zpow_two_pos (order - 52)
  have hpower (k : ℕ) : (2 : ℚ) ^ k * 2 ^ (order - 52) = 2 ^ (order - 52 + k) := by
    rw [← zpow_natCast, ← zpow_add₀ htwo, add_comm]
  have hx : 2 ^ 52 * 2 ^ (order - 52) ≤ (num : ℚ) / den := by
    rw [hpower, Nat.cast_ofNat, sub_add_cancel]
    exact hleast
  have hlow : 2 ^ 52 ≤ q := by
    have hle : ((2 ^ 52 : ℕ) : ℚ) ≤ num / den / 2 ^ (order - 52) := by
      rw [Nat.cast_pow, Nat.cast_ofNat]
      exact (le_div_iff₀ hunit).mpr hx
    exact_mod_cast hround.le_value hle
  have hhigh : q ≤ 2 ^ 53 := by
    have hle : (num : ℚ) / den / 2 ^ (order - 52) ≤ ((2 ^ 53 : ℕ) : ℚ) := by
      rw [Nat.cast_pow, Nat.cast_ofNat, div_le_iff₀ hunit, hpower]
      exact hmost.le.trans_eq (by congr 1; push_cast; ring)
    exact_mod_cast hround.value_le hle
  refine ⟨Normal.carry q (order - 52) hlow, Normal.isNearest_carry hx hhigh hround,
    Normal.value_carry hhigh, ?_⟩
  intro horder
  rw [hbits horder, Normal.bits_carry hhigh (by omega)]

/-- A quotient that is a number of 53 binary digits is rounded to it. -/
theorem nearestBits_of_value
    {num den : ℕ}
    (hden : 0 < den)
    {d : Normal}
    (h : (num : ℚ) / den = d.value)
    (hleast : -1074 ≤ d.exponent)
    (hmost : d.exponent < 972) :
    nearestBits num den = d.bits := by
  have hnum : 0 < num := by
    refine Nat.pos_of_ne_zero ?_
    rintro rfl
    have hpos := d.value_pos
    rw [← h, Nat.cast_zero, zero_div] at hpos
    exact lt_irrefl 0 hpos
  have horder : -1022 ≤ binaryOrder num den := by
    have hlt := (binaryOrder_bounds hnum hden).2
    have hge : (2 : ℚ) ^ (d.exponent + 52) ≤ num / den := by
      rw [h, zpow_add₀ (by norm_num), mul_comm]
      exact d.low_mul_le
    have hexponent := (zpow_lt_zpow_iff_right₀ (by norm_num)).mp (lt_of_le_of_lt hge hlt)
    omega
  obtain ⟨b, hnearest, _, hbits⟩ := exists_isNearest hnum hden
  obtain rfl : b = d := Normal.eq_of_isNearest hnearest (IsNearest.of_eq h.symm)
  rw [hbits horder]
  exact min_eq_right ((Normal.bits_lt_infinityBits_iff hleast).mpr hmost).le

end Decimal
end Rebalance
