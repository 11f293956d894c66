import Rebalance.Proofs.Decimal.Nearest
import Rebalance.Proofs.Size
import Mathlib.Data.Nat.Log

/-!
# Sizes by exact arithmetic

* `exists_double`: `toDouble` gives the number of 53 binary digits nearest to a whole number, with
  ties to even.
* `pow_le_value_iff`: rounding reaches a power of two just from halfway in front of it on, so that
  `2 ^ 1024 - 2 ^ 970` is the least whole number that no double is for.
* `dividedText?`: the text of a size as it comes about when a double is divided by 1024 again and
  again, each time rounded.  Every division is exact, so it is the text that `text?` gives.
* `text_exact`: the text of a size is the double nearest to it, over the power of 1024 that its
  logarithm tells, rounded to hundredths.
-/

namespace Rebalance
namespace Size

open Decimal

/-! ## The nearest double -/

theorem binaryOrder_one
    {n : ℕ}
    (hn : 0 < n) :
    binaryOrder n 1 = Nat.log2 n := by
  have hlog : Nat.log2 1 = 0 := by decide
  have hreached : 1 * 2 ^ (Nat.log2 n) ≤ n := by
    rw [Nat.one_mul]
    exact Nat.log2_self_le hn.ne'
  simp [binaryOrder, hlog] at hreached ⊢
  exact hreached

/-- A whole number is rounded to a double in units of the power of two that leaves 53 digits. -/
theorem toDouble_eq
    {n : ℕ}
    (hn : 0 < n) :
    (toDouble n : ℚ) =
      roundScaled n 1 (binaryOrder n 1 - 52) * 2 ^ (binaryOrder n 1 - 52) := by
  rw [binaryOrder_one hn]
  unfold roundScaled
  by_cases hlog : 52 ≤ Nat.log2 n
  · obtain ⟨k, hk⟩ := Nat.exists_eq_add_of_le hlog
    have hp : (Nat.log2 n : ℤ) - 52 = k := by omega
    have hshift : Nat.log2 n - 52 = k := by omega
    rw [hp, if_pos (Int.natCast_nonneg k), Int.toNat_natCast, Nat.one_mul, zpow_natCast, toDouble,
      hshift]
    push_cast
    rfl
  · have hsmall : n < 2 ^ 53 := (Nat.log2_lt hn.ne').mp (by omega)
    have hunit := Normal.zpow_two_pos ((Nat.log2 n : ℤ) - 52)
    rw [if_neg (by omega), roundDiv_one, toDouble_of_lt hsmall, Nat.cast_mul,
      ← inv_inv ((2 ^ (-((Nat.log2 n : ℤ) - 52)).toNat : ℕ) : ℚ),
      ← zpow_two_of_nonpos (by omega), inv_mul_cancel_right₀ hunit.ne']

/-- Rounding a whole number to a double gives the nearest number of 53 binary digits. -/
theorem exists_double
    {n : ℕ}
    (hn : 0 < n) :
    ∃ d : Normal, IsNearest Normal.value Normal.IsEven n d ∧ d.value = toDouble n ∧
      -52 ≤ d.exponent ∧ nearestBits n 1 = min infinityBits d.bits := by
  obtain ⟨d, hnearest, hvalue, hbits⟩ := exists_isNearest hn Nat.one_pos
  rw [Nat.cast_one, div_one] at hnearest
  have hone : (⟨2 ^ 52, -52, by decide, by decide⟩ : Normal).value ≤ n := by
    have hle : (1 : ℚ) ≤ n := by exact_mod_cast hn
    exact le_trans (by norm_num [Normal.value]) hle
  have hexponent : -52 ≤ d.exponent := Normal.exponent_le (hnearest.le_value hone)
  have horder : -1022 ≤ binaryOrder n 1 := by
    rw [binaryOrder_one hn]
    omega
  exact ⟨d, hnearest, hvalue.trans (toDouble_eq hn).symm, hexponent, hbits horder⟩

/-- A number of 53 binary digits lies below a power of two just when its exponent does. -/
theorem value_lt_pow_iff
    {d : Normal}
    (k : ℕ) :
    d.value < 2 ^ k ↔ d.exponent < k - 52 := by
  have hpow : (2 : ℚ) ^ k = 2 ^ 52 * 2 ^ ((k : ℤ) - 52) := by
    rw [← zpow_natCast, ← zpow_natCast, ← zpow_add₀ (by norm_num)]
    congr 1
    omega
  rw [hpow]
  constructor
  · intro h
    by_contra hle
    have hunit : (2 : ℚ) ^ ((k : ℤ) - 52) ≤ 2 ^ d.exponent :=
      zpow_le_zpow_right₀ (by norm_num) (not_lt.mp hle)
    exact absurd (lt_of_lt_of_le h (mul_le_mul_of_nonneg_left hunit (by norm_num)))
      (not_lt.mpr d.low_mul_le)
  · exact Normal.value_lt_of_exponent_lt

/-- Rounding reaches a power of two just from halfway between it and the number in front of it. -/
theorem pow_le_value_iff
    {x : ℚ}
    {d : Normal}
    (h : IsNearest Normal.value Normal.IsEven x d)
    (e : ℤ) :
    2 ^ 52 * 2 ^ e ≤ d.value ↔ 2 ^ 52 * 2 ^ e - 2 ^ (e - 2) ≤ x := by
  let last : Normal := ⟨2 ^ 53 - 1, e - 1, by decide, by decide⟩
  let power : Normal := ⟨2 ^ 52, e, by decide, by decide⟩
  have htwo : (2 : ℚ) ≠ 0 := by norm_num
  have hunit : (2 : ℚ) ^ (e - 1) = 2 ^ (e - 2) * 2 := by
    rw [← zpow_add_one₀ htwo]
    congr 1
    omega
  have hpower : power.value = 2 ^ 52 * 2 ^ e := by
    show ((2 ^ 52 : ℕ) : ℚ) * 2 ^ e = _
    rw [Nat.cast_pow, Nat.cast_ofNat]
  have hscale : (2 : ℚ) ^ e = 2 ^ (e - 1) * 2 := by
    rw [← zpow_add_one₀ htwo, sub_add_cancel]
  have hlast : last.value = 2 ^ 52 * 2 ^ e - 2 ^ (e - 2) * 2 := by
    show ((2 ^ 53 - 1 : ℕ) : ℚ) * 2 ^ (e - 1) = _
    rw [hscale, hunit]
    norm_num
    ring
  have hnext (hmore : last.value < d.value) : power.value ≤ d.value := by
    have hmantissa : last.mantissa + 1 = 2 ^ 53 := Nat.sub_add_cancel (by decide)
    have hsucc := Normal.succ_mul_le hmore
    rw [hmantissa, Nat.cast_pow, Nat.cast_ofNat] at hsucc
    rw [hpower, hscale]
    linarith
  have hpos := Normal.zpow_two_pos (e - 2)
  rw [← hpower] at hlast ⊢
  generalize (2 : ℚ) ^ (e - 2) = u at hlast hpos ⊢
  constructor
  · intro hle
    by_contra hlt
    have hcloser := h.closest last
    rw [hlast, abs_of_neg (by linarith : x - d.value < 0)] at hcloser
    rcases abs_cases (x - (power.value - u * 2)) with ⟨habs, _⟩ | ⟨habs, _⟩ <;> linarith
  · intro hx
    by_contra hlt
    have hle : d.value ≤ last.value := not_lt.mp fun hmore => hlt (hnext hmore)
    have hcloser := h.closest power
    rw [abs_of_pos (by linarith : 0 < x - d.value)] at hcloser
    have hbelow : x - power.value < 0 := by
      by_contra hover
      rw [abs_of_nonneg (not_lt.mp hover)] at hcloser
      linarith
    rw [abs_of_neg hbelow] at hcloser
    -- A tie goes to the power of two, since the number in front of it is odd.
    have hvalue : d.value = last.value := by linarith
    obtain rfl : d = last := Normal.eq_of_value hvalue
    have htie : |x - power.value| = |x - last.value| := by
      rw [hlast, abs_of_neg hbelow, abs_of_pos (by linarith)]
      linarith
    have heven : Even (2 ^ 53 - 1) := h.even power (by linarith) htie
    exact absurd heven (by decide)

/-! ## Hundredths -/

/-- Quotients that are equal are rounded to the same whole number. -/
theorem roundDiv_congr
    {num den num' den' : ℕ}
    (hden : 0 < den)
    (hden' : 0 < den')
    (h : (num : ℚ) / den = num' / den') :
    roundDiv num den = roundDiv num' den' := by
  have hnearest := isNearest_roundDiv num hden
  rw [h] at hnearest
  exact_mod_cast hnearest.value_eq exists_even_between (isNearest_roundDiv num' hden')

/-- A whole number of hundredths. -/
def centesimal (h : ℕ) : ℚ :=
  h / 100

/-- A size in a unit is rounded to the nearest hundredth, with ties to even. -/
theorem isNearest_hundredths
    (d k : ℕ) :
    IsNearest centesimal Even (d / 1024 ^ k) (roundDiv (d * 100) (1024 ^ k)) := by
  have hround := (isNearest_roundDiv (d * 100) (Nat.pow_pos (by decide) : 0 < 1024 ^ k)).scale
    (by norm_num : (0 : ℚ) < 1 / 100)
  have hsize : ((d * 100 : ℕ) : ℚ) / (1024 ^ k : ℕ) * (1 / 100) = d / 1024 ^ k := by
    push_cast
    ring
  have hgrid : (fun h : ℕ => (h : ℚ) * (1 / 100)) = centesimal := by
    funext h
    rw [mul_one_div, centesimal]
  rwa [hsize, hgrid] at hround

/-- The nearest hundredth is unique. -/
theorem eq_of_isNearest_hundredths
    {x : ℚ}
    {h h' : ℕ}
    (hh : IsNearest centesimal Even x h)
    (hh' : IsNearest centesimal Even x h') :
    h = h' := by
  have hscale {i : ℕ} (hi : IsNearest centesimal Even x i) :
      IsNearest (fun k : ℕ => (k : ℚ)) Even (x * 100) i := by
    have hgrid : (fun k : ℕ => centesimal k * 100) = fun k : ℕ => (k : ℚ) := by
      funext k
      rw [centesimal, div_mul_cancel₀ _ (by norm_num)]
    have hscaled := hi.scale (by norm_num : (0 : ℚ) < 100)
    rwa [hgrid] at hscaled
  exact_mod_cast (hscale hh).value_eq exists_even_between (hscale hh')

/-! ## The unit -/

/-- The unit of a size is the one its logarithm tells, also after it was rounded to a double. -/
theorem unitOf_toDouble
    {n : ℕ}
    (h : 1024 ≤ n) :
    unitOf (toDouble n) = min 5 (Nat.log 1024 n) := by
  have hbound {m : ℕ} (hm : m ≤ 5) : 1024 ^ m ≤ 2 ^ 53 :=
    Nat.le_trans (Nat.pow_le_pow_right (by decide) hm) (by decide)
  have hfirst : 1024 ^ 1 ≤ toDouble n := (le_toDouble_iff (hbound (by decide))).mpr h
  obtain ⟨hone, hfive, hfits, hnext⟩ :
      1 ≤ unitOf (toDouble n) ∧ unitOf (toDouble n) ≤ 5 ∧
        1024 ^ unitOf (toDouble n) ≤ toDouble n ∧
        (unitOf (toDouble n) < 5 → toDouble n < 1024 ^ (unitOf (toDouble n) + 1)) :=
    unitLoop_fits 4 hfirst
  generalize unitOf (toDouble n) = k at hone hfive hfits hnext ⊢
  have hlow : k ≤ Nat.log 1024 n :=
    (Nat.le_log_iff_pow_le (by decide) (by omega)).mpr ((le_toDouble_iff (hbound hfive)).mp hfits)
  by_cases hlast : k < 5
  · have hhigh : Nat.log 1024 n < k + 1 := by
      refine (Nat.log_lt_iff_lt_pow (by decide) (by omega)).mpr (Nat.lt_of_not_le fun hle => ?_)
      exact Nat.not_lt.mpr ((le_toDouble_iff (hbound hlast)).mpr hle) (hnext hlast)
    omega
  · omega

/-! ## Division by division -/

/-- A double counted in the next unit: the double nearest to a 1024th of it. -/
def nextUnit : Binary → Binary
  | .finite _ m e =>
    let (num, den) := quotientOf m e
    .ofBits (nearestBits num (den * 1024))
  | x => x

/-- Whether a positive double is less than 1024. -/
def isSmall : Binary → Bool
  | .finite _ m e =>
    let (num, den) := quotientOf m e
    decide (num < 1024 * den)
  | _ => false

/-- A positive double with two decimals. -/
def twoPlaces : Binary → String
  | .finite _ m e =>
    let (num, den) := quotientOf m e
    String.ofList (fixed 2 num den)
  | _ => ""

/-- A double counted in one unit after the other until less than 1024 are left, and the name of the
last one. -/
def countDown : Binary → List String → Binary × String
  | x, [] => (x, "")
  | x, [unit] => (nextUnit x, unit)
  | x, unit :: rest =>
    if isSmall (nextUnit x) then (nextUnit x, unit) else countDown (nextUnit x) rest

/-- The text of a number of bytes, as it comes about when a double is divided by 1024 for one unit
after the other. -/
def dividedText? (n : Int) : Option String :=
  if n < 1024 then some (intText n ++ " B")
  else if intFits n then
    let (x, unit) := countDown (.ofBits (nearestBits n.natAbs 1)) unitNames
    some (twoPlaces x ++ " " ++ unit)
  else none

/-- A number counted in a power of 1024. -/
def counted (d : Normal) (k : ℕ) : Normal :=
  ⟨d.mantissa, d.exponent - 10 * k, d.low, d.high⟩

/-- A number of 53 binary digits as a double. -/
def binary (d : Normal) : Binary :=
  .finite false d.mantissa d.exponent

theorem value_counted
    (d : Normal)
    (k : ℕ) :
    (counted d k).value = d.value / 1024 ^ k := by
  have hpow : (1024 : ℚ) ^ k = 2 ^ (10 * k : ℤ) := by
    rw [zpow_mul, zpow_natCast]
    norm_num
  show (d.mantissa : ℚ) * 2 ^ (d.exponent - 10 * k) = _
  rw [zpow_sub₀ (by norm_num), hpow, Normal.value, mul_div_assoc]

theorem quotientOf_value
    (m : ℕ)
    (e : ℤ) :
    0 < (quotientOf m e).2 ∧ ((quotientOf m e).1 : ℚ) / (quotientOf m e).2 = m * 2 ^ e := by
  unfold quotientOf
  split
  · next he =>
    rw [zpow_two_of_nonneg he]
    simp
  · next he =>
    rw [zpow_two_of_nonpos (not_le.mp he).le, div_eq_mul_inv]
    exact ⟨Nat.two_pow_pos _, rfl⟩

/-- Dividing by 1024 is exact. -/
theorem nextUnit_counted
    {d : Normal}
    {k : ℕ}
    (hleast : -1064 ≤ d.exponent - 10 * k)
    (hmost : d.exponent < 972) :
    nextUnit (binary (counted d k)) = binary (counted d (k + 1)) := by
  obtain ⟨hden, hquotient⟩ := quotientOf_value d.mantissa (d.exponent - 10 * k)
  have hvalue : ((quotientOf d.mantissa (d.exponent - 10 * k)).1 : ℚ) /
      ((quotientOf d.mantissa (d.exponent - 10 * k)).2 * 1024 : ℕ) = (counted d (k + 1)).value := by
    rw [Nat.cast_mul, ← div_div, hquotient, value_counted, pow_succ, ← div_div, ← value_counted]
    rfl
  have hlow : -1074 ≤ (counted d (k + 1)).exponent := by
    show -1074 ≤ d.exponent - 10 * (k + 1 : ℕ)
    omega
  have hhigh : (counted d (k + 1)).exponent < 972 := by
    show d.exponent - 10 * (k + 1 : ℕ) < 972
    omega
  have hbits := nearestBits_of_value (Nat.mul_pos hden (by decide)) hvalue hlow hhigh
  exact (congrArg Binary.ofBits hbits).trans (Normal.ofBits_bits hlow hhigh)

theorem isSmall_counted_iff
    {d : Normal}
    {n : ℕ}
    (h : d.value = n)
    (k : ℕ) :
    isSmall (binary (counted d k)) = true ↔ n < 1024 ^ (k + 1) := by
  obtain ⟨hden, hquotient⟩ := quotientOf_value d.mantissa (d.exponent - 10 * k)
  have hpos : (0 : ℚ) < (quotientOf d.mantissa (d.exponent - 10 * k)).2 := Nat.cast_pos.mpr hden
  have hvalue : d.mantissa * (2 : ℚ) ^ (d.exponent - 10 * k) = n / 1024 ^ k := by
    rw [← h]
    exact value_counted d k
  have hlt : (quotientOf d.mantissa (d.exponent - 10 * k)).1 <
      1024 * (quotientOf d.mantissa (d.exponent - 10 * k)).2 ↔ n < 1024 ^ (k + 1) := by
    rw [← Nat.cast_lt (α := ℚ), Nat.cast_mul, ← div_lt_iff₀ hpos, hquotient, hvalue,
      div_lt_iff₀ (by positivity), pow_succ', ← Nat.cast_lt (α := ℚ)]
    push_cast
    rfl
  exact decide_eq_true_iff.trans hlt

theorem le_unitLoop
    (d left k : ℕ) :
    k ≤ unitLoop d left k := by
  induction left generalizing k with
  | zero => exact Nat.le_refl k
  | succ left ih =>
    unfold unitLoop
    split
    · exact Nat.le_refl k
    · exact Nat.le_of_succ_le (ih (k + 1))

/-- Dividing step by step ends in the unit that fits, with the exact quotient. -/
theorem countDown_eq
    {d : Normal}
    {n : ℕ}
    (h : d.value = n)
    (hleast : -52 ≤ d.exponent)
    (hmost : d.exponent < 972)
    (left : ℕ)
    {units : List String}
    (hunits : units.length = left + 1)
    {k : ℕ}
    (hk : k + left ≤ 5) :
    countDown (binary (counted d k)) units =
      (binary (counted d (unitLoop n left (k + 1))),
        units.getD (unitLoop n left (k + 1) - (k + 1)) "") := by
  induction left generalizing units k with
  | zero =>
    obtain ⟨unit, rfl⟩ := List.length_eq_one_iff.mp hunits
    have hstep : nextUnit (binary (counted d k)) = _ := nextUnit_counted (by omega) hmost
    simp [countDown, unitLoop, hstep]
  | succ left ih =>
    obtain ⟨unit, rest, rfl⟩ := List.exists_cons_of_length_eq_add_one hunits
    obtain ⟨other, others, rfl⟩ := List.exists_cons_of_length_eq_add_one
      (Nat.succ.inj hunits)
    have hstep : nextUnit (binary (counted d k)) = _ := nextUnit_counted (by omega) hmost
    have hsmall := isSmall_counted_iff h (k + 1)
    rw [countDown, hstep, unitLoop]
    · by_cases hlt : n < 1024 ^ (k + 1 + 1)
      · rw [if_pos (hsmall.mpr hlt), if_pos hlt, Nat.sub_self]
        rfl
      · have hle := le_unitLoop n left (k + 1 + 1)
        have hindex : unitLoop n left (k + 1 + 1) - (k + 1) =
            unitLoop n left (k + 1 + 1) - (k + 1 + 1) + 1 := by omega
        rw [if_neg (mt hsmall.mp hlt), if_neg hlt, ih (Nat.succ.inj hunits) (by omega), hindex,
          List.getD_cons_succ]
    · exact List.cons_ne_nil _ _

theorem countDown_unitNames
    {d : Normal}
    {n : ℕ}
    (h : d.value = n)
    (hleast : -52 ≤ d.exponent)
    (hmost : d.exponent < 972) :
    countDown (binary d) unitNames =
      (binary (counted d (unitOf n)), Shown.unitName (unitOf n)) := by
  have hzero : counted d 0 = d := by simp [counted]
  have hunits : unitNames.length = 4 + 1 := rfl
  have hcount := countDown_eq h hleast hmost 4 hunits (by decide : 0 + 4 ≤ 5)
  rwa [hzero] at hcount

/-! ## Two decimals -/

theorem filled_two
    {k : ℕ}
    (h : k < 100) :
    filled 2 k = digits (k / 10) ++ digits (k % 10) := by
  have hall : ∀ k < 100, filled 2 k = digits (k / 10) ++ digits (k % 10) := by decide
  exact hall k h

/-- Two decimals of a quotient are its hundredths. -/
theorem fixed_two
    (num den : ℕ) :
    fixed 2 num den = hundredths (roundDiv (num * 100) den) := by
  have hlast : roundDiv (num * 100) den % 100 % 10 = roundDiv (num * 100) den % 10 := by omega
  unfold fixed hundredths
  dsimp only
  rw [if_neg (by decide), filled_two (Nat.mod_lt _ (by decide)), hlast]

/-- A number of bytes shown as a double in a unit. -/
theorem twoPlaces_counted
    {d : Normal}
    {n : ℕ}
    (h : d.value = n)
    (k : ℕ) :
    twoPlaces (binary (counted d k)) =
      String.ofList (hundredths (roundDiv (n * 100) (1024 ^ k))) := by
  obtain ⟨hden, hquotient⟩ := quotientOf_value d.mantissa (d.exponent - 10 * k)
  have hvalue : d.mantissa * (2 : ℚ) ^ (d.exponent - 10 * k) = n / 1024 ^ k := by
    rw [← h]
    exact value_counted d k
  have hround : roundDiv ((quotientOf d.mantissa (d.exponent - 10 * k)).1 * 100)
      (quotientOf d.mantissa (d.exponent - 10 * k)).2 = roundDiv (n * 100) (1024 ^ k) := by
    refine roundDiv_congr hden (Nat.pow_pos (by decide)) ?_
    push_cast
    rw [mul_div_right_comm, hquotient, hvalue, mul_div_right_comm]
  rw [← hround, ← fixed_two]
  rfl

theorem pow_le_toDouble_iff
    {m : ℕ}
    {d : Normal}
    (h : d.value = toDouble m)
    (k : ℕ) :
    2 ^ k ≤ toDouble m ↔ (2 : ℚ) ^ k ≤ d.value := by
  rw [h, ← Nat.cast_le (α := ℚ), Nat.cast_pow, Nat.cast_ofNat]

/-- Whether a whole number lies within the doubles is told by the exponent of its rounding. -/
theorem intFits_iff
    {m : ℕ}
    {d : Normal}
    (hleast : -52 ≤ d.exponent)
    (hbits : nearestBits m 1 = min infinityBits d.bits) :
    intFits m = true ↔ d.exponent < 972 := by
  unfold intFits
  rw [decide_eq_true_iff, Int.natAbs_natCast, hbits,
    ← Normal.bits_lt_infinityBits_iff (by omega)]
  omega

/-- Every division being exact, the loop over the units gives the text that one division gives. -/
theorem text?_eq_dividedText?
    (n : Int) :
    text? n = dividedText? n := by
  unfold text? dividedText?
  split
  · rfl
  · next hn =>
    obtain ⟨m, rfl⟩ := Int.eq_ofNat_of_zero_le (by omega : 0 ≤ n)
    obtain ⟨d, _, hvalue, hleast, hbits⟩ := exists_double (by omega : 0 < m)
    have hfits := intFits_iff hleast hbits
    have hover : 2 ^ 1024 ≤ toDouble m ↔ ¬ d.exponent < 972 := by
      rw [pow_le_toDouble_iff hvalue 1024, ← not_lt]
      exact not_congr (value_lt_pow_iff 1024)
    dsimp only
    by_cases hmost : d.exponent < 972
    · have hdouble : Binary.ofBits (nearestBits m 1) = binary d := by
        have hlt : d.bits < infinityBits :=
          (Normal.bits_lt_infinityBits_iff (by omega)).mpr hmost
        rw [hbits, min_eq_right hlt.le, Normal.ofBits_bits (by omega) hmost]
        rfl
      rw [Int.toNat_natCast, Int.natAbs_natCast, if_neg (fun h => hover.mp h hmost),
        if_pos (hfits.mpr hmost), hdouble,
        countDown_unitNames hvalue hleast hmost]
      dsimp only
      rw [twoPlaces_counted hvalue, scaledText_eq, Shown.text_eq, shown]
    · rw [Int.toNat_natCast, if_pos (hover.mpr hmost), if_neg (mt hfits.mp hmost)]

/-! ## The text -/

theorem toString_eq
    (n : Int) :
    toString n = intText n := by
  cases n with
  | ofNat m => rfl
  | negSucc m =>
    show String.ofList ['-'] ++ String.ofList (digits (m + 1)) =
      String.ofList ('-' :: digits (m + 1))
    rw [← String.ofList_append]
    rfl

/-- The text of a size by exact arithmetic.  A size below 1024 is a number of bytes.  Any other is
rounded to the nearest double, with ties to even, and has no text if there is no such double, which
is so just from halfway between the greatest double and the next number on.  The double over the
power of 1024 that the logarithm of the size tells, at most the fifth, is rounded to the nearest
hundredth, with ties to even, and shown with two decimals and the name of the power.  This is also
the text that dividing a double by 1024 again and again gives. -/
theorem text_exact
    (n : Int) :
    (0 ≤ n → n < 1024 → text? n = some (toString n ++ " B")) ∧
    (1024 ≤ n → ∃ d : Normal, IsNearest Normal.value Normal.IsEven n d ∧
      (∀ d' : Normal, IsNearest Normal.value Normal.IsEven n d' → d' = d) ∧
      (n < 2 ^ 53 → d.value = n) ∧
      (2 ^ 1024 ≤ d.value ↔ 2 ^ 1024 - 2 ^ 970 ≤ n) ∧
      (2 ^ 1024 ≤ d.value → text? n = none) ∧
      (d.value < 2 ^ 1024 →
        let power := min 5 (Nat.log 1024 n.toNat)
        ∃ h : ℕ, IsNearest centesimal Even (d.value / 1024 ^ power) h ∧
          (∀ h' : ℕ, IsNearest centesimal Even (d.value / 1024 ^ power) h' → h' = h) ∧
          text? n = some (Shown.text ⟨h, power⟩))) ∧
    text? n = dividedText? n := by
  refine ⟨?_, ?_, text?_eq_dividedText? n⟩
  · intro _ hn
    rw [text?, if_pos hn, toString_eq]
  · intro hn
    obtain ⟨m, rfl⟩ := Int.eq_ofNat_of_zero_le (by omega : 0 ≤ n)
    obtain ⟨d, hnearest, hvalue, _⟩ := exists_double (by omega : 0 < m)
    have hdouble := pow_le_toDouble_iff hvalue 1024
    have htext : text? (m : ℤ) = if 2 ^ 1024 ≤ toDouble m then none
        else some (shown (toDouble m)).text := by
      rw [text?, if_neg (by omega), ← scaledText_eq]
      rfl
    refine ⟨d, hnearest, fun d' hd' => Normal.eq_of_isNearest hd' hnearest, ?_, ?_, ?_, ?_⟩
    · intro hsmall
      rw [hvalue, toDouble_of_lt (by omega)]
      rfl
    · have htop : (2 : ℚ) ^ 1024 = 2 ^ 52 * 2 ^ (972 : ℤ) := by
        rw [← zpow_natCast, ← zpow_natCast, ← zpow_add₀ (by norm_num)]
        rfl
      have hhalf : (2 : ℚ) ^ 970 = 2 ^ (972 - 2 : ℤ) := by
        rw [← zpow_natCast]
        rfl
      rw [← Int.cast_le (R := ℚ), Int.cast_sub, Int.cast_pow, Int.cast_pow, Int.cast_ofNat, htop,
        hhalf]
      exact pow_le_value_iff hnearest 972
    · intro hlarge
      rw [htext, if_pos (hdouble.mpr hlarge)]
    · intro hsmall
      have hunit := unitOf_toDouble (by omega : 1024 ≤ m)
      have hhundredths := isNearest_hundredths (toDouble m) (unitOf (toDouble m))
      rw [← hvalue] at hhundredths
      dsimp only
      rw [Int.toNat_natCast, ← hunit, htext, if_neg (mt hdouble.mp (not_le.mpr hsmall))]
      exact ⟨_, hhundredths, fun h' hh' => eq_of_isNearest_hundredths hh' hhundredths, rfl⟩

/-- Halfway between two hundredths the even one is shown, and halfway to the number after the
greatest double there is no text. -/
theorem text_exact_halfway :
    0 ≤ (1023 : Int) ∧ (1023 : Int) < 1024 ∧ text? 1023 = some "1023 B" ∧
    (1024 : Int) ≤ 1152 ∧ text? 1152 = some "1.12 KiB" ∧
    (1024 : Int) ≤ 2 ^ 1024 - 2 ^ 970 ∧ text? (2 ^ 1024 - 2 ^ 970) = none := by
  have hlarge : (1024 : Int) ≤ 2 ^ 1024 - 2 ^ 970 := by
    have htop : (2 : Int) ^ 1024 = 2 ^ 54 * 2 ^ 970 := by rw [← pow_add]
    have hone : (1 : Int) ≤ 2 ^ 970 := one_le_pow₀ (by decide)
    rw [htop]
    generalize (2 : Int) ^ 970 = u at hone ⊢
    omega
  have htie : IsNearest centesimal Even (1152 / 1024 ^ 1) 112 := by
    have hround := isNearest_hundredths 1152 1
    rwa [(by decide : roundDiv (1152 * 100) (1024 ^ 1) = 112)] at hround
  refine ⟨by decide, by decide, (text_exact 1023).1 (by decide) (by decide), by decide, ?_,
    hlarge, ?_⟩
  · obtain ⟨d, _, _, hvalue, _, _, htext⟩ := (text_exact 1152).2.1 (by decide)
    have hd : d.value = 1152 := hvalue (by decide)
    have hpower : min 5 (Nat.log 1024 (1152 : Int).toNat) = 1 := by decide
    have hsmall : d.value < 2 ^ 1024 := by
      rw [hd]
      exact lt_of_lt_of_le (by norm_num) (pow_le_pow_right₀ (by norm_num) (by decide : 11 ≤ 1024))
    obtain ⟨h, _, hunique, hshown⟩ := htext hsmall
    rw [hpower, hd] at hunique
    rw [hshown, hpower, ← hunique 112 htie]
    decide +kernel
  · obtain ⟨d, _, _, _, hover, hnone, _⟩ := (text_exact (2 ^ 1024 - 2 ^ 970)).2.1 hlarge
    exact hnone (hover.mpr (le_refl _))

end Size
end Rebalance
