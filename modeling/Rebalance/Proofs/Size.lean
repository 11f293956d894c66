import Rebalance.Proofs.Decimal.Digits
import Rebalance.Size

/-!
# Sizes as they are shown

* `Shown`: a number of hundredths in a unit above the byte.  Its text tells both (`Shown.text_inj`).
* `toDouble_of_lt`, `le_toDouble`: rounding to a double leaves a number below `2 ^ 53` as it is, and
  takes no other below that bound.
* `unitLoop_fits`: the unit of a size is the largest one that fits into it.
* `size_in_unit`: a size is shown in the largest unit that fits, as one of it at least.  It is shown
  as no less than the next unit just when it is less than half a hundredth short of it.
-/

namespace Rebalance
namespace Size

open Decimal

/-! ## Rounding to a double -/

theorem roundDiv_one
    (n : Nat) :
    roundDiv n 1 = n := by
  simp [roundDiv, Nat.mod_one]

theorem div_le_roundDiv
    (num den : Nat) :
    num / den ≤ roundDiv num den := by
  unfold roundDiv
  dsimp only
  split
  · exact Nat.le_refl _
  · split
    · exact Nat.le_succ _
    · exact Nat.le_add_right _ _

/-- A number of at most 53 binary digits is a double. -/
theorem toDouble_of_lt
    {n : Nat}
    (h : n < 2 ^ 53) :
    toDouble n = n := by
  have hlog : Nat.log2 n - 52 = 0 := by
    by_cases hn : n = 0
    · rw [hn]
      rfl
    · have hlt := (Nat.log2_lt hn).mpr h
      omega
  unfold toDouble
  dsimp only
  rw [hlog, Nat.pow_zero, roundDiv_one, Nat.mul_one]

/-- A number of more binary digits is not rounded to one of fewer. -/
theorem le_toDouble
    {n : Nat}
    (h : 2 ^ 53 ≤ n) :
    2 ^ 53 ≤ toDouble n := by
  have hn : n ≠ 0 := by
    rintro rfl
    exact absurd h (by decide)
  have hlog : 53 ≤ Nat.log2 n := (Nat.le_log2 hn).mpr h
  have hquotient : 2 ^ 52 ≤ n / 2 ^ (Nat.log2 n - 52) := by
    rw [Nat.le_div_iff_mul_le (Nat.two_pow_pos _), ← Nat.pow_add]
    calc 2 ^ (52 + (Nat.log2 n - 52))
        = 2 ^ Nat.log2 n := by rw [Nat.add_sub_cancel' (by omega)]
      _ ≤ n := Nat.log2_self_le hn
  calc 2 ^ 53
      = 2 ^ 52 * 2 ^ 1 := rfl
    _ ≤ roundDiv n (2 ^ (Nat.log2 n - 52)) * 2 ^ (Nat.log2 n - 52) :=
        Nat.mul_le_mul (Nat.le_trans hquotient (div_le_roundDiv _ _))
          (Nat.pow_le_pow_right (by decide) (by omega))

/-- Rounding a number to a double takes it over no bound below `2 ^ 53`. -/
theorem le_toDouble_iff
    {m n : Nat}
    (hm : m ≤ 2 ^ 53) :
    m ≤ toDouble n ↔ m ≤ n := by
  by_cases hn : n < 2 ^ 53
  · rw [toDouble_of_lt hn]
  · have hle := Nat.not_lt.mp hn
    exact ⟨fun _ => Nat.le_trans hm hle, fun _ => Nat.le_trans hm (le_toDouble hle)⟩

/-! ## The unit -/

/-- The loop over the units ends at the largest one that fits, or at the last. -/
theorem unitLoop_fits
    {d : Nat}
    (left : Nat)
    {k : Nat}
    (h : 1024 ^ k ≤ d) :
    let j := unitLoop d left k
    k ≤ j ∧ j ≤ k + left ∧ 1024 ^ j ≤ d ∧ (j < k + left → d < 1024 ^ (j + 1)) := by
  induction left generalizing k with
  | zero => exact ⟨Nat.le_refl k, Nat.le_refl k, h, fun hlt => absurd hlt (Nat.lt_irrefl k)⟩
  | succ left ih =>
    unfold unitLoop
    by_cases hlt : d < 1024 ^ (k + 1)
    · rw [if_pos hlt]
      exact ⟨Nat.le_refl k, Nat.le_add_right k _, h, fun _ => hlt⟩
    · rw [if_neg hlt]
      obtain ⟨hlow, hhigh, hfits, hnext⟩ := ih (Nat.not_lt.mp hlt)
      refine ⟨by omega, by omega, hfits, ?_⟩
      intro hj
      exact hnext (by omega)

/-! ## The number -/

/-- A size as it is shown: a number of hundredths, and the power of 1024 that is its unit. -/
structure Shown where
  hundredths : Nat
  power : Nat

namespace Shown

/-- The name of a power of 1024. -/
def unitName (power : Nat) : String :=
  ["KiB", "MiB", "GiB", "TiB", "PiB"].getD (power - 1) ""

/-- The text of a shown size: its number with two decimals, and its unit. -/
def text (x : Shown) : String :=
  toString (x.hundredths / 100) ++ "." ++ toString (x.hundredths % 100 / 10)
    ++ toString (x.hundredths % 10) ++ " " ++ unitName x.power

/-- Whether the unit of a shown size is one of those with a name. -/
def IsNamed (x : Shown) : Prop :=
  1 ≤ x.power ∧ x.power ≤ 5

theorem text_eq
    (x : Shown) :
    x.text = String.ofList (Decimal.hundredths x.hundredths) ++ " " ++ unitName x.power := by
  have htoList (n : Nat) : (toString n).toList = digits n := String.toList_ofList
  have hnumber : toString (x.hundredths / 100) ++ "." ++ toString (x.hundredths % 100 / 10)
      ++ toString (x.hundredths % 10) = String.ofList (Decimal.hundredths x.hundredths) := by
    rw [← String.toList_inj]
    simp only [String.toList_append, htoList, String.toList_ofList, Decimal.hundredths,
      List.append_assoc]
    rfl
  rw [text, hnumber]

theorem filter_isDigit_digits
    (n : Nat) :
    (digits n).filter isDigit = digits n :=
  List.filter_eq_self.mpr fun _ hc => isDigit_of_mem_digits hc

/-- A digit put behind others. -/
theorem valueOf_digits_of_lt
    (acc : Nat)
    {d : Nat}
    (h : d < 10) :
    valueOf acc (digits d) = acc * 10 + d := by
  have hvalue : ∀ d < 10, d.digitChar.toNat - '0'.toNat = d := by decide
  rw [digits, Nat.toDigits_of_lt_base h]
  show acc * 10 + (d.digitChar.toNat - '0'.toNat) = acc * 10 + d
  rw [hvalue d h]

/-- The digits of a number of hundredths are read as this number. -/
theorem valueOf_hundredths
    (n : Nat) :
    valueOf 0 ((Decimal.hundredths n).filter isDigit) = n := by
  have hdigits : (Decimal.hundredths n).filter isDigit =
      digits (n / 100) ++ (digits (n % 100 / 10) ++ digits (n % 10)) := by
    unfold Decimal.hundredths
    rw [List.filter_append, List.filter_cons_of_neg (by decide), List.filter_append]
    simp only [filter_isDigit_digits]
  have happend (acc : Nat) (as bs : List Char) :
      valueOf acc (as ++ bs) = valueOf (valueOf acc as) bs := by
    simp only [valueOf_eq_ofDigitChars, Nat.ofDigitChars_append]
  rw [hdigits, happend, happend, valueOf_digits, valueOf_digits_of_lt _ (by omega),
    valueOf_digits_of_lt _ (by omega)]
  omega

/-- The digits of a shown size are those of its number. -/
theorem filter_isDigit_text
    {x : Shown}
    (h : x.IsNamed) :
    x.text.toList.filter isDigit = (Decimal.hundredths x.hundredths).filter isDigit := by
  have hname : ∀ p, p ≤ 5 → 1 ≤ p → (unitName p).toList.filter isDigit = [] := by decide
  have hspace : " ".toList.filter isDigit = [] := by decide
  rw [text_eq, String.toList_append, String.toList_append, String.toList_ofList,
    List.filter_append, List.filter_append, hname _ h.2 h.1, hspace, List.append_nil,
    List.append_nil]

/-- The text of a shown size tells its number and its unit. -/
theorem text_inj
    {x y : Shown}
    (hx : x.IsNamed)
    (hy : y.IsNamed)
    (h : x.text = y.text) :
    x = y := by
  have hnumber : x.hundredths = y.hundredths := by
    have hdigits : valueOf 0 (x.text.toList.filter isDigit) =
        valueOf 0 (y.text.toList.filter isDigit) := by rw [h]
    rwa [filter_isDigit_text hx, filter_isDigit_text hy, valueOf_hundredths,
      valueOf_hundredths] at hdigits
  have hunit : unitName x.power = unitName y.power := by
    rw [text_eq, text_eq, hnumber] at h
    exact (String.append_right_inj _).mp h
  have hnames : ∀ p, p ≤ 5 → ∀ q, q ≤ 5 → 1 ≤ p → 1 ≤ q → unitName p = unitName q → p = q := by
    decide
  cases x
  cases y
  rw [mk.injEq]
  exact ⟨hnumber, hnames _ hx.2 _ hy.2 hx.1 hy.1 hunit⟩

end Shown

/-- How a double of 1024 bytes or more is shown. -/
def shown (d : Nat) : Shown :=
  ⟨roundDiv (d * 100) (1024 ^ unitOf d), unitOf d⟩

theorem scaledText_eq
    (d : Nat) :
    scaledText d 1 = (shown d).text := by
  rw [Shown.text_eq]
  simp only [scaledText, Nat.div_one, Nat.one_mul]
  rfl

/-- Rounding reaches a bound just from half a unit below it on. -/
theorem le_roundDiv_iff
    (m num : Nat)
    {den : Nat}
    (h : 0 < den)
    (hhalf : 2 * num + den ≠ 2 * (m * den)) :
    m ≤ roundDiv num den ↔ 2 * (m * den) < 2 * num + den := by
  have hlow := le_two_mul_roundDiv num h
  have hhigh := two_mul_roundDiv_le num h
  constructor
  · intro hm
    have hle := Nat.mul_le_mul_right den hm
    omega
  · intro hlt
    refine Nat.le_of_not_lt fun hm => ?_
    have hle := Nat.mul_le_mul_right den (Nat.succ_le_of_lt hm)
    rw [Nat.succ_mul] at hle
    omega

/-- A multiple of 200 is no odd multiple of half a hundredth of a unit. -/
theorem tie_ne
    (d : Nat)
    {k : Nat}
    (hlow : 1 ≤ k)
    (hhigh : k < 5) :
    200 * d ≠ 204799 * 1024 ^ k := by
  have hk : k = 1 ∨ k = 2 ∨ k = 3 ∨ k = 4 := by omega
  rcases hk with rfl | rfl | rfl | rfl <;> omega

/-- A double is shown in the largest unit that fits, as one of it at least and as the next unit at
most; as that one just when it is less than half a hundredth short of it. -/
theorem shown_bounds
    {d : Nat}
    (h : 1024 ≤ d) :
    let x := shown d
    x.IsNamed ∧ 100 ≤ x.hundredths ∧ 1024 ^ x.power ≤ d ∧
      (x.power < 5 → d < 1024 ^ (x.power + 1) ∧ x.hundredths ≤ 102400 ∧
        (x.hundredths = 102400 ↔ 204799 * 1024 ^ x.power < 200 * d)) := by
  intro x
  have hfirst : 1024 ^ 1 ≤ d := h
  obtain ⟨hone, hfive, hfits, hnext⟩ :
      1 ≤ x.power ∧ x.power ≤ 5 ∧ 1024 ^ x.power ≤ d ∧
        (x.power < 5 → d < 1024 ^ (x.power + 1)) := unitLoop_fits 4 hfirst
  have hpos : 0 < 1024 ^ x.power := Nat.pow_pos (by decide)
  have hreach (m : Nat) : 200 * d + 1024 ^ x.power ≠ 2 * (m * 1024 ^ x.power) →
      (m ≤ x.hundredths ↔ 2 * (m * 1024 ^ x.power) < 200 * d + 1024 ^ x.power) := by
    have hdouble : 200 * d = 2 * (d * 100) := by omega
    rw [hdouble]
    exact le_roundDiv_iff m (d * 100) hpos
  refine ⟨⟨hone, hfive⟩, (hreach 100 (by omega)).mpr (by omega), hfits, ?_⟩
  intro hlast
  have hbelow : d < 1024 * 1024 ^ x.power := by
    rw [Nat.mul_comm, ← Nat.pow_succ]
    exact hnext hlast
  have htie := tie_ne d hone hlast
  have hmost : ¬ 102401 ≤ x.hundredths := by
    rw [hreach 102401 (by omega)]
    omega
  have hnextUnit := hreach 102400 (by omega)
  exact ⟨hnext hlast, by omega, by omega⟩

/-- A size of 1024 bytes or more that has a text is shown in the largest unit that fits, as one of
it at least.  Below the last unit it is shown as 1024 of its unit at most, and as that just when it
is less than half a hundredth short of the next unit. -/
theorem size_in_unit
    {n : Int}
    (h : 1024 ≤ n)
    {s : String}
    (hs : text? n = some s) :
    ∃ x : Shown, x.IsNamed ∧ x.text = s ∧ (∀ y : Shown, y.IsNamed → y.text = s → y = x) ∧
      100 ≤ x.hundredths ∧ 1024 ^ x.power ≤ n ∧
      (x.power < 5 → n < 1024 ^ (x.power + 1) ∧ x.hundredths ≤ 102400 ∧
        (x.hundredths = 102400 ↔ 204799 * 1024 ^ x.power < 200 * n)) := by
  obtain ⟨m, rfl⟩ := Int.eq_ofNat_of_zero_le (by omega : 0 ≤ n)
  have hd : 1024 ≤ toDouble m := (le_toDouble_iff (by decide)).mpr (by omega)
  obtain ⟨hnamed, hone, hfits, hnext⟩ := shown_bounds hd
  have htext : (shown (toDouble m)).text = s := by
    unfold text? at hs
    rw [if_neg (by omega)] at hs
    dsimp only at hs
    split at hs
    · cases hs
    · rw [Int.toNat_natCast, scaledText_eq] at hs
      exact Option.some.inj hs
  have hsmall (k : Nat) (hk : k ≤ 5) : 1024 ^ k ≤ 2 ^ 53 :=
    Nat.le_trans (Nat.pow_le_pow_right (by decide) hk) (by decide)
  generalize shown (toDouble m) = x at hnamed hone hfits hnext htext
  have hpower : 1024 ^ x.power ≤ m := (le_toDouble_iff (hsmall _ hnamed.2)).mp hfits
  have hcast (k : Nat) : (1024 : Int) ^ k = (1024 ^ k : Nat) := (Int.natCast_pow 1024 k).symm
  simp only [hcast]
  refine ⟨x, hnamed, htext, ?_, hone, by omega, ?_⟩
  · intro y hy hytext
    exact Shown.text_inj hy hnamed (hytext.trans htext.symm)
  · intro hlast
    obtain ⟨hbelow, hmost, hshort⟩ := hnext hlast
    have hm : m < 1024 ^ (x.power + 1) := by
      refine Nat.lt_of_not_le fun hle => ?_
      exact Nat.not_lt.mpr ((le_toDouble_iff (hsmall _ hlast)).mpr hle) hbelow
    rw [toDouble_of_lt (Nat.lt_of_lt_of_le hm (hsmall _ hlast))] at hshort
    exact ⟨by omega, hmost, by omega⟩

/-- The last size below a unit is shown as that unit's size in the one before. -/
theorem size_in_unit_short :
    (1024 : Int) ≤ 1048575 ∧ text? 1048575 = some "1024.00 KiB" ∧
      ∃ x : Shown, x.IsNamed ∧ x.text = "1024.00 KiB" ∧ x.power = 1 ∧ x.hundredths = 102400 := by
  have htext : text? 1048575 = some "1024.00 KiB" := by decide +kernel
  obtain ⟨x, hnamed, hx, hunique, _⟩ := size_in_unit (by decide) htext
  obtain rfl : ⟨102400, 1⟩ = x := hunique ⟨102400, 1⟩ ⟨by decide, by decide⟩ (by decide +kernel)
  exact ⟨by decide, htext, _, hnamed, hx, rfl, rfl⟩

end Size
end Rebalance
