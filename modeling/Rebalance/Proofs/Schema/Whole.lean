import Rebalance.Proofs.Decimal.Digits
import Rebalance.Proofs.Schema.Reading

/-!
# How long the whole numbers are that are read

* `width_of_readWhole`: a whole number that is read has not too many digits, unless it was given as
  one that has.
-/

namespace Rebalance
namespace Schema

open Checked Decimal

theorem width_of_strict
    {cs : List Char}
    {n : Int}
    (h : Strict.read cs = .number n) :
    width n.natAbs ≤ digitLimit := by
  unfold Strict.read at h
  dsimp only at h
  generalize (if (cs.head? == some '-') = true then cs.drop 1 else cs) = body at h
  split at h
  · split at h
    · cases h
      decide
    · cases h
  · split at h
    · cases h
    · next hlimit =>
      split at h
      · cases h
      · cases h
        have hdigits : (body.takeWhile isDigit).all isDigit = true := List.all_takeWhile
        have hwidth := width_valueOf_le hdigits (by decide) (Nat.not_lt.mp hlimit)
        split
        · rw [Int.natAbs_neg]
          exact hwidth
        · exact hwidth

theorem width_of_wholeOfText
    {cs : List Char}
    {n : Int}
    (h : wholeOfText cs = .ok n) :
    width n.natAbs ≤ digitLimit := by
  unfold wholeOfText at h
  split at h
  · next hread =>
    cases h
    exact width_of_strict hread
  · cases h
  · split at h
    · next hread =>
      cases h
      obtain ⟨body, -, hbody⟩ := Option.map_eq_some_iff.mp hread
      exact width_of_strict hbody
    · cases h

theorem width_of_wholeOfFloat
    {x : Float}
    {n : Int}
    (h : wholeOfFloat x = .ok n) :
    width n.natAbs ≤ digitLimit := by
  unfold wholeOfFloat at h
  split at h
  · split at h
    · cases h
    · split at h
      · next hfits =>
        cases h
        have hbounds : -2 ^ 63 < n ∧ n < 2 ^ 63 := of_decide_eq_true hfits
        have hwidth : width n.natAbs ≤ 19 := (width_le_iff (by decide)).mpr (by omega)
        exact Nat.le_trans hwidth (by decide)
      · cases h
  · cases h

/-- A whole number that is read has not too many digits, unless it was given as one that has. -/
theorem width_of_readWhole
    {d : Data}
    (hgiven : ∀ n, d = .int n → width n.natAbs ≤ digitLimit)
    {n : Int}
    (h : readWhole d = .ok n) :
    width n.natAbs ≤ digitLimit := by
  unfold readWhole at h
  split at h
  · next cs _ =>
    obtain ⟨text, -, htext⟩ := andThen_ok h
    exact width_of_wholeOfText htext
  · split at h
    · cases h
      split <;> decide
    · cases h
      exact hgiven _ rfl
    · exact width_of_wholeOfFloat h
    · cases h

end Schema
end Rebalance
