import Rebalance.Decimal.Binary

/-!
# Equality of doubles

* `Binary.of_eq`: what the bits of a double mean is what the double is unpacked to.
* `Binary.IsReduced`: of the ways to write a number as a multiple of a power of two, a double has
  the one with the greatest mantissa below 53 binary digits, so that equal numbers have one mantissa
  and one exponent (`IsReduced.eq_of_units_eq`).
* `identityOf`: the whole number that a double is, or else its mantissa and exponent.  Doubles are
  equal just when these are (`equal_iff_identityOf`).
-/

namespace Rebalance
namespace Decimal

open Float.Model
open Float.Model.UnpackedFloat

/-! ## The parts of a double -/

theorem toNat_unpackExponent
    (b : BitVec 64) :
    (@unpackExponent Format.binary64 b).toNat = b.toNat / 2 ^ 52 % 2 ^ 11 := by
  show (b.toNat >>> 52) % 2 ^ 11 = _
  rw [Nat.shiftRight_eq_div_pow]

theorem toNat_unpackMantissa
    (b : BitVec 64) :
    (@unpackMantissa Format.binary64 b).toNat = b.toNat % 2 ^ 52 := by
  show (b.toNat >>> 0) % 2 ^ 52 = _
  rw [Nat.shiftRight_zero]

theorem toNat_unpackSign
    (b : BitVec 64) :
    (@unpackSign Format.binary64 b).toNat = b.toNat / 2 ^ 63 := by
  have hlt := b.isLt
  show (b.toNat >>> 63) % 2 ^ 1 = _
  rw [Nat.shiftRight_eq_div_pow]
  omega

/-- Whether a sign is that of a negative number. -/
def isMinus : Sign → Bool
  | .negative => true
  | .positive => false

theorem isMinus_inj
    {s t : Sign}
    (h : isMinus s = isMinus t) :
    s = t := by
  cases s <;> cases t
  · rfl
  · cases h
  · cases h
  · rfl

theorem isMinus_unpackSign
    (b : BitVec 64) :
    isMinus (Sign.ofBitVec (@unpackSign Format.binary64 b)) =
      decide (2 ^ 63 ≤ b.toNat) := by
  have hlt := b.isLt
  have hsign := toNat_unpackSign b
  unfold Sign.ofBitVec
  split
  · next hzero =>
    rw [hzero] at hsign
    have hzero' : (0#1).toNat = 0 := rfl
    rw [isMinus, eq_comm, decide_eq_false_iff_not]
    omega
  · next hone =>
    have hne : b.toNat / 2 ^ 63 ≠ 0 := fun he => hone (BitVec.eq_of_toNat_eq (hsign.trans he))
    rw [isMinus, eq_comm, decide_eq_true_iff]
    omega

namespace Binary

/-- An unpacked double as a signed multiple of a power of two. -/
def ofUnpacked : UnpackedFloat → Binary
  | .notANumber => .nan
  | .infinity s => .infinite (isMinus s)
  | .zero s => .finite (isMinus s) 0 (-1074)
  | .finite s m e _ => .finite (isMinus s) m e

/-- What the bits of a double mean is what the double is unpacked to. -/
theorem of_eq
    (x : Float) :
    Binary.of x = .ofUnpacked x.toModel.unpack := by
  show Binary.ofBits x.toModel.toBits.toBitVec.toNat =
    .ofUnpacked (UnpackedFloat.unpack Format.binary64 x.toModel.toBits.toBitVec)
  generalize x.toModel.toBits.toBitVec = b
  have hlast : @unpackExponent Format.binary64 b = -1#11 ↔
      (@unpackExponent Format.binary64 b).toNat = 2047 := BitVec.toNat_inj.symm
  have hfirst : @unpackExponent Format.binary64 b = 0#11 ↔
      (@unpackExponent Format.binary64 b).toNat = 0 := BitVec.toNat_inj.symm
  have hempty : @unpackMantissa Format.binary64 b = 0#52 ↔
      (@unpackMantissa Format.binary64 b).toNat = 0 := BitVec.toNat_inj.symm
  have hlead : (1#1 ++ @unpackMantissa Format.binary64 b).toNat =
      2 ^ 52 + (@unpackMantissa Format.binary64 b).toNat := by
    rw [BitVec.toNat_append, ← Nat.shiftLeft_add_eq_or_of_lt (BitVec.isLt _)]
    rfl
  unfold Binary.ofBits UnpackedFloat.unpack
  dsimp only
  rw [← toNat_unpackExponent, ← toNat_unpackMantissa, ← isMinus_unpackSign]
  by_cases he : (@unpackExponent Format.binary64 b).toNat = 2047
  · rw [if_pos he, if_pos (hlast.mpr he)]
    by_cases hm : (@unpackMantissa Format.binary64 b).toNat = 0
    · rw [if_pos hm, if_pos (hempty.mpr hm)]
      rfl
    · rw [if_neg hm, if_neg fun h => hm (hempty.mp h)]
      rfl
  · rw [if_neg he, if_neg fun h => he (hlast.mp h)]
    by_cases hz : (@unpackExponent Format.binary64 b).toNat = 0
    · rw [if_pos hz, if_pos (hfirst.mpr hz)]
      by_cases hm : @unpackMantissa Format.binary64 b = 0#52
      · rw [dif_pos hm, hempty.mp hm]
        rfl
      · rw [dif_neg hm, hz]
        rfl
    · rw [if_neg hz, if_neg fun h => hz (hfirst.mp h)]
      exact congrArg (Binary.finite _ · _) hlead.symm

/-! ## Comparing unpacked doubles -/

/-- Doubles that compare as equal have the same form, or both are zero. -/
theorem ofUnpacked_of_compare
    {a b : UnpackedFloat}
    (h : a.compare b = some .eq) :
    ofUnpacked a = ofUnpacked b ∨ ∃ s t, a = .zero s ∧ b = .zero t := by
  -- A comparison of two finite doubles of one sign is one of their exponents and mantissas.
  have hfinite {m n : Nat} {e k : Int} (h : (compare e k).then (compare m n) = .eq) :
      m = n ∧ e = k := by
    obtain ⟨he, hm⟩ := Ordering.then_eq_eq.mp h
    exact ⟨Nat.compare_eq_eq.mp hm, Int.compare_eq_eq.mp he⟩
  cases a with
  | notANumber => cases h
  | infinity s =>
    cases b with
    | infinity t => cases s <;> cases t <;> first | exact .inl rfl | cases h
    | _ => cases s <;> cases h
  | zero s =>
    cases b with
    | zero t => exact .inr ⟨s, t, rfl, rfl⟩
    | notANumber => cases h
    | infinity t => cases t <;> cases h
    | finite t _ _ _ => cases t <;> cases h
  | finite s m e _ =>
    cases b with
    | notANumber => cases s <;> cases h
    | infinity t => cases s <;> cases t <;> cases h
    | zero t => cases s <;> cases h
    | finite t n k _ =>
      cases s <;> cases t
      · obtain ⟨rfl, rfl⟩ := hfinite (Ordering.swap_eq_eq.mp (Option.some.inj h))
        exact .inl rfl
      · cases h
      · cases h
      · obtain ⟨rfl, rfl⟩ := hfinite (Option.some.inj h)
        exact .inl rfl

/-- Doubles of one form compare as equal, unless they are no numbers. -/
theorem compare_of_ofUnpacked
    {a b : UnpackedFloat}
    (h : ofUnpacked a = ofUnpacked b) :
    a.compare b = some .eq ∨ a.isNaN = true ∧ b.isNaN = true := by
  cases a with
  | notANumber =>
    cases b with
    | notANumber => exact .inr ⟨rfl, rfl⟩
    | _ => cases h
  | infinity s =>
    cases b with
    | infinity t =>
      obtain rfl := isMinus_inj (Binary.infinite.inj h)
      cases s <;> exact .inl rfl
    | _ => cases h
  | zero s =>
    cases b with
    | zero t => exact .inl rfl
    | finite t n k hn =>
      obtain ⟨_, rfl, _⟩ := Binary.finite.inj h
      exact absurd hn (Nat.lt_irrefl 0)
    | _ => cases h
  | finite s m e hm =>
    cases b with
    | zero t =>
      obtain ⟨_, rfl, _⟩ := Binary.finite.inj h
      exact absurd hm (Nat.lt_irrefl 0)
    | finite t n k hn =>
      obtain ⟨hs, rfl, rfl⟩ := Binary.finite.inj h
      obtain rfl := isMinus_inj hs
      have heq : (compare e e).then (compare m m) = .eq := by simp
      cases s
      · exact .inl (congrArg (some ∘ Ordering.swap) heq)
      · exact .inl (congrArg some heq)
    | _ => cases h

theorem ofUnpacked_of_isNaN
    {a : UnpackedFloat}
    (h : a.isNaN = true) :
    ofUnpacked a = .nan := by
  cases a with
  | notANumber => rfl
  | _ => cases h

/-- A double without a mantissa is zero. -/
theorem exists_zero_of_ofUnpacked
    {a : UnpackedFloat}
    {negative : Bool}
    {e : Int}
    (h : ofUnpacked a = .finite negative 0 e) :
    ∃ s, a = .zero s := by
  cases a with
  | zero s => exact ⟨s, rfl⟩
  | finite s m k hm =>
    obtain ⟨_, rfl, _⟩ := Binary.finite.inj h
    exact absurd hm (Nat.lt_irrefl 0)
  | _ => cases h

/-! ## One mantissa for each number -/

/-- Whether a mantissa and an exponent are those of a double: the mantissa has at most 53 binary
digits, and it has just so many unless the exponent is the least one. -/
structure IsReduced (m : Nat) (e : Int) : Prop where
  least : -1074 ≤ e
  high : m < 2 ^ 53
  low : e = -1074 ∨ 2 ^ 52 ≤ m

theorem isReduced_of
    {x : Float}
    {negative : Bool}
    {m : Nat}
    {e : Int}
    (h : Binary.of x = .finite negative m e) :
    IsReduced m e := by
  unfold Binary.of Binary.ofBits at h
  dsimp only at h
  split at h
  · split at h <;> cases h
  · split at h
    · obtain ⟨_, rfl, rfl⟩ := Binary.finite.inj h
      exact ⟨Int.le_refl _, by omega, .inl rfl⟩
    · obtain ⟨_, rfl, rfl⟩ := Binary.finite.inj h
      exact ⟨by omega, by omega, .inr (by omega)⟩

/-- How many of the least positive doubles make up a multiple of a power of two. -/
def units (m : Nat) (e : Int) : Nat :=
  m * 2 ^ (e + 1074).toNat

/-- The greater exponent makes the greater number. -/
theorem IsReduced.units_lt
    {m n : Nat}
    {e k : Int}
    (h : IsReduced m e)
    (g : IsReduced n k)
    (hlt : e < k) :
    units m e < units n k := by
  have hn : 2 ^ 52 ≤ n := g.low.resolve_left (by have := h.least; omega)
  have hle : (e + 1074).toNat + 1 ≤ (k + 1074).toNat := by
    have := h.least
    omega
  calc m * 2 ^ (e + 1074).toNat
      < 2 ^ 53 * 2 ^ (e + 1074).toNat := Nat.mul_lt_mul_of_pos_right h.high (Nat.two_pow_pos _)
    _ = 2 ^ 52 * 2 ^ ((e + 1074).toNat + 1) := by
        rw [Nat.pow_succ 2 52, Nat.pow_succ 2 (e + 1074).toNat, Nat.mul_assoc, Nat.mul_comm 2]
    _ ≤ n * 2 ^ (k + 1074).toNat := Nat.mul_le_mul hn (Nat.pow_le_pow_right (by decide) hle)

/-- Equal numbers have one mantissa and one exponent. -/
theorem IsReduced.eq_of_units_eq
    {m n : Nat}
    {e k : Int}
    (h : IsReduced m e)
    (g : IsReduced n k)
    (heq : units m e = units n k) :
    m = n ∧ e = k := by
  have hexponent : e = k := by
    rcases Int.lt_trichotomy e k with hlt | he | hlt
    · exact absurd heq (Nat.ne_of_lt (h.units_lt g hlt))
    · exact he
    · exact absurd heq (Nat.ne_of_gt (g.units_lt h hlt))
  subst hexponent
  exact ⟨Nat.eq_of_mul_eq_mul_right (Nat.two_pow_pos _) heq, rfl⟩

end Binary

/-! ## Whole numbers -/

/-- The mantissa and the exponent of a double that is a whole number. -/
theorem exists_of_wholeValue?
    {x : Float}
    {n : Int}
    (h : wholeValue? x = some n) :
    ∃ negative m e, Binary.of x = .finite negative m e ∧
      Binary.units m e = Binary.units n.natAbs 0 ∧
      n = if negative then -(n.natAbs : Int) else n.natAbs := by
  unfold wholeValue? at h
  split at h
  · next negative m e hx =>
    obtain ⟨k, hk, rfl⟩ := Option.map_eq_some_iff.mp h
    have habs : (if negative then -(k : Int) else k).natAbs = k := by
      cases negative <;> simp
    refine ⟨negative, m, e, hx, ?_, by rw [habs]⟩
    rw [habs, Binary.units, Binary.units]
    have hleast := (Binary.isReduced_of hx).least
    split at hk
    · next he =>
      cases hk
      have hsum : (e + 1074).toNat = e.toNat + (0 + 1074 : Int).toNat := by omega
      rw [hsum, Nat.pow_add, Nat.mul_assoc]
    · next he =>
      split at hk
      · next hmod =>
        cases hk
        have hm : m / 2 ^ (-e).toNat * 2 ^ (-e).toNat = m :=
          Nat.div_mul_cancel (Nat.dvd_of_mod_eq_zero hmod)
        have hsum : (0 + 1074 : Int).toNat = (-e).toNat + (e + 1074).toNat := by omega
        rw [hsum, Nat.pow_add, ← Nat.mul_assoc, hm]
      · cases hk
  · cases h

/-- Doubles of one form are the same whole number, if one. -/
theorem wholeValue?_congr
    {x y : Float}
    (h : Binary.of x = Binary.of y) :
    wholeValue? x = wholeValue? y := by
  unfold wholeValue?
  rw [h]

theorem wholeValue?_of_zero
    {x : Float}
    {s : Sign}
    (h : x.toModel.unpack = .zero s) :
    wholeValue? x = some 0 := by
  have hx : Binary.of x = .finite (isMinus s) 0 (-1074) := by
    rw [Binary.of_eq, h]
    rfl
  unfold wholeValue?
  rw [hx]
  cases s <;> decide +kernel

/-- The whole number that a double is, or else its form. -/
def identityOf (x : Float) : Int ⊕ Binary :=
  match wholeValue? x with
  | some n => .inl n
  | none => .inr (Binary.of x)

theorem identityOf_eq_inl_iff
    {x : Float}
    {n : Int} :
    identityOf x = .inl n ↔ wholeValue? x = some n := by
  unfold identityOf
  split
  · next k hk => rw [hk, Sum.inl.injEq, Option.some.injEq]
  · next hnone => exact iff_of_false (fun h => nomatch h) (fun h => nomatch hnone.symm.trans h)

theorem identityOf_congr
    {x y : Float}
    (h : Binary.of x = Binary.of y) :
    identityOf x = identityOf y := by
  unfold identityOf
  rw [wholeValue?_congr h, h]

/-- Doubles that are the same whole number compare as equal. -/
theorem compare_of_wholeValue?
    {x y : Float}
    {n : Int}
    (hxn : wholeValue? x = some n)
    (hyn : wholeValue? y = some n) :
    x.toModel.unpack.compare y.toModel.unpack = some .eq := by
  obtain ⟨s, m, e, hx, hm, hs⟩ := exists_of_wholeValue? hxn
  obtain ⟨t, m', e', hy, hm', ht⟩ := exists_of_wholeValue? hyn
  obtain ⟨rfl, rfl⟩ :=
    (Binary.isReduced_of hx).eq_of_units_eq (Binary.isReduced_of hy) (hm.trans hm'.symm)
  rw [Binary.of_eq] at hx hy
  rcases Nat.eq_zero_or_pos m with rfl | hpos
  · obtain ⟨u, hu⟩ := Binary.exists_zero_of_ofUnpacked hx
    obtain ⟨v, hv⟩ := Binary.exists_zero_of_ofUnpacked hy
    rw [hu, hv]
    rfl
  · -- Zero is the only number whose sign can be either.
    have hne : n.natAbs ≠ 0 := by
      intro hzero
      have hunits : 0 < Binary.units m e := Nat.mul_pos hpos (Nat.two_pow_pos _)
      rw [hm, hzero, Binary.units, Nat.zero_mul] at hunits
      exact Nat.lt_irrefl 0 hunits
    have hsign : s = t := by
      cases s <;> cases t
      · rfl
      · rw [if_neg Bool.false_ne_true] at hs
        rw [if_pos rfl] at ht
        omega
      · rw [if_pos rfl] at hs
        rw [if_neg Bool.false_ne_true] at ht
        omega
      · rfl
    subst hsign
    rcases Binary.compare_of_ofUnpacked (hx.trans hy.symm) with heq | ⟨hnan, _⟩
    · exact heq
    · rw [Binary.ofUnpacked_of_isNaN hnan] at hx
      cases hx

/-- Doubles are equal, or no numbers both, just when they are the same whole number or have the same
form. -/
theorem equal_iff_identityOf
    (x y : Float) :
    (x == y || (x.isNaN && y.isNaN)) = true ↔ identityOf x = identityOf y := by
  have hx := Binary.of_eq x
  have hy := Binary.of_eq y
  have hbeq : (x == y) = true ↔ x.toModel.unpack.compare y.toModel.unpack = some .eq := by
    show (x.toModel.unpack.compare y.toModel.unpack == some .eq) = true ↔ _
    exact beq_iff_eq
  rw [Bool.or_eq_true_iff, Bool.and_eq_true_iff, hbeq]
  constructor
  · rintro (heq | ⟨hxnan, hynan⟩)
    · rcases Binary.ofUnpacked_of_compare heq with hform | ⟨s, t, hs, ht⟩
      · exact identityOf_congr (hx.trans (hform.trans hy.symm))
      · rw [identityOf, identityOf, wholeValue?_of_zero hs, wholeValue?_of_zero ht]
    · exact identityOf_congr
        (hx.trans ((Binary.ofUnpacked_of_isNaN hxnan).trans
          ((Binary.ofUnpacked_of_isNaN hynan).symm.trans hy.symm)))
  · intro h
    unfold identityOf at h
    split at h <;> split at h
    · next _ n hxn _ k hyk =>
      obtain rfl := Sum.inl.inj h
      exact .inl (compare_of_wholeValue? hxn hyk)
    · cases h
    · cases h
    · exact Binary.compare_of_ofUnpacked (hx.symm.trans ((Sum.inr.inj h).trans hy))

end Decimal
end Rebalance
