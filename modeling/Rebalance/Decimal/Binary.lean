import Rebalance.Decimal.Rounded

/-!
# Doubles as exact numbers

A finite double is a whole mantissa times a power of two; `nearest` goes the other way and gives
the double nearest to a quotient, with ties to the even mantissa.
-/

namespace Rebalance
namespace Decimal

/-- What a double is: a signed multiple of a power of two, or one of the special values. -/
inductive Binary
  | nan
  | infinite (negative : Bool)
  | finite (negative : Bool) (mantissa : Nat) (exponent : Int)
deriving DecidableEq, Repr

/-- The meaning of the bits of a double. -/
def Binary.ofBits (bits : Nat) : Binary :=
  let negative := decide (2 ^ 63 ≤ bits)
  let field : Nat := bits / 2 ^ 52 % 2 ^ 11
  let fraction : Nat := bits % 2 ^ 52
  if field = 2047 then
    if fraction = 0 then .infinite negative else .nan
  else if field = 0 then .finite negative fraction (-1074)
  else .finite negative (2 ^ 52 + fraction) ((field : Int) - 1075)

/-- The meaning of a double. -/
def Binary.of (x : Float) : Binary :=
  .ofBits x.toBits.toNat

/-- The bits of positive infinity. -/
def infinityBits : Nat :=
  2047 * 2 ^ 52

/-- The binary order of magnitude of `num / den`: the greatest `e` with `2 ^ e ≤ num / den`. -/
def binaryOrder (num den : Nat) : Int :=
  let e : Int := (Nat.log2 num : Int) - (Nat.log2 den : Int)
  let reached :=
    if 0 ≤ e then decide (den * 2 ^ e.toNat ≤ num) else decide (den ≤ num * 2 ^ (-e).toNat)
  if reached then e else e - 1

/-- `num / den` in units of `2 ^ p`, rounded. -/
def roundScaled (num den : Nat) (p : Int) : Nat :=
  if 0 ≤ p then roundDiv num (den * 2 ^ p.toNat) else roundDiv (num * 2 ^ (-p).toNat) den

/-- The bits of the positive double nearest to `num / den`. -/
def nearestBits (num den : Nat) : Nat :=
  if num = 0 then 0
  else
    let p := max (binaryOrder num den - 52) (-1074)
    min infinityBits ((p + 1074).toNat * 2 ^ 52 + roundScaled num den p)

/-- The double with a sign and the bits of its size. -/
def ofSignBits (negative : Bool) (bits : Nat) : Float :=
  Float.ofBits (UInt64.ofNat (bits + if negative then 2 ^ 63 else 0))

/-- The double nearest to `± num / den`; one that is too large is infinite. -/
def nearest (negative : Bool) (num den : Nat) : Float :=
  ofSignBits negative (nearestBits num den)

/-- The double nearest to a whole number. -/
def ofInt (n : Int) : Float :=
  nearest (decide (n < 0)) n.natAbs 1

/-- Whether a whole number lies within the doubles. -/
def intFits (n : Int) : Bool :=
  decide (nearestBits n.natAbs 1 < infinityBits)

/-- `num / den` as a double, if it lies within the doubles. -/
def quotient? (num den : Nat) : Option Float :=
  if nearestBits num den < infinityBits then some (nearest false num den) else none

/-- A double that is a whole number. -/
def wholeValue? (x : Float) : Option Int :=
  match Binary.of x with
  | .finite negative m e =>
    let size? : Option Nat :=
      if 0 ≤ e then some (m * 2 ^ e.toNat)
      else if m % 2 ^ (-e).toNat = 0 then some (m / 2 ^ (-e).toNat)
      else none
    size?.map fun (n : Nat) => if negative then -(n : Int) else n
  | _ => none

end Decimal
end Rebalance
