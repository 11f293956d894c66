import Rebalance.Decimal.Layout

/-!
# Doubles with a chosen number of digits

Doubles with a chosen number of digits: `fixed` counts them after the point, `scientific` counts
them after the first digit, and `general` counts all of them and picks the shorter of the two
layouts.  The exact value is rounded once, a half to the even neighbour.
-/

namespace Rebalance
namespace Decimal

/-- A mantissa and a power of two as a quotient. -/
def quotientOf (m : Nat) (e : Int) : Nat × Nat :=
  if 0 ≤ e then (m * 2 ^ e.toNat, 1) else (m, 2 ^ (-e).toNat)

/-- `num / den` with `places` digits after the point. -/
def fixed (places num den : Nat) : List Char :=
  let n := roundDiv (num * 10 ^ places) den
  digits (n / 10 ^ places)
    ++ if places = 0 then [] else '.' :: filled places (n % 10 ^ places)

/-- `num / den` in units of `10 ^ p`, rounded. -/
def roundDecimal (num den : Nat) (p : Int) : Nat :=
  if 0 ≤ p then roundDiv num (den * 10 ^ p.toNat) else roundDiv (num * 10 ^ (-p).toNat) den

/-- The first `count` digits of a quotient, rounded, and its order of magnitude. -/
def leading (count num den : Nat) : Nat × Int :=
  if num = 0 then (0, 0)
  else
    let order := decimalOrder num den
    let n := roundDecimal num den (order - (count : Int) + 1)
    if n = 10 ^ count then (10 ^ (count - 1), order + 1) else (n, order)

/-- Digits with a point after the first one. -/
def pointed (ds : List Char) : List Char :=
  match ds with
  | d :: e :: rest => d :: '.' :: e :: rest
  | ds => ds

/-- An exponent with its sign and at least two digits. -/
def exponent (e : Int) : List Char :=
  'e' :: Layout.plain.exponentText e

/-- `num / den` with `places` digits after the first and an exponent. -/
def scientific (places num den : Nat) : List Char :=
  let (n, order) := leading (places + 1) num den
  pointed (filled (places + 1) n) ++ exponent order

/-- Digits without the zeros at their end, when they have a point. -/
def trimZeros (cs : List Char) : List Char :=
  if cs.contains '.' then
    let rest := cs.reverse.dropWhile (· = '0')
    (if rest.head? = some '.' then rest.drop 1 else rest).reverse
  else cs

/-- A number with a point after its first digits, whether digits follow or not. -/
def withPoint (cs : List Char) : List Char :=
  let whole := cs.takeWhile Char.isDigit
  match cs.drop whole.length with
  | '.' :: _ => cs
  | rest => whole ++ '.' :: rest

/-- `num / den` with `count` digits in all.  Zeros at the end are dropped unless `keep` is set. -/
def general (keep : Bool) (count num den : Nat) : List Char :=
  let count := max count 1
  let trim := if keep then id else trimZeros
  let (n, order) := leading count num den
  if -4 ≤ order ∧ order < count then trim (fixed ((count : Int) - 1 - order).toNat num den)
  else trim (pointed (filled count n)) ++ exponent order

end Decimal
end Rebalance
