import Rebalance.Decimal.Binary

/-!
# The shortest digits of a double

The fewest decimal digits that still single out a double among all doubles.  A double owns the
interval of numbers that round to it.  For one digit, two digits, and so on, the two neighbours of
the double on that decimal grid are tried; the first grid with a neighbour inside the interval
gives the answer, and of two neighbours inside it the nearer one is taken.
-/

namespace Rebalance
namespace Decimal

/-- The decimal number `coefficient * 10 ^ exponent`. -/
structure Scientific where
  coefficient : Nat
  exponent : Int
deriving DecidableEq, Repr

/-- An exact quotient together with the bounds of the interval it stands for, all over one
denominator. -/
structure Window where
  low : Nat
  value : Nat
  high : Nat
  den : Nat
  closed : Bool
deriving DecidableEq, Repr

/-- The interval of a positive double.  Below a power of two the doubles lie twice as dense. -/
def window (mantissa : Nat) (exponent : Int) : Window :=
  let low := if mantissa = 2 ^ 52 ∧ exponent ≠ -1074 then 4 * mantissa - 1 else 4 * mantissa - 2
  let high := 4 * mantissa + 2
  let closed := mantissa % 2 = 0
  if 0 ≤ exponent then
    let s := 2 ^ exponent.toNat
    ⟨low * s, 4 * mantissa * s, high * s, 4, closed⟩
  else
    ⟨low, 4 * mantissa, high, 4 * 2 ^ (-exponent).toNat, closed⟩

/-- Whether `num / den` lies in a window. -/
def Window.holds (w : Window) (num den : Nat) : Bool :=
  let v := num * w.den
  if w.closed then decide (w.low * den ≤ v ∧ v ≤ w.high * den)
  else decide (w.low * den < v ∧ v < w.high * den)

/-- The decimal order of magnitude of `num / den`: the greatest `k` with `10 ^ k ≤ num / den`. -/
def decimalOrder (num den : Nat) : Int :=
  if den ≤ num then (width (num / den) : Int) - 1 else -(width ((den - 1) / num) : Int)

/-- The best of a window's two neighbours on the grid of multiples of `10 ^ k`. -/
def Window.onGrid? (w : Window) (k : Int) : Option Nat :=
  let up := 10 ^ k.toNat
  let down := 10 ^ (-k).toNat
  let floor := w.value * down / (w.den * up)
  let inside (n : Nat) := w.holds (n * up) down
  let gap := w.value * down - floor * (w.den * up)
  let rest := (floor + 1) * (w.den * up) - w.value * down
  match inside floor, inside (floor + 1) with
  | true, true =>
    if gap < rest then some floor
    else if rest < gap then some (floor + 1)
    else some (floor + floor % 2)
  | true, false => some floor
  | false, true => some (floor + 1)
  | false, false => none

/-- Tries the grids from `10 ^ k` downwards, `fuel` of them. -/
def Window.search (w : Window) : Nat → Int → Scientific
  | 0, k => ⟨w.value * 10 ^ (-k).toNat / (w.den * 10 ^ k.toNat), k⟩
  | fuel + 1, k =>
    match w.onGrid? k with
    | some n => ⟨n, k⟩
    | none => w.search fuel (k - 1)

/-- A decimal number with the zeros at its end moved into the exponent, at most `fuel` of them. -/
def Scientific.stripped : Nat → Scientific → Scientific
  | 0, s => s
  | fuel + 1, s =>
    if s.coefficient ≠ 0 ∧ s.coefficient % 10 = 0 then
      Scientific.stripped fuel ⟨s.coefficient / 10, s.exponent + 1⟩
    else s

/-- The shortest decimal number that rounds to `mantissa * 2 ^ exponent`. -/
def shortest (mantissa : Nat) (exponent : Int) : Scientific :=
  let w := window mantissa exponent
  Scientific.stripped 20 (w.search 20 (decimalOrder w.value w.den))

end Decimal
end Rebalance
