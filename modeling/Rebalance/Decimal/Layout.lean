import Rebalance.Decimal.Shortest

/-!
# The layout of a double

How the digits of a double are laid out as text.  A number is written positionally while its
decimal point stays near its digits, and with an exponent otherwise.  The two layouts in use
differ in where that changes and in how an exponent is written.
-/

namespace Rebalance
namespace Decimal

/-- The choices of a layout.  `point` is the place of the decimal point counted from the first
digit: positional text is used when `lowest < point ≤ highest`. -/
structure Layout where
  lowest : Int
  highest : Int
  exponentWidth : Nat

/-- The layout of numbers in messages and reports. -/
def Layout.plain : Layout :=
  ⟨-4, 16, 2⟩

/-- The layout of numbers in stored documents. -/
def Layout.stored : Layout :=
  ⟨-5, 16, 1⟩

/-- An exponent with its sign. -/
def Layout.exponentText (l : Layout) (e : Int) : List Char :=
  let sign := if e < 0 then '-' else '+'
  sign :: filled l.exponentWidth e.natAbs

/-- The text of a positive decimal number. -/
def Layout.positive (l : Layout) (s : Scientific) : List Char :=
  let ds := digits s.coefficient
  let point := (ds.length : Int) + s.exponent
  if l.lowest < point ∧ point ≤ l.highest then
    if point ≤ 0 then
      '0' :: '.' :: (List.replicate (-point).toNat '0' ++ ds)
    else if 0 ≤ s.exponent then
      ds ++ (List.replicate s.exponent.toNat '0' ++ ['.', '0'])
    else
      ds.take point.toNat ++ '.' :: ds.drop point.toNat
  else
    let fraction := ds.drop 1
    ds.take 1 ++ (if fraction.isEmpty then [] else '.' :: fraction)
      ++ 'e' :: l.exponentText (point - 1)

/-- The text of a finite double given by its sign, mantissa and exponent. -/
def Layout.finite (l : Layout) (negative : Bool) (m : Nat) (e : Int) : List Char :=
  let body := if m = 0 then ['0', '.', '0'] else l.positive (shortest m e)
  if negative then '-' :: body else body

/-- The text of a double in messages. -/
def floatText (x : Float) : String :=
  match Binary.of x with
  | .nan => "nan"
  | .infinite negative => if negative then "-inf" else "inf"
  | .finite negative m e => String.ofList (Layout.plain.finite negative m e)

/-- The text of a double in a stored document, which has no word for the special values. -/
def storedText? (x : Float) : Option (List Char) :=
  match Binary.of x with
  | .finite negative m e => some (Layout.stored.finite negative m e)
  | _ => none

end Decimal
end Rebalance
