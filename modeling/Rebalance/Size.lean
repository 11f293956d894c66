import Rebalance.Decimal.Places

/-!
# Sizes in bytes

Sizes in bytes for human readers.  A size below 1024 is a count of bytes.  Any other is first
rounded to a double, then shown with two decimals in the largest of the units KiB to PiB that
leaves at least one of it; from PiB on the number just grows.

* `text?`: the text of a whole number of bytes.
* `textOfDouble`: the text of a size that is a double already.
-/

namespace Rebalance
namespace Size

/-- The names of the units above the byte. -/
def unitNames : List String :=
  ["KiB", "MiB", "GiB", "TiB", "PiB"]

/-- A number rounded to 53 binary digits. -/
def toDouble (n : Nat) : Nat :=
  let p := Nat.log2 n - 52
  Decimal.roundDiv n (2 ^ p) * 2 ^ p

/-- The unit for a size: the first whose next one would leave less than one. -/
def unitLoop (d : Nat) : (left k : Nat) → Nat
  | 0, k => k
  | left + 1, k => if d < 1024 ^ (k + 1) then k else unitLoop d left (k + 1)

/-- The power of 1024 that a size is counted in, from 1 to 5. -/
def unitOf (d : Nat) : Nat :=
  unitLoop d 4 1

/-- The text of a size of `num / den` bytes that is 1024 or more. -/
def scaledText (num den : Nat) : String :=
  let k := unitOf (num / den)
  String.ofList (Decimal.hundredths (Decimal.roundDiv (num * 100) (den * 1024 ^ k)))
    ++ " " ++ unitNames.getD (k - 1) ""

/-- The text of a number of bytes; `none` when the number lies beyond the doubles. -/
def text? (n : Int) : Option String :=
  if n < 1024 then some (Decimal.intText n ++ " B")
  else
    let d := toDouble n.toNat
    if 2 ^ 1024 ≤ d then none else some (scaledText d 1)

/-- The text of a double as a size.  What is no number or infinite is counted in the last unit. -/
def textOfDouble (x : Float) : String :=
  let bytes := Decimal.floatText x ++ " B"
  let most := Decimal.floatText x ++ " PiB"
  match Decimal.Binary.of x with
  | .nan => most
  | .infinite negative => if negative then bytes else most
  | .finite negative m e =>
    let (num, den) := Decimal.quotientOf m e
    if negative ∨ num < 1024 * den then bytes else scaledText num den

end Size
end Rebalance
