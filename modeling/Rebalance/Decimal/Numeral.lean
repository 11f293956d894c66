import Rebalance.Decimal.Binary

/-!
# Reading decimal numerals

The digits of a numeral become one whole number and an exponent, and the double nearest to that
exact value is the answer.
-/

namespace Rebalance
namespace Decimal

/-- The value of a run of ASCII digits, after `acc`. -/
def valueOf (acc : Nat) (ds : List Char) : Nat :=
  ds.foldl (fun n c => n * 10 + (c.toNat - '0'.toNat)) acc

/-- The double nearest to `± coefficient * 10 ^ exponent`.  Beyond every double it is infinite,
and below every double it is zero. -/
def scaled (negative : Bool) (coefficient : Nat) (exponent : Int) : Float :=
  if coefficient = 0 then ofSignBits negative 0
  else
    let top := (width coefficient : Int) + exponent
    if 310 < top then ofSignBits negative infinityBits
    else if top < -330 then ofSignBits negative 0
    else if 0 ≤ exponent then nearest negative (coefficient * 10 ^ exponent.toNat) 1
    else nearest negative coefficient (10 ^ (-exponent).toNat)

/-- The parts of a decimal numeral: sign, digits before and after the point, exponent. -/
structure Numeral where
  negative : Bool
  whole : List Char
  fraction : List Char
  exponent : Int
deriving DecidableEq, Repr

/-- The double a numeral stands for. -/
def Numeral.value (n : Numeral) : Float :=
  scaled n.negative (valueOf 0 (n.whole ++ n.fraction)) (n.exponent - n.fraction.length)

/-- A sign at the head of a text: whether it is a minus, and the rest. -/
def takeSign : List Char → Bool × List Char
  | '-' :: rest => (true, rest)
  | '+' :: rest => (false, rest)
  | cs => (false, cs)

/-- Whether a character is an ASCII digit. -/
def isDigit (c : Char) : Bool :=
  decide ('0' ≤ c ∧ c ≤ '9')

/-- Reads `e5`, `E+05` and the like up to the end of the text. -/
def readExponent? : List Char → Option Int
  | [] => some 0
  | c :: rest =>
    if c = 'e' ∨ c = 'E' then
      let (negative, ds) := takeSign rest
      if ds.isEmpty ∨ !ds.all isDigit then none
      else
        let n : Int := valueOf 0 ds
        some (if negative then -n else n)
    else none

/-- Reads digits with an optional point and exponent; at least one digit must stand before the
exponent. -/
def readUnsigned? (negative : Bool) (cs : List Char) : Option Numeral :=
  let whole := cs.takeWhile isDigit
  let rest := cs.dropWhile isDigit
  let (fraction, rest) :=
    match rest with
    | '.' :: more => (more.takeWhile isDigit, more.dropWhile isDigit)
    | _ => ([], rest)
  if whole.isEmpty ∧ fraction.isEmpty then none
  else (readExponent? rest).map fun e => ⟨negative, whole, fraction, e⟩

/-- The words for the special values, in lower case. -/
def special? (negative : Bool) (word : String) : Option Float :=
  if word = "inf" ∨ word = "infinity" then some (ofSignBits negative infinityBits)
  else if word = "nan" then some (ofSignBits negative (infinityBits + 2 ^ 51))
  else none

/-- Reads a decimal number, an infinity or a NaN, with an optional sign.  Letter case does not
matter. -/
def readFloat? (cs : List Char) : Option Float :=
  let (negative, rest) := takeSign cs
  match special? negative (String.ofList (rest.map Char.toLower)) with
  | some x => some x
  | none => (readUnsigned? negative rest).map Numeral.value

end Decimal
end Rebalance
