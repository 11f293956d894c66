import Rebalance.Decimal.Numeral
import Rebalance.Text.Classes

/-!
# Numbers as people type them

Numbers as people type them, read generously: blanks around the number, a sign, single underscores
between digits, digits of any script.  `readInteger` takes the base; a number in base 2, 8 or 16
may begin with its mark.  `readNumber?` reads a double.
-/

namespace Rebalance
namespace Decimal

/-- Why a text is no whole number. -/
inductive IntegerFault
  | malformed
  | tooManyDigits (count : Nat)
deriving DecidableEq, Repr

/-- The value of a digit, up to `z` for 35. -/
def digitOf? (c : Char) : Option Nat :=
  match Text.digitValue? c with
  | some n => some n
  | none =>
    if 'a' ≤ c ∧ c ≤ 'z' then some (c.toNat - 'a'.toNat + 10)
    else if 'A' ≤ c ∧ c ≤ 'Z' then some (c.toNat - 'A'.toNat + 10)
    else none

/-- The letter of the mark of a base. -/
def markOf? (base : Nat) : Option Char :=
  if base = 2 then some 'b' else if base = 8 then some 'o' else if base = 16 then some 'x' else none

/-- A text without the mark of a base and the underscore after it. -/
def dropMark (base : Nat) (cs : List Char) : List Char :=
  match cs with
  | '0' :: c :: rest =>
    if markOf? base = some c.toLower then
      (match rest with
      | '_' :: more => more
      | _ => rest)
    else cs
  | _ => cs

/-- Whether a character is a digit of a base or an underscore. -/
def isDigitOf (base : Nat) (c : Char) : Bool :=
  c == '_' || (digitOf? c).any fun d => decide (d < base)

/-- Whether single underscores stand between digits only, where `afterDigit` says what is before. -/
def isMarked (afterDigit : Bool) : List Char → Bool
  | [] => afterDigit
  | c :: rest => if c = '_' then afterDigit && isMarked false rest else isMarked true rest

/-- The value of digits of a base. -/
def valueIn (base : Nat) (ds : List Nat) : Nat :=
  ds.foldl (fun n d => n * base + d) 0

/-- Reads a whole number.  Only the bases that are no powers of two limit the digits, and the limit
is looked at before what follows the digits. -/
def readInteger (base : Nat) (cs : List Char) : Except IntegerFault Int :=
  let (negative, body) := takeSign (Text.trim Text.isWhite cs)
  let body := dropMark base body
  let run := body.takeWhile (isDigitOf base)
  let ds := run.filterMap digitOf?
  if !isMarked false run then .error .malformed
  else if base = 10 ∧ digitLimit < ds.length then .error (.tooManyDigits ds.length)
  else if run.length < body.length then .error .malformed
  else
    let n : Int := valueIn base ds
    .ok (if negative then -n else n)

/-- Whether an underscore stands between two digits wherever there is one. -/
def marksFit (last : Char) : List Char → Bool
  | [] => last ≠ '_'
  | c :: rest =>
    (if c = '_' then isDigit last else last ≠ '_' || isDigit c) && marksFit c rest

/-- A character with a digit of any script turned into the ASCII one. -/
def asciiDigit (c : Char) : Char :=
  match Text.digitValue? c with
  | some n => Char.ofNat ('0'.toNat + n)
  | none => c

/-- Reads a double. -/
def readNumber? (cs : List Char) : Option Float :=
  let cs := (Text.trim Text.isWhite cs).map asciiDigit
  if marksFit ' ' cs then readFloat? (cs.filter (· ≠ '_')) else none

end Decimal
end Rebalance
