/-!
# Rounded quotients and digits

Quotients rounded to the nearest whole number.  An exact half goes to the even neighbour.

* `two_mul_roundDiv_le` and `le_two_mul_roundDiv`: the answer is within half a unit.
-/

-- A power of a natural number or of an integer is the core library's own in every module, also in
-- one whose imports bring the powers of other structures.
attribute [instance (2000), default_instance (20000)] instPowNat

namespace Rebalance
namespace Decimal

/-- The whole number nearest to `num / den`, the even one of two. -/
def roundDiv (num den : Nat) : Nat :=
  let q := num / den
  let r := num % den
  if 2 * r < den then q
  else if den < 2 * r then q + 1
  else q + q % 2

/-- Rounding loses at most half a unit. -/
theorem two_mul_roundDiv_le
    (num : Nat)
    {den : Nat}
    (h : 0 < den) :
    2 * (roundDiv num den * den) ≤ 2 * num + den := by
  have hd := Nat.div_add_mod num den
  have hr := Nat.mod_lt num h
  have hc : num / den * den = den * (num / den) := Nat.mul_comm _ _
  unfold roundDiv
  simp only
  split
  · omega
  · split
    · rw [Nat.add_mul]; omega
    · have he : num / den % 2 = 0 ∨ num / den % 2 = 1 := by omega
      rcases he with he | he <;> rw [he, Nat.add_mul] <;> omega

/-- Rounding gains at most half a unit. -/
theorem le_two_mul_roundDiv
    (num : Nat)
    {den : Nat}
    (h : 0 < den) :
    2 * num ≤ 2 * (roundDiv num den * den) + den := by
  have hd := Nat.div_add_mod num den
  have hr := Nat.mod_lt num h
  have hc : num / den * den = den * (num / den) := Nat.mul_comm _ _
  unfold roundDiv
  simp only
  split
  · omega
  · split
    · rw [Nat.add_mul]; omega
    · have he : num / den % 2 = 0 ∨ num / den % 2 = 1 := by omega
      rcases he with he | he <;> rw [he, Nat.add_mul] <;> omega

/-- The decimal digits of a number. -/
def digits (n : Nat) : List Char :=
  Nat.toDigits 10 n

/-- How many decimal digits a number has. -/
def width (n : Nat) : Nat :=
  (digits n).length

/-- The most digits of a whole number that is read from a text or has one. -/
def digitLimit : Nat :=
  4300

/-- Whether a whole number has few enough digits for a text. -/
def isShort (n : Int) : Bool :=
  decide (n.natAbs < 10 ^ digitLimit)

/-- What is said about a whole number that has too many digits for a text. -/
def tooLongMessage : String :=
  "Exceeds the limit (4300 digits) for integer string conversion; "
    ++ "use sys.set_int_max_str_digits() to increase the limit"

/-- The text of a whole number, whatever its digits. -/
def intText (n : Int) : String :=
  match n with
  | .ofNat m => String.ofList (digits m)
  | .negSucc m => String.ofList ('-' :: digits (m + 1))

/-- A number of hundredths with its two decimal places. -/
def hundredths (n : Nat) : List Char :=
  digits (n / 100) ++ '.' :: (digits (n % 100 / 10) ++ digits (n % 10))

/-- A number in decimal digits, filled up with zeros to a width. -/
def filled (size n : Nat) : List Char :=
  let ds := digits n
  List.replicate (size - ds.length) '0' ++ ds

end Decimal
end Rebalance
