import Rebalance.Data
import Rebalance.Decimal.Numeral
import Rebalance.Net.Address
import Rebalance.Schema.Issue
import Rebalance.Text.Utf8

/-!
# Reading single values

Reading single values leniently.  A number may be given as a text, a whole number as a double
without a fraction, a truth value as a word or as 0 or 1.  Bytes stand for the text they encode.
-/

namespace Rebalance
namespace Schema

/-- Reads a text. -/
def readText : Data → Checked String
  | .text s => .ok s
  | .bytes bs =>
    match Text.decode? bs with
    | .ok cs => .ok (String.ofList (Text.heldChars cs))
    | .error _ => .flaw .brokenText
  | _ => .flaw .notText

/-- Reads a text that is not empty and has no surrogates. -/
def readName (d : Data) : Checked String :=
  (readText d).andThen fun s =>
    if Text.hasSurrogate s then .flaw .brokenText
    else if s.isEmpty then .flaw .emptyText
    else .ok s

/-- The text that a text or bytes stand for, where `unreadable` is the flaw of other bytes.  The
answer is `none` for values of another kind. -/
def spelling? (unreadable : Flaw) : Data → Option (Checked (List Char))
  | .text s => some (if Text.hasSurrogate s then .flaw .brokenText else .ok s.toList)
  | .bytes bs =>
    match Text.decode? bs with
    | .ok cs => some (.ok cs)
    | .error _ => some (.flaw unreadable)
  | _ => none

/-- What a text is as a numeral in its strict form: an optional minus, and at most
`Decimal.digitLimit` digits without a leading zero. -/
inductive Strict
  | number (n : Int)
  | tooLong
  | other
deriving DecidableEq, Repr

/-- Reads a numeral in its strict form.  The length is looked at before the rest of the text. -/
def Strict.read (cs : List Char) : Strict :=
  let negative := cs.head? == some '-'
  let body := if negative then cs.drop 1 else cs
  let ds := body.takeWhile Decimal.isDigit
  if ds.head? = some '0' then (if body = ['0'] then .number 0 else .other)
  else if Decimal.digitLimit < ds.length then .tooLong
  else if ds.isEmpty ∨ ds.length < body.length then .other
  else
    let n : Int := Decimal.valueOf 0 ds
    .number (if negative then -n else n)

/-- A text after the zeros it begins with, and the underscores among them.  `last` is the character
before the rest: it stays where nothing else does, and in front of a point. -/
def dropZeros? (last : Char) : List Char → Option (List Char)
  | [] => some [last]
  | c :: rest =>
    if c = '0' ∨ c = '_' then dropZeros? c rest
    else if ('1' ≤ c ∧ c ≤ '9') ∨ c = '-' then some (c :: rest)
    else if c = '.' then some (last :: c :: rest)
    else none

/-- A numeral without leading zeros; it begins with a digit. -/
def unsignedWithoutZeros? : List Char → Option (List Char)
  | [] => none
  | c :: rest =>
    if c = '0' then dropZeros? c rest
    else if '1' ≤ c ∧ c ≤ '9' then some (c :: rest)
    else none

/-- A numeral without leading zeros; it begins with a digit, or with a minus and a digit. -/
def withoutZeros? : List Char → Option (List Char)
  | '-' :: rest => (unsignedWithoutZeros? rest).map ('-' :: ·)
  | cs => unsignedWithoutZeros? cs

/-- A text without a point followed by nothing but zeros. -/
def withoutFraction (cs : List Char) : List Char :=
  match cs.dropWhile (· ≠ '.') with
  | _ :: zeros =>
    if !zeros.isEmpty ∧ zeros.all (· == '0') then cs.takeWhile (· ≠ '.') else cs
  | [] => cs

/-- Whether two underscores stand side by side. -/
def hasDoubleMark : List Char → Bool
  | a :: b :: rest => (a == '_' && b == '_') || hasDoubleMark (b :: rest)
  | _ => false

/-- A text without its underscores, each of which has to stand between other characters. -/
def withoutMarks? (cs : List Char) : Option (List Char) :=
  if cs.head? = some '_' ∨ cs.getLast? = some '_' ∨ hasDoubleMark cs ∨ !cs.contains '_' then none
  else some (cs.filter (· ≠ '_'))

/-- A text without a plus at its head, which no minus may follow. -/
def withoutPlus? : List Char → Option (List Char)
  | '+' :: '-' :: _ => none
  | '+' :: rest => some rest
  | cs => some cs

/-- The strict form of a numeral that is written generously: with blanks around it, a plus, leading
zeros, a fraction of zeros, or underscores. -/
def strictForm? (cs : List Char) : Option (List Char) := do
  let body ← withoutZeros? (← withoutPlus? (Text.trim Text.isWhite cs))
  let body := withoutFraction body
  return (withoutMarks? body).getD body

/-- Reads a whole number from a text.  Only a text that is in strict form from the start can be
too long; one that is brought into it is unreadable then. -/
def wholeOfText (cs : List Char) : Checked Int :=
  match Strict.read cs with
  | .number n => .ok n
  | .tooLong => .flaw .wholeTooLong
  | .other =>
    match (strictForm? cs).map Strict.read with
    | some (.number n) => .ok n
    | _ => .flaw .unreadableWhole

/-- Whether a whole number lies strictly between the bounds of 64 bits. -/
def fitsInt64 (n : Int) : Bool :=
  decide (-2 ^ 63 < n ∧ n < 2 ^ 63)

/-- Reads a whole number from a double. -/
def wholeOfFloat (x : Float) : Checked Int :=
  match Decimal.Binary.of x with
  | .finite _ _ _ =>
    match Decimal.wholeValue? x with
    | none => .flaw .hasFraction
    | some n => if fitsInt64 n then .ok n else .flaw .wholeTooLong
  | _ => .flaw .notFinite

/-- Reads a whole number. -/
def readWhole (d : Data) : Checked Int :=
  match spelling? .unreadableWhole d with
  | some cs => cs.andThen wholeOfText
  | none =>
    match d with
    | .bool b => .ok (if b then 1 else 0)
    | .int n => .ok n
    | .float x => wholeOfFloat x
    | _ => .flaw .notWhole

/-- A whole number that is no less than a bound. -/
def atLeast (bound : Nat) (n : Int) : Checked Nat :=
  if (bound : Int) ≤ n then .ok n.toNat else .flaw (.notAtLeast bound)

/-- Reads a whole number that is not negative. -/
def readCount (d : Data) : Checked Nat :=
  (readWhole d).andThen (atLeast 0)

/-- Reads the number of a port. -/
def readPort (d : Data) : Checked Nat :=
  (readWhole d).andThen fun n =>
    if n ≤ 0 then .flaw (.notAbove 0)
    else if 65536 ≤ n then .flaw (.notBelow 65536)
    else .ok n.toNat

/-- Reads a double from a text. -/
def numberOfText (cs : List Char) : Checked Float :=
  match Decimal.readFloat? (Text.trim Text.isWhite cs) with
  | some x => .ok x
  | none =>
    match (withoutMarks? cs).bind Decimal.readFloat? with
    | some x => .ok x
    | none => .flaw .unreadableNumber

/-- Reads a double. -/
def readNumber (d : Data) : Checked Float :=
  match spelling? .unreadableNumber d with
  | some cs => cs.andThen numberOfText
  | none =>
    match d with
    | .bool b => .ok (Decimal.ofInt (if b then 1 else 0))
    | .int n => if Decimal.intFits n then .ok (Decimal.ofInt n) else .flaw .notNumber
    | .float x => .ok x
    | _ => .flaw .notNumber

/-- Reads a double that is zero or more. -/
def readAmount (d : Data) : Checked Float :=
  (readNumber d).andThen fun x => if 0.0 ≤ x then .ok x else .flaw (.notAtLeast 0)

/-- Reads a truth value from a word, in any case. -/
def boolOfText (cs : List Char) : Checked Bool :=
  let word := String.ofList (cs.map Char.toLower)
  if ["1", "on", "t", "true", "y", "yes"].contains word then .ok true
  else if ["0", "off", "f", "false", "n", "no"].contains word then .ok false
  else .flaw .unreadableBool

/-- Reads a truth value from a number. -/
def boolOfWhole (n : Int) : Checked Bool :=
  if n = 0 then .ok false
  else if n = 1 then .ok true
  else .flaw .unreadableBool

/-- Reads a truth value. -/
def readBool (d : Data) : Checked Bool :=
  match spelling? .unreadableBool d with
  | some cs => cs.andThen boolOfText
  | none =>
    match d with
    | .bool b => .ok b
    | .int n => if -2 ^ 63 ≤ n ∧ n < 2 ^ 63 then boolOfWhole n else .flaw .notBool
    | .float x =>
      match wholeOfFloat x with
      | .ok n => boolOfWhole n
      | .wrong _ => .flaw .notBool
    | _ => .flaw .notBool

/-- Reads a network address: a text, a number, or packed bytes. -/
def readAddress (d : Data) : Checked Net.Address :=
  let address? : Option Net.Address :=
    match d with
    | .text s => Net.Address.read? s
    | .bool b => Net.Address.ofInt? (if b then 1 else 0)
    | .int n => Net.Address.ofInt? n
    | .bytes bs => Net.Address.ofBytes? bs
    | _ => none
  match address? with
  | some a => .ok a
  | none => .flaw .notAddress

/-- The outcome of reading a moment. -/
def checkedMoment : Except Time.MomentFault Time.Moment → Checked Time.Moment
  | .ok t => .ok t
  | .error fault => .flaw (.unreadableMoment fault)

/-- The text that bytes stand for where a moment is expected.  Bytes that are no text spell no
moment either; the faults of a date only count them. -/
def momentSpelling (bs : List Nat) : String :=
  match Text.decode? bs with
  | .ok cs => String.ofList cs
  | .error _ => String.ofList (bs.map fun b => Char.ofNat (min b 0x7f))

/-- Reads a moment: a text, or a number of seconds since the start of 1970. -/
def readMoment (d : Data) : Checked Time.Moment :=
  match d with
  | .text s =>
    if Text.hasSurrogate s then .flaw .brokenText else checkedMoment (Time.readMoment s)
  | .bytes bs => checkedMoment (Time.readMoment (momentSpelling bs))
  | .int n =>
    if -2 ^ 63 ≤ n ∧ n < 2 ^ 63 then checkedMoment (Time.ofUnix n)
    else if Decimal.intFits n then checkedMoment (Time.ofNumber (Decimal.ofInt n))
    else .flaw .notMoment
  | .float x => checkedMoment (Time.ofNumber x)
  | .moment t => .ok t
  | .date y m d => .ok ⟨y, m, d, 0, 0, 0, 0, none⟩
  | _ => .flaw .notMoment

end Schema
end Rebalance
