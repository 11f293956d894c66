import Rebalance.Decimal.Places
import Rebalance.Template.Value
import Rebalance.Text.Align

/-!
# Layouts of a field

How the value of a field is laid out: fill character and alignment, sign, alternate form, least
width, separators between groups of digits, precision, and the type of the presentation.  Texts
know the alignment, the width and a greatest length; whole numbers know the rest.

* `render`: a value in a layout.  Other values than texts and numbers have none but the empty one,
  and there may be no room for a wide one.
-/

namespace Rebalance
namespace Template

/-- The greatest precision of a number. -/
def precisionLimit : Nat :=
  2 ^ 31 - 1

/-- A layout as it is written. -/
structure Layout where
  fill : Option Char
  align : Option Char
  sign : Option Char
  keepsZeroSign : Bool
  alternate : Bool
  zero : Bool
  width : Nat
  separator : Option Char
  precision : Option Nat
  type : Option Char
deriving DecidableEq, Repr

/-! ## Reading -/

/-- A number at the head of a text. -/
def takeNumber (cs : List Char) : Except Fault (Option Nat × List Char) :=
  match index (cs.takeWhile isDecimal) with
  | .error e => .error e
  | .ok n => .ok (n, cs.dropWhile isDecimal)

/-- Whether a character aligns. -/
def isAlignment (c : Char) : Bool :=
  c == '<' || c == '>' || c == '^' || c == '='

/-- The fill character and alignment at the head of a layout, each if given, and the rest. -/
def takeAlignment : List Char → Option Char × Option Char × List Char
  | c :: d :: rest =>
    if isAlignment d then (some c, some d, rest)
    else if isAlignment c then (none, some c, d :: rest)
    else (none, none, c :: d :: rest)
  | [c] => if isAlignment c then (none, some c, []) else (none, none, [c])
  | [] => (none, none, [])

/-- The character at the head of a text if it is one of a few, and the rest. -/
def takeMark (marks : List Char) : List Char → Option Char × List Char
  | [] => (none, [])
  | c :: rest => if marks.contains c then (some c, rest) else (none, c :: rest)

/-- The number after a point. -/
def takePrecision : List Char → Except Fault (Option Nat × List Char)
  | '.' :: rest =>
    match takeNumber rest with
    | .error e => .error e
    | .ok (none, _) => .error .malformed
    | .ok (some n, rest) => .ok (some n, rest)
  | cs => .ok (none, cs)

/-- Whether a separator of groups goes with a type. -/
def separates (separator : Char) (type : Option Char) : Bool :=
  match type with
  | none => true
  | some t =>
    ['d', 'e', 'f', 'g', 'E', 'G', '%', 'F'].contains t
      || (separator == '_' && ['b', 'o', 'x', 'X'].contains t)

/-- Reads a layout. -/
def Layout.read (cs : List Char) : Except Fault Layout :=
  let (fill, align, rest) := takeAlignment cs
  let (sign, rest) := takeMark [' ', '+', '-'] rest
  let (coerced, rest) := takeMark ['z'] rest
  let (alternate, rest) := takeMark ['#'] rest
  let (zero, rest) := if fill.isNone then takeMark ['0'] rest else (none, rest)
  match takeNumber rest with
  | .error e => .error e
  | .ok (width, rest) =>
    let (separator, rest) := takeMark [',', '_'] rest
    match takePrecision rest with
    | .error e => .error e
    | .ok (precision, rest) =>
      let fits := separator.all fun c => separates c rest.head?
      if 1 < rest.length ∨ !fits then .error .malformed
      else
        .ok ⟨fill, align, sign, coerced.isNone, alternate.isSome, zero.isSome, width.getD 0,
          separator, precision, rest.head?⟩

/-! ## Texts -/

/-- The fill character. -/
def Layout.fillChar (l : Layout) : Char :=
  l.fill.getD (if l.zero then '0' else ' ')

/-- A text laid out.  Signs, separators and other types belong to numbers. -/
def Layout.ofText (l : Layout) (room : Nat) (cs : List Char) : Except Fault (List Char) :=
  let isForText := l.sign.isNone && l.keepsZeroSign && !l.alternate && l.separator.isNone
    && (l.type.isNone || l.type == some 's')
  let cs := match l.precision with
    | some n => Text.takeCodes n cs
    | none => cs
  if !isForText ∨ l.align = some '=' then .error .malformed
  else if room < l.width then .error .tooWide
  else
    match l.align with
    | some '>' => .ok (Text.flushRight l.fillChar l.width cs)
    | some '^' => .ok (Text.middle l.fillChar l.width cs)
    | _ => .ok (Text.flushLeft l.fillChar l.width cs)

/-! ## Whole numbers -/

/-- The parts of a written number: sign, mark of the base, digits before the point, and the rest. -/
structure Written where
  sign : List Char
  mark : List Char
  digits : List Char
  rest : List Char
deriving DecidableEq, Repr

/-- Digits, the last one first, in groups with a separator between them, with zeros in front up to
`least` characters. -/
def grouped (separator : Char) (size : Nat) : (fuel : Nat) → (least : Int) → List Char → List Char
  | 0, _, ds => ds
  | fuel + 1, least, ds =>
    let count := min (size : Int) (max (max (ds.length : Int) least) 1)
    let group := ds.take count.toNat
    let group := group ++ List.replicate (count.toNat - group.length) '0'
    let ds := ds.drop count.toNat
    let least := least - count
    if ds.isEmpty ∧ least ≤ 0 then group
    else group ++ separator :: grouped separator size fuel (least - 1) ds

/-- The sign of a number that is not below zero. -/
def Layout.plusSign (l : Layout) : List Char :=
  match l.sign with
  | some '+' => ['+']
  | some ' ' => [' ']
  | _ => []

/-- The side a number stands on. -/
def Layout.side (l : Layout) : Char :=
  l.align.getD (if l.zero then '=' else '>')

/-- How many digits stand between two separators. -/
def Layout.groupSize (l : Layout) : Nat :=
  if ['b', 'o', 'x', 'X'].contains (l.type.getD 'd') then 4 else 3

/-- A written number in its width. -/
def Layout.place (l : Layout) (w : Written) : List Char :=
  let fixed := w.sign.length + w.mark.length + w.rest.length
  let least : Int := if l.fillChar = '0' ∧ l.side = '=' then (l.width : Int) - fixed else 0
  let digits :=
    match l.separator with
    | some c =>
      (grouped c l.groupSize (w.digits.length + least.toNat + 1) least w.digits.reverse).reverse
    | none => Text.flushRight '0' least.toNat w.digits
  let head := w.sign ++ w.mark
  let body := digits ++ w.rest
  match l.side with
  | '=' => head ++ Text.flushRight l.fillChar (l.width - head.length) body
  | '<' => Text.flushLeft l.fillChar l.width (head ++ body)
  | '^' => Text.middle l.fillChar l.width (head ++ body)
  | _ => Text.flushRight l.fillChar l.width (head ++ body)

/-- A whole number in a base. -/
def Layout.inBase (l : Layout) (base : Nat) (mark : List Char) (n : Nat) :
    Except Fault (List Char) :=
  let ds := Nat.toDigits base n
  let ds := if l.type = some 'X' then ds.map Char.toUpper else ds
  if l.precision.isSome ∨ !l.keepsZeroSign then .error .malformed
  else .ok (l.place ⟨l.plusSign, if l.alternate then mark else [], ds, []⟩)

/-- The character of a code. -/
def Layout.asCharacter (l : Layout) (n : Nat) : Except Fault (List Char) :=
  if l.precision.isSome ∨ !l.keepsZeroSign ∨ l.sign.isSome ∨ l.alternate then .error .malformed
  else if 0x10ffff < n then .error .codeTooLarge
  else .ok (l.place ⟨[], [], [], Text.held [n]⟩)

/-- A whole number with a point or an exponent. -/
def Layout.asFraction (l : Layout) (type : Char) (n : Nat) : Except Fault (List Char) :=
  let size := l.precision.getD 6
  if precisionLimit < size then .error .malformed
  else
    let digits :=
      match type.toLower with
      | 'e' => Decimal.scientific size n 1
      | 'f' => Decimal.fixed size n 1
      | '%' => Decimal.fixed size (n * 100) 1
      | _ => Decimal.general l.alternate size n 1
    let digits := if l.alternate then Decimal.withPoint digits else digits
    let digits := if type.isUpper then digits.map Char.toUpper else digits
    let whole := digits.takeWhile Char.isDigit
    let tail := digits.drop whole.length ++ (if type = '%' then ['%'] else [])
    .ok (l.place ⟨l.plusSign, [], whole, tail⟩)

/-- A whole number laid out. -/
def Layout.ofWhole (l : Layout) (room : Nat) (n : Nat) : Except Fault (List Char) :=
  if room < l.width then .error .tooWide
  else
    match l.type.getD 'd' with
    | 'd' | 'n' => l.inBase 10 [] n
    | 'b' => l.inBase 2 ['0', 'b'] n
    | 'o' => l.inBase 8 ['0', 'o'] n
    | 'x' => l.inBase 16 ['0', 'x'] n
    | 'X' => l.inBase 16 ['0', 'X'] n
    | 'c' => l.asCharacter n
    | t =>
      if ['e', 'E', 'f', 'F', 'g', 'G', '%'].contains t then l.asFraction t n
      else .error .malformed

/-- A value in a layout. -/
def render (room : Nat) (v : Value) (layout : List Char) : Except Fault (List Char) :=
  if layout.isEmpty then .ok v.plain
  else
    match v with
    | .text cs => (Layout.read layout).bind fun l => l.ofText room cs
    | .whole n => (Layout.read layout).bind fun l => l.ofWhole room n
    | v => .error (.noLayout v.kindName)

end Template
end Rebalance
