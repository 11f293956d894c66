import Rebalance.Data.Printed
import Rebalance.Decimal.Numeral
import Rebalance.Decimal.Places
import Rebalance.Text.Align

/-!
# Message patterns

A pattern is literal text with places that start with `%`; each place takes the next argument, or
the named entry when the one argument is a map, and says in which form the value is written.  `%%`
is a percent sign.
-/

namespace Rebalance
namespace Log

/-- The form of a place. -/
structure Form where
  left : Bool
  plus : Bool
  space : Bool
  alternate : Bool
  zero : Bool
  width : Nat
  precision : Option Nat

namespace Form

/-- The form that nothing is said about. -/
def start : Form :=
  ⟨false, false, false, false, false, 0, none⟩

/-- A form with one more flag, if the character is a flag. -/
def flag? (f : Form) (c : Char) : Option Form :=
  match c with
  | '-' => some { f with left := true }
  | '+' => some { f with plus := true }
  | ' ' => some { f with space := true }
  | '#' => some { f with alternate := true }
  | '0' => some { f with zero := true }
  | _ => none

/-- Reads the flags at the head of a text. -/
def takeFlags (f : Form) : List Char → Form × List Char
  | [] => (f, [])
  | c :: rest =>
    match f.flag? c with
    | some f => takeFlags f rest
    | none => (f, c :: rest)

/-- The sign of a number. -/
def sign (f : Form) (negative : Bool) : List Char :=
  if negative then ['-'] else if f.plus then ['+'] else if f.space then [' '] else []

/-- A text in the width of the form. -/
def place (f : Form) (cs : List Char) : List Char :=
  if f.left then Text.flushLeft ' ' f.width cs else Text.flushRight ' ' f.width cs

/-- A number in the width of the form; zeros go between its lead and its digits. -/
def placeNumber (f : Form) (lead body : List Char) : List Char :=
  if f.zero && !f.left then lead ++ Text.flushRight '0' (f.width - lead.length) body
  else f.place (lead ++ body)

/-- A text cut to the precision. -/
def cut (f : Form) (cs : List Char) : List Char :=
  match f.precision with
  | some n => Text.takeCodes n cs
  | none => cs

end Form

namespace Pattern

/-- A value in ASCII. -/
def ascii (d : Data) : List Char :=
  d.quoted.toList.flatMap fun c => if c.toNat < 0x80 then [c] else Text.escapeCode c.toNat

/-- A number cut to a whole one. -/
def truncated? : Data → Option Int
  | .int n => some n
  | .bool b => some (if b then 1 else 0)
  | .float x =>
    match Decimal.Binary.of x with
    | .finite negative m e =>
      let (num, den) := Decimal.quotientOf m e
      some (if negative then -((num / den : Nat) : Int) else (num / den : Nat))
    | _ => none
  | _ => none

/-- A value that is a whole number or a truth value. -/
def integral? : Data → Option Int
  | .float _ => none
  | d => truncated? d

/-- A number as a double. -/
def double? : Data → Option Float
  | .float x => some x
  | .bool b => some (if b then 1.0 else 0.0)
  | .int n => if Decimal.intFits n then some (Decimal.ofInt n) else none
  | _ => none

/-- A whole number in a base. -/
def whole (f : Form) (base : Nat) (mark : List Char) (upper : Bool) (n : Int) : List Char :=
  let ds := Nat.toDigits base n.natAbs
  let ds := Text.flushRight '0' (f.precision.getD 0) (if upper then ds.map Char.toUpper else ds)
  f.placeNumber (f.sign (decide (n < 0)) ++ if f.alternate then mark else []) ds

/-- A double with a chosen number of digits. -/
def real (f : Form) (kind : Char) (x : Float) : List Char :=
  let size := f.precision.getD 6
  let (negative, body) :=
    match Decimal.Binary.of x with
    | .nan => (false, "nan".toList)
    | .infinite negative => (negative, "inf".toList)
    | .finite negative m e =>
      let (num, den) := Decimal.quotientOf m e
      let digits :=
        match kind.toLower with
        | 'e' => Decimal.scientific size num den
        | 'f' => Decimal.fixed size num den
        | _ => Decimal.general f.alternate size num den
      (negative, if f.alternate then Decimal.withPoint digits else digits)
  f.placeNumber (f.sign negative) (if kind.isUpper then body.map Char.toUpper else body)

/-- A single character. -/
def single? : Data → Option (List Char)
  | .text s => if Text.size s.toList = 1 then some s.toList else none
  | .bool b => some [Char.ofNat (if b then 1 else 0)]
  | .int n => if 0 ≤ n ∧ n ≤ 0x10ffff then some (Text.held [n.toNat]) else none
  | _ => none

/-- A value in a form, if the kind of the place suits it.  A whole number of too many digits has no
decimal form. -/
def value? (f : Form) (kind : Char) (d : Data) : Option (List Char) :=
  match kind with
  | 's' => if d.isShown then some (f.place (f.cut d.plain.toList)) else none
  | 'r' => if d.isShown then some (f.place (f.cut d.quoted.toList)) else none
  | 'a' => if d.isShown then some (f.place (f.cut (ascii d))) else none
  | 'd' | 'i' | 'u' => ((truncated? d).filter Decimal.isShort).map (whole f 10 [] false)
  | 'o' => (integral? d).map (whole f 8 ['0', 'o'] false)
  | 'x' => (integral? d).map (whole f 16 ['0', 'x'] false)
  | 'X' => (integral? d).map (whole f 16 ['0', 'X'] true)
  | 'e' | 'E' | 'f' | 'F' | 'g' | 'G' => (double? d).map (real f kind)
  | 'c' => (single? d).map f.place
  | _ => none

/-- The value of a run of ASCII digits. -/
def number (cs : List Char) : Nat :=
  Decimal.valueOf 0 cs

/-- A number at the head of a text, or the next argument for a `*`. -/
def takeNumber? (cs : List Char) (args : List Data) : Option (Int × List Char × List Data) :=
  match cs with
  | '*' :: rest =>
    match args with
    | .int n :: args => some (n, rest, args)
    | .bool b :: args => some (if b then 1 else 0, rest, args)
    | _ => none
  | _ => some (number (cs.takeWhile Decimal.isDigit), cs.dropWhile Decimal.isDigit, args)

/-- The greatest precision of a place. -/
def precisionLimit : Int :=
  2 ^ 31 - 1

/-- Reads flags, width and precision.  A width that there is no room for ends the reading. -/
def takeForm? (room : Nat) (cs : List Char) (args : List Data) :
    Option (Form × List Char × List Data) :=
  let (f, rest) := Form.start.takeFlags cs
  match takeNumber? rest args with
  | none => none
  | some (n, rest, args) =>
    let f := { f with width := n.natAbs, left := f.left || decide (n < 0) }
    if room < f.width then none
    else
      match rest with
      | '.' :: rest =>
        match takeNumber? rest args with
        | none => none
        | some (n, rest, args) =>
          if precisionLimit < n then none
          else some ({ f with precision := some n.toNat }, rest, args)
      | _ => some (f, rest, args)

/-- A name up to the round bracket that closes it, and the text after that; `depth` is how many
brackets inside the name are open. -/
def takeName? : (depth : Nat) → List Char → Option (List Char × List Char)
  | _, [] => none
  | 0, ')' :: rest => some ([], rest)
  | depth + 1, ')' :: rest => (takeName? depth rest).map fun (name, rest) => (')' :: name, rest)
  | depth, '(' :: rest => (takeName? (depth + 1) rest).map fun (name, rest) => ('(' :: name, rest)
  | depth, c :: rest => (takeName? depth rest).map fun (name, rest) => (c :: name, rest)

/-- The entry that a name in round brackets chooses, or the arguments as they are. -/
def takeKey? (entries : Option (List (Data × Data))) (cs : List Char) (args : List Data) :
    Option (List Char × List Data) :=
  match cs with
  | '(' :: rest => do
    let es ← entries
    let (name, rest) ← takeName? 0 rest
    let d ← Data.find? (String.ofList name) es
    return (rest, [d])
  | _ => some (cs, args)

/-- The text of a place that says in which form its value is written, with what is left of pattern
and arguments. -/
def formed? (room : Nat) (entries : Option (List (Data × Data))) (cs : List Char)
    (args : List Data) : Option (List Char × List Char × List Data) :=
  match takeKey? entries cs args with
  | none => none
  | some (rest, args) =>
    match takeForm? room rest args with
    | none => none
    | some (f, rest, args) =>
      let rest := if rest.head?.any fun c => c == 'h' || c == 'l' || c == 'L' then rest.drop 1
        else rest
      match rest, args with
      | kind :: rest, d :: args => (value? f kind d).map fun cs => (cs, rest, args)
      | _, _ => none

/-- The text of one place after its percent sign, with what is left of pattern and arguments. -/
def place? (room : Nat) (entries : Option (List (Data × Data))) (cs : List Char)
    (args : List Data) : Option (List Char × List Char × List Data) :=
  match cs with
  | '%' :: rest => some (['%'], rest, args)
  | cs => formed? room entries cs args

/-- Fills the places of a pattern, at most `fuel` characters and places. -/
def fill? (room : Nat) (entries : Option (List (Data × Data))) : (fuel : Nat) → List Char →
    List Data → Option (List Char)
  | _, [], args => if args.isEmpty || entries.isSome then some [] else none
  | 0, _ :: _, _ => none
  | fuel + 1, c :: rest, args =>
    if c = '%' then
      match place? room entries rest args with
      | none => none
      | some (cs, rest, args) => (fill? room entries fuel rest args).map (cs ++ ·)
    else (fill? room entries fuel rest args).map (c :: ·)

/-- The entries of the only argument, if it is a map that is not empty. -/
def entries? : List Data → Option (List (Data × Data))
  | [.map es] => if es.isEmpty then none else some es
  | _ => none

/-- The message of a pattern and its arguments; without arguments the pattern is the message.  Its
places are at most as wide as there is room for. -/
def message? (room : Nat) (pattern : String) (args : List Data) : Option String :=
  if args.isEmpty then some pattern
  else (fill? room (entries? args) pattern.length pattern.toList args).map String.ofList

end Pattern
end Log
end Rebalance
