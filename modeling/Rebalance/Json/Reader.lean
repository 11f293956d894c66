import Rebalance.Data
import Rebalance.Decimal.Numeral
import Rebalance.Text.Classes
import Rebalance.Text.Codes

/-!
# Reading JSON texts

The grammar is the standard one, with `NaN`, `Infinity` and `-Infinity` as further numbers.  A
number with a fraction or an exponent is a double, any other a whole number.  An object keeps the
order of its keys; a repeated key keeps its first place and its last value.  A surrogate escape
without a partner stays in the text.  A text that is refused is told from the left: the fault names
what was expected at the first place where nothing could go on.

Strings and numbers are read by recursion on the text alone; values nest, so that `value` is given
fuel, two units for each character.
-/

namespace Rebalance
namespace Json

/-- What is wrong at a place of a text that is no JSON text. -/
inductive Lapse
  | byteOrderMark
  | noValue
  | noName
  | noColon
  | noComma
  | moreText
  | openString
  | control
  | badEscape
  | badCode
deriving DecidableEq, Repr

/-- The words of a lapse. -/
def Lapse.words : Lapse → String
  | .byteOrderMark => "Unexpected UTF-8 BOM (decode using utf-8-sig)"
  | .noValue => "Expecting value"
  | .noName => "Expecting property name enclosed in double quotes"
  | .noColon => "Expecting ':' delimiter"
  | .noComma => "Expecting ',' delimiter"
  | .moreText => "Extra data"
  | .openString => "Unterminated string starting at"
  | .control => "Invalid control character at"
  | .badEscape => "Invalid \\escape"
  | .badCode => "Invalid \\uXXXX escape"

/-- Why a text is not read. -/
inductive Fault
  | malformed (lapse : Lapse) (place : Text.Place)
  | tooDeep (inObject : Bool)
  | tooManyDigits (count : Nat)
deriving DecidableEq, Repr

/-- The message of a fault. -/
def Fault.message : Fault → String
  | .malformed lapse place => lapse.words ++ ": " ++ place.text
  | .tooDeep inObject =>
    "maximum recursion depth exceeded while decoding a JSON "
      ++ (if inObject then "object" else "array") ++ " from a unicode string"
  | .tooManyDigits count =>
    "Exceeds the limit (4300 digits) for integer string conversion: value has "
      ++ Decimal.intText count
      ++ " digits; use sys.set_int_max_str_digits() to increase the limit"

/-- Why reading stops inside a text.  The place of a lapse is told by the text from there on. -/
inductive Halt
  | stuck (lapse : Lapse) (rest : List Char)
  | tooDeep (inObject : Bool)
  | tooManyDigits (count : Nat)
deriving DecidableEq, Repr

/-- The fault that a halt is in a whole text. -/
def Halt.fault (cs : List Char) : Halt → Fault
  | .stuck lapse rest =>
    .malformed lapse
      (.ofIndex (Text.codesOf cs) (Text.codesOf (cs.take (cs.length - rest.length))).length)
  | .tooDeep inObject => .tooDeep inObject
  | .tooManyDigits count => .tooManyDigits count

/-- How deep containers may nest. -/
def depthLimit : Nat :=
  986

/-- The characters between tokens. -/
def isSpace (c : Char) : Bool :=
  c == ' ' || c == '\t' || c == '\n' || c == '\r'

/-- A text without the spaces at its head. -/
def skip (cs : List Char) : List Char :=
  cs.dropWhile isSpace

/-- The value of four hexadecimal digits. -/
def hex4? (a b c d : Char) : Option Nat := do
  let a ← Text.hexValue? a
  let b ← Text.hexValue? b
  let c ← Text.hexValue? c
  let d ← Text.hexValue? d
  return ((a * 16 + b) * 16 + c) * 16 + d

/-- The character that a one-letter escape stands for. -/
def escape? : Char → Option Char
  | '"' => some '"'
  | '\\' => some '\\'
  | '/' => some '/'
  | 'b' => some '\x08'
  | 'f' => some '\x0c'
  | 'n' => some '\n'
  | 'r' => some '\r'
  | 't' => some '\t'
  | _ => none

/-- A part of a string: a character of its own, or an escape in numbers. -/
inductive Part
  | own (c : Char)
  | escaped (code : Nat)
deriving DecidableEq, Repr

/-- Reads the inside of a string up to its closing quote: its parts, and the rest.  `start` is the
text from the opening quote on. -/
def parts (start : List Char) : List Char → Except Halt (List Part × List Char)
  | [] => .error (.stuck .openString start)
  | '"' :: rest => .ok ([], rest)
  | ['\\'] => .error (.stuck .openString start)
  | '\\' :: 'u' :: a :: b :: c :: d :: e :: rest =>
    match hex4? a b c d with
    | none => .error (.stuck .badCode ('u' :: a :: b :: c :: d :: e :: rest))
    | some code => (parts start (e :: rest)).map fun (ps, rest) => (.escaped code :: ps, rest)
  | '\\' :: e :: rest =>
    match escape? e with
    | some c => (parts start rest).map fun (ps, rest) => (.own c :: ps, rest)
    | none =>
      if e = 'u' then .error (.stuck .badCode (e :: rest))
      else .error (.stuck .badEscape ('\\' :: e :: rest))
  | c :: rest =>
    if c.toNat < 0x20 then .error (.stuck .control (c :: rest))
    else (parts start rest).map fun (ps, rest) => (.own c :: ps, rest)

/-- The code points of some parts, after characters of their own that come the last one first.  An
escaped high surrogate and a low one right after it are one character. -/
def codesOf (own : List Char) : List Part → List Nat
  | [] => Text.codesOf own.reverse
  | .own c :: rest => codesOf (c :: own) rest
  | .escaped a :: .escaped b :: rest =>
    Text.codesOf own.reverse ++
      (if 0xd800 ≤ a ∧ a ≤ 0xdbff ∧ 0xdc00 ≤ b ∧ b ≤ 0xdfff then
        (0x10000 + (a - 0xd800) * 0x400 + (b - 0xdc00)) :: codesOf [] rest
      else a :: codesOf [] (.escaped b :: rest))
  | .escaped a :: rest => Text.codesOf own.reverse ++ a :: codesOf [] rest

/-- Reads a string after its opening quote. -/
def string (cs : List Char) : Except Halt (Data × List Char) :=
  (parts ('"' :: cs) cs).map fun (ps, rest) => (.text (Text.ofCodes (codesOf [] ps)), rest)

/-- The digits of a whole number: a zero alone, or digits that do not begin with one. -/
def wholeDigits? : List Char → Option (List Char × List Char)
  | [] => none
  | c :: rest =>
    if c = '0' then some (['0'], rest)
    else if Decimal.isDigit c then
      some (c :: rest.takeWhile Decimal.isDigit, rest.dropWhile Decimal.isDigit)
    else none

/-- A fraction at the head of a text.  A point without digits after it is no fraction. -/
def takeFraction : List Char → List Char × List Char
  | '.' :: rest =>
    let ds := rest.takeWhile Decimal.isDigit
    if ds.isEmpty then ([], '.' :: rest) else (ds, rest.dropWhile Decimal.isDigit)
  | cs => ([], cs)

/-- An exponent at the head of a text, if there is a whole one. -/
def takeExponent : List Char → Option Int × List Char
  | [] => (none, [])
  | c :: rest =>
    if c = 'e' ∨ c = 'E' then
      let (negative, more) := Decimal.takeSign rest
      let ds := more.takeWhile Decimal.isDigit
      if ds.isEmpty then (none, c :: rest)
      else
        let n : Int := Decimal.valueOf 0 ds
        (some (if negative then -n else n), more.dropWhile Decimal.isDigit)
    else (none, c :: rest)

/-- Reads a number after its sign.  `start` is the text from the sign on. -/
def number (start : List Char) (negative : Bool) (cs : List Char) :
    Except Halt (Data × List Char) :=
  match wholeDigits? cs with
  | none => .error (.stuck .noValue start)
  | some (whole, rest) =>
    let (fraction, rest) := takeFraction rest
    let (exponent, rest) := takeExponent rest
    if fraction.isEmpty ∧ exponent.isNone then
      if Decimal.digitLimit < whole.length then .error (.tooManyDigits whole.length)
      else
        let n : Int := Decimal.valueOf 0 whole
        .ok (.int (if negative then -n else n), rest)
    else
      let numeral : Decimal.Numeral := ⟨negative, whole, fraction, exponent.getD 0⟩
      .ok (.float numeral.value, rest)

/-- The rest of a text that begins with a word. -/
def after? : (word : List Char) → (cs : List Char) → Option (List Char)
  | [], cs => some cs
  | w :: word, c :: cs => if w = c then after? word cs else none
  | _ :: _, [] => none

/-- The values that are words. -/
def words : List (List Char × Data) :=
  [("null".toList, .null), ("true".toList, .bool true), ("false".toList, .bool false),
   ("NaN".toList, .float (Decimal.ofSignBits false (Decimal.infinityBits + 2 ^ 51))),
   ("Infinity".toList, .float (Decimal.ofSignBits false Decimal.infinityBits)),
   ("-Infinity".toList, .float (Decimal.ofSignBits true Decimal.infinityBits))]

/-- Reads a value that is a word. -/
def word? (cs : List Char) : Option (Data × List Char) :=
  words.findSome? fun (w, d) => (after? w cs).map fun rest => (d, rest)

/-- Reads a word or a number. -/
def scalar (cs : List Char) : Except Halt (Data × List Char) :=
  match word? cs with
  | some r => .ok r
  | none =>
    match cs with
    | '-' :: rest => number cs true rest
    | _ => number cs false cs

mutual

/-- Reads one value at the head of a text, inside `depth` containers. -/
def value : (fuel depth : Nat) → List Char → Except Halt (Data × List Char)
  | 0, _, cs => .error (.stuck .noValue cs)
  | fuel + 1, depth, cs =>
    match cs with
    | '"' :: rest => string rest
    | '[' :: rest =>
      if depthLimit ≤ depth then .error (.tooDeep false)
      else
        match skip rest with
        | ']' :: rest => .ok (.list [], rest)
        | rest =>
          match items fuel (depth + 1) rest with
          | .ok (ds, rest) => .ok (.list ds, rest)
          | .error e => .error e
    | '\x7b' :: rest =>
      if depthLimit ≤ depth then .error (.tooDeep true)
      else
        match skip rest with
        | '\x7d' :: rest => .ok (.map [], rest)
        | rest =>
          match entries fuel (depth + 1) rest with
          | .ok (es, rest) => .ok (.map (Data.ofEntries es), rest)
          | .error e => .error e
    | cs => scalar cs

/-- Reads values with commas between them up to the closing bracket. -/
def items : (fuel depth : Nat) → List Char → Except Halt (List Data × List Char)
  | 0, _, cs => .error (.stuck .noValue cs)
  | fuel + 1, depth, cs =>
    match value fuel depth cs with
    | .error e => .error e
    | .ok (d, rest) =>
      match skip rest with
      | ']' :: rest => .ok ([d], rest)
      | ',' :: rest =>
        match items fuel depth (skip rest) with
        | .ok (ds, rest) => .ok (d :: ds, rest)
        | .error e => .error e
      | rest => .error (.stuck .noComma rest)

/-- Reads keys and values with commas between them up to the closing brace. -/
def entries : (fuel depth : Nat) → List Char → Except Halt (List (Data × Data) × List Char)
  | 0, _, cs => .error (.stuck .noName cs)
  | fuel + 1, depth, cs =>
    match cs with
    | '"' :: rest =>
      match string rest with
      | .error e => .error e
      | .ok (k, rest) =>
        match skip rest with
        | ':' :: rest =>
          match value fuel depth (skip rest) with
          | .error e => .error e
          | .ok (v, rest) =>
            match skip rest with
            | '\x7d' :: rest => .ok ([(k, v)], rest)
            | ',' :: rest =>
              match entries fuel depth (skip rest) with
              | .ok (es, rest) => .ok ((k, v) :: es, rest)
              | .error e => .error e
            | rest => .error (.stuck .noComma rest)
        | rest => .error (.stuck .noColon rest)
    | cs => .error (.stuck .noName cs)

end

/-- Reads a whole text as one value with only spaces around it. -/
def whole (cs : List Char) : Except Halt Data :=
  if cs.head? = some '\ufeff' then .error (.stuck .byteOrderMark cs)
  else
    match value (2 * cs.length + 2) 0 (skip cs) with
    | .error e => .error e
    | .ok (d, rest) =>
      match skip rest with
      | [] => .ok d
      | rest => .error (.stuck .moreText rest)

/-- Reads a whole text. -/
def read (cs : List Char) : Except Fault Data :=
  (whole cs).mapError (Halt.fault cs)

/-- Reads a whole text given as a string. -/
def readString (s : String) : Except Fault Data :=
  read s.toList

end Json
end Rebalance
