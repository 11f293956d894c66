import Rebalance.Decimal.Integer
import Rebalance.Text.Case
import Rebalance.Text.Utf8
import Rebalance.Time.Moment
import Rebalance.Data
import Rebalance.Yaml.Fault

/-!
# Kinds of YAML values

The kinds of YAML values.  A plain scalar shows its kind by its spelling: truth words, numbers with
underscores, in base 2, 8, 16 or in sixties, dates and times.  Each kind reads the text of its
scalars.
-/

namespace Rebalance
namespace Yaml

/-- The kind of a value. -/
inductive Kind
  | null
  | truth
  | whole
  | real
  | time
  | text
  | bytes
  | list
  | map
  | members
  | pairs
  | orderedPairs
  | merge
  | standIn
  | unknown
deriving DecidableEq, Repr

/-- The kind that a tag names. -/
def Kind.ofTag (tag : String) : Kind :=
  let names : List (String × Kind) :=
    [("null", .null), ("bool", .truth), ("int", .whole), ("float", .real), ("timestamp", .time),
     ("str", .text), ("binary", .bytes), ("seq", .list), ("map", .map), ("set", .members),
     ("pairs", .pairs), ("omap", .orderedPairs), ("merge", .merge), ("value", .standIn)]
  match names.find? fun e => "tag:yaml.org,2002:" ++ e.1 == tag with
  | some e => e.2
  | none => .unknown

/-! ## Spellings -/

/-- Whether a character is a digit or an underscore. -/
def isDigitMark (c : Char) : Bool :=
  c.isDigit || c == '_'

/-- A text without a sign at its head. -/
def unsigned (cs : List Char) : List Char :=
  (Decimal.takeSign cs).2

/-- Whether a text is a digit and then digits and underscores. -/
def isDigits : List Char → Bool
  | [] => false
  | c :: rest => c.isDigit && rest.all isDigitMark

/-- Whether a text is a count of sixtieths. -/
def isSixtieth : List Char → Bool
  | [a] => a.isDigit
  | [a, b] => decide ('0' ≤ a ∧ a ≤ '5') && b.isDigit
  | _ => false

/-- Whether a text spells a truth value. -/
def isTruth (cs : List Char) : Bool :=
  let s := String.ofList cs
  ["yes", "Yes", "YES", "no", "No", "NO", "true", "True", "TRUE", "false", "False", "FALSE",
   "on", "On", "ON", "off", "Off", "OFF"].contains s

/-- Whether a text is empty or an exponent with a sign. -/
def isExponent : List Char → Bool
  | [] => true
  | e :: sign :: ds => (e == 'e' || e == 'E') && (sign == '+' || sign == '-') && !ds.isEmpty
      && ds.all Char.isDigit
  | _ => false

/-- Whether a text is a point, digits and underscores, and perhaps an exponent. -/
def isFraction (needsDigit : Bool) : List Char → Bool
  | '.' :: rest =>
    let ds := rest.takeWhile isDigitMark
    (!needsDigit || isDigits ds) && isExponent (rest.dropWhile isDigitMark)
  | _ => false

/-- Whether a text is a number in sixties with a fraction. -/
def isSixtiesFraction (cs : List Char) : Bool :=
  let tail := cs.dropWhile (· ≠ '.')
  match (cs.takeWhile (· ≠ '.')).splitOn ':' with
  | first :: p :: parts =>
    isDigits first && (p :: parts).all isSixtieth && !tail.isEmpty && (tail.drop 1).all isDigitMark
  | _ => false

/-- Whether a text spells a double. -/
def isReal (cs : List Char) : Bool :=
  let body := unsigned cs
  let whole := body.takeWhile isDigitMark
  (isDigits whole && isFraction false (body.dropWhile isDigitMark))
    || isFraction true cs
    || isSixtiesFraction body
    || [".inf", ".Inf", ".INF"].contains (String.ofList body)
    || [".nan", ".NaN", ".NAN"].contains (String.ofList cs)

/-- Whether a text spells a number in sixties. -/
def isSixties (cs : List Char) : Bool :=
  match cs.splitOn ':' with
  | first :: p :: parts =>
    first.head? != some '0' && isDigits first && (p :: parts).all isSixtieth
  | _ => false

/-- Whether a text spells a whole number. -/
def isWhole (cs : List Char) : Bool :=
  let body := unsigned cs
  (match body with
  | ['0'] => true
  | '0' :: 'b' :: rest => !rest.isEmpty && rest.all fun c => c == '0' || c == '1' || c == '_'
  | '0' :: 'x' :: rest => !rest.isEmpty && rest.all fun c => (Text.hexValue? c).isSome || c == '_'
  | '0' :: rest => rest.all fun c => decide ('0' ≤ c ∧ c ≤ '7') || c == '_'
  | cs => isDigits cs)
    || isSixties body

/-! ## Dates and times -/

/-- A date as it is written, and the time of day after it, if any.  The offset is in minutes. -/
structure Stamp where
  year : Nat
  month : Nat
  day : Nat
  isPadded : Bool
  clock : Option (Nat × Nat × Nat × Nat)
  offset : Option Int
deriving DecidableEq, Repr

/-- One or two digits at the head of a text, how many they are, and the rest. -/
def shortNumber? (cs : List Char) : Option (Nat × Nat × List Char) :=
  let ds := (cs.take 2).takeWhile Char.isDigit
  if ds.isEmpty then none else some (Decimal.valueOf 0 ds, ds.length, cs.drop ds.length)

/-- Exactly `n` digits at the head of a text, and the rest. -/
def longNumber? (n : Nat) (cs : List Char) : Option (Nat × List Char) :=
  let ds := cs.take n
  if ds.length = n ∧ ds.all Char.isDigit then some (Decimal.valueOf 0 ds, cs.drop n) else none

/-- The rest of a text that begins with a character. -/
def after? (c : Char) : List Char → Option (List Char)
  | [] => none
  | d :: rest => if d = c then some rest else none

/-- Reads a zone up to the end of the text. -/
def readZone? (cs : List Char) : Option (Option Int) :=
  match cs.dropWhile fun c => c == ' ' || c == '\t' with
  | [] => if cs.isEmpty then some none else none
  | ['Z'] => some (some 0)
  | sign :: rest =>
    if sign = '+' ∨ sign = '-' then do
      let (hours, _, rest) ← shortNumber? rest
      let minutes ←
        (if rest.isEmpty then some 0 else do
          let (m, rest) ← longNumber? 2 (← after? ':' rest)
          if rest.isEmpty then some m else none)
      let size : Int := (hours * 60 + minutes : Nat)
      return some (if sign = '-' then -size else size)
    else none

/-- Reads a time of day and a zone up to the end of the text. -/
def readClock? (cs : List Char) : Option ((Nat × Nat × Nat × Nat) × Option Int) := do
  let (hour, _, rest) ← shortNumber? cs
  let (minute, rest) ← longNumber? 2 (← after? ':' rest)
  let (second, rest) ← longNumber? 2 (← after? ':' rest)
  let fraction := ((after? '.' rest).getD []).takeWhile Char.isDigit
  let rest := ((after? '.' rest).map (·.dropWhile Char.isDigit)).getD rest
  let kept := fraction.take 6
  let micro := Decimal.valueOf 0 kept * 10 ^ (6 - kept.length)
  let offset ← readZone? rest
  return ((hour, minute, second, micro), offset)

/-- Reads a date and perhaps a time of day. -/
def Stamp.read? (cs : List Char) : Option Stamp := do
  let (year, rest) ← longNumber? 4 cs
  let (month, m, rest) ← shortNumber? (← after? '-' rest)
  let (day, d, rest) ← shortNumber? (← after? '-' rest)
  let stamp : Stamp := ⟨year, month, day, m == 2 && d == 2, none, none⟩
  match rest with
  | [] => return stamp
  | c :: more =>
    let begun :=
      if c = 'T' ∨ c = 't' then some more
      else if c = ' ' ∨ c = '\t' then some (more.dropWhile fun c => c == ' ' || c == '\t')
      else none
    let (clock, offset) ← readClock? (← begun)
    return { stamp with clock := some clock, offset := offset }

/-- Whether a text spells a date or a time. -/
def isTime (cs : List Char) : Bool :=
  match Stamp.read? cs with
  | some s => s.isPadded || s.clock.isSome
  | none => false

/-- Refuses what holds. -/
def refuse (bad : Bool) (text : String) : Except Fault Unit :=
  if bad then .error (.badTime text) else .ok ()

/-- A span of minutes as a message shows it. -/
def spanText (minutes : Int) : String :=
  let seconds := minutes * 60
  let days := seconds.fdiv 86400
  let rest := seconds.fmod 86400
  "datetime.timedelta(days=" ++ Decimal.intText days
    ++ (if rest = 0 then "" else ", seconds=" ++ Decimal.intText rest) ++ ")"

/-- The value of a date or time, which has to exist. -/
def Stamp.value (s : Stamp) : Except Fault Data := do
  let offset := s.offset.getD 0
  refuse (decide (1440 ≤ offset.natAbs))
    ("offset must be a timedelta strictly between -timedelta(hours=24) and timedelta(hours=24), "
      ++ "not " ++ spanText offset ++ ".")
  refuse (s.year == 0) "year 0 is out of range"
  refuse (s.month == 0 || decide (12 < s.month)) "month must be in 1..12"
  refuse (s.day == 0 || decide (Time.daysIn s.year s.month < s.day)) "day is out of range for month"
  match s.clock with
  | none => return .date s.year s.month s.day
  | some (hour, minute, second, micro) =>
    refuse (decide (23 < hour)) "hour must be in 0..23"
    refuse (decide (59 < minute)) "minute must be in 0..59"
    refuse (decide (59 < second)) "second must be in 0..59"
    return .moment ⟨s.year, s.month, s.day, hour, minute, second, micro, s.offset⟩

/-! ## Kinds -/

/-- A text without the line feed at its end; a line feed alone stays. -/
def dropLastFeed (cs : List Char) : List Char :=
  if cs.getLast? = some '\n' ∧ cs ≠ ['\n'] then cs.dropLast else cs

/-- The kind that a text shows by its spelling, up to a line feed at its end. -/
def Kind.ofSpelling (cs : List Char) : Kind :=
  let cs := dropLastFeed cs
  if isTruth cs then .truth
  else if isReal cs then .real
  else if isWhole cs then .whole
  else if cs = ['<', '<'] then .merge
  else if ["", "~", "null", "Null", "NULL"].contains (String.ofList cs) then .null
  else if isTime cs then .time
  else if cs = ['='] then .standIn
  else .text

/-- The characters of code points, with NUL for a surrogate, which no spelling has a use for. -/
def charsOf (codes : List Nat) : List Char :=
  codes.map Char.ofNat

/-- The truth value of a word, in any case. -/
def readTruth (codes : List Nat) : Except Fault Data :=
  let codes := Text.lowerCodes codes
  let word := String.ofList (charsOf codes)
  if ["yes", "true", "on"].contains word then .ok (.bool true)
  else if ["no", "false", "off"].contains word then .ok (.bool false)
  else .error (.badTruth codes)

/-- Code points without underscores. -/
def dropMarks (codes : List Nat) : List Nat :=
  codes.filter (· ≠ '_'.toNat)

/-- Whether code points begin with a minus, and what follows a sign at their head. -/
def takeSignCode (codes : List Nat) : Bool × List Nat :=
  let (negative, body) := Decimal.takeSign (charsOf codes)
  (negative, codes.drop (codes.length - body.length))

/-- The parts of a number in sixties. -/
def sixtiesParts (codes : List Nat) : List (List Nat) :=
  codes.splitOn ':'.toNat

/-- Reads a whole number of a base. -/
def readBase (base : Nat) (codes : List Nat) : Except Fault Int :=
  match Decimal.readInteger base (charsOf codes) with
  | .ok n => .ok n
  | .error .malformed => .error (.badWhole base codes)
  | .error (.tooManyDigits n) => .error (.tooManyDigits n)

/-- The value of a whole number. -/
def readWhole (codes : List Nat) : Except Fault Data :=
  let (negative, body) := takeSignCode (dropMarks codes)
  let signed (n : Int) : Data := .int (if negative then -n else n)
  match charsOf body with
  | [] => .error .emptyNumber
  | ['0'] => .ok (.int 0)
  | '0' :: 'b' :: _ => (readBase 2 (body.drop 2)).map signed
  | '0' :: 'x' :: _ => (readBase 16 (body.drop 2)).map signed
  | '0' :: _ => (readBase 8 body).map signed
  | cs =>
    if cs.contains ':' then
      ((sixtiesParts body).mapM (readBase 10)).map fun ds =>
        signed (ds.foldl (fun n d => n * 60 + d) 0)
    else (readBase 10 body).map signed

/-- Whether a text is the sign for no number. -/
def isNanSign (codes : List Nat) : Bool :=
  charsOf (takeSignCode (Text.lowerCodes (dropMarks codes))).2 == ".nan".toList

/-- Reads a double. -/
def readPart (codes : List Nat) : Except Fault Float :=
  match Decimal.readNumber? (charsOf codes) with
  | some x => .ok x
  | none => .error (.badNumber codes)

/-- A number in sixties, given from its last digit on: its sum after `total`, where `scale` is the
weight of the first digit.  The weight has to fit a double. -/
def sumSixties (total : Float) (scale : Nat) : List Float → Except Fault Float
  | [] => .ok total
  | d :: rest =>
    let weight := Decimal.ofInt scale
    if weight.isInf then .error .sixtiesTooLarge
    else sumSixties (total + d * weight) (scale * 60) rest

/-- The value of a double. -/
def readReal (codes : List Nat) : Except Fault Data :=
  let codes := Text.lowerCodes (dropMarks codes)
  let (negative, body) := takeSignCode codes
  let signed (x : Float) : Data := .float (if negative then -x else x)
  let cs := charsOf body
  if codes.isEmpty then .error .emptyNumber
  else if cs = ".inf".toList then .ok (signed (Decimal.ofSignBits false Decimal.infinityBits))
  else if cs = ".nan".toList then
    .ok (.float (Decimal.ofSignBits false (Decimal.infinityBits + 2 ^ 51)))
  else if cs.contains ':' then
    match (sixtiesParts body).mapM readPart with
    | .error e => .error e
    | .ok ds => (sumSixties 0.0 1 ds.reverse).map signed
  else (readPart body).map signed

/-- The value of a date or time. -/
def readTime (codes : List Nat) : Except Fault Data :=
  match Stamp.read? (dropLastFeed (charsOf codes)) with
  | some s => s.value
  | none => .error .noTime

/-! ## Bytes -/

/-- The value of a character of base 64. -/
def sixBits? (c : Char) : Option Nat :=
  if 'A' ≤ c ∧ c ≤ 'Z' then some (c.toNat - 'A'.toNat)
  else if 'a' ≤ c ∧ c ≤ 'z' then some (c.toNat - 'a'.toNat + 26)
  else if '0' ≤ c ∧ c ≤ '9' then some (c.toNat - '0'.toNat + 52)
  else if c = '+' then some 62
  else if c = '/' then some 63
  else none

/-- Reads base 64.  `held` counts the characters of the current group of four, `bits` are those
not yet in a byte, and `pads` counts the padding characters.  Other characters are passed over;
the text ends where a group is padded to its full length. -/
def readBase64 : (held bits pads : Nat) → List Char → Option (List Nat)
  | held, _, _, [] => if held = 0 then some [] else none
  | held, bits, pads, c :: rest =>
    if c = '=' then
      if 2 ≤ held ∧ 4 ≤ held + (pads + 1) then some []
      else readBase64 held bits (if 2 ≤ held then pads + 1 else pads) rest
    else
      match sixBits? c with
      | none => readBase64 held bits pads rest
      | some v =>
        if held = 0 then readBase64 1 v 0 rest
        else if held = 1 then
          (readBase64 2 (v % 16) 0 rest).map ((bits * 4 + v / 16) :: ·)
        else if held = 2 then
          (readBase64 3 (v % 4) 0 rest).map ((bits * 16 + v / 4) :: ·)
        else
          (readBase64 0 0 0 rest).map ((bits * 64 + v) :: ·)

/-- The bytes of a text in base 64. -/
def readBytes (codes : List Nat) : Except Fault Data :=
  if codes.any fun c => decide (0x7f < c) then .error .malformed
  else
    match readBase64 0 0 0 (charsOf codes) with
    | some bs => .ok (.bytes bs)
    | none => .error .malformed

end Yaml
end Rebalance
