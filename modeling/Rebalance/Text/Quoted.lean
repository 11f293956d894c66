import Rebalance.Text.Codes
import Rebalance.Text.Printable

/-!
# Quoted texts

Quoted texts, as log messages and error messages show them.  A text stands between single quotes,
or between double quotes when it holds a single quote and no double one.  Inside, the backslash
and the quote in use are escaped, and so is every character with no visible form.

* `quote`: characters above ASCII stand as themselves when they are printable.
* `quoteCodes`: the same for a text given by its code points.
* `quoteAscii`: characters above ASCII are always escaped.
-/

namespace Rebalance
namespace Text

/-- The hexadecimal digit of a value below sixteen. -/
def hexDigit (n : Nat) : Char :=
  if n < 10 then Char.ofNat (0x30 + n) else Char.ofNat (0x57 + n)

/-- A number as exactly `width` hexadecimal digits. -/
def hexFixed : Nat → Nat → List Char
  | 0, _ => []
  | width + 1, n => hexFixed width (n / 16) ++ [hexDigit (n % 16)]

/-- The shortest of the three numeric escapes that holds a code point. -/
def escapeCode (n : Nat) : List Char :=
  if n ≤ 0xff then '\\' :: 'x' :: hexFixed 2 n
  else if n ≤ 0xffff then '\\' :: 'u' :: hexFixed 4 n
  else '\\' :: 'U' :: hexFixed 8 n

/-- The quote mark for a text. -/
def quoteMark (cs : List Char) : Char :=
  if cs.contains '\x27' && !cs.contains '"' then '"' else '\x27'

/-- One character inside quotes, where `plain` says which characters stand as themselves. -/
def quoteChar (plain : Char → Bool) (mark c : Char) : List Char :=
  if c = mark ∨ c = '\\' then ['\\', c]
  else if c = '\t' then ['\\', 't']
  else if c = '\n' then ['\\', 'n']
  else if c = '\r' then ['\\', 'r']
  else if plain c then [c]
  else escapeCode c.toNat

/-- Code points between quotes.  Surrogates are escaped. -/
def quoteWith (plain : Char → Bool) (codes : List Nat) : String :=
  let mark := quoteMark (codes.map Char.ofNat)
  let shown (code : Nat) : List Char :=
    if isSurrogate code then escapeCode code else quoteChar plain mark (Char.ofNat code)
  String.ofList (mark :: (codes.flatMap shown ++ [mark]))

/-- A text given by its code points between quotes, printable characters of every script shown as
themselves. -/
def quoteCodes (codes : List Nat) : String :=
  quoteWith isPrintable codes

/-- A text between quotes, printable characters of every script shown as themselves. -/
def quote (s : String) : String :=
  quoteCodes (codes s)

/-- A text between quotes, in ASCII. -/
def quoteAscii (s : String) : String :=
  quoteWith (fun c => isPrintable c && decide (c.toNat < 0x80)) (codes s)

end Text
end Rebalance
