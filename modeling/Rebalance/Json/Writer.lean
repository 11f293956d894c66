import Rebalance.Data
import Rebalance.Decimal.Layout
import Rebalance.Text.Quoted

/-!
# Writing JSON texts

Writing documents as JSON texts, two spaces deeper for each level.  Characters above ASCII stand as
themselves and control characters are escaped.  Whatever has no JSON form, an infinity or a NaN
among the numbers, is written as `null`.  A surrogate without a partner cannot be written at all.
-/

namespace Rebalance
namespace Json

/-- One character inside a written string. -/
def writeChar (c : Char) : List Char :=
  if c = '"' then ['\\', '"']
  else if c = '\\' then ['\\', '\\']
  else if c = '\x08' then ['\\', 'b']
  else if c = '\x0c' then ['\\', 'f']
  else if c = '\n' then ['\\', 'n']
  else if c = '\r' then ['\\', 'r']
  else if c = '\t' then ['\\', 't']
  else if c.toNat < 0x20 then '\\' :: 'u' :: Text.hexFixed 4 c.toNat
  else [c]

/-- A written string. -/
def writeText (cs : List Char) : List Char :=
  '"' :: (cs.flatMap writeChar ++ ['"'])

/-- A written number. -/
def writeFloat (x : Float) : List Char :=
  (Decimal.storedText? x).getD "null".toList

/-- A new line at a depth. -/
def newLine (depth : Nat) : List Char :=
  '\n' :: List.replicate (2 * depth) ' '

mutual

/-- A written value inside `depth` containers. -/
def write (depth : Nat) : Data → List Char
  | .bool b => if b then "true".toList else "false".toList
  | .int n => (Decimal.intText n).toList
  | .float x => writeFloat x
  | .text s => writeText s.toList
  | .list [] => ['[', ']']
  | .list (d :: ds) =>
    '[' :: (newLine (depth + 1) ++ (write (depth + 1) d
      ++ (writeItems (depth + 1) ds ++ (newLine depth ++ [']']))))
  | .map [] => ['\x7b', '\x7d']
  | .map ((k, v) :: es) =>
    '\x7b' :: (newLine (depth + 1) ++ (write (depth + 1) k ++ (':' :: ' ' :: (write (depth + 1) v
      ++ (writeEntries (depth + 1) es ++ (newLine depth ++ ['\x7d']))))))
  | _ => "null".toList

/-- The written items after the first. -/
def writeItems (depth : Nat) : List Data → List Char
  | [] => []
  | d :: ds => ',' :: (newLine depth ++ (write depth d ++ writeItems depth ds))

/-- The written entries after the first. -/
def writeEntries (depth : Nat) : List (Data × Data) → List Char
  | [] => []
  | (k, v) :: es =>
    ',' :: (newLine depth ++ (write depth k ++ (':' :: ' ' :: (write depth v
      ++ writeEntries depth es))))

end

mutual

/-- The first text in a document that cannot be written. -/
def unwritten? : Data → Option String
  | .text s => if Text.hasSurrogate s then some s else none
  | .list ds => unwrittenItem? ds
  | .map es => unwrittenEntry? es
  | _ => none

/-- The first text among items that cannot be written. -/
def unwrittenItem? : List Data → Option String
  | [] => none
  | d :: ds =>
    match unwritten? d with
    | some s => some s
    | none => unwrittenItem? ds

/-- The first text among entries that cannot be written. -/
def unwrittenEntry? : List (Data × Data) → Option String
  | [] => none
  | (k, v) :: es =>
    match unwritten? k, unwritten? v with
    | some s, _ => some s
    | none, some s => some s
    | none, none => unwrittenEntry? es

end

/-- The text of a document, or the first text in it that cannot be written. -/
def document (d : Data) : Except String String :=
  match unwritten? d with
  | some s => .error s
  | none => .ok (String.ofList (write 0 d))

end Json
end Rebalance
