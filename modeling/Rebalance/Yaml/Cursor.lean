import Rebalance.Yaml.Fault

/-!
# Places in a YAML text

A place in a YAML text: the characters still to come, and where the first of them stands.  The end
of the text counts as a blank.
-/

namespace Rebalance
namespace Yaml

/-- Whether a character may stand in a text at all. -/
def isAllowed (c : Char) : Bool :=
  let n := c.toNat
  decide (n = 0x9 ∨ n = 0xa ∨ n = 0xd ∨ (0x20 ≤ n ∧ n ≤ 0x7e) ∨ n = 0x85
    ∨ (0xa0 ≤ n ∧ n ≤ 0xd7ff) ∨ (0xe000 ≤ n ∧ n ≤ 0xfffd) ∨ 0x10000 ≤ n)

/-- Whether a character ends a line. -/
def isBreak (c : Char) : Bool :=
  let n := c.toNat
  decide (n = 0xa ∨ n = 0xd ∨ n = 0x85 ∨ n = 0x2028 ∨ n = 0x2029)

/-- Whether a character is a space or a tab. -/
def isGap (c : Char) : Bool :=
  c == ' ' || c == '\t'

/-- Whether the next character, or the end of the text, ends a line. -/
def endsLine : Option Char → Bool
  | none => true
  | some c => isBreak c

/-- Whether the next character, or the end of the text, is a space or ends a line. -/
def isSpaceOrEnd : Option Char → Bool
  | none => true
  | some c => c == ' ' || isBreak c

/-- Whether the next character, or the end of the text, is a space, a tab or ends a line. -/
def isBlankOrEnd : Option Char → Bool
  | none => true
  | some c => isGap c || isBreak c

/-- The characters to come, how many have gone by, and the line and column of the next one. -/
structure Cursor where
  rest : List Char
  index : Nat
  line : Nat
  column : Nat
deriving DecidableEq, Repr

namespace Cursor

/-- The start of a text. -/
def start (cs : List Char) : Cursor :=
  ⟨cs, 0, 0, 0⟩

/-- The next character. -/
def head? (p : Cursor) : Option Char :=
  p.rest.head?

/-- The character after the next one. -/
def second? (p : Cursor) : Option Char :=
  (p.rest.drop 1).head?

/-- One character on.  A byte order mark takes no column. -/
def next (p : Cursor) : Cursor :=
  match p.rest with
  | [] => p
  | c :: rest =>
    if isBreak c ∧ ¬(c = '\r' ∧ rest.head? = some '\n') then
      ⟨rest, p.index + 1, p.line + 1, 0⟩
    else if c.toNat = 0xfeff then ⟨rest, p.index + 1, p.line, p.column⟩
    else ⟨rest, p.index + 1, p.line, p.column + 1⟩

/-- Some characters on. -/
def advance : Nat → Cursor → Cursor
  | 0, p => p
  | n + 1, p => advance n p.next

/-- The characters of a class at the head of the text, and the place after them. -/
def takeWhile (f : Char → Bool) (p : Cursor) : List Char × Cursor :=
  let cs := p.rest.takeWhile f
  (cs, p.advance cs.length)

/-- The place after the characters of a class. -/
def skipWhile (f : Char → Bool) (p : Cursor) : Cursor :=
  (p.takeWhile f).2

/-- The place after spaces. -/
def skipSpaces (p : Cursor) : Cursor :=
  p.skipWhile (· == ' ')

/-- The place after a comment, if one begins here. -/
def skipComment (p : Cursor) : Cursor :=
  if p.head? = some '#' then p.skipWhile fun c => !isBreak c else p

/-- A line break at the head of the text, as the text it stands for, and the place after it. -/
def takeBreak (p : Cursor) : List Char × Cursor :=
  match p.rest with
  | '\r' :: '\n' :: _ => (['\n'], p.advance 2)
  | c :: _ =>
    if isBreak c then (if 0x2028 ≤ c.toNat then ([c], p.next) else (['\n'], p.next))
    else ([], p)
  | [] => ([], p)

/-- Whether three equal characters stand here with a blank after them. -/
def hasMark (c : Char) (p : Cursor) : Bool :=
  match p.rest with
  | a :: b :: d :: rest => a == c && b == c && d == c && isBlankOrEnd rest.head?
  | _ => false

/-- Whether a mark between documents stands here. -/
def hasDocumentMark (p : Cursor) : Bool :=
  p.hasMark '-' || p.hasMark '.'

end Cursor

/-- Whether a character may stand in the name of an anchor or a directive. -/
def isNameChar (c : Char) : Bool :=
  c.isAlphanum || c == '-' || c == '_'

end Yaml
end Rebalance
