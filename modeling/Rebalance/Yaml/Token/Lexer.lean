import Rebalance.Yaml.Token.Scalar

/-!
# Splitting a YAML text into tokens

A key shows itself as a key only at the colon after it, so the lexer remembers where a key may have
begun, one place for each level of brackets, and puts the key token, and the token that opens a
block mapping, in front of what it has read since.

The lexer stops at the first fault; the tokens that are certain by then stay, because one of them
may already be out of place.
-/

namespace Rebalance
namespace Yaml

/-- A place where a key may have begun: the number of its first token, and where it stands.  A key
at the indentation of its block is required to be one. -/
structure KeyPlace where
  number : Nat
  required : Bool
  index : Nat
  line : Nat
  column : Nat
deriving DecidableEq, Repr

/-- The state of the lexer.  `tokens` holds the last token first, and `keys` the place of a
possible key for each level of brackets. -/
structure Lexer where
  cursor : Cursor
  flow : Nat
  indent : Int
  outer : List Int
  allowKey : Bool
  keys : List (Nat × KeyPlace)
  count : Nat
  tokens : List Token
  finished : Bool
deriving DecidableEq, Repr

namespace Lexer

/-- The lexer at the start of a text. -/
def start (cs : List Char) : Lexer :=
  { cursor := .start cs, flow := 0, indent := -1, outer := [], allowKey := true, keys := [],
    count := 0, tokens := [], finished := false }

/-- One more token. -/
def push (l : Lexer) (t : Token) : Lexer :=
  { l with tokens := t :: l.tokens, count := l.count + 1 }

/-- A token put in front of the one with a number. -/
def insertAt (l : Lexer) (number : Nat) (t : Token) : Lexer :=
  let later := l.count - number
  { l with tokens := l.tokens.take later ++ t :: l.tokens.drop later, count := l.count + 1 }

/-- Moves the cursor. -/
def moveTo (l : Lexer) (p : Cursor) : Lexer :=
  { l with cursor := p }

/-- The place of a possible key on the current level. -/
def key? (l : Lexer) : Option KeyPlace :=
  (l.keys.find? fun k => k.1 == l.flow).map Prod.snd

/-- Forgets the possible key of the current level. -/
def dropKey (l : Lexer) : Lexer :=
  { l with keys := l.keys.filter fun k => k.1 != l.flow }

/-- Forgets the possible key of the current level, which must not be required. -/
def removeKey (l : Lexer) : Except Fault Lexer :=
  if l.key?.any KeyPlace.required then .error .malformed else .ok l.dropKey

/-- Remembers that a key may begin here. -/
def saveKey (l : Lexer) : Except Fault Lexer :=
  if l.allowKey then
    l.removeKey.map fun m =>
      let p := m.cursor
      let required := m.flow = 0 ∧ m.indent = p.column
      { m with keys := (m.flow, ⟨m.count, required, p.index, p.line, p.column⟩) :: m.keys }
  else .ok l

/-- Whether a place is too far back for a key: on another line, or over 1024 characters away. -/
def isStale (p : Cursor) (k : KeyPlace) : Bool :=
  k.line != p.line || decide (1024 + k.index < p.index)

/-- Forgets the keys that are too far back, none of which may be required. -/
def dropStale (l : Lexer) : Except Fault Lexer :=
  if l.keys.any fun k => isStale l.cursor k.2 && k.2.required then .error .malformed
  else .ok { l with keys := l.keys.filter fun k => !isStale l.cursor k.2 }

/-- Closes blocks until the indentation is no more than a column. -/
def unwindLoop (column : Int) : List Int → Lexer → Lexer
  | [], l => l
  | i :: rest, l =>
    if column < l.indent then
      unwindLoop column rest { l.push .blockEnd with indent := i, outer := rest }
    else l

/-- Closes the blocks that end before a column.  Inside brackets there are no blocks. -/
def unwind (l : Lexer) (column : Int) : Lexer :=
  if l.flow = 0 then unwindLoop column l.outer l else l

/-- Whether a column opens a new block. -/
def deepens (l : Lexer) (column : Nat) : Bool :=
  l.flow == 0 && decide (l.indent < column)

/-- Makes a column the indentation. -/
def indentTo (l : Lexer) (column : Nat) : Lexer :=
  { l with indent := column, outer := l.indent :: l.outer }

/-- The place of the next token: after spaces, comments and line ends, with fuel for the
characters. -/
def skipLoop : (fuel : Nat) → Lexer → Lexer
  | 0, l => l
  | fuel + 1, l =>
    let p := l.cursor.skipSpaces.skipComment
    if p.head?.any isBreak then
      skipLoop fuel
        { l with cursor := p.takeBreak.2, allowKey := if l.flow = 0 then true else l.allowKey }
    else l.moveTo p

/-- The place of the next token. -/
def skip (l : Lexer) : Lexer :=
  let l :=
    if l.cursor.index = 0 ∧ l.cursor.head? = some (Char.ofNat 0xfeff) then
      l.moveTo l.cursor.next
    else l
  skipLoop (l.cursor.rest.length + 1) l

/-- The end of the text. -/
def finish (l : Lexer) : Except Fault Lexer :=
  (l.unwind (-1)).removeKey.map fun l =>
    { l with allowKey := false, keys := [], finished := true }

/-- A directive. -/
def directive (l : Lexer) : Except Fault Lexer := do
  let l ← (l.unwind (-1)).removeKey
  let (t, p) ← readDirective l.cursor
  return { (l.push t).moveTo p with allowKey := false }

/-- A mark between documents. -/
def documentMark (l : Lexer) (t : Token) : Except Fault Lexer := do
  let l ← (l.unwind (-1)).removeKey
  return { (l.push t).moveTo (l.cursor.advance 3) with allowKey := false }

/-- An opening bracket. -/
def openBracket (l : Lexer) (t : Token) : Except Fault Lexer := do
  let l ← l.saveKey
  return { (l.push t).moveTo l.cursor.next with flow := l.flow + 1, allowKey := true }

/-- A closing bracket. -/
def closeBracket (l : Lexer) (t : Token) : Except Fault Lexer := do
  let l ← l.removeKey
  if l.flow = 0 then .error .malformed
  else return { (l.push t).moveTo l.cursor.next with flow := l.flow - 1, allowKey := false }

/-- A comma between brackets. -/
def comma (l : Lexer) : Except Fault Lexer := do
  let l ← { l with allowKey := true }.removeKey
  return (l.push .comma).moveTo l.cursor.next

/-- Opens a block at the cursor if the cursor stands deeper than the block around it. -/
def openBlock (l : Lexer) (t : Token) : Lexer :=
  let column := l.cursor.column
  if l.deepens column then (l.indentTo column).push t else l

/-- The mark of an item of a block. -/
def blockEntry (l : Lexer) : Except Fault Lexer := do
  if l.flow = 0 ∧ !l.allowKey then .error .malformed
  else
    let l ← { l.openBlock .blockSequence with allowKey := true }.removeKey
    return (l.push .entry).moveTo l.cursor.next

/-- The mark of a key. -/
def keyMark (l : Lexer) : Except Fault Lexer := do
  if l.flow = 0 ∧ !l.allowKey then .error .malformed
  else
    let l ← { l.openBlock .blockMapping with allowKey := l.flow == 0 }.removeKey
    return (l.push .key).moveTo l.cursor.next

/-- The mark of a value: after a key that has no mark of its own, or on its own. -/
def valueMark (l : Lexer) : Except Fault Lexer := do
  match l.key? with
  | some k =>
    let l := l.dropKey.insertAt k.number .key
    let l :=
      if l.deepens k.column then (l.indentTo k.column).insertAt k.number .blockMapping else l
    return { (l.push .value).moveTo l.cursor.next with allowKey := false }
  | none =>
    if l.flow = 0 ∧ !l.allowKey then .error .malformed
    else
      let l ← { l.openBlock .blockMapping with allowKey := l.flow == 0 }.removeKey
      return (l.push .value).moveTo l.cursor.next

/-- A token that may begin a key and lets none begin after it. -/
def keyable (l : Lexer) (read : Cursor → Read Token) : Except Fault Lexer := do
  let l ← l.saveKey
  let (t, p) ← read l.cursor
  return { (l.push t).moveTo p with allowKey := false }

/-- A block scalar. -/
def blockScalar (l : Lexer) : Except Fault Lexer := do
  let l ← { l with allowKey := true }.removeKey
  let (text, p) ← readBlock l.indent l.cursor
  return (l.push (.scalar (codesOf text) false)).moveTo p

/-- A plain scalar. -/
def plainScalar (l : Lexer) : Except Fault Lexer := do
  let l ← l.saveKey
  let (text, broken, p) := readPlain (l.flow != 0) l.indent l.cursor
  return { (l.push (.scalar (codesOf text) true)).moveTo p with allowKey := broken }

/-- Reads a quoted scalar. -/
def quoted (isDouble : Bool) (p : Cursor) : Read Token :=
  (readQuoted isDouble (p.rest.length + 1) p.next).map fun (codes, p) => (.scalar codes false, p)

/-- Whether a plain scalar may begin with a character. -/
def startsPlain (inFlow : Bool) (c : Char) (next : Option Char) : Bool :=
  !(isGap c || isBreak c || "-?:,[]\x7b\x7d#&*!|>'\"%@`".toList.contains c)
    || (!isBlankOrEnd next && (c == '-' || (!inFlow && (c == '?' || c == ':'))))

/-- The next token, where the cursor stands on a character. -/
def token (l : Lexer) (c : Char) : Except Fault Lexer :=
  let p := l.cursor
  let next := p.second?
  let inFlow := l.flow != 0
  if c = '%' ∧ p.column = 0 then l.directive
  else if p.column = 0 ∧ p.hasMark '-' then l.documentMark .documentStart
  else if p.column = 0 ∧ p.hasMark '.' then l.documentMark .documentEnd
  else if c = '[' then l.openBracket .openList
  else if c = '\x7b' then l.openBracket .openMap
  else if c = ']' then l.closeBracket .closeList
  else if c = '\x7d' then l.closeBracket .closeMap
  else if c = ',' then l.comma
  else if c = '-' ∧ isBlankOrEnd next then l.blockEntry
  else if c = '?' ∧ (inFlow ∨ isBlankOrEnd next) then l.keyMark
  else if c = ':' ∧ (inFlow ∨ isBlankOrEnd next) then l.valueMark
  else if c = '*' then l.keyable fun p => (readAnchor p).map fun (n, p) => (.alias n, p)
  else if c = '&' then l.keyable fun p => (readAnchor p).map fun (n, p) => (.anchor n, p)
  else if c = '!' then l.keyable fun p => (readTag p).map fun (t, p) => (.tag t, p)
  else if (c = '|' ∨ c = '>') ∧ !inFlow then l.blockScalar
  else if c = '\x27' then l.keyable (quoted false)
  else if c = '"' then l.keyable (quoted true)
  else if startsPlain inFlow c next then l.plainScalar
  else .error .malformed

/-- The tokens that are certain: those before the first place where a key may still begin. -/
def certain (l : Lexer) : List Token :=
  l.tokens.reverse.take (l.keys.foldl (fun n k => min n k.2.number) l.count)

/-- Reads the next token at the cursor. -/
def step (l : Lexer) : Except Fault Lexer :=
  let l := l.unwind l.cursor.column
  match l.cursor.head? with
  | none => l.finish
  | some c => l.token c

/-- Whether the end of the text is next. -/
def atEnd (l : Lexer) : Bool :=
  match l.cursor.rest with
  | [] | [_] => true
  | _ => false

/-- The fault of a step in a text that ends in `ending`: where the text ends inside a token, what
would come next is at fault. -/
def faultAt (ending : Option Fault) : Fault → Fault
  | .cutOff => ending.getD .malformed
  | e => e

/-- Reads tokens to the end, or up to a fault, with fuel for them.  `ending` is the fault, if any,
of what follows the text, which shows once the end of the text is next. -/
def run (ending : Option Fault) : (fuel : Nat) → Lexer → List Token × Option Fault
  | 0, l => (l.certain, some .malformed)
  | fuel + 1, l =>
    if l.finished then (l.tokens.reverse, none)
    else if ending.isSome && l.skip.atEnd then (l.certain, ending)
    else
      match l.skip.dropStale with
      | .error e => (l.certain, some e)
      | .ok l =>
        match l.step with
        | .error e => (l.certain, some (faultAt ending e))
        | .ok next =>
          if ending.isSome && next.atEnd then (l.certain, ending) else run ending fuel next

end Lexer

/-- The tokens of a text, up to its first fault; `ending` is the fault, if any, of what follows
it. -/
def tokens (cs : List Char) (ending : Option Fault) : List Token × Option Fault :=
  (Lexer.start cs).run ending (cs.length + 2)

end Yaml
end Rebalance
