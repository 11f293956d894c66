import Rebalance.Decimal.Numeral
import Rebalance.Text.Classes
import Rebalance.Text.Utf8
import Rebalance.Yaml.Cursor
import Rebalance.Yaml.Token

/-!
# The longer tokens of a YAML text

Reading the longer tokens: directives, names, tags, and the five styles of scalars.

* Quoted scalars fold their line breaks; a double-quoted one also has escapes.
* Block scalars keep their lines or fold them, and end where the indentation ends.
* Plain scalars end at a comment, at a colon with a blank after it, and inside brackets at the
  marks of the surrounding collection.
-/

namespace Rebalance
namespace Yaml

/-- A token and the place after it. -/
abbrev Read (α : Type) := Except Fault (α × Cursor)

/-- The greatest code point. -/
def greatestCode : Nat :=
  0x10ffff

/-! ## Names, tags and directives -/

/-- Reads a name that is not empty. -/
def readName (p : Cursor) : Read (List Char) :=
  let (name, p) := p.takeWhile isNameChar
  if name.isEmpty then .error .malformed else .ok (name, p)

/-- Reads the name after `&` or `*`. -/
def readAnchor (p : Cursor) : Read (List Char) :=
  match readName p.next with
  | .error e => .error e
  | .ok (name, p) =>
    if isBlankOrEnd p.head? || (p.head?.any fun c => "?:,]\x7d%@`".toList.contains c) then
      .ok (name, p)
    else .error .malformed

/-- Whether a character may stand in a tag. -/
def isTagChar (c : Char) : Bool :=
  c.isAlphanum || "-;/?:@&=+$,_.!~*'()[]".toList.contains c

/-- Reads the bytes of `%`-escapes, with fuel for the characters to come. -/
def readEscapedBytes : (fuel : Nat) → Cursor → Read (List Nat)
  | 0, p => .ok ([], p)
  | fuel + 1, p =>
    match p.rest with
    | '%' :: a :: b :: _ =>
      match Text.hexValue? a, Text.hexValue? b with
      | some a, some b =>
        (readEscapedBytes fuel (p.advance 3)).map fun (bs, p) => ((a * 16 + b) :: bs, p)
      | _, _ => .error .malformed
    | '%' :: _ => .error .malformed
    | _ => .ok ([], p)

/-- Reads the pieces of a tag, with fuel for the characters to come. -/
def readTagPieces : (fuel : Nat) → Cursor → Read (List Char)
  | 0, p => .ok ([], p)
  | fuel + 1, p =>
    let (cs, p) := p.takeWhile isTagChar
    if p.head? = some '%' then
      match readEscapedBytes p.rest.length p with
      | .error e => .error e
      | .ok (bs, p) =>
        match Text.decode? bs with
        | .error _ => .error .malformed
        | .ok ds => (readTagPieces fuel p).map fun (more, p) => (cs ++ (ds ++ more), p)
    else .ok (cs, p)

/-- Reads the text of a tag, which is not empty. -/
def readTagText (p : Cursor) : Read (List Char) :=
  let begun := p.head?.any fun c => isTagChar c || c == '%'
  if begun then readTagPieces (p.rest.length + 1) p else .error .malformed

/-- Reads a tag handle: `!`, or a name between two of them. -/
def readHandle (p : Cursor) : Read (List Char) :=
  if p.head? ≠ some '!' then .error .malformed
  else
    let (name, q) := p.next.takeWhile isNameChar
    if p.second? = some ' ' then .ok (['!'], p.next)
    else if q.head? = some '!' then .ok ('!' :: (name ++ ['!']), q.next)
    else .error .malformed

/-- Whether a second exclamation mark comes before the next blank. -/
def hasHandle (p : Cursor) : Bool :=
  (p.next.rest.takeWhile fun c => !isSpaceOrEnd (some c)).contains '!'

/-- Reads a tag without a check of what follows it. -/
def readBareTag (p : Cursor) : Read Tag :=
  if p.second? = some '<' then
    match readTagText (p.advance 2) with
    | .error e => .error e
    | .ok (text, p) =>
      if p.head? = some '>' then .ok (⟨none, text⟩, p.next) else .error .malformed
  else if isBlankOrEnd p.second? then .ok (⟨none, ['!']⟩, p.next)
  else
    match (if hasHandle p then readHandle p else .ok (['!'], p.next)) with
    | .error e => .error e
    | .ok (handle, p) => (readTagText p).map fun (text, p) => (⟨some handle, text⟩, p)

/-- Reads a tag, which a blank has to follow. -/
def readTag (p : Cursor) : Read Tag :=
  match readBareTag p with
  | .error e => .error e
  | .ok (t, p) => if isSpaceOrEnd p.head? then .ok (t, p) else .error .malformed

/-- Reads a whole number of a version. -/
def readVersionPart (p : Cursor) : Read Nat :=
  let (ds, p) := p.takeWhile Char.isDigit
  if ds.isEmpty then .error .malformed
  else if Decimal.digitLimit < ds.length then .error (.tooManyDigits ds.length)
  else .ok (ds.foldl (fun n c => n * 10 + (c.toNat - '0'.toNat)) 0, p)

/-- Reads the value of a version directive. -/
def readVersion (p : Cursor) : Read Token :=
  match readVersionPart p.skipSpaces with
  | .error e => .error e
  | .ok (major, p) =>
    if p.head? ≠ some '.' then .error .malformed
    else
      match readVersionPart p.next with
      | .error e => .error e
      | .ok (_, p) => if isSpaceOrEnd p.head? then .ok (.version major, p) else .error .malformed

/-- Reads the value of a tag directive. -/
def readTagDirective (p : Cursor) : Read Token :=
  match readHandle p.skipSpaces with
  | .error e => .error e
  | .ok (handle, p) =>
    if p.head? ≠ some ' ' then .error .malformed
    else
      match readTagText p.skipSpaces with
      | .error e => .error e
      | .ok (start, p) =>
        if isSpaceOrEnd p.head? then .ok (.tagHandle handle start, p) else .error .malformed

/-- Reads the rest of a line on which only a comment may stand. -/
def readLineEnd (p : Cursor) : Except Fault Cursor :=
  let p := p.skipSpaces.skipComment
  if endsLine p.head? then .ok p.takeBreak.2 else .error .malformed

/-- Reads a directive. -/
def readDirective (p : Cursor) : Read Token :=
  match readName p.next with
  | .error e => .error e
  | .ok (name, p) =>
    if !isSpaceOrEnd p.head? then .error .malformed
    else
      match (if name = "YAML".toList then readVersion p
        else if name = "TAG".toList then readTagDirective p
        else .ok (.directive, p.skipWhile fun c => !isBreak c)) with
      | .error e => .error e
      | .ok (t, p) => (readLineEnd p).map fun p => (t, p)

/-! ## Quoted scalars -/

/-- The text of a one-letter escape. -/
def escape? (c : Char) : Option Char :=
  if c = '0' then some (Char.ofNat 0)
  else if c = 'a' then some '\x07'
  else if c = 'b' then some '\x08'
  else if c = 't' ∨ c = '\t' then some '\t'
  else if c = 'n' then some '\n'
  else if c = 'v' then some '\x0b'
  else if c = 'f' then some '\x0c'
  else if c = 'r' then some '\r'
  else if c = 'e' then some '\x1b'
  else if c = ' ' ∨ c = '"' ∨ c = '\\' ∨ c = '/' then some c
  else if c = 'N' then some (Char.ofNat 0x85)
  else if c = '_' then some (Char.ofNat 0xa0)
  else if c = 'L' then some (Char.ofNat 0x2028)
  else if c = 'P' then some (Char.ofNat 0x2029)
  else none

/-- How many digits a numeric escape has. -/
def escapeLength? (c : Char) : Option Nat :=
  if c = 'x' then some 2 else if c = 'u' then some 4 else if c = 'U' then some 8 else none

/-- The line breaks at the head of the text, with gaps around them, up to other text.  A mark
between documents is not allowed. -/
def readBreaks : (fuel : Nat) → Cursor → Read (List Char)
  | 0, p => .ok ([], p)
  | fuel + 1, p =>
    if p.hasDocumentMark then .error .malformed
    else
      let p := p.skipWhile isGap
      if p.head?.any isBreak then
        let (b, p) := p.takeBreak
        (readBreaks fuel p).map fun (more, p) => (b ++ more, p)
      else .ok ([], p)

/-- A run of gaps and line breaks inside a quoted scalar.  Between two lines one break is a space,
and more breaks are one break less. -/
def readFold (p : Cursor) : Read (List Char) :=
  let (gaps, p) := p.takeWhile isGap
  match p.head? with
  | none => .error .cutOff
  | some c =>
    if isBreak c then
      let (b, p) := p.takeBreak
      (readBreaks (p.rest.length + 1) p).map fun (more, p) =>
        if b ≠ ['\n'] then (b ++ more, p)
        else if more.isEmpty then ([' '], p)
        else (more, p)
    else .ok (gaps, p)

/-- The code points of a text. -/
def codesOf (cs : List Char) : List Nat :=
  cs.map Char.toNat

/-- Reads an escape after its backslash. -/
def readEscape (p : Cursor) : Read (List Nat) :=
  match p.head? with
  | none => .error .cutOff
  | some c =>
    match escape? c with
    | some d => .ok ([d.toNat], p.next)
    | none =>
      match escapeLength? c with
      | some n =>
        let ds := p.next.rest.take n
        match ds.foldlM (fun code d => (Text.hexValue? d).map (code * 16 + ·)) 0 with
        | none => .error .malformed
        | some code =>
          if ds.length < n then .error .malformed
          else if 2 ^ 31 ≤ code then .error .codeTooLong
          else if greatestCode < code then .error .codeTooLarge
          else .ok ([code], p.advance (n + 1))
      | none =>
        if isBreak c then
          let p := p.takeBreak.2
          (readBreaks (p.rest.length + 1) p).map fun (more, p) => (codesOf more, p)
        else .error .malformed

/-- Reads the inside of a quoted scalar and its closing quote, with fuel for the characters. -/
def readQuoted (isDouble : Bool) : (fuel : Nat) → Cursor → Read (List Nat)
  | 0, _ => .error .malformed
  | fuel + 1, p =>
    let more (codes : List Nat) (p : Cursor) : Read (List Nat) :=
      (readQuoted isDouble fuel p).map fun (rest, p) => (codes ++ rest, p)
    match p.rest with
    | [] => .error .cutOff
    | c :: rest =>
      if !isDouble && c == '\x27' then
        if rest.head? = some '\x27' then more [c.toNat] (p.advance 2) else .ok ([], p.next)
      else if isDouble && c == '"' then .ok ([], p.next)
      else if isDouble && c == '\\' then
        match readEscape p.next with
        | .error e => .error e
        | .ok (codes, p) => more codes p
      else if isGap c || isBreak c then
        match readFold p with
        | .error e => .error e
        | .ok (cs, p) => more (codesOf cs) p
      else more [c.toNat] p.next

/-! ## Block scalars -/

/-- What becomes of the line breaks at the end of a block scalar. -/
inductive Chomp
  | clip
  | keep
  | strip
deriving DecidableEq, Repr

/-- The chomping that a sign asks for. -/
def chompOf? (c : Char) : Option Chomp :=
  if c = '+' then some .keep else if c = '-' then some .strip else none

/-- An indentation digit at the head of the text; zero is not allowed. -/
def readIncrement (p : Cursor) : Read (Option Nat) :=
  match p.head? with
  | some c =>
    if c = '0' then .error .malformed
    else if c.isDigit then .ok (some (c.toNat - '0'.toNat), p.next)
    else .ok (none, p)
  | none => .ok (none, p)

/-- Reads the signs after `|` or `>`: chomping and indentation in either order. -/
def readBlockHeader (p : Cursor) : Read (Chomp × Option Nat) :=
  match p.head?.bind chompOf? with
  | some chomp => (readIncrement p.next).map fun (n, p) => ((chomp, n), p)
  | none =>
    match readIncrement p with
    | .error e => .error e
    | .ok (n, p) =>
      match n, p.head?.bind chompOf? with
      | some _, some chomp => .ok ((chomp, n), p.next)
      | _, _ => .ok ((.clip, n), p)

/-- The line breaks before a block scalar whose indentation is not given, and the widest
indentation among them, with fuel for the characters. -/
def readFirstBreaks : (fuel widest : Nat) → Cursor → List (List Char) × Nat × Cursor
  | 0, widest, p => ([], widest, p)
  | fuel + 1, widest, p =>
    match p.head? with
    | none => ([], widest, p)
    | some c =>
      if c = ' ' then readFirstBreaks fuel (max widest p.next.column) p.next
      else if isBreak c then
        let (b, p) := p.takeBreak
        let (more, widest, p) := readFirstBreaks fuel widest p
        (b :: more, widest, p)
      else ([], widest, p)

/-- The place after the spaces of an indentation, with fuel for them. -/
def skipIndent (indent : Nat) : (fuel : Nat) → Cursor → Cursor
  | 0, p => p
  | fuel + 1, p =>
    if p.column < indent ∧ p.head? = some ' ' then skipIndent indent fuel p.next else p

/-- The line breaks between the lines of a block scalar, with fuel for the characters. -/
def readInnerBreaks (indent : Nat) : (fuel : Nat) → Cursor → List (List Char) × Cursor
  | 0, p => ([], p)
  | fuel + 1, p =>
    let p := skipIndent indent indent p
    if p.head?.any isBreak then
      let (b, p) := p.takeBreak
      let (more, p) := readInnerBreaks indent fuel p
      (b :: more, p)
    else ([], p)

/-- Reads the lines of a block scalar, with fuel for them.  `breaks` are the empty lines before the
next line.  The answer is the text, the last line break, and the empty lines after it. -/
def readBlockLines (isFolded : Bool) (indent : Nat) :
    (fuel : Nat) → List (List Char) → Cursor → List Char × List Char × List (List Char) × Cursor
  | 0, breaks, p => ([], [], breaks, p)
  | fuel + 1, breaks, p =>
    if p.column = indent ∧ p.head?.isSome then
      let startsWithGap := p.head?.any isGap
      let (line, p) := p.takeWhile fun c => !isBreak c
      let (b, p) := p.takeBreak
      let (inner, p) := readInnerBreaks indent (p.rest.length + 1) p
      let here := breaks.flatten ++ line
      if p.column = indent ∧ p.head?.isSome then
        let glue :=
          if isFolded ∧ b = ['\n'] ∧ !startsWithGap ∧ !(p.head?.any isGap) then
            (if inner.isEmpty then [' '] else [])
          else b
        let (more, last, tail, p) := readBlockLines isFolded indent fuel inner p
        (here ++ (glue ++ more), last, tail, p)
      else (here, b, inner, p)
    else ([], [], breaks, p)

/-- Reads a block scalar inside a block of the given indentation. -/
def readBlock (outer : Int) (p : Cursor) : Read (List Char) :=
  let isFolded := p.head? = some '>'
  match readBlockHeader p.next with
  | .error e => .error e
  | .ok ((chomp, increment), p) =>
    if !isSpaceOrEnd p.head? then .error .malformed
    else
      match readLineEnd p with
      | .error e => .error e
      | .ok p =>
        let least := (max (outer + 1) 1).toNat
        let fuel := p.rest.length + 1
        let (indent, breaks, p) :=
          match increment with
          | some n =>
            let indent := least + n - 1
            let (breaks, p) := readInnerBreaks indent fuel p
            (indent, breaks, p)
          | none =>
            let (breaks, widest, p) := readFirstBreaks fuel 0 p
            (max least widest, breaks, p)
        let (text, last, tail, p) := readBlockLines isFolded indent fuel breaks p
        let ending :=
          match chomp with
          | .strip => []
          | .clip => last
          | .keep => last ++ tail.flatten
        .ok (text ++ ending, p)

/-! ## Plain scalars -/

/-- Whether a plain scalar ends before the next character. -/
def endsPlain (inFlow : Bool) : List Char → Bool
  | [] => true
  | c :: rest =>
    isGap c || isBreak c
      || (c == ':' && (isBlankOrEnd rest.head?
        || (inFlow && rest.head?.any fun d => ",[]\x7b\x7d".toList.contains d)))
      || (inFlow && ",?[]\x7b\x7d".toList.contains c)

/-- How many characters of a plain scalar stand before the next gap or end. -/
def plainLength (inFlow : Bool) : List Char → Nat
  | [] => 0
  | c :: rest => if endsPlain inFlow (c :: rest) then 0 else plainLength inFlow rest + 1

/-- The line breaks after a line of a plain scalar, up to other text, with fuel for the
characters; `none` when a mark between documents follows. -/
def readPlainBreaks : (fuel : Nat) → Cursor → Option (List Char) × Cursor
  | 0, p => (some [], p)
  | fuel + 1, p =>
    match p.head? with
    | none => (some [], p)
    | some c =>
      if c = ' ' then readPlainBreaks fuel p.next
      else if isBreak c then
        let (b, p) := p.takeBreak
        if p.hasDocumentMark then (none, p)
        else
          let (more, p) := readPlainBreaks fuel p
          (more.map (b ++ ·), p)
      else (some [], p)

/-- What stands between two words of a plain scalar, whether a line ended there, and the place
after it; nothing when the scalar ends. -/
def readPlainGap (p : Cursor) : List Char × Bool × Cursor :=
  let (gaps, p) := p.takeWhile (· == ' ')
  if p.head?.any isBreak then
    let (b, p) := p.takeBreak
    if p.hasDocumentMark then ([], true, p)
    else
      match readPlainBreaks (p.rest.length + 1) p with
      | (none, p) => ([], true, p)
      | (some more, p) =>
        if b ≠ ['\n'] then (b ++ more, true, p)
        else if more.isEmpty then ([' '], true, p)
        else (more, true, p)
  else (gaps, false, p)

/-- Reads the words of a plain scalar, with fuel for them.  `gap` stands before the next word, and
`broken` says whether the scalar has ended on another line than its last word. -/
def readPlainWords (inFlow : Bool) (indent : Int) :
    (fuel : Nat) → (gap : List Char) → (broken : Bool) → Cursor → List Char × Bool × Cursor
  | 0, _, broken, p => ([], broken, p)
  | fuel + 1, gap, broken, p =>
    let n := if p.head? = some '#' then 0 else plainLength inFlow p.rest
    if n = 0 then ([], broken, p)
    else
      let word := p.rest.take n
      let (next, lineEnded, p) := readPlainGap (p.advance n)
      if next.isEmpty ∨ p.head? = some '#' ∨ (!inFlow ∧ (p.column : Int) < indent) then
        (gap ++ word, lineEnded, p)
      else
        let (more, broken, p) := readPlainWords inFlow indent fuel next lineEnded p
        (gap ++ (word ++ more), broken, p)

/-- Reads a plain scalar inside a block of the given indentation.  The answer says whether the
scalar was left on another line than its last word. -/
def readPlain (inFlow : Bool) (outer : Int) (p : Cursor) : List Char × Bool × Cursor :=
  readPlainWords inFlow (outer + 1) (p.rest.length + 1) [] false p

end Yaml
end Rebalance
