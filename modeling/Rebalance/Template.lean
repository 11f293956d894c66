import Rebalance.Template.Layout

/-!
# Name templates

A template is literal text with replacement fields in braces; a doubled brace is a brace of the
text.  The one name a field may use is `node`, whose value is a text.  A field may go on to parts
of the value (`[0]` is its first character, `.name` a member), may ask for a quoted form (`!r`, in
ASCII `!a`), and may end in a layout.  A layout may hold fields of its own, one level deep.

Fields are replaced from left to right, and the first fault is the answer.
-/

namespace Rebalance
namespace Template

/-- A replacement field: what is replaced, in which form, and its layout. -/
structure Field where
  name : List Char
  conversion : Option Char
  layout : List Char
deriving DecidableEq, Repr

/-! ## Finding the fields -/

/-- Reads the name of a field up to `}`, `:` or `!`, which is part of the answer.  Inside square
brackets these characters are not special. -/
def takeName (inBrackets : Bool) : List Char → Except Fault (List Char × Char × List Char)
  | [] => .error .malformed
  | c :: rest =>
    if inBrackets then
      (takeName (c ≠ ']') rest).map fun (name, stop, rest) => (c :: name, stop, rest)
    else if c = '\x7b' then .error .malformed
    else if c = '\x7d' ∨ c = ':' ∨ c = '!' then .ok ([], c, rest)
    else (takeName (c = '[') rest).map fun (name, stop, rest) => (c :: name, stop, rest)

/-- Reads a layout up to the brace that closes its field, `depth` inner fields deep. -/
def takeLayout (depth : Nat) : List Char → Except Fault (List Char × List Char)
  | [] => .error .malformed
  | c :: rest =>
    if c = '\x7d' then
      match depth with
      | 0 => .ok ([], rest)
      | depth + 1 => (takeLayout depth rest).map fun (spec, rest) => (c :: spec, rest)
    else
      let depth := if c = '\x7b' then depth + 1 else depth
      (takeLayout depth rest).map fun (spec, rest) => (c :: spec, rest)

/-- Reads a field after its opening brace. -/
def takeField (cs : List Char) : Except Fault (Field × List Char) :=
  match takeName false cs with
  | .error e => .error e
  | .ok (name, stop, rest) =>
    if stop = '\x7d' then .ok (⟨name, none, []⟩, rest)
    else if stop = ':' then
      (takeLayout 0 rest).map fun (spec, rest) => (⟨name, none, spec⟩, rest)
    else
      match rest with
      | [] => .error .malformed
      | conversion :: '\x7d' :: rest => .ok (⟨name, some conversion, []⟩, rest)
      | conversion :: ':' :: rest =>
        (takeLayout 0 rest).map fun (spec, rest) => (⟨name, some conversion, spec⟩, rest)
      | _ => .error .malformed

/-! ## The value of a field -/

/-- Follows `.name` and `[key]` steps from a value, at most `fuel` of them. -/
def steps : (fuel : Nat) → Value → List Char → Except Fault Value
  | _, v, [] => .ok v
  | 0, _, _ :: _ => .error .malformed
  | fuel + 1, v, c :: rest =>
    if c = '.' then
      let name := rest.takeWhile fun c => c ≠ '.' && c ≠ '['
      if name.isEmpty then .error .malformed
      else
        match v.member (String.ofList name) with
        | .error e => .error e
        | .ok v => steps fuel v (rest.dropWhile fun c => c ≠ '.' && c ≠ '[')
    else if c = '[' then
      let key := rest.takeWhile (· ≠ ']')
      match rest.dropWhile (· ≠ ']') with
      | [] => .error .malformed
      | _ :: rest =>
        if key.isEmpty then .error .malformed
        else
          match v.item key with
          | .error e => .error e
          | .ok v => steps fuel v rest
    else .error .malformed

/-- The value a field's name stands for. -/
def lookUp (node : List Char) (name : List Char) : Except Fault Value :=
  let first := name.takeWhile fun c => c ≠ '.' && c ≠ '['
  match index first with
  | .error e => .error e
  | .ok (some _) => .error .unknownIndex
  | .ok none =>
    if first.isEmpty then .error .unknownIndex
    else if first = "node".toList then
      steps name.length (.text node) (name.dropWhile fun c => c ≠ '.' && c ≠ '[')
    else .error .unknownName

/-! ## The whole template -/

/-- The text of a template from some place on: the characters in front of the next field, and the
code points from that field on.  Texts of fields are put in by their code points, since a mark that
one of them ends with would count in front of the next. -/
structure Expansion where
  front : List Char
  codes : List Nat
deriving DecidableEq, Repr

namespace Expansion

/-- The code points of a text. -/
def all (e : Expansion) : List Nat :=
  Text.codesOf e.front ++ e.codes

/-- Characters of the template in front of a text. -/
def after (cs : List Char) (e : Expansion) : Expansion :=
  { e with front := cs ++ e.front }

/-- The text of a field in front of a text. -/
def afterField (cs : List Char) (e : Expansion) : Expansion :=
  ⟨[], Text.codesOf cs ++ e.all⟩

end Expansion

/-- Replaces the fields of a template by `fill`, with `fuel` for its characters. -/
def expand (fill : Field → Except Fault (List Char)) : (fuel : Nat) → List Char →
    Except Fault Expansion
  | 0, _ => .ok ⟨[], []⟩
  | _, [] => .ok ⟨[], []⟩
  | fuel + 1, c :: rest =>
    if c = '\x7b' ∨ c = '\x7d' then
      match rest with
      | [] => .error .malformed
      | d :: more =>
        if d = c then (expand fill fuel more).map (.after [c])
        else if c = '\x7d' then .error .malformed
        else
          match takeField rest with
          | .error e => .error e
          | .ok (field, rest) =>
            match fill field with
            | .error e => .error e
            | .ok cs => (expand fill fuel rest).map (.afterField cs)
    else (expand fill fuel rest).map (.after [c])

/-- The text of a field, whose layout is expanded by `inner` if it holds fields. -/
def fillField (room : Nat) (node : List Char) (inner : List Char → Except Fault (List Char))
    (f : Field) : Except Fault (List Char) :=
  match lookUp node f.name with
  | .error e => .error e
  | .ok v =>
    match (match f.conversion with
      | some c => v.convert c
      | none => .ok v) with
    | .error e => .error e
    | .ok v =>
      match (if f.layout.contains '\x7b' then inner f.layout else .ok f.layout) with
      | .error e => .error e
      | .ok layout => render room v layout

/-- The text of a template whose fields may nest `depth` levels deep. -/
def build (room : Nat) (node : List Char) : (depth : Nat) → List Char → Except Fault (List Char)
  | 0, _ => .error .malformed
  | depth + 1, cs =>
    (expand (fillField room node (build room node depth)) (cs.length + 1) cs).map fun e =>
      Text.held e.all

/-- The text of a template for a node.  Its fields are at most as wide as there is room for. -/
def format (room : Nat) (template node : String) : Except Fault String :=
  (build room node.toList 2 template.toList).map String.ofList

end Template
end Rebalance
