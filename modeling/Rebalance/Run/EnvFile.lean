import Rebalance.Text.Classes

/-!
# Files of variables

A line names a variable and its value; a value may stand in quotes, with escapes inside, and may
refer to variables with a dollar sign and braces.  A line that cannot be read is passed over and
counted.
-/

namespace Rebalance
namespace Run
namespace EnvFile

/-- A line: a name with a value, perhaps none; nothing; or a line that cannot be read. -/
inductive Line
  | binding (name : List Char) (value : Option (List Char))
  | nothing
  | unreadable
deriving DecidableEq, Repr

/-- Whether a character is a blank that does not end a line. -/
def isGap (c : Char) : Bool :=
  Text.isBlank c && c != '\n' && c != '\r'

/-- Whether a character ends a line. -/
def isBreak (c : Char) : Bool :=
  c == '\n' || c == '\r'

/-- A text after the blanks at its head. -/
def skipGaps (cs : List Char) : List Char :=
  cs.dropWhile isGap

/-- A text after a word that may stand in front of a name. -/
def skipExport (cs : List Char) : List Char :=
  let rest := cs.drop 6
  if cs.take 6 = "export".toList ∧ rest.head?.any isGap then skipGaps rest else cs

/-- The inside of a quoted value and the text after it.  A backslash takes the next character with
it, so a quote after it does not close the value. -/
def takeQuoted (quote : Char) : List Char → Option (List Char × List Char)
  | [] => none
  | '\\' :: c :: rest =>
    (takeQuoted quote rest).map fun (inside, rest) => ('\\' :: c :: inside, rest)
  | c :: rest =>
    if c = quote then some ([], rest)
    else if c = '\\' then none
    else (takeQuoted quote rest).map fun (inside, rest) => (c :: inside, rest)

/-- The character an escape stands for, in a value between quotes of a kind. -/
def escape? (quote c : Char) : Option Char :=
  if c = '\\' ∨ c = '\x27' then some c
  else if quote = '"' then
    if c = '"' then some c
    else if c = 'a' then some '\x07'
    else if c = 'b' then some '\x08'
    else if c = 'f' then some '\x0c'
    else if c = 'n' then some '\n'
    else if c = 'r' then some '\r'
    else if c = 't' then some '\t'
    else if c = 'v' then some '\x0b'
    else none
  else none

/-- A value with its escapes replaced. -/
def unescape (quote : Char) : List Char → List Char
  | '\\' :: c :: rest =>
    match escape? quote c with
    | some d => d :: unescape quote rest
    | none => '\\' :: unescape quote (c :: rest)
  | c :: rest => c :: unescape quote rest
  | [] => []

/-- A text without its trailing blanks. -/
def trimEnd (cs : List Char) : List Char :=
  (cs.reverse.dropWhile Text.isBlank).reverse

/-- A bare value up to a comment, which a blank has to precede. -/
def dropComment : List Char → List Char
  | [] => []
  | c :: rest =>
    if Text.isBlank c ∧ (rest.dropWhile Text.isBlank).head? = some '#' then []
    else c :: dropComment rest

/-- Reads a value. -/
def readValue (cs : List Char) : Option (List Char × List Char) :=
  match cs with
  | [] => some ([], [])
  | c :: rest =>
    if c = '\x27' ∨ c = '"' then
      (takeQuoted c rest).map fun (inside, rest) => (unescape c inside, rest)
    else
      let line := cs.takeWhile fun c => !isBreak c
      some (trimEnd (dropComment line), cs.drop line.length)

/-- Reads what follows an equals sign.  After blanks a comment may stand in place of the value. -/
def readAssigned (cs : List Char) : Option (List Char × List Char) :=
  let body := skipGaps cs
  if body.head? = some '#' ∧ body.length < cs.length then some ([], body) else readValue body

/-- Reads a name; a comment has none. -/
def readName (cs : List Char) : Option (Option (List Char) × List Char) :=
  match cs with
  | '#' :: _ => some (none, cs)
  | '\x27' :: rest =>
    let name := rest.takeWhile (· ≠ '\x27')
    match rest.drop name.length with
    | _ :: after => if name.isEmpty then none else some (some name, after)
    | [] => none
  | cs =>
    let name := cs.takeWhile fun c => !(c == '=' || c == '#' || Text.isBlank c)
    if name.isEmpty then none else some (some name, cs.drop name.length)

/-- Reads a comment, if there is one, and the end of a line. -/
def readEnd (cs : List Char) : Option (List Char) :=
  let rest := skipGaps cs
  let rest := if rest.head? = some '#' then rest.dropWhile fun c => !isBreak c else rest
  match rest with
  | [] => some []
  | '\r' :: '\n' :: rest => some rest
  | c :: rest => if isBreak c then some rest else none

/-- Reads a name and its value up to the end of the line. -/
def readBinding (cs : List Char) : Option (Line × List Char) := do
  let (name, rest) ← readName (skipExport cs)
  let rest := skipGaps rest
  let (value, rest) ←
    (match rest with
    | '=' :: rest => (readAssigned rest).map fun (v, rest) => (some v, rest)
    | rest => some (none, rest) : Option (Option (List Char) × List Char))
  let rest ← readEnd rest
  match name with
  | some n => return (.binding n value, rest)
  | none => return (.nothing, rest)

/-- The text after the rest of a line. -/
def skipLine (cs : List Char) : List Char :=
  (cs.dropWhile fun c => !isBreak c).drop 1

/-- Where reading fails, the rest of the line is skipped from the place of the failure; this is
that place. -/
def failurePlace (cs : List Char) : List Char :=
  let cs := skipExport cs
  match readName cs with
  | none => cs
  | some (_, rest) =>
    match skipGaps rest with
    | '=' :: more =>
      match readAssigned more with
      | none => skipGaps more
      | some (_, rest) => afterComment rest
    | rest => afterComment rest
where
  /-- The text after a comment that may end a line. -/
  afterComment (cs : List Char) : List Char :=
    let rest := skipGaps cs
    if rest.head? = some '#' then rest.dropWhile fun c => !isBreak c else cs

/-- How many lines end in a text. -/
def countBreaks : List Char → Nat
  | '\r' :: '\n' :: rest => countBreaks rest + 1
  | c :: rest => countBreaks rest + (if isBreak c then 1 else 0)
  | [] => 0

/-- Reads lines, with fuel for the characters.  Each line comes with the number of its first
line. -/
def readLoop : (fuel line : Nat) → List Char → List (Nat × Line)
  | 0, _, _ => []
  | _, _, [] => []
  | fuel + 1, line, cs =>
    let body := cs.dropWhile Text.isBlank
    if body.isEmpty then []
    else
      let (l, rest) :=
        match readBinding body with
        | some r => r
        | none => (.unreadable, skipLine (failurePlace body))
      let next := line + countBreaks (cs.take (cs.length - rest.length))
      (line, l) :: readLoop fuel next rest

/-- The lines of a text. -/
def read (cs : List Char) : List (Nat × Line) :=
  readLoop cs.length 1 cs

/-- The numbers of the lines that cannot be read. -/
def unreadable (ls : List (Nat × Line)) : List Nat :=
  (ls.filter fun l => l.2 == .unreadable).map Prod.fst

/-- Variables and their values, perhaps none. -/
abbrev Bindings := List (String × Option String)

/-- A variable set to a value. -/
def set (name : String) (value : Option String) : Bindings → Bindings
  | [] => [(name, value)]
  | (n, v) :: rest => if n = name then (n, value) :: rest else (n, v) :: set name value rest

/-- The value of a variable, or the empty text. -/
def lookUp (env : Bindings) (name : String) (standard : Option String) : String :=
  match env.find? fun e => e.1 == name with
  | some (_, v) => v.getD ""
  | none => standard.getD ""

/-- A reference after its dollar sign and brace: the name, the value that stands in for a missing
one, and the text after it. -/
def takeReference (cs : List Char) : Option (List Char × Option (List Char) × List Char) :=
  let name := cs.takeWhile fun c => c ≠ '\x7d' && c ≠ ':'
  match cs.drop name.length with
  | '\x7d' :: rest => some (name, none, rest)
  | ':' :: '-' :: more =>
    let standard := more.takeWhile (· ≠ '\x7d')
    match more.drop standard.length with
    | _ :: rest => some (name, some standard, rest)
    | [] => none
  | _ => none

/-- A value with its references replaced, with fuel for the characters. -/
def resolve (env : Bindings) : (fuel : Nat) → List Char → List Char
  | 0, cs => cs
  | _, [] => []
  | fuel + 1, '$' :: '\x7b' :: rest =>
    match takeReference rest with
    | some (name, standard, rest) =>
      (lookUp env (String.ofList name) (standard.map String.ofList)).toList
        ++ resolve env fuel rest
    | none => '$' :: resolve env fuel ('\x7b' :: rest)
  | fuel + 1, c :: rest => c :: resolve env fuel rest

/-- The variables that lines set.  A reference finds the variables of earlier lines first, and
then those of the environment. -/
def bindings (environment : List (String × String)) (ls : List Line) : Bindings :=
  ls.foldl
    (fun acc l =>
      match l with
      | .binding name value =>
        let env := acc ++ environment.map fun e => (e.1, some e.2)
        set (String.ofList name)
          (value.map fun v => String.ofList (resolve env (v.length + 1) v)) acc
      | _ => acc)
    []

end EnvFile
end Run
end Rebalance
