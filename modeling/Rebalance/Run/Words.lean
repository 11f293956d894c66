import Rebalance.Data
import Rebalance.Text.Quoted
import Rebalance.Text.Wrap

/-!
# The words of a command line

A word that starts with the dash is an option, unless it is a negative number or holds a blank;
every other word is the value of the option before it, or a stranger.  A long option may be cut
short where that is allowed, as long as it stays the only one of its beginning, and its value may
follow an equals sign.  Short options may be bundled, and their value may follow at once.  After
`--` no word is an option; joined to an option, `--` leaves the option with no value at all.

* `Grammar.steps`: what the words say, one step after the other.
-/

namespace Rebalance
namespace Run

/-- The options of a command line: the dash they begin with, each spelling of an option with the
option itself, the options that take a value, and whether a long option may be cut short. -/
structure Grammar (φ : Type) where
  dash : Char
  spellings : List (String × φ)
  takesValue : φ → Bool
  cutsShort : Bool

/-- What is wrong with the words of a command line. -/
inductive Lapse (φ : Type)
  | ambiguous (word : String) (matching : List String)
  | valueExpected (flag : φ)
  | valueRefused (flag : φ) (value : String)
deriving DecidableEq, Repr

/-- What an option is given: a value, or nothing where a value should be. -/
inductive Supply (α : Type)
  | value (a : α)
  | nothing
deriving DecidableEq, Repr

/-- What is given, as a value of a document; nothing is an empty list. -/
def Supply.toData {α : Type} (f : α → Data) : Supply α → Data
  | .value a => f a
  | .nothing => .list []

/-- What a word is: a plain one, an unknown option, or an option in its long or short form with
the text joined to it. -/
inductive Word (φ : Type)
  | plain
  | unknown
  | option (flag : φ) (isLong : Bool) (joined : Option (List Char))
deriving DecidableEq, Repr

/-- What a command line says next: an option without a value, an option with one, a word that
nothing takes, or a lapse, which is the last step. -/
inductive Step (φ : Type)
  | switch (flag : φ)
  | give (flag : φ) (value : Supply String)
  | stranger (word : String)
  | lapse (fault : Lapse φ)
deriving DecidableEq, Repr

/-- Whether a character is a decimal digit of any script. -/
def isAnyDigit (c : Char) : Bool :=
  (Text.digitValue? c).isSome

/-- Whether a word is a negative number. -/
def isNegative (cs : List Char) : Bool :=
  match cs with
  | '-' :: rest =>
    let rest := if rest.getLast? = some '\n' then rest.dropLast else rest
    let whole := rest.takeWhile isAnyDigit
    match rest.dropWhile isAnyDigit with
    | [] => !whole.isEmpty
    | '.' :: fraction => !fraction.isEmpty && fraction.all isAnyDigit
    | _ => false
  | _ => false

/-- The text before an equals sign, and the text after it if there is one. -/
def splitEquals (cs : List Char) : List Char × Option (List Char) :=
  match cs.dropWhile (· ≠ '=') with
  | [] => (cs, none)
  | _ :: value => (cs.takeWhile (· ≠ '='), some value)

/-- A word that is no option by its form. -/
def Word.ofOther {φ : Type} (cs : List Char) : Word φ :=
  if isNegative cs || cs.contains ' ' then .plain else .unknown

namespace Grammar

variable {φ : Type} [DecidableEq φ]

/-- An option with all its spellings, as complaints show it. -/
def shown (g : Grammar φ) (flag : φ) : String :=
  Text.joined "/" ((g.spellings.filter fun e => e.2 == flag).map Prod.fst)

/-- The option of a spelling. -/
def flag? (g : Grammar φ) (spelling : String) : Option φ :=
  (g.spellings.find? fun e => e.1 == spelling).map Prod.snd

/-- The option of a letter after one dash. -/
def ofLetter? (g : Grammar φ) (c : Char) : Option φ :=
  g.flag? (String.ofList [g.dash, c])

/-- The spellings that begin with a text. -/
def startingWith (g : Grammar φ) (s : String) : List (String × φ) :=
  if g.cutsShort then g.spellings.filter fun e => e.1.startsWith s else []

/-- What a word with two dashes is. -/
def longWord (g : Grammar φ) (s : String) : Except (Lapse φ) (Word φ) :=
  let (name, value) := splitEquals s.toList
  let name := String.ofList name
  match g.flag? name with
  | some f => .ok (.option f true value)
  | none =>
    match g.startingWith name with
    | [] => .ok (.ofOther s.toList)
    | [(_, f)] => .ok (.option f true value)
    | fs => .error (.ambiguous s (fs.map Prod.fst))

/-- What a word with one dash is, given by what follows the dash. -/
def shortWord (g : Grammar φ) (letter : Char) (rest : List Char) : Word φ :=
  match g.ofLetter? letter with
  | none => .ofOther (g.dash :: letter :: rest)
  | some f =>
    match rest with
    | [] => .option f false none
    | '=' :: value => .option f false (some value)
    | value => .option f false (some value)

/-- What a word is. -/
def word (g : Grammar φ) (s : String) : Except (Lapse φ) (Word φ) :=
  match s.toList with
  | [] => .ok .plain
  | [_] => .ok .plain
  | a :: b :: rest =>
    if a ≠ g.dash then .ok .plain
    else if b = g.dash then g.longWord s
    else .ok (g.shortWord b rest)

/-- What the words of a command line are. -/
def classify (g : Grammar φ) : List String → Except (Lapse φ) (List (String × Word φ))
  | [] => .ok []
  | "--" :: rest => .ok (("--", .unknown) :: rest.map fun s => (s, .plain))
  | s :: rest => do
    let w ← g.word s
    let ws ← g.classify rest
    return (s, w) :: ws

/-- What a bundle of options holds: the options without a value that come first, and the last one
with its value if that is joined to it. -/
structure Bundle (φ : Type) where
  before : List φ
  last : φ
  value : Option String
deriving DecidableEq, Repr

/-- A bundle with one more option before it. -/
def Bundle.after (flag : φ) (b : Bundle φ) : Bundle φ :=
  { b with before := flag :: b.before }

/-- Reads the text joined to an option: its value, or more options. -/
def readBundle (g : Grammar φ) (isLong : Bool) : φ → List Char → Except (Lapse φ) (Bundle φ)
  | flag, [] =>
    if g.takesValue flag then .ok ⟨[], flag, some ""⟩ else .error (.valueRefused flag "")
  | flag, c :: rest =>
    let joined := String.ofList (c :: rest)
    if g.takesValue flag then .ok ⟨[], flag, some joined⟩
    else
      match isLong, g.ofLetter? c with
      | false, some next =>
        if rest.isEmpty then .ok ⟨[flag], next, none⟩
        else (g.readBundle false next rest).map (Bundle.after flag)
      | _, _ => .error (.valueRefused flag joined)

/-- The bundle of an option and the text joined to it, if there is any. -/
def bundle (g : Grammar φ) (flag : φ) (isLong : Bool) :
    Option (List Char) → Except (Lapse φ) (Bundle φ)
  | none => .ok ⟨[], flag, none⟩
  | some cs => g.readBundle isLong flag cs

/-- A value that is joined to its option. -/
def joinedValue (value : String) : Supply String :=
  if value = "--" then .nothing else .value value

/-- What classified words say. -/
def stepsOf (g : Grammar φ) : List (String × Word φ) → List (Step φ)
  | [] => []
  | (_, .option flag isLong joined) :: rest =>
    match g.bundle flag isLong joined with
    | .error fault => [.lapse fault]
    | .ok b =>
      let before := b.before.map Step.switch
      match g.takesValue b.last, b.value, rest with
      | false, _, rest => before ++ .switch b.last :: stepsOf g rest
      | true, some value, rest => before ++ .give b.last (joinedValue value) :: stepsOf g rest
      | true, none, (value, .plain) :: rest =>
        before ++ .give b.last (.value value) :: stepsOf g rest
      | true, none, _ => [.lapse (.valueExpected b.last)]
  | (s, _) :: rest => .stranger s :: stepsOf g rest

/-- What words say, one step after the other. -/
def steps (g : Grammar φ) (words : List String) : List (Step φ) :=
  match g.classify words with
  | .error fault => [.lapse fault]
  | .ok ws => g.stepsOf ws

/-- A complaint about an option. -/
def about (g : Grammar φ) (flag : φ) (text : String) : String :=
  "argument " ++ g.shown flag ++ ": " ++ text

/-- The words of a lapse. -/
def lapseMessage (g : Grammar φ) : Lapse φ → String
  | .ambiguous word matching =>
    "ambiguous option: " ++ word ++ " could match " ++ Text.joined ", " matching
  | .valueExpected flag => g.about flag "expected one argument"
  | .valueRefused flag value => g.about flag ("ignored explicit argument " ++ Text.quote value)

/-- The words about strangers. -/
def strangersMessage (words : List String) : String :=
  "unrecognized arguments: " ++ Text.joined " " words

end Grammar
end Run
end Rebalance
