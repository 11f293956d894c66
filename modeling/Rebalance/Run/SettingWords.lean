import Rebalance.Data.Printed
import Rebalance.Run.Lookup.Fault
import Rebalance.Run.Words
import Rebalance.Text.Case

/-!
# Settings given as words

Settings given as words: `--NAME=value`, or `--NAME value`.  The letter case of an option counts
only where it does for the names of settings.

* `WordStyle.read`: the settings that words give.
-/

namespace Rebalance
namespace Run

/-- An option among the words: the call for help, or a setting. -/
inductive SettingFlag
  | help
  | setting (name : String)
deriving DecidableEq, Repr

/-- How words give settings: the dash of options, whether letter case counts, what stands in front
of each name, whether its marks are dashes, further spellings of names, whether unknown words are
passed over, whether a fault ends the program, and the word for no value. -/
structure WordStyle where
  dash : Char
  exactCase : Bool
  lead : String
  dashed : Bool
  shortcuts : List (String × List String)
  skipsUnknown : Bool
  exits : Bool
  nullWord : Option String

/-- What comes of words that give no settings. -/
inductive WordRefusal
  | exit (code : Nat)
  | fault (f : LookupFault)
deriving DecidableEq, Repr

namespace WordStyle

/-- The name of an option. -/
def optionName (w : WordStyle) (setting : String) : String :=
  let s := w.lead ++ (if w.exactCase then setting else Text.lower setting)
  if w.dashed then s.map fun c => if c = '_' then '-' else c else s

/-- All names of an option. -/
def optionNames (w : WordStyle) (setting : String) : List String :=
  let name := w.optionName setting
  name :: (w.shortcuts.filter fun e => e.1 == name).flatMap Prod.snd

/-- A name with its dashes: one in front of a single letter, and else two. -/
def spelled (w : WordStyle) (name : String) : String :=
  String.ofList (if name.length = 1 then [w.dash] else [w.dash, w.dash]) ++ name

/-- The options that give some settings. -/
def grammar (w : WordStyle) (settings : List String) : Grammar SettingFlag :=
  let help := ["h", "help"].map fun n => (w.spelled n, SettingFlag.help)
  let own := settings.flatMap fun s => (w.optionNames s).map fun n => (w.spelled n, .setting s)
  ⟨w.dash, help ++ own, fun f => f != .help, false⟩

/-- A word with its option in small letters.  Of a word with an option only the first line
counts. -/
def foldWord (dash : Char) (s : String) : String :=
  let isPart (c : Char) : Bool := !Text.isBlank c && c != '='
  match s.toList with
  | a :: b :: rest =>
    if a = dash ∧ isPart b then
      let option := a :: (b :: rest).takeWhile isPart
      let more := (b :: rest).dropWhile isPart
      Text.lower (String.ofList option) ++ String.ofList (more.takeWhile (· ≠ '\n'))
    else s
  | _ => s

/-- A word as it is read; a value that counts as absent is an empty word. -/
def wordOf (w : WordStyle) : Data → Except LookupFault String
  | .text s => .ok (if w.exactCase then s else foldWord w.dash s)
  | d => if d.isPresent then .error (.wordNotText d.kindName) else .ok ""

/-- The value that a setting is given. -/
def valueOf (w : WordStyle) : Supply String → Data
  | .value s => if w.nullWord = some s then .null else .text s
  | .nothing => .text "[]"

/-- The refusal of words with a fault. -/
def refuse (w : WordStyle) (text : String) : WordRefusal :=
  if w.exits then .exit 2 else .fault (.badWords text)

/-- Follows steps; `found` are the settings so far, the last one first, and `strange` the words that
nothing takes. -/
def follow (w : WordStyle) (g : Grammar SettingFlag) (found : List (String × Data))
    (strange : List String) :
    List (Step SettingFlag) → Except WordRefusal (List (String × Data))
  | [] =>
    if strange.isEmpty || w.skipsUnknown then .ok found
    else .error (w.refuse (Grammar.strangersMessage strange))
  | .switch _ :: _ => .error (.exit 0)
  | .give (.setting n) value :: rest => follow w g ((n, w.valueOf value) :: found) strange rest
  | .give .help _ :: rest => follow w g found strange rest
  | .stranger s :: rest => follow w g found (strange ++ [s]) rest
  | .lapse fault :: _ => .error (w.refuse (g.lapseMessage fault))

/-- The settings that words give, the last one first. -/
def read (w : WordStyle) (settings : List String) (words : List Data) :
    Except WordRefusal (List (String × Data)) :=
  match words.mapM w.wordOf with
  | .error f => .error (.fault f)
  | .ok ws =>
    let g := w.grammar settings
    w.follow g [] [] (g.steps ws)

end WordStyle
end Run
end Rebalance
