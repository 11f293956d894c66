import Rebalance.Files.Home
import Rebalance.Run.EnvFile
import Rebalance.Run.Failure
import Rebalance.Run.SettingWords
import Rebalance.Schema.Record
import Rebalance.Text.Wrap

/-!
# Where settings are looked up

How settings are looked up in the environment, in files of variables, in folders of secrets and
among words.  Values given directly under the names of `Lookup.controls` change it: which files are
read and in which code, whether letter case counts, what stands in front of each name, and which
texts count as no value.

* `Lookup.choose`: the look-up that given values ask for.
* `Lookup.fileVariables`: the variables of the files, those of a later file over those of an
  earlier one.
* `Lookup.secretValues`: the settings in the folders of secrets.
* `Lookup.wordValues`: the settings that words give.
-/

namespace Rebalance
namespace Run

/-- A way to look up settings.  The text in front of each name is not put there where `leads` does
not say so.  Files and folders may be unfit, which shows only when they are read. -/
structure Lookup where
  files : List (Except LookupFault Files.Path)
  encoding : Except LookupFault Text.Encoding
  exactCase : Bool
  lead : String
  leads : Bool
  skipEmpty : Bool
  nullWord : Option String
  folders : Except LookupFault (List Files.Path)
  words : Option (WordStyle × List Data)

namespace Lookup

/-- The place of the usual file of variables. -/
def usualFile : Files.Path :=
  ⟨.relative, [".env"]⟩

/-- The look-up when nothing else is asked for. -/
def usual : Lookup :=
  ⟨[.ok usualFile], .ok .utf8, false, "", true, false, none, .ok [], none⟩

/-- The name of the receiver of given values, which no value can have. -/
def receiver : String :=
  "__pydantic_self__"

/-- The names under which a value changes the look-up and is no setting. -/
def controls : List String :=
  ["_case_sensitive", "_nested_model_default_partial_update", "_env_prefix", "_env_prefix_target",
   "_env_file", "_env_file_depth", "_env_file_encoding", "_env_ignore_empty",
   "_env_nested_delimiter", "_env_nested_max_split", "_env_parse_none_str", "_env_parse_enums",
   "_cli_prog_name", "_cli_parse_args", "_cli_settings_source", "_cli_parse_none_str",
   "_cli_hide_none_type", "_cli_avoid_json", "_cli_enforce_required",
   "_cli_use_class_docs_for_groups", "_cli_exit_on_error", "_cli_prefix", "_cli_flag_prefix_char",
   "_cli_implicit_flags", "_cli_ignore_unknown_args", "_cli_kebab_case", "_cli_show_env_vars",
   "_cli_shortcuts", "_secrets_dir", "_build_sources"]

/-! ## Choosing -/

/-- Values given directly, by their names. -/
abbrev Given := List (String × Data)

/-- The value of a control, unless it is `null`. -/
def control? (given : Given) (name : String) : Option Data :=
  match (given.find? fun e => e.1 == name).map Prod.snd with
  | some .null => none
  | d => d

/-- Whether a control is given and counts as present. -/
def isOn (given : Given) (name : String) : Bool :=
  (control? given name).any Data.isPresent

/-- The text of a value that is one. -/
def text? : Data → Option String
  | .text s => some s
  | _ => none

/-- The text of a control that is given as one. -/
def textOf? (given : Given) (name : String) : Option String :=
  (control? given name).bind text?

/-- The path that a value names, from the home folder on if it begins with one. -/
def pathOf (home : Option String) : Data → Except LookupFault Files.Path
  | .text s =>
    match (Files.Path.ofString s).atHome? home with
    | some p => .ok p
    | none => .error .noHome
  | d => .error (.notPathText d.kindName)

/-- The paths that a value names: a text, or the items of a list. -/
def pathsOf (home : Option String) : Data → List (Except LookupFault Files.Path)
  | .text s => [pathOf home (.text s)]
  | .list items => items.map (pathOf home)
  | .map entries => entries.map fun e => pathOf home e.1
  | d => [.error (.notSequence d.kindName)]

/-- The code that a value names; a value that counts as absent names the usual one. -/
def encodingOf (d : Data) : Except LookupFault Text.Encoding :=
  if !d.isPresent then .ok .utf8
  else
    match d with
    | .text s => (Text.Encoding.ofName s).mapError (.badEncodingName s)
    | d => .error (.encodingNotText d.kindName)

/-- Whether a text is a name with letters, digits and underscores. -/
def isPlainName : List Char → Bool
  | [] => false
  | c :: rest =>
    let isLetter (c : Char) : Bool := c.isAlpha || c == '_' || decide (0x80 ≤ c.toNat)
    isLetter c && rest.all fun c => isLetter c || c.isDigit

/-- What stands in front of the names of options: names with points between them, and a point. -/
def wordLead (given : Given) : Except LookupFault String :=
  match textOf? given "_cli_prefix" with
  | none | some "" => .ok ""
  | some s =>
    let cs := s.toList
    if cs.head? = some '.' ∨ cs.getLast? = some '.' ∨ !isPlainName (cs.filter (· ≠ '.')) then
      .error (.badWordLead s)
    else .ok (s ++ ".")

/-- The further names of options. -/
def shortcutsOf (given : Given) : List (String × List String) :=
  (((control? given "_cli_shortcuts").bind Data.entries?).getD []).map fun e =>
    let names := match e.2 with
      | .text s => [s]
      | .list items => items.filterMap text?
      | _ => []
    (e.1.plain, names)

/-- The word for no value among words. -/
def nullWordOf (given : Given) : Option String :=
  match control? given "_cli_parse_none_str" with
  | some (.text "") | none =>
    match control? given "_cli_avoid_json" with
    | some (.bool true) => some "None"
    | _ => some "null"
  | some d => text? d

/-- How words give settings. -/
def wordStyle (given : Given) : Except LookupFault WordStyle := do
  let lead ← wordLead given
  let dash := match (textOf? given "_cli_flag_prefix_char").map String.toList with
    | some [c] => c
    | _ => '-'
  let exits := ((control? given "_cli_exit_on_error").map Data.isPresent).getD true
  return ⟨dash, isOn given "_case_sensitive", lead, isOn given "_cli_kebab_case",
    shortcutsOf given, isOn given "_cli_ignore_unknown_args", exits, nullWordOf given⟩

/-- The words that a value is; a value that is false is no words at all. -/
def wordsOf : Data → Except LookupFault (List Data)
  | .list items => .ok items
  | .bool _ => .ok []
  | d =>
    match d.whole? with
    | some 0 => .ok []
    | _ => .error (.wordsNotList d.kindName)

/-- The words that given values hold, and how they give settings. -/
def chooseWords (given : Given) : Except LookupFault (Option (WordStyle × List Data)) :=
  match control? given "_cli_parse_args" with
  | none => .ok none
  | some d => do
    let style ← wordStyle given
    return some (style, ← wordsOf d)

/-- Refuses a number of splits from which one cannot be taken. -/
def checkSplits (given : Given) : Except LookupFault Unit :=
  match control? given "_env_nested_max_split" with
  | some d =>
    match d with
    | .text _ | .list _ | .map _ =>
      if d.isPresent then .error (.noDifference d.kindName) else .ok ()
    | _ => .ok ()
  | none => .ok ()

/-- What stands in front of each name, unless it is a value without a length. -/
def leadOf (given : Given) : Except LookupFault String :=
  match control? given "_env_prefix" with
  | none => .ok ""
  | some (.text s) => .ok s
  | some (.list _) | some (.map _) => .ok ""
  | some d => .error (.noLength d.kindName)

/-- Whether what stands in front of names is put in front of the names of settings. -/
def leadsOf (given : Given) : Bool :=
  match control? given "_env_prefix_target" with
  | none => true
  | some d => (text? d).any fun s => s == "variable" || s == "all"

/-- The look-up that given values ask for, but for its words. -/
def choose (home : Option String) (given : Given) : Except LookupFault Lookup := do
  checkSplits given
  let lead ← leadOf given
  let named (name : String) : Option Data := (given.find? fun e => e.1 == name).map Prod.snd
  let files := match named "_env_file" with
    | none => usual.files
    | some .null => []
    | some d => pathsOf home d
  let folders := match control? given "_secrets_dir" with
    | none => .ok []
    | some d => (pathsOf home d).mapM id
  return ⟨files, encodingOf ((control? given "_env_file_encoding").getD .null),
    isOn given "_case_sensitive", lead, leadsOf given, isOn given "_env_ignore_empty",
    textOf? given "_env_parse_none_str", folders, none⟩

/-- Refuses what stands in front of names where it is no text and would be put there. -/
def checkLead (given : Given) (setting : String) : Except LookupFault Unit :=
  match control? given "_env_prefix" with
  | some (.list _) | some (.map _) =>
    if leadsOf given then .error (.leadNotText setting "EnvSettingsSource") else .ok ()
  | _ => .ok ()

/-! ## Variables -/

/-- A name as it is compared with others. -/
def spelling (l : Lookup) (name : String) : String :=
  if l.exactCase then name else Text.lower name

/-- The value that a text stands for. -/
def valueOf (l : Lookup) (s : String) : Data :=
  if l.nullWord = some s then .null else .text s

/-- Variables by their spelling, the later of two with one spelling in the place of the earlier. -/
def collect (l : Lookup) (source : EnvFile.Bindings) : EnvFile.Bindings :=
  let counted := source.filter fun e => !(l.skipEmpty && e.2 == some "")
  counted.foldl (fun acc e => Schema.put (l.spelling e.1) e.2 acc) []

/-- The lines of a file of variables, if there is such a file. -/
def fileLines (encoding : Except LookupFault Text.Encoding) (files : Files.Tree)
    (path : Files.Path) :
    Except Failure (List (Nat × EnvFile.Line)) :=
  match files.readFile path with
  | .error .nameTooLong => .error (.unusablePath path .nameTooLong)
  | .error _ => .ok []
  | .ok content =>
    match encoding with
    | .error f => .error (.noLookup f)
    | .ok code =>
      match code.decode content with
      | .error e => .error (.badEncoding e)
      | .ok cs =>
        let cs := Text.heldChars (Text.unifyBreaks cs)
        .ok (EnvFile.read (if cs.head? = some (Char.ofNat 0xfeff) then cs.drop 1 else cs))

/-- The variables of one file, by their spelling. -/
def variablesOf (l : Lookup) (files : Files.Tree) (environment : List (String × String)) :
    Except LookupFault Files.Path → Except Failure EnvFile.Bindings
  | .error f => .error (.noLookup f)
  | .ok path =>
    (fileLines l.encoding files path).map fun ls =>
      l.collect (EnvFile.bindings environment (ls.map Prod.snd))

/-- The variables of the files, by their spelling. -/
def fileVariables (l : Lookup) (files : Files.Tree) (environment : List (String × String)) :
    Except Failure (List (String × String)) := do
  let sources ← l.files.mapM (l.variablesOf files environment)
  let merged := sources.flatten.foldl (fun acc e => Schema.put e.1 e.2 acc) []
  return merged.filterMap fun e => e.2.map fun v => (e.1, v)

/-- The variables of the environment, by their spelling. -/
def environmentVariables (l : Lookup) (environment : List (String × String)) :
    List (String × String) :=
  (l.collect (environment.map fun e => (e.1, some e.2))).filterMap fun e =>
    e.2.map fun v => (e.1, v)

/-- The spelling of a setting's variable. -/
def variableOf (l : Lookup) (setting : String) : String :=
  l.spelling (if l.leads then l.lead ++ setting else setting)

/-! ## Secrets -/

/-- The folders of secrets that are there. -/
def secretFolders (l : Lookup) (files : Files.Tree) : Except Failure (List Files.Path) := do
  match l.folders with
  | .error f => .error (.noLookup f)
  | .ok paths =>
    let there ← paths.filterMapM fun p =>
      match files.find p with
      | .error .notFound | .error .notFolder => .ok none
      | .error f => .error (.unusablePath p f)
      | .ok none => .ok none
      | .ok (some e) => .ok (some (p, e))
    if there.any fun e => e.2 != .folder then .error (.noLookup .secretsNotFolder)
    else return there.map Prod.fst

/-- The content of the file in a folder that has the name of a setting.  Of several the last one
counts. -/
def secretIn (l : Lookup) (files : Files.Tree) (setting : String) (folder : Files.Path) :
    Option (List Nat) :=
  let name := l.variableOf setting
  match (files.children folder).reverse.find? fun e => l.spelling e.1 == name with
  | some (_, .file content) => some content
  | _ => none

/-- The setting in the last folder that has it. -/
def secret? (l : Lookup) (files : Files.Tree) (folders : List Files.Path) (setting : String) :
    Except Failure (Option (String × Data)) :=
  match folders.reverse.findSome? (l.secretIn files setting) with
  | none => .ok none
  | some content =>
    match Text.decode? content with
    | .error _ => .error (.noLookup (.secretUnreadable setting))
    | .ok cs => .ok (some (setting, .text (String.ofList
        (Text.trim Text.isBlank (Text.heldChars (Text.unifyBreaks cs))))))

/-- The settings in the folders of secrets. -/
def secretValues (l : Lookup) (files : Files.Tree) (settings : List String) :
    Except Failure (List (String × Data)) := do
  let folders ← l.secretFolders files
  settings.filterMapM (l.secret? files folders)

/-! ## Words -/

/-- The settings that the words among given values give, the last one first. -/
def wordValues (given : Given) (settings : List String) :
    Except Failure (List (String × Data)) :=
  match chooseWords given with
  | .error f => .error (.noLookup f)
  | .ok none => .ok []
  | .ok (some (style, words)) =>
    match style.read settings words with
    | .ok found => .ok found
    | .error (.exit code) => .error (.exit code)
    | .error (.fault f) => .error (.noLookup f)

/-! ## Sources given as a whole -/

/-- The fault of sources that are given as a whole, which are a pair of sources and values.  Only
where the first of the pair is empty is there none. -/
def checkSources : Data → Except LookupFault Unit
  | .text s =>
    match s.toList with
    | [_, _] => .error (.notSource "str")
    | cs => wrongCount cs.length
  | .list [sources, _] => ofSources sources
  | .list items => wrongCount items.length
  | .map [(sources, _), _] => ofSources sources
  | .map entries => wrongCount entries.length
  | d => .error (.notPair d.kindName)
where
  /-- The fault of another number of parts than two. -/
  wrongCount (n : Nat) : Except LookupFault Unit :=
    .error (if n < 2 then .tooFewSources n else .tooManySources)
  /-- The fault of what stands in the place of sources. -/
  ofSources (d : Data) : Except LookupFault Unit :=
    if !d.isPresent then .ok ()
    else
      match d with
      | .text _ | .map _ => .error (.notSource "str")
      | .list (s :: _) => .error (.notSource s.kindName)
      | d => .error (.notSequence d.kindName)

end Lookup
end Run
end Rebalance
