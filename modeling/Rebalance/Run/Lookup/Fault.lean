import Rebalance.Text.Encoding
import Rebalance.Text.Quoted
import Rebalance.Decimal.Rounded

/-!
# Faults of a lookup

Why settings cannot be looked up at all, whatever they are.  `LookupFault.message` gives the words.
-/

namespace Rebalance
namespace Run

/-- Why settings cannot be looked up.  A `kind` is the kind of a value, by its name. -/
inductive LookupFault
  | selfGiven
  | classGiven
  | notPair (kind : String)
  | tooFewSources (count : Nat)
  | tooManySources
  | notSource (kind : String)
  | notSequence (kind : String)
  | notPathText (kind : String)
  | noLength (kind : String)
  | noDifference (kind : String)
  | leadNotText (setting source : String)
  | noHome
  | badEncodingName (name : String) (fault : Text.NameFault)
  | encodingNotText (kind : String)
  | secretsNotFolder
  | secretUnreadable (setting : String)
  | wordNotText (kind : String)
  | wordsNotList (kind : String)
  | badWordLead (text : String)
  | badWords (text : String)
deriving DecidableEq, Repr

/-- The message about a setting that a source cannot give. -/
def sourceMessage (setting source : String) : String :=
  "error getting value for field \"" ++ setting ++ "\" from source \"" ++ source ++ "\""

/-- The words of a fault. -/
def LookupFault.message : LookupFault → String
  | .selfGiven =>
    "BaseSettings.__init__() got multiple values for argument '__pydantic_self__'"
  | .classGiven =>
    "BaseSettings._settings_init_sources() got multiple values for argument 'cls'"
  | .notPair kind => "cannot unpack non-iterable " ++ kind ++ " object"
  | .tooFewSources count =>
    "not enough values to unpack (expected 2, got " ++ Decimal.intText count ++ ")"
  | .tooManySources => "too many values to unpack (expected 2)"
  | .notSource kind => Text.quote kind ++ " object is not callable"
  | .notSequence kind => Text.quote kind ++ " object is not iterable"
  | .notPathText kind => "expected str, bytes or os.PathLike object, not " ++ kind
  | .noLength kind => "object of type " ++ Text.quote kind ++ " has no len()"
  | .noDifference kind =>
    "unsupported operand type(s) for -: " ++ Text.quote kind ++ " and 'int'"
  | .leadNotText setting source => sourceMessage setting source
  | .noHome => "Could not determine home directory."
  | .badEncodingName name .unknown => "unknown encoding: " ++ name
  | .badEncodingName name .notForTexts =>
    "'" ++ name ++ "' is not a text encoding; use codecs.open() to handle arbitrary codecs"
  | .badEncodingName _ .holdsNul => "embedded null character"
  | .encodingNotText kind => "open() argument 'encoding' must be str or None, not " ++ kind
  | .secretsNotFolder => "secrets_dir must reference a directory, not a file"
  | .secretUnreadable setting => sourceMessage setting "SecretsSettingsSource"
  | .wordNotText kind => "expected string or bytes-like object, got " ++ Text.quote kind
  | .wordsNotList kind =>
    "cli_parse_args must be a list or tuple of strings, received <class " ++ Text.quote kind ++ ">"
  | .badWordLead text => "CLI settings source prefix is invalid: " ++ text
  | .badWords text => "error parsing CLI: " ++ text

end Run
end Rebalance
