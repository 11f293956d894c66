import Rebalance.Text.Quoted

/-!
# Faults of a template

What can be wrong with a name template.  Most faults only say that the template does not fit, and
have no words of their own.
-/

namespace Rebalance
namespace Template

/-- Why a template has no text. -/
inductive Fault
  | malformed
  | unknownName
  | unknownIndex
  | unknownAttribute
  | textKey
  | tupleKey
  | notIndexable (kind : String)
  | noItems (kind : String)
  | filled (shown : String)
  | noLayout (kind : String)
  | codeTooLarge
  | tooWide
deriving DecidableEq, Repr

/-- The message of a fault. -/
def Fault.message : Fault → String
  | .malformed => "malformed template"
  | .unknownName => "unknown name"
  | .unknownIndex => "unknown index"
  | .unknownAttribute => "unknown attribute"
  | .textKey => "string indices must be integers, not 'str'"
  | .tupleKey => "tuple indices must be integers or slices, not str"
  | .notIndexable kind => "type " ++ Text.quote kind ++ " is not subscriptable"
  | .noItems kind => Text.quote kind ++ " object is not subscriptable"
  | .filled shown => shown ++ " is not a generic class"
  | .noLayout kind => "unsupported format string passed to " ++ kind ++ ".__format__"
  | .codeTooLarge => "%c arg not in range(0x110000)"
  | .tooWide => ""

/-- Whether a fault only says that the template does not fit.  Any other is an error of its own. -/
def Fault.isMisfit : Fault → Bool
  | .malformed | .unknownName | .unknownIndex | .unknownAttribute => true
  | _ => false

end Template
end Rebalance
