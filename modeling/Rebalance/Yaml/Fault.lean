import Rebalance.Decimal.Rounded
import Rebalance.Text.Quoted
import Rebalance.Text.Utf8

/-!
# Faults of a YAML text

Why a YAML text has no value.  Most faults are faults of the text.  The others arise when a scalar
is turned into a number, a truth value or a time that it does not spell.
-/

namespace Rebalance
namespace Yaml

/-- Why a text has no value.  A text is cut off where it ends inside a token.  Nesting is found too
deep in a call or between calls. -/
inductive Fault
  | malformed
  | cutOff
  | unreadable (fault : Text.Utf8Error)
  | tooDeep (inCall : Bool)
  | badTime (text : String)
  | badWhole (base : Nat) (codes : List Nat)
  | tooManyDigits (count : Nat)
  | badNumber (codes : List Nat)
  | badTruth (codes : List Nat)
  | noTime
  | timeOfMap
  | emptyNumber
  | sixtiesTooLarge
  | codeTooLarge
  | codeTooLong
deriving DecidableEq, Repr

/-- How many characters of a quoted text that is no whole number are shown. -/
def shownLimit : Nat :=
  200

/-- The message of a fault. -/
def Fault.message : Fault → String
  | .malformed | .cutOff => "malformed document"
  | .unreadable fault => fault.message
  | .tooDeep inCall =>
    "maximum recursion depth exceeded" ++ (if inCall then " while calling a Python object" else "")
  | .badTime text => text
  | .badWhole base codes =>
    "invalid literal for int() with base " ++ Decimal.intText base ++ ": "
      ++ String.ofList ((Text.quoteCodes codes).toList.take shownLimit)
  | .tooManyDigits count =>
    "Exceeds the limit (4300 digits) for integer string conversion: value has "
      ++ Decimal.intText count
      ++ " digits; use sys.set_int_max_str_digits() to increase the limit"
  | .badNumber codes => "could not convert string to float: " ++ Text.quoteCodes codes
  | .badTruth codes => Text.quoteCodes codes
  | .noTime => "'NoneType' object has no attribute 'groupdict'"
  | .timeOfMap => "expected string or bytes-like object, got 'list'"
  | .emptyNumber => "string index out of range"
  | .sixtiesTooLarge => "int too large to convert to float"
  | .codeTooLarge => "chr() arg not in range(0x110000)"
  | .codeTooLong => "Python int too large to convert to C int"

end Yaml
end Rebalance
