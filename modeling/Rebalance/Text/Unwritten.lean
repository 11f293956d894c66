import Rebalance.Text.Quoted
import Rebalance.Text.Utf8

/-!
# Texts that have no bytes

A surrogate has none, unless it stands in the name of a file for a byte that is no part of a
character.

* `encodeName`: the bytes of a file's name.
* `unwritten?`: the first surrogates in a row that have no bytes, and where they are.
-/

namespace Rebalance
namespace Text

/-- Whether a surrogate stands for a byte that is no part of a character. -/
def isByteStandIn (code : Nat) : Bool :=
  decide (0xdc80 ≤ code ∧ code ≤ 0xdcff)

/-- The bytes of a file's name. -/
def encodeName (s : String) : List Nat :=
  (codes s).flatMap fun code => if isByteStandIn code then [code - 0xdc00] else encodeOne code

/-- The first surrogates in a row that cannot be written: how many code points stand before them,
and which they are.  In the name of a file those that stand for bytes can be written. -/
def unwritten? (isName : Bool) : (start : Nat) → List Nat → Option (Nat × List Nat)
  | _, [] => none
  | start, code :: rest =>
    if isSurrogate code && !(isName && isByteStandIn code) then
      some (start, code :: rest.takeWhile isSurrogate)
    else unwritten? isName (start + 1) rest

/-- Whether a text can be the name of a file. -/
def isWritableName (s : String) : Bool :=
  (unwritten? true 0 (codes s)).isNone

/-- The message about a text whose surrogates cannot be written. -/
def unwrittenMessage (isName : Bool) (s : String) : String :=
  let spot :=
    match unwritten? isName 0 (codes s) with
    | some (start, [code]) =>
      "character '" ++ String.ofList (escapeCode code) ++ "' in position " ++ toString start
    | some (start, run) =>
      "characters in position " ++ toString start ++ "-" ++ toString (start + run.length - 1)
    | none => ""
  "'utf-8' codec can't encode " ++ spot ++ ": surrogates not allowed"

end Text
end Rebalance
