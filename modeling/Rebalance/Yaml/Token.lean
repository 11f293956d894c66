import Rebalance.Yaml.Fault

/-!
# The tokens of a YAML text

Indentation shows as tokens that open and close block collections.
-/

namespace Rebalance
namespace Yaml

/-- A tag as it is written: a handle, if any, and what follows it. -/
structure Tag where
  handle : Option (List Char)
  suffix : List Char
deriving DecidableEq, Repr

/-- A token.  A scalar is given by its code points, which an escape may take out of Unicode's
characters. -/
inductive Token
  | version (major : Nat)
  | tagHandle (handle start : List Char)
  | directive
  | documentStart
  | documentEnd
  | blockSequence
  | blockMapping
  | blockEnd
  | openList
  | closeList
  | openMap
  | closeMap
  | entry
  | comma
  | key
  | value
  | alias (name : List Char)
  | anchor (name : List Char)
  | tag (tag : Tag)
  | scalar (codes : List Nat) (isPlain : Bool)
deriving DecidableEq, Repr

end Yaml
end Rebalance
