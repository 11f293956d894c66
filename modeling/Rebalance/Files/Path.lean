import Rebalance.Text.Quoted
import Rebalance.Text.Wrap

/-!
# Paths

Paths by their text alone.  A path is a root and the names that follow it; names that are empty or
a single dot say nothing and are left out, while `..` stays.  Exactly two slashes at the head are a
root of their own.
-/

namespace Rebalance
namespace Files

/-- Where a path begins. -/
inductive Root
  | relative
  | slash
  | doubleSlash
deriving DecidableEq, Repr

/-- The text of a root. -/
def Root.text : Root → String
  | .relative => ""
  | .slash => "/"
  | .doubleSlash => "//"

/-- A path. -/
structure Path where
  root : Root
  names : List String
deriving DecidableEq, Repr

namespace Path

/-- The root that a text begins with. -/
def rootOf (cs : List Char) : Root :=
  match (cs.takeWhile (· == '/')).length with
  | 0 => .relative
  | 2 => .doubleSlash
  | _ => .slash

/-- Whether a piece between slashes is a name. -/
def isName (cs : List Char) : Bool :=
  !cs.isEmpty && cs != ['.']

/-- The path that a text spells. -/
def ofString (s : String) : Path :=
  let cs := s.toList
  ⟨rootOf cs, ((cs.splitOn '/').filter isName).map String.ofList⟩

/-- The text of a path; that of the empty path is a dot. -/
def text (p : Path) : String :=
  if p.root = .relative ∧ p.names = [] then "." else p.root.text ++ Text.joined "/" p.names

/-- The last name of a path, or nothing. -/
def name (p : Path) : String :=
  p.names.getLast?.getD ""

/-- The path without its last name. -/
def parent (p : Path) : Path :=
  { p with names := p.names.dropLast }

/-- A path continued by a further name. -/
def child (p : Path) (n : String) : Path :=
  { p with names := p.names ++ [n] }

/-- A path continued by a text, which goes on from the path unless it begins at a root. -/
def join (p : Path) (s : String) : Path :=
  let q := ofString s
  match q.root with
  | .relative => { p with names := p.names ++ q.names }
  | _ => q

/-- The end of a name from its last dot on.  A dot at either end of the name does not count. -/
def suffix (p : Path) : String :=
  let cs := p.name.toList
  let tail := (cs.reverse.takeWhile (· ≠ '.')).reverse
  if tail.isEmpty ∨ cs.length ≤ tail.length + 1 then ""
  else String.ofList ('.' :: tail)

/-- The text of a path between quotes. -/
def quoted (p : Path) : String :=
  Text.quote p.text

end Path
end Files
end Rebalance
