import Rebalance.Yaml.Fault
import Rebalance.Yaml.Graph

/-!
# Merged maps

Maps that take over the entries of other maps with the key `<<`.  The entries taken over stand in
front of the map's own, those of the first map of a list behind those of the later ones.  A map is
changed for good: whoever meets it afterwards finds the entries taken over in place of the key.

The sign `=` is a text where it is the key of such a map.

* `Graph.merge`: a graph after the merge keys of one map were followed.
-/

namespace Rebalance
namespace Yaml

/-- How many maps may be inside one another on the way of a merge. -/
def mergeDepth : Nat :=
  980

/-- More steps than the merging of any document takes. -/
def mergeFuel : Nat :=
  2 ^ 40

namespace Graph

mutual

/-- Follows the merge keys of a map from one of its entries on; `taken` are the entries taken over
so far. -/
def mergeFrom : (fuel depth : Nat) → (map index : Nat) → (taken : Array (Nat × Nat)) → Graph →
    Except Fault Graph
  | 0, _, _, _, _, _ => .error (.tooDeep false)
  | fuel + 1, depth, map, index, taken, g =>
    let es := g.entriesAt map
    match es[index]? with
    | none => .ok (if taken.isEmpty then g else g.setEntries map (taken ++ es))
    | some (key, value) =>
      match g.kindAt key with
      | .merge =>
        match takeOver fuel depth value (g.setEntries map (es.eraseIdxIfInBounds index)) with
        | .error e => .error e
        | .ok (more, g) => mergeFrom fuel depth map index (taken ++ more) g
      | .standIn => mergeFrom fuel depth map (index + 1) taken (g.setKind key .text)
      | _ => mergeFrom fuel depth map (index + 1) taken g
termination_by structural fuel => fuel

/-- The entries of a map, or of the maps of a list, after their own merge keys were followed. -/
def takeOver : (fuel depth : Nat) → (source : Nat) → Graph →
    Except Fault (Array (Nat × Nat) × Graph)
  | 0, _, _, _ => .error (.tooDeep false)
  | fuel + 1, depth, source, g =>
    match g.vertex source with
    | .scalar _ _ => .error .malformed
    | .list _ items => takeOverItems fuel depth items g
    | .map _ _ => takeOverMap fuel depth source g
termination_by structural fuel => fuel

/-- The entries of the maps of a list, those of the last map first. -/
def takeOverItems : (fuel depth : Nat) → (items : List Nat) → Graph →
    Except Fault (Array (Nat × Nat) × Graph)
  | 0, _, _, _ => .error (.tooDeep false)
  | _ + 1, _, [], g => .ok (#[], g)
  | fuel + 1, depth, i :: rest, g =>
    match takeOverMap fuel depth i g with
    | .error e => .error e
    | .ok (es, g) =>
      match takeOverItems fuel depth rest g with
      | .error e => .error e
      | .ok (later, g) => .ok (later ++ es, g)
termination_by structural fuel => fuel

/-- The entries of a map. -/
def takeOverMap : (fuel depth : Nat) → (source : Nat) → Graph →
    Except Fault (Array (Nat × Nat) × Graph)
  | 0, _, _, _ => .error (.tooDeep false)
  | fuel + 1, depth, source, g =>
    match g.vertex source with
    | .map _ _ =>
      if mergeDepth < depth then .error (.tooDeep false)
      else
        match mergeFrom fuel (depth + 1) source 0 #[] g with
        | .error e => .error e
        | .ok g => .ok (g.entriesAt source, g)
    | _ => .error .malformed
termination_by structural fuel => fuel

end

/-- A graph after the merge keys of a map were followed. -/
def merge (g : Graph) (map : Nat) : Except Fault Graph :=
  mergeFrom mergeFuel 0 map 0 #[] g

end Graph
end Yaml
end Rebalance
