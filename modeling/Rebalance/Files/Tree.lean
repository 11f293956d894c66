import Rebalance.Files.Path
import Rebalance.Files.Standing
import Rebalance.Text.Unwritten

/-!
# Trees of folders and files

A tree of folders and files.  A location is the list of names that leads from the root to an entry;
the tree maps locations to entries, and a working folder says where relative paths begin.

* `walk`: the location a path leads to, where every name on the way has to be a folder.
* `makeFolder`, `makeFolders`: one new folder, or all that are missing on the way.
* `levels`, `levelLimit`: how far up the making of folders has to go, and how far it can.
* `readFile`, `writeFile`: the whole content of a file.
-/

namespace Rebalance
namespace Files

/-- Why a path cannot be used. -/
inductive Fault
  | notFound
  | exists
  | notFolder
  | isFolder
  | noSpace
  | nameTooLong
deriving DecidableEq, Repr

/-- The system's number for a fault. -/
def Fault.number : Fault → Nat
  | .notFound => 2
  | .exists => 17
  | .notFolder => 20
  | .isFolder => 21
  | .noSpace => 28
  | .nameTooLong => 36

/-- The system's words for a fault. -/
def Fault.words : Fault → String
  | .notFound => "No such file or directory"
  | .exists => "File exists"
  | .notFolder => "Not a directory"
  | .isFolder => "Is a directory"
  | .noSpace => "No space left on device"
  | .nameTooLong => "File name too long"

/-- The message about a path that cannot be used.  It names the path unless the file there is open
already. -/
def Fault.message (f : Fault) (p : Path) : String :=
  "[Errno " ++ toString f.number ++ "] " ++ f.words
    ++ (if f = .noSpace then "" else ": " ++ p.quoted)

/-- A tree of folders and files, beside those of the system.  The root and the working folder are
always there. -/
structure Tree where
  entries : List (Location × Entry)
  working : Location
deriving DecidableEq, Repr

namespace Tree

/-- Whether a location is that of the working folder or of a folder around it. -/
def isBase (t : Tree) (l : Location) : Bool :=
  l.isPrefixOf t.working

/-- What stands at a location. -/
def entry? (t : Tree) (l : Location) : Option Entry :=
  if t.isBase l then some .folder
  else ((t.entries ++ standing).find? fun e => e.1 == l).map Prod.snd

/-- The entries with the one at a location replaced, or with a new one at the end. -/
def setEntry (l : Location) (e : Entry) : List (Location × Entry) → List (Location × Entry)
  | [] => [(l, e)]
  | (k, x) :: rest => if k = l then (k, e) :: rest else (k, x) :: setEntry l e rest

/-- The tree with an entry put at a location. -/
def set (t : Tree) (l : Location) (e : Entry) : Tree :=
  { t with entries := setEntry l e t.entries }

/-- The most bytes a name may have. -/
def nameLimit : Nat :=
  255

/-- The most bytes the text of a path may have. -/
def pathLimit : Nat :=
  4095

/-- One name further from a folder. -/
def step (at_ : Location) (name : String) : Except Fault Location :=
  if name = ".." then .ok at_.dropLast
  else if nameLimit < (Text.encodeName name).length then .error .nameTooLong
  else .ok (at_ ++ [name])

/-- Follows names from a folder, each of which has to lead to a folder. -/
def follow (t : Tree) (at_ : Location) : List String → Except Fault Location
  | [] => .ok at_
  | name :: rest =>
    match step at_ name with
    | .error f => .error f
    | .ok next =>
      match t.entry? next with
      | none => .error .notFound
      | some (.file _) => .error .notFolder
      | some .folder => t.follow next rest

/-- Where a path begins. -/
def start (t : Tree) (p : Path) : Location :=
  if p.root = .relative then t.working else []

/-- The location a path leads to.  All names but the last have to lead to folders. -/
def walk (t : Tree) (p : Path) : Except Fault Location :=
  if pathLimit < (Text.encodeName p.text).length then .error .nameTooLong
  else
    match t.follow (t.start p) p.names.dropLast with
    | .error f => .error f
    | .ok at_ =>
      match p.names.getLast? with
      | none => .ok at_
      | some name => step at_ name

/-- Whether a path leads to a folder; the fault when that cannot be found out. -/
def isFolder (t : Tree) (p : Path) : Except Fault Bool :=
  match t.walk p with
  | .error .notFound | .error .notFolder => .ok false
  | .error f => .error f
  | .ok l => .ok (t.entry? l = some .folder)

/-- What stands where a path leads, if anything does. -/
def find (t : Tree) (p : Path) : Except Fault (Option Entry) :=
  (t.walk p).map t.entry?

/-- The entries of the folder where a path leads, by their names. -/
def children (t : Tree) (p : Path) : List (String × Entry) :=
  match t.walk p with
  | .error _ => []
  | .ok l =>
    t.entries.filterMap fun e =>
      if e.1.dropLast = l ∧ e.1 ≠ [] then e.1.getLast?.map fun name => (name, e.2) else none

/-- Makes one folder. -/
def makeFolder (t : Tree) (p : Path) : Except Fault Tree :=
  match t.walk p with
  | .error f => .error f
  | .ok l =>
    if (t.entry? l).isSome then .error .exists
    else if isClosed l then .error .notFound
    else .ok (t.set l .folder)

/-- What a fault in making a folder means when the folder may be there already. -/
def settle (t : Tree) (p : Path) (f : Fault) : Except Fault Unit :=
  match t.isFolder p with
  | .error g => .error g
  | .ok true => .ok ()
  | .ok false => .error f

/-- Makes a folder and the folders missing on the way to it, `fuel` levels up.  The answer is the
tree, which keeps the folders made before a fault, and the path and the fault that stopped it. -/
def makeFoldersLoop : (fuel : Nat) → Tree → Path → Tree × Except (Path × Fault) Unit
  | 0, t, p => (t, .error (p, .notFound))
  | fuel + 1, t, p =>
    match t.makeFolder p with
    | .ok t => (t, .ok ())
    | .error .notFound =>
      if p.names = [] then (t, .error (p, .notFound))
      else
        match makeFoldersLoop fuel t p.parent with
        | (t, .error e) => (t, .error e)
        | (t, .ok ()) =>
          match t.makeFolder p with
          | .ok t => (t, .ok ())
          | .error f => (t, (t.settle p f).mapError fun g => (p, g))
    | .error f => (t, (t.settle p f).mapError fun g => (p, g))

/-- Makes a folder and the folders missing on the way to it, however many these are. -/
def makeFolders (t : Tree) (p : Path) : Tree × Except (Path × Fault) Unit :=
  makeFoldersLoop (p.names.length + 1) t p

/-- How many levels the loop goes up, the one of the path itself included. -/
def levelsLoop : (fuel : Nat) → Tree → Path → Nat
  | 0, _, _ => 0
  | fuel + 1, t, p =>
    match t.makeFolder p with
    | .error .notFound => if p.names = [] then 1 else levelsLoop fuel t p.parent + 1
    | _ => 1

/-- How many levels the making of a path's folders goes up, the one of the path itself included. -/
def levels (t : Tree) (p : Path) : Nat :=
  levelsLoop (p.names.length + 1) t p

/-- The most levels that the making of folders can go up. -/
def levelLimit : Nat :=
  986

/-- Whether the folders missing on the way to a path are too many to be made. -/
def IsDeep (t : Tree) (p : Path) : Prop :=
  levelLimit < t.levels p

instance (t : Tree) (p : Path) : Decidable (t.IsDeep p) :=
  inferInstanceAs (Decidable (levelLimit < t.levels p))

/-- The content of a file. -/
def readFile (t : Tree) (p : Path) : Except Fault (List Nat) :=
  match t.walk p with
  | .error f => .error f
  | .ok l =>
    match t.entry? l with
    | none => .error .notFound
    | some .folder => .error .isFolder
    | some (.file content) => .ok content

/-- Puts a content into a file, which is made if it is not there. -/
def writeFile (t : Tree) (p : Path) (content : List Nat) : Except Fault Tree :=
  match t.walk p with
  | .error f => .error f
  | .ok l =>
    match t.entry? l, device? l with
    | some .folder, _ => .error .isFolder
    | _, some .sink => .ok t
    | _, some .full => if content.isEmpty then .ok t else .error .noSpace
    | none, none => if isClosed l then .error .notFound else .ok (t.set l (.file content))
    | some _, none => .ok (t.set l (.file content))

/-- Every entry below the working folder, by the rest of its location. -/
def listing (t : Tree) : List (Location × Entry) :=
  (t.entries.filter fun e => t.working.isPrefixOf e.1 && e.1 != t.working).map fun e =>
    (e.1.drop t.working.length, e.2)

end Tree
end Files
end Rebalance
