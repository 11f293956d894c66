/-!
# Devices

What every system has before anything is made: the folder of devices, which take what is written to
them and keep nothing, and the folder of processes, in which nothing is made.
-/

namespace Rebalance
namespace Files

/-- The names that lead from the root to an entry. -/
abbrev Location := List String

/-- What stands at a location. -/
inductive Entry
  | folder
  | file (content : List Nat)
deriving DecidableEq, Repr

/-- A device: it takes every content, or none at all. -/
inductive Device
  | sink
  | full
deriving DecidableEq, Repr

/-- The devices of the system. -/
def devices : List (Location × Device) :=
  [(["dev", "null"], .sink), (["dev", "zero"], .sink), (["dev", "full"], .full)]

/-- The device at a location. -/
def device? (l : Location) : Option Device :=
  (devices.find? fun e => e.1 == l).map Prod.snd

/-- The entries of every system.  Devices count as files. -/
def standing : List (Location × Entry) :=
  [(["dev"], .folder), (["proc"], .folder)] ++ devices.map fun e => (e.1, .file [])

/-- Whether nothing new can be made at a location: the folder of processes takes no entries. -/
def isClosed (l : Location) : Bool :=
  ["proc"].isPrefixOf l

end Files
end Rebalance
