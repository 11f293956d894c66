import Rebalance.Run.World
import Rebalance.Schema.Record
import Rebalance.Schema.Scalar

/-!
# The client of a node's settings

`Client.volumePaths` asks a node where its volumes are mounted; the answer is a document that maps
volume identities to paths.
-/

namespace Rebalance
namespace Net

/-- What is asked of a node, and how. -/
structure Client where
  setting : String
  scheme : String
  timeout : Int
deriving DecidableEq, Repr

/-- Paths of volumes, by the identities of the volumes.  A map may name a volume and know no path
for it. -/
abbrev PathMap := List (String × Option String)

/-- A path map as a document. -/
def PathMap.toData (m : PathMap) : Data :=
  .map (m.map fun e => (.text e.1, (e.2.map Data.text).getD .null))

/-- The path of a volume. -/
def PathMap.get? (m : PathMap) (uuid : String) : Option String :=
  (m.find? fun e => e.1 == uuid).bind Prod.snd

open Schema in
/-- Reads a path map.  A node answers with a path for each volume it names. -/
def PathMap.read : Data → Checked PathMap :=
  readMap readText fun d => some <$> readText d

namespace Client

/-- The address of the setting on a node. -/
def url (c : Client) (address : String) : String :=
  c.scheme ++ "://" ++ address ++ "/diskbalancer/settings/" ++ c.setting

/-- Sends a request. -/
def send (r : Request) : Act World Outcome := fun w =>
  let (o, link) := w.link.send r
  (.ok o, { w with link := link })

/-- Asks a node for the setting. -/
def setting? (c : Client) (address : String) : Act World String := do
  Act.log .info ("Reading setting " ++ c.setting ++ " from node " ++ address)
  Act.log .debug ("Url=" ++ c.url address)
  match ← send ⟨c.url address, c.timeout⟩ with
  | .answered status body =>
    if isRefused status then do
      Act.log .error (Failure.rejected address status).message
      Act.log .debug ("Message: " ++ body)
      Act.fail (.rejected address status)
    else
      return body
  | .broke b =>
    match b.detailsFault? with
    | some fault => Act.fail (.badDetails fault)
    | none =>
      if b.isRefusal then Act.fail .answerMissing
      else if b.isConnection then Act.abort (.unreachable address b)
      else Act.fail (.escaped b)

/-- Why an answer holds no paths, or the paths. -/
def paths (address body : String) : Except Failure PathMap :=
  match Json.readString body with
  | .error (.malformed _ _) => .error (.badAnswer address .malformed)
  | .error fault => .error (.json fault)
  | .ok d =>
    match PathMap.read d with
    | .ok m => .ok m
    | .wrong issues => .error (.badAnswer address (.unfit issues))

/-- Asks a node for the paths of its volumes. -/
def volumePaths (c : Client) (address : String) : Act World PathMap := do
  let body ← c.setting? address
  match paths address body with
  | .ok m => return m
  | .error (.badAnswer address cause) => do
    Act.log .error (Failure.badAnswer address cause).message
    Act.log .debug ("Payload: " ++ body)
    Act.fail (.badAnswer address cause)
  | .error f => Act.fail f

end Client
end Net
end Rebalance
