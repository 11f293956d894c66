import Rebalance.Details
import Rebalance.Text.Codes
import Rebalance.Text.Utf8

/-!
# The link to the nodes

What the network will do is a list of outcomes: a request takes the first one, and the last one
stays for all further requests.  The link keeps a list of the requests made.
-/

namespace Rebalance
namespace Net

/-- A request that failed before an answer came: the kind of the failure and its details. -/
structure Breakdown where
  kind : String
  details : List Data

/-- What happens to a request. -/
inductive Outcome
  | answered (status : Int) (body : String)
  | broke (b : Breakdown)

/-- An address asked for, and how many seconds to wait. -/
structure Request where
  url : String
  timeout : Int
deriving DecidableEq, Repr

/-- The outcomes to come and the requests made. -/
structure Link where
  script : List Outcome
  requests : List Request

/-- What is wrong with the details of a failure that has to say where a decoder stopped: its lines
cannot be counted, or they do not fit in another way. -/
inductive DetailsFault
  | uncounted (kind : String)
  | unfit (words : String)

/-- The words of a fault in details. -/
def DetailsFault.message : DetailsFault → String
  | .uncounted kind => Text.quote kind ++ " object has no attribute 'count'"
  | .unfit words => words

namespace Breakdown

/-- Whether the failure is the refusal of an answer that never came. -/
def isRefusal (b : Breakdown) : Bool :=
  b.kind == "HTTPError"

/-- The kinds of failure that are no failures of a connection. -/
def foreignKinds : List String :=
  ["RequestsWarning", "FileModeWarning", "RequestsDependencyWarning", "BaseHTTPError",
   "CompatJSONDecodeError"]

/-- Whether the failure is one of the connection. -/
def isConnection (b : Breakdown) : Bool :=
  !foreignKinds.contains b.kind

/-- The kinds of failure that say where a decoder stopped. -/
def decoderKinds : List String :=
  ["JSONDecodeError", "CompatJSONDecodeError"]

/-- What is wrong with the details of a failure that has to say where a decoder stopped.  The text
is looked at before the place in it. -/
def detailsFault? (b : Breakdown) : Option DetailsFault :=
  let missing (names : String) : Option DetailsFault :=
    some (.unfit ("JSONDecodeError.__init__() missing " ++ names))
  if !decoderKinds.contains b.kind then none
  else
    match b.details with
    | [] => missing "3 required positional arguments: 'msg', 'doc', and 'pos'"
    | [_] => missing "2 required positional arguments: 'doc' and 'pos'"
    | [_, _] => missing "1 required positional argument: 'pos'"
    | [_, .text _, .int _] | [_, .text _, .bool _] => none
    | [_, .text _, .null] =>
      some (.unfit "unsupported operand type(s) for -: 'NoneType' and 'int'")
    | [_, .text _, _] =>
      some (.unfit "slice indices must be integers or None or have an __index__ method")
    | [_, .list _, _] => some (.unfit "list.count() takes exactly one argument (3 given)")
    | [_, doc, _] => some (.uncounted doc.kindName)
    | ds =>
      some (.unfit ("JSONDecodeError.__init__() takes 4 positional arguments but "
        ++ Decimal.intText (ds.length + 1 : Nat) ++ " were given"))

/-- What a failure says. -/
def text (b : Breakdown) : String :=
  if decoderKinds.contains b.kind then
    match b.details with
    | [words, .text doc, pos] =>
      words.plain ++ ": " ++ (Text.Place.ofIndex (Text.codes doc) ((Data.whole? pos).getD 0)).text
    | ds => Details.text ⟨true, ds⟩
  else Details.text ⟨b.isConnection, b.details⟩

end Breakdown

namespace Link

/-- Makes a request. -/
def send (l : Link) (r : Request) : Outcome × Link :=
  let made := l.requests ++ [r]
  match l.script with
  | [] => (.answered 200 "", ⟨[], made⟩)
  | [o] => (o, ⟨[o], made⟩)
  | o :: rest => (o, ⟨rest, made⟩)

end Link

/-- Whether a status refuses a request. -/
def isRefused (status : Int) : Bool :=
  decide (400 ≤ status ∧ status < 600)

end Net
end Rebalance
