import Rebalance.Decimal.Rounded
import Rebalance.Template.Description
import Rebalance.Template.Fault
import Rebalance.Template.Kind
import Rebalance.Text.Classes
import Rebalance.Text.Wrap

/-!
# The values of a template's fields

A field begins with a text and goes on to members and numbered parts, which may be kinds, numbers,
lists, and members that are not called.

* `Value.member`: a named part.  What a kind says about its values comes first, then what a value
  has of its own, then what the kind lets its values do.
* `Value.item`: a part by its key.
-/

namespace Rebalance
namespace Template

/-- The greatest whole number a template may hold. -/
def greatest : Nat :=
  2 ^ 63 - 1

/-- The value of a run of decimal digits of any script. -/
def digitsValue (ds : List Char) : Nat :=
  ds.foldl (fun n c => n * 10 + (Text.digitValue? c).getD 0) 0

/-- Whether a character is a decimal digit of any script. -/
def isDecimal (c : Char) : Bool :=
  (Text.digitValue? c).isSome

/-- A text as a number, if it is one. -/
def index (cs : List Char) : Except Fault (Option Nat) :=
  if cs.isEmpty ∨ !cs.all isDecimal then .ok none
  else if greatest < digitsValue cs then .error .malformed
  else .ok (some (digitsValue cs))

/-- What a field can stand for.  `bound` is a member of a value that could be called, `loose` a
member of a kind apart from any value, `contents` all members of a kind, and `filled` a kind that
was given a part. -/
inductive Value
  | text (cs : List Char)
  | absent
  | whole (n : Nat)
  | kind (name : String)
  | tuple (items : List Value)
  | bound (isSlot : Bool) (self : Value) (owner name : String)
  | loose (sort : MemberSort) (owner name : String)
  | contents (kind : String)
  | filled (kind : String) (part : Value)

instance : Inhabited Value := ⟨.absent⟩

namespace Value

/-- The name of a value's kind. -/
def kindName : Value → String
  | .text _ => "str"
  | .absent => "NoneType"
  | .whole _ => "int"
  | .kind _ => "type"
  | .tuple _ => "tuple"
  | .bound isSlot _ _ _ => if isSlot then "method-wrapper" else "builtin_function_or_method"
  | .loose sort _ _ => sort.kind
  | .contents _ => "mappingproxy"
  | .filled _ _ => "types.GenericAlias"

/-! ## Texts -/

/-- A kind as a text. -/
def kindText (name : String) : String :=
  "<class '" ++ name ++ "'>"

/-- The place in memory that stands for all places in memory. -/
def somewhere : String :=
  "0x7f0000000000"

/-- A member of a value as a text. -/
def boundText (isSlot : Bool) (selfKind name : String) : String :=
  let subject := if isSlot then "method-wrapper " ++ Text.quote name else "built-in method " ++ name
  "<" ++ subject ++ " of " ++ selfKind ++ " object at " ++ somewhere ++ ">"

/-- The words that describe a kind. -/
def kindWords? (name : String) : Option String :=
  (kindDescriptions.find? fun e => e.1 == name).map Prod.snd

/-- A member of a kind as a text; `quote` shows texts. -/
def looseText (quote : String → String) (sort : MemberSort) (owner name : String) : String :=
  match sort with
  | .maker => boundText false "type" name
  | .function => "<staticmethod(" ++ boundText false "type" name ++ ")>"
  | .constant => if name = "__doc__" then ((kindWords? owner).map quote).getD "None" else "None"
  | sort => "<" ++ sort.word ++ " '" ++ name ++ "' of '" ++ owner ++ "' objects>"

/-- All members of a kind as a text, in their order. -/
def contentsText (quote : String → String) (name : String) : String :=
  let members := ((kind? name).map Kind.members).getD []
  let shown := members.flatMap fun (sort, names) =>
    names.map fun n => quote n ++ ": " ++ looseText quote sort name n
  "\x7b" ++ Text.joined ", " shown ++ "\x7d"

mutual

/-- A value as it is shown inside others; `quote` shows texts. -/
def quoted (quote : String → String) : Value → String
  | .text cs => quote (String.ofList cs)
  | .absent => "None"
  | .whole n => Decimal.intText n
  | .kind name => kindText name
  | .tuple [v] => "(" ++ quoted quote v ++ ",)"
  | .tuple vs => "(" ++ Text.joined ", " (quotedAll quote vs) ++ ")"
  | .bound isSlot self owner name =>
    boundText isSlot (if ownSort? owner name = some .function then "type" else self.kindName) name
  | .loose sort owner name => looseText quote sort owner name
  | .contents k => "mappingproxy(" ++ contentsText quote k ++ ")"
  | .filled k part => k ++ "[" ++ quoted quote part ++ "]"

/-- Values as they are shown inside others. -/
def quotedAll (quote : String → String) : List Value → List String
  | [] => []
  | v :: vs => quoted quote v :: quotedAll quote vs

end

/-- A value as plain text. -/
def plain : Value → List Char
  | .text cs => cs
  | .contents k => (contentsText Text.quote k).toList
  | v => (quoted Text.quote v).toList

/-- A value after a conversion. -/
def convert (v : Value) (c : Char) : Except Fault Value :=
  if c = 's' then .ok (.text v.plain)
  else if c = 'r' then .ok (.text (quoted Text.quote v).toList)
  else if c = 'a' then .ok (.text (quoted Text.quoteAscii v).toList)
  else .error .malformed

/-! ## Members -/

/-- A text, if there is one. -/
def ofText? : Option String → Value
  | some s => .text s.toList
  | none => .absent

/-- The description of a kind. -/
def kindDescription (name : String) : Value :=
  match kindWords? name, ownSort? name "__doc__" with
  | some words, _ => .text words.toList
  | none, some .property => .loose .property name "__doc__"
  | none, _ => .absent

/-- A constant of a kind. -/
def constant (owner member : String) : Value :=
  if member = "__doc__" then kindDescription owner else .absent

/-- What a kind says about itself. -/
def aboutKind (name member : String) : Option Value :=
  let measures := ((kind? name).map Kind.measures).getD ⟨0, 0, 0, 0, 0⟩
  let base := ((lineOf name).drop 1).map Value.kind
  match member with
  | "__name__" | "__qualname__" =>
    some (.text (if name = "types.GenericAlias" then "GenericAlias" else name).toList)
  | "__module__" =>
    some (.text (if name = "types.GenericAlias" then "types" else "builtins").toList)
  | "__bases__" => some (.tuple base)
  | "__base__" => some (base.head?.getD .absent)
  | "__mro__" => some (.tuple ((lineOf name).map Value.kind))
  | "__dict__" => some (.contents name)
  | "__doc__" => some (kindDescription name)
  | "__text_signature__" =>
    some (ofText? ((kindCallForms.find? fun e => e.1 == name).map Prod.snd))
  | "__basicsize__" => some (.whole measures.basic)
  | "__itemsize__" => some (.whole measures.item)
  | "__flags__" => some (.whole measures.flags)
  | "__weakrefoffset__" => some (.whole measures.references)
  | "__dictoffset__" => some (.whole measures.entries)
  | _ => none

/-- What a member says about itself; `owner` is the kind in front of its full name. -/
def aboutMember (fullOwner owner name member : String) : Option Value :=
  match member with
  | "__name__" => some (.text name.toList)
  | "__qualname__" =>
    let front := if ownSort? owner name = some .function then owner else fullOwner
    some (.text (front ++ "." ++ name).toList)
  | "__objclass__" => some (.kind owner)
  | "__doc__" => some (ofText? (descriptionOf owner name))
  | "__text_signature__" => some (ofText? (callFormOf owner name))
  | _ => none

/-- The kind in front of the full name of a member of a value. -/
def fullOwner : Value → String
  | .kind name => name
  | v => v.kindName

/-- What a value says about itself. -/
def about (v : Value) (member : String) : Option Value :=
  match v with
  | .kind name => aboutKind name member
  | .whole n =>
    match member with
    | "real" | "numerator" => some (.whole n)
    | "imag" => some (.whole 0)
    | "denominator" => some (.whole 1)
    | _ => none
  | .bound isSlot self owner name =>
    match member with
    | "__self__" => some self
    | "__module__" => some .absent
    | _ => aboutMember (if isSlot then owner else self.fullOwner) owner name member
  | .loose .function owner name =>
    if member = "__func__" ∨ member = "__wrapped__" then some (.bound false .absent owner name)
    else none
  | .loose _ owner name => aboutMember owner owner name member
  | _ => none

/-- A member that a kind lists, looked at apart from any value.  `self` is the kind it is looked at
through. -/
def looseMember (self owner : String) (sort : MemberSort) (name : String) : Value :=
  match sort with
  | .maker => .bound false (.kind owner) owner name
  | .function => .bound false .absent owner name
  | .kindMethod => .bound false (.kind self) owner name
  | .constant => constant owner name
  | sort => .loose sort owner name

/-- A member that a kind lists, looked at through a value. -/
def boundMember (v : Value) (owner : String) (sort : MemberSort) (name : String) : Option Value :=
  match sort with
  | .slot => some (.bound true v owner name)
  | .method => some (.bound false v owner name)
  | .property | .field => if name = "__class__" then some (.kind v.kindName) else v.about name
  | sort => some (looseMember v.kindName owner sort name)

/-- A member of a value that is no kind, or a member that kinds have as values. -/
def valueMember (v : Value) (name : String) : Option Value :=
  (findMember? v.kindName name).bind fun (owner, sort) => boundMember v owner sort name

/-- A member of a kind. -/
def kindMember (k name : String) : Option Value :=
  match findMember? "type" name, findMember? k name with
  | some (owner, sort), found =>
    if sort.isData then boundMember (.kind k) owner sort name
    else
      match found with
      | some (owner, sort) => some (looseMember k owner sort name)
      | none => boundMember (.kind k) owner sort name
  | none, some (owner, sort) => some (looseMember k owner sort name)
  | none, none => none

/-- A named part of a value. -/
def member? (v : Value) (name : String) : Option Value :=
  match v with
  | .kind k => kindMember k name
  | .filled k part =>
    match name with
    | "__class__" => some (.kind "types.GenericAlias")
    | "__origin__" => some (.kind k)
    | "__args__" => some (.tuple [part])
    | "__parameters__" => some (.tuple [])
    | name => kindMember k name
  | v => valueMember v name

/-- A named part of a value, which has to be there. -/
def member (v : Value) (name : String) : Except Fault Value :=
  match v.member? name with
  | some part => .ok part
  | none => .error .unknownAttribute

/-! ## Items -/

/-- An item at a place, which has to be there. -/
def itemAt {α : Type} (items : List α) (i : Nat) (f : α → Value) : Except Fault Value :=
  match items[i]? with
  | some a => .ok (f a)
  | none => .error .unknownIndex

/-- A part of a value by its key. -/
def item (v : Value) (key : List Char) : Except Fault Value :=
  match index key with
  | .error e => .error e
  | .ok i =>
    match v, i with
    | .text cs, some i => itemAt (Text.codesOf cs) i fun code => .text (Text.held [code])
    | .text _, none => .error .textKey
    | .tuple vs, some i => itemAt vs i id
    | .tuple _, none => .error .tupleKey
    | .contents k, none =>
      match ownSort? k (String.ofList key) with
      | some .kindMethod => .ok (.loose .kindMethod k (String.ofList key))
      | some .function => .ok (.loose .function k (String.ofList key))
      | some sort => .ok (looseMember k k sort (String.ofList key))
      | none => .error .unknownName
    | .contents _, some _ => .error .unknownName
    | .kind k, i =>
      if k = "type" ∨ (ownSort? k "__class_getitem__").isSome then
        .ok (.filled k ((i.map Value.whole).getD (.text key)))
      else .error (.notIndexable k)
    | .filled k part, _ => .error (.filled (quoted Text.quote (.filled k part)))
    | v, _ => .error (.noItems v.kindName)

end Value
end Template
end Rebalance
