import Rebalance.Decimal.Numeral
import Rebalance.Text.Classes
import Rebalance.Text.Quoted

/-!
# Network addresses

An address of version 4 is read from four decimal octets without leading zeros.  An address of
version 6 is read in every standard spelling: groups of at most four hexadecimal digits in either
case, one `::` for a run of zero groups, a version 4 tail, a zone after `%`.  It is written in
lower case with the first longest run of two or more zero groups replaced by `::`.
-/

namespace Rebalance
namespace Net

/-- An address of one of the two versions.  A version 6 address may name a zone, given by its code
points; an empty name means none. -/
inductive Address
  | v4 (value : Nat)
  | v6 (value : Nat) (zone : List Nat)
deriving DecidableEq, Repr

/-- The value of an octet: at most three digits, no leading zero, at most 255. -/
def octet? (ds : List Char) : Option Nat :=
  let n := Decimal.valueOf 0 ds
  if ds.isEmpty ∨ 3 < ds.length ∨ !ds.all Decimal.isDigit then none
  else if (ds.head? = some '0' ∧ ds ≠ ['0']) ∨ 255 < n then none
  else some n

/-- The value of four octets. -/
def readV4? (cs : List Char) : Option Nat :=
  match cs.splitOn '.' with
  | [a, b, c, d] => do
    let a ← octet? a
    let b ← octet? b
    let c ← octet? c
    let d ← octet? d
    return ((a * 256 + b) * 256 + c) * 256 + d
  | _ => none

/-- The value of a group of hexadecimal digits, four at most. -/
def group? (ds : List Char) : Option Nat :=
  if ds.isEmpty ∨ 4 < ds.length then none
  else ds.foldlM (fun n c => (Text.hexValue? c).map (n * 16 + ·)) 0

/-- Groups with a version 4 tail turned into its two groups of hexadecimal digits. -/
def expandTail? (parts : List (List Char)) : Option (List (List Char)) :=
  match parts.getLast? with
  | none => some parts
  | some last =>
    if last.contains '.' then
      (readV4? last).map fun n =>
        parts.dropLast ++ [Text.hexFixed 4 (n / 65536), Text.hexFixed 4 (n % 65536)]
    else some parts

/-- The number made of groups. -/
def joinGroups (groups : List Nat) : Nat :=
  groups.foldl (fun n g => n * 65536 + g) 0

/-- The eight groups of a text without its zone. -/
def groups? (parts : List (List Char)) : Option (List Nat) :=
  let inner := (parts.drop 1).dropLast
  match inner.findIdx? List.isEmpty with
  | none => if parts.length = 8 then parts.mapM group? else none
  | some i =>
    if 1 < (inner.filter List.isEmpty).length then none
    else
      let high := parts.take (i + 1)
      let low := parts.drop (i + 2)
      let high? :=
        if high.head? = some [] then (if high.length = 1 then some [] else none) else some high
      let low? :=
        if low.getLast? = some [] then (if low.length = 1 then some [] else none) else some low
      match high?, low? with
      | some high, some low =>
        if 7 < high.length + low.length then none
        else do
          let high ← high.mapM group?
          let low ← low.mapM group?
          return high ++ (List.replicate (8 - high.length - low.length) 0 ++ low)
      | _, _ => none

/-- The value of a version 6 address without its zone. -/
def readV6? (cs : List Char) : Option Nat :=
  let parts := cs.splitOn ':'
  if parts.length < 3 then none
  else do
    let parts ← expandTail? parts
    if 9 < parts.length then none
    else (groups? parts).map joinGroups

/-- Separates the zone from an address. -/
def splitZone? (codes : List Nat) : Option (List Nat × List Nat) :=
  let mark := '%'.toNat
  match codes.dropWhile (· ≠ mark) with
  | [] => some (codes, [])
  | _ :: zone =>
    if zone.isEmpty ∨ zone.contains mark then none else some (codes.takeWhile (· ≠ mark), zone)

/-- Reads an address. -/
def Address.read? (s : String) : Option Address :=
  let codes := Text.codes s
  if codes.contains '/'.toNat then none
  else
    match readV4? (codes.map Char.ofNat) with
    | some n => some (.v4 n)
    | none => do
      let (body, zone) ← splitZone? codes
      let n ← readV6? (body.map Char.ofNat)
      return .v6 n zone

/-- The address with a number: one of version 4 if the number fits, else one of version 6. -/
def Address.ofInt? (n : Int) : Option Address :=
  if n < 0 then none
  else if n < 2 ^ 32 then some (.v4 n.toNat)
  else if n < 2 ^ 128 then some (.v6 n.toNat [])
  else none

/-- The address packed into four or sixteen bytes. -/
def Address.ofBytes? (bs : List Nat) : Option Address :=
  let n := bs.foldl (fun n b => n * 256 + b) 0
  if bs.any fun b => 256 ≤ b then none
  else if bs.length = 4 then some (.v4 n)
  else if bs.length = 16 then some (.v6 n [])
  else none

/-- The version of an address. -/
def Address.version : Address → Nat
  | .v4 _ => 4
  | .v6 _ _ => 6

/-- The text of a version 4 address. -/
def textV4 (n : Nat) : List Char :=
  Decimal.digits (n / 16777216 % 256) ++ '.' :: (Decimal.digits (n / 65536 % 256)
    ++ '.' :: (Decimal.digits (n / 256 % 256) ++ '.' :: Decimal.digits (n % 256)))

/-- The eight groups of a version 6 address. -/
def groupsOf (n : Nat) : List Nat :=
  [n / 2 ^ 112 % 65536, n / 2 ^ 96 % 65536, n / 2 ^ 80 % 65536, n / 2 ^ 64 % 65536,
   n / 2 ^ 48 % 65536, n / 2 ^ 32 % 65536, n / 2 ^ 16 % 65536, n % 65536]

/-- How many zero groups a list begins with. -/
def zeroRun (groups : List Nat) : Nat :=
  (groups.takeWhile (· == 0)).length

/-- The place and length of the first longest run of zero groups from place `i` on. -/
def longestRun (i : Nat) : List Nat → Nat × Nat
  | [] => (i, 0)
  | g :: rest =>
    let here := zeroRun (g :: rest)
    let later := longestRun (i + 1) rest
    if later.2 ≤ here then (i, here) else later

/-- Groups in hexadecimal digits with colons between them. -/
def groupsText (groups : List Nat) : List Char :=
  List.intercalate [':'] (groups.map (Nat.toDigits 16))

/-- The text of a version 6 address without a zone. -/
def textV6 (n : Nat) : List Char :=
  let groups := groupsOf n
  let (start, length) := longestRun 0 groups
  if length < 2 then groupsText groups
  else
    groupsText (groups.take start) ++ ':' :: ':' :: groupsText (groups.drop (start + length))

/-- The text of an address. -/
def Address.text : Address → String
  | .v4 n => String.ofList (textV4 n)
  | .v6 n zone =>
    String.ofList (textV6 n) ++ (if zone.isEmpty then "" else "%" ++ Text.ofCodes zone)

/-- Where to reach a port of an address.  A version 6 address stands in square brackets. -/
def Address.endpoint (a : Address) (port : Nat) : String :=
  let host := if a.version = 6 then "[" ++ a.text ++ "]" else a.text
  host ++ ":" ++ Decimal.intText port

end Net
end Rebalance
