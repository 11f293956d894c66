import Rebalance.Text.Codes

/-!
# UTF-8

UTF-8, one sequence at a time.  `decodeOne` reads the longest prefix of its input that can still
begin a character and says either which code point it is or what is wrong with it.  A text is read
strictly by `decode?`, where the first fault is the answer, and forgivingly by `decodeLossy`, where
every faulty run becomes one replacement character.
-/

namespace Rebalance
namespace Text

/-- What is wrong with a run of bytes. -/
inductive Utf8Fault
  | badStart
  | badContinuation
  | truncated
deriving DecidableEq, Repr

/-- The fault in words. -/
def Utf8Fault.reason : Utf8Fault → String
  | .badStart => "invalid start byte"
  | .badContinuation => "invalid continuation byte"
  | .truncated => "unexpected end of data"

/-- Where the first fault of an input lies: the run of bytes from `start`, `length` of them, the
first of which is `byte`. -/
structure Utf8Error where
  fault : Utf8Fault
  byte : Nat
  start : Nat
  length : Nat
deriving DecidableEq, Repr

/-- How many bytes follow a first byte, and the range of the first of them. -/
def tailRule (b : Nat) : Option (Nat × Nat × Nat) :=
  if 0xc2 ≤ b ∧ b ≤ 0xdf then some (1, 0x80, 0xbf)
  else if b = 0xe0 then some (2, 0xa0, 0xbf)
  else if b = 0xed then some (2, 0x80, 0x9f)
  else if 0xe1 ≤ b ∧ b ≤ 0xef then some (2, 0x80, 0xbf)
  else if b = 0xf0 then some (3, 0x90, 0xbf)
  else if b = 0xf4 then some (3, 0x80, 0x8f)
  else if 0xf1 ≤ b ∧ b ≤ 0xf3 then some (3, 0x80, 0xbf)
  else none

/-- Reads `left` further bytes into a code point.  `size` counts the bytes read so far. -/
def decodeTail : Nat → Nat → Nat → Nat → Nat → List Nat →
    Except (Utf8Fault × Nat) (Nat × List Nat)
  | 0, _, _, _, code, rest => .ok (code, rest)
  | _ + 1, size, _, _, _, [] => .error (.truncated, size)
  | left + 1, size, low, high, code, b :: rest =>
    if low ≤ b ∧ b ≤ high then
      decodeTail left (size + 1) 0x80 0xbf (code * 64 + (b - 0x80)) rest
    else
      .error (.badContinuation, size)

/-- The code point at the head of the input, or the fault there and how many bytes it spans. -/
def decodeOne (b : Nat) (rest : List Nat) : Except (Utf8Fault × Nat) (Nat × List Nat) :=
  if b < 0x80 then .ok (b, rest)
  else
    match tailRule b with
    | none => .error (.badStart, 1)
    | some (n, low, high) => decodeTail n 1 low high (b % 2 ^ (6 - n)) rest

/-- Reads every sequence of an input of `total` bytes, with `fuel` for as many. -/
def decodeLoop (total : Nat) : Nat → List Nat → List Char → Except Utf8Error (List Char)
  | _, [], acc => .ok acc.reverse
  | 0, _ :: _, acc => .ok acc.reverse
  | fuel + 1, b :: rest, acc =>
    match decodeOne b rest with
    | .ok (code, rest) => decodeLoop total fuel rest (Char.ofNat code :: acc)
    | .error (fault, size) => .error ⟨fault, b, total - (rest.length + 1), size⟩

/-- The text of an input that is well formed. -/
def decode? (bytes : List Nat) : Except Utf8Error (List Char) :=
  decodeLoop bytes.length bytes.length bytes []

/-- Reads every sequence and puts a replacement character for each faulty run. -/
def decodeLossyLoop : Nat → List Nat → List Char → List Char
  | _, [], acc => acc.reverse
  | 0, _ :: _, acc => acc.reverse
  | fuel + 1, b :: rest, acc =>
    match decodeOne b rest with
    | .ok (code, rest') => decodeLossyLoop fuel rest' (Char.ofNat code :: acc)
    | .error (_, size) => decodeLossyLoop fuel (rest.drop (size - 1)) (Char.ofNat 0xfffd :: acc)

/-- The text of an input, faults replaced. -/
def decodeLossy (bytes : List Nat) : List Char :=
  decodeLossyLoop bytes.length bytes []

/-- The bytes of a code point. -/
def encodeOne (code : Nat) : List Nat :=
  if code < 0x80 then [code]
  else if code < 0x800 then [0xc0 + code / 64, 0x80 + code % 64]
  else if code < 0x10000 then [0xe0 + code / 4096, 0x80 + code / 64 % 64, 0x80 + code % 64]
  else
    [0xf0 + code / 262144, 0x80 + code / 4096 % 64, 0x80 + code / 64 % 64, 0x80 + code % 64]

/-- The bytes of a text. -/
def encode (s : String) : List Nat :=
  (codes s).flatMap encodeOne

/-- The message about bytes that a code cannot read. -/
def undecodable (code reason : String) (byte start length : Nat) : String :=
  let place :=
    if length = 1 then
      "byte 0x" ++ String.ofList (hexByte byte) ++ " in position " ++ toString start
    else "bytes in position " ++ toString start ++ "-" ++ toString (start + length - 1)
  "'" ++ code ++ "' codec can't decode " ++ place ++ ": " ++ reason
where
  /-- A byte as two hexadecimal digits. -/
  hexByte (b : Nat) : List Char :=
    [Nat.digitChar (b / 16), Nat.digitChar (b % 16)]

/-- The message for a fault. -/
def Utf8Error.message (e : Utf8Error) : String :=
  undecodable "utf-8" e.fault.reason e.byte e.start e.length

end Text
end Rebalance
