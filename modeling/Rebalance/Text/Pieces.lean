import Rebalance.Text.Utf8

/-!
# Texts read in pieces

A text that is read from bytes in pieces.  Bytes are taken up in chunks, and a sequence that a chunk
cuts off is kept for the next one, so the place of a fault counts from the start of its chunk.  A
carriage return, alone or in front of a line feed, reads as a line feed.

* `Pieces.ofBytes`: the pieces of a text, up to a fault.
-/

namespace Rebalance
namespace Text

/-- How many characters a piece has, but for the last one. -/
def pieceSize : Nat :=
  4096

/-- How many bytes a chunk has at least. -/
def chunkSize : Nat :=
  8192

/-- The pieces of a text up to its end, or up to the first piece that has a fault. -/
structure Pieces where
  texts : List (List Char)
  fault : Option Utf8Error
deriving DecidableEq, Repr

/-- Reads the sequences of a chunk, as long as they are whole: the characters and the bytes of a
sequence that is cut off. -/
def decodeChunk (bytes : List Nat) (isLast : Bool) : Except Utf8Error (List Char × List Nat) :=
  match decode? bytes with
  | .ok cs => .ok (cs, [])
  | .error e =>
    if isLast ∨ e.fault ≠ .truncated then .error e
    else (decode? (bytes.take e.start)).map fun cs => (cs, bytes.drop e.start)

/-- Line breaks as line feeds.  A carriage return at the end of a chunk is kept for the next one;
the answer says whether there is one. -/
def breaksOfChunk (isLast : Bool) : List Char → List Char × Bool
  | [] => ([], false)
  | ['\r'] => if isLast then (['\n'], false) else ([], true)
  | '\r' :: '\n' :: rest =>
    let (cs, kept) := breaksOfChunk isLast rest
    ('\n' :: cs, kept)
  | c :: rest =>
    let (cs, kept) := breaksOfChunk isLast rest
    ((if c = '\r' then '\n' else c) :: cs, kept)

/-- Bytes on their way to be a text: those to come, those of a sequence that was cut off, whether a
carriage return is kept, the characters that are ready, and how many bytes and characters the last
chunk had. -/
structure Inlet where
  bytes : List Nat
  cutOff : List Nat
  keptReturn : Bool
  ready : List Char
  byteCount : Nat
  charCount : Nat

namespace Inlet

/-- The size of the next chunk, when so many characters are wanted. -/
def nextSize (i : Inlet) (wanted : Nat) : Nat :=
  if i.byteCount ≤ i.charCount then max chunkSize wanted
  else if i.charCount = 0 then chunkSize
  else max chunkSize (wanted * i.byteCount / i.charCount)

/-- Takes up a chunk; the answer says whether the text goes on. -/
def fetch (i : Inlet) (wanted : Nat) : Except Utf8Error (Inlet × Bool) :=
  let chunk := i.bytes.take (i.nextSize wanted)
  let isLast := chunk.isEmpty
  match decodeChunk (i.cutOff ++ chunk) isLast with
  | .error e => .error e
  | .ok (cs, cutOff) =>
    let cs := if i.keptReturn && (isLast || !cs.isEmpty) then '\r' :: cs else cs
    let keeps := i.keptReturn && cs.isEmpty
    let (cs, keptReturn) := breaksOfChunk isLast cs
    .ok (⟨i.bytes.drop chunk.length, cutOff, keptReturn || keeps, i.ready ++ cs, chunk.length,
      cs.length⟩, !isLast || !cs.isEmpty)

/-- Takes up chunks until so many characters are ready or the text ends, with fuel for the
chunks. -/
def fill (wanted : Nat) : (fuel : Nat) → Inlet → Except Utf8Error Inlet
  | 0, i => .ok i
  | fuel + 1, i =>
    if wanted ≤ i.ready.length then .ok i
    else
      match i.fetch (wanted - i.ready.length) with
      | .error e => .error e
      | .ok (i, goesOn) => if goesOn then fill wanted fuel i else .ok i

end Inlet

namespace Pieces

/-- Reads pieces, with fuel for them. -/
def readLoop : (fuel : Nat) → Inlet → Pieces
  | 0, _ => ⟨[], none⟩
  | fuel + 1, i =>
    match i.fill pieceSize (i.bytes.length + 3) with
    | .error e => ⟨[], some e⟩
    | .ok i =>
      if i.ready.isEmpty then ⟨[], none⟩
      else
        let rest := readLoop fuel { i with ready := i.ready.drop pieceSize }
        { rest with texts := i.ready.take pieceSize :: rest.texts }

/-- The pieces of the text of some bytes. -/
def ofBytes (bytes : List Nat) : Pieces :=
  readLoop (bytes.length + 1) ⟨bytes, [], false, [], 0, 0⟩

end Pieces
end Text
end Rebalance
