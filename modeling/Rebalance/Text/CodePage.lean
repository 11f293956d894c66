/-!
# Codes of one byte for each character

Codes in which every byte stands for one character.  A page lists the characters of its bytes, with
NUL for a byte that stands for none; the pages themselves are in the modules below this one.
-/

namespace Rebalance
namespace Text

/-- A code by its name and its further names, with the characters of its bytes in order. -/
structure CodePage where
  name : String
  aliases : List String
  table : List Char
deriving DecidableEq, Repr

namespace CodePage

/-- A page given by the characters of all bytes. -/
def ofAll (name : String) (aliases : List String) (all : String) : CodePage :=
  ⟨name, aliases, all.toList⟩

/-- A page given by the characters from 0x80 on; the bytes below are those of ASCII. -/
def ofHigh (name : String) (aliases : List String) (high : String) : CodePage :=
  ⟨name, aliases, (List.range 0x80).map Char.ofNat ++ high.toList⟩

/-- A page given by the characters from 0xa0 on; the bytes below have their own numbers. -/
def ofStandard (name : String) (aliases : List String) (high : String) : CodePage :=
  ⟨name, aliases, (List.range 0xa0).map Char.ofNat ++ high.toList⟩

/-- The character of a byte.  NUL is that of the byte zero alone. -/
def char? (p : CodePage) (b : Nat) : Option Char :=
  match p.table[b]? with
  | none => none
  | some c => if c.toNat = 0 ∧ b ≠ 0 then none else some c

end CodePage
end Text
end Rebalance
