import Rebalance.Proofs.Text.Codes
import Rebalance.Text.Utf8
import Rebalance.Text.Wrap

/-!
# The bytes of a text and the text of bytes

* `decodeOne_encodeOne`: the bytes of a code point are read as that code point, whatever follows.
* `decode?_encode`: the bytes of a text without surrogates are read as its code points.
* `read_of_isPlain`: a plain text that was stored in a file is read from it as it was.
-/

namespace Rebalance
namespace Text

/-- Whether a number is a code point that has bytes of its own. -/
def IsEncodable (code : Nat) : Prop :=
  code < 0x110000 ∧ isSurrogate code = false

theorem isValidChar_of_isEncodable
    {code : Nat}
    (h : IsEncodable code) :
    code.isValidChar := by
  obtain ⟨hlt, hs⟩ := h
  simp only [isSurrogate, decide_eq_false_iff_not] at hs
  simp only [Nat.isValidChar]
  omega

/-! ## First bytes -/

theorem tailRule_two :
    ∀ k < 30, tailRule (0xc2 + k) = some (1, 0x80, 0xbf) := by
  decide

theorem tailRule_three :
    ∀ k < 16, tailRule (0xe0 + k) =
      some (2, if k = 0 then 0xa0 else 0x80, if k = 13 then 0x9f else 0xbf) := by
  decide

theorem tailRule_four :
    ∀ k < 5, tailRule (0xf0 + k) =
      some (3, if k = 0 then 0x90 else 0x80, if k = 4 then 0x8f else 0xbf) := by
  decide

/-! ## One code point -/

theorem decodeTail_cons
    (left size : Nat)
    {low high b : Nat}
    (code : Nat)
    (rest : List Nat)
    (h : low ≤ b ∧ b ≤ high) :
    decodeTail (left + 1) size low high code (b :: rest) =
      decodeTail left (size + 1) 0x80 0xbf (code * 64 + (b - 0x80)) rest := by
  rw [decodeTail, if_pos h]

theorem decodeOne_two
    {code : Nat}
    (hlow : 0x80 ≤ code)
    (hhigh : code < 0x800)
    (rest : List Nat) :
    decodeOne (0xc0 + code / 64) ((0x80 + code % 64) :: rest) = .ok (code, rest) := by
  have hrule := tailRule_two (code / 64 - 2) (by omega)
  have hfirst : 0xc2 + (code / 64 - 2) = 0xc0 + code / 64 := by omega
  rw [hfirst] at hrule
  have hnot : ¬ 0xc0 + code / 64 < 0x80 := by omega
  have hcode : (0xc0 + code / 64) % 2 ^ (6 - 1) * 64 + (0x80 + code % 64 - 0x80) = code := by
    omega
  rw [decodeOne, if_neg hnot, hrule]
  dsimp only
  rw [decodeTail_cons _ _ _ _ (by omega), hcode]
  rfl

theorem decodeOne_three
    {code : Nat}
    (hlow : 0x800 ≤ code)
    (hhigh : code < 0x10000)
    (hs : ¬ (0xd800 ≤ code ∧ code ≤ 0xdfff))
    (rest : List Nat) :
    decodeOne (0xe0 + code / 4096) ((0x80 + code / 64 % 64) :: (0x80 + code % 64) :: rest)
      = .ok (code, rest) := by
  have hrule := tailRule_three (code / 4096) (by omega)
  have hnot : ¬ 0xe0 + code / 4096 < 0x80 := by omega
  have hcode : ((0xe0 + code / 4096) % 2 ^ (6 - 2) * 64 + (0x80 + code / 64 % 64 - 0x80)) * 64
      + (0x80 + code % 64 - 0x80) = code := by
    omega
  rw [decodeOne, if_neg hnot, hrule]
  dsimp only
  -- The second byte has a narrower range after the first and the fourteenth of the first bytes.
  rw [decodeTail_cons _ _ _ _ (by split <;> split <;> omega), decodeTail_cons _ _ _ _ (by omega),
    hcode]
  rfl

theorem decodeOne_four
    {code : Nat}
    (hlow : 0x10000 ≤ code)
    (hhigh : code < 0x110000)
    (rest : List Nat) :
    decodeOne (0xf0 + code / 262144)
      ((0x80 + code / 4096 % 64) :: (0x80 + code / 64 % 64) :: (0x80 + code % 64) :: rest)
      = .ok (code, rest) := by
  have hrule := tailRule_four (code / 262144) (by omega)
  have hnot : ¬ 0xf0 + code / 262144 < 0x80 := by omega
  have hcode : (((0xf0 + code / 262144) % 2 ^ (6 - 3) * 64 + (0x80 + code / 4096 % 64 - 0x80)) * 64
      + (0x80 + code / 64 % 64 - 0x80)) * 64 + (0x80 + code % 64 - 0x80) = code := by
    omega
  rw [decodeOne, if_neg hnot, hrule]
  dsimp only
  rw [decodeTail_cons _ _ _ _ (by split <;> split <;> omega), decodeTail_cons _ _ _ _ (by omega),
    decodeTail_cons _ _ _ _ (by omega), hcode]
  rfl

/-- The bytes of a code point are read as that code point, whatever follows. -/
theorem decodeOne_encodeOne
    {code : Nat}
    (h : IsEncodable code) :
    ∃ b tail, encodeOne code = b :: tail ∧
      ∀ rest, decodeOne b (tail ++ rest) = .ok (code, rest) := by
  obtain ⟨hlt, hs⟩ := h
  simp only [isSurrogate, decide_eq_false_iff_not] at hs
  unfold encodeOne
  split
  · next h₁ =>
    refine ⟨_, _, rfl, ?_⟩
    intro rest
    rw [decodeOne, if_pos h₁]
    rfl
  · next h₁ =>
    split
    · next h₂ => exact ⟨_, _, rfl, decodeOne_two (Nat.not_lt.mp h₁) h₂⟩
    · next h₂ =>
      split
      · next h₃ => exact ⟨_, _, rfl, decodeOne_three (Nat.not_lt.mp h₂) h₃ hs⟩
      · next h₃ => exact ⟨_, _, rfl, decodeOne_four (Nat.not_lt.mp h₃) hlt⟩

/-! ## Texts -/

theorem decodeLoop_encode
    (total : Nat)
    {codes : List Nat}
    (h : ∀ code ∈ codes, IsEncodable code)
    {fuel : Nat}
    (hfuel : codes.length ≤ fuel)
    (acc : List Char) :
    decodeLoop total fuel (codes.flatMap encodeOne) acc
      = .ok (acc.reverse ++ codes.map Char.ofNat) := by
  induction codes generalizing fuel acc with
  | nil =>
    rw [List.flatMap_nil, decodeLoop, List.map_nil, List.append_nil]
  | cons code codes ih =>
    obtain ⟨b, tail, hcode, hread⟩ := decodeOne_encodeOne (h code List.mem_cons_self)
    cases fuel with
    | zero => cases hfuel
    | succ fuel =>
      rw [List.flatMap_cons, hcode, List.cons_append, decodeLoop, hread]
      dsimp only
      rw [ih (fun x hx => h x (List.mem_cons_of_mem code hx)) (Nat.le_of_succ_le_succ hfuel)]
      rw [List.reverse_cons, List.append_assoc]
      rfl

theorem length_le_encode
    (codes : List Nat) :
    codes.length ≤ (codes.flatMap encodeOne).length := by
  induction codes with
  | nil => exact Nat.le_refl 0
  | cons code codes ih =>
    have hpos : 0 < (encodeOne code).length := by
      unfold encodeOne
      split
      · exact Nat.one_pos
      · split
        · exact Nat.two_pos
        · split <;> exact Nat.succ_pos _
    rw [List.flatMap_cons, List.length_append, List.length_cons]
    omega

/-- The bytes of a text without surrogates are read as its code points. -/
theorem decode?_encode
    {s : String}
    (h : ∀ code ∈ codes s, isSurrogate code = false) :
    decode? (encode s) = .ok ((codes s).map Char.ofNat) :=
  decodeLoop_encode _ (fun code hcode => ⟨codes_lt s code hcode, h code hcode⟩)
    (length_le_encode _) []

theorem unifyBreaks_of_not_mem
    {cs : List Char}
    (h : '\r' ∉ cs) :
    unifyBreaks cs = cs := by
  induction cs with
  | nil => rfl
  | cons c cs ih =>
    have hc : c ≠ '\r' := fun he => h (he ▸ List.mem_cons_self)
    have hcs : '\r' ∉ cs := fun hmem => h (List.mem_cons_of_mem c hmem)
    rw [unifyBreaks, ih hcs]
    · intro rest he _
      exact hc he
    · exact hc

/-- A plain text that was stored in a file is read from it as it was. -/
theorem read_of_isPlain
    {s : String}
    (h : IsPlain s.toList) :
    ∃ cs, decode? (encode s) = .ok cs ∧ heldChars (unifyBreaks cs) = s.toList := by
  have hvalid : ∀ code ∈ codes s, code.isValidChar := fun code hcode =>
    isValidChar_of_isEncodable ⟨codes_lt s code hcode, (h code hcode).1⟩
  have hback : ((codes s).map Char.ofNat).map Char.toNat = codes s := by
    rw [List.map_map]
    exact (List.map_congr_left fun code hcode => toNat_ofNat (hvalid code hcode)).trans
      (List.map_id _)
  refine ⟨_, decode?_encode fun code hcode => (h code hcode).1, ?_⟩
  rw [unifyBreaks_of_not_mem, heldChars, hback]
  · exact held_codesOf s.toList
  · intro hmem
    obtain ⟨code, hcode, he⟩ := List.mem_map.mp hmem
    refine (h code hcode).2 ?_
    rw [← he, toNat_ofNat (hvalid code hcode)]

end Text
end Rebalance
