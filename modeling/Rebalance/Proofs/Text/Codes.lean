import Rebalance.Text.Codes

/-!
# Code points of texts

* `codes_lt`: the code points of a text are code points.
* `codes_concat`: the code points of texts one after the other.
* `IsOrdinary`: a character that counts for itself wherever it stands.
* `IsPlain`: a text that a file can hold as it is.
-/

namespace Rebalance
namespace Text

theorem codesAfter_lt
    (n : Nat)
    (cs : List Char) :
    ∀ code ∈ codesAfter n cs, code < 0x110000 := by
  have hmarks (n : Nat) : ∀ code ∈ List.replicate n markCode, code < 0x110000 := by
    intro code hcode
    rw [(List.mem_replicate.mp hcode).2]
    decide
  have hchar (c : Char) : c.toNat < 0x110000 := by
    have h : c.toNat.isValidChar := c.valid
    simp only [Nat.isValidChar] at h
    omega
  induction cs generalizing n with
  | nil => exact hmarks n
  | cons c rest ih =>
    have hc := hchar c
    intro code hcode
    rw [codesAfter] at hcode
    split at hcode
    · exact ih _ code hcode
    · split at hcode
      · rcases List.mem_append.mp hcode with hcode | hcode
        · exact hmarks _ code hcode
        · rcases List.mem_cons.mp hcode with rfl | hcode
          · split <;> omega
          · exact ih _ code hcode
      · rcases List.mem_append.mp hcode with hcode | hcode
        · exact hmarks _ code hcode
        · rcases List.mem_cons.mp hcode with rfl | hcode
          · exact hc
          · exact ih _ code hcode

/-- The code points of a text are code points. -/
theorem codes_lt
    (s : String) :
    ∀ code ∈ codes s, code < 0x110000 :=
  codesAfter_lt 0 s.toList

/-- The code points of texts one after the other. -/
theorem codes_concat
    (texts : List String) :
    codes (concat texts) = texts.flatMap codes := by
  unfold concat ofCodes codes
  rw [String.toList_ofList, codesOf_held]
  intro code hcode
  obtain ⟨s, _, hcode⟩ := List.mem_flatMap.mp hcode
  exact codes_lt s code hcode

/-! ## Ordinary characters -/

/-- Whether a character is neither a mark nor a stand-in. -/
def IsOrdinary (c : Char) : Prop :=
  c.toNat ≠ markCode ∧ isStandIn c.toNat = false

theorem isOrdinary_of_lt
    {c : Char}
    (h : c.toNat < 0x80) :
    IsOrdinary c := by
  have hlow : ¬ (0x10d800 ≤ c.toNat ∧ c.toNat ≤ 0x10dfff) := by omega
  refine ⟨?_, decide_eq_false hlow⟩
  unfold markCode
  omega

theorem codesOf_append
    (cs : List Char)
    {c : Char}
    (rest : List Char)
    (h : IsOrdinary c) :
    codesOf (cs ++ c :: rest) = codesOf cs ++ codesOf (c :: rest) :=
  codesAfter_append_cons 0 cs rest h.1 h.2

theorem codesOf_ordinary
    {cs : List Char}
    (h : ∀ c ∈ cs, IsOrdinary c)
    (rest : List Char) :
    codesOf (cs ++ rest) = cs.map Char.toNat ++ codesOf rest := by
  induction cs with
  | nil => rfl
  | cons c cs ih =>
    have hc := h c List.mem_cons_self
    rw [List.cons_append, codesOf_cons _ hc.1 hc.2,
      ih fun d hd => h d (List.mem_cons_of_mem c hd)]
    rfl

/-! ## Plain texts -/

/-- Whether a text holds neither a surrogate nor a carriage return. -/
def IsPlain (cs : List Char) : Prop :=
  ∀ code ∈ codesOf cs, isSurrogate code = false ∧ code ≠ '\r'.toNat

theorem isPlain_nil :
    IsPlain [] :=
  List.forall_mem_nil _

theorem isPlain_cons
    {c : Char}
    {cs : List Char}
    (hc : IsOrdinary c)
    (hr : c ≠ '\r')
    (h : IsPlain cs) :
    IsPlain (c :: cs) := by
  intro code hcode
  rw [codesOf_cons cs hc.1 hc.2] at hcode
  rcases List.mem_cons.mp hcode with rfl | hcode
  · exact ⟨isSurrogate_toNat c, fun he => hr (Char.toNat_inj.mp he)⟩
  · exact h code hcode

theorem isPlain_append_cons
    {cs rest : List Char}
    {c : Char}
    (h : IsPlain cs)
    (hc : IsOrdinary c)
    (hrest : IsPlain (c :: rest)) :
    IsPlain (cs ++ c :: rest) := by
  intro code hcode
  rw [codesOf_append cs rest hc] at hcode
  rcases List.mem_append.mp hcode with hcode | hcode
  · exact h code hcode
  · exact hrest code hcode

/-- A run of visible ASCII characters and blanks in front of a plain text leaves it plain. -/
theorem isPlain_append
    {cs rest : List Char}
    (h : ∀ c ∈ cs, c.toNat < 0x80 ∧ c ≠ '\r')
    (hrest : IsPlain rest) :
    IsPlain (cs ++ rest) := by
  induction cs with
  | nil => exact hrest
  | cons c cs ih =>
    obtain ⟨hlow, hr⟩ := h c List.mem_cons_self
    exact isPlain_cons (isOrdinary_of_lt hlow) hr
      (ih fun d hd => h d (List.mem_cons_of_mem c hd))

end Text
end Rebalance
