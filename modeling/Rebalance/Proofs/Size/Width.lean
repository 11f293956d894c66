import Rebalance.Proofs.Size.Exact
import Rebalance.Proofs.Text.Codes

/-!
# How wide the texts of sizes are

* `isSizeChar_of_text?`: they are made of digits, a sign, a point, a space and the letters of units.
* `IsLong`: the sizes that are shown as 1000 of a unit or more, told from their number of bytes.
* `text?_width`: the text of a size below 1024 PiB has at most eleven characters, and has eleven
  just when the size is one of these.
-/

namespace Rebalance
namespace Size

open Decimal

/-! ## Characters -/

/-- The characters in the text of a size that are no digits. -/
def marks : List Char :=
  ['-', '.', ' ', 'B', 'K', 'M', 'G', 'T', 'P', 'i']

/-- Whether a character can stand in the text of a size. -/
def isSizeChar (c : Char) : Bool :=
  isDigit c || marks.contains c

theorem isSizeChar_of_mem_digits
    {n : ℕ}
    {c : Char}
    (h : c ∈ digits n) :
    isSizeChar c = true := by
  rw [isSizeChar, isDigit_of_mem_digits h, Bool.true_or]

theorem isSizeChar_intText
    {n : Int}
    {c : Char}
    (h : c ∈ (intText n).toList) :
    isSizeChar c = true := by
  cases n with
  | ofNat m =>
    rw [intText, String.toList_ofList] at h
    exact isSizeChar_of_mem_digits h
  | negSucc m =>
    rw [intText, String.toList_ofList] at h
    rcases List.mem_cons.mp h with rfl | h
    · rfl
    · exact isSizeChar_of_mem_digits h

theorem isSizeChar_hundredths
    {n : ℕ}
    {c : Char}
    (h : c ∈ hundredths n) :
    isSizeChar c = true := by
  simp only [hundredths, List.mem_append, List.mem_cons] at h
  rcases h with h | rfl | h | h
  · exact isSizeChar_of_mem_digits h
  · rfl
  · exact isSizeChar_of_mem_digits h
  · exact isSizeChar_of_mem_digits h

theorem unitName_mem
    (power : ℕ) :
    Shown.unitName power ∈ "" :: unitNames := by
  show unitNames.getD (power - 1) "" ∈ _
  rw [List.getD_eq_getElem?_getD]
  cases h : unitNames[power - 1]? with
  | none => exact List.mem_cons_self
  | some unit => exact List.mem_cons_of_mem _ (List.mem_of_getElem? h)

/-- The text of a size is made of digits, a sign, a point, a space and the letters of units. -/
theorem isSizeChar_of_text?
    {n : Int}
    {s : String}
    (h : text? n = some s)
    {c : Char}
    (hc : c ∈ s.toList) :
    isSizeChar c = true := by
  have hbytes : " B".toList.all isSizeChar = true := by decide
  have hunits : ("" :: unitNames).all (fun unit => unit.toList.all isSizeChar) = true := by decide
  unfold text? at h
  split at h
  · cases h
    rw [String.toList_append, List.mem_append] at hc
    exact hc.elim isSizeChar_intText (List.all_eq_true.mp hbytes c)
  · dsimp only at h
    split at h
    · cases h
    · cases h
      rw [scaledText_eq, Shown.text_eq, String.toList_append, String.toList_append,
        String.toList_ofList, List.mem_append, List.mem_append] at hc
      rcases hc with (hc | hc) | hc
      · exact isSizeChar_hundredths hc
      · obtain rfl : c = ' ' := List.mem_singleton.mp hc
        rfl
      · exact List.all_eq_true.mp (List.all_eq_true.mp hunits _ (unitName_mem _)) c hc

/-- The characters of sizes count for themselves. -/
theorem isOrdinary_of_isSizeChar
    {c : Char}
    (h : isSizeChar c = true) :
    Text.IsOrdinary c := by
  have hmarks : marks.all (fun c => decide (c.toNat < 0x80)) = true := by decide
  refine Text.isOrdinary_of_lt ?_
  rw [isSizeChar, Bool.or_eq_true, List.contains_iff_mem] at h
  rcases h with h | h
  · exact (low_of_isDigit h).1
  · exact of_decide_eq_true (List.all_eq_true.mp hmarks c h)

/-- The text of a size stands on one line. -/
theorem unbroken_of_text?
    {n : Int}
    {s : String}
    (h : text? n = some s) :
    '\n' ∉ s.toList := by
  intro hmem
  exact absurd (isSizeChar_of_text? h hmem) (by decide)

/-- The text of a size is as wide as it has characters. -/
theorem size_of_text?
    {n : Int}
    {s : String}
    (h : text? n = some s) :
    Text.size s.toList = s.toList.length := by
  have hcodes := Text.codesOf_ordinary
    (fun c hc => isOrdinary_of_isSizeChar (isSizeChar_of_text? h hc)) []
  rw [List.append_nil] at hcodes
  rw [Text.size, hcodes, List.length_append, List.length_map]
  rfl

/-! ## Widths -/

/-- Rounding to a double takes no number over 1024 PiB. -/
theorem toDouble_le
    {n : ℕ}
    (hn : 0 < n)
    (h : n ≤ 1024 ^ 6) :
    toDouble n ≤ 1024 ^ 6 := by
  let bound : Normal := ⟨2 ^ 52, 8, by decide, by decide⟩
  have hbound : bound.value = 1024 ^ 6 := by norm_num [bound, Normal.value]
  obtain ⟨d, hnearest, hvalue, _⟩ := exists_double hn
  have hle : d.value ≤ bound.value := by
    refine hnearest.value_le ?_
    rw [hbound]
    exact_mod_cast h
  rw [hvalue, hbound] at hle
  exact_mod_cast hle

/-- Whether a size is shown as 1000 of its unit or more: the double nearest to it is more than
999.995 of the greatest power of 1024 that fits. -/
def IsLong (n : ℕ) : Prop :=
  1024 ≤ n ∧ 199999 * 1024 ^ Nat.log 1024 n < 200 * toDouble n

instance (n : ℕ) : Decidable (IsLong n) :=
  inferInstanceAs (Decidable (1024 ≤ n ∧ 199999 * 1024 ^ Nat.log 1024 n < 200 * toDouble n))

/-- Half a hundredth below 1000 of a unit lies no whole number. -/
theorem half_ne
    (d : ℕ)
    {k : ℕ}
    (hk : k ≤ 5) :
    200 * d ≠ 199999 * 1024 ^ k := by
  have hcases : k = 0 ∨ k = 1 ∨ k = 2 ∨ k = 3 ∨ k = 4 ∨ k = 5 := by omega
  rcases hcases with rfl | rfl | rfl | rfl | rfl | rfl <;> omega

/-- A size below 1024 PiB is shown as 1024 of its unit at most, and as 1000 of it or more just when
it is a long one. -/
theorem shown_le
    {n : ℕ}
    (hleast : 1024 ≤ n)
    (hmost : n < 1024 ^ 6) :
    (shown (toDouble n)).hundredths ≤ 102400 ∧
      (100000 ≤ (shown (toDouble n)).hundredths ↔ IsLong n) := by
  have hlog : Nat.log 1024 n ≤ 5 := Nat.le_of_lt_succ (Nat.log_lt_of_lt_pow (by omega) hmost)
  have hunit : unitOf (toDouble n) = Nat.log 1024 n := by
    rw [unitOf_toDouble hleast, Nat.min_eq_right hlog]
  have hnext : toDouble n ≤ 1024 * 1024 ^ Nat.log 1024 n := by
    rw [← Nat.pow_succ']
    by_cases hlast : Nat.log 1024 n < 5
    · refine Nat.le_of_lt (Nat.lt_of_not_le fun hle => ?_)
      have hsmall : 1024 ^ (Nat.log 1024 n + 1) ≤ 2 ^ 53 :=
        Nat.le_trans (Nat.pow_le_pow_right (by decide) hlast) (by decide)
      exact Nat.not_le.mpr (Nat.lt_pow_succ_log_self (by decide) n)
        ((le_toDouble_iff hsmall).mp hle)
    · have hfive : Nat.log 1024 n = 5 := by omega
      rw [hfive]
      exact toDouble_le (by omega) hmost.le
  have hpos : 0 < 1024 ^ Nat.log 1024 n := Nat.pow_pos (by decide)
  have hround := two_mul_roundDiv_le (toDouble n * 100) hpos
  have htie := half_ne (toDouble n) hlog
  have hreach := le_roundDiv_iff 100000 (toDouble n * 100) hpos
  simp only [shown, hunit, IsLong]
  generalize 1024 ^ Nat.log 1024 n = unit at hnext hpos hround htie hreach ⊢
  generalize toDouble n = d at hnext hround htie hreach ⊢
  constructor
  · have hproduct : roundDiv (d * 100) unit * unit ≤ 102400 * unit + unit / 2 := by omega
    refine Nat.le_of_lt_succ (Nat.lt_of_not_le fun hover => ?_)
    have hmore := Nat.mul_le_mul_right unit hover
    omega
  · rw [hreach (by omega)]
    omega

/-- The text of a shown size has seven characters more than its number has digits in front of the
point. -/
theorem Shown.length_text
    {x : Shown}
    (h : x.IsNamed) :
    x.text.toList.length = width (x.hundredths / 100) + 7 := by
  have hname : ∀ p, p ≤ 5 → 1 ≤ p → (unitName p).toList.length = 3 := by decide
  have hdigit {d : ℕ} (hd : d < 10) : (digits d).length = 1 := by
    rw [digits, Nat.toDigits_of_lt_base hd]
    rfl
  rw [Shown.text_eq]
  simp only [String.toList_append, String.toList_ofList, List.length_append, hname _ h.2 h.1,
    Decimal.hundredths, List.length_cons, hdigit (by omega : x.hundredths % 100 / 10 < 10),
    hdigit (by omega : x.hundredths % 10 < 10), width]
  rfl

/-- The text of a size below 1024 PiB has at most eleven characters, and has eleven just when the
size is shown as 1000 of its unit or more. -/
theorem text?_width
    {n : ℕ}
    (h : n < 1024 ^ 6) :
    ∃ s, text? n = some s ∧ s.toList.length ≤ 11 ∧ (s.toList.length = 11 ↔ IsLong n) := by
  by_cases hbytes : n < 1024
  · have hwidth : width n ≤ 4 := (width_le_iff (by decide)).mpr (by omega)
    have hlength : (intText n ++ " B").toList.length = width n + 2 := by
      rw [String.toList_append, List.length_append]
      show (String.ofList (digits n)).toList.length + 2 = _
      rw [String.toList_ofList, width]
    refine ⟨intText n ++ " B", by rw [text?, if_pos (by omega)], by omega, ?_⟩
    exact ⟨fun heq => by omega, fun hlong => absurd hlong.1 (by omega)⟩
  · have hleast : 1024 ≤ n := Nat.not_lt.mp hbytes
    obtain ⟨hmost, hlong⟩ := shown_le hleast h
    have hlarge : ¬ (n : Int) < 1024 := by omega
    have hnamed := (shown_bounds ((le_toDouble_iff (by decide)).mpr hleast)).1
    have hfinite {k : ℕ} (hk : 60 < k) : ¬ 2 ^ k ≤ toDouble n := by
      refine Nat.not_le.mpr (Nat.lt_of_le_of_lt (toDouble_le (by omega) h.le) ?_)
      rw [(by decide : 1024 ^ 6 = 2 ^ 60)]
      exact Nat.pow_lt_pow_right (by decide) hk
    have htext : text? n = some (shown (toDouble n)).text := by
      rw [text?, if_neg hlarge, ← scaledText_eq]
      exact if_neg (hfinite (by decide : 60 < 1024))
    have hfour := width_le_iff (n := (shown (toDouble n)).hundredths / 100) (by decide : 0 < 4)
    have hthree := width_le_iff (n := (shown (toDouble n)).hundredths / 100) (by decide : 0 < 3)
    have hlength := Shown.length_text hnamed
    refine ⟨_, htext, by omega, ?_⟩
    rw [← hlong]
    omega

end Size
end Rebalance
