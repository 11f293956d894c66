import Mathlib.Data.List.Induction
import Rebalance.Proofs.Net.AddressText

/-!
# The spellings of the pieces of an address

* `eq_toDigits_of_digitChars`: digits without a zero in front are those of their number.
* `eq_textV4_of_readV4?`: an address of version 4 has one spelling.
* `IsPlainGroup`: a group of version 6 in small digits, without a zero in front.  It is the text of
  its number (`eq_toDigits_of_group?`).
* `IsFirstLongest`: the first of the longest runs of zero groups.  The run that a text leaves out is
  this one (`longestRun_eq_iff`).
-/

namespace Rebalance
namespace Net

/-! ## Digits without leading zeros -/

/-- A number is written in the digits that it was read from, if no zero is in front of them. -/
theorem toDigits_foldl
    {base : Nat}
    (hbase : 1 < base)
    {ks : List Nat}
    (hne : ks ≠ [])
    (hlt : ∀ k ∈ ks, k < base)
    (hzero : ks.head? = some 0 → ks.length = 1) :
    Nat.toDigits base (ks.foldl (fun n k => n * base + k) 0) = ks.map Nat.digitChar := by
  induction ks using List.reverseRecOn with
  | nil => exact absurd rfl hne
  | append_singleton front k ih =>
    have hk : k < base := hlt k (List.mem_append_right _ List.mem_cons_self)
    rw [List.foldl_append, List.foldl_cons, List.foldl_nil, List.map_append, List.map_singleton,
      Nat.toDigits_eq_if hbase]
    by_cases hfront : front = []
    · subst hfront
      rw [List.foldl_nil, Nat.zero_mul, Nat.zero_add, if_pos hk]
      rfl
    · -- The digits in front begin with the same digit, which is no zero now.
      have hhead : front.head? ≠ some 0 := by
        intro h
        have hlength := hzero (by rw [List.head?_append, h]; rfl)
        rw [List.length_append, List.length_singleton] at hlength
        exact hfront (List.length_eq_zero_iff.mp (by omega))
      have hdigits := ih hfront (fun x hx => hlt x (List.mem_append_left _ hx))
        fun h => absurd h hhead
      have hpos : front.foldl (fun n k => n * base + k) 0 ≠ 0 := by
        intro h
        rw [h, Nat.toDigits_zero] at hdigits
        obtain ⟨x, rest, rfl⟩ := List.exists_cons_of_ne_nil hfront
        rw [List.map_cons] at hdigits
        have hx : x = 0 := Nat.digitChar_eq_zero.mp (List.cons.inj hdigits).1.symm
        exact hhead (by rw [hx]; rfl)
      generalize front.foldl (fun n k => n * base + k) 0 = n at hdigits hpos ⊢
      have hge : ¬ n * base + k < base := by
        have : base ≤ n * base := Nat.le_mul_of_pos_left base (Nat.pos_of_ne_zero hpos)
        omega
      rw [if_neg hge, Nat.mul_comm, Nat.mul_add_div (by omega), Nat.div_eq_of_lt hk, Nat.add_zero,
        Nat.mul_add_mod, Nat.mod_eq_of_lt hk, hdigits]

/-- The digits of a number other than zero do not begin with a zero. -/
theorem toDigits_head
    {n : Nat}
    (h : (Nat.toDigits 16 n).head? = some '0') :
    n = 0 := by
  induction n using Nat.strongRecOn with
  | ind n ih =>
    rw [Nat.toDigits_eq_if (by decide)] at h
    split at h
    · exact Nat.digitChar_eq_zero.mp (Option.some.inj h)
    · next hge =>
      obtain ⟨c, rest, hdigits⟩ := List.exists_cons_of_ne_nil
        (Nat.toDigits_ne_nil : Nat.toDigits 16 (n / 16) ≠ [])
      rw [hdigits] at h
      have := ih (n / 16) (by omega) (by rw [hdigits]; exact h)
      omega

/-! ## Version 4 -/

theorem exists_of_isDigit
    {c : Char}
    (h : Decimal.isDigit c = true) :
    ∃ k < 10, c = k.digitChar ∧ c.toNat - '0'.toNat = k := by
  have hbounds : '0' ≤ c ∧ c ≤ '9' := of_decide_eq_true h
  have hlow : '0'.toNat ≤ c.toNat := hbounds.1
  have hhigh : c.toNat ≤ '9'.toNat := hbounds.2
  have hchars : ∀ k < 10, Char.ofNat ('0'.toNat + k) = k.digitChar := by decide
  have hzero : '0'.toNat = 48 := rfl
  have hnine : '9'.toNat = 57 := rfl
  refine ⟨c.toNat - '0'.toNat, by omega, ?_, rfl⟩
  rw [← hchars _ (by omega), Nat.add_sub_of_le hlow, Char.ofNat_toNat]

theorem exists_of_all_isDigit
    {ds : List Char}
    (h : ds.all Decimal.isDigit = true)
    (acc : Nat) :
    ∃ ks : List Nat, ds = ks.map Nat.digitChar ∧ (∀ k ∈ ks, k < 10) ∧
      Decimal.valueOf acc ds = ks.foldl (fun n k => n * 10 + k) acc := by
  induction ds generalizing acc with
  | nil => exact ⟨[], rfl, fun _ hk => (nomatch hk), rfl⟩
  | cons d ds ih =>
    obtain ⟨hd, hds⟩ := Bool.and_eq_true_iff.mp h
    obtain ⟨k, hk, hchar, hvalue⟩ := exists_of_isDigit hd
    obtain ⟨ks, hmap, hlt, hfold⟩ := ih hds (acc * 10 + k)
    refine ⟨k :: ks, by rw [List.map_cons, ← hmap, hchar], List.forall_mem_cons.mpr ⟨hk, hlt⟩, ?_⟩
    rw [List.foldl_cons, ← hfold, Decimal.valueOf, List.foldl_cons, hvalue]
    rfl

/-- Digits from which a number was read are its digits, if no zero is in front of them. -/
theorem eq_toDigits_of_digitChars
    {base : Nat}
    (hbase : 1 < base)
    {ks : List Nat}
    (hne : ks.map Nat.digitChar ≠ [])
    (hlt : ∀ k ∈ ks, k < base)
    (hzero : (ks.map Nat.digitChar).head? = some '0' → ks.map Nat.digitChar = ['0']) :
    ks.map Nat.digitChar = Nat.toDigits base (ks.foldl (fun n k => n * base + k) 0) := by
  refine (toDigits_foldl hbase (fun h => hne (List.map_eq_nil_iff.mpr h)) hlt ?_).symm
  intro hhead
  have hlength := congrArg List.length (hzero (by rw [List.head?_map, hhead]; rfl))
  rwa [List.length_map] at hlength

/-- An octet has one spelling. -/
theorem eq_digits_of_octet?
    {ds : List Char}
    {n : Nat}
    (h : octet? ds = some n) :
    ds = Decimal.digits n := by
  unfold octet? at h
  dsimp only at h
  split at h
  · cases h
  · next hshape =>
    split at h
    · cases h
    · next hvalue =>
      cases h
      simp only [not_or, Bool.not_eq_true, Bool.not_eq_false', List.isEmpty_eq_false_iff] at hshape
      obtain ⟨ks, rfl, hlt, hfold⟩ := exists_of_all_isDigit hshape.2.2 0
      rw [hfold, Decimal.digits, ← eq_toDigits_of_digitChars (by decide) hshape.1 hlt]
      intro hhead
      by_contra hlong
      exact hvalue (.inl ⟨hhead, hlong⟩)

/-- A number of version 4 has one spelling. -/
theorem eq_textV4_of_readV4?
    {cs : List Char}
    {n : Nat}
    (h : readV4? cs = some n) :
    cs = textV4 n := by
  unfold readV4? at h
  split at h
  · next a b c d hsplit =>
    obtain ⟨w, hw, h⟩ := Option.bind_eq_some_iff.mp h
    obtain ⟨x, hx, h⟩ := Option.bind_eq_some_iff.mp h
    obtain ⟨y, hy, h⟩ := Option.bind_eq_some_iff.mp h
    obtain ⟨z, hz, h⟩ := Option.bind_eq_some_iff.mp h
    cases h
    have hcs : ['.'].intercalate (cs.splitOn '.') = cs := List.intercalate_splitOn '.'
    have := octet?_le hw
    have := octet?_le hx
    have := octet?_le hy
    have := octet?_le hz
    have hw' : (((w * 256 + x) * 256 + y) * 256 + z) / 16777216 % 256 = w := by omega
    have hx' : (((w * 256 + x) * 256 + y) * 256 + z) / 65536 % 256 = x := by omega
    have hy' : (((w * 256 + x) * 256 + y) * 256 + z) / 256 % 256 = y := by omega
    have hz' : (((w * 256 + x) * 256 + y) * 256 + z) % 256 = z := by omega
    rw [hsplit, eq_digits_of_octet? hw, eq_digits_of_octet? hx, eq_digits_of_octet? hy,
      eq_digits_of_octet? hz] at hcs
    rw [textV4, hw', hx', hy', hz', ← hcs]
    simp
  · cases h

/-! ## Groups -/

/-- A hexadecimal digit that is no capital letter is the one of its value. -/
theorem eq_digitChar_of_hexValue?
    {c : Char}
    {k : Nat}
    (h : Text.hexValue? c = some k)
    (hlower : ¬ ('A' ≤ c ∧ c ≤ 'F')) :
    c = k.digitChar := by
  have hdigits : ∀ k < 10, Char.ofNat ('0'.toNat + k) = k.digitChar := by decide
  have hletters : ∀ k < 6, Char.ofNat ('a'.toNat + k) = (k + 10).digitChar := by decide
  unfold Text.hexValue? at h
  split at h
  · next hc =>
    cases h
    have hlow : '0'.toNat ≤ c.toNat := hc.1
    have hhigh : c.toNat ≤ '0'.toNat + 9 := hc.2
    rw [← hdigits _ (by omega), Nat.add_sub_of_le hlow, Char.ofNat_toNat]
  · split at h
    · next hc =>
      cases h
      have hlow : 'a'.toNat ≤ c.toNat := hc.1
      have hhigh : c.toNat ≤ 'a'.toNat + 5 := hc.2
      rw [← hletters _ (by omega), Nat.add_sub_of_le hlow, Char.ofNat_toNat]
    · cases h

theorem exists_of_foldlM_hexValue?
    {ds : List Char}
    {n acc : Nat}
    (h : ds.foldlM (fun n c => (Text.hexValue? c).map (n * 16 + ·)) acc = some n)
    (hlower : ∀ c ∈ ds, ¬ ('A' ≤ c ∧ c ≤ 'F')) :
    ∃ ks : List Nat, ds = ks.map Nat.digitChar ∧ (∀ k ∈ ks, k < 16) ∧
      n = ks.foldl (fun n k => n * 16 + k) acc := by
  induction ds generalizing acc with
  | nil =>
    cases h
    exact ⟨[], rfl, fun _ hk => (nomatch hk), rfl⟩
  | cons d ds ih =>
    rw [List.foldlM_cons] at h
    obtain ⟨m, hm, h⟩ := Option.bind_eq_some_iff.mp h
    obtain ⟨k, hk, rfl⟩ := Option.map_eq_some_iff.mp hm
    rw [List.forall_mem_cons] at hlower
    obtain ⟨ks, rfl, hlt, rfl⟩ := ih h hlower.2
    refine ⟨k :: ks, ?_, List.forall_mem_cons.mpr ⟨hexValue?_lt hk, hlt⟩, rfl⟩
    rw [List.map_cons, eq_digitChar_of_hexValue? hk hlower.1]

/-- Whether the digits of a group are no capital letters and no zero stands in front of them. -/
structure IsPlainGroup (ds : List Char) : Prop where
  lower : ∀ c ∈ ds, ¬ ('A' ≤ c ∧ c ≤ 'F')
  short : ds.head? = some '0' → ds = ['0']

theorem isPlainGroup_nil :
    IsPlainGroup [] :=
  ⟨fun _ h => (nomatch h), fun h => nomatch h⟩

theorem eq_toDigits_of_group?
    {ds : List Char}
    {g : Nat}
    (h : group? ds = some g)
    (hplain : IsPlainGroup ds) :
    ds = Nat.toDigits 16 g := by
  unfold group? at h
  split at h
  · cases h
  · next hshape =>
    rw [not_or, Bool.not_eq_true, List.isEmpty_eq_false_iff] at hshape
    obtain ⟨ks, rfl, hlt, rfl⟩ := exists_of_foldlM_hexValue? h hplain.lower
    exact eq_toDigits_of_digitChars (by decide) hshape.1 hlt hplain.short

theorem eq_map_toDigits_of_mapM
    {ps : List (List Char)}
    {groups : List Nat}
    (h : ps.mapM group? = some groups)
    (hplain : ∀ p ∈ ps, IsPlainGroup p) :
    ps = groups.map (Nat.toDigits 16) := by
  induction ps generalizing groups with
  | nil =>
    cases h
    rfl
  | cons p ps ih =>
    rw [List.mapM_cons] at h
    obtain ⟨g, hg, h⟩ := Option.bind_eq_some_iff.mp h
    obtain ⟨gs, hgs, h⟩ := Option.bind_eq_some_iff.mp h
    cases h
    rw [List.forall_mem_cons] at hplain
    rw [List.map_cons, ← eq_toDigits_of_group? hg hplain.1, ← ih hgs hplain.2]

theorem isPlainGroup_toDigits
    (g : Nat) :
    IsPlainGroup (Nat.toDigits 16 g) := by
  have hlower : ∀ k < 16, ¬ ('A' ≤ k.digitChar ∧ k.digitChar ≤ 'F') := by decide
  refine ⟨?_, ?_⟩
  · intro c hc
    obtain ⟨k, hk, rfl⟩ := exists_digitChar_of_mem hc
    exact hlower k hk
  · intro h
    rw [toDigits_head h]
    rfl

theorem groupsOf_joinGroups
    {groups : List Nat}
    (h : AreGroups groups) :
    groupsOf (joinGroups groups) = groups := by
  obtain ⟨hlength, hlt⟩ := h
  match groups, hlength with
  | [a, b, c, d, e, f, g, k], _ =>
    simp only [List.forall_mem_cons] at hlt
    obtain ⟨ha, hb, hc, hd, he, hf, hg, hk, -⟩ := hlt
    simp only [joinGroups, List.foldl_cons, List.foldl_nil, groupsOf, List.cons.injEq, and_true]
    refine ⟨?_, ?_, ?_, ?_, ?_, ?_, ?_, ?_⟩ <;> omega

/-! ## The first longest run of zeros -/

/-- Whether a run of zero groups is no shorter than any other, and in front of those as long. -/
structure IsFirstLongest (groups : List Nat) (start length : Nat) : Prop where
  zeros : ∀ j < length, groups[start + j]? = some 0
  longest : ∀ i m, (∀ j < m, groups[i + j]? = some 0) → m ≤ length
  first : ∀ i, (∀ j < length, groups[i + j]? = some 0) → start ≤ i

theorem zeroRun_cons
    (g : Nat)
    (rest : List Nat) :
    zeroRun (g :: rest) = if g = 0 then zeroRun rest + 1 else 0 := by
  unfold zeroRun
  rw [List.takeWhile_cons]
  by_cases h : g = 0
  · rw [if_pos (beq_iff_eq.mpr h), if_pos h, List.length_cons]
  · rw [if_neg (fun heq => h (beq_iff_eq.mp heq)), if_neg h, List.length_nil]

theorem le_zeroRun_iff
    {groups : List Nat}
    {m : Nat} :
    m ≤ zeroRun groups ↔ ∀ j < m, groups[j]? = some 0 := by
  induction groups generalizing m with
  | nil =>
    constructor
    · intro h j hj
      exact absurd (Nat.lt_of_lt_of_le hj h) (Nat.not_lt_zero j)
    · intro h
      refine Nat.le_of_not_lt fun hpos => ?_
      cases h 0 hpos
  | cons g rest ih =>
    cases m with
    | zero => exact iff_of_true (Nat.zero_le _) fun _ hj => absurd hj (Nat.not_lt_zero _)
    | succ m =>
      rw [zeroRun_cons]
      constructor
      · intro h j hj
        split at h
        · next hg =>
          cases j with
          | zero => rw [List.getElem?_cons_zero, hg]
          | succ j =>
            rw [List.getElem?_cons_succ]
            exact ih.mp (Nat.le_of_succ_le_succ h) j (Nat.lt_of_succ_lt_succ hj)
        · exact absurd h (Nat.not_succ_le_zero m)
      · intro h
        have hg : g = 0 := Option.some.inj (h 0 (Nat.succ_pos m))
        rw [if_pos hg]
        refine Nat.succ_le_succ (ih.mpr fun j hj => ?_)
        have hnext := h (j + 1) (Nat.succ_lt_succ hj)
        rwa [List.getElem?_cons_succ] at hnext

/-- The run that is chosen is the first longest one. -/
theorem isFirstLongest_longestRun
    (i : Nat)
    (groups : List Nat) :
    ∃ start, (longestRun i groups).1 = i + start ∧
      IsFirstLongest groups start (longestRun i groups).2 := by
  induction groups generalizing i with
  | nil =>
    refine ⟨0, rfl, fun _ hj => absurd hj (Nat.not_lt_zero _), ?_, fun _ _ => Nat.zero_le _⟩
    intro p m h
    refine Nat.le_of_not_lt fun hpos => ?_
    cases h 0 hpos
  | cons g rest ih =>
    obtain ⟨start, hplace, hzeros, hlongest, hfirst⟩ := ih (i + 1)
    have hhere {m : Nat} (h : ∀ j < m, (g :: rest)[0 + j]? = some 0) :
        m ≤ zeroRun (g :: rest) := by
      refine le_zeroRun_iff.mpr fun j hj => ?_
      have hj' := h j hj
      rwa [Nat.zero_add] at hj'
    have hlater {p m : Nat} (h : ∀ j < m, (g :: rest)[p + 1 + j]? = some 0) :
        ∀ j < m, rest[p + j]? = some 0 := by
      intro j hj
      have hj' := h j hj
      rwa [Nat.add_right_comm, List.getElem?_cons_succ] at hj'
    unfold longestRun
    dsimp only
    split
    · next hle =>
      refine ⟨0, rfl, ?_, ?_, fun _ _ => Nat.zero_le _⟩
      · intro j hj
        rw [Nat.zero_add]
        exact le_zeroRun_iff.mp (Nat.le_refl _) j hj
      · intro p m h
        cases p with
        | zero => exact hhere h
        | succ p => exact Nat.le_trans (hlongest p m (hlater h)) hle
    · next hgt =>
      refine ⟨start + 1, by rw [hplace, Nat.add_assoc, Nat.add_comm 1], ?_, ?_, ?_⟩
      · intro j hj
        rw [Nat.add_right_comm, List.getElem?_cons_succ]
        exact hzeros j hj
      · intro p m h
        cases p with
        | zero => exact Nat.le_trans (hhere h) (Nat.le_of_not_le hgt)
        | succ p => exact hlongest p m (hlater h)
      · intro p h
        cases p with
        | zero => exact absurd (hhere h) hgt
        | succ p => exact Nat.succ_le_succ (hfirst p (hlater h))

theorem longestRun_eq_iff
    {groups : List Nat}
    {start length : Nat} :
    longestRun 0 groups = (start, length) ↔ IsFirstLongest groups start length := by
  obtain ⟨s, hs, hrun⟩ := isFirstLongest_longestRun 0 groups
  rw [Nat.zero_add] at hs
  constructor
  · intro h
    rw [h] at hs hrun
    rwa [← hs] at hrun
  · intro h
    have hlength : (longestRun 0 groups).2 = length :=
      Nat.le_antisymm (h.longest s _ hrun.zeros) (hrun.longest start _ h.zeros)
    have hstart : s = start := by
      rw [hlength] at hrun
      exact Nat.le_antisymm (hrun.first start h.zeros) (h.first s hrun.zeros)
    rw [← hlength, ← hstart, ← hs]

/-- The longest run has less than two groups just when no zero groups stand side by side. -/
theorem longestRun_lt_two_iff
    {groups : List Nat} :
    (longestRun 0 groups).2 < 2 ↔ ∀ i, ¬ (groups[i]? = some 0 ∧ groups[i + 1]? = some 0) := by
  obtain ⟨start, -, hrun⟩ := isFirstLongest_longestRun 0 groups
  constructor
  · rintro h i ⟨hi, hnext⟩
    refine absurd (hrun.longest i 2 ?_) (Nat.not_le.mpr h)
    intro j hj
    match j, hj with
    | 0, _ => exact hi
    | 1, _ => exact hnext
  · intro h
    refine Nat.lt_of_not_le fun hle => h start ⟨?_, ?_⟩
    · exact hrun.zeros 0 (by omega)
    · exact hrun.zeros 1 (by omega)

end Net
end Rebalance
