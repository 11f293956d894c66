import Rebalance.Proofs.Decimal.Shortest
import Rebalance.Proofs.Json.Tokens

/-!
# The texts of doubles in JSON texts

* `isDouble_fraction` and `isDouble_exponent`: a numeral with a fraction or an exponent is read as
  a double.
* `scalar_storedText?`: so is the text of every finite double.
-/

namespace Rebalance
namespace Json

/-- Whether the whole of a text after its sign is read as a double. -/
def IsDouble (cs : List Char) : Prop :=
  ∀ start negative, ∃ x, number start negative cs = .ok (.float x, [])

/-! ## Digits -/

theorem takeWhile_of_digits
    {ds : List Char}
    (h : ∀ d ∈ ds, Decimal.isDigit d = true)
    {c : Char}
    (hc : Decimal.isDigit c = false)
    (rest : List Char) :
    (ds ++ c :: rest).takeWhile Decimal.isDigit = ds := by
  rw [List.takeWhile_append_of_pos h, List.takeWhile_cons_of_neg (by simp [hc]), List.append_nil]

theorem dropWhile_of_digits
    {ds : List Char}
    (h : ∀ d ∈ ds, Decimal.isDigit d = true)
    {c : Char}
    (hc : Decimal.isDigit c = false)
    (rest : List Char) :
    (ds ++ c :: rest).dropWhile Decimal.isDigit = c :: rest := by
  rw [List.dropWhile_append_of_pos h, List.dropWhile_cons_of_neg (by simp [hc])]

/-- Digits that do not begin with a zero are the whole part of what is read. -/
theorem wholeDigits?_cons
    {d : Char}
    (hzero : d ≠ '0')
    {ds : List Char}
    (h : ∀ x ∈ d :: ds, Decimal.isDigit x = true)
    {c : Char}
    (hc : Decimal.isDigit c = false)
    (rest : List Char) :
    wholeDigits? (d :: (ds ++ c :: rest)) = some (d :: ds, c :: rest) := by
  have hds : ∀ x ∈ ds, Decimal.isDigit x = true := fun x hx => h x (List.mem_cons_of_mem d hx)
  rw [wholeDigits?, if_neg hzero, if_pos (h d List.mem_cons_self), takeWhile_of_digits hds hc,
    dropWhile_of_digits hds hc]

/-! ## Fractions and exponents -/

theorem isDouble_fraction
    {cs whole ds : List Char}
    (hwhole : wholeDigits? cs = some (whole, '.' :: ds))
    (hne : ds ≠ [])
    (hds : ∀ d ∈ ds, Decimal.isDigit d = true) :
    IsDouble cs := by
  intro start negative
  have hfraction : takeFraction ('.' :: ds) = (ds, []) := by
    simp [takeFraction, List.takeWhile_eq_self_iff.mpr hds, List.dropWhile_eq_nil_iff.mpr hds, hne]
  rw [number, hwhole]
  dsimp only
  rw [hfraction, takeExponent, if_neg (by simp [hne])]
  exact ⟨_, rfl⟩

theorem takeExponent_exponentText
    (l : Decimal.Layout)
    (e : Int) :
    ∃ n, takeExponent ('e' :: l.exponentText e) = (some n, []) := by
  have hdigits : ∀ d ∈ Decimal.filled l.exponentWidth e.natAbs, Decimal.isDigit d = true :=
    fun _ hd => Decimal.isDigit_of_mem_filled hd
  have hne : Decimal.filled l.exponentWidth e.natAbs ≠ [] := by
    unfold Decimal.filled
    exact List.append_ne_nil_of_right_ne_nil _ (Decimal.digits_ne_nil _)
  have hsign : Decimal.takeSign (l.exponentText e)
      = (decide (e < 0), Decimal.filled l.exponentWidth e.natAbs) := by
    unfold Decimal.Layout.exponentText
    by_cases he : e < 0 <;> simp [he, Decimal.takeSign]
  rw [takeExponent, if_pos (.inl rfl), hsign]
  simp only [List.takeWhile_eq_self_iff.mpr hdigits, List.dropWhile_eq_nil_iff.mpr hdigits,
    List.isEmpty_iff, hne, if_false]
  exact ⟨_, rfl⟩

theorem isDouble_exponent
    {cs whole more fraction : List Char}
    {l : Decimal.Layout}
    {e : Int}
    (hwhole : wholeDigits? cs = some (whole, more))
    (hfraction : takeFraction more = (fraction, 'e' :: l.exponentText e)) :
    IsDouble cs := by
  intro start negative
  obtain ⟨n, hexponent⟩ := takeExponent_exponentText l e
  rw [number, hwhole]
  dsimp only
  rw [hfraction]
  dsimp only
  rw [hexponent, if_neg (by simp)]
  exact ⟨_, rfl⟩

/-! ## Positive numbers -/

/-- The text of a positive decimal number is read as a double, in every layout. -/
theorem isDouble_positive
    (l : Decimal.Layout)
    {s : Decimal.Scientific}
    (h : s.coefficient ≠ 0) :
    IsDouble (l.positive s) := by
  obtain ⟨d, ds, hds, hzero⟩ := Decimal.digits_eq_cons h
  have hdigits : ∀ x ∈ d :: ds, Decimal.isDigit x = true := fun x hx =>
    Decimal.isDigit_of_mem_digits (hds ▸ hx)
  have htail : ∀ x ∈ ds, Decimal.isDigit x = true := fun x hx =>
    hdigits x (List.mem_cons_of_mem d hx)
  have hzeros (k : Nat) : ∀ x ∈ List.replicate k '0', Decimal.isDigit x = true := by
    intro x hx
    rw [(List.mem_replicate.mp hx).2]
    rfl
  unfold Decimal.Layout.positive
  rw [hds]
  dsimp only
  split
  · next hplain =>
    split
    · -- The point stands before the digits.
      refine isDouble_fraction rfl (List.append_ne_nil_of_right_ne_nil _ (List.cons_ne_nil d ds)) ?_
      exact List.forall_mem_append.mpr ⟨hzeros _, hdigits⟩
    · next hpoint =>
      split
      · -- The point stands after the digits.
        have hall : ∀ x ∈ d :: (ds ++ List.replicate s.exponent.toNat '0'),
            Decimal.isDigit x = true := by
          rw [← List.cons_append]
          exact List.forall_mem_append.mpr ⟨hdigits, hzeros _⟩
        have hwhole := wholeDigits?_cons hzero hall (c := '.') (by decide) ['0']
        rw [List.append_assoc] at hwhole
        exact isDouble_fraction hwhole (by decide) (List.forall_mem_singleton.mpr rfl)
      · next hexponent =>
        -- The point stands among the digits.
        obtain ⟨k, hk⟩ : ∃ k, (((d :: ds).length : Int) + s.exponent).toNat = k + 1 :=
          Nat.exists_eq_add_one.mpr (by omega)
        have hlength : k < ds.length := by
          rw [List.length_cons] at hk
          omega
        rw [hk, List.take_succ_cons, List.drop_succ_cons]
        refine isDouble_fraction (wholeDigits?_cons hzero ?_ (by decide) (ds.drop k)) ?_ ?_
        · intro x hx
          rcases List.mem_cons.mp hx with rfl | hx
          · exact hdigits _ List.mem_cons_self
          · exact htail x (List.mem_of_mem_take hx)
        · exact fun he => absurd (List.drop_eq_nil_iff.mp he) (by omega)
        · exact fun x hx => htail x (List.mem_of_mem_drop hx)
  · generalize ((d :: ds).length : Int) + s.exponent - 1 = e
    rw [List.take_succ_cons, List.take_zero, List.drop_succ_cons, List.drop_zero]
    have hfirst : ∀ x ∈ [d], Decimal.isDigit x = true := fun x hx =>
      hdigits x (List.mem_singleton.mp hx ▸ List.mem_cons_self)
    cases ds with
    | nil =>
      have hfraction : takeFraction ('e' :: l.exponentText e) = ([], 'e' :: l.exponentText e) := rfl
      exact isDouble_exponent (wholeDigits?_cons hzero hfirst (by decide) _) hfraction
    | cons x xs =>
      have hfraction : takeFraction ('.' :: (x :: xs ++ 'e' :: l.exponentText e))
          = (x :: xs, 'e' :: l.exponentText e) := by
        simp only [takeFraction]
        rw [takeWhile_of_digits htail (by decide), dropWhile_of_digits htail (by decide)]
        rfl
      exact isDouble_exponent (wholeDigits?_cons hzero hfirst (by decide) _) hfraction

/-! ## Doubles -/

theorem IsDouble.exists_digit
    {cs : List Char}
    (h : IsDouble cs) :
    ∃ c more, cs = c :: more ∧ Decimal.isDigit c = true := by
  obtain ⟨x, hread⟩ := h [] false
  unfold number wholeDigits? at hread
  cases cs with
  | nil => cases hread
  | cons c more =>
    refine ⟨c, more, rfl, ?_⟩
    by_cases hzero : c = '0'
    · subst hzero
      rfl
    · by_cases hc : Decimal.isDigit c = true
      · exact hc
      · simp [hzero, hc] at hread

theorem scalar_of_isDouble
    {cs : List Char}
    (h : IsDouble cs)
    (negative : Bool) :
    ∃ x, scalar (if negative then '-' :: cs else cs) = .ok (.float x, []) := by
  obtain ⟨c, more, rfl, hc⟩ := h.exists_digit
  cases negative with
  | true =>
    rw [if_pos rfl, scalar, word?_minus hc]
    exact h _ true
  | false =>
    have hminus : c ≠ '-' := by
      rintro rfl
      cases hc
    rw [if_neg (by decide), scalar, word?_eq_none (not_mem_firstLetters hc)]
    · exact h _ false
    · exact fun _ he => hminus (List.cons.inj he).1

/-- The text of a finite double in a stored document is read as a double. -/
theorem scalar_storedText?
    {x : Float}
    {cs : List Char}
    (h : Decimal.storedText? x = some cs) :
    ∃ y, scalar cs = .ok (.float y, []) := by
  unfold Decimal.storedText? at h
  split at h
  · next negative m e _ =>
    cases h
    unfold Decimal.Layout.finite
    dsimp only
    by_cases hm : m = 0
    · rw [if_pos hm]
      have hzero : IsDouble ['0', '.', '0'] :=
        isDouble_fraction rfl (by decide) (List.forall_mem_singleton.mpr rfl)
      exact scalar_of_isDouble hzero negative
    · rw [if_neg hm]
      exact scalar_of_isDouble (isDouble_positive _ (Decimal.coefficient_shortest hm e)) negative
  · cases h

end Json
end Rebalance
