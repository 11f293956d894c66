import Rebalance.Text.Codes

/-!
# Padded texts

Padding a text to a width, which counts code points.  A text that is already as wide is left alone.
Centred text of odd slack leans by a rule of its caller: `centre` gives the odd space to the left in
a column of odd width and to the right in a column of even width, `middle` always gives it to the
right.
-/

namespace Rebalance
namespace Text

/-- `n` copies of a character before a text and `m` after it. -/
def pad (fill : Char) (n m : Nat) (cs : List Char) : List Char :=
  List.replicate n fill ++ (cs ++ List.replicate m fill)

/-- A text flush left. -/
def flushLeft (fill : Char) (width : Nat) (cs : List Char) : List Char :=
  pad fill 0 (width - size cs) cs

/-- A text flush right. -/
def flushRight (fill : Char) (width : Nat) (cs : List Char) : List Char :=
  pad fill (width - size cs) 0 cs

/-- A text in the middle, the odd fill character on its right. -/
def middle (fill : Char) (width : Nat) (cs : List Char) : List Char :=
  let slack := width - size cs
  pad fill (slack / 2) (slack - slack / 2) cs

/-- The part of the slack that goes to the left of a centred text. -/
def centreLeft (width slack : Nat) : Nat :=
  slack / 2 + slack % 2 * (width % 2)

/-- A text centred in a column. -/
def centre (width : Nat) (cs : List Char) : List Char :=
  let slack := width - size cs
  pad ' ' (centreLeft width slack) (slack - centreLeft width slack) cs

/-- A text padded with spaces is as long as its parts. -/
theorem size_pad (n m : Nat) (cs : List Char) : size (pad ' ' n m cs) = n + (size cs + m) := by
  have hm : (' ').toNat ≠ markCode := by decide
  have hi : isStandIn (' ').toNat = false := by decide
  have spaces : ∀ k, (codesOf (List.replicate k ' ')).length = k := by
    intro k
    induction k with
    | zero => rfl
    | succ k ih => rw [List.replicate_succ, codesOf_cons _ hm hi, List.length_cons, ih]
  have after : (codesOf (cs ++ List.replicate m ' ')).length = size cs + m := by
    cases m with
    | zero => simp [size]
    | succ m =>
      rw [List.replicate_succ, codesOf, codesAfter_append_cons 0 cs _ hm hi, List.length_append,
        ← List.replicate_succ, spaces]
      rfl
  rw [size, pad]
  induction n with
  | zero => simpa using after
  | succ n ih =>
    rw [List.replicate_succ, List.cons_append, codesOf_cons _ hm hi, List.length_cons, ih]
    omega

theorem centreLeft_le (width slack : Nat) : centreLeft width slack ≤ slack := by
  unfold centreLeft
  have h : slack % 2 * (width % 2) ≤ slack % 2 * 1 :=
    Nat.mul_le_mul_left _ (by omega)
  omega

/-- A centred text fills its column, or keeps its own length when that is greater. -/
theorem size_centre (width : Nat) (cs : List Char) :
    size (centre width cs) = max width (size cs) := by
  have h := centreLeft_le width (width - size cs)
  simp only [centre, size_pad]
  omega

end Text
end Rebalance
