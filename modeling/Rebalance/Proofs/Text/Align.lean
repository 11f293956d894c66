import Rebalance.Proofs.Text.Codes
import Rebalance.Text.Align

/-!
# Texts in columns

* `slice`: the part of a text between two places, counted in code points.
* `codesOf_append_space`: a space parts the code points of a text.
* `centre_of_le`: a text that fills its column stays as it is.
* `trim_centre`: a text without spaces at its ends is what is left of its column without them.
-/

namespace Rebalance
namespace Text

/-- The characters of a text between two places, counted in code points. -/
def slice (start stop : Nat) (cs : List Char) : List Char :=
  held (((codesOf cs).take stop).drop start)

/-- The part that lies between two others is found by its place. -/
theorem slice_eq
    {cs part : List Char}
    {before after : List Nat}
    (h : codesOf cs = before ++ (codesOf part ++ after))
    {start stop : Nat}
    (hstart : before.length = start)
    (hstop : start + size part = stop) :
    slice start stop cs = part := by
  have hpart : ((codesOf cs).take stop).drop start = codesOf part := by
    rw [h, ← hstop, ← hstart, size, ← List.append_assoc, ← List.length_append, List.take_left,
      List.drop_left]
  rw [slice, hpart, held_codesOf]

theorem isOrdinary_space :
    IsOrdinary ' ' :=
  isOrdinary_of_lt (by decide)

/-- A space counts for itself wherever it stands, and parts a text into two. -/
theorem codesOf_append_space
    (cs rest : List Char) :
    codesOf (cs ++ ' ' :: rest) = codesOf cs ++ ' '.toNat :: codesOf rest := by
  rw [codesOf_append cs rest isOrdinary_space,
    codesOf_cons rest isOrdinary_space.1 isOrdinary_space.2]

/-! ## Centred texts -/

theorem pad_zero
    (fill : Char)
    (cs : List Char) :
    pad fill 0 0 cs = cs := by
  simp [pad]

/-- A text that fills its column stays as it is. -/
theorem centre_of_le
    {width : Nat}
    {cs : List Char}
    (h : width ≤ size cs) :
    centre width cs = cs := by
  have hslack : width - size cs = 0 := by omega
  simp [centre, hslack, centreLeft, pad_zero]

/-- A text that is no wider than its column fills it when it is centred. -/
theorem size_centre_of_le
    {width : Nat}
    {cs : List Char}
    (h : size cs ≤ width) :
    size (centre width cs) = width := by
  rw [size_centre, Nat.max_eq_left h]

theorem count_centre
    (width : Nat)
    (cs : List Char)
    {c : Char}
    (h : c ≠ ' ') :
    (centre width cs).count c = cs.count c := by
  simp [centre, pad, List.count_replicate, Ne.symm h]

/-! ## Without the spaces -/

theorem dropWhile_space
    (n : Nat)
    {cs : List Char}
    (h : cs.head? ≠ some ' ') :
    (List.replicate n ' ' ++ cs).dropWhile (· == ' ') = cs := by
  induction n with
  | zero =>
    cases cs with
    | nil => rfl
    | cons c cs =>
      have hc : c ≠ ' ' := by simpa using h
      simp [hc]
  | succ n ih => simpa [List.replicate_succ] using ih

/-- A text without spaces at its ends is what is left of a padded one without them. -/
theorem trim_pad
    (n m : Nat)
    {cs : List Char}
    (hfirst : cs.head? ≠ some ' ')
    (hlast : cs.getLast? ≠ some ' ') :
    trim (· == ' ') (pad ' ' n m cs) = cs := by
  unfold trim pad
  cases cs with
  | nil =>
    have hspaces : (List.replicate (n + m) ' ' ++ []).dropWhile (· == ' ') = [] :=
      dropWhile_space (n + m) (by simp)
    rw [List.append_nil, ← List.replicate_append_replicate] at hspaces
    rw [List.nil_append, hspaces]
    rfl
  | cons c rest =>
    have hfront : (List.replicate n ' ' ++ (c :: rest ++ List.replicate m ' ')).dropWhile (· == ' ')
        = c :: rest ++ List.replicate m ' ' := dropWhile_space n (by simpa using hfirst)
    have hback : (List.replicate m ' ' ++ (c :: rest).reverse).dropWhile (· == ' ')
        = (c :: rest).reverse := dropWhile_space m (by rwa [List.head?_reverse])
    rw [hfront, List.reverse_append, List.reverse_replicate, hback, List.reverse_reverse]

theorem trim_centre
    (width : Nat)
    {cs : List Char}
    (hfirst : cs.head? ≠ some ' ')
    (hlast : cs.getLast? ≠ some ' ') :
    trim (· == ' ') (centre width cs) = cs :=
  trim_pad _ _ hfirst hlast

end Text
end Rebalance
