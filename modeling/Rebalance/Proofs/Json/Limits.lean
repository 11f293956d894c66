import Rebalance.Proofs.Decimal.Digits
import Rebalance.Json.Reader

/-!
# The limits of reading a text

A text that breaks the grammar is malformed.  Any other text that is not read goes beyond a limit:
too many containers are open in it, or too many digits stand in a row.

* `Bounded`: what a reader at the head of a text comes to; `bounded_value` says it of every value.
* `openings_of_read`, `digits_of_read`: the texts that go beyond a limit.
* `exists_malformed`: a text within the limits is malformed when it is not read.
-/

namespace Rebalance
namespace Json

open Decimal

/-! ## Limits -/

/-- Whether a character opens a container. -/
def isOpening (c : Char) : Bool :=
  c == '[' || c == '\x7b'

/-- How many characters of a text open a container. -/
def openings (cs : List Char) : Nat :=
  cs.countP isOpening

/-- Whether so many digits stand in a row in a text. -/
def HasRun (count : Nat) (cs : List Char) : Prop :=
  ∃ ds, ds <:+: cs ∧ ds.all isDigit = true ∧ ds.length = count

theorem openings_le
    {rest cs : List Char}
    (h : rest <:+ cs) :
    openings rest ≤ openings cs :=
  h.sublist.countP_le

theorem openings_cons
    {c : Char}
    (h : isOpening c = true)
    (cs : List Char) :
    openings (c :: cs) = openings cs + 1 :=
  List.countP_cons_of_pos h

theorem HasRun.mono
    {count : Nat}
    {rest cs : List Char}
    (h : HasRun count rest)
    (hrest : rest <:+ cs) :
    HasRun count cs := by
  obtain ⟨ds, hds, hdigits, hlength⟩ := h
  exact ⟨ds, hds.trans hrest.isInfix, hdigits, hlength⟩

/-- What a reader at the head of a text, inside `depth` containers, may come to: it leaves an end of
the text, or it goes beyond a limit, or it is stuck. -/
def Bounded {α : Type} (depth : Nat) (cs : List Char) : Except Halt (α × List Char) → Prop
  | .ok (_, rest) => rest <:+ cs
  | .error (.stuck _ _) => True
  | .error (.tooDeep _) => depthLimit < depth + openings cs
  | .error (.tooManyDigits count) => digitLimit < count ∧ HasRun count cs

section Bounded

variable {α β : Type} {depth : Nat} {cs rest : List Char}

theorem Bounded.mono
    {r : Except Halt (α × List Char)}
    (h : Bounded depth rest r)
    (hrest : rest <:+ cs) :
    Bounded depth cs r := by
  rcases r with (_ | _ | _) | ⟨a, more⟩
  · trivial
  · exact Nat.lt_of_lt_of_le h (Nat.add_le_add_left (openings_le hrest) depth)
  · exact ⟨h.1, h.2.mono hrest⟩
  · exact List.IsSuffix.trans h hrest

/-- A halt inside a part of a text is one of the text. -/
theorem Bounded.halt
    {e : Halt}
    (h : Bounded depth cs (.error e : Except Halt (α × List Char))) :
    Bounded depth cs (.error e : Except Halt (β × List Char)) := by
  cases e <;> exact h

/-- A halt inside a container is one of the text that the container opens. -/
theorem Bounded.inside
    {c : Char}
    (hc : isOpening c = true)
    {e : Halt}
    (h : Bounded (depth + 1) cs (.error e : Except Halt (α × List Char))) :
    Bounded depth (c :: cs) (.error e : Except Halt (β × List Char)) := by
  cases e with
  | stuck lapse at_ => trivial
  | tooDeep inObject =>
    show depthLimit < depth + openings (c :: cs)
    have hdeep : depthLimit < depth + 1 + openings cs := h
    rw [openings_cons hc]
    omega
  | tooManyDigits count => exact ⟨h.1, h.2.mono (List.suffix_cons c cs)⟩

theorem Bounded.map
    {r : Except Halt (α × List Char)}
    (h : Bounded depth cs r)
    {f : α × List Char → β × List Char}
    (hf : ∀ p, (f p).2 = p.2) :
    Bounded depth cs (r.map f) := by
  rcases r with e | ⟨a, more⟩
  · exact h.halt
  · show (f (a, more)).2 <:+ cs
    rw [hf]
    exact h

end Bounded

/-! ## Strings -/

theorem skip_suffix
    (cs : List Char) :
    skip cs <:+ cs :=
  List.dropWhile_suffix _

theorem bounded_parts
    (depth : Nat)
    (start cs : List Char) :
    Bounded depth cs (parts start cs) := by
  fun_induction parts start cs with
  | case1 => trivial
  | case2 rest => exact List.suffix_cons _ _
  | case3 => trivial
  | case4 => trivial
  | case5 a b c d e rest code _ ih =>
    refine Bounded.mono (Bounded.map ih ?_) ⟨['\\', 'u', a, b, c, d], rfl⟩
    exact fun _ => rfl
  | case6 e rest c _ _ ih =>
    refine Bounded.mono (Bounded.map ih ?_) ⟨['\\', e], rfl⟩
    exact fun _ => rfl
  | case7 => trivial
  | case8 => trivial
  | case9 => trivial
  | case10 c rest _ _ _ _ _ ih =>
    refine Bounded.mono (Bounded.map ih ?_) (List.suffix_cons c rest)
    exact fun _ => rfl

theorem bounded_string
    (depth : Nat)
    (cs : List Char) :
    Bounded depth cs (string cs) :=
  (bounded_parts depth _ cs).map fun _ => rfl

/-! ## Words and numbers -/

theorem suffix_of_after?
    {word cs rest : List Char}
    (h : after? word cs = some rest) :
    rest <:+ cs := by
  induction word generalizing cs with
  | nil =>
    cases h
    exact List.suffix_rfl
  | cons w word ih =>
    cases cs with
    | nil => cases h
    | cons c cs =>
      unfold after? at h
      split at h
      · exact (ih h).trans (List.suffix_cons c cs)
      · cases h

theorem suffix_of_word?
    {cs rest : List Char}
    {d : Data}
    (h : word? cs = some (d, rest)) :
    rest <:+ cs := by
  obtain ⟨⟨w, d'⟩, _, hword⟩ := List.exists_of_findSome?_eq_some h
  obtain ⟨more, hafter, hmore⟩ := Option.map_eq_some_iff.mp hword
  cases hmore
  exact suffix_of_after? hafter

theorem wholeDigits?_eq
    {cs ds rest : List Char}
    (h : wholeDigits? cs = some (ds, rest)) :
    ds ++ rest = cs ∧ ds.all isDigit = true := by
  cases cs with
  | nil => cases h
  | cons c cs =>
    simp only [wholeDigits?] at h
    split at h
    · next hzero =>
      cases h
      exact ⟨by simp [hzero], rfl⟩
    · split at h
      · next hdigit =>
        cases h
        simp [hdigit]
      · cases h

theorem takeFraction_suffix
    (cs : List Char) :
    (takeFraction cs).2 <:+ cs := by
  unfold takeFraction
  split
  · dsimp only
    split
    · exact List.suffix_rfl
    · exact (List.dropWhile_suffix _).trans (List.suffix_cons _ _)
  · exact List.suffix_rfl

theorem takeSign_suffix
    (cs : List Char) :
    (takeSign cs).2 <:+ cs := by
  unfold takeSign
  split
  · exact List.suffix_cons _ _
  · exact List.suffix_cons _ _
  · exact List.suffix_rfl

theorem takeExponent_suffix
    (cs : List Char) :
    (takeExponent cs).2 <:+ cs := by
  unfold takeExponent
  split
  · exact List.suffix_rfl
  · split
    · dsimp only
      split
      · exact List.suffix_rfl
      · exact ((List.dropWhile_suffix _).trans (takeSign_suffix _)).trans (List.suffix_cons _ _)
    · exact List.suffix_rfl

theorem bounded_number
    (depth : Nat)
    (start : List Char)
    (negative : Bool)
    (cs : List Char) :
    Bounded depth cs (number start negative cs) := by
  unfold number
  split
  · trivial
  · next whole rest hwhole =>
    obtain ⟨rfl, hdigits⟩ := wholeDigits?_eq hwhole
    have hrest : (takeExponent (takeFraction rest).2).2 <:+ whole ++ rest :=
      ((takeExponent_suffix _).trans (takeFraction_suffix _)).trans (List.suffix_append _ _)
    dsimp only
    split
    · split
      · next hlong =>
        exact ⟨hlong, whole, (List.prefix_append _ _).isInfix, hdigits, rfl⟩
      · exact hrest
    · exact hrest

theorem bounded_scalar
    (depth : Nat)
    (cs : List Char) :
    Bounded depth cs (scalar cs) := by
  unfold scalar
  split
  · next r hword => exact suffix_of_word? hword
  · split
    · exact (bounded_number depth _ _ _).mono (List.suffix_cons _ _)
    · exact bounded_number depth _ _ _

/-! ## Values -/

theorem suffix_of_skip
    {c : Char}
    {cs rest : List Char}
    (h : skip cs = c :: rest) :
    rest <:+ cs :=
  (List.suffix_cons c rest).trans (h ▸ skip_suffix cs)

theorem bounded_value_succ
    {fuel : Nat}
    (hitems : ∀ depth cs, Bounded depth cs (items fuel depth cs))
    (hentries : ∀ depth cs, Bounded depth cs (entries fuel depth cs))
    (depth : Nat)
    (cs : List Char) :
    Bounded depth cs (value (fuel + 1) depth cs) := by
  have hdeep {c : Char} (hc : isOpening c = true) (rest : List Char) (hdepth : depthLimit ≤ depth) :
      depthLimit < depth + openings (c :: rest) := by
    rw [openings_cons hc]
    omega
  unfold value
  split
  · next rest => exact (bounded_string depth rest).mono (List.suffix_cons _ _)
  · next rest =>
    split
    · next hdepth => exact hdeep rfl rest hdepth
    split
    · next more hskip => exact (suffix_of_skip hskip).trans (List.suffix_cons _ _)
    · have hinside := (hitems (depth + 1) (skip rest)).mono (skip_suffix rest)
      split
      · next hread =>
        rw [hread] at hinside
        exact List.IsSuffix.trans hinside (List.suffix_cons _ _)
      · next hread =>
        rw [hread] at hinside
        exact hinside.inside rfl
  · next rest =>
    split
    · next hdepth => exact hdeep rfl rest hdepth
    split
    · next more hskip => exact (suffix_of_skip hskip).trans (List.suffix_cons _ _)
    · have hinside := (hentries (depth + 1) (skip rest)).mono (skip_suffix rest)
      split
      · next hread =>
        rw [hread] at hinside
        exact List.IsSuffix.trans hinside (List.suffix_cons _ _)
      · next hread =>
        rw [hread] at hinside
        exact hinside.inside rfl
  · exact bounded_scalar depth _

theorem bounded_items_succ
    {fuel : Nat}
    (hvalue : ∀ depth cs, Bounded depth cs (value fuel depth cs))
    (hitems : ∀ depth cs, Bounded depth cs (items fuel depth cs))
    (depth : Nat)
    (cs : List Char) :
    Bounded depth cs (items (fuel + 1) depth cs) := by
  have hfirst := hvalue depth cs
  unfold items
  split
  · next hread =>
    rw [hread] at hfirst
    exact hfirst.halt
  · next d rest hread =>
    rw [hread] at hfirst
    have hrest : rest <:+ cs := hfirst
    split
    · next more hskip => exact (suffix_of_skip hskip).trans hrest
    · next more hskip =>
      have hmore : skip more <:+ cs := ((skip_suffix _).trans (suffix_of_skip hskip)).trans hrest
      have hnext := (hitems depth (skip more)).mono hmore
      split
      · next hread =>
        rw [hread] at hnext
        exact hnext
      · next hread =>
        rw [hread] at hnext
        exact hnext.halt
    · trivial

theorem bounded_entries_succ
    {fuel : Nat}
    (hvalue : ∀ depth cs, Bounded depth cs (value fuel depth cs))
    (hentries : ∀ depth cs, Bounded depth cs (entries fuel depth cs))
    (depth : Nat)
    (cs : List Char) :
    Bounded depth cs (entries (fuel + 1) depth cs) := by
  unfold entries
  split
  · next name =>
    have hkey := (bounded_string depth name).mono (List.suffix_cons '"' name)
    split
    · next hread =>
      rw [hread] at hkey
      exact hkey.halt
    · next k afterKey hread =>
      rw [hread] at hkey
      have hafterKey : afterKey <:+ '"' :: name := hkey
      split
      · next afterColon hcolon =>
        have hafterColon : skip afterColon <:+ '"' :: name :=
          ((skip_suffix _).trans (suffix_of_skip hcolon)).trans hafterKey
        have hfirst := (hvalue depth (skip afterColon)).mono hafterColon
        split
        · next hread =>
          rw [hread] at hfirst
          exact hfirst.halt
        · next v rest hread =>
          rw [hread] at hfirst
          have hrest : rest <:+ '"' :: name := hfirst
          split
          · next more hskip => exact (suffix_of_skip hskip).trans hrest
          · next more hskip =>
            have hmore : skip more <:+ '"' :: name :=
              ((skip_suffix _).trans (suffix_of_skip hskip)).trans hrest
            have hnext := (hentries depth (skip more)).mono hmore
            split
            · next hread =>
              rw [hread] at hnext
              exact hnext
            · next hread =>
              rw [hread] at hnext
              exact hnext.halt
          · trivial
      · trivial
  · trivial

/-- Every reader leaves an end of the text, or goes beyond a limit, or is stuck. -/
theorem bounded_readers
    (fuel : Nat) :
    (∀ depth cs, Bounded depth cs (value fuel depth cs)) ∧
      (∀ depth cs, Bounded depth cs (items fuel depth cs)) ∧
        ∀ depth cs, Bounded depth cs (entries fuel depth cs) := by
  induction fuel with
  | zero => exact ⟨fun _ _ => trivial, fun _ _ => trivial, fun _ _ => trivial⟩
  | succ fuel ih =>
    obtain ⟨hvalue, hitems, hentries⟩ := ih
    exact ⟨bounded_value_succ hitems hentries, bounded_items_succ hvalue hitems,
      bounded_entries_succ hvalue hentries⟩

theorem bounded_value
    (fuel depth : Nat)
    (cs : List Char) :
    Bounded depth cs (value fuel depth cs) :=
  (bounded_readers fuel).1 depth cs

/-! ## Whole texts -/

theorem bounded_whole
    {cs : List Char}
    {e : Halt}
    (h : whole cs = .error e) :
    Bounded 0 cs (.error e : Except Halt (Data × List Char)) := by
  have hvalue := (bounded_value (2 * cs.length + 2) 0 (skip cs)).mono (skip_suffix cs)
  unfold whole at h
  split at h
  · cases h
    trivial
  · split at h
    · next hread =>
      cases h
      rw [hread] at hvalue
      exact hvalue
    · split at h
      · cases h
      · cases h
        trivial

theorem whole_of_read
    {cs : List Char}
    {fault : Fault}
    (h : read cs = .error fault) :
    ∃ e, whole cs = .error e ∧ e.fault cs = fault := by
  unfold read at h
  cases hwhole : whole cs with
  | ok d =>
    rw [hwhole] at h
    cases h
  | error e =>
    rw [hwhole] at h
    cases h
    exact ⟨e, rfl, rfl⟩

/-- Where nesting is too deep, more containers open than may nest. -/
theorem openings_of_read
    {cs : List Char}
    {inObject : Bool}
    (h : read cs = .error (.tooDeep inObject)) :
    depthLimit < openings cs := by
  obtain ⟨e, hwhole, hfault⟩ := whole_of_read h
  have hbounded := bounded_whole hwhole
  cases e with
  | tooDeep b =>
    have hdeep : depthLimit < 0 + openings cs := hbounded
    omega
  | stuck lapse rest => cases hfault
  | tooManyDigits count => cases hfault

/-- Where a whole number has too many digits, so many digits stand in a row. -/
theorem digits_of_read
    {cs : List Char}
    {count : Nat}
    (h : read cs = .error (.tooManyDigits count)) :
    digitLimit < count ∧ HasRun count cs := by
  obtain ⟨e, hwhole, hfault⟩ := whole_of_read h
  have hbounded := bounded_whole hwhole
  cases e with
  | tooManyDigits n =>
    cases hfault
    exact hbounded
  | stuck lapse rest => cases hfault
  | tooDeep b => cases hfault

/-- Whether a text stays within the limits of a reader. -/
structure WithinLimits (cs : List Char) : Prop where
  depth : openings cs ≤ depthLimit
  digits : ∀ count, HasRun count cs → count ≤ digitLimit

/-- A short text is within the limits. -/
theorem withinLimits_of_length
    {cs : List Char}
    (h : cs.length ≤ depthLimit) :
    WithinLimits cs := by
  constructor
  · exact Nat.le_trans List.countP_le_length h
  · rintro count ⟨ds, hds, -, rfl⟩
    have hlength := hds.length_le
    unfold depthLimit at h
    unfold digitLimit
    omega

/-- A text within the limits is malformed when it is not read. -/
theorem exists_malformed
    {cs : List Char}
    (hlimits : WithinLimits cs)
    {fault : Fault}
    (h : read cs = .error fault) :
    ∃ lapse place, fault = .malformed lapse place := by
  cases fault with
  | malformed lapse place => exact ⟨lapse, place, rfl⟩
  | tooDeep inObject => exact absurd (openings_of_read h) (Nat.not_lt.mpr hlimits.depth)
  | tooManyDigits count =>
    obtain ⟨hlong, hrun⟩ := digits_of_read h
    exact absurd hlong (Nat.not_lt.mpr (hlimits.digits count hrun))

end Json
end Rebalance
