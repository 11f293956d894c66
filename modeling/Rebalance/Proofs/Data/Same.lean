import Rebalance.Data
import Rebalance.Proofs.Decimal.Equal

/-!
# Equality of values that can be keys

* `Data.identity`: what of a value tells it from others.  Truth values and numbers are told apart by
  what they amount to, whatever their kinds.
* `Data.same_iff`: values that can be keys are equal just when their identities are, so that this
  equality is an equivalence.
-/

namespace Rebalance
namespace Data

/-- What tells a value from others that can be keys. -/
inductive Identity
  | null
  | number (amount : Int ⊕ Decimal.Binary)
  | text (s : String)
  | bytes (bs : List Nat)
  | date (year month day : Nat)
  | moment (zoned : Bool) (ticks : Int)
  | collection

/-- The identity of a value.  Moments with an offset are brought to UTC. -/
def identity : Data → Identity
  | .null => .null
  | .bool b => .number (.inl (if b then 1 else 0))
  | .int n => .number (.inl n)
  | .float x => .number (Decimal.identityOf x)
  | .text s => .text s
  | .bytes bs => .bytes bs
  | .date y m d => .date y m d
  | .moment t => .moment t.offset.isSome (t.ticks - t.offset.getD 0 * 60000000)
  | .list _ | .set _ | .map _ => .collection

theorem date_same_iff
    {y m d y' m' d' : Nat} :
    (Data.date y m d).same (.date y' m' d') = true ↔
      (Data.date y m d).identity = (Data.date y' m' d').identity := by
  show (y == y' && m == m' && d == d') = true ↔ Identity.date y m d = .date y' m' d'
  rw [Bool.and_eq_true_iff, Bool.and_eq_true_iff, beq_iff_eq, beq_iff_eq, beq_iff_eq,
    Identity.date.injEq, and_assoc]

theorem moment_same_iff
    {s t : Time.Moment} :
    (Data.moment s).same (.moment t) = true ↔
      (Data.moment s).identity = (Data.moment t).identity := by
  show s.same t = true ↔ Identity.moment _ _ = .moment _ _
  rw [Identity.moment.injEq]
  unfold Time.Moment.same
  cases s.offset with
  | none =>
    cases t.offset with
    | none =>
      show decide (s.ticks = t.ticks) = true ↔
        false = false ∧ s.ticks - 0 * 60000000 = t.ticks - 0 * 60000000
      rw [decide_eq_true_iff, Int.zero_mul, Int.sub_zero, Int.sub_zero]
      exact ⟨fun h => ⟨rfl, h⟩, And.right⟩
    | some b => exact iff_of_false Bool.false_ne_true fun h => Bool.false_ne_true h.1
  | some a =>
    cases t.offset with
    | none => exact iff_of_false Bool.false_ne_true fun h => Bool.false_ne_true h.1.symm
    | some b =>
      show decide (s.ticks - a * 60000000 = t.ticks - b * 60000000) = true ↔
        true = true ∧ s.ticks - a * 60000000 = t.ticks - b * 60000000
      rw [decide_eq_true_iff]
      exact ⟨fun h => ⟨rfl, h⟩, And.right⟩

/-! ## Numbers -/

/-- The whole number of a value, if it is one, is its identity. -/
theorem whole?_eq_some_iff
    {d : Data}
    {n : Int} :
    d.whole? = some n ↔ d.identity = .number (.inl n) := by
  have hwhole {k : Int} :
      some k = some n ↔ Identity.number (Sum.inl k) = .number (.inl n) := by
    rw [Option.some.injEq, Identity.number.injEq, Sum.inl.injEq]
  cases d with
  | bool b => exact hwhole
  | int k => exact hwhole
  | float x =>
    show Decimal.wholeValue? x = some n ↔ Identity.number (Decimal.identityOf x) = _
    rw [Identity.number.injEq, Decimal.identityOf_eq_inl_iff]
  | _ => exact iff_of_false (fun h => nomatch h) fun h => nomatch h

/-- Values of different kinds are compared as whole numbers. -/
theorem same_iff_of_whole
    {a b : Data}
    (hsame : a.same b = match a.whole?, b.whole? with
      | some m, some n => m == n
      | _, _ => false)
    (h : (∃ n, a.identity = .number (.inl n)) ∨ (∃ n, b.identity = .number (.inl n)) ∨
      a.identity ≠ b.identity) :
    a.same b = true ↔ a.identity = b.identity := by
  have hboth : a.same b = true ↔ ∃ n, a.whole? = some n ∧ b.whole? = some n := by
    rw [hsame]
    cases a.whole? with
    | none => exact iff_of_false Bool.false_ne_true fun ⟨_, h, _⟩ => nomatch h
    | some m =>
      cases b.whole? with
      | none => exact iff_of_false Bool.false_ne_true fun ⟨_, _, h⟩ => nomatch h
      | some n =>
        rw [beq_iff_eq]
        exact ⟨fun h => ⟨m, rfl, congrArg some h.symm⟩,
          fun ⟨_, hm, hn⟩ => (Option.some.inj hm).trans (Option.some.inj hn).symm⟩
  rw [hboth]
  constructor
  · rintro ⟨n, hm, hn⟩
    exact (whole?_eq_some_iff.mp hm).trans (whole?_eq_some_iff.mp hn).symm
  · intro heq
    rcases h with ⟨n, hn⟩ | ⟨n, hn⟩ | hne
    · exact ⟨n, whole?_eq_some_iff.mpr hn, whole?_eq_some_iff.mpr (heq.symm.trans hn)⟩
    · exact ⟨n, whole?_eq_some_iff.mpr (heq.trans hn), whole?_eq_some_iff.mpr hn⟩
    · exact absurd heq hne

/-- Keys are equal just when their identities are. -/
theorem same_iff
    {a b : Data}
    (ha : a.isKey = true)
    (hb : b.isKey = true) :
    a.same b = true ↔ a.identity = b.identity := by
  cases a with
  | null =>
    cases b with
    | null => exact iff_of_true rfl rfl
    | _ => exact same_iff_of_whole rfl (.inr (.inr fun h => nomatch h))
  | bool x => exact same_iff_of_whole rfl (.inl ⟨_, rfl⟩)
  | int m => exact same_iff_of_whole rfl (.inl ⟨_, rfl⟩)
  | float x =>
    cases b with
    | bool y => exact same_iff_of_whole rfl (.inr (.inl ⟨_, rfl⟩))
    | int n => exact same_iff_of_whole rfl (.inr (.inl ⟨_, rfl⟩))
    | float y =>
      show (x == y || (x.isNaN && y.isNaN)) = true ↔ Identity.number _ = .number _
      rw [Identity.number.injEq, Decimal.equal_iff_identityOf]
    | _ => exact same_iff_of_whole rfl (.inr (.inr fun h => nomatch h))
  | text s =>
    cases b with
    | text t =>
      show (s == t) = true ↔ Identity.text s = .text t
      rw [Identity.text.injEq, beq_iff_eq]
    | _ => exact same_iff_of_whole rfl (.inr (.inr fun h => nomatch h))
  | bytes s =>
    cases b with
    | bytes t =>
      show (s == t) = true ↔ Identity.bytes s = .bytes t
      rw [Identity.bytes.injEq, beq_iff_eq]
    | _ => exact same_iff_of_whole rfl (.inr (.inr fun h => nomatch h))
  | date y m d =>
    cases b with
    | date y' m' d' => exact date_same_iff
    | _ => exact same_iff_of_whole rfl (.inr (.inr fun h => nomatch h))
  | moment s =>
    cases b with
    | moment t => exact moment_same_iff
    | _ => exact same_iff_of_whole rfl (.inr (.inr fun h => nomatch h))
  | list _ => exact absurd ha Bool.false_ne_true
  | set _ => exact absurd ha Bool.false_ne_true
  | map _ => exact absurd ha Bool.false_ne_true

end Data
end Rebalance
