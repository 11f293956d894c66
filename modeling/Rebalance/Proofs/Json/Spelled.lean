import Rebalance.Proofs.Json.Limits

/-!
# The values that texts spell

* `IsSpelled`: a value whose objects have texts for their keys and whose whole numbers have not too
  many digits; bytes, dates and sets are no part of it.
* `isSpelled_of_read`: every value that is read from a text is one.
-/

namespace Rebalance
namespace Json

open Decimal

/-- Whether a text can spell a value. -/
inductive IsSpelled : Data → Prop
  | null :
    IsSpelled .null
  | bool
    (b : Bool) :
    IsSpelled (.bool b)
  | int
    {n : Int}
    (digits : width n.natAbs ≤ digitLimit) :
    IsSpelled (.int n)
  | float
    (x : Float) :
    IsSpelled (.float x)
  | text
    (s : String) :
    IsSpelled (.text s)
  | list
    {ds : List Data}
    (items : ∀ d ∈ ds, IsSpelled d) :
    IsSpelled (.list ds)
  | map
    {es : List (Data × Data)}
    (keys : ∀ e ∈ es, ∃ s, e.1 = .text s)
    (values : ∀ e ∈ es, IsSpelled e.2) :
    IsSpelled (.map es)

theorem IsSpelled.key
    {es : List (Data × Data)}
    (h : IsSpelled (.map es)) :
    ∀ e ∈ es, ∃ s, e.1 = .text s := by
  cases h with
  | map keys values => exact keys

theorem IsSpelled.value
    {es : List (Data × Data)}
    (h : IsSpelled (.map es)) :
    ∀ e ∈ es, IsSpelled e.2 := by
  cases h with
  | map keys values => exact values

theorem IsSpelled.item
    {ds : List Data}
    (h : IsSpelled (.list ds)) :
    ∀ d ∈ ds, IsSpelled d := by
  cases h with
  | list items => exact items

/-! ## Entries -/

theorem isSpelled_put
    {es : List (Data × Data)}
    (h : IsSpelled (.map es))
    {key value : Data}
    (hkey : ∃ s, key = .text s)
    (hvalue : IsSpelled value) :
    IsSpelled (.map (Data.put key value es)) := by
  induction es with
  | nil => exact .map (List.forall_mem_singleton.mpr hkey) (List.forall_mem_singleton.mpr hvalue)
  | cons x es ih =>
    obtain ⟨hfirst, hkeys⟩ := List.forall_mem_cons.mp h.key
    obtain ⟨hhead, hvalues⟩ := List.forall_mem_cons.mp h.value
    have hrest := ih (.map hkeys hvalues)
    rw [Data.put]
    split
    · exact .map (List.forall_mem_cons.mpr ⟨hfirst, hkeys⟩)
        (List.forall_mem_cons.mpr ⟨hvalue, hvalues⟩)
    · exact .map (List.forall_mem_cons.mpr ⟨hfirst, hrest.key⟩)
        (List.forall_mem_cons.mpr ⟨hhead, hrest.value⟩)

theorem isSpelled_ofEntries
    {es : List (Data × Data)}
    (h : IsSpelled (.map es)) :
    IsSpelled (.map (Data.ofEntries es)) := by
  have hfold (acc : List (Data × Data)) (hacc : IsSpelled (.map acc)) :
      IsSpelled (.map (es.foldl (fun es e => Data.put e.1 e.2 es) acc)) := by
    induction es generalizing acc with
    | nil => exact hacc
    | cons e es ih =>
      obtain ⟨hkey, hkeys⟩ := List.forall_mem_cons.mp h.key
      obtain ⟨hvalue, hvalues⟩ := List.forall_mem_cons.mp h.value
      exact ih (.map hkeys hvalues) _ (isSpelled_put hacc hkey hvalue)
  exact hfold [] (.map (List.forall_mem_nil _) (List.forall_mem_nil _))

/-! ## Words, numbers and strings -/

theorem isSpelled_of_number
    {start cs rest : List Char}
    {negative : Bool}
    {d : Data}
    (h : number start negative cs = .ok (d, rest)) :
    IsSpelled d := by
  unfold number at h
  split at h
  · cases h
  · next whole more hwhole =>
    dsimp only at h
    split at h
    · split at h
      · cases h
      · next hlimit =>
        cases h
        obtain ⟨-, hdigits⟩ := wholeDigits?_eq hwhole
        have hwidth := width_valueOf_le hdigits (by decide) (Nat.not_lt.mp hlimit)
        refine .int ?_
        cases negative with
        | false => exact hwidth
        | true =>
          rw [if_pos rfl, Int.natAbs_neg]
          exact hwidth
    · cases h
      exact .float _

theorem isSpelled_of_scalar
    {cs rest : List Char}
    {d : Data}
    (h : scalar cs = .ok (d, rest)) :
    IsSpelled d := by
  have hwords : ∀ p ∈ words, IsSpelled p.2 := by
    intro p hp
    simp only [words, List.mem_cons, List.not_mem_nil, or_false] at hp
    rcases hp with rfl | rfl | rfl | rfl | rfl | rfl
    · exact .null
    · exact .bool _
    · exact .bool _
    · exact .float _
    · exact .float _
    · exact .float _
  unfold scalar at h
  split at h
  · next r hword =>
    cases h
    obtain ⟨p, hp, hword⟩ := List.exists_of_findSome?_eq_some hword
    obtain ⟨more, -, hmore⟩ := Option.map_eq_some_iff.mp hword
    cases hmore
    exact hwords p hp
  · split at h
    · exact isSpelled_of_number h
    · exact isSpelled_of_number h

theorem text_of_string
    {cs rest : List Char}
    {d : Data}
    (h : string cs = .ok (d, rest)) :
    ∃ s, d = .text s := by
  unfold string at h
  cases hparts : parts ('"' :: cs) cs with
  | ok p =>
    rw [hparts] at h
    cases h
    exact ⟨_, rfl⟩
  | error e =>
    rw [hparts] at h
    cases h

/-! ## Values -/

section Values

variable {fuel depth : Nat} {cs rest : List Char}

/-- What holds of the readers with some fuel: whatever they read is spelled. -/
structure Spelling (fuel : Nat) : Prop where
  value : ∀ {depth cs d rest}, value fuel depth cs = .ok (d, rest) → IsSpelled d
  items : ∀ {depth cs ds rest}, items fuel depth cs = .ok (ds, rest) → IsSpelled (.list ds)
  entries : ∀ {depth cs es rest}, entries fuel depth cs = .ok (es, rest) → IsSpelled (.map es)

theorem isSpelled_of_value_succ
    (hread : Spelling fuel)
    {d : Data}
    (h : value (fuel + 1) depth cs = .ok (d, rest)) :
    IsSpelled d := by
  unfold value at h
  split at h
  · obtain ⟨s, rfl⟩ := text_of_string h
    exact .text s
  · split at h
    · cases h
    split at h
    · cases h
      exact .list (List.forall_mem_nil _)
    split at h
    · next hitems =>
      cases h
      exact hread.items hitems
    · cases h
  · split at h
    · cases h
    split at h
    · cases h
      exact .map (List.forall_mem_nil _) (List.forall_mem_nil _)
    split at h
    · next hentries =>
      cases h
      exact isSpelled_ofEntries (hread.entries hentries)
    · cases h
  · exact isSpelled_of_scalar h

theorem isSpelled_of_items_succ
    (hread : Spelling fuel)
    {ds : List Data}
    (h : items (fuel + 1) depth cs = .ok (ds, rest)) :
    IsSpelled (.list ds) := by
  unfold items at h
  split at h
  · cases h
  next d _ hvalue =>
  have hd := hread.value hvalue
  split at h
  · cases h
    exact .list (List.forall_mem_singleton.mpr hd)
  · split at h
    · next hmore =>
      cases h
      exact .list (List.forall_mem_cons.mpr ⟨hd, (hread.items hmore).item⟩)
    · cases h
  · cases h

theorem isSpelled_of_entries_succ
    (hread : Spelling fuel)
    {es : List (Data × Data)}
    (h : entries (fuel + 1) depth cs = .ok (es, rest)) :
    IsSpelled (.map es) := by
  unfold entries at h
  split at h
  · split at h
    · cases h
    next k _ hkey =>
    have hk := text_of_string hkey
    split at h
    · split at h
      · cases h
      next v _ hvalue =>
      have hv := hread.value hvalue
      split at h
      · cases h
        exact .map (List.forall_mem_singleton.mpr hk) (List.forall_mem_singleton.mpr hv)
      · split at h
        · next hmore =>
          cases h
          have hrest := hread.entries hmore
          exact .map (List.forall_mem_cons.mpr ⟨hk, hrest.key⟩)
            (List.forall_mem_cons.mpr ⟨hv, hrest.value⟩)
        · cases h
      · cases h
    · cases h
  · cases h

theorem spelling
    (fuel : Nat) :
    Spelling fuel := by
  induction fuel with
  | zero =>
    constructor
    · intro depth cs d rest h
      cases h
    · intro depth cs ds rest h
      cases h
    · intro depth cs es rest h
      cases h
  | succ fuel ih =>
    exact ⟨isSpelled_of_value_succ ih, isSpelled_of_items_succ ih, isSpelled_of_entries_succ ih⟩

end Values

/-- Every value that is read from a text is spelled. -/
theorem isSpelled_of_read
    {cs : List Char}
    {d : Data}
    (h : read cs = .ok d) :
    IsSpelled d := by
  unfold read whole at h
  split at h
  · cases h
  split at h
  · cases h
  next hvalue =>
  split at h
  · cases h
    exact (spelling _).value hvalue
  · cases h

end Json
end Rebalance
