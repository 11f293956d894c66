import Mathlib.Data.List.Induction
import Rebalance.Duplicates

/-!
# Repeated values, and lists without them

* `repeats_eq_nil_iff`: nothing is repeated just when the values are pairwise different.
* `ofNames?_eq_none_iff`: no message about repeated names is due just when the names are.
* `repeats_eq_later`: the repeated values are those that have an equal one before them, in their
  order.
* `countP_later`: a value that is there some times is repeated one time less.
* `foldl_put_of_nodup`: entries whose keys do not repeat are kept in their order, whatever holds
  them.
-/

namespace Rebalance
namespace Duplicates

section Repeated

variable {α κ : Type} {same : α → α → Bool}

/-- Nothing is repeated just when the values are pairwise different and none was seen before. -/
theorem repeats_eq_nil_iff
    {seen values : List α} :
    repeats same seen values = [] ↔
      (values.Pairwise fun a b => same b a = false) ∧
        ∀ a ∈ values, seen.any (same a) = false := by
  induction values generalizing seen with
  | nil => exact iff_of_true rfl ⟨.nil, fun _ h => nomatch h⟩
  | cons a rest ih =>
    unfold repeats
    by_cases h : seen.any (same a) = true
    · rw [if_pos h]
      refine iff_of_false (List.cons_ne_nil _ _) ?_
      rintro ⟨_, hseen⟩
      exact Bool.false_ne_true ((hseen a List.mem_cons_self).symm.trans h)
    · rw [if_neg h, ih, List.pairwise_cons]
      simp only [List.any_cons, Bool.or_eq_false_iff, List.forall_mem_cons,
        Bool.eq_false_iff.mpr h, true_and]
      constructor
      · rintro ⟨hrest, hboth⟩
        exact ⟨⟨fun b hb => (hboth b hb).1, hrest⟩, fun b hb => (hboth b hb).2⟩
      · rintro ⟨⟨hfirst, hrest⟩, hseen⟩
        exact ⟨hrest, fun b hb => ⟨hfirst b hb, hseen b hb⟩⟩

/-- No message is due just when the names are pairwise different. -/
theorem ofNames?_eq_none_iff
    {field : String}
    {names : List String} :
    ofNames? field names = none ↔ names.Nodup := by
  have hiff : repeats (· == ·) [] names = [] ↔ names.Nodup := by
    refine repeats_eq_nil_iff.trans ((and_iff_left fun _ _ => rfl).trans ?_)
    exact List.Pairwise.iff fun _ _ => beq_eq_false_iff_ne.trans ne_comm
  unfold ofNames?
  split
  · next heq => exact iff_of_true rfl (hiff.mp heq)
  · next hne => exact iff_of_false (Option.some_ne_none _) fun hnodup => hne (hiff.mpr hnodup)

/-- The values of a list that have an equal one before them, in their order. -/
def later (same : α → α → Bool) (values : List α) : List α :=
  (values.zipIdx.filter fun p => (values.take p.2).any (same p.1)).map Prod.fst

/-- The last value is a later one when an equal one is among the others. -/
theorem later_concat
    (values : List α)
    (b : α) :
    later same (values ++ [b]) =
      later same values ++ if values.any (same b) then [b] else [] := by
  have hfront : (values.zipIdx.filter fun p => ((values ++ [b]).take p.2).any (same p.1)) =
      values.zipIdx.filter fun p => (values.take p.2).any (same p.1) := by
    refine List.filter_congr ?_
    intro p hp
    rw [List.take_append_of_le_length (Nat.le_of_lt (List.snd_lt_of_mem_zipIdx hp))]
  unfold later
  rw [List.zipIdx_append, List.filter_append, List.map_append, hfront, Nat.zero_add,
    List.zipIdx_singleton, List.filter_cons, List.take_left' rfl]
  split <;> rfl

/-- Whether the values of a list are compared by what they are known by. -/
def ComparesBy (same : α → α → Bool) (key : α → κ) (values : List α) : Prop :=
  ∀ a ∈ values, ∀ b ∈ values, same a b = true ↔ key a = key b

variable {key : α → κ}

theorem any_same_iff
    {seen values : List α}
    {a : α}
    (h : ComparesBy same key values)
    (hseen : seen ⊆ values)
    (ha : a ∈ values) :
    seen.any (same a) = true ↔ key a ∈ seen.map key := by
  rw [List.any_eq_true, List.mem_map]
  constructor
  · rintro ⟨s, hs, heq⟩
    exact ⟨s, hs, ((h a ha s (hseen hs)).mp heq).symm⟩
  · rintro ⟨s, hs, heq⟩
    exact ⟨s, hs, (h a ha s (hseen hs)).mpr heq.symm⟩

/-- The last value is repeated when an equal one was seen or is among the others. -/
theorem repeats_concat
    {all seen values : List α}
    {b : α}
    (h : ComparesBy same key all)
    (hseen : seen ⊆ all)
    (hvalues : values ++ [b] ⊆ all) :
    repeats same seen (values ++ [b]) =
      repeats same seen values ++ if (seen ++ values).any (same b) then [b] else [] := by
  induction values generalizing seen with
  | nil =>
    rw [List.nil_append, List.append_nil, repeats, repeats, repeats, List.nil_append]
    split <;> rfl
  | cons a rest ih =>
    obtain ⟨ha, hrest⟩ := List.cons_subset.mp hvalues
    have hb : b ∈ all := hrest (List.mem_append_right rest List.mem_cons_self)
    rw [List.cons_append, repeats, repeats]
    split
    · next hany =>
      -- Leaving out a value that was seen leaves the values that were seen the same.
      have hsame : (seen ++ a :: rest).any (same b) = (seen ++ rest).any (same b) := by
        rw [List.any_append, List.any_append, List.any_cons, Bool.eq_iff_iff]
        simp only [Bool.or_eq_true_iff]
        constructor
        · rintro (hb' | hb' | hb')
          · exact .inl hb'
          · rw [any_same_iff h hseen ha, ← (h b hb a ha).mp hb', ← any_same_iff h hseen hb] at hany
            exact .inl hany
          · exact .inr hb'
        · rintro (hb' | hb')
          · exact .inl hb'
          · exact .inr (.inr hb')
      rw [ih hseen hrest, hsame, List.cons_append]
    · have hmoved : (a :: seen ++ rest).any (same b) = (seen ++ a :: rest).any (same b) :=
        List.Perm.any_eq List.perm_middle.symm
      rw [ih (List.cons_subset.mpr ⟨ha, hseen⟩) hrest, hmoved]

/-- What is repeated are the later ones of equal values. -/
theorem repeats_eq_later
    {values : List α}
    (h : ComparesBy same key values) :
    repeats same [] values = later same values := by
  have hprefix : ∀ front, front ⊆ values → repeats same [] front = later same front := by
    intro front
    induction front using List.reverseRecOn with
    | nil => exact fun _ => rfl
    | append_singleton front b ih =>
      intro hsub
      rw [repeats_concat h (List.nil_subset _) hsub, later_concat, List.nil_append,
        ih fun _ hx => hsub (List.mem_append_left _ hx)]
  exact hprefix values (List.Subset.refl _)

/-- All equal values but the first one are later ones. -/
theorem countP_later
    {values : List α}
    {a : α}
    (h : ComparesBy same key values)
    (ha : a ∈ values) :
    (later same values).countP (same a) = values.countP (same a) - 1 := by
  have hprefix : ∀ front, front ⊆ values →
      (later same front).countP (same a) = front.countP (same a) - 1 := by
    intro front
    induction front using List.reverseRecOn with
    | nil => exact fun _ => rfl
    | append_singleton front b ih =>
      intro hsub
      have hfront : front ⊆ values := fun _ hx => hsub (List.mem_append_left _ hx)
      have hb : b ∈ values := hsub (List.mem_append_right _ List.mem_cons_self)
      rw [later_concat, List.countP_append, List.countP_append, ih hfront, List.countP_singleton]
      by_cases hab : same a b = true
      · have hany : front.any (same b) = true ↔ 0 < front.countP (same a) := by
          rw [any_same_iff h hfront hb, ← (h a ha b hb).mp hab, ← any_same_iff h hfront ha,
            List.countP_pos_iff, List.any_eq_true]
        rw [if_pos hab]
        split
        · next hsome =>
          have hpos := hany.mp hsome
          rw [List.countP_singleton, if_pos hab]
          omega
        · next hnone =>
          have hzero : ¬ 0 < front.countP (same a) := fun hpos => hnone (hany.mpr hpos)
          rw [List.countP_nil]
          omega
      · rw [if_neg hab]
        split
        · rw [List.countP_singleton, if_neg hab]
          omega
        · rw [List.countP_nil]
          omega
  exact hprefix values (List.Subset.refl _)

end Repeated

/-- Entries put one after the other stand behind the ones there are, when a fresh key is put at the
end and no key repeats. -/
theorem foldl_put_of_nodup
    {α β : Type}
    {put : String → α → β → β}
    {view : List (String × α) → β}
    (hput : ∀ {k : String} {es : List (String × α)}, k ∉ es.map Prod.fst →
      ∀ v, put k v (view es) = view (es ++ [(k, v)]))
    (acc es : List (String × α))
    (h : ((acc ++ es).map Prod.fst).Nodup) :
    es.foldl (fun b e => put e.1 e.2 b) (view acc) = view (acc ++ es) := by
  induction es generalizing acc with
  | nil => rw [List.append_nil, List.foldl_nil]
  | cons e es ih =>
    have hsplit : acc ++ e :: es = (acc ++ [e]) ++ es := by simp
    have hfresh : e.1 ∉ acc.map Prod.fst := by
      intro hmem
      rw [List.map_append, List.map_cons] at h
      exact (List.nodup_append.mp h).2.2 _ hmem _ List.mem_cons_self rfl
    rw [List.foldl_cons, hput hfresh, ih (acc ++ [e]) (hsplit ▸ h), ← hsplit]

end Duplicates
end Rebalance
