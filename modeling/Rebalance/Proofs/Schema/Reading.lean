import Rebalance.Proofs.Duplicates
import Rebalance.Schema.Record
import Rebalance.Schema.Scalar

/-!
# What a reader has accepted, and what it accepts

* `Checked.map_ok`, `Checked.seq_ok`, `Checked.andThen_ok`: a value that is right comes from parts
  that are right.
* `required_ok`, `optional_ok`, `readList_ok`, `readMap_ok`: the same for the readers of entries,
  lists and maps.  The keys of a map that was read are pairwise different.
* `readList_map`, `readMap_map`: lists and maps are read from documents whose parts are.
* `readList_wrong`: a list with an item that is wrong tells all the issues of its items.
-/

namespace Rebalance
namespace Schema

variable {α β : Type}

namespace Checked

theorem map_ok
    {f : α → β}
    {x : Checked α}
    {b : β}
    (h : f <$> x = .ok b) :
    ∃ a, x = .ok a ∧ f a = b := by
  cases x with
  | ok a =>
    cases h
    exact ⟨a, rfl, rfl⟩
  | wrong issues => cases h

theorem seq_ok
    {f : Checked (α → β)}
    {x : Checked α}
    {b : β}
    (h : f <*> x = .ok b) :
    ∃ g a, f = .ok g ∧ x = .ok a ∧ g a = b := by
  cases f with
  | ok g =>
    cases x with
    | ok a =>
      cases h
      exact ⟨g, a, rfl, rfl, rfl⟩
    | wrong issues => cases h
  | wrong issues =>
    cases x with
    | ok a => cases h
    | wrong more => cases h

theorem andThen_ok
    {x : Checked α}
    {f : α → Checked β}
    {b : β}
    (h : x.andThen f = .ok b) :
    ∃ a, x = .ok a ∧ f a = .ok b := by
  cases x with
  | ok a => exact ⟨a, rfl, h⟩
  | wrong issues => cases h

theorem under_ok
    {p : Place}
    {x : Checked α}
    {a : α}
    (h : x.under p = .ok a) :
    x = .ok a := by
  cases x with
  | ok b =>
    cases h
    rfl
  | wrong issues => cases h

end Checked

open Checked

/-! ## Entries -/

theorem readEntity_ok
    {name : String}
    {read : List (Data × Data) → Checked α}
    {d : Data}
    {a : α}
    (h : readEntity name read d = .ok a) :
    ∃ es, d = .map es ∧ read es = .ok a := by
  cases d with
  | map es => exact ⟨es, rfl, h⟩
  | _ => cases h

theorem required_ok
    {es : List (Data × Data)}
    {name : String}
    {read : Data → Checked α}
    {a : α}
    (h : required es name read = .ok a) :
    ∃ d, read d = .ok a := by
  unfold required at h
  split at h
  · next d _ => exact ⟨d, under_ok h⟩
  · cases h

theorem optional_ok
    {es : List (Data × Data)}
    {name : String}
    {value : α}
    {read : Data → Checked α}
    {a : α}
    (h : optional es name value read = .ok a) :
    a = value ∨ ∃ d, read d = .ok a := by
  unfold optional at h
  split at h
  · next d _ => exact .inr ⟨d, under_ok h⟩
  · cases h
    exact .inl rfl

/-! ## Lists -/

theorem readItems_ok
    {read : Data → Checked α}
    {i : Nat}
    {ds : List Data}
    {as : List α}
    (h : readItems read i ds = .ok as) :
    ∀ a ∈ as, ∃ d, read d = .ok a := by
  induction ds generalizing i as with
  | nil =>
    cases h
    intro a ha
    cases ha
  | cons d rest ih =>
    obtain ⟨g, bs, hg, hbs, rfl⟩ := seq_ok h
    obtain ⟨b, hb, rfl⟩ := map_ok hg
    intro a ha
    rcases List.mem_cons.mp ha with rfl | ha
    · exact ⟨d, under_ok hb⟩
    · exact ih hbs a ha

theorem readList_ok
    {read : Data → Checked α}
    {d : Data}
    {as : List α}
    (h : readList read d = .ok as) :
    ∀ a ∈ as, ∃ d, read d = .ok a := by
  cases d with
  | list items => exact readItems_ok h
  | set items => exact readItems_ok h
  | _ => cases h

/-! ## Maps -/

theorem readEntries_ok
    {readKey : Data → Checked String}
    {read : Data → Checked α}
    {es : List (Data × Data)}
    {xs : List (String × α)}
    (h : readEntries readKey read es = .ok xs) :
    ∀ x ∈ xs, ∃ d, read d = .ok x.2 := by
  induction es generalizing xs with
  | nil =>
    cases h
    intro x hx
    cases hx
  | cons e rest ih =>
    obtain ⟨k, d⟩ := e
    obtain ⟨g, ys, hg, hys, rfl⟩ := seq_ok h
    obtain ⟨y, hy, rfl⟩ := map_ok hg
    obtain ⟨g', a, hg', ha, rfl⟩ := seq_ok hy
    obtain ⟨key, _, rfl⟩ := map_ok hg'
    intro x hx
    rcases List.mem_cons.mp hx with rfl | hx
    · exact ⟨d, under_ok ha⟩
    · exact ih hys x hx

theorem mem_keys_put
    {key k : String}
    {value : α}
    {es : List (String × α)}
    (h : k ∈ (put key value es).map Prod.fst) :
    k = key ∨ k ∈ es.map Prod.fst := by
  induction es with
  | nil => exact .inl (List.mem_singleton.mp h)
  | cons e rest ih =>
    obtain ⟨k', v⟩ := e
    unfold put at h
    split at h
    · exact .inr h
    · rcases List.mem_cons.mp h with rfl | h
      · exact .inr List.mem_cons_self
      · rcases ih h with hk | hk
        · exact .inl hk
        · exact .inr (List.mem_cons_of_mem _ hk)

theorem nodup_keys_put
    {key : String}
    {value : α}
    {es : List (String × α)}
    (h : (es.map Prod.fst).Nodup) :
    ((put key value es).map Prod.fst).Nodup := by
  induction es with
  | nil => exact List.pairwise_singleton _ _
  | cons e rest ih =>
    obtain ⟨k, v⟩ := e
    rw [List.map_cons, List.nodup_cons] at h
    unfold put
    split
    · exact List.nodup_cons.mpr h
    · next hk =>
      refine List.nodup_cons.mpr ⟨?_, ih h.2⟩
      intro hmem
      rcases mem_keys_put hmem with hkey | hrest
      · exact hk hkey
      · exact h.1 hrest

theorem lookup_cons_eq
    (k : String)
    (e : String × α)
    (es : List (String × α)) :
    (e :: es).lookup k = if k = e.1 then some e.2 else es.lookup k := by
  rw [List.lookup_cons]
  by_cases hk : k = e.1
  · simp [hk]
  · simp [hk, beq_eq_false_iff_ne.mpr hk]

/-- An entry put among others is the value of its key, and leaves the values of all other keys. -/
theorem lookup_put
    (key : String)
    (value : α)
    (es : List (String × α))
    (k : String) :
    (put key value es).lookup k = if k = key then some value else es.lookup k := by
  induction es with
  | nil => exact lookup_cons_eq k (key, value) []
  | cons e rest ih =>
    unfold put
    rw [lookup_cons_eq k e rest]
    by_cases he : e.1 = key
    · rw [if_pos he, lookup_cons_eq, he]
      split <;> rfl
    · rw [if_neg he, lookup_cons_eq, ih]
      by_cases hk : k = key
      · rw [if_neg fun h => he (h.symm.trans hk), if_pos hk, if_pos hk]
      · rw [if_neg hk, if_neg hk]

/-- Entries put one after the other among others come before these. -/
theorem lookup_foldl_put
    {as : List (String × α)}
    (h : (as.map Prod.fst).Nodup)
    (es : List (String × α))
    (k : String) :
    (as.foldl (fun es e => put e.1 e.2 es) es).lookup k =
      (as.lookup k).or (es.lookup k) := by
  induction as generalizing es with
  | nil => rfl
  | cons e rest ih =>
    obtain ⟨hfirst, hrest⟩ := List.nodup_cons.mp h
    rw [List.foldl_cons, ih hrest, lookup_put, lookup_cons_eq]
    by_cases hk : k = e.1
    · -- The key stands nowhere else among the entries put.
      have hnone : rest.lookup k = none := by
        rw [List.lookup_eq_none_iff]
        intro x hx
        rw [bne_iff_ne]
        exact fun hkx => hfirst (hk ▸ hkx ▸ List.mem_map_of_mem hx)
      rw [hnone, if_pos hk, if_pos hk, Option.none_or, Option.some_or]
    · rw [if_neg hk, if_neg hk]

theorem nodup_foldl_put
    (as : List (String × α))
    {es : List (String × α)}
    (h : (es.map Prod.fst).Nodup) :
    ((as.foldl (fun es e => put e.1 e.2 es) es).map Prod.fst).Nodup := by
  induction as generalizing es with
  | nil => exact h
  | cons e rest ih => exact ih (nodup_keys_put h)

theorem mem_put
    {key : String}
    {value : α}
    {es : List (String × α)}
    {x : String × α}
    (h : x ∈ put key value es) :
    x.2 = value ∨ x ∈ es := by
  induction es with
  | nil =>
    rw [put, List.mem_singleton] at h
    subst h
    exact .inl rfl
  | cons e rest ih =>
    obtain ⟨k, v⟩ := e
    unfold put at h
    split at h
    · rcases List.mem_cons.mp h with rfl | h
      · exact .inl rfl
      · exact .inr (List.mem_cons_of_mem _ h)
    · rcases List.mem_cons.mp h with rfl | h
      · exact .inr List.mem_cons_self
      · rcases ih h with hv | hx
        · exact .inl hv
        · exact .inr (List.mem_cons_of_mem _ hx)

theorem foldl_put
    {P : α → Prop}
    {es acc : List (String × α)}
    (hes : ∀ x ∈ es, P x.2)
    (hacc : ∀ x ∈ acc, P x.2)
    (hnodup : (acc.map Prod.fst).Nodup) :
    ((es.foldl (fun acc e => put e.1 e.2 acc) acc).map Prod.fst).Nodup ∧
      ∀ x ∈ es.foldl (fun acc e => put e.1 e.2 acc) acc, P x.2 := by
  induction es generalizing acc with
  | nil => exact ⟨hnodup, hacc⟩
  | cons e rest ih =>
    refine ih (fun x hx => hes x (List.mem_cons_of_mem e hx)) ?_ (nodup_keys_put hnodup)
    intro x hx
    rcases mem_put hx with hv | hx
    · exact hv ▸ hes e List.mem_cons_self
    · exact hacc x hx

/-- The keys of a map that was read are pairwise different, and its values were read. -/
theorem readMap_ok
    {readKey : Data → Checked String}
    {read : Data → Checked α}
    {d : Data}
    {xs : List (String × α)}
    (h : readMap readKey read d = .ok xs) :
    (xs.map Prod.fst).Nodup ∧ ∀ x ∈ xs, ∃ d, read d = .ok x.2 := by
  cases d with
  | map entries =>
    obtain ⟨es, hes, rfl⟩ := map_ok h
    refine foldl_put (P := fun a => ∃ d, read d = .ok a) (readEntries_ok hes) ?_ ?_
    · intro x hx
      cases hx
    · exact List.nodup_nil
  | _ => cases h

/-! ## What is accepted -/

theorem readItems_map
    {read : Data → Checked β}
    {write : α → Data}
    {result : α → β}
    {xs : List α}
    (h : ∀ x ∈ xs, read (write x) = .ok (result x))
    (i : Nat) :
    readItems read i (xs.map write) = .ok (xs.map result) := by
  induction xs generalizing i with
  | nil => rfl
  | cons x xs ih =>
    rw [List.map_cons, readItems, h x List.mem_cons_self,
      ih (fun y hy => h y (List.mem_cons_of_mem x hy))]
    rfl

/-- A list is read from the documents of its items. -/
theorem readList_map
    {read : Data → Checked α}
    {write : α → Data}
    {xs : List α}
    (h : ∀ x ∈ xs, read (write x) = .ok x) :
    readList read (.list (xs.map write)) = .ok xs := by
  have hitems : readItems read 0 (xs.map write) = .ok (xs.map id) := readItems_map h 0
  rwa [List.map_id] at hitems

theorem readEntries_map
    {read : Data → Checked α}
    {write : α → Data}
    {es : List (String × α)}
    (h : ∀ e ∈ es, read (write e.2) = .ok e.2) :
    readEntries readText read (es.map fun e => (.text e.1, write e.2)) = .ok es := by
  induction es with
  | nil => rfl
  | cons e es ih =>
    rw [List.map_cons, readEntries, h e List.mem_cons_self,
      ih (fun x hx => h x (List.mem_cons_of_mem e hx))]
    rfl

theorem put_of_not_mem
    {key : String}
    {es : List (String × α)}
    (h : key ∉ es.map Prod.fst)
    (value : α) :
    put key value es = es ++ [(key, value)] := by
  induction es with
  | nil => rfl
  | cons e es ih =>
    rw [List.map_cons, List.mem_cons, not_or] at h
    rw [put, if_neg (Ne.symm h.1), ih h.2]
    rfl

/-- Entries whose keys are pairwise different are kept in their order. -/
theorem foldl_put_eq
    {es : List (String × α)}
    (hdistinct : (es.map Prod.fst).Nodup) :
    es.foldl (fun acc e => put e.1 e.2 acc) [] = es := by
  have hput {k : String} {xs : List (String × α)} (hk : k ∉ xs.map Prod.fst) (v : α) :
      put k v (id xs) = id (xs ++ [(k, v)]) :=
    put_of_not_mem hk v
  exact Duplicates.foldl_put_of_nodup hput [] es hdistinct

/-- A map whose keys are pairwise different is read from the documents of its values. -/
theorem readMap_map
    {read : Data → Checked α}
    {write : α → Data}
    {es : List (String × α)}
    (hdistinct : (es.map Prod.fst).Nodup)
    (h : ∀ e ∈ es, read (write e.2) = .ok e.2) :
    readMap readText read (.map (es.map fun e => (.text e.1, write e.2))) = .ok es := by
  unfold readMap
  dsimp only
  rw [readEntries_map h]
  exact congrArg Checked.ok (foldl_put_eq hdistinct)

/-! ## What is refused -/

/-- The issues of an outcome. -/
def Checked.issues : Checked α → List Issue
  | .ok _ => []
  | .wrong is => is

/-- The issues of the items of a list, in their order. -/
def itemIssues (read : Data → Checked α) (i : Nat) (ds : List Data) : List Issue :=
  (ds.zipIdx i).flatMap fun e => ((read e.1).under (.index e.2)).issues

/-- The items of a list are read when each of them is, and otherwise all their issues are told. -/
theorem readItems_cases
    (read : Data → Checked α)
    (i : Nat)
    (ds : List Data) :
    (∃ as, readItems read i ds = .ok as) ∧ (∀ d ∈ ds, ∃ a, read d = .ok a) ∧
        itemIssues read i ds = [] ∨
      readItems read i ds = .wrong (itemIssues read i ds) := by
  induction ds generalizing i with
  | nil => exact .inl ⟨⟨[], rfl⟩, List.forall_mem_nil _, rfl⟩
  | cons d ds ih =>
    have hissues : itemIssues read i (d :: ds)
        = ((read d).under (.index i)).issues ++ itemIssues read (i + 1) ds := by
      rw [itemIssues, List.zipIdx_cons, List.flatMap_cons]
      rfl
    rw [hissues, readItems]
    rcases ih (i + 1) with ⟨⟨as, has⟩, hds, hnone⟩ | hwrong
    · cases hd : read d with
      | ok a =>
        refine .inl ⟨⟨a :: as, ?_⟩, List.forall_mem_cons.mpr ⟨⟨a, hd⟩, hds⟩, ?_⟩
        · rw [has]
          rfl
        · rw [hnone]
          rfl
      | wrong is =>
        refine .inr ?_
        rw [has, hnone, List.append_nil]
        rfl
    · cases hd : read d with
      | ok a =>
        refine .inr ?_
        rw [hwrong]
        rfl
      | wrong is =>
        refine .inr ?_
        rw [hwrong]
        rfl

/-- A list with an item that is wrong tells all the issues of its items. -/
theorem readList_wrong
    {read : Data → Checked α}
    {ds : List Data}
    {d : Data}
    (hd : d ∈ ds)
    {is : List Issue}
    (h : read d = .wrong is) :
    readList read (.list ds) = .wrong (itemIssues read 0 ds) := by
  rcases readItems_cases read 0 ds with ⟨_, hall, _⟩ | hwrong
  · obtain ⟨a, ha⟩ := hall d hd
    rw [h] at ha
    cases ha
  · exact hwrong

end Schema
end Rebalance
