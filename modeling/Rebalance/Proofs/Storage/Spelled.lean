import Rebalance.Proofs.Json.Spelled
import Rebalance.Proofs.Schema.Whole
import Rebalance.Proofs.Storage.Acceptance

/-!
# Clusters that JSON texts spell

* `width_of_entered`, `forall_of_listOf`, `forall_of_mapOf`: what the entries of a spelled document
  give.
* `Cluster.fewDigits_of_drawn`: the counts of a cluster that is drawn from a spelled document have
  not too many digits.
-/

namespace Rebalance
namespace Storage

open Schema

/-! ## Entries of spelled documents -/

section Entries

variable {es : List (Data × Data)} {name : String}

theorem isSpelled_of_find?
    (hes : Json.IsSpelled (.map es))
    {d : Data}
    (h : Data.find? name es = some d) :
    Json.IsSpelled d := by
  obtain ⟨e, he, rfl⟩ := Option.map_eq_some_iff.mp h
  exact hes.value e (List.mem_of_find?_eq_some he)

theorem width_of_entered
    (hes : Json.IsSpelled (.map es))
    {n : Nat}
    (h : Entered es name Reading.lenient.count n) :
    Decimal.width n ≤ Decimal.digitLimit := by
  obtain ⟨d, hd, hread⟩ := h
  have hspelled := isSpelled_of_find? hes hd
  have hgiven : ∀ m, d = .int m → Decimal.width m.natAbs ≤ Decimal.digitLimit := by
    rintro m rfl
    cases hspelled with
    | int digits => exact digits
  have hwidth := width_of_readWhole hgiven hread
  rwa [Int.natAbs_natCast] at hwidth

theorem width_of_enteredOr
    (hes : Json.IsSpelled (.map es))
    {n : Nat}
    (h : EnteredOr es name 0 Reading.lenient.count n) :
    Decimal.width n ≤ Decimal.digitLimit := by
  rcases h with hentered | ⟨_, rfl⟩
  · exact width_of_entered hes hentered
  · decide

variable {α : Type} {stands : Data → α → Prop} {P : α → Prop}

/-- What holds of all that spelled documents give holds of the items of a list. -/
theorem forall_of_listOf
    (hes : Json.IsSpelled (.map es))
    {xs : List α}
    (h : EnteredOr es name [] (Reading.lenient.ListOf stands) xs)
    (hstands : ∀ d x, Json.IsSpelled d → stands d x → P x) :
    ∀ x ∈ xs, P x := by
  rcases h with ⟨d, hd, ds, hitems, hds⟩ | ⟨_, rfl⟩
  · have hspelled := isSpelled_of_find? hes hd
    intro x hx
    obtain ⟨y, hy, hyx⟩ := exists_of_forall₂ hds x hx
    rcases hitems with rfl | rfl
    · exact hstands y x (hspelled.item y hy) hyx
    · cases hspelled
  · exact List.forall_mem_nil _

/-- The same holds of the values of a map. -/
theorem forall_of_mapOf
    (hes : Json.IsSpelled (.map es))
    {ys : List (String × α)}
    (h : EnteredOr es name [] (Reading.lenient.MapOf stands) ys)
    (hstands : ∀ d x, Json.IsSpelled d → stands d x → P x) :
    ∀ y ∈ ys, P y.2 := by
  rcases h with ⟨d, hd, entries, xs, rfl, hxs, rfl⟩ | ⟨_, rfl⟩
  · have hspelled := isSpelled_of_find? hes hd
    refine (foldl_put ?_ (List.forall_mem_nil _) List.nodup_nil).2
    intro x hx
    obtain ⟨e, he, _, hvalue⟩ := exists_of_forall₂ hxs x hx
    exact hstands e.2 x.2 (hspelled.value e he) hvalue
  · exact List.forall_mem_nil _

end Entries

/-! ## Counts -/

theorem Volume.fewDigits_of_drawn
    {d : Data}
    {v : Volume}
    (hd : Json.IsSpelled d)
    (h : Volume.Drawn .lenient d v) :
    v.FewDigits := by
  obtain ⟨es, rfl, hentries⟩ := h
  simp only [FewDigits, List.forall_mem_cons]
  exact ⟨width_of_entered hd hentries.capacity, width_of_enteredOr hd hentries.used,
    width_of_enteredOr hd hentries.reserved, List.forall_mem_nil _⟩

theorem VolumeSet.fewDigits_of_drawn
    {d : Data}
    {s : VolumeSet}
    (hd : Json.IsSpelled d)
    (h : VolumeSet.Drawn .lenient d s) :
    ∀ v ∈ s.volumes, v.FewDigits := by
  obtain ⟨es, rfl, hentries⟩ := h
  exact forall_of_listOf hd hentries.volumes fun _ _ => Volume.fewDigits_of_drawn

theorem Node.fewDigits_of_drawn
    {d : Data}
    {n : Node}
    (hd : Json.IsSpelled d)
    (h : Node.Drawn .lenient d n) :
    ∀ v ∈ n.volumes, v.FewDigits := by
  obtain ⟨es, rfl, hentries⟩ := h
  have hsets := forall_of_mapOf hd hentries.volumeSets fun _ _ => VolumeSet.fewDigits_of_drawn
  intro v hv
  obtain ⟨e, he, hv⟩ := List.mem_flatMap.mp hv
  exact hsets e he v hv

/-- The counts of a cluster that is drawn from a spelled document have not too many digits. -/
theorem Cluster.fewDigits_of_drawn
    {d : Data}
    {c : Cluster}
    (hd : Json.IsSpelled d)
    (h : Cluster.Drawn .lenient d c) :
    ∀ n ∈ c.nodes, ∀ v ∈ n.volumes, v.FewDigits := by
  obtain ⟨es, rfl, hentries⟩ := h
  exact forall_of_listOf hd hentries fun _ _ => Node.fewDigits_of_drawn

end Storage
end Rebalance
