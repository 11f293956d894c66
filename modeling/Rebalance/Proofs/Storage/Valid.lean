import Rebalance.Proofs.Duplicates
import Rebalance.Proofs.Net.Address
import Rebalance.Proofs.Schema.Reading
import Rebalance.Storage.Cluster

/-!
# Valid clusters

* `Volume.Valid`, `VolumeSet.Valid`, `Node.Valid`, `Cluster.Valid`: what holds of every entity that
  was read.
* `Cluster.valid_of_read`: a cluster that was read is valid.
-/

namespace Rebalance
namespace Storage

open Schema Schema.Checked

/-! ## Valid entities -/

/-- Whether a text is an identity: it is not empty and holds no surrogates. -/
def IsIdentity (s : String) : Prop :=
  s ≠ "" ∧ Text.hasSurrogate s = false

/-- Whether a volume has an identity. -/
structure Volume.Valid (v : Volume) : Prop where
  identity : IsIdentity v.uuid

/-- Whether the volumes of a set have its storage type. -/
structure VolumeSet.Valid (s : VolumeSet) : Prop where
  volumes : ∀ v ∈ s.volumes, v.Valid
  types : ∀ v ∈ s.volumes, v.storageType = s.storageType

/-- Whether a node has its sets under their storage types and no two volumes of one identity. -/
structure Node.Valid (n : Node) : Prop where
  identity : IsIdentity n.uuid
  address : n.ip.Valid
  port : 0 < n.port ∧ n.port < 65536
  sets : ∀ e ∈ n.volumeSets, e.2.Valid
  keys : ∀ e ∈ n.volumeSets, e.1 = e.2.storageType
  distinct : (n.volumeSets.map Prod.fst).Nodup
  volumes : (n.volumes.map Volume.uuid).Nodup

/-- Whether a cluster has no two nodes of one identity. -/
structure Cluster.Valid (c : Cluster) : Prop where
  nodes : ∀ n ∈ c.nodes, n.Valid
  distinct : (c.nodes.map Node.uuid).Nodup

/-! ## Whether entities are valid can be computed -/

instance (s : String) : Decidable (IsIdentity s) :=
  inferInstanceAs (Decidable (s ≠ "" ∧ Text.hasSurrogate s = false))

instance (v : Volume) : Decidable v.Valid :=
  decidable_of_iff (IsIdentity v.uuid) ⟨fun h => ⟨h⟩, fun h => h.identity⟩

instance (s : VolumeSet) : Decidable s.Valid :=
  decidable_of_iff
    ((∀ v ∈ s.volumes, v.Valid) ∧ ∀ v ∈ s.volumes, v.storageType = s.storageType)
    ⟨fun ⟨volumes, types⟩ => ⟨volumes, types⟩, fun h => ⟨h.volumes, h.types⟩⟩

instance (n : Node) : Decidable n.Valid :=
  decidable_of_iff
    (IsIdentity n.uuid ∧ n.ip.Valid ∧ (0 < n.port ∧ n.port < 65536) ∧
      (∀ e ∈ n.volumeSets, e.2.Valid) ∧ (∀ e ∈ n.volumeSets, e.1 = e.2.storageType) ∧
      (n.volumeSets.map Prod.fst).Nodup ∧ (n.volumes.map Volume.uuid).Nodup)
    ⟨fun ⟨identity, address, port, sets, keys, distinct, volumes⟩ =>
        ⟨identity, address, port, sets, keys, distinct, volumes⟩,
      fun h => ⟨h.identity, h.address, h.port, h.sets, h.keys, h.distinct, h.volumes⟩⟩

instance (c : Cluster) : Decidable c.Valid :=
  decidable_of_iff ((∀ n ∈ c.nodes, n.Valid) ∧ (c.nodes.map Node.uuid).Nodup)
    ⟨fun ⟨nodes, distinct⟩ => ⟨nodes, distinct⟩, fun h => ⟨h.nodes, h.distinct⟩⟩

/-! ## What was read is valid -/

theorem isIdentity_of_readName
    {d : Data}
    {s : String}
    (h : readName d = .ok s) :
    IsIdentity s := by
  obtain ⟨t, _, h⟩ := andThen_ok h
  split at h
  · cases h
  · next hsurrogate =>
    split at h
    · cases h
    · next hempty =>
      cases h
      exact ⟨fun he => hempty (by simp [he]), Bool.eq_false_iff.mpr hsurrogate⟩

theorem valid_of_readAddress
    {d : Data}
    {a : Net.Address}
    (h : readAddress d = .ok a) :
    a.Valid := by
  unfold readAddress at h
  dsimp only at h
  split at h
  · next heq =>
    cases h
    split at heq
    · exact Net.valid_of_read? heq
    · exact Net.valid_of_ofInt? heq
    · exact Net.valid_of_ofInt? heq
    · exact Net.valid_of_ofBytes? heq
    · cases heq
  · cases h

theorem readPort_range
    {d : Data}
    {n : Nat}
    (h : readPort d = .ok n) :
    0 < n ∧ n < 65536 := by
  obtain ⟨k, _, h⟩ := andThen_ok h
  split at h
  · cases h
  · split at h
    · cases h
    · cases h
      omega

theorem Volume.valid_of_read
    {d : Data}
    {v : Volume}
    (h : Volume.read d = .ok v) :
    v.Valid := by
  obtain ⟨es, _, h⟩ := readEntity_ok h
  obtain ⟨_, path, h₁, _, rfl⟩ := seq_ok h
  obtain ⟨_, transient, h₂, _, rfl⟩ := seq_ok h₁
  obtain ⟨_, skip, h₃, _, rfl⟩ := seq_ok h₂
  obtain ⟨_, readOnly, h₄, _, rfl⟩ := seq_ok h₃
  obtain ⟨_, failed, h₅, _, rfl⟩ := seq_ok h₄
  obtain ⟨_, reserved, h₆, _, rfl⟩ := seq_ok h₅
  obtain ⟨_, used, h₇, _, rfl⟩ := seq_ok h₆
  obtain ⟨_, capacity, h₈, _, rfl⟩ := seq_ok h₇
  obtain ⟨_, storageType, h₉, _, rfl⟩ := seq_ok h₈
  obtain ⟨uuid, huuid, rfl⟩ := map_ok h₉
  obtain ⟨d, hd⟩ := required_ok huuid
  exact ⟨isIdentity_of_readName hd⟩

theorem VolumeSet.valid_of_read
    {d : Data}
    {s : VolumeSet}
    (h : VolumeSet.read d = .ok s) :
    s.Valid := by
  obtain ⟨es, _, h⟩ := readEntity_ok h
  obtain ⟨s', h, hcheck⟩ := andThen_ok h
  obtain ⟨_, volumes, h₁, hvolumes, rfl⟩ := seq_ok h
  obtain ⟨storageType, _, rfl⟩ := map_ok h₁
  unfold VolumeSet.checkTypes at hcheck
  split at hcheck
  · cases hcheck
  · next hnone =>
    cases hcheck
    constructor
    · intro v hv
      rcases optional_ok hvolumes with rfl | ⟨d, hd⟩
      · cases hv
      · obtain ⟨d, hd⟩ := readList_ok hd v hv
        exact Volume.valid_of_read hd
    · intro v hv
      have htype := List.find?_eq_none.mp hnone v hv
      simpa using htype

theorem Node.valid_of_read
    {d : Data}
    {n : Node}
    (h : Node.read d = .ok n) :
    n.Valid := by
  obtain ⟨es, _, h⟩ := readEntity_ok h
  obtain ⟨n', h, hcheck⟩ := andThen_ok h
  obtain ⟨_, volumeSets, h₁, hsets, rfl⟩ := seq_ok h
  obtain ⟨_, dataDensity, h₂, _, rfl⟩ := seq_ok h₁
  obtain ⟨_, hostname, h₃, _, rfl⟩ := seq_ok h₂
  obtain ⟨_, port, h₄, hport, rfl⟩ := seq_ok h₃
  obtain ⟨_, ip, h₅, hip, rfl⟩ := seq_ok h₄
  obtain ⟨uuid, huuid, rfl⟩ := map_ok h₅
  have hmap : (volumeSets.map Prod.fst).Nodup ∧
      ∀ e ∈ volumeSets, ∃ d, VolumeSet.read d = .ok e.2 := by
    rcases optional_ok hsets with rfl | ⟨d, hd⟩
    · exact ⟨List.nodup_nil, List.forall_mem_nil _⟩
    · exact readMap_ok hd
  obtain ⟨_, huuid⟩ := required_ok huuid
  obtain ⟨_, hip⟩ := required_ok hip
  obtain ⟨_, hport⟩ := required_ok hport
  unfold Node.checkVolumes at hcheck
  split at hcheck
  · cases hcheck
  · next hkeys =>
    split at hcheck
    · cases hcheck
    · next hnames =>
      cases hcheck
      exact {
        identity := isIdentity_of_readName huuid
        address := valid_of_readAddress hip
        port := readPort_range hport
        sets := fun e he => by
          obtain ⟨d, hd⟩ := hmap.2 e he
          exact VolumeSet.valid_of_read hd
        keys := fun e he => by
          have := List.find?_eq_none.mp hkeys e he
          simpa using this
        distinct := hmap.1
        volumes := Duplicates.ofNames?_eq_none_iff.mp hnames }

theorem Cluster.valid_of_readEntries
    {es : List (Data × Data)}
    {c : Cluster}
    (h : Cluster.readEntries es = .ok c) :
    c.Valid := by
  obtain ⟨c', h, hcheck⟩ := andThen_ok h
  obtain ⟨_, scope, h₁, _, rfl⟩ := seq_ok h
  obtain ⟨nodes, hnodes, rfl⟩ := map_ok h₁
  unfold Cluster.checkNodes at hcheck
  split at hcheck
  · cases hcheck
  · next hnames =>
    cases hcheck
    refine ⟨?_, Duplicates.ofNames?_eq_none_iff.mp hnames⟩
    intro n hn
    rcases optional_ok hnodes with rfl | ⟨d, hd⟩
    · cases hn
    · obtain ⟨d, hd⟩ := readList_ok hd n hn
      exact Node.valid_of_read hd

/-- A cluster that was read is valid. -/
theorem Cluster.valid_of_read
    {d : Data}
    {c : Cluster}
    (h : Cluster.read d = .ok c) :
    c.Valid := by
  obtain ⟨es, _, h⟩ := readEntity_ok h
  exact Cluster.valid_of_readEntries h

end Storage
end Rebalance
