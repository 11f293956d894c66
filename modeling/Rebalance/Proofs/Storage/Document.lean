import Rebalance.Proofs.Json.Plain
import Rebalance.Proofs.Net.AddressText
import Rebalance.Proofs.Storage.Valid

/-!
# Documents of clusters

* `Cluster.read_toData`: a valid cluster is read from its own document, without its scope.
* `Cluster.unwritten?_toData`: the document can be written just when no text holds a surrogate.
* `Cluster.legible_toData_iff` and `Cluster.reread_toData`: the text of the document is read just
  when no count has too many digits, and then it holds all but the densities as they were.
* `Cluster.storable_toData`: the document survives a JSON text when its numbers do.
-/

namespace Rebalance
namespace Storage

open Schema Schema.Checked

/-! ## Single values -/

theorem readName_text
    {s : String}
    (h : IsIdentity s) :
    readName (.text s) = .ok s := by
  have hempty : ¬ s.isEmpty = true := fun he => h.1 (String.isEmpty_iff.mp he)
  show (if Text.hasSurrogate s then _ else if s.isEmpty then _ else Checked.ok s) = _
  rw [h.2, if_neg Bool.false_ne_true, if_neg hempty]

theorem readCount_int
    (n : Nat) :
    readCount (.int n) = .ok n := by
  show atLeast 0 n = _
  rw [atLeast, if_pos (by omega), Int.toNat_natCast]

theorem readPort_int
    {n : Nat}
    (h : 0 < n ∧ n < 65536) :
    readPort (.int n) = .ok n := by
  show (if (n : Int) ≤ 0 then _
    else if 65536 ≤ (n : Int) then _ else Checked.ok (n : Int).toNat) = _
  rw [if_neg (by omega), if_neg (by omega), Int.toNat_natCast]

theorem readAddress_text
    {a : Net.Address}
    (h : a.Valid) :
    readAddress (.text a.text) = .ok a := by
  unfold readAddress
  dsimp only
  rw [Net.read?_text h]

/-! ## Entries -/

/-- Whether none of some texts holds a surrogate. -/
def AreWritable (texts : List String) : Prop :=
  ∀ s ∈ texts, Text.hasSurrogate s = false

instance (texts : List String) : Decidable (AreWritable texts) :=
  inferInstanceAs (Decidable (∀ s ∈ texts, Text.hasSurrogate s = false))

/-- Whether names can be the keys of a document: they are pairwise different and can be written. -/
structure AreKeys (keys : List String) : Prop where
  distinct : keys.Nodup
  writable : AreWritable keys

theorem areKeys_volume :
    AreKeys ["uuid", "storage_type", "capacity", "used", "reserved", "failed", "read_only", "skip",
      "transient", "path"] :=
  ⟨by decide, by decide⟩

theorem areKeys_volumeSet :
    AreKeys ["storage_type", "volumes"] :=
  ⟨by decide, by decide⟩

theorem areKeys_node :
    AreKeys ["uuid", "ip", "port", "hostname", "data_density", "volume_sets"] :=
  ⟨by decide, by decide⟩

theorem areKeys_cluster :
    AreKeys ["nodes"] :=
  ⟨by decide, by decide⟩

/-- The entries of a volume's document. -/
def Volume.fields (v : Volume) : List (String × Data) :=
  [("uuid", .text v.uuid), ("storage_type", .text v.storageType), ("capacity", .int v.capacity),
   ("used", .int v.used), ("reserved", .int v.reserved), ("failed", .bool v.failed),
   ("read_only", .bool v.readOnly), ("skip", .bool v.skip), ("transient", .bool v.transient),
   ("path", .text v.path)]

/-- The entries of the document of a volume set. -/
def VolumeSet.fields (s : VolumeSet) : List (String × Data) :=
  [("storage_type", .text s.storageType), ("volumes", .list (s.volumes.map Volume.toData))]

/-- The sets of a node as entries. -/
def Node.setFields (n : Node) : List (String × Data) :=
  n.volumeSets.map fun e => (e.1, e.2.toData)

/-- The entries of a node's document. -/
def Node.fields (n : Node) : List (String × Data) :=
  [("uuid", .text n.uuid), ("ip", .text n.ip.text), ("port", .int n.port),
   ("hostname", .text n.hostname), ("data_density", .float n.dataDensity),
   ("volume_sets", .map (n.setFields.map Json.textEntry))]

/-- The entries of a cluster's document. -/
def Cluster.fields (c : Cluster) : List (String × Data) :=
  [("nodes", .list (c.nodes.map Node.toData))]

theorem Volume.toData_eq
    (v : Volume) :
    v.toData = .map (v.fields.map Json.textEntry) :=
  rfl

theorem VolumeSet.toData_eq
    (s : VolumeSet) :
    s.toData = .map (s.fields.map Json.textEntry) :=
  rfl

theorem Node.toData_eq
    (n : Node) :
    n.toData = .map (n.fields.map Json.textEntry) := by
  have hsets : n.setFields.map Json.textEntry
      = n.volumeSets.map fun e => (.text e.1, e.2.toData) :=
    List.map_map
  unfold Node.fields Node.toData
  rw [hsets]
  rfl

theorem Cluster.toData_eq
    (c : Cluster) :
    c.toData = .map (c.fields.map Json.textEntry) :=
  rfl

/-! ## Volumes -/

theorem Volume.read_toData
    {v : Volume}
    (h : v.Valid) :
    Volume.read v.toData = .ok v := by
  simp only [Volume.read, Volume.toData, readEntity, required, Schema.optional, Data.find?,
    List.find?_cons, Data.isText, String.reduceBEq, Option.map_some, readName_text h.identity,
    readCount_int]
  rfl

/-! ## Sets -/

theorem VolumeSet.checkTypes_eq
    {s : VolumeSet}
    (h : s.Valid) :
    s.checkTypes = .ok s := by
  have hnone : (s.volumes.find? fun v => decide (v.storageType ≠ s.storageType)) = none :=
    List.find?_eq_none.mpr fun v hv => by simpa using h.types v hv
  rw [checkTypes, hnone]

theorem VolumeSet.read_toData
    {s : VolumeSet}
    (h : s.Valid) :
    VolumeSet.read s.toData = .ok s := by
  have hvolumes : readList Volume.read (.list (s.volumes.map Volume.toData)) = .ok s.volumes :=
    readList_map fun v hv => Volume.read_toData (h.volumes v hv)
  simp only [VolumeSet.read, VolumeSet.toData, readEntity, required, Schema.optional, Data.find?,
    List.find?_cons, Data.isText, String.reduceBEq, Option.map_some, hvolumes]
  exact VolumeSet.checkTypes_eq h

/-! ## Nodes -/

theorem Node.checkVolumes_eq
    {n : Node}
    (h : n.Valid) :
    n.checkVolumes = .ok n := by
  have hnone : (n.volumeSets.find? fun s => decide (s.1 ≠ s.2.storageType)) = none :=
    List.find?_eq_none.mpr fun e he => by simpa using h.keys e he
  rw [checkVolumes, hnone]
  dsimp only
  rw [Duplicates.ofNames?_eq_none_iff.mpr h.volumes]

theorem Node.read_toData
    {n : Node}
    (h : n.Valid) :
    Node.read n.toData = .ok n := by
  have hsets : readMap readText VolumeSet.read
      (.map (n.volumeSets.map fun s => (.text s.1, s.2.toData))) = .ok n.volumeSets :=
    readMap_map h.distinct fun e he => VolumeSet.read_toData (h.sets e he)
  simp only [Node.read, Node.toData, readEntity, required, Schema.optional, Data.find?,
    List.find?_cons, Data.isText, String.reduceBEq, Option.map_some, readName_text h.identity,
    readAddress_text h.address, readPort_int h.port, hsets]
  exact Node.checkVolumes_eq h

/-! ## Clusters -/

theorem Cluster.checkNodes_eq
    {c : Cluster}
    (h : c.Valid) :
    c.checkNodes = .ok c := by
  rw [checkNodes, Duplicates.ofNames?_eq_none_iff.mpr h.distinct]

/-- A valid cluster is read from its own document, without its scope. -/
theorem Cluster.read_toData
    {c : Cluster}
    (h : c.Valid) :
    Cluster.read c.toData = .ok ⟨c.nodes, []⟩ := by
  have hnodes : readList Node.read (.list (c.nodes.map Node.toData)) = .ok c.nodes :=
    readList_map fun n hn => Node.read_toData (h.nodes n hn)
  simp only [Cluster.read, Cluster.toData, readEntity, readEntries, Schema.optional, Data.find?,
    List.find?_cons, List.find?_nil, Data.isText, String.reduceBEq, Option.map_some,
    Option.map_none, hnodes]
  exact Cluster.checkNodes_eq ⟨h.nodes, h.distinct⟩

/-! ## Texts -/

/-- The texts in a volume's document. -/
def Volume.texts (v : Volume) : List String :=
  [v.uuid, v.storageType, v.path]

/-- The texts in the document of a volume set. -/
def VolumeSet.texts (s : VolumeSet) : List String :=
  s.storageType :: s.volumes.flatMap Volume.texts

/-- The texts in a node's document. -/
def Node.texts (n : Node) : List String :=
  n.uuid :: n.ip.text :: n.hostname :: n.volumeSets.flatMap fun e => e.1 :: e.2.texts

/-- The texts in a cluster's document. -/
def Cluster.texts (c : Cluster) : List String :=
  c.nodes.flatMap Node.texts

theorem areWritable_flatMap
    {α : Type}
    {f : α → List String}
    {xs : List α} :
    AreWritable (xs.flatMap f) ↔ ∀ x ∈ xs, AreWritable (f x) := by
  unfold AreWritable
  simp only [List.mem_flatMap]
  exact ⟨fun h x hx s hs => h s ⟨x, hx, hs⟩, fun h s ⟨x, hx, hs⟩ => h x hx s hs⟩

theorem areWritable_cons
    {s : String}
    {texts : List String} :
    AreWritable (s :: texts) ↔ Text.hasSurrogate s = false ∧ AreWritable texts :=
  List.forall_mem_cons

/-- A map whose keys can be written is written just when its values are. -/
theorem unwritten?_fields
    {keys : List String}
    (hkeys : AreKeys keys)
    (es : List (String × Data))
    (hes : es.map Prod.fst = keys) :
    Json.unwritten? (.map (es.map Json.textEntry)) = none ↔
      ∀ e ∈ es, Json.unwritten? e.2 = none := by
  rw [Json.unwritten?_map]
  refine ⟨fun h e he => (h e he).2, fun h e he => ⟨?_, h e he⟩⟩
  exact hkeys.writable e.1 (hes ▸ List.mem_map_of_mem he)

theorem Volume.unwritten?_toData
    (v : Volume) :
    Json.unwritten? v.toData = none ↔ AreWritable v.texts := by
  rw [toData_eq, unwritten?_fields areKeys_volume v.fields rfl]
  simp [Volume.fields, Json.unwritten?, AreWritable, Volume.texts]

theorem VolumeSet.unwritten?_toData
    (s : VolumeSet) :
    Json.unwritten? s.toData = none ↔ AreWritable s.texts := by
  rw [toData_eq, unwritten?_fields areKeys_volumeSet s.fields rfl]
  simp only [VolumeSet.fields, VolumeSet.texts, List.forall_mem_cons, areWritable_cons,
    areWritable_flatMap, Json.unwritten?_text, Json.unwritten?_list, List.forall_mem_map,
    Volume.unwritten?_toData, List.not_mem_nil, false_implies, implies_true, and_true]

theorem Node.unwritten?_toData
    (n : Node) :
    Json.unwritten? n.toData = none ↔ AreWritable n.texts := by
  rw [toData_eq, unwritten?_fields areKeys_node n.fields rfl]
  have hport : Json.unwritten? (.int n.port) = none := rfl
  have hdensity : Json.unwritten? (.float n.dataDensity) = none := rfl
  simp only [Node.fields, Node.setFields, Node.texts, List.forall_mem_cons, areWritable_cons,
    areWritable_flatMap, Json.unwritten?_text, Json.unwritten?_map, List.forall_mem_map,
    VolumeSet.unwritten?_toData, hport, hdensity, List.not_mem_nil, false_implies, implies_true,
    and_true, true_and]

/-- A cluster's document can be written just when none of its texts holds a surrogate. -/
theorem Cluster.unwritten?_toData
    (c : Cluster) :
    Json.unwritten? c.toData = none ↔ AreWritable c.texts := by
  rw [toData_eq, unwritten?_fields areKeys_cluster c.fields rfl]
  simp only [Cluster.fields, Cluster.texts, List.forall_mem_cons, areWritable_flatMap,
    Json.unwritten?_list, List.forall_mem_map, Node.unwritten?_toData, List.not_mem_nil,
    false_implies, implies_true, and_true]

/-! ## Numbers -/

/-- Whether the counts of a volume have not too many digits to be read back. -/
def Volume.FewDigits (v : Volume) : Prop :=
  ∀ n ∈ [v.capacity, v.used, v.reserved], Decimal.width n ≤ Decimal.digitLimit

instance (v : Volume) : Decidable v.FewDigits :=
  inferInstanceAs
    (Decidable (∀ n ∈ [v.capacity, v.used, v.reserved], Decimal.width n ≤ Decimal.digitLimit))

/-- Whether a double is finite. -/
def IsFinite (x : Float) : Prop :=
  ∃ negative mantissa exponent, Decimal.Binary.of x = .finite negative mantissa exponent

/-- Whether a double is read back from its text in a stored document. -/
def IsReadBack (x : Float) : Prop :=
  ∀ cs, Decimal.storedText? x = some cs → Json.scalar cs = .ok (.float x, [])

/-- The number of a port has few digits. -/
theorem width_of_port
    {n : Nat}
    (h : 0 < n ∧ n < 65536) :
    Decimal.width n ≤ Decimal.digitLimit := by
  have hwidth : Decimal.width n ≤ 5 := (Decimal.width_le_iff (by decide)).mpr (by omega)
  unfold Decimal.digitLimit
  omega

theorem legible_count_iff
    {n : Nat} :
    Json.Legible (.int n) ↔ Decimal.width n ≤ Decimal.digitLimit := by
  rw [Json.legible_int_iff, Int.natAbs_natCast]

theorem reread_count
    {n : Nat}
    (h : Decimal.width n ≤ Decimal.digitLimit) :
    Json.reread (.int n) = .ok (.int n) :=
  Json.reread_int (by rwa [Int.natAbs_natCast])

/-- A double is finite just when it has a text. -/
theorem isFinite_iff
    {x : Float} :
    IsFinite x ↔ ∃ cs, Decimal.storedText? x = some cs := by
  unfold IsFinite Decimal.storedText?
  cases hx : Decimal.Binary.of x <;> simp

/-- A finite double that is read back is what its text is read as. -/
theorem rereadFloat_eq
    {x : Float}
    (hfinite : IsFinite x)
    (hback : IsReadBack x) :
    Json.rereadFloat x = .float x := by
  obtain ⟨cs, hstored⟩ := isFinite_iff.mp hfinite
  obtain ⟨y, hread, hy⟩ := Json.rereadFloat?_of_stored hstored
  rw [hback _ hstored] at hread
  cases hread
  rw [Json.rereadFloat, hy]

/-! ## Forms -/

theorem Volume.hasForm_toData
    (v : Volume) :
    Json.HasForm 1 v.toData := by
  rw [toData_eq]
  refine .map areKeys_volume.distinct ?_
  simp only [Volume.fields, List.forall_mem_cons]
  exact ⟨.text _, .text _, .int _, .int _, .int _, .bool _, .bool _, .bool _, .bool _, .text _,
    List.forall_mem_nil _⟩

theorem VolumeSet.hasForm_toData
    (s : VolumeSet) :
    Json.HasForm 3 s.toData := by
  rw [toData_eq]
  refine .map areKeys_volumeSet.distinct ?_
  simp only [VolumeSet.fields, List.forall_mem_cons]
  refine ⟨.text _, .list ?_, List.forall_mem_nil _⟩
  exact List.forall_mem_map.mpr fun v _ => v.hasForm_toData

theorem Node.hasForm_toData
    {n : Node}
    (h : n.Valid) :
    Json.HasForm 5 n.toData := by
  have hkeys : n.setFields.map Prod.fst = n.volumeSets.map Prod.fst := List.map_map
  have hsets : ∀ e ∈ n.setFields, Json.HasForm 3 e.2 :=
    List.forall_mem_map.mpr fun e _ => e.2.hasForm_toData
  rw [toData_eq]
  refine .map areKeys_node.distinct ?_
  simp only [Node.fields, List.forall_mem_cons]
  exact ⟨.text _, .text _, .int _, .text _, .float _, .map (hkeys ▸ h.distinct) hsets,
    List.forall_mem_nil _⟩

/-- The document of a valid cluster has a JSON form. -/
theorem Cluster.hasForm_toData
    {c : Cluster}
    (h : c.Valid) :
    Json.HasForm 7 c.toData := by
  rw [toData_eq]
  refine .map areKeys_cluster.distinct ?_
  simp only [Cluster.fields, List.forall_mem_cons]
  refine ⟨.list (List.forall_mem_map.mpr ?_), List.forall_mem_nil _⟩
  exact fun n hn => Node.hasForm_toData (h.nodes n hn)

/-! ## When a document is read -/

theorem Volume.legible_toData_iff
    (v : Volume) :
    Json.Legible v.toData ↔ v.FewDigits := by
  rw [toData_eq, Json.legible_map_iff]
  simp only [Volume.fields, Volume.FewDigits, List.forall_mem_cons, legible_count_iff,
    Json.legible_text, Json.legible_bool, List.not_mem_nil, false_implies, implies_true, and_true,
    true_and]

theorem VolumeSet.legible_toData_iff
    (s : VolumeSet) :
    Json.Legible s.toData ↔ ∀ v ∈ s.volumes, v.FewDigits := by
  rw [toData_eq, Json.legible_map_iff]
  simp only [VolumeSet.fields, List.forall_mem_cons, Json.legible_text, Json.legible_list_iff,
    List.forall_mem_map, Volume.legible_toData_iff, List.not_mem_nil, false_implies, implies_true,
    and_true, true_and]

theorem Node.legible_toData_iff
    {n : Node}
    (h : n.Valid) :
    Json.Legible n.toData ↔ ∀ v ∈ n.volumes, v.FewDigits := by
  have hport : Json.Legible (.int n.port) := legible_count_iff.mpr (width_of_port h.port)
  rw [toData_eq, Json.legible_map_iff]
  simp only [Node.fields, Node.setFields, Node.volumes, List.forall_mem_cons, List.forall_mem_map,
    List.forall_mem_flatMap, Json.legible_text, Json.legible_float, Json.legible_map_iff, hport,
    VolumeSet.legible_toData_iff, List.not_mem_nil, false_implies, implies_true, and_true, true_and]

/-- The document of a valid cluster is read just when no count has too many digits. -/
theorem Cluster.legible_toData_iff
    {c : Cluster}
    (h : c.Valid) :
    Json.Legible c.toData ↔ ∀ n ∈ c.nodes, ∀ v ∈ n.volumes, v.FewDigits := by
  rw [toData_eq, Json.legible_map_iff]
  simp only [Cluster.fields, List.forall_mem_cons, Json.legible_list_iff, List.forall_mem_map,
    List.not_mem_nil, false_implies, implies_true, and_true]
  exact forall₂_congr fun n hn => Node.legible_toData_iff (h.nodes n hn)

/-! ## What a document is read as -/

/-- What the document of a node is read as: only its density may be another, or gone. -/
def Node.remains (n : Node) : Data :=
  .map ((Schema.put "data_density" (Json.rereadFloat n.dataDensity) n.fields).map Json.textEntry)

/-- What the document of a cluster is read as. -/
def Cluster.remains (c : Cluster) : Data :=
  .map [(.text "nodes", .list (c.nodes.map Node.remains))]

theorem Volume.reread_toData
    {v : Volume}
    (h : v.FewDigits) :
    Json.reread v.toData = .ok v.toData := by
  have hfields : Json.rereadEntries (v.fields.map Json.textEntry)
      = .ok (v.fields.map Json.textEntry) := by
    rw [Json.rereadEntries_self_iff]
    simp only [Volume.fields, List.forall_mem_cons]
    exact ⟨rfl, rfl, reread_count (h _ (by simp)), reread_count (h _ (by simp)),
      reread_count (h _ (by simp)), rfl, rfl, rfl, rfl, rfl, List.forall_mem_nil _⟩
  rw [toData_eq, Json.reread, hfields]
  rfl

theorem VolumeSet.reread_toData
    {s : VolumeSet}
    (h : ∀ v ∈ s.volumes, v.FewDigits) :
    Json.reread s.toData = .ok s.toData := by
  have hvolumes := Json.rereadItems_map fun v hv => Volume.reread_toData (h v hv)
  have hfields : Json.rereadEntries (s.fields.map Json.textEntry)
      = .ok (s.fields.map Json.textEntry) := by
    rw [Json.rereadEntries_self_iff]
    simp only [VolumeSet.fields, List.forall_mem_cons]
    refine ⟨rfl, ?_, List.forall_mem_nil _⟩
    rw [Json.reread, hvolumes]
    rfl
  rw [toData_eq, Json.reread, hfields]
  rfl

theorem Node.reread_toData
    {n : Node}
    (h : n.Valid)
    (hdigits : ∀ v ∈ n.volumes, v.FewDigits) :
    Json.reread n.toData = .ok n.remains := by
  have hsets : Json.reread (.map (n.setFields.map Json.textEntry))
      = .ok (.map (n.setFields.map Json.textEntry)) := by
    rw [Json.reread, Json.rereadEntries_self_iff.mpr]
    · rfl
    · refine List.forall_mem_map.mpr fun e he => VolumeSet.reread_toData ?_
      exact fun v hv => hdigits v (List.mem_flatMap.mpr ⟨e, he, hv⟩)
  have hfields : Json.rereadEntries (n.fields.map Json.textEntry)
      = .ok ((Schema.put "data_density" (Json.rereadFloat n.dataDensity) n.fields).map
        Json.textEntry) := by
    simp only [Node.fields, List.map_cons, List.map_nil]
    rw [Json.rereadEntries_cons rfl, Json.rereadEntries_cons rfl,
      Json.rereadEntries_cons (reread_count (width_of_port h.port)), Json.rereadEntries_cons rfl,
      Json.rereadEntries_cons rfl, Json.rereadEntries_cons hsets]
    rfl
  rw [toData_eq, Json.reread, hfields]
  rfl

/-- The document of a valid cluster is read up to its densities, unless a count is too long. -/
theorem Cluster.reread_toData
    {c : Cluster}
    (h : c.Valid)
    (hdigits : ∀ n ∈ c.nodes, ∀ v ∈ n.volumes, v.FewDigits) :
    Json.reread c.toData = .ok c.remains := by
  have hnodes := Json.rereadItems_map fun n hn =>
    Node.reread_toData (h.nodes n hn) (hdigits n hn)
  have hlist : Json.reread (.list (c.nodes.map Node.toData))
      = .ok (.list (c.nodes.map Node.remains)) := by
    rw [Json.reread, hnodes]
    rfl
  rw [toData_eq, Json.reread, Cluster.fields, List.map_cons, Json.rereadEntries_cons hlist]
  rfl

theorem Node.remains_eq
    {n : Node}
    {y : Float}
    (h : Json.rereadFloat n.dataDensity = .float y) :
    n.remains = Node.toData { n with dataDensity := y } := by
  rw [remains, h, toData_eq]
  rfl

/-! ## What survives -/

theorem storable_int
    {n : Nat}
    (h : Decimal.width n ≤ Decimal.digitLimit)
    (room : Nat) :
    Json.Storable room (.int n) :=
  Json.storable_of_reread (.int n) (reread_count h)

theorem storable_float
    {x : Float}
    (hfinite : IsFinite x)
    (hback : IsReadBack x)
    (room : Nat) :
    Json.Storable room (.float x) :=
  Json.storable_of_reread (.float x) (congrArg Except.ok (rereadFloat_eq hfinite hback))

theorem Volume.storable_toData
    {v : Volume}
    (h : v.FewDigits) :
    Json.Storable 1 v.toData :=
  Json.storable_of_reread v.hasForm_toData (Volume.reread_toData h)

/-- The document of a valid cluster survives a JSON text when its numbers do. -/
theorem Cluster.storable_toData
    {c : Cluster}
    (hvalid : c.Valid)
    (hdigits : ∀ n ∈ c.nodes, ∀ v ∈ n.volumes, v.FewDigits)
    (hfinite : ∀ n ∈ c.nodes, IsFinite n.dataDensity)
    (hback : ∀ n ∈ c.nodes, IsReadBack n.dataDensity) :
    Json.Storable 7 c.toData := by
  have hremains : c.nodes.map Node.remains = c.nodes.map Node.toData :=
    List.map_congr_left fun n hn =>
      Node.remains_eq (rereadFloat_eq (hfinite n hn) (hback n hn))
  have hread := Cluster.reread_toData hvalid hdigits
  rw [remains, hremains] at hread
  exact Json.storable_of_reread (Cluster.hasForm_toData hvalid) hread

end Storage
end Rebalance
