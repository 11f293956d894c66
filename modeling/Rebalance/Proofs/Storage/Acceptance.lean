import Rebalance.Proofs.Schema.Entries
import Rebalance.Proofs.Storage.Document

/-!
# Which documents are read as clusters

* `Volume.Drawn`, `VolumeSet.Drawn`, `Node.Drawn`, `Cluster.Drawn`: an entity has the values that a
  document gives for its fields, in the order of the document.
* `Cluster.Lawful`: the rules that the nodes of a cluster obey.
* `Cluster.drawn_of_read`, `Cluster.Valid.lawful`: a cluster that was read is drawn from its
  document and obeys the rules.
* `Cluster.read_of_declared`: a cluster that obeys the rules is read from every document whose
  values have their declared types.
-/

namespace Rebalance
namespace Storage

open Schema Schema.Checked

/-! ## What a document says about an entity -/

/-- Whether the entries of a document give the fields of a volume. -/
structure Volume.Entries
    (r : Reading)
    (es : List (Data × Data))
    (v : Volume) : Prop where
  uuid : Entered es "uuid" r.text v.uuid
  storageType : Entered es "storage_type" r.text v.storageType
  capacity : Entered es "capacity" r.count v.capacity
  used : EnteredOr es "used" 0 r.count v.used
  reserved : EnteredOr es "reserved" 0 r.count v.reserved
  failed : EnteredOr es "failed" false r.truth v.failed
  readOnly : EnteredOr es "read_only" false r.truth v.readOnly
  skip : EnteredOr es "skip" false r.truth v.skip
  transient : EnteredOr es "transient" false r.truth v.transient
  path : EnteredOr es "path" "" r.text v.path

/-- Whether a document gives the fields of a volume. -/
def Volume.Drawn
    (r : Reading)
    (d : Data)
    (v : Volume) : Prop :=
  ∃ es, d = .map es ∧ Volume.Entries r es v

/-- Whether the entries of a document give the fields of a volume set. -/
structure VolumeSet.Entries
    (r : Reading)
    (es : List (Data × Data))
    (s : VolumeSet) : Prop where
  storageType : Entered es "storage_type" r.text s.storageType
  volumes : EnteredOr es "volumes" [] (r.ListOf (Volume.Drawn r)) s.volumes

/-- Whether a document gives the fields of a volume set. -/
def VolumeSet.Drawn
    (r : Reading)
    (d : Data)
    (s : VolumeSet) : Prop :=
  ∃ es, d = .map es ∧ VolumeSet.Entries r es s

/-- Whether the entries of a document give the fields of a node. -/
structure Node.Entries
    (r : Reading)
    (es : List (Data × Data))
    (n : Node) : Prop where
  uuid : Entered es "uuid" r.text n.uuid
  ip : Entered es "ip" r.address n.ip
  port : Entered es "port" r.count n.port
  hostname : EnteredOr es "hostname" "" r.text n.hostname
  dataDensity : EnteredOr es "data_density" 0.0 r.number n.dataDensity
  volumeSets : EnteredOr es "volume_sets" [] (r.MapOf (VolumeSet.Drawn r)) n.volumeSets

/-- Whether a document gives the fields of a node. -/
def Node.Drawn
    (r : Reading)
    (d : Data)
    (n : Node) : Prop :=
  ∃ es, d = .map es ∧ Node.Entries r es n

/-- Whether the entries of a document give the nodes of a cluster. -/
def Cluster.Entries
    (r : Reading)
    (es : List (Data × Data))
    (c : Cluster) : Prop :=
  EnteredOr es "nodes" [] (r.ListOf (Node.Drawn r)) c.nodes

/-- Whether a document gives the nodes of a cluster. -/
def Cluster.Drawn
    (r : Reading)
    (d : Data)
    (c : Cluster) : Prop :=
  ∃ es, d = .map es ∧ Cluster.Entries r es c

/-- Whether a document without a scope gives the nodes of a cluster by values that have their
declared types. -/
def Cluster.Declared
    (d : Data)
    (c : Cluster) : Prop :=
  ∃ es, d = .map es ∧ Cluster.Entries .declared es c ∧
    Data.find? "nodes_to_process" es = none ∧ c.scope = []

/-! ## The rules -/

/-- The rules that the nodes of a cluster obey.  Counts are natural numbers, so that they are not
negative. -/
structure Cluster.Lawful (c : Cluster) : Prop where
  nodesNamed : ∀ n ∈ c.nodes, n.uuid ≠ ""
  volumesNamed : ∀ n ∈ c.nodes, ∀ v ∈ n.volumes, v.uuid ≠ ""
  ports : ∀ n ∈ c.nodes, 1 ≤ n.port ∧ n.port ≤ 65535
  types : ∀ n ∈ c.nodes, ∀ e ∈ n.volumeSets, ∀ v ∈ e.2.volumes, v.storageType = e.2.storageType
  keys : ∀ n ∈ c.nodes, ∀ e ∈ n.volumeSets, e.1 = e.2.storageType
  volumesDiffer : ∀ n ∈ c.nodes, (n.volumes.map Volume.uuid).Nodup
  nodesDiffer : (c.nodes.map Node.uuid).Nodup

theorem Node.Valid.volume
    {n : Node}
    (h : n.Valid)
    {v : Volume}
    (hv : v ∈ n.volumes) :
    v.Valid := by
  obtain ⟨e, he, hv⟩ := List.mem_flatMap.mp hv
  exact (h.sets e he).volumes v hv

/-- A valid cluster obeys the rules. -/
theorem Cluster.Valid.lawful
    {c : Cluster}
    (h : c.Valid) :
    c.Lawful where
  nodesNamed n hn := (h.nodes n hn).identity.1
  volumesNamed n hn _ hv := ((h.nodes n hn).volume hv).identity.1
  ports n hn := ⟨(h.nodes n hn).port.1, Nat.le_of_lt_succ (h.nodes n hn).port.2⟩
  types n hn e he := ((h.nodes n hn).sets e he).types
  keys n hn := (h.nodes n hn).keys
  volumesDiffer n hn := (h.nodes n hn).volumes
  nodesDiffer := h.distinct

/-! ## What was read is drawn from its document -/

theorem text_of_readName
    {d : Data}
    {s : String}
    (h : readName d = .ok s) :
    Reading.lenient.text d s := by
  obtain ⟨t, ht, h⟩ := andThen_ok h
  split at h
  · cases h
  · split at h
    · cases h
    · cases h
      exact ht

theorem count_of_readCount
    {d : Data}
    {n : Nat}
    (h : readCount d = .ok n) :
    Reading.lenient.count d n := by
  obtain ⟨k, hk, h⟩ := andThen_ok h
  unfold atLeast at h
  split at h
  · next hle =>
    cases h
    show readWhole d = .ok (k.toNat : Int)
    rw [Int.toNat_of_nonneg hle, hk]
  · cases h

theorem count_of_readPort
    {d : Data}
    {n : Nat}
    (h : readPort d = .ok n) :
    Reading.lenient.count d n := by
  obtain ⟨k, hk, h⟩ := andThen_ok h
  split at h
  · cases h
  · next hpos =>
    split at h
    · cases h
    · cases h
      show readWhole d = .ok (k.toNat : Int)
      rw [Int.toNat_of_nonneg (by omega), hk]

theorem Volume.drawn_of_read
    {d : Data}
    {v : Volume}
    (h : Volume.read d = .ok v) :
    Volume.Drawn .lenient d v := by
  obtain ⟨es, rfl, h⟩ := readEntity_ok h
  obtain ⟨_, path, h₁, hpath, rfl⟩ := seq_ok h
  obtain ⟨_, transient, h₂, htransient, rfl⟩ := seq_ok h₁
  obtain ⟨_, skip, h₃, hskip, rfl⟩ := seq_ok h₂
  obtain ⟨_, readOnly, h₄, hreadOnly, rfl⟩ := seq_ok h₃
  obtain ⟨_, failed, h₅, hfailed, rfl⟩ := seq_ok h₄
  obtain ⟨_, reserved, h₆, hreserved, rfl⟩ := seq_ok h₅
  obtain ⟨_, used, h₇, hused, rfl⟩ := seq_ok h₆
  obtain ⟨_, capacity, h₈, hcapacity, rfl⟩ := seq_ok h₇
  obtain ⟨_, storageType, h₉, hstorageType, rfl⟩ := seq_ok h₈
  obtain ⟨uuid, huuid, rfl⟩ := map_ok h₉
  exact ⟨es, rfl, {
    uuid := entered_of_required text_of_readName huuid
    storageType := entered_of_required id hstorageType
    capacity := entered_of_required count_of_readCount hcapacity
    used := enteredOr_of_optional count_of_readCount hused
    reserved := enteredOr_of_optional count_of_readCount hreserved
    failed := enteredOr_of_optional id hfailed
    readOnly := enteredOr_of_optional id hreadOnly
    skip := enteredOr_of_optional id hskip
    transient := enteredOr_of_optional id htransient
    path := enteredOr_of_optional id hpath }⟩

theorem VolumeSet.drawn_of_read
    {d : Data}
    {s : VolumeSet}
    (h : VolumeSet.read d = .ok s) :
    VolumeSet.Drawn .lenient d s := by
  obtain ⟨es, rfl, h⟩ := readEntity_ok h
  obtain ⟨s', h, hcheck⟩ := andThen_ok h
  obtain ⟨_, volumes, h₁, hvolumes, rfl⟩ := seq_ok h
  obtain ⟨storageType, hstorageType, rfl⟩ := map_ok h₁
  have hentries : VolumeSet.Entries .lenient es ⟨storageType, volumes⟩ := {
    storageType := entered_of_required id hstorageType
    volumes := enteredOr_of_optional (forall₂_of_readList Volume.drawn_of_read) hvolumes }
  unfold VolumeSet.checkTypes at hcheck
  split at hcheck
  · cases hcheck
  · cases hcheck
    exact ⟨es, rfl, hentries⟩

theorem Node.drawn_of_read
    {d : Data}
    {n : Node}
    (h : Node.read d = .ok n) :
    Node.Drawn .lenient d n := by
  obtain ⟨es, rfl, h⟩ := readEntity_ok h
  obtain ⟨n', h, hcheck⟩ := andThen_ok h
  obtain ⟨_, volumeSets, h₁, hsets, rfl⟩ := seq_ok h
  obtain ⟨_, dataDensity, h₂, hdensity, rfl⟩ := seq_ok h₁
  obtain ⟨_, hostname, h₃, hhostname, rfl⟩ := seq_ok h₂
  obtain ⟨_, port, h₄, hport, rfl⟩ := seq_ok h₃
  obtain ⟨_, ip, h₅, hip, rfl⟩ := seq_ok h₄
  obtain ⟨uuid, huuid, rfl⟩ := map_ok h₅
  have hentries : Node.Entries .lenient es ⟨uuid, ip, port, hostname, dataDensity, volumeSets⟩ := {
    uuid := entered_of_required text_of_readName huuid
    ip := entered_of_required id hip
    port := entered_of_required count_of_readPort hport
    hostname := enteredOr_of_optional id hhostname
    dataDensity := enteredOr_of_optional id hdensity
    volumeSets := enteredOr_of_optional (mapOf_of_readMap VolumeSet.drawn_of_read) hsets }
  unfold Node.checkVolumes at hcheck
  split at hcheck
  · cases hcheck
  · split at hcheck
    · cases hcheck
    · cases hcheck
      exact ⟨es, rfl, hentries⟩

/-- A cluster that was read has the values that its document gives. -/
theorem Cluster.drawn_of_read
    {d : Data}
    {c : Cluster}
    (h : Cluster.read d = .ok c) :
    Cluster.Drawn .lenient d c := by
  obtain ⟨es, rfl, h⟩ := readEntity_ok h
  obtain ⟨c', h, hcheck⟩ := andThen_ok h
  obtain ⟨_, scope, h₁, _, rfl⟩ := seq_ok h
  obtain ⟨nodes, hnodes, rfl⟩ := map_ok h₁
  have hentries : Cluster.Entries .lenient es ⟨nodes, scope⟩ :=
    enteredOr_of_optional (forall₂_of_readList Node.drawn_of_read) hnodes
  unfold Cluster.checkNodes at hcheck
  split at hcheck
  · cases hcheck
  · cases hcheck
    exact ⟨es, rfl, hentries⟩

/-! ## What is declared is read -/

section Declared

variable {d : Data}

theorem readText_of_declared
    {s : String}
    (h : Reading.declared.text d s) :
    readText d = .ok s := by
  obtain ⟨rfl, _⟩ := h
  rfl

theorem readName_of_declared
    {s : String}
    (hs : IsIdentity s)
    (h : Reading.declared.text d s) :
    readName d = .ok s := by
  obtain ⟨rfl, _⟩ := h
  exact readName_text hs

theorem readCount_of_declared
    {n : Nat}
    (h : Reading.declared.count d n) :
    readCount d = .ok n := by
  obtain rfl : d = .int n := h
  exact readCount_int n

theorem readPort_of_declared
    {n : Nat}
    (hn : 0 < n ∧ n < 65536)
    (h : Reading.declared.count d n) :
    readPort d = .ok n := by
  obtain rfl : d = .int n := h
  exact readPort_int hn

theorem readBool_of_declared
    {b : Bool}
    (h : Reading.declared.truth d b) :
    readBool d = .ok b := by
  obtain rfl : d = .bool b := h
  rfl

theorem readNumber_of_declared
    {x : Float}
    (h : Reading.declared.number d x) :
    readNumber d = .ok x := by
  obtain rfl : d = .float x := h
  rfl

theorem readAddress_of_declared
    {a : Net.Address}
    (h : Reading.declared.address d a) :
    readAddress d = .ok a := by
  obtain ⟨s, rfl, ha⟩ := h
  unfold readAddress
  dsimp only
  rw [ha]

theorem Volume.read_of_declared
    {v : Volume}
    (hvalid : v.Valid)
    (h : Volume.Drawn .declared d v) :
    Volume.read d = .ok v := by
  obtain ⟨es, rfl, h⟩ := h
  simp only [Volume.read, readEntity,
    required_of_entered (readName_of_declared hvalid.identity) h.uuid,
    required_of_entered readText_of_declared h.storageType,
    required_of_entered readCount_of_declared h.capacity,
    optional_of_enteredOr readCount_of_declared h.used,
    optional_of_enteredOr readCount_of_declared h.reserved,
    optional_of_enteredOr readBool_of_declared h.failed,
    optional_of_enteredOr readBool_of_declared h.readOnly,
    optional_of_enteredOr readBool_of_declared h.skip,
    optional_of_enteredOr readBool_of_declared h.transient,
    optional_of_enteredOr readText_of_declared h.path]
  rfl

theorem VolumeSet.read_of_declared
    {s : VolumeSet}
    (hvalid : s.Valid)
    (h : VolumeSet.Drawn .declared d s) :
    VolumeSet.read d = .ok s := by
  obtain ⟨es, rfl, h⟩ := h
  have hvolumes {d : Data} : Reading.declared.ListOf (Volume.Drawn .declared) d s.volumes →
      readList Volume.read d = .ok s.volumes :=
    readList_of_forall₂ fun v hv => Volume.read_of_declared (hvalid.volumes v hv)
  simp only [VolumeSet.read, readEntity,
    required_of_entered readText_of_declared h.storageType,
    optional_of_enteredOr hvolumes h.volumes]
  exact VolumeSet.checkTypes_eq hvalid

theorem Node.read_of_declared
    {n : Node}
    (hvalid : n.Valid)
    (h : Node.Drawn .declared d n) :
    Node.read d = .ok n := by
  obtain ⟨es, rfl, h⟩ := h
  have hsets {d : Data} : Reading.declared.MapOf (VolumeSet.Drawn .declared) d n.volumeSets →
      readMap readText VolumeSet.read d = .ok n.volumeSets :=
    readMap_of_mapOf fun e he => VolumeSet.read_of_declared (hvalid.sets e he)
  simp only [Node.read, readEntity,
    required_of_entered (readName_of_declared hvalid.identity) h.uuid,
    required_of_entered readAddress_of_declared h.ip,
    required_of_entered (readPort_of_declared hvalid.port) h.port,
    optional_of_enteredOr readText_of_declared h.hostname,
    optional_of_enteredOr readNumber_of_declared h.dataDensity,
    optional_of_enteredOr hsets h.volumeSets]
  exact Node.checkVolumes_eq hvalid

theorem Cluster.read_of_declared
    {c : Cluster}
    (hvalid : c.Valid)
    (h : Cluster.Declared d c) :
    Cluster.read d = .ok c := by
  obtain ⟨es, rfl, hnodes, hnone, hscope⟩ := h
  have hread {d : Data} : Reading.declared.ListOf (Node.Drawn .declared) d c.nodes →
      readList Node.read d = .ok c.nodes :=
    readList_of_forall₂ fun n hn => Node.read_of_declared (hvalid.nodes n hn)
  have hc : (⟨c.nodes, []⟩ : Cluster) = c := by rw [← hscope]
  simp only [Cluster.read, readEntity, readEntries, optional_of_enteredOr hread hnodes,
    optional_of_none _ _ hnone]
  show (⟨c.nodes, []⟩ : Cluster).checkNodes = _
  rw [hc]
  exact Cluster.checkNodes_eq hvalid

end Declared

/-! ## Declared clusters that obey the rules are valid -/

theorem isIdentity_of_entered
    {es : List (Data × Data)}
    {name s : String}
    (h : Entered es name Reading.declared.text s)
    (hnamed : s ≠ "") :
    IsIdentity s := by
  obtain ⟨_, _, _, hsurrogate⟩ := h
  exact ⟨hnamed, hsurrogate⟩

theorem valid_of_entered
    {es : List (Data × Data)}
    {name : String}
    {a : Net.Address}
    (h : Entered es name Reading.declared.address a) :
    a.Valid := by
  obtain ⟨_, _, _, _, ha⟩ := h
  exact Net.valid_of_read? ha

theorem VolumeSet.valid_of_declared
    {d : Data}
    {s : VolumeSet}
    (h : VolumeSet.Drawn .declared d s)
    (hnamed : ∀ v ∈ s.volumes, v.uuid ≠ "")
    (htypes : ∀ v ∈ s.volumes, v.storageType = s.storageType) :
    s.Valid := by
  obtain ⟨es, _, h⟩ := h
  refine ⟨?_, htypes⟩
  intro v hv
  obtain ⟨_, _, _, hentries⟩ := exists_of_listOf h.volumes v hv
  exact ⟨isIdentity_of_entered hentries.uuid (hnamed v hv)⟩

theorem Cluster.Lawful.valid_of_mem
    {c : Cluster}
    (h : c.Lawful)
    {n : Node}
    (hn : n ∈ c.nodes)
    {d : Data}
    (hdrawn : Node.Drawn .declared d n) :
    n.Valid := by
  obtain ⟨es, _, hentries⟩ := hdrawn
  obtain ⟨hdistinct, hsets⟩ := exists_of_mapOf hentries.volumeSets
  exact {
    identity := isIdentity_of_entered hentries.uuid (h.nodesNamed n hn)
    address := valid_of_entered hentries.ip
    port := ⟨(h.ports n hn).1, Nat.lt_succ_of_le (h.ports n hn).2⟩
    sets := fun e he => by
      obtain ⟨_, hset⟩ := hsets e he
      refine VolumeSet.valid_of_declared hset ?_ (h.types n hn e he)
      intro v hv
      exact h.volumesNamed n hn v (List.mem_flatMap.mpr ⟨e, he, hv⟩)
    keys := h.keys n hn
    distinct := hdistinct
    volumes := h.volumesDiffer n hn }

/-- A declared cluster that obeys the rules is valid. -/
theorem Cluster.Lawful.valid
    {d : Data}
    {c : Cluster}
    (h : c.Lawful)
    (hdeclared : Cluster.Declared d c) :
    c.Valid := by
  obtain ⟨es, _, hentries, _, _⟩ := hdeclared
  refine ⟨?_, h.nodesDiffer⟩
  intro n hn
  obtain ⟨_, hdrawn⟩ := exists_of_listOf hentries n hn
  exact h.valid_of_mem hn hdrawn

/-! ## Which documents are clusters -/

/-- A document that is read as a cluster gives the values of its nodes, and they obey the rules.  A
document whose values have their declared types, and give nodes that obey the rules, is read as the
cluster of these nodes. -/
theorem read_sound_complete :
    (∀ (d : Data) (c : Cluster), Cluster.read d = .ok c →
      Cluster.Drawn .lenient d c ∧ c.Lawful) ∧
    ∀ (d : Data) (c : Cluster), Cluster.Declared d c → c.Lawful → Cluster.read d = .ok c := by
  constructor
  · intro d c hread
    exact ⟨Cluster.drawn_of_read hread, (Cluster.valid_of_read hread).lawful⟩
  · intro d c hdeclared hlawful
    exact Cluster.read_of_declared (hlawful.valid hdeclared) hdeclared

/-- Two nodes with a volume of the same identity each, fields in another order, an unknown entry,
and nothing said about all that may be left out. -/
theorem read_sound_complete_defaults :
    let volume : Volume := ⟨"v", "SSD", 10 ^ 30, 0, 0, false, false, false, true, ""⟩
    let node (uuid : String) (ip : Nat) : Node :=
      ⟨uuid, .v4 ip, 65535, "", 0.0, [("SSD", ⟨"SSD", [volume]⟩)]⟩
    let c : Cluster := ⟨[node "n" 0x0a000001, node "m" 0x0a000002], []⟩
    let volumeData : Data := .map
      [(.text "transient", .bool true), (.text "capacity", .int (10 ^ 30)), (.text "uuid", .text "v"),
       (.text "storage_type", .text "SSD")]
    let nodeData (uuid ip : String) : Data := .map
      [(.text "volume_sets", .map [(.text "SSD", .map
        [(.text "storage_type", .text "SSD"), (.text "volumes", .list [volumeData])])]),
       (.text "uuid", .text uuid), (.text "rack", .int 7), (.text "ip", .text ip),
       (.text "port", .int 65535)]
    let d : Data := .map [(.text "nodes", .list [nodeData "n" "10.0.0.1", nodeData "m" "10.0.0.2"])]
    Cluster.Declared d c ∧ c.Lawful ∧ Cluster.read d = .ok c ∧ Cluster.Drawn .lenient d c := by
  intro volume node c volumeData nodeData d
  have hvolume : Volume.Drawn .declared volumeData volume := ⟨_, rfl, {
    uuid := ⟨_, rfl, rfl, by decide⟩
    storageType := ⟨_, rfl, rfl, by decide⟩
    capacity := ⟨_, rfl, rfl⟩
    used := .inr ⟨rfl, rfl⟩
    reserved := .inr ⟨rfl, rfl⟩
    failed := .inr ⟨rfl, rfl⟩
    readOnly := .inr ⟨rfl, rfl⟩
    skip := .inr ⟨rfl, rfl⟩
    transient := .inl ⟨_, rfl, rfl⟩
    path := .inr ⟨rfl, rfl⟩ }⟩
  have hset : VolumeSet.Drawn .declared
      (.map [(.text "storage_type", .text "SSD"), (.text "volumes", .list [volumeData])])
      ⟨"SSD", [volume]⟩ :=
    ⟨_, rfl, ⟨_, rfl, rfl, by decide⟩, .inl ⟨_, rfl, _, rfl, .cons hvolume .nil⟩⟩
  have hnode {uuid ip : String} {n : Nat} (huuid : Text.hasSurrogate uuid = false)
      (hip : Net.Address.read? ip = some (.v4 n)) :
      Node.Drawn .declared (nodeData uuid ip) (node uuid n) := ⟨_, rfl, {
    uuid := ⟨_, rfl, rfl, huuid⟩
    ip := ⟨_, rfl, ip, rfl, hip⟩
    port := ⟨_, rfl, rfl⟩
    hostname := .inr ⟨rfl, rfl⟩
    dataDensity := .inr ⟨rfl, rfl⟩
    volumeSets := .inl ⟨_, rfl, _, _, rfl, .cons ⟨⟨rfl, by decide⟩, hset⟩ .nil, by decide, rfl⟩ }⟩
  have hdeclared : Cluster.Declared d c :=
    ⟨_, rfl, .inl ⟨_, rfl, _, rfl, .cons (hnode (by decide) (by decide +kernel))
      (.cons (hnode (by decide) (by decide +kernel)) .nil)⟩, rfl, rfl⟩
  have hvalid : c.Valid := by decide +kernel
  have hread : Cluster.read d = .ok c := read_sound_complete.2 d c hdeclared hvalid.lawful
  exact ⟨hdeclared, hvalid.lawful, hread, (read_sound_complete.1 d c hread).1⟩

end Storage
end Rebalance
