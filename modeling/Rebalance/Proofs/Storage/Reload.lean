import Mathlib.Data.List.Basic
import Rebalance.Proofs.Storage.Refusal
import Rebalance.Proofs.Storage.RoundTrip
import Rebalance.Proofs.Storage.Spelled

/-!
# What becomes of a cluster whose document is loaded again

* `Cluster.clusterOf_remains`, `Cluster.clusterOf_remains_wrong`: what the text of the document is
  read as is a cluster when every density is finite, and has an issue for each density that is not.
* `Cluster.fewDigits_of_loaded`: the counts of a JSON file have not too many digits.
* `reload_document`: for every cluster that was loaded, from whatever file, the three ends of
  loading its stored document and the clusters that come to each.
-/

namespace Rebalance
namespace Storage

open Files Schema

theorem rereadFloat?_of_isFinite
    {x : Float}
    (h : IsFinite x) :
    ∃ y, Json.rereadFloat? x = some y := by
  obtain ⟨cs, hstored⟩ := isFinite_iff.mp h
  obtain ⟨y, _, hy⟩ := Json.rereadFloat?_of_stored hstored
  exact ⟨y, hy⟩

theorem storedText?_of_not_isFinite
    {x : Float}
    (h : ¬ IsFinite x) :
    Decimal.storedText? x = none := by
  rw [isFinite_iff] at h
  exact Option.eq_none_iff_forall_ne_some.mpr (not_exists.mp h)

/-! ## Nodes -/

/-- A node with the density that the numeral of its density is read as. -/
def Node.restored (n : Node) : Node :=
  { n with dataDensity := (Json.rereadFloat? n.dataDensity).getD n.dataDensity }

/-- The issue of a node whose density is gone. -/
def densityIssue : Issue :=
  ⟨[.key "data_density"], .notNumber⟩

theorem Node.read_remains
    {n : Node}
    (h : n.Valid)
    (hfinite : IsFinite n.dataDensity) :
    Node.read n.remains = .ok n.restored := by
  obtain ⟨y, hy⟩ := rereadFloat?_of_isFinite hfinite
  have hrestored : n.restored = { n with dataDensity := y } := by
    rw [Node.restored, hy]
    rfl
  have hvalid : Node.Valid { n with dataDensity := y } :=
    ⟨h.identity, h.address, h.port, h.sets, h.keys, h.distinct, h.volumes⟩
  rw [Node.remains_eq (y := y) (by rw [Json.rereadFloat, hy]), hrestored]
  exact Node.read_toData hvalid

theorem Node.read_remains_wrong
    {n : Node}
    (h : n.Valid)
    (hlost : ¬ IsFinite n.dataDensity) :
    Node.read n.remains = .wrong [densityIssue] := by
  have hremains : n.remains = .map
      [(.text "uuid", .text n.uuid), (.text "ip", .text n.ip.text), (.text "port", .int n.port),
       (.text "hostname", .text n.hostname), (.text "data_density", .null),
       (.text "volume_sets", .map (n.setFields.map Json.textEntry))] := by
    have hnone := Json.rereadFloat?_eq_none_iff.mpr (storedText?_of_not_isFinite hlost)
    rw [Node.remains, Json.rereadFloat, hnone]
    rfl
  have hsets : readMap readText VolumeSet.read (.map (n.setFields.map Json.textEntry))
      = .ok n.volumeSets := by
    have hread := readMap_map h.distinct fun e he => VolumeSet.read_toData (h.sets e he)
    rwa [Node.setFields, List.map_map]
  simp only [hremains, Node.read, readEntity, required, Schema.optional, Data.find?,
    List.find?_cons, Data.isText, String.reduceBEq, Option.map_some, readName_text h.identity,
    readAddress_text h.address, readPort_int h.port, hsets]
  rfl

/-! ## Clusters -/

/-- The issues of a document that has lost densities: one at each node whose density has no
numeral. -/
def Cluster.lostDensities (c : Cluster) : List Issue :=
  c.nodes.zipIdx.flatMap fun e =>
    if (Decimal.storedText? e.1.dataDensity).isNone then
      [⟨[.key "nodes", .index e.2, .key "data_density"], .notNumber⟩]
    else []

theorem Cluster.clusterOf_remains
    {c : Cluster}
    (h : c.Valid)
    (hfinite : ∀ n ∈ c.nodes, IsFinite n.dataDensity) :
    Snapshot.clusterOf c.remains = .ok ⟨c.nodes.map Node.restored, []⟩ := by
  have hnodes : readList Node.read (.list (c.nodes.map Node.remains))
      = .ok (c.nodes.map Node.restored) :=
    readItems_map (fun n hn => Node.read_remains (h.nodes n hn) (hfinite n hn)) 0
  have hnames : Duplicates.ofNames? "uuid" ((c.nodes.map Node.restored).map Node.uuid) = none := by
    rw [List.map_map]
    exact Duplicates.ofNames?_eq_none_iff.mpr h.distinct
  have hread : Cluster.readEntries [(.text "nodes", .list (c.nodes.map Node.remains))]
      = .ok ⟨c.nodes.map Node.restored, []⟩ := by
    simp only [Cluster.readEntries, Schema.optional, Data.find?, List.find?_cons, List.find?_nil,
      Data.isText, String.reduceBEq, Option.map_some, Option.map_none, hnodes]
    show Cluster.checkNodes ⟨c.nodes.map Node.restored, []⟩ = _
    rw [Cluster.checkNodes, hnames]
  rw [Snapshot.clusterOf_eq]
  simp only [Snapshot.entriesOf, Cluster.remains, hread]
  rfl

theorem Cluster.itemIssues_remains
    {c : Cluster}
    (h : c.Valid) :
    (itemIssues Node.read 0 (c.nodes.map Node.remains)).map (Issue.under (.key "nodes"))
      = c.lostDensities := by
  unfold itemIssues lostDensities
  rw [List.zipIdx_map, List.flatMap_map, List.map_flatMap]
  refine List.flatMap_congr fun e he => ?_
  have hvalid := h.nodes e.1 (List.fst_mem_of_mem_zipIdx he)
  show ((Node.read e.1.remains).under (.index e.2)).issues.map _ = _
  by_cases hfinite : IsFinite e.1.dataDensity
  · obtain ⟨cs, hstored⟩ := isFinite_iff.mp hfinite
    rw [Node.read_remains hvalid hfinite, hstored]
    rfl
  · rw [Node.read_remains_wrong hvalid hfinite, storedText?_of_not_isFinite hfinite]
    rfl

theorem Cluster.clusterOf_remains_wrong
    {c : Cluster}
    (h : c.Valid)
    {n : Node}
    (hn : n ∈ c.nodes)
    (hlost : ¬ IsFinite n.dataDensity) :
    Snapshot.clusterOf c.remains = .error (.invalidSnapshot c.lostDensities) := by
  have hnodes := readList_wrong (List.mem_map_of_mem hn)
    (Node.read_remains_wrong (h.nodes n hn) hlost)
  have hread : Cluster.readEntries [(.text "nodes", .list (c.nodes.map Node.remains))]
      = .wrong c.lostDensities := by
    rw [← Cluster.itemIssues_remains h]
    simp only [Cluster.readEntries, Schema.optional, Data.find?, List.find?_cons, List.find?_nil,
      Data.isText, String.reduceBEq, Option.map_some, Option.map_none, hnodes]
    rfl
  rw [Snapshot.clusterOf_eq]
  simp only [Snapshot.entriesOf, Cluster.remains, hread]
  rfl

/-! ## Loaded clusters -/

/-- What a file gives is read from the entries of its value. -/
theorem Snapshot.exists_of_loaded
    {files : Tree}
    {p : Path}
    {c : Cluster}
    (h : loaded files (some p) = .ok c) :
    ∃ d, value files p = .ok d ∧ Cluster.readEntries (entriesOf d) = .ok c := by
  cases hvalue : value files p with
  | error f =>
    rw [loaded_of_refusal hvalue] at h
    cases h
  | ok d =>
    rw [loaded_of_value hvalue, clusterOf_eq] at h
    split at h
    · cases h
    · split at h
      · next hread =>
        cases h
        exact ⟨d, rfl, hread⟩
      · cases h

/-- A cluster that was loaded is valid. -/
theorem Cluster.valid_of_loaded
    {files : Tree}
    {uri : Option Path}
    {c : Cluster}
    (h : Snapshot.loaded files uri = .ok c) :
    c.Valid := by
  cases uri with
  | none => cases h
  | some p =>
    obtain ⟨d, _, hread⟩ := Snapshot.exists_of_loaded h
    exact Cluster.valid_of_readEntries hread

theorem Snapshot.isSpelled_of_value
    {files : Tree}
    {p : Path}
    (hsuffix : p.suffix = ".json")
    {d : Data}
    (h : value files p = .ok d) :
    Json.IsSpelled d := by
  obtain ⟨format, bytes, hholds, hspelled⟩ := exists_holds_of_value h
  have hformat : some Format.json = some format := (if_pos hsuffix).symm.trans hholds.format
  cases hformat
  exact isSpelled_of_spelledJson hspelled

/-- The counts of a cluster that was loaded from a JSON file have not too many digits. -/
theorem Cluster.fewDigits_of_loaded
    {files : Tree}
    {p : Path}
    (hsuffix : p.suffix = ".json")
    {c : Cluster}
    (h : Snapshot.loaded files (some p) = .ok c) :
    ∀ n ∈ c.nodes, ∀ v ∈ n.volumes, v.FewDigits := by
  obtain ⟨d, hvalue, hread⟩ := Snapshot.exists_of_loaded h
  have hspelled : Json.IsSpelled (.map (Snapshot.entriesOf d)) := by
    have hd := Snapshot.isSpelled_of_value hsuffix hvalue
    cases d with
    | map es => exact hd
    | _ => exact .map (List.forall_mem_singleton.mpr ⟨_, rfl⟩) (List.forall_mem_singleton.mpr hd)
  exact Cluster.fewDigits_of_drawn hspelled (Cluster.drawn_of_read hread)

/-! ## Stored documents -/

theorem Snapshot.holds_of_store
    {bytes : List Nat}
    {p : Path}
    (hsuffix : p.suffix = ".json")
    {t u : Tree}
    (h : Run.store bytes p t = (.ok (), u)) :
    Holds u p .json bytes where
  format := if_pos hsuffix
  usable := Path.check_ok_iff.mp (Run.check_of_store h)
  content := readFile_of_store hsuffix h

/-- The bytes of a written document spell what its text is read as. -/
theorem Snapshot.spelled_written
    {room : Nat}
    {d : Data}
    (h : Json.HasForm room d)
    (hroom : room ≤ Json.depthLimit)
    {text : String}
    (hdocument : Json.document d = .ok text) :
    spelledJson (Text.encode text)
      = ((Json.reread d).mapError (Json.Halt.fault text.toList)).mapError TextFault.json := by
  obtain ⟨cs, hdecode, hheld⟩ := Text.read_of_isPlain (Json.isPlain_document h hdocument)
  unfold spelledJson jsonText
  rw [hdecode]
  dsimp only
  rw [hheld, Json.read_written h hroom hdocument]

theorem Snapshot.loaded_of_legible
    {c : Cluster}
    (hvalid : c.Valid)
    (hdigits : ∀ n ∈ c.nodes, ∀ v ∈ n.volumes, v.FewDigits)
    {text : String}
    (hdocument : Json.document c.toData = .ok text)
    {p : Path}
    (hsuffix : p.suffix = ".json")
    {t u : Tree}
    (hstore : Run.store (Text.encode text) p t = (.ok (), u)) :
    loaded u (some p) = clusterOf c.remains := by
  have hspelled : spelledJson (Text.encode text) = .ok c.remains := by
    rw [spelled_written (Cluster.hasForm_toData hvalid) (by decide) hdocument,
      Cluster.reread_toData hvalid hdigits]
    rfl
  exact loaded_of_value (value_of_present (holds_of_store hsuffix hstore) hspelled rfl)

theorem Snapshot.loaded_of_illegible
    {c : Cluster}
    (hvalid : c.Valid)
    (hdigits : ¬ ∀ n ∈ c.nodes, ∀ v ∈ n.volumes, v.FewDigits)
    {text : String}
    (hdocument : Json.document c.toData = .ok text)
    {p : Path}
    (hsuffix : p.suffix = ".json")
    {t u : Tree}
    (hstore : Run.store (Text.encode text) p t = (.ok (), u)) :
    ∃ count, Decimal.digitLimit < count ∧
      loaded u (some p) = .error (.json (.tooManyDigits count)) := by
  have hform := Cluster.hasForm_toData hvalid
  cases hread : Json.reread c.toData with
  | ok d => exact absurd ((Cluster.legible_toData_iff hvalid).mp ⟨d, hread⟩) hdigits
  | error e =>
    obtain ⟨count, hcount, rfl⟩ := Json.exists_tooManyDigits hform hread
    have hspelled : spelledJson (Text.encode text) = .error (.json (.tooManyDigits count)) := by
      rw [spelled_written hform (by decide) hdocument, hread]
      rfl
    refine ⟨count, hcount, loaded_of_refusal ?_⟩
    rw [value_of_holds (holds_of_store hsuffix hstore), spelled, hspelled]
    rfl

/-- For a cluster that was loaded, from whatever file: it has a document just when none of its texts
holds a surrogate.  Wherever that document is stored as a JSON file, the file is loaded just when no
count has too many digits and every density is finite, and the nodes are as they were up to the
numerals of their densities.  It is refused as an invalid snapshot just when only densities are
lost, each with its own issue, and it fails without a kind just when a count has too many digits,
which no count of a JSON file has. -/
theorem reload_document
    {uri : Option Path}
    {w : World}
    {c : Cluster}
    (hload : (Snapshot.load uri w).1 = .ok c) :
    ((∃ text, c.document = .ok text) ↔ AreWritable c.texts) ∧
      (∀ source, uri = some source → source.suffix = ".json" →
        ∀ n ∈ c.nodes, ∀ v ∈ n.volumes, v.FewDigits) ∧
      ∀ text, c.document = .ok text →
        ∀ (p : Path) (t : Tree) (w' : World), p.suffix = ".json" →
          Run.store (Text.encode text) p t = (.ok (), w'.files) →
            let reloaded := (Snapshot.load (some p) w').1
            let fewDigits := ∀ n ∈ c.nodes, ∀ v ∈ n.volumes, v.FewDigits
            let finite := ∀ n ∈ c.nodes, IsFinite n.dataDensity
            ((∃ c', reloaded = .ok c') ↔ fewDigits ∧ finite) ∧
              (∀ c', reloaded = .ok c' → c' = ⟨c.nodes.map Node.restored, []⟩) ∧
              (reloaded = .error (.invalidSnapshot c.lostDensities) ↔ fewDigits ∧ ¬ finite) ∧
              ((∃ count, reloaded = .error (.json (.tooManyDigits count))) ↔ ¬ fewDigits) := by
  rw [Snapshot.load_eq] at hload
  have hvalid := Cluster.valid_of_loaded hload
  refine ⟨Cluster.exists_document_iff, ?_, ?_⟩
  · rintro source rfl hsource
    exact Cluster.fewDigits_of_loaded hsource hload
  intro text htext p t w' hsuffix hstore reloaded fewDigits finite
  have hdocument := Cluster.document_ok_iff.mp htext
  have hreloaded : reloaded = Snapshot.loaded w'.files (some p) :=
    congrArg Prod.fst (Snapshot.load_eq (some p) w')
  by_cases hdigits : fewDigits
  · have hremains := Snapshot.loaded_of_legible hvalid hdigits hdocument hsuffix hstore
    by_cases hfinite : finite
    · have hok := hreloaded.trans (hremains.trans (Cluster.clusterOf_remains hvalid hfinite))
      simp [hok, hdigits, hfinite, eq_comm]
    · obtain ⟨n, hn, hlost⟩ : ∃ n ∈ c.nodes, ¬ IsFinite n.dataDensity := by
        simpa [finite] using hfinite
      have herror := hreloaded.trans
        (hremains.trans (Cluster.clusterOf_remains_wrong hvalid hn hlost))
      simp [herror, hdigits, hfinite]
  · obtain ⟨count, -, herror⟩ :=
      Snapshot.loaded_of_illegible hvalid hdigits hdocument hsuffix hstore
    rw [← hreloaded] at herror
    simp [herror, hdigits]

/-- A JSON file with a node whose density is `NaN` is loaded.  Its document is stored in an empty
folder, where it is refused for that density. -/
theorem reload_document_lost :
    let source : Path := ⟨.relative, ["c.json"]⟩
    let bytes := Text.encode
      "[\x7b\"uuid\": \"n\", \"ip\": \"1.1.1.1\", \"port\": 5, \"data_density\": NaN\x7d]"
    let w : World := ⟨⟨[(["c.json"], .file bytes)], []⟩, ⟨[], []⟩,
      ⟨2024, 1, 31, 12, 0, 59, 0, none⟩, []⟩
    let p : Path := ⟨.relative, ["out", "n.before.json"]⟩
    ∃ c text u, (Snapshot.load (some source) w).1 = .ok c ∧ c.document = .ok text ∧
      Run.store (Text.encode text) p ⟨[], []⟩ = (.ok (), u) ∧ ∀ w' : World, w'.files = u →
        (Snapshot.load (some p) w').1 = .error (.invalidSnapshot
          [⟨[.key "nodes", .index 0, .key "data_density"], .notNumber⟩]) := by
  intro source bytes w p
  -- What is asked of the cluster is computed, for the cluster itself holds a double.
  have hcomputed : ((Snapshot.loaded w.files (some source)).toOption.any fun c =>
      decide (AreWritable c.texts) && decide (c.nodes.length = 1) && c.nodes.all fun n =>
        (Decimal.storedText? n.dataDensity).isNone) = true := by
    decide +kernel
  have hplaced (content : List Nat) :
      (Run.store content ⟨.relative, ["out", "n.before.json"]⟩ ⟨[], []⟩).1 = .ok () := by
    rfl
  cases hloaded : Snapshot.loaded w.files (some source) with
  | error f =>
    rw [hloaded] at hcomputed
    cases hcomputed
  | ok c =>
    simp only [hloaded, Except.toOption, Option.any_some, Bool.and_eq_true,
      decide_eq_true_eq] at hcomputed
    obtain ⟨⟨hwritable, hlength⟩, hnodes⟩ := hcomputed
    obtain ⟨n, hn⟩ := List.length_eq_one_iff.mp hlength
    rw [hn, List.all_cons, List.all_nil, Bool.and_true, Option.isNone_iff_eq_none] at hnodes
    have hstored : Decimal.storedText? n.dataDensity = none := hnodes
    have hload : (Snapshot.load (some source) w).1 = .ok c := by
      rw [Snapshot.load_eq, hloaded]
    obtain ⟨hdocument, hdigits, hreload⟩ := reload_document hload
    obtain ⟨text, htext⟩ := hdocument.mpr hwritable
    refine ⟨c, text, _, hload, htext, Prod.ext (hplaced _) rfl, ?_⟩
    intro w' hw'
    have hissues : c.lostDensities
        = [⟨[.key "nodes", .index 0, .key "data_density"], .notNumber⟩] := by
      rw [Cluster.lostDensities, hn]
      simp [hstored]
    rw [← hissues]
    obtain ⟨-, -, hlost, -⟩ :=
      hreload text htext p ⟨[], []⟩ w' (by decide) (Prod.ext (hplaced _) hw'.symm)
    refine hlost.mpr ⟨hdigits source rfl (by decide), fun hfinite => ?_⟩
    rw [hn] at hfinite
    obtain ⟨cs, htext⟩ := isFinite_iff.mp (hfinite n List.mem_cons_self)
    rw [hstored] at htext
    cases htext

end Storage
end Rebalance
