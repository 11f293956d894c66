import Rebalance.Proofs.Run.Artifact
import Rebalance.Proofs.Storage.Document
import Rebalance.Proofs.Storage.Load
import Rebalance.Proofs.Storage.Located
import Rebalance.Proofs.Text.Utf8

/-!
# Clusters that are loaded from the files their documents were stored in

* `Snapshot.content_of_store`: what was stored under the name of a JSON file is the content of that
  file.
* `Snapshot.loaded_document`: a document that was stored is loaded with the nodes as they were.
* `load_document`: the same for every cluster that was read, whatever paths its volumes were given
  since and whatever its scope is; the document exists just when its texts hold no surrogates.
-/

namespace Rebalance

namespace Storage

open Files

/-! ## One file -/

theorem Snapshot.readFile_of_store
    {bytes : List Nat}
    {p : Path}
    (hsuffix : p.suffix = ".json")
    {t u : Tree}
    (h : Run.store bytes p t = (.ok (), u)) :
    u.readFile p = .ok bytes := by
  obtain ⟨l, hwalk, hwritten⟩ := Run.placed_of_store h
  have hfile : u.file? l = some bytes := by
    rw [hwritten.here, if_pos (device?_of_suffix hsuffix hwalk)]
  exact Tree.readFile_of_file? hwalk hfile

/-- What was stored under the name of a JSON file is the content of that file. -/
theorem Snapshot.content_of_store
    {bytes : List Nat}
    {p : Path}
    (hsuffix : p.suffix = ".json")
    {t u : Tree}
    (h : Run.store bytes p t = (.ok (), u)) :
    content u p = .ok bytes := by
  rw [content, Run.check_of_store h]
  dsimp only
  rw [readFile_of_store hsuffix h]

/-- The bytes of a written document are parsed to the document. -/
theorem Snapshot.parseJson_encode
    (p : Path)
    {room : Nat}
    {d : Data}
    (h : Json.Storable room d)
    (hroom : room ≤ Json.depthLimit)
    {text : String}
    (hdocument : Json.document d = .ok text) :
    parseJson p (Text.encode text) = .ok d := by
  obtain ⟨cs, hdecode, hheld⟩ := Text.read_of_isPlain (Json.isPlain_document h.hasForm hdocument)
  rw [parseJson, hdecode]
  dsimp only
  rw [hheld, Json.read_document h hroom hdocument]

theorem Snapshot.clusterOf_toData
    {c : Cluster}
    (h : c.Valid) :
    clusterOf c.toData = .ok ⟨c.nodes, []⟩ := by
  have hread : Cluster.readEntries [(.text "nodes", .list (c.nodes.map Node.toData))]
      = .ok ⟨c.nodes, []⟩ :=
    Cluster.read_toData h
  simp only [clusterOf, Cluster.toData, List.all_cons, List.all_nil, isText, Bool.and_self,
    if_true, hread]

/-- A document that was stored as a JSON file is loaded with the nodes as they were. -/
theorem Snapshot.loaded_document
    {c : Cluster}
    (hvalid : c.Valid)
    (hstorable : Json.Storable 7 c.toData)
    {text : String}
    (hdocument : Json.document c.toData = .ok text)
    {p : Path}
    (hsuffix : p.suffix = ".json")
    {t u : Tree}
    (hstore : Run.store (Text.encode text) p t = (.ok (), u)) :
    loaded u (some p) = .ok ⟨c.nodes, []⟩ := by
  have hformat : formatOf? p = some .json := if_pos hsuffix
  have hcontent := content_of_store hsuffix hstore
  have hparse : parse p .json (Text.encode text) = .ok c.toData :=
    parseJson_encode p hstorable (by decide) hdocument
  have hpresent : c.toData.isPresent = true := rfl
  have hvalue : value u p = .ok c.toData := by
    rw [value, hformat]
    simp only [hcontent, hparse, hpresent, bind, Except.bind, if_true, pure, Except.pure]
  show (value u p >>= clusterOf) = _
  rw [hvalue]
  exact clusterOf_toData hvalid

/-! ## Documents of clusters -/

theorem Cluster.document_ok_iff
    {c : Cluster}
    {text : String} :
    c.document = .ok text ↔ Json.document c.toData = .ok text := by
  unfold document
  cases Json.document c.toData with
  | ok s =>
    constructor
    · intro h
      cases h
      rfl
    · intro h
      cases h
      rfl
  | error s =>
    constructor
    · intro h
      cases h
    · intro h
      cases h

/-- A cluster has a document just when none of its texts holds a surrogate. -/
theorem Cluster.exists_document_iff
    {c : Cluster} :
    (∃ text, c.document = .ok text) ↔ AreWritable c.texts := by
  simp only [document_ok_iff]
  rw [← unwritten?_toData]
  unfold Json.document
  cases Json.unwritten? c.toData with
  | none => exact ⟨fun _ => rfl, fun _ => ⟨_, rfl⟩⟩
  | some s =>
    constructor
    · rintro ⟨_, h⟩
      cases h
    · intro h
      cases h

/-- A cluster that was read has a document, whatever paths its volumes were given since and whatever
its scope is, just when none of its texts holds a surrogate.  Wherever that document is stored as a
JSON file, loading the file gives the nodes as they were, and no scope. -/
theorem load_document
    {d : Data}
    {c : Cluster}
    (hread : Cluster.read d = .ok c)
    (hdigits : ∀ n ∈ c.nodes, ∀ v ∈ n.volumes, v.FewDigits)
    (hfinite : ∀ n ∈ c.nodes, IsFinite n.dataDensity)
    (hback : ∀ n ∈ c.nodes, IsReadBack n.dataDensity)
    (path? : Nat → String → Option String)
    (scope : List InScope) :
    let located : Cluster := { c.withPaths path? with scope := scope }
    ((∃ text, located.document = .ok text) ↔ AreWritable located.texts) ∧
      ∀ text, located.document = .ok text →
        ∀ (p : Path) (t : Tree) (w : World), p.suffix = ".json" →
          Run.store (Text.encode text) p t = (.ok (), w.files) →
            (Snapshot.load (some p) w).1 = .ok ⟨located.nodes, []⟩ := by
  intro located
  have hvalid : located.Valid := by
    have hpaths := (Cluster.valid_of_read hread).withPaths path?
    exact ⟨hpaths.nodes, hpaths.distinct⟩
  have hstorable : Json.Storable 7 located.toData := by
    refine Cluster.storable_toData hvalid ?_ ?_ ?_
    · intro n' hn' v' hv'
      obtain ⟨n, hn, i, rfl⟩ := Cluster.mem_withPaths hn'
      rw [Node.volumes_withPaths] at hv'
      obtain ⟨v, hv, rfl⟩ := List.mem_map.mp hv'
      exact hdigits n hn v hv
    · intro n' hn'
      obtain ⟨n, hn, i, rfl⟩ := Cluster.mem_withPaths hn'
      exact hfinite n hn
    · intro n' hn'
      obtain ⟨n, hn, i, rfl⟩ := Cluster.mem_withPaths hn'
      exact hback n hn
  refine ⟨Cluster.exists_document_iff, ?_⟩
  intro text htext p t w hsuffix hstore
  rw [Snapshot.load_eq]
  exact Snapshot.loaded_document hvalid hstorable (Cluster.document_ok_iff.mp htext) hsuffix hstore

/-- A node with an address of version 6 and a zone, with control characters and a quote in its host
name, and with a path given since: its document is stored in an empty folder and loaded again. -/
theorem load_document_zone :
    let volume : Volume := ⟨"v", "DISK", 10 ^ 30, 1, 0, false, false, true, false, ""⟩
    let node : Node := ⟨"n", .v6 (0xfe80 * 2 ^ 112 + 1) (Text.codes "eth0"), 9867,
      "h\n\x01\"é", Decimal.Numeral.value ⟨false, ['0'], ['1'], 0⟩, [("DISK", ⟨"DISK", [volume]⟩)]⟩
    let c : Cluster := ⟨[node], []⟩
    let located : Cluster := { c.withPaths fun _ _ => some "/data" with scope := [.member 0] }
    let p : Path := ⟨.relative, ["out", "n.before.json"]⟩
    Cluster.read c.toData = .ok c ∧ ∃ text u, located.document = .ok text ∧
      Run.store (Text.encode text) p ⟨[], []⟩ = (.ok (), u) ∧
        ∀ w : World, w.files = u → (Snapshot.load (some p) w).1 = .ok ⟨located.nodes, []⟩ := by
  intro volume node c located p
  have hvolume : ∀ v ∈ [volume], v = volume := fun v hv => List.mem_singleton.mp hv
  have hvalid : c.Valid := by decide +kernel
  have hread : Cluster.read c.toData = .ok c := Cluster.read_toData hvalid
  have hstored : Decimal.storedText? node.dataDensity = some ['0', '.', '1'] := by decide +kernel
  have hloads := load_document hread
    (by
      intro n hn v hv
      rw [List.mem_singleton.mp hn] at hv
      rw [hvolume v hv, Volume.FewDigits]
      decide)
    (by
      intro n hn
      rw [List.mem_singleton.mp hn]
      exact ⟨false, 7205759403792794, -56, by decide +kernel⟩)
    (by
      intro n hn cs hcs
      rw [List.mem_singleton.mp hn] at hcs ⊢
      rw [hstored] at hcs
      cases hcs
      rfl)
    (fun _ _ => some "/data") [.member 0]
  have hplaced (bytes : List Nat) :
      (Run.store bytes ⟨.relative, ["out", "n.before.json"]⟩ ⟨[], []⟩).1 = .ok () := by
    rfl
  obtain ⟨text, htext⟩ := hloads.1.mpr (by decide +kernel)
  refine ⟨hread, text, _, htext, Prod.ext (hplaced _) rfl, ?_⟩
  intro w hw
  exact hloads.2 text htext p ⟨[], []⟩ w (by decide) (Prod.ext (hplaced _) hw.symm)

/-- A host name may be a surrogate alone: such a cluster is read, and has no document. -/
theorem no_document_of_surrogate :
    let c : Cluster := ⟨[⟨"n", .v4 0x01010101, 5, Text.ofCodes [0xd800], 0.0, []⟩], []⟩
    Cluster.read (.map [(.text "nodes", .list [.map
        [(.text "uuid", .text "n"), (.text "ip", .text "1.1.1.1"), (.text "port", .int 5),
         (.text "hostname", .text (Text.ofCodes [0xd800]))]])]) = .ok c ∧
      (∀ n ∈ c.nodes, ∀ v ∈ n.volumes, v.FewDigits) ∧
      (∀ n ∈ c.nodes, IsFinite n.dataDensity ∧ IsReadBack n.dataDensity) ∧
      ∀ text, c.document ≠ .ok text := by
  have hstored : Decimal.storedText? 0.0 = some ['0', '.', '0'] := by decide +kernel
  refine ⟨rfl, ?_, ?_, ?_⟩
  · intro n hn v hv
    rw [List.mem_singleton.mp hn] at hv
    cases hv
  · intro n hn
    rw [List.mem_singleton.mp hn]
    refine ⟨⟨false, 0, -1074, by decide +kernel⟩, ?_⟩
    intro cs hcs
    rw [hstored] at hcs
    cases hcs
    rfl
  · intro text htext
    have hwritable := Cluster.exists_document_iff.mp ⟨text, htext⟩
    exact absurd hwritable (by decide +kernel)

end Storage
end Rebalance
