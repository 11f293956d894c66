import Rebalance.Proofs.Files.Reading
import Rebalance.Proofs.Json.Spelled
import Rebalance.Proofs.Storage.Load

/-!
# Why a snapshot is refused

* `Aborts`, `Rejects`, `Escapes`: the snapshots that are not there, those that are no cluster, and
  those whose failure has no kind.
* `Snapshot.refused_of_loaded`: every failure to load is one of the three.
* `load_refusal`: loading fails in one of the three ways just for the snapshots that belong to it; a
  JSON text within the limits never escapes.
-/

namespace Rebalance
namespace Storage
namespace Snapshot

open Files Schema

/-! ## Texts of snapshots -/

/-- Why the bytes of a snapshot have no value. -/
inductive TextFault
  | undecodable (fault : Text.Utf8Error)
  | json (fault : Json.Fault)
  | yaml (fault : Yaml.Fault)

/-- Whether a fault is one of the grammar. -/
def TextFault.isGrammar : TextFault → Bool
  | .json (.malformed _ _) | .yaml .malformed => true
  | _ => false

/-- The text of a JSON file. -/
def jsonText (cs : List Char) : List Char :=
  Text.heldChars (Text.unifyBreaks cs)

/-- The value that the bytes of a JSON file spell. -/
def spelledJson (bytes : List Nat) : Except TextFault Data :=
  match Text.decode? bytes with
  | .error e => .error (.undecodable e)
  | .ok cs => (Json.read (jsonText cs)).mapError .json

/-- The value that the bytes of a YAML file spell. -/
def spelledYaml (bytes : List Nat) : Except TextFault Data :=
  (Yaml.read (.ofPieces (.ofBytes bytes))).mapError .yaml

/-- The value that bytes spell in a format. -/
def spelled : Format → List Nat → Except TextFault Data
  | .json => spelledJson
  | .yaml => spelledYaml

/-- The failure that a fault in the text of a snapshot is. -/
def TextFault.failure (p : Path) : TextFault → Failure
  | .undecodable e => .badEncoding (.utf8 e)
  | .json (.malformed _ _) => .brokenSnapshot p false
  | .json fault => .json fault
  | .yaml .malformed => .brokenSnapshot p true
  | .yaml fault => .yaml fault

/-- A fault of the grammar makes an invalid snapshot, and any other fault a failure without a kind.
-/
theorem TextFault.kind?_failure
    (p : Path)
    (fault : TextFault) :
    (fault.failure p).kind? = if fault.isGrammar then some .invalidCluster else none := by
  cases fault with
  | undecodable e => rfl
  | json fault => cases fault <;> rfl
  | yaml fault => cases fault <;> rfl

theorem parseJson_eq
    (p : Path)
    (bytes : List Nat) :
    parseJson p bytes = (spelledJson bytes).mapError (TextFault.failure p) := by
  unfold parseJson spelledJson jsonText
  cases Text.decode? bytes with
  | error e => rfl
  | ok cs =>
    dsimp only
    cases Json.read (Text.heldChars (Text.unifyBreaks cs)) with
    | ok d => rfl
    | error fault => cases fault <;> rfl

theorem parseYaml_eq
    (p : Path)
    (bytes : List Nat) :
    parseYaml p bytes = (spelledYaml bytes).mapError (TextFault.failure p) := by
  unfold parseYaml spelledYaml
  cases Yaml.read (.ofPieces (.ofBytes bytes)) with
  | ok d => rfl
  | error fault => cases fault <;> rfl

theorem parse_eq
    (p : Path)
    (format : Format)
    (bytes : List Nat) :
    parse p format bytes = (spelled format bytes).mapError (TextFault.failure p) := by
  cases format with
  | json => exact parseJson_eq p bytes
  | yaml => exact parseYaml_eq p bytes

/-! ## Values of snapshots -/

/-- The entries that a value describes a cluster by. -/
def entriesOf : Data → List (Data × Data)
  | .map es => es
  | d => [(.text "nodes", d)]

/-- Whether a key of a value is no text. -/
def hasForeignKey (d : Data) : Bool :=
  (entriesOf d).any fun e => !isText e.1

/-- The cluster of a value, or the failure of its kind. -/
theorem clusterOf_eq
    (d : Data) :
    clusterOf d =
      if hasForeignKey d then .error .keyNotText
      else
        match Cluster.readEntries (entriesOf d) with
        | .ok c => .ok c
        | .wrong issues => .error (.invalidSnapshot issues) := by
  cases d with
  | map es =>
    have hkeys : hasForeignKey (.map es) = !es.all fun e => isText e.1 := by
      simp [hasForeignKey, entriesOf, List.all_eq_not_any_not]
    simp only [clusterOf, hkeys, entriesOf]
    cases es.all fun e => isText e.1 with
    | true => cases Cluster.readEntries es <;> simp
    | false => simp
  | _ =>
    simp only [clusterOf, hasForeignKey, entriesOf]
    generalize Cluster.readEntries _ = checked
    cases checked <;> simp [isText]

/-! ## Snapshots that are refused -/

/-- Whether a snapshot is a file of a known format with some content. -/
structure Holds (files : Tree) (p : Path) (format : Format) (bytes : List Nat) : Prop where
  format : formatOf? p = some format
  usable : p.IsUsable
  content : files.readFile p = .ok bytes

/-- Whether no snapshot is given, or there is none where it is looked for. -/
inductive Aborts (files : Tree) : Option Path → Prop
  | noPath :
    Aborts files none
  | missing
    {p : Path}
    (format : (formatOf? p).isSome)
    (usable : p.IsUsable)
    (fault : files.readFile p = .error .notFound ∨ files.readFile p = .error .isFolder) :
    Aborts files (some p)

/-- Whether a snapshot has an unknown format, or holds no cluster: it breaks the grammar of its
format, or is empty, or its entries are not those of a cluster. -/
inductive Rejects (files : Tree) : Option Path → Prop
  | unknownFormat
    {p : Path}
    (format : formatOf? p = none) :
    Rejects files (some p)
  | malformed
    {p : Path}
    {format : Format}
    {bytes : List Nat}
    {fault : TextFault}
    (file : Holds files p format bytes)
    (text : spelled format bytes = .error fault)
    (grammar : fault.isGrammar = true) :
    Rejects files (some p)
  | empty
    {p : Path}
    {format : Format}
    {bytes : List Nat}
    {d : Data}
    (file : Holds files p format bytes)
    (text : spelled format bytes = .ok d)
    (absent : d.isPresent = false) :
    Rejects files (some p)
  | invalid
    {p : Path}
    {format : Format}
    {bytes : List Nat}
    {d : Data}
    {issues : List Issue}
    (file : Holds files p format bytes)
    (text : spelled format bytes = .ok d)
    (present : d.isPresent = true)
    (keys : hasForeignKey d = false)
    (entries : Cluster.readEntries (entriesOf d) = .wrong issues) :
    Rejects files (some p)

/-- Whether a snapshot has a path that cannot be used, or that leads through a file or has too long
a name, or a content that is no text or goes beyond a limit or spells a value that is not there, or
a key that is no text. -/
inductive Escapes (files : Tree) : Option Path → Prop
  | unusable
    {p : Path}
    (format : (formatOf? p).isSome)
    (unusable : ¬ p.IsUsable) :
    Escapes files (some p)
  | misplaced
    {p : Path}
    (format : (formatOf? p).isSome)
    (usable : p.IsUsable)
    (fault : files.readFile p = .error .notFolder ∨ files.readFile p = .error .nameTooLong) :
    Escapes files (some p)
  | beyond
    {p : Path}
    {format : Format}
    {bytes : List Nat}
    {fault : TextFault}
    (file : Holds files p format bytes)
    (text : spelled format bytes = .error fault)
    (grammar : fault.isGrammar = false) :
    Escapes files (some p)
  | foreignKey
    {p : Path}
    {format : Format}
    {bytes : List Nat}
    {d : Data}
    (file : Holds files p format bytes)
    (text : spelled format bytes = .ok d)
    (present : d.isPresent = true)
    (keys : hasForeignKey d = true) :
    Escapes files (some p)

section Refused

variable {files : Tree} {uri : Option Path} {p : Path} {format : Format} {bytes : List Nat}

theorem content_of_usable
    (h : p.IsUsable) :
    content files p =
      match files.readFile p with
      | .ok bytes => .ok bytes
      | .error .notFound => .error (.unreadableSnapshot p .notFound)
      | .error .isFolder => .error (.unreadableSnapshot p .isFolder)
      | .error fault => .error (.unusablePath p fault) := by
  cases hread : files.readFile p with
  | ok bytes => simp [content, Path.check_ok_iff.mpr h, hread]
  | error fault => cases fault <;> simp [content, Path.check_ok_iff.mpr h, hread]

theorem value_of_content
    {f : Failure}
    (hformat : (formatOf? p).isSome)
    (h : content files p = .error f) :
    value files p = .error f := by
  obtain ⟨format, hformat⟩ := Option.isSome_iff_exists.mp hformat
  unfold value
  rw [hformat]
  dsimp only
  rw [h]
  rfl

/-- The value of a snapshot that is there is what its content spells, when that is present. -/
theorem value_of_holds
    (h : Holds files p format bytes) :
    value files p =
      match (spelled format bytes).mapError (TextFault.failure p) with
      | .ok d => if d.isPresent then .ok d else .error (.emptySnapshot p)
      | .error f => .error f := by
  have hcontent : content files p = .ok bytes := by
    rw [content_of_usable h.usable, h.content]
  unfold value
  rw [h.format]
  dsimp only
  rw [hcontent, ← parse_eq]
  show (parse p format bytes >>= _) = _
  cases parse p format bytes with
  | ok d => rfl
  | error f => rfl

theorem value_of_present
    {d : Data}
    (h : Holds files p format bytes)
    (htext : spelled format bytes = .ok d)
    (hpresent : d.isPresent = true) :
    value files p = .ok d := by
  rw [value_of_holds h, htext]
  exact if_pos hpresent

theorem holds_of_content
    (hformat : formatOf? p = some format)
    (h : content files p = .ok bytes) :
    Holds files p format bytes := by
  unfold content at h
  split at h
  · cases h
  next hcheck =>
  split at h
  · next hread =>
    cases h
    exact ⟨hformat, Path.check_ok_iff.mp hcheck, hread⟩
  · cases h
  · cases h
  · cases h

/-- A snapshot with a value is there, and its content spells the value. -/
theorem exists_holds_of_value
    {d : Data}
    (h : value files p = .ok d) :
    ∃ format bytes, Holds files p format bytes ∧ spelled format bytes = .ok d := by
  cases hformat : formatOf? p with
  | none =>
    unfold value at h
    rw [hformat] at h
    cases h
  | some format =>
    cases hcontent : content files p with
    | error f =>
      rw [value_of_content (by rw [hformat]; rfl) hcontent] at h
      cases h
    | ok bytes =>
      have hholds := holds_of_content hformat hcontent
      rw [value_of_holds hholds] at h
      cases hspelled : spelled format bytes with
      | error fault =>
        rw [hspelled] at h
        cases h
      | ok read =>
        rw [hspelled] at h
        change (if read.isPresent then Except.ok read else .error (Failure.emptySnapshot p))
          = .ok d at h
        split at h
        · cases h
          exact ⟨format, bytes, hholds, hspelled⟩
        · cases h

theorem loaded_of_value
    {d : Data}
    (h : value files p = .ok d) :
    loaded files (some p) = clusterOf d := by
  show (value files p >>= clusterOf) = _
  rw [h]
  rfl

theorem loaded_of_refusal
    {f : Failure}
    (h : value files p = .error f) :
    loaded files (some p) = .error f := by
  show (value files p >>= clusterOf) = _
  rw [h]
  rfl

theorem Aborts.loaded
    (h : Aborts files uri) :
    ∃ f, Snapshot.loaded files uri = .error f ∧ f.kind? = some .aborted := by
  cases h with
  | noPath => exact ⟨_, rfl, rfl⟩
  | @missing p hformat husable hfault =>
    have hcontent : ∃ fault, content files p = .error (.unreadableSnapshot p fault) := by
      rw [content_of_usable husable]
      rcases hfault with hfault | hfault <;> rw [hfault] <;> exact ⟨_, rfl⟩
    obtain ⟨fault, hcontent⟩ := hcontent
    exact ⟨_, loaded_of_refusal (value_of_content hformat hcontent), rfl⟩

theorem Rejects.loaded
    (h : Rejects files uri) :
    ∃ f, Snapshot.loaded files uri = .error f ∧ f.kind? = some .invalidCluster := by
  cases h with
  | @unknownFormat p hformat =>
    refine ⟨.unknownFormat p, loaded_of_refusal ?_, rfl⟩
    unfold value
    rw [hformat]
  | @malformed p format bytes fault hfile htext hgrammar =>
    refine ⟨fault.failure p, loaded_of_refusal ?_, ?_⟩
    · rw [value_of_holds hfile, htext]
      rfl
    · rw [TextFault.kind?_failure, hgrammar, if_pos rfl]
  | @empty p format bytes d hfile htext habsent =>
    refine ⟨.emptySnapshot p, loaded_of_refusal ?_, rfl⟩
    rw [value_of_holds hfile, htext]
    exact if_neg (by simp [habsent])
  | @invalid p format bytes d issues hfile htext hpresent hkeys hentries =>
    refine ⟨.invalidSnapshot issues, ?_, rfl⟩
    rw [loaded_of_value (value_of_present hfile htext hpresent), clusterOf_eq, hkeys, hentries]
    rfl

theorem Escapes.loaded
    (h : Escapes files uri) :
    ∃ f, Snapshot.loaded files uri = .error f ∧ f.kind? = none := by
  cases h with
  | @unusable p hformat hunusable =>
    cases hcheck : p.check with
    | ok u => exact absurd (Path.check_ok_iff.mp hcheck) hunusable
    | error f =>
      have hcontent : content files p = .error f := by
        unfold content
        rw [hcheck]
      exact ⟨f, loaded_of_refusal (value_of_content hformat hcontent), Path.kind?_of_check hcheck⟩
  | @misplaced p hformat husable hfault =>
    have hcontent : ∃ fault, content files p = .error (.unusablePath p fault) := by
      rw [content_of_usable husable]
      rcases hfault with hfault | hfault <;> rw [hfault] <;> exact ⟨_, rfl⟩
    obtain ⟨fault, hcontent⟩ := hcontent
    exact ⟨_, loaded_of_refusal (value_of_content hformat hcontent), rfl⟩
  | @beyond p format bytes fault hfile htext hgrammar =>
    refine ⟨fault.failure p, loaded_of_refusal ?_, ?_⟩
    · rw [value_of_holds hfile, htext]
      rfl
    · rw [TextFault.kind?_failure, hgrammar, if_neg Bool.false_ne_true]
  | @foreignKey p format bytes d hfile htext hpresent hkeys =>
    refine ⟨.keyNotText, ?_, rfl⟩
    rw [loaded_of_value (value_of_present hfile htext hpresent), clusterOf_eq, hkeys]
    rfl

/-- A file that is not loaded holds no cluster or escapes. -/
theorem refused_of_holds
    {f : Failure}
    (hfile : Holds files p format bytes)
    (h : loaded files (some p) = .error f) :
    Rejects files (some p) ∨ Escapes files (some p) := by
  cases htext : spelled format bytes with
  | error fault =>
    cases hgrammar : fault.isGrammar with
    | true => exact .inl (.malformed hfile htext hgrammar)
    | false => exact .inr (.beyond hfile htext hgrammar)
  | ok d =>
    cases hpresent : d.isPresent with
    | false => exact .inl (.empty hfile htext hpresent)
    | true =>
      cases hkeys : hasForeignKey d with
      | true => exact .inr (.foreignKey hfile htext hpresent hkeys)
      | false =>
        rw [loaded_of_value (value_of_present hfile htext hpresent), clusterOf_eq, hkeys] at h
        cases hentries : Cluster.readEntries (entriesOf d) with
        | wrong issues => exact .inl (.invalid hfile htext hpresent hkeys hentries)
        | ok c => simp [hentries] at h

/-- Every snapshot that is not loaded is one of the refused. -/
theorem refused_of_loaded
    {f : Failure}
    (h : loaded files uri = .error f) :
    Aborts files uri ∨ Rejects files uri ∨ Escapes files uri := by
  cases uri with
  | none => exact .inl .noPath
  | some p =>
    cases hformat : formatOf? p with
    | none => exact .inr (.inl (.unknownFormat hformat))
    | some format =>
      have hknown : (formatOf? p).isSome := by simp [hformat]
      by_cases husable : p.IsUsable
      · cases hread : files.readFile p with
        | ok bytes => exact .inr (refused_of_holds ⟨hformat, husable, hread⟩ h)
        | error fault =>
          rcases Tree.fault_of_readFile hread with (rfl | rfl) | (rfl | rfl)
          · exact .inl (.missing hknown husable (.inl hread))
          · exact .inl (.missing hknown husable (.inr hread))
          · exact .inr (.inr (.misplaced hknown husable (.inl hread)))
          · exact .inr (.inr (.misplaced hknown husable (.inr hread)))
      · exact .inr (.inr (.unusable hknown husable))

/-- A JSON text within the limits has no fault but one of the grammar. -/
theorem isGrammar_of_withinLimits
    {cs : List Char}
    {fault : TextFault}
    (hdecode : Text.decode? bytes = .ok cs)
    (hlimits : Json.WithinLimits (jsonText cs))
    (h : spelledJson bytes = .error fault) :
    fault.isGrammar = true := by
  simp only [spelledJson, hdecode] at h
  cases hread : Json.read (jsonText cs) with
  | ok d =>
    rw [hread] at h
    cases h
  | error reason =>
    obtain ⟨lapse, place, rfl⟩ := Json.exists_malformed hlimits hread
    rw [hread] at h
    cases h
    rfl

/-- What the bytes of a JSON file spell is spelled by a text. -/
theorem isSpelled_of_spelledJson
    {d : Data}
    (h : spelledJson bytes = .ok d) :
    Json.IsSpelled d := by
  unfold spelledJson at h
  split at h
  · cases h
  next cs _ =>
  cases hread : Json.read (jsonText cs) with
  | error fault =>
    rw [hread] at h
    cases h
  | ok value =>
    rw [hread] at h
    cases h
    exact Json.isSpelled_of_read hread

/-- The keys of a JSON text are texts. -/
theorem hasForeignKey_of_spelledJson
    {d : Data}
    (h : spelledJson bytes = .ok d) :
    hasForeignKey d = false := by
  have hspelled := isSpelled_of_spelledJson h
  cases d with
  | map es =>
    have hkeys : ∀ e ∈ es, isText e.1 = true := by
      intro e he
      obtain ⟨s, hs⟩ := hspelled.key e he
      rw [hs]
      rfl
    simpa [hasForeignKey, entriesOf] using fun a b he => hkeys (a, b) he
  | _ => rfl

/-- A JSON text within the limits does not escape. -/
theorem not_escapes_of_withinLimits
    {cs : List Char}
    (hfile : Holds files p .json bytes)
    (hdecode : Text.decode? bytes = .ok cs)
    (hlimits : Json.WithinLimits (jsonText cs)) :
    ¬ Escapes files (some p) := by
  have hsame {format : Format} {content : List Nat} (h : Holds files p format content) :
      format = .json ∧ content = bytes :=
    ⟨Option.some.inj (h.format.symm.trans hfile.format),
      Except.ok.inj (h.content.symm.trans hfile.content)⟩
  intro h
  cases h with
  | unusable _ hunusable => exact hunusable hfile.usable
  | misplaced _ _ hfault => simp [hfile.content] at hfault
  | beyond hother htext hgrammar =>
    obtain ⟨rfl, rfl⟩ := hsame hother
    simp [isGrammar_of_withinLimits hdecode hlimits htext] at hgrammar
  | foreignKey hother htext _ hkeys =>
    obtain ⟨rfl, rfl⟩ := hsame hother
    simp [hasForeignKey_of_spelledJson htext] at hkeys

end Refused

end Snapshot

open Snapshot in
/-- Loading a snapshot aborts just when there is none, and finds it invalid just when it has an
unknown format or holds no cluster.  Every other failure to load has no kind, and belongs to a
snapshot that escapes; a JSON text within the limits does not. -/
theorem load_refusal
    (uri : Option Files.Path)
    (w : World) :
    ((∃ f, (load uri w).1 = .error f ∧ f.kind? = some .aborted) ↔ Aborts w.files uri) ∧
      ((∃ f, (load uri w).1 = .error f ∧ f.kind? = some .invalidCluster) ↔ Rejects w.files uri) ∧
      ((∃ f, (load uri w).1 = .error f ∧ f.kind? = none) ↔ Escapes w.files uri) ∧
      (∀ f, (load uri w).1 = .error f →
        f.kind? = some .aborted ∨ f.kind? = some .invalidCluster ∨ f.kind? = none) ∧
      ∀ p bytes cs, uri = some p → Holds w.files p .json bytes → Text.decode? bytes = .ok cs →
        Json.WithinLimits (jsonText cs) → ¬ Escapes w.files uri := by
  rw [load_eq]
  obtain ⟨habort, hreject, hescape, hkinds⟩ :=
    Failure.sorted_by_kind (by decide) Aborts.loaded Rejects.loaded Escapes.loaded
      fun _ hf => refused_of_loaded hf
  refine ⟨habort, hreject, hescape, hkinds, ?_⟩
  rintro p bytes cs rfl hfile hdecode hlimits
  exact not_escapes_of_withinLimits hfile hdecode hlimits

/-- No snapshot is given; a JSON file is cut off; a snapshot is looked for behind a file; a YAML
file has a number for a key: loading aborts, finds the snapshot invalid, and fails without a kind
twice. -/
theorem load_refusal_of_each :
    let files : Files.Tree :=
      ⟨[(["c.json"], .file [0x5b]), (["c.yaml"], .file [0x31, 0x3a, 0x20, 0x32, 0x0a])], []⟩
    let w : World := ⟨files, ⟨[], []⟩, ⟨2024, 1, 31, 12, 0, 59, 0, none⟩, []⟩
    (∃ f, (Snapshot.load none w).1 = .error f ∧ f.kind? = some .aborted) ∧
      (∃ f, (Snapshot.load (some ⟨.relative, ["c.json"]⟩) w).1 = .error f ∧
        f.kind? = some .invalidCluster) ∧
      ¬ Snapshot.Escapes files (some ⟨.relative, ["c.json"]⟩) ∧
      (∃ f, (Snapshot.load (some ⟨.relative, ["c.json", "x.json"]⟩) w).1 = .error f ∧
        f.kind? = none) ∧
      ∃ f, (Snapshot.load (some ⟨.relative, ["c.yaml"]⟩) w).1 = .error f ∧ f.kind? = none := by
  intro files w
  have hjson : Snapshot.Holds files ⟨.relative, ["c.json"]⟩ .json [0x5b] :=
    ⟨by decide, by decide, rfl⟩
  have hyaml : Snapshot.Holds files ⟨.relative, ["c.yaml"]⟩ .yaml [0x31, 0x3a, 0x20, 0x32, 0x0a] :=
    ⟨by decide, by decide, rfl⟩
  have hforeign : ((Snapshot.spelled .yaml [0x31, 0x3a, 0x20, 0x32, 0x0a]).toOption.any fun d =>
      d.isPresent && Snapshot.hasForeignKey d) = true := by
    decide +kernel
  refine ⟨(load_refusal none w).1.mpr .noPath, ?_, ?_, ?_, ?_⟩
  · exact (load_refusal _ w).2.1.mpr (.malformed hjson rfl rfl)
  · exact (load_refusal _ w).2.2.2.2 _ _ ['['] rfl hjson rfl
      (Json.withinLimits_of_length (by decide))
  · exact (load_refusal _ w).2.2.1.mpr (.misplaced (by decide) (by decide) (.inl rfl))
  · cases hread : Snapshot.spelled .yaml [0x31, 0x3a, 0x20, 0x32, 0x0a] with
    | error fault =>
      rw [hread] at hforeign
      cases hforeign
    | ok d =>
      rw [hread] at hforeign
      obtain ⟨hpresent, hkeys⟩ := Bool.and_eq_true_iff.mp hforeign
      exact (load_refusal _ w).2.2.1.mpr (.foreignKey hyaml hread hpresent hkeys)

end Storage
end Rebalance
