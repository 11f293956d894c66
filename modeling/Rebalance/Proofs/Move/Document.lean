import Rebalance.Move.Overrides
import Rebalance.Proofs.Storage.Document
import Rebalance.Proofs.Time.RoundTrip

/-!
# Documents of plans

* `Plan.valid_of_read`: a plan that was read is valid, and it stays valid under overrides.
* `Plan.read_toData`: a valid plan is read from its own document.
* `Plan.storable_toData`: the document survives a JSON text when its numbers do.
* `Plan.unwritten?_toData`: the document can be written just when no text holds a surrogate.
-/

namespace Rebalance
namespace Move

open Schema Schema.Checked Storage

/-! ## Valid plans -/

/-- Whether a step is between two volumes with identities and aims at no negative use. -/
structure Step.Valid (s : Step) : Prop where
  source : s.source.Valid
  destination : s.destination.Valid
  ideal : 0.0 ≤ s.idealStorage

/-- Whether a plan is for a port, was made at a moment that exists, and has valid steps. -/
structure Plan.Valid (p : Plan) : Prop where
  port : 0 < p.port ∧ p.port < 65536
  timestamp : p.timestamp.Valid
  steps : ∀ s ∈ p.steps, s.Valid

theorem nonneg_of_readAmount
    {d : Data}
    {x : Float}
    (h : readAmount d = .ok x) :
    0.0 ≤ x := by
  obtain ⟨y, -, h⟩ := andThen_ok h
  split at h
  · next hle =>
    cases h
    exact hle
  · cases h

theorem Step.valid_of_read
    {d : Data}
    {s : Step}
    (h : Step.read d = .ok s) :
    s.Valid := by
  obtain ⟨es, -, h⟩ := readEntity_ok h
  obtain ⟨_, maxDiskErrors, h₁, -, rfl⟩ := seq_ok h
  obtain ⟨_, bandwidth, h₂, -, rfl⟩ := seq_ok h₁
  obtain ⟨_, tolerance, h₃, -, rfl⟩ := seq_ok h₂
  obtain ⟨_, ideal, h₄, hideal, rfl⟩ := seq_ok h₃
  obtain ⟨_, volumeSet, h₅, -, rfl⟩ := seq_ok h₄
  obtain ⟨_, bytes, h₆, -, rfl⟩ := seq_ok h₅
  obtain ⟨_, destination, h₇, hdestination, rfl⟩ := seq_ok h₆
  obtain ⟨source, hsource, rfl⟩ := map_ok h₇
  obtain ⟨_, hsource⟩ := required_ok hsource
  obtain ⟨_, hdestination⟩ := required_ok hdestination
  refine ⟨Volume.valid_of_read hsource, Volume.valid_of_read hdestination, ?_⟩
  rcases optional_ok hideal with rfl | ⟨_, hideal⟩
  · have hzero : (0.0 : Float) ≤ 0.0 := by decide +kernel
    exact hzero
  · exact nonneg_of_readAmount hideal

/-- A plan that was read is valid when the clock and the time in its document are. -/
theorem Plan.valid_of_read
    {now : Time.Moment}
    {es : List (Data × Data)}
    {p : Plan}
    (h : Plan.read now (.map es) = .ok p)
    (hnow : now.Valid)
    (hreal : ∀ d ∈ Data.find? "timestamp" es, IsReal d) :
    p.Valid := by
  obtain ⟨_, steps, h₁, hsteps, rfl⟩ := seq_ok h
  obtain ⟨_, timestamp, h₂, htimestamp, rfl⟩ := seq_ok h₁
  obtain ⟨_, port, h₃, hport, rfl⟩ := seq_ok h₂
  obtain ⟨_, uuid, h₄, -, rfl⟩ := seq_ok h₃
  obtain ⟨name, -, rfl⟩ := map_ok h₄
  obtain ⟨_, hport⟩ := required_ok hport
  refine ⟨readPort_range hport, ?_, ?_⟩
  · unfold Schema.optional at htimestamp
    split at htimestamp
    · next d hd => exact valid_of_readMoment (under_ok htimestamp) (hreal d hd)
    · cases htimestamp
      exact hnow.inUtc
  · intro s hs
    rcases optional_ok hsteps with hnil | ⟨_, hsteps⟩
    · subst hnil
      cases hs
    · obtain ⟨_, hstep⟩ := readList_ok hsteps s hs
      exact Step.valid_of_read hstep

theorem Step.Valid.onStep
    {s : Step}
    (h : s.Valid)
    (o : Overrides) :
    (o.onStep s).Valid :=
  ⟨h.source, h.destination, h.ideal⟩

/-- A valid plan stays valid under overrides. -/
theorem Plan.Valid.onPlan
    {p : Plan}
    (h : p.Valid)
    (o : Overrides) :
    (o.onPlan p).Valid :=
  ⟨h.port, h.timestamp, List.forall_mem_map.mpr fun s hs => (h.steps s hs).onStep o⟩

/-! ## Entries -/

theorem areKeys_step :
    AreKeys ["source_volume", "destination_volume", "bytes_to_move", "volume_set_id",
      "ideal_storage", "tolerance_percent", "bandwidth", "max_disk_errors"] :=
  ⟨by decide, by decide⟩

theorem areKeys_plan :
    AreKeys ["node_name", "node_uuid", "port", "timestamp", "steps"] :=
  ⟨by decide, by decide⟩

/-- The entries of a step's document. -/
def Step.fields (s : Step) : List (String × Data) :=
  [("source_volume", s.source.toData), ("destination_volume", s.destination.toData),
   ("bytes_to_move", .int s.bytesToMove), ("volume_set_id", .text s.volumeSet),
   ("ideal_storage", .float s.idealStorage), ("tolerance_percent", .int s.tolerancePercent),
   ("bandwidth", .int s.bandwidth), ("max_disk_errors", .int s.maxDiskErrors)]

/-- The entries of a plan's document. -/
def Plan.fields (p : Plan) : List (String × Data) :=
  [("node_name", .text p.nodeName), ("node_uuid", .text p.nodeUuid), ("port", .int p.port),
   ("timestamp", .text (String.ofList p.timestamp.text)),
   ("steps", .list (p.steps.map Step.toData))]

theorem Step.toData_eq
    (s : Step) :
    s.toData = .map (s.fields.map Json.textEntry) :=
  rfl

theorem Plan.toData_eq
    (p : Plan) :
    p.toData = .map (p.fields.map Json.textEntry) :=
  rfl

/-! ## Reading -/

theorem readAmount_float
    {x : Float}
    (h : 0.0 ≤ x) :
    readAmount (.float x) = .ok x :=
  if_pos h

theorem readMoment_text
    {t : Time.Moment}
    (h : t.Valid) :
    readMoment (.text (String.ofList t.text)) = .ok t := by
  simp only [readMoment, Time.hasSurrogate_text, Time.readMoment_text h]
  rfl

theorem Step.read_toData
    {s : Step}
    (h : s.Valid) :
    Step.read s.toData = .ok s := by
  simp only [Step.read, Step.toData, readEntity, required, Schema.optional, Data.find?,
    List.find?_cons, Data.isText, String.reduceBEq, Option.map_some,
    Volume.read_toData h.source, Volume.read_toData h.destination, readCount_int,
    readAmount_float h.ideal]
  rfl

/-- A valid plan is read from its own document, whenever that is. -/
theorem Plan.read_toData
    {p : Plan}
    (h : p.Valid)
    (now : Time.Moment) :
    Plan.read now p.toData = .ok p := by
  have hsteps : readList Step.read (.list (p.steps.map Step.toData)) = .ok p.steps :=
    readList_map fun s hs => Step.read_toData (h.steps s hs)
  simp only [Plan.read, Plan.toData, readEntity, required, Schema.optional, Data.find?,
    List.find?_cons, Data.isText, String.reduceBEq, Option.map_some, readPort_int h.port,
    readMoment_text h.timestamp, hsteps]
  rfl

/-! ## Texts -/

/-- The texts in a step's document. -/
def Step.texts (s : Step) : List String :=
  s.volumeSet :: (s.source.texts ++ s.destination.texts)

/-- The texts in a plan's document. -/
def Plan.texts (p : Plan) : List String :=
  p.nodeName :: p.nodeUuid :: p.steps.flatMap Step.texts

theorem areWritable_append
    {texts more : List String} :
    AreWritable (texts ++ more) ↔ AreWritable texts ∧ AreWritable more :=
  List.forall_mem_append

theorem Step.unwritten?_toData
    (s : Step) :
    Json.unwritten? s.toData = none ↔ AreWritable s.texts := by
  have hint (n : Nat) : Json.unwritten? (.int n) = none := rfl
  have hfloat (x : Float) : Json.unwritten? (.float x) = none := rfl
  rw [toData_eq, unwritten?_fields areKeys_step s.fields rfl]
  simp only [Step.fields, Step.texts, List.forall_mem_cons, areWritable_cons, areWritable_append,
    Json.unwritten?_text, Volume.unwritten?_toData, hint, hfloat, List.not_mem_nil, false_implies,
    implies_true, and_true, true_and]
  constructor
  · rintro ⟨hsource, hdestination, hset⟩
    exact ⟨hset, hsource, hdestination⟩
  · rintro ⟨hset, hsource, hdestination⟩
    exact ⟨hsource, hdestination, hset⟩

/-- A plan's document can be written just when none of its texts holds a surrogate. -/
theorem Plan.unwritten?_toData
    (p : Plan) :
    Json.unwritten? p.toData = none ↔ AreWritable p.texts := by
  have hint (n : Nat) : Json.unwritten? (.int n) = none := rfl
  rw [toData_eq, unwritten?_fields areKeys_plan p.fields rfl]
  simp only [Plan.fields, Plan.texts, List.forall_mem_cons, areWritable_cons, areWritable_flatMap,
    Json.unwritten?_text, Json.unwritten?_list, List.forall_mem_map, Step.unwritten?_toData, hint,
    Time.hasSurrogate_text, List.not_mem_nil, false_implies, implies_true, and_true, true_and]

/-! ## Numbers -/

/-- Whether the counts of a step and its volumes have not too many digits to be read back. -/
structure Step.FewDigits (s : Step) : Prop where
  source : s.source.FewDigits
  destination : s.destination.FewDigits
  counts : ∀ n ∈ [s.bytesToMove, s.tolerancePercent, s.bandwidth, s.maxDiskErrors],
    Decimal.width n ≤ Decimal.digitLimit

theorem Step.storable_toData
    {s : Step}
    (hdigits : s.FewDigits)
    (hfinite : IsFinite s.idealStorage)
    (hback : IsReadBack s.idealStorage) :
    Json.Storable 2 s.toData := by
  have hcounts := hdigits.counts
  simp only [List.forall_mem_cons] at hcounts
  obtain ⟨hbytes, htolerance, hbandwidth, herrors, -⟩ := hcounts
  rw [toData_eq]
  refine .map areKeys_step.distinct ?_
  simp only [Step.fields, List.forall_mem_cons]
  exact ⟨Volume.storable_toData hdigits.source, Volume.storable_toData hdigits.destination,
    storable_int hbytes 1, .text _, storable_float hfinite hback 1, storable_int htolerance 1,
    storable_int hbandwidth 1, storable_int herrors 1, List.forall_mem_nil _⟩

/-- The document of a valid plan survives a JSON text when its numbers do. -/
theorem Plan.storable_toData
    {p : Plan}
    (hvalid : p.Valid)
    (hdigits : ∀ s ∈ p.steps, s.FewDigits)
    (hfinite : ∀ s ∈ p.steps, IsFinite s.idealStorage)
    (hback : ∀ s ∈ p.steps, IsReadBack s.idealStorage) :
    Json.Storable 4 p.toData := by
  rw [toData_eq]
  refine .map areKeys_plan.distinct ?_
  simp only [Plan.fields, List.forall_mem_cons]
  refine ⟨.text _, .text _, storable_int (width_of_port hvalid.port) 3, .text _,
    .list (List.forall_mem_map.mpr ?_), List.forall_mem_nil _⟩
  intro s hs
  exact Step.storable_toData (hdigits s hs) (hfinite s hs) (hback s hs)

end Move
end Rebalance
