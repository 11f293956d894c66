import Rebalance.Proofs.Move.Document

/-!
# Plans that are read from their own documents

* `Plan.exists_document_iff`: a plan has a document just when none of its texts holds a surrogate.
* `plan_of_document`: every plan that was read, also one with overrides applied since, is read again
  from the text of its document, with the same steps and the same moment.
-/

namespace Rebalance
namespace Move

open Schema Storage

theorem Plan.document_ok_iff
    {p : Plan}
    {text : String} :
    p.document = .ok text ↔ Json.document p.toData = .ok text := by
  unfold document
  cases Json.document p.toData with
  | ok s =>
    constructor
    · intro h
      cases h
      rfl
    · intro h
      cases h
      rfl
  | error s => constructor <;> intro h <;> cases h

/-- A plan has a document just when none of its texts holds a surrogate. -/
theorem Plan.exists_document_iff
    {p : Plan} :
    (∃ text, p.document = .ok text) ↔ AreWritable p.texts := by
  simp only [document_ok_iff]
  rw [← unwritten?_toData]
  unfold Json.document
  cases Json.unwritten? p.toData with
  | none => simp
  | some s => simp

/-- A plan that was read has a document, whatever overrides were applied since, just when none of
its texts holds a surrogate.  From the text of that document the same plan is read, whenever that
is. -/
theorem plan_of_document
    {now : Time.Moment}
    {es : List (Data × Data)}
    {p q : Plan}
    (hread : Plan.read now (.map es) = .ok p)
    (hnow : now.Valid)
    (hreal : ∀ d ∈ Data.find? "timestamp" es, IsReal d)
    (hplan : q = p ∨ ∃ o : Overrides, 0 ≤ o.bandwidth ∧ 0 ≤ o.maxErrors ∧ q ∈ o.apply [p])
    (hdigits : ∀ s ∈ q.steps, s.FewDigits)
    (hfinite : ∀ s ∈ q.steps, IsFinite s.idealStorage)
    (hback : ∀ s ∈ q.steps, IsReadBack s.idealStorage) :
    ((∃ text, q.document = .ok text) ↔ AreWritable q.texts) ∧
      ∀ text, q.document = .ok text →
        ∃ d, Json.readString text = .ok d ∧ ∀ later, Plan.read later d = .ok q := by
  have hvalid : q.Valid := by
    have hp := Plan.valid_of_read hread hnow hreal
    rcases hplan with rfl | ⟨o, -, -, hq⟩
    · exact hp
    · rw [List.mem_singleton.mp hq]
      exact hp.onPlan o
  refine ⟨Plan.exists_document_iff, ?_⟩
  intro text htext
  have hstorable := Plan.storable_toData hvalid hdigits hfinite hback
  have hdata := Json.read_document hstorable (by decide) (Plan.document_ok_iff.mp htext)
  exact ⟨q.toData, hdata, Plan.read_toData hvalid⟩

/-- A plan with control characters in a name, a moment west of UTC with microseconds and a step
whose error limit an override replaces: it is read again from its document. -/
theorem plan_of_document_overridden :
    let volume (uuid : String) : Volume :=
      ⟨uuid, "DISK", 10 ^ 30, 1, 0, false, false, true, false, "/é"⟩
    let step : Step := ⟨volume "a", volume "b", 7, "DISK",
      Decimal.Numeral.value ⟨false, ['0'], ['1'], 0⟩, 0, 3, 0⟩
    let p : Plan := ⟨"h\n\x01\"", "n", 5, ⟨2024, 2, 29, 23, 59, 59, 500000, some (-330)⟩, [step]⟩
    let es : List (Data × Data) :=
      [(.text "node_name", .text "h\n\x01\""), (.text "node_uuid", .text "n"), (.text "port", .int 5),
       (.text "timestamp", .text "2024-02-29 23:59:59.5-05:30"), (.text "steps", .list [step.toData])]
    let now : Time.Moment := ⟨2024, 1, 31, 12, 0, 59, 0, some 0⟩
    let q : Plan := { p with steps := [{ step with maxDiskErrors := 9 }] }
    Plan.read now (.map es) = .ok p ∧ q ∈ Overrides.apply ⟨0, 9⟩ [p] ∧
      ∃ text d, q.document = .ok text ∧ Json.readString text = .ok d ∧
        ∀ later, Plan.read later d = .ok q := by
  intro volume step p es now q
  have hstep : Step.read step.toData = .ok step :=
    Step.read_toData ⟨by decide, by decide, by decide +kernel⟩
  have hsteps : readList Step.read (.list [step.toData]) = .ok [step] := by
    simp only [readList, readItems, hstep]
    rfl
  have htime : readMoment (.text "2024-02-29 23:59:59.5-05:30") = .ok p.timestamp := rfl
  have hread : Plan.read now (.map es) = .ok p := by
    simp only [es, Plan.read, readEntity, required, Schema.optional, Data.find?, List.find?_cons,
      Data.isText, String.reduceBEq, Option.map_some, hsteps, htime]
    rfl
  have hfinite : IsFinite step.idealStorage := ⟨false, 7205759403792794, -56, by decide +kernel⟩
  have hstored : Decimal.storedText? step.idealStorage = some ['0', '.', '1'] := by decide +kernel
  have hback : IsReadBack step.idealStorage := by
    intro cs hcs
    rw [hstored] at hcs
    cases hcs
    rfl
  have hmem : q ∈ Overrides.apply ⟨0, 9⟩ [p] := List.mem_singleton.mpr rfl
  have hreads := plan_of_document hread (by decide)
    (by
      rintro d ⟨⟩
      exact trivial)
    (.inr ⟨⟨0, 9⟩, by decide, by decide, hmem⟩)
    (by
      intro s hs
      rw [List.mem_singleton.mp hs]
      exact ⟨by decide, by decide, by decide⟩)
    (by
      intro s hs
      rw [List.mem_singleton.mp hs]
      exact hfinite)
    (by
      intro s hs
      rw [List.mem_singleton.mp hs]
      exact hback)
  obtain ⟨text, htext⟩ := hreads.1.mpr (by decide +kernel)
  obtain ⟨d, hd, hplan⟩ := hreads.2 text htext
  exact ⟨hread, hmem, text, d, htext, hd, hplan⟩

/-- The path of a volume may be a surrogate alone: a plan that moves data to such a volume is read,
and has no document. -/
theorem no_plan_document_of_surrogate :
    let source : Volume := ⟨"a", "DISK", 10, 0, 0, false, false, false, false, ""⟩
    let destination : Volume := { source with uuid := "b", path := Text.ofCodes [0xd800] }
    let step : Step := ⟨source, destination, 1, "", 0.0, 0, 0, 0⟩
    let p : Plan := ⟨"h", "n", 5, ⟨2024, 1, 31, 12, 0, 59, 0, some 0⟩, [step]⟩
    (∀ now, Plan.read now p.toData = .ok p) ∧ p.timestamp.Valid ∧
      (∀ s ∈ p.steps, s.FewDigits ∧ IsFinite s.idealStorage ∧ IsReadBack s.idealStorage) ∧
      ∀ text, p.document ≠ .ok text := by
  intro source destination step p
  have hstep : step.Valid := ⟨by decide, by decide, by decide +kernel⟩
  have hsteps : ∀ s ∈ p.steps, s.Valid := fun s hs => List.mem_singleton.mp hs ▸ hstep
  have hvalid : p.Valid := ⟨by decide, by decide, hsteps⟩
  have hstored : Decimal.storedText? 0.0 = some ['0', '.', '0'] := by decide +kernel
  refine ⟨Plan.read_toData hvalid, hvalid.timestamp, ?_, ?_⟩
  · intro s hs
    rw [List.mem_singleton.mp hs]
    refine ⟨⟨by decide, by decide, by decide⟩, ⟨false, 0, -1074, by decide +kernel⟩, ?_⟩
    intro cs hcs
    rw [hstored] at hcs
    cases hcs
    rfl
  · intro text htext
    have hwritable := Plan.exists_document_iff.mp ⟨text, htext⟩
    exact absurd hwritable (by decide +kernel)

end Move
end Rebalance
