import Rebalance.Proofs.Run.Ending

/-!
# The stages of a run

* `Stage.course`: the stages of a whole run, in order.
* `Standing.Went`: a standing reached by entering some stages, each change logged once.
* `entered_of_ending`: a run that does not get its cluster leaves all as it was, and any other
  enters the first stages of a course.
* `went_of_ending`: whatever its end, a run enters the first stages of a course, and a run that
  answers enters all of them.
-/

namespace Rebalance
namespace Run

namespace Stage

/-- The place of a stage in the course of a run. -/
def rank : Stage → Nat
  | .init => 0
  | .clusterLoaded => 1
  | .thresholdResolved => 2
  | .nodeResolved => 3
  | .pathsAnnotated => 4
  | .planComputed => 5
  | .constraintsApplied => 6
  | .snapshotWritten => 7
  | .planWritten => 8
  | .noPlanNeeded => 8
  | .reported => 9
  | .done => 10

/-- Whether a stage comes before another one in the course of a run. -/
def IsBefore (a b : Stage) : Prop :=
  a.rank < b.rank

instance : DecidableRel IsBefore :=
  fun a b => inferInstanceAs (Decidable (a.rank < b.rank))

/-- The stages of a whole run, in order: of one that writes a plan or finds none needed, and of one
that prints a table or prints none. -/
def course (planned shown : Bool) : List Stage :=
  [.clusterLoaded, .thresholdResolved, .nodeResolved, .pathsAnnotated, .planComputed,
    .constraintsApplied, .snapshotWritten, if planned then .planWritten else .noPlanNeeded]
    ++ (if shown then [.reported] else []) ++ [.done]

theorem init_not_mem_course
    (planned shown : Bool) :
    .init ∉ course planned shown := by
  cases planned <;> cases shown <;> decide

/-- The records of entering stages, one after the other. -/
def moveRecords : Stage → List Stage → List Log.Record
  | _, [] => []
  | a, b :: rest => moveRecord a b :: moveRecords b rest

theorem moveRecords_concat
    (a b : Stage)
    (gs : List Stage) :
    moveRecords a (gs ++ [b]) = moveRecords a gs ++ [moveRecord (gs.getLast?.getD a) b] := by
  induction gs generalizing a with
  | nil => rfl
  | cons g rest ih =>
    rw [List.cons_append, moveRecords, ih g, moveRecords, List.cons_append]
    cases rest with
    | nil => rfl
    | cons x xs =>
      rw [List.getLast?_cons_cons, List.getLast?_cons]
      rfl

end Stage

namespace Standing

/-- Whether a standing is reached from another one by entering stages, each of them logged once. -/
structure Went (v : Standing) (gs : List Stage) (u : Standing) : Prop where
  moves : u.sight.moves = v.sight.moves ++ Stage.moveRecords v.stage gs
  stage : u.stage = gs.getLast?.getD v.stage

variable {v u : Standing} {gs : List Stage}

theorem Went.refl
    (v : Standing) :
    Went v [] v :=
  ⟨(List.append_nil _).symm, rfl⟩

theorem Went.enter
    (h : Went v gs u)
    (g : Stage) :
    Went v (gs ++ [g]) (u.enter g) := by
  constructor
  · show u.sight.moves ++ [Stage.moveRecord u.stage g] = _
    rw [Stage.moveRecords_concat, h.moves, h.stage, List.append_assoc]
  · rw [List.getLast?_concat]
    rfl

theorem Went.keep
    (h : Went v gs u)
    (c : Storage.Cluster) :
    Went v gs (u.keep c) :=
  ⟨h.moves, h.stage⟩

theorem Went.withFiles
    (h : Went v gs u)
    (t : Files.Tree) :
    Went v gs (u.withFiles t) :=
  ⟨h.moves, h.stage⟩

theorem Went.asked
    (h : Went v gs u)
    (r : Net.Request) :
    Went v gs (u.asked r) :=
  ⟨h.moves, h.stage⟩

theorem Went.called
    (h : Went v gs u)
    (threshold : Float) :
    Went v gs (u.called threshold) :=
  ⟨h.moves, h.stage⟩

theorem Went.printed
    (h : Went v gs u)
    (text : String) :
    Went v gs (u.printed text) :=
  ⟨h.moves, h.stage⟩

theorem Went.reported
    (h : Went v gs u)
    (text : Option String) :
    Went v (gs ++ if text.isSome then [.reported] else []) (u.reported text) := by
  cases text with
  | none => exact (List.append_nil gs).symm ▸ h
  | some shown => exact (h.printed shown).enter .reported

end Standing

open Standing

variable {c : Command} {order : Order} {v : Standing}

theorem Loaded.went
    (p : Loaded c order v) :
    Went v [.clusterLoaded, .thresholdResolved] p.standing :=
  (((Went.refl v).keep _).enter .clusterLoaded).enter .thresholdResolved

theorem Found.went
    (p : Found c order v) :
    Went v [.clusterLoaded, .thresholdResolved, .nodeResolved] p.asked :=
  ((p.toLoaded.went.keep _).enter .nodeResolved).asked _

theorem Annotated.went
    (p : Annotated c order v) :
    Went v [.clusterLoaded, .thresholdResolved, .nodeResolved, .pathsAnnotated] p.called :=
  ((p.toFound.went.keep _).enter .pathsAnnotated).called _

theorem Planned.went
    (p : Planned c order v) :
    Went v [.clusterLoaded, .thresholdResolved, .nodeResolved, .pathsAnnotated, .planComputed,
      .constraintsApplied] p.standing :=
  (p.toAnnotated.went.enter .planComputed).enter .constraintsApplied

theorem Stored.went
    (p : Stored c order v) :
    Went v [.clusterLoaded, .thresholdResolved, .nodeResolved, .pathsAnnotated, .planComputed,
      .constraintsApplied, .snapshotWritten] p.standing :=
  (p.toPlanned.went.withFiles _).enter .snapshotWritten

theorem Decided.went
    (p : Decided c order v) :
    Went v [.clusterLoaded, .thresholdResolved, .nodeResolved, .pathsAnnotated, .planComputed,
      .constraintsApplied, .snapshotWritten, Command.planStage p.planPath] p.standing :=
  (p.toStored.went.withFiles _).enter (Command.planStage p.planPath)

theorem Loaded.loading_eq
    (p : Loaded c order v) :
    c.loading order v = .ok p.cluster := by
  unfold Command.loading
  rw [p.settled]
  exact p.loaded

/-- A run that does not get its cluster leaves all as it was; any other enters the first stages of a
course, one at least, and all of them if it answers. -/
theorem entered_of_ending
    {r : Except Failure Outcome}
    {u : Standing}
    (h : Ending c order v r u) :
    (∃ f, c.loading order v = .error f ∧ r = .error f ∧ u = v) ∨
      ∃ k, c.loading order v = .ok k ∧ ∃ planned shown gs, gs <+: Stage.course planned shown ∧
        gs ≠ [] ∧ Went v gs u ∧ (r.isOk = true → gs = Stage.course planned shown) := by
  have unfinished {f : Failure} {a b : Bool} {gs : List Stage} (p : Loaded c order v)
      (hgs : gs <+: Stage.course a b) (hne : gs ≠ []) (hw : Went v gs u) :
      ∃ k, c.loading order v = .ok k ∧ ∃ planned shown gs, gs <+: Stage.course planned shown ∧
        gs ≠ [] ∧ Went v gs u ∧
        ((Except.error f : Except Failure Outcome).isOk = true → gs = Stage.course planned shown) :=
    ⟨p.cluster, p.loading_eq, a, b, gs, hgs, hne, hw, fun h => by cases h⟩
  cases h with
  | @unsettled f h =>
    refine .inl ⟨f, ?_, rfl, rfl⟩
    unfold Command.loading
    rw [h]
    rfl
  | @unloaded o name f settled h =>
    refine .inl ⟨f, ?_, rfl, rfl⟩
    unfold Command.loading
    rw [settled]
    exact h
  | unfound p h =>
    exact .inr (unfinished (a := true) (b := true) p (by decide) (by simp) p.went)
  | unanswered p h =>
    exact .inr (unfinished (a := true) (b := true) p.toLoaded (by decide) (by simp) p.went)
  | unplanned p h =>
    exact .inr (unfinished (a := true) (b := true) p.toLoaded (by decide) (by simp) p.went)
  | unstored p h =>
    exact .inr (unfinished (a := true) (b := true) p.toLoaded (by decide) (by simp)
      (p.went.withFiles _))
  | undecided p h =>
    exact .inr (unfinished (a := true) (b := true) p.toLoaded (by decide) (by simp)
      (p.went.withFiles _))
  | unreported p h =>
    exact .inr (unfinished (a := p.planPath.isSome) (b := true) p.toLoaded ⟨[.reported, .done], rfl⟩
      (by simp) p.went)
  | @done p text h =>
    exact .inr ⟨p.cluster, p.toLoaded.loading_eq, p.planPath.isSome, text.isSome, _,
      List.prefix_rfl, by simp [Stage.course], (p.went.reported text).enter .done, fun _ => rfl⟩

/-- Whatever its end, a run enters the first stages of a course, and a run that answers enters all
of them. -/
theorem went_of_ending
    {r : Except Failure Outcome}
    {u : Standing}
    (h : Ending c order v r u) :
    ∃ planned shown gs, gs <+: Stage.course planned shown ∧ Went v gs u ∧
      (r.isOk = true → gs = Stage.course planned shown) := by
  rcases entered_of_ending h with ⟨f, _, rfl, rfl⟩ | ⟨_, _, planned, shown, gs, hgs, _, hw, hok⟩
  · exact ⟨true, true, [], List.nil_prefix, Went.refl u, fun h => by cases h⟩
  · exact ⟨planned, shown, gs, hgs, hw, hok⟩

end Run
end Rebalance
