import Rebalance.Proofs.Run.Stages

/-!
# The stage of a plan command that is called again and again

* `Call`, `Command.history`: calls of one command, with whatever happens between them.
* `Command.Entered`: what a call has done that got its cluster.
* `Command.marks`: the last stages of the calls that got their cluster.
* `stage_after`: what one call does to the stage.
* `stage_history`: the stage after calls is the last mark, or that of before if there is none.
* `stage_of_reused`: the stage after a call that got its cluster is the last one it entered, and
  after any other call it is the one that the calls before have left.
-/

namespace Rebalance
namespace Run

/-- A call of a command: what happens to the session before it, and its order. -/
structure Call where
  meanwhile : Session → Session
  order : Order

/-- The session that a call finds.  Only calls enter stages. -/
def Call.found (x : Call) (s : Session) : Session :=
  { x.meanwhile s with stage := s.stage }

namespace Command

/-- What a call answers, and the session it leaves. -/
def call (c : Command) (s : Session) (x : Call) : Except Failure Outcome × Session :=
  c.execute x.order (x.found s)

/-- The session after calls, one after the other, whatever their ends. -/
def history (c : Command) (s : Session) (xs : List Call) : Session :=
  xs.foldl (fun s x => (c.call s x).2) s

/-- What getting the options and the cluster of a call comes to. -/
def loaded (c : Command) (s : Session) (x : Call) : Except Failure Storage.Cluster :=
  c.loading x.order (x.found s).standing

/-- What a call has done that got its cluster: it has entered the first stages of a course, one at
least, has logged each of them, and is in the last one. -/
def Entered (c : Command) (s : Session) (x : Call) : Prop :=
  ∃ planned shown gs, gs <+: Stage.course planned shown ∧
    (x.found s).standing.Went gs (c.call s x).2.standing ∧
    gs.getLast? = some (c.call s x).2.stage ∧
    ((c.call s x).1.isOk = true → gs = Stage.course planned shown)

/-- The stages left by the calls that got their cluster. -/
def marks (c : Command) : Session → List Call → List Stage
  | _, [] => []
  | s, x :: rest =>
    match c.loaded s x with
    | .ok _ => (c.call s x).2.stage :: c.marks (c.call s x).2 rest
    | .error _ => c.marks (c.call s x).2 rest

end Command

open Command

variable {c : Command} {s : Session} {x : Call}

/-! ## One call -/

theorem Command.Entered.ne_init
    (h : c.Entered s x) :
    (c.call s x).2.stage ≠ .init := by
  obtain ⟨planned, shown, gs, hgs, _, hlast, _⟩ := h
  intro hinit
  rw [hinit] at hlast
  exact Stage.init_not_mem_course planned shown (hgs.subset (List.mem_of_getLast? hlast))

/-- What one call does to the stage. -/
theorem stage_after
    (c : Command)
    (s : Session)
    (x : Call) :
    (∃ f, c.loaded s x = .error f ∧ (c.call s x).1 = .error f ∧
        (c.call s x).2.standing = (x.found s).standing) ∨
      ∃ k, c.loaded s x = .ok k ∧ c.Entered s x := by
  rcases entered_of_ending (ending_execute c x.order (x.found s)) with
    h | ⟨k, hk, planned, shown, gs, hgs, hne, hwent, hok⟩
  · exact .inl h
  · refine .inr ⟨k, hk, planned, shown, gs, hgs, hwent, ?_, hok⟩
    have hstage : (c.call s x).2.stage = gs.getLast?.getD s.stage := hwent.stage
    rw [hstage, List.getLast?_eq_some_getLast hne, Option.getD_some]

/-! ## Calls one after the other -/

theorem marks_ne_init
    (c : Command)
    (s : Session)
    (xs : List Call) :
    Stage.init ∉ c.marks s xs := by
  induction xs generalizing s with
  | nil => simp [marks]
  | cons x rest ih =>
    rcases stage_after c s x with ⟨f, hf, _⟩ | ⟨k, hk, hentered⟩
    · simp [marks, hf, ih]
    · simp [marks, hk, ih, hentered.ne_init.symm]

/-- The stage after calls is the last mark, or that of before if there is none. -/
theorem stage_history
    (c : Command)
    (s : Session)
    (xs : List Call) :
    (c.history s xs).stage = (c.marks s xs).getLast?.getD s.stage := by
  induction xs generalizing s with
  | nil => rfl
  | cons x rest ih =>
    have hrest : (c.history s (x :: rest)).stage =
        (c.marks (c.call s x).2 rest).getLast?.getD (c.call s x).2.stage := ih (c.call s x).2
    rw [hrest]
    rcases stage_after c s x with ⟨f, hf, _, hsame⟩ | ⟨k, hk, _⟩
    · have hstage : (c.call s x).2.stage = s.stage := congrArg Standing.stage hsame
      simp [marks, hf, hstage]
    · simp [marks, hk, List.getLast?_cons]

/-- A call that gets its cluster, after any other calls of the command, leaves the last of the
stages it has entered itself.  One that does not get it fails with that and leaves the stage of the
last call before it that did; the command is as at first only if there was none. -/
theorem stage_of_reused
    (c : Command)
    (s : Session)
    (xs : List Call)
    (x : Call) :
    let before := c.history s xs
    let after := c.call before x
    (∀ k, c.loaded before x = .ok k → c.Entered before x ∧ after.2.stage ≠ .init) ∧
      (∀ f, c.loaded before x = .error f → after.1 = .error f ∧
        after.2.standing = (x.found before).standing ∧
        after.2.stage = (c.marks s xs).getLast?.getD s.stage ∧
        (s.stage = .init → (after.2.stage = .init ↔ c.marks s xs = []))) := by
  intro before after
  constructor
  · intro k hk
    rcases stage_after c before x with ⟨f, hf, _⟩ | ⟨_, _, hentered⟩
    · rw [hk] at hf
      cases hf
    · exact ⟨hentered, hentered.ne_init⟩
  · intro f hf
    rcases stage_after c before x with ⟨g, hg, hfails, hsame⟩ | ⟨_, hk, _⟩
    · have hstage : after.2.stage = (c.marks s xs).getLast?.getD s.stage :=
        (congrArg Standing.stage hsame).trans (stage_history c s xs)
      rw [hf] at hg
      cases hg
      refine ⟨hfails, hsame, hstage, ?_⟩
      intro hinit
      rw [hstage, hinit]
      cases hlast : (c.marks s xs).getLast? with
      | none => simp [List.getLast?_eq_none_iff.mp hlast]
      | some g =>
        have hg : g ∈ c.marks s xs := List.mem_of_getLast? hlast
        have hne : g ≠ .init := fun h => marks_ne_init c s xs (h ▸ hg)
        simp [hne, List.ne_nil_of_mem hg]
    · rw [hf] at hk
      cases hk

/-- A call that does not find its node and one without a node, of one command: the second one fails
with the stage of the first. -/
theorem stage_of_reused_unfound :
    let c : Command :=
      ⟨⟨"DiskBalancer", 10.0, .ofString "/system/diskbalancer", "\x7bnode\x7d.before.json",
        "\x7bnode\x7d.plan.json", "DiskBalancerVolumeName", "http", 10, none, none⟩,
        .widestGap, .held, 100⟩
    let s : Session :=
      ⟨⟨⟨[], []⟩, ⟨[], []⟩, ⟨2024, 1, 1, 0, 0, 0, 0, none⟩, []⟩, .init, .empty, []⟩
    let call (node : Option String) : Call := ⟨id, .options ⟨node, none, none, none, 0, 0, false⟩⟩
    let before := c.history s [call (some "node-a")]
    ∃ f, c.loaded before (call none) = .error f ∧ (c.call before (call none)).1 = .error f ∧
      (c.call before (call none)).2.stage = .thresholdResolved := by
  intro c s call before
  have hmarks : c.marks s [call (some "node-a")] = [.thresholdResolved] := by
    rfl
  obtain ⟨f, hf⟩ : ∃ f, c.loaded before (call none) = .error f := ⟨_, rfl⟩
  obtain ⟨hfails, -, hstage, -⟩ := (stage_of_reused c s [call (some "node-a")] (call none)).2 f hf
  refine ⟨f, hf, hfails, ?_⟩
  rw [hmarks] at hstage
  exact hstage

end Run
end Rebalance
