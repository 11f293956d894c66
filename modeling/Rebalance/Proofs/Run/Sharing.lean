import Rebalance.Proofs.Move.Objects
import Rebalance.Proofs.Run.Determined
import Rebalance.Proofs.Run.Success

/-!
# Runs of one command whose planner keeps its plans

* `Sharing`: a command whose planner answers every call with the same objects.  A run works on a
  session and on the heap that these objects lie in.
* `Sharing.execute_eq`: a run on the heap is the run of a command whose planner has the plans that
  the objects show, and leaves nothing in the heap but further objects.
* `Sharing.history`: runs one after the other, with anything happening to the session in between.
  Whatever their ends, the planner's objects are as they were (`extends_history`).
* `Sharing.overrides_apart`: a run after any others answers with the planner's own plans under its
  own overrides, as it would as the first run of a fresh command.
-/

namespace Rebalance

/-! ## Actions that leave a part of the state alone -/

namespace Act

variable {σ τ ν α β : Type} {view : σ → ν}

/-- Whether an action leaves a view of the state, however it ends. -/
def Leaves (view : σ → ν) (x : Act σ α) : Prop :=
  ∀ s, view (x s).2 = view s

theorem leaves_pure
    (a : α) :
    Leaves view (pure a : Act σ α) :=
  fun _ => rfl

theorem leaves_fail
    (f : Failure) :
    Leaves view (fail f : Act σ α) :=
  fun _ => rfl

theorem Leaves.bind
    {x : Act σ α}
    {f : α → Act σ β}
    (hx : Leaves view x)
    (hf : ∀ a, Leaves view (f a)) :
    Leaves view (x >>= f) := by
  intro s
  have hs := hx s
  rw [bind_apply]
  generalize x s = y at hs
  obtain ⟨r, t⟩ := y
  cases r with
  | error e => exact hs
  | ok a => exact (hf a t).trans hs

end Act

namespace Run

open Session

/-! ## A run in two parts -/

namespace Command

/-- The part of a run before its planner is called: the options, the name of the node and the
threshold. -/
def approach (c : Command) (order : Order) : Act Session (Options × String × Float) := do
  inWorld (Act.log .debug "Processing plan command")
  let (o, name) ← Act.ofExcept order.settle
  c.loadCluster (o.clusterUri <|> c.settings.clusterUri)
  enter .clusterLoaded
  let threshold ← c.resolveThreshold o
  enter .thresholdResolved
  let place ← findNode name
  enter .nodeResolved
  c.annotate place
  enter .pathsAnnotated
  return (o, name, threshold)

/-- The plans of a run, with the overrides applied. -/
def overriddenPlans (c : Command) (o : Options) (threshold : Float) :
    Act Session (List Move.Plan) := do
  let plans ← c.computePlans threshold
  enter .planComputed
  let plans ← override o plans
  enter .constraintsApplied
  return plans

theorem execute_eq
    (c : Command)
    (order : Order) :
    c.execute order = (do
      let x ← c.approach order
      let plans ← c.overriddenPlans x.1 x.2.2
      c.deliver x.1 x.2.1 x.2.2 plans) := by
  unfold execute approach overriddenPlans compute
  simp only [bind_assoc, pure_bind]

theorem leaves_inWorld
    {α : Type}
    (x : Act World α) :
    Act.Leaves Session.cluster (inWorld x) :=
  fun _ => rfl

theorem leaves_enter
    (g : Stage) :
    Act.Leaves Session.cluster (enter g) :=
  fun _ => rfl

theorem leaves_get :
    Act.Leaves Session.cluster (Act.get : Act Session Session) :=
  fun _ => rfl

/-- Calling the planner and applying the overrides leave the cluster alone. -/
theorem leaves_overriddenPlans
    (c : Command)
    (o : Options)
    (threshold : Float) :
    Act.Leaves Session.cluster (c.overriddenPlans o threshold) := by
  have hplans : Act.Leaves Session.cluster (c.computePlans threshold) := by
    intro s
    exact congrArg Standing.cluster (computePlans_shows c threshold s).2
  have hoverride (plans : List Move.Plan) : Act.Leaves Session.cluster (override o plans) :=
    (leaves_inWorld _).bind fun _ => Act.leaves_pure _
  refine hplans.bind fun _ => (leaves_enter _).bind fun _ => (hoverride _).bind fun _ => ?_
  exact (leaves_enter _).bind fun _ => Act.leaves_pure _

/-- Writing the files and printing the table leave the cluster alone. -/
theorem leaves_deliver
    (c : Command)
    (o : Options)
    (name : String)
    (threshold : Float)
    (plans : List Move.Plan) :
    Act.Leaves Session.cluster (c.deliver o name threshold plans) := by
  have hstore (w : Writer) : Act.Leaves Session.cluster (storePlan w name threshold plans) := by
    unfold storePlan
    split
    · exact (leaves_inWorld _).bind fun _ => (leaves_enter _).bind fun _ => Act.leaves_pure _
    · exact (leaves_inWorld _).bind fun _ => (leaves_enter _).bind fun _ => Act.leaves_pure _
  have hreport : Act.Leaves Session.cluster (report o plans) := by
    unfold report
    split
    · split
      · exact (leaves_inWorld _).bind fun _ => leaves_enter _
      · exact Act.leaves_fail _
    · exact Act.leaves_pure _
  refine leaves_get.bind fun s => (leaves_inWorld _).bind fun _ => (leaves_enter _).bind fun _ => ?_
  refine (hstore _).bind fun _ => hreport.bind fun _ => (leaves_enter _).bind fun _ => ?_
  exact leaves_get.bind fun _ => Act.leaves_pure _

/-- The cluster that a run leaves is the one it had before its planner was called. -/
theorem cluster_execute
    (c : Command)
    (order : Order)
    (s : Session) :
    (c.execute order s).2.cluster = (c.approach order s).2.cluster := by
  rw [execute_eq, Act.bind_apply]
  generalize c.approach order s = x
  obtain ⟨r, u⟩ := x
  cases r with
  | error f => rfl
  | ok a =>
    exact ((leaves_overriddenPlans c a.1 a.2.2).bind fun plans => leaves_deliver c _ _ _ plans) u

/-- The answer of a run whose planner always has the same plans: these, with the overrides applied,
and the first of them in the file of the plan. -/
theorem answer_of_fixed
    {c : Command}
    {originals : List Move.Plan}
    (hplanner : c.planner = .fixed originals)
    {order : Order}
    {s t : Session}
    {r : Outcome}
    (h : c.execute order s = (.ok r, t)) :
    ∃ o name, order.settle = .ok (o, name) ∧
      r.plans = Move.Overrides.apply ⟨o.bandwidth, o.maxError⟩ originals ∧
      (r.planPath.isSome = true ↔ ∃ plan rest, originals = plan :: rest ∧ plan.steps ≠ []) ∧
      ∀ path, r.planPath = some path → ∃ plan text, r.plans.head? = some plan ∧
        plan.document = .ok text ∧ Holds t.world.files path (Text.encode text) := by
  obtain ⟨p, shown, _, rfl, hstanding⟩ := exists_decided_of_execute h
  have hcomputed : p.computed = originals := by
    have hplanned := p.planned
    rw [hplanner] at hplanned
    exact (Except.ok.inj hplanned).symm
  have hfiles : t.world.files = p.planFiles := by
    have hleft := (p.left shown).1
    rw [← hstanding] at hleft
    exact hleft
  refine ⟨p.options, p.name, p.settled, ?_, ?_, ?_⟩
  · rw [← hcomputed]
    rfl
  · rw [← hcomputed]
    exact p.needed
  · intro path hpath
    obtain ⟨plan, _, text, hhead, _, _, hdocument, hholds⟩ := p.plan hpath
    rw [hfiles]
    exact ⟨plan, text, hhead, hdocument, hholds⟩

end Command

/-! ## Runs on a heap -/

/-- A plan command whose planner answers every call with the same objects. -/
structure Sharing where
  settings : Settings
  loader : Loader
  room : Nat
  held : List Nat

namespace Sharing

/-- The session of a command and the objects there are. -/
structure State where
  session : Session
  heap : Move.Heap

/-- The command whose planner has plans in place of the objects. -/
def command (m : Sharing) (plans : List Move.Plan) : Command :=
  ⟨m.settings, .fixed plans, m.loader, m.room⟩

/-- The cluster that a command keeps from run to run, if it does: volumes of plans may be its
own. -/
def kept (m : Sharing) (s : Session) : Option Storage.Cluster :=
  match m.loader with
  | .snapshot => none
  | .held => some s.cluster

/-- An action on the session. -/
def inSession {α : Type} (x : Act Session α) : Act State α :=
  Act.on State.session (fun s y => { y with session := s }) x

/-- Copies plans with the overrides applied. -/
def copies (o : Move.Overrides) (ps : List Nat) : Act State (List Nat) := fun x =>
  (.ok (x.heap.copies o ps).1, { x with heap := (x.heap.copies o ps).2 })

/-- Calls the planner, which gives its objects, and copies them with the overrides applied. -/
def overriddenPlans (m : Sharing) (o : Options) (threshold : Float) :
    Act State (List Move.Plan) := do
  let overrides : Move.Overrides := ⟨o.bandwidth, o.maxError⟩
  inSession (Act.modify fun s => { s with calls := s.calls ++ [threshold] })
  inSession (enter .planComputed)
  inSession (inWorld (Act.logAll overrides.records))
  let made ← copies overrides m.held
  inSession (enter .constraintsApplied)
  let x ← Act.get
  return x.heap.read (m.kept x.session) made

/-- Runs the command.  No planner but the one of the objects is called. -/
def execute (m : Sharing) (order : Order) : Act State Outcome := do
  let x ← inSession ((m.command []).approach order)
  let plans ← m.overriddenPlans x.1 x.2.2
  inSession ((m.command []).deliver x.1 x.2.1 x.2.2 plans)

/-- Whether all objects of the planner are plans of a heap. -/
def Sound (m : Sharing) (h : Move.Heap) : Prop :=
  ∀ p ∈ m.held, h.Sound p

/-- The cluster that a command keeps when its planner is called, if it keeps one. -/
def keptBy (m : Sharing) (order : Order) (s : Session) : Option Storage.Cluster :=
  m.kept ((m.command []).approach order s).2

variable {m : Sharing}

/-- It is also the one that a run leaves, whatever its plans. -/
theorem kept_execute
    (plans : List Move.Plan)
    (order : Order)
    (s : Session) :
    m.kept ((m.command plans).execute order s).2 = m.keptBy order s := by
  unfold keptBy kept
  rw [Command.cluster_execute]
  rfl

/-- The plans of a run are those that the objects show while the cluster is kept, and what the run
leaves in the heap are further objects. -/
theorem overriddenPlans_eq
    {x : State}
    (hsound : m.Sound x.heap)
    (o : Options)
    (threshold : Float) :
    let plain :=
      (m.command (x.heap.read (m.kept x.session) m.held)).overriddenPlans o threshold x.session
    ∃ plans h, m.overriddenPlans o threshold x = (.ok plans, ⟨plain.2, h⟩) ∧ plain.1 = .ok plans ∧
      x.heap.Extends h := by
  obtain ⟨hextends, hshown⟩ :=
    Move.Heap.copies_apply ⟨o.bandwidth, o.maxError⟩ x.heap m.held hsound (m.kept x.session)
  refine ⟨_, _, rfl, ?_, hextends⟩
  exact congrArg Except.ok hshown.symm

/-- A run on the heap is the run of a command whose planner has the plans that the objects show
while the cluster is kept, and leaves nothing in the heap but further objects. -/
theorem execute_eq
    {x : State}
    (hsound : m.Sound x.heap)
    (order : Order) :
    let plans := x.heap.read (m.keptBy order x.session) m.held
    ∃ h, x.heap.Extends h ∧ m.execute order x =
      (((m.command plans).execute order x.session).1,
        ⟨((m.command plans).execute order x.session).2, h⟩) := by
  obtain ⟨s, h⟩ := x
  dsimp only
  generalize hkept : m.keptBy order s = k
  unfold keptBy at hkept
  cases happroach : (m.command []).approach order s with
  | mk r u =>
    rw [happroach] at hkept
    subst hkept
    have hshared : inSession ((m.command []).approach order) ⟨s, h⟩ = (r, ⟨u, h⟩) := by
      simp [inSession, Act.on, happroach]
    have hplain (plans : List Move.Plan) : (m.command plans).approach order s = (r, u) :=
      happroach
    unfold execute
    rw [Command.execute_eq]
    cases r with
    | error f =>
      rw [Act.andThen_error (hplain _), Act.andThen_error hshared]
      exact ⟨h, Move.Heap.Extends.refl h, rfl⟩
    | ok a =>
      obtain ⟨plans, g, hrun, hplans, hextends⟩ :=
        overriddenPlans_eq (x := ⟨u, h⟩) hsound a.1 a.2.2
      rw [Act.andThen_ok (hplain _), Act.andThen_ok (Prod.ext hplans rfl),
        Act.andThen_ok hshared, Act.andThen_ok hrun]
      exact ⟨g, hextends, rfl⟩

/-- A run on the heap that answers is the run of a command whose planner has the plans that the
objects show while the cluster is kept. -/
theorem plain_of_execute
    {x y : State}
    (hsound : m.Sound x.heap)
    {order : Order}
    {r : Outcome}
    (h : m.execute order x = (.ok r, y)) :
    (m.command (x.heap.read (m.kept y.session) m.held)).execute order x.session =
        (.ok r, y.session) ∧
      x.heap.Extends y.heap := by
  obtain ⟨g, hextends, hrun⟩ := execute_eq hsound order
  rw [h] at hrun
  obtain ⟨hr, rfl⟩ := Prod.mk.inj hrun
  rw [kept_execute]
  exact ⟨Prod.ext hr.symm rfl, hextends⟩

theorem execute_of_plain
    {x : State}
    (hsound : m.Sound x.heap)
    {order : Order}
    {r : Outcome}
    {t : Session}
    (h : (m.command (x.heap.read (m.kept t) m.held)).execute order x.session = (.ok r, t)) :
    ∃ y, m.execute order x = (.ok r, y) ∧ y.session = t := by
  have hkept : m.kept t = m.keptBy order x.session := by
    rw [← kept_execute (x.heap.read (m.kept t) m.held), h]
  rw [hkept] at h
  obtain ⟨g, _, hrun⟩ := execute_eq hsound order
  rw [h] at hrun
  exact ⟨_, hrun, rfl⟩

/-! ## Runs one after the other -/

/-- What happens to the session before a run, and the order of the run. -/
structure Turn where
  meanwhile : Session → Session
  order : Order

/-- The state after a turn, whatever its end. -/
def turn (m : Sharing) (x : State) (t : Turn) : State :=
  (m.execute t.order { x with session := t.meanwhile x.session }).2

/-- The state after turns, one after the other. -/
def history (m : Sharing) (x : State) (ts : List Turn) : State :=
  ts.foldl m.turn x

/-- A turn leaves nothing in the heap but further objects. -/
theorem extends_turn
    {x : State}
    (hsound : m.Sound x.heap)
    (t : Turn) :
    x.heap.Extends (m.turn x t).heap := by
  obtain ⟨h, hextends, hrun⟩ :=
    execute_eq (x := { x with session := t.meanwhile x.session }) hsound t.order
  unfold turn
  rw [hrun]
  exact hextends

theorem Sound.of_extends
    {h g : Move.Heap}
    (hsound : m.Sound h)
    (hextends : h.Extends g) :
    m.Sound g :=
  fun p hp => (hsound p hp).of_extends hextends

/-- Turns leave nothing in the heap but further objects. -/
theorem extends_history
    {x : State}
    (hsound : m.Sound x.heap)
    (ts : List Turn) :
    x.heap.Extends (m.history x ts).heap := by
  induction ts generalizing x with
  | nil => exact Move.Heap.Extends.refl x.heap
  | cons t rest ih =>
    have hturn := extends_turn hsound t
    exact hturn.trans (ih (hsound.of_extends hturn))

/-- After any runs, however they ended, a run that answers, in whatever session the runs and the
time in between have left, does so with the planner's original plans under its own overrides alone;
without overrides these are the original plans themselves.  The file of the plan, which is there if
the first original plan has a step, holds the first of them, and the planner's objects are as they
were.  A fresh command that finds the same files, cluster, time and answers runs the same. -/
theorem overrides_apart
    {m : Sharing}
    {x : State}
    (hsound : m.Sound x.heap)
    (ts : List Turn)
    {s : Session}
    {order : Order}
    {r : Outcome}
    {y : State}
    (hrun : m.execute order ⟨s, (m.history x ts).heap⟩ = (.ok r, y)) :
    let originals := x.heap.read (m.kept y.session) m.held
    ∃ o name, order.settle = .ok (o, name) ∧
      r.plans = Move.Overrides.apply ⟨o.bandwidth, o.maxError⟩ originals ∧
      (o.bandwidth = 0 → o.maxError = 0 → r.plans = originals) ∧
      (r.planPath.isSome = true ↔ ∃ plan rest, originals = plan :: rest ∧ plan.steps ≠ []) ∧
      (∀ path, r.planPath = some path → ∃ plan text, r.plans.head? = some plan ∧
        plan.document = .ok text ∧ Holds y.session.world.files path (Text.encode text)) ∧
      y.heap.read (m.kept y.session) m.held = originals ∧
      ∀ s', Standing.Alike s.standing s'.standing →
        ∃ y', m.execute order ⟨s', x.heap⟩ = (.ok r, y') ∧
          y'.session.world.files = y.session.world.files ∧
          y'.session.cluster = y.session.cluster := by
  intro originals
  have hhistory := extends_history hsound ts
  obtain ⟨hplain, hextends⟩ :=
    plain_of_execute (x := ⟨s, (m.history x ts).heap⟩) (hsound.of_extends hhistory) hrun
  -- The objects show the plans that they showed before the first run.
  rw [show (m.history x ts).heap.read (m.kept y.session) m.held = originals from
    Move.Heap.read_of_extends hhistory _ hsound] at hplain
  obtain ⟨o, name, hsettled, hplans, hneeded, hfile⟩ := Command.answer_of_fixed rfl hplain
  refine ⟨o, name, hsettled, hplans, ?_, hneeded, hfile, ?_, ?_⟩
  · intro hbandwidth hmaxError
    rw [hplans, hbandwidth, hmaxError]
    exact Move.Overrides.apply_none originals
  · exact Move.Heap.read_of_extends (hhistory.trans hextends) _ hsound
  · intro s' halike
    obtain ⟨t, ht, htfiles, htcluster⟩ := execute_alike hplain halike
    have hkept : m.kept t = m.kept y.session := by
      unfold kept
      rw [htcluster]
    have hfresh : (m.command (x.heap.read (m.kept t) m.held)).execute order s' =
        (.ok r, t) := by
      rw [hkept]
      exact ht
    obtain ⟨y', hy', rfl⟩ := execute_of_plain (x := ⟨s', x.heap⟩) hsound hfresh
    exact ⟨y', hy', htfiles, htcluster⟩

/-- A run with an override and one without, on a plan whose source is a volume of the cluster: the
second one shows the planner's own bandwidth again. -/
theorem overrides_apart_after_override :
    let volume (uuid : String) (used : Nat) : Storage.Volume :=
      ⟨uuid, "DISK", 100, used, 0, false, false, false, false, ""⟩
    let now : Time.Moment := ⟨2024, 1, 1, 0, 0, 0, 0, none⟩
    let step : Move.Step := ⟨volume "a" 90, volume "b" 10, 40, "DISK", 0.0, 0, 3, 0⟩
    let heap : Move.Heap :=
      ⟨⟨1, fun _ => ⟨step, some ⟨0, 0⟩, none⟩⟩, ⟨1, fun _ => [0]⟩,
        ⟨1, fun _ => ⟨"node-a", "u1", 9867, now, 0⟩⟩⟩
    let m : Sharing :=
      ⟨⟨"DiskBalancer", 10.0, .ofString "/system/diskbalancer", "\x7bnode\x7d.before.json",
        "\x7bnode\x7d.plan.json", "DiskBalancerVolumeName", "http", 10, none, none⟩, .held, 100,
        [0]⟩
    let order (bandwidth : Nat) : Order :=
      .options ⟨some "node-a", none, some (.ofString "out"), none, bandwidth, 0, false⟩
    let node : Storage.Node :=
      ⟨"u1", .v4 167772161, 9867, "node-a", 0.0, [("DISK", ⟨"DISK", [volume "a" 90]⟩)]⟩
    let link : Net.Link := ⟨[.answered 200 "\x7b\"a\": \"/data/a\"\x7d"], []⟩
    let x : State := ⟨⟨⟨⟨[], []⟩, link, now, []⟩, .init, ⟨[node], []⟩, []⟩, heap⟩
    let shown (r : Outcome) : List (List (Nat × String)) :=
      r.plans.map fun p => p.steps.map fun s => (s.bandwidth, s.source.path)
    m.Sound x.heap ∧ (m.execute (order 9) x).1.toOption.map shown = some [[(9, "/data/a")]] ∧
      ∃ r y, m.execute (order 0) (m.history x [⟨id, order 9⟩]) = (.ok r, y) ∧
        shown r = [[(3, "/data/a")]] ∧ r.plans = x.heap.read (m.kept y.session) m.held := by
  intro volume now step heap m order node link x shown
  have hsound : m.Sound x.heap := by
    intro p hp
    obtain rfl := List.mem_singleton.mp hp
    exact ⟨by decide, by decide, by decide⟩
  have hfirst : (m.execute (order 9) x).1.toOption.map shown = some [[(9, "/data/a")]] := by
    decide +kernel
  have hsecond : (m.execute (order 0) (m.history x [⟨id, order 9⟩])).1.toOption.map shown =
      some [[(3, "/data/a")]] := by
    decide +kernel
  have hsession (z : State) : z = ⟨z.session, z.heap⟩ := rfl
  cases h : m.execute (order 0) (m.history x [⟨id, order 9⟩]) with
  | mk z y =>
    rw [h] at hsecond
    rw [hsession (m.history x [⟨id, order 9⟩])] at h
    cases z with
    | error f => cases hsecond
    | ok r =>
      obtain ⟨o, name, hsettled, _, hown, _⟩ := overrides_apart hsound [⟨id, order 9⟩] h
      obtain ⟨rfl, _⟩ := Prod.mk.inj (Except.ok.inj hsettled)
      exact ⟨hsound, hfirst, r, y, rfl, Option.some.inj hsecond, hown rfl rfl⟩

end Sharing
end Run
end Rebalance
