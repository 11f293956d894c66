import Rebalance.Proofs.Run.Session

/-!
# How a run of the plan command ends

* `Loaded`, `Found`, `Annotated`, `Planned`, `Stored`, `Decided`: how far a run has got, one
  structure for each step that may fail.  Each holds what the step gave, that it gave it, and all
  that the steps before it gave.
* `Ending`: the ends a run may have, with the standing it leaves.
* `ending_execute`: every run has one of these ends.
-/

namespace Rebalance
namespace Run

open Command

/-- A run that has its options and its cluster. -/
structure Loaded (c : Command) (order : Order) (v : Standing) where
  options : Options
  name : String
  cluster : Storage.Cluster
  settled : order.settle = .ok (options, name)
  loaded : c.source (options.clusterUri <|> c.settings.clusterUri) v = .ok cluster

variable {c : Command} {order : Order} {v : Standing}

namespace Loaded

/-- The options and the cluster of a run are what the order and the command give. -/
theorem unique
    (p : Loaded c order v)
    {o : Options}
    {name : String}
    (settled : order.settle = .ok (o, name)) :
    p.options = o ∧ p.name = name ∧
      c.source (o.clusterUri <|> c.settings.clusterUri) v = .ok p.cluster := by
  obtain ⟨ho, hname⟩ := Prod.mk.inj (Except.ok.inj (p.settled.symm.trans settled))
  exact ⟨ho, hname, ho ▸ p.loaded⟩

/-- The threshold of a run. -/
def threshold (p : Loaded c order v) : Float :=
  c.threshold p.options

/-- The standing of a run that is about to look for its node. -/
def standing (p : Loaded c order v) : Standing :=
  ((v.keep p.cluster).enter .clusterLoaded).enter .thresholdResolved

end Loaded

/-- A run that has found its node. -/
structure Found (c : Command) (order : Order) (v : Standing) extends Loaded c order v where
  place : Nat
  node : Storage.Node
  found : cluster.find? name = some place
  there : cluster.nodes[place]? = some node

namespace Found

/-- The cluster with the node as its scope. -/
def narrowed (p : Found c order v) : Storage.Cluster :=
  p.cluster.withScope [p.place]

/-- The standing of a run that is about to ask its node. -/
def standing (p : Found c order v) : Standing :=
  (p.toLoaded.standing.keep p.narrowed).enter .nodeResolved

/-- The standing of a run that has asked its node. -/
def asked (p : Found c order v) : Standing :=
  p.standing.asked (c.settings.client.request p.node.address)

end Found

/-- A run that has the paths of its node. -/
structure Annotated (c : Command) (order : Order) (v : Standing) extends Found c order v where
  map : Net.PathMap
  answered : node.answer c.settings.client v.sight.link = .ok map

namespace Annotated

/-- The cluster with the paths of the node. -/
def located (p : Annotated c order v) : Storage.Cluster :=
  p.narrowed.updateNode p.place fun _ => p.node.located p.map

/-- The standing of a run that has called its planner. -/
def called (p : Annotated c order v) : Standing :=
  ((p.asked.keep p.located).enter .pathsAnnotated).called p.threshold

end Annotated

/-- A run that has its plans. -/
structure Planned (c : Command) (order : Order) (v : Standing) extends Annotated c order v where
  computed : List Move.Plan
  planned : c.planner.plans v.sight.now toAnnotated.located toLoaded.threshold = .ok computed

namespace Planned

/-- The plans with the overrides applied. -/
def plans (p : Planned c order v) : List Move.Plan :=
  Move.Overrides.apply ⟨p.options.bandwidth, p.options.maxError⟩ p.computed

/-- The standing of a run that is about to write its files. -/
def standing (p : Planned c order v) : Standing :=
  (p.called.enter .planComputed).enter .constraintsApplied

/-- The folder for the files. -/
def folder (p : Planned c order v) : Files.Path :=
  c.outputDir v.sight.now p.options

/-- The writer of the files. -/
def writer (p : Planned c order v) : Writer :=
  c.writer p.folder

/-- What writing the cluster comes to. -/
def beforeFiled (p : Planned c order v) : Except Failure Files.Path × Files.Tree :=
  p.writer.filed c.settings.beforeTemplate p.name p.located.document v.sight.files

end Planned

/-- A run that has written its cluster. -/
structure Stored (c : Command) (order : Order) (v : Standing) extends Planned c order v where
  beforePath : Files.Path
  files : Files.Tree
  stored : toPlanned.beforeFiled = (.ok beforePath, files)

namespace Stored

/-- The standing of a run that is about to write its plan. -/
def standing (p : Stored c order v) : Standing :=
  (p.toPlanned.standing.withFiles p.files).enter .snapshotWritten

/-- What writing the plan comes to. -/
def planFiled (p : Stored c order v) : Except Failure (Option Files.Path) × Files.Tree :=
  Command.planFiled p.writer p.name p.plans p.files

end Stored

/-- A run that has written its plan, or found that there is none to write. -/
structure Decided (c : Command) (order : Order) (v : Standing) extends Stored c order v where
  planPath : Option Files.Path
  planFiles : Files.Tree
  decided : toStored.planFiled = (.ok planPath, planFiles)

namespace Decided

/-- The standing of a run that is about to print its table. -/
def standing (p : Decided c order v) : Standing :=
  (p.toStored.standing.withFiles p.planFiles).enter (planStage p.planPath)

/-- What the run answers. -/
def outcome (p : Decided c order v) : Outcome :=
  ⟨.done, p.threshold, p.folder, p.beforePath, p.planPath, p.planPath.isSome, p.plans⟩

end Decided

/-- How a run ends, and the standing it leaves. -/
inductive Ending (c : Command) (order : Order) (v : Standing) :
    Except Failure Outcome → Standing → Prop
  | unsettled
    {f : Failure}
    (h : order.settle = .error f) :
    Ending c order v (.error f) v
  | unloaded
    {o : Options}
    {name : String}
    {f : Failure}
    (settled : order.settle = .ok (o, name))
    (h : c.source (o.clusterUri <|> c.settings.clusterUri) v = .error f) :
    Ending c order v (.error f) v
  | unfound
    (p : Loaded c order v)
    (h : p.cluster.find? p.name = none) :
    Ending c order v (.error (.nodeNotFound p.name)) p.standing
  | unanswered
    (p : Found c order v)
    {f : Failure}
    (h : p.node.answer c.settings.client v.sight.link = .error f) :
    Ending c order v (.error f) p.asked
  | unplanned
    (p : Annotated c order v)
    {f : Failure}
    (h : c.planner.plans v.sight.now p.located p.threshold = .error f) :
    Ending c order v (.error f) p.called
  | unstored
    (p : Planned c order v)
    {f : Failure}
    {t : Files.Tree}
    (h : p.beforeFiled = (.error f, t)) :
    Ending c order v (.error f) (p.standing.withFiles t)
  | undecided
    (p : Stored c order v)
    {f : Failure}
    {t : Files.Tree}
    (h : p.planFiled = (.error f, t)) :
    Ending c order v (.error f) (p.standing.withFiles t)
  | unreported
    (p : Decided c order v)
    {f : Failure}
    (h : table p.options p.plans = .error f) :
    Ending c order v (.error f) p.standing
  | done
    (p : Decided c order v)
    {text : Option String}
    (h : table p.options p.plans = .ok text) :
    Ending c order v (.ok p.outcome) ((p.standing.reported text).enter .done)

/-! ## Every run has an end -/

/-- Whether what a run still has to do leads to one of the ends of the run. -/
abbrev Ends (c : Command) (order : Order) (v : Standing) (x : Act Session Outcome) (s : Session) :
    Prop :=
  Act.Meets Session.standing x s (Ending c order v)

theorem ends_of_decided
    (p : Decided c order v)
    {s : Session}
    (hs : s.standing = p.standing) :
    Ends c order v
      (do
        report p.options p.plans
        Session.enter .done
        let s ← Act.get
        return ⟨s.stage, p.threshold, p.folder, p.beforePath, p.planPath, p.planPath.isSome, p.plans⟩)
      s := by
  cases h : table p.options p.plans with
  | error f =>
    have hreport := report_error h s
    rw [hs] at hreport
    exact hreport.stop (.unreported p h)
  | ok text =>
    have hreport := report_ok h s
    rw [hs] at hreport
    refine hreport.next ?_
    intro u hu
    refine (Session.enter_shows .done u).next ?_
    intro u' hu'
    rw [hu] at hu'
    have hstage : u'.stage = .done := congrArg Standing.stage hu'
    have hdone := Ending.done p h
    rw [← hu'] at hdone
    refine Act.Meets.of_get ?_
    rw [hstage]
    exact hdone

theorem ends_of_stored
    (p : Stored c order v)
    {s : Session}
    (hs : s.standing = p.standing) :
    Ends c order v
      (do
        let planPath ← storePlan p.writer p.name p.threshold p.plans
        report p.options p.plans
        Session.enter .done
        let s ← Act.get
        return ⟨s.stage, p.threshold, p.folder, p.beforePath, planPath, planPath.isSome, p.plans⟩)
      s := by
  have hfiles : s.world.files = p.files := congrArg (fun v => v.sight.files) hs
  cases h : p.planFiled with
  | mk r t =>
    rw [Stored.planFiled, ← hfiles] at h
    cases r with
    | error f =>
      have hstore := storePlan_error p.threshold h
      rw [hs] at hstore
      rw [hfiles] at h
      exact hstore.stop (.undecided p h)
    | ok path =>
      have hstore := storePlan_ok p.threshold h
      rw [hs] at hstore
      rw [hfiles] at h
      exact hstore.next fun u hu => ends_of_decided ⟨p, path, t, h⟩ hu

theorem ends_of_planned
    (p : Planned c order v)
    {s : Session}
    (hs : s.standing = p.standing) :
    Ends c order v (c.deliver p.options p.name p.threshold p.plans) s := by
  have hfiles : s.world.files = v.sight.files := congrArg (fun v => v.sight.files) hs
  have hnow : s.world.now = v.sight.now := congrArg (fun v => v.sight.now) hs
  have hcluster : s.cluster = p.located := congrArg Standing.cluster hs
  unfold deliver
  refine Act.Meets.of_get ?_
  rw [hnow, hcluster]
  have hbefore := writeBefore_shows p.writer p.name p.located s
  rw [hfiles, hs] at hbefore
  cases h : p.beforeFiled with
  | mk r t =>
    change Act.Shows _ _ _ p.beforeFiled.1 (p.standing.withFiles p.beforeFiled.2) at hbefore
    rw [h] at hbefore
    cases r with
    | error f => exact hbefore.stop (.unstored p h)
    | ok path =>
      refine hbefore.next ?_
      intro u hu
      refine (Session.enter_shows .snapshotWritten u).next ?_
      intro u' hu'
      rw [hu] at hu'
      exact ends_of_stored ⟨p, path, t, h⟩ hu'

theorem ends_of_annotated
    (p : Annotated c order v)
    {s : Session}
    (hs : s.standing = (p.asked.keep p.located).enter .pathsAnnotated) :
    Ends c order v
      (do
        let plans ← c.computePlans p.threshold
        Session.enter .planComputed
        let plans ← override p.options plans
        Session.enter .constraintsApplied
        c.deliver p.options p.name p.threshold plans)
      s := by
  have hnow : s.world.now = v.sight.now := congrArg (fun v => v.sight.now) hs
  have hcluster : s.cluster = p.located := congrArg Standing.cluster hs
  have hplans := computePlans_shows c p.threshold s
  rw [hs, hnow, hcluster] at hplans
  cases h : c.planner.plans v.sight.now p.located p.threshold with
  | error f =>
    rw [h] at hplans
    exact hplans.stop (.unplanned p h)
  | ok computed =>
    rw [h] at hplans
    refine hplans.next ?_
    intro u₁ h₁
    refine (Session.enter_shows .planComputed u₁).next ?_
    intro u₂ h₂
    refine (override_shows p.options computed u₂).next ?_
    intro u₃ h₃
    refine (Session.enter_shows .constraintsApplied u₃).next ?_
    intro u₄ h₄
    rw [h₃, h₂, h₁] at h₄
    exact ends_of_planned ⟨p, computed, h⟩ h₄

theorem ends_of_found
    (p : Found c order v)
    {s : Session}
    (hs : s.standing = p.standing) :
    Ends c order v
      (do
        c.annotate p.place
        Session.enter .pathsAnnotated
        let plans ← c.computePlans p.threshold
        Session.enter .planComputed
        let plans ← override p.options plans
        Session.enter .constraintsApplied
        c.deliver p.options p.name p.threshold plans)
      s := by
  have hlink : s.world.link = v.sight.link := congrArg (fun v => v.sight.link) hs
  have hcluster : s.cluster = p.narrowed := congrArg Standing.cluster hs
  have hnode : s.cluster.nodes[p.place]? = some p.node := by
    rw [hcluster]
    exact p.there
  cases h : p.node.answer c.settings.client v.sight.link with
  | error f =>
    have hasked := annotate_error c hnode (hlink ▸ h)
    rw [hs] at hasked
    exact hasked.stop (.unanswered p h)
  | ok m =>
    have hasked := annotate_ok c hnode (hlink ▸ h)
    rw [hs, hcluster] at hasked
    refine hasked.next ?_
    intro u hu
    refine (Session.enter_shows .pathsAnnotated u).next ?_
    intro u' hu'
    rw [hu] at hu'
    exact ends_of_annotated ⟨p, m, h⟩ hu'

theorem ends_of_loaded
    (p : Loaded c order v)
    {s : Session}
    (hs : s.standing = p.standing) :
    Ends c order v
      (do
        let plans ← c.compute p.options p.name p.threshold
        c.deliver p.options p.name p.threshold plans)
      s := by
  have hcluster : s.cluster = p.cluster := congrArg Standing.cluster hs
  unfold compute
  simp only [bind_assoc, pure_bind]
  cases h : p.cluster.find? p.name with
  | none =>
    have hfind := findNode_error (hcluster ▸ h)
    rw [hs] at hfind
    exact hfind.stop (.unfound p h)
  | some place =>
    have hfind := findNode_ok (hcluster ▸ h)
    rw [hs, hcluster] at hfind
    obtain ⟨hplace, _⟩ := List.findIdx?_eq_some_iff_getElem.mp h
    refine hfind.next ?_
    intro u hu
    refine (Session.enter_shows .nodeResolved u).next ?_
    intro u' hu'
    rw [hu] at hu'
    exact ends_of_found ⟨p, place, _, h, List.getElem?_eq_getElem hplace⟩ hu'

/-- Every run has one of the ends. -/
theorem ending_execute
    (c : Command)
    (order : Order)
    (s : Session) :
    Ending c order s.standing (c.execute order s).1 (c.execute order s).2.standing := by
  show Ends c order s.standing (c.execute order) s
  unfold execute
  refine Act.Meets.next (Session.inWorld_shows_same (Act.log_shows rfl _)) ?_
  intro u₁ h₁
  have hsettle := Act.ofExcept_shows Session.standing order.settle u₁
  rw [h₁] at hsettle
  cases hs : order.settle with
  | error f =>
    rw [hs] at hsettle
    exact hsettle.stop (.unsettled hs)
  | ok x =>
    obtain ⟨o, name⟩ := x
    rw [hs] at hsettle
    refine hsettle.next ?_
    intro u₂ h₂
    dsimp only
    cases hl : c.source (o.clusterUri <|> c.settings.clusterUri) s.standing with
    | error f =>
      have hload := loadCluster_error c (h₂ ▸ hl)
      rw [h₂] at hload
      exact hload.stop (.unloaded hs hl)
    | ok cluster =>
      have hload := loadCluster_ok c (h₂ ▸ hl)
      rw [h₂] at hload
      refine hload.next ?_
      intro u₃ h₃
      refine (Session.enter_shows .clusterLoaded u₃).next ?_
      intro u₄ h₄
      refine (resolveThreshold_shows c o u₄).next ?_
      intro u₅ h₅
      refine (Session.enter_shows .thresholdResolved u₅).next ?_
      intro u₆ h₆
      rw [h₅, h₄, h₃] at h₆
      exact ends_of_loaded ⟨o, name, cluster, hs, hl⟩ h₆

/-! ## The files of a run -/

theorem isWriteFailure_of_cluster
    {k : Storage.Cluster}
    {f : Failure}
    (h : k.document = .error f) :
    IsWriteFailure f := by
  obtain ⟨_, rfl⟩ := Failure.mapError_error h
  exact .inl rfl

theorem isWriteFailure_of_plan
    {p : Move.Plan}
    {f : Failure}
    (h : p.document = .error f) :
    IsWriteFailure f := by
  obtain ⟨_, rfl⟩ := Failure.mapError_error h
  exact .inl rfl

/-- The two ends of writing the cluster. -/
theorem Planned.filing
    (p : Planned c order v) :
    p.writer.Filing c.settings.beforeTemplate p.name p.located.document v.sight.files
      p.beforeFiled.1 p.beforeFiled.2 :=
  p.writer.filing_filed _ _ _ (fun _ => isWriteFailure_of_cluster) _

/-- A run that cannot write its cluster leaves nothing but further folders. -/
theorem Planned.refused
    (p : Planned c order v)
    {f : Failure}
    {t : Files.Tree}
    (h : p.beforeFiled = (.error f, t)) :
    IsWriteFailure f ∧ Files.Tree.Grows v.sight.files t := by
  have hfiling := p.filing
  rw [h] at hfiling
  cases hfiling with
  | refused kind grows => exact ⟨kind, grows⟩

/-- The file of the cluster after a run has written it. -/
theorem Stored.placed
    (p : Stored c order v) :
    ∃ file text, Template.format c.room c.settings.beforeTemplate p.name = .ok file ∧
      isFileName file = true ∧ p.located.document = .ok text ∧
      p.beforePath = p.folder.child file ∧
      Placed v.sight.files (p.folder.child file) (Text.encode text) p.files := by
  have hfiling := p.filing
  rw [p.stored] at hfiling
  generalize hpath : p.beforePath = path at hfiling
  cases hfiling with
  | @placed file text _ named single worded placed =>
    exact ⟨file, text, named, single, worded, rfl, placed⟩

/-- A run that cannot write its plan leaves nothing more but further folders. -/
theorem Stored.refused
    (p : Stored c order v)
    {f : Failure}
    {t : Files.Tree}
    (h : p.planFiled = (.error f, t)) :
    IsWriteFailure f ∧ Files.Tree.Grows p.files t := by
  unfold Stored.planFiled Command.planFiled at h
  split at h
  · cases h
  · next plan _ =>
    obtain ⟨hr, ht⟩ := Prod.mk.inj h
    have hfiling := p.writer.filing_filed p.writer.planTemplate p.name plan.document
      (fun _ => isWriteFailure_of_plan) p.files
    rw [Failure.map_error hr, ht] at hfiling
    cases hfiling with
    | refused kind grows => exact ⟨kind, grows⟩

/-- The file of the plan after a run has written it, or found that there is none to write. -/
theorem Decided.placed
    (p : Decided c order v) :
    (written? p.plans = none ∧ p.planPath = none ∧ p.planFiles = p.files) ∨
      ∃ plan file text, written? p.plans = some plan ∧
        Template.format c.room c.settings.planTemplate p.name = .ok file ∧ isFileName file = true ∧
        plan.document = .ok text ∧ p.planPath = some (p.folder.child file) ∧
        Placed p.files (p.folder.child file) (Text.encode text) p.planFiles := by
  have h := p.decided
  unfold Stored.planFiled Command.planFiled at h
  split at h
  · next hnone =>
    obtain ⟨hr, ht⟩ := Prod.mk.inj h
    exact .inl ⟨hnone, (Except.ok.inj hr).symm, ht.symm⟩
  · next plan hplan =>
    obtain ⟨hr, ht⟩ := Prod.mk.inj h
    obtain ⟨path, hpath, hsome⟩ := Failure.map_ok hr
    have hfiling := p.writer.filing_filed p.writer.planTemplate p.name plan.document
      (fun _ => isWriteFailure_of_plan) p.files
    rw [hpath, ht] at hfiling
    cases hfiling with
    | @placed file text _ named single worded placed =>
      exact .inr ⟨plan, file, text, hplan, named, single, worded, hsome.symm, placed⟩

end Run
end Rebalance
