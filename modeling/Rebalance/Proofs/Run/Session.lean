import Rebalance.Proofs.Run.Artifact
import Rebalance.Proofs.Storage.Load
import Rebalance.Run.Command

/-!
# What the steps of a plan command do to its session

* `Standing`: a session as it looks when its log is read for changes of stage only.
* Each step of a command answers and changes the standing as told by its lemma; the name of the
  lemma is that of the step with `_shows`.
-/

namespace Rebalance
namespace Run

/-- The record of a change of stage. -/
def Stage.moveRecord (a b : Stage) : Log.Record :=
  ⟨.debug, "Plan command: " ++ a.name ++ " -> " ++ b.name⟩

/-- A session as it looks when its log is read for changes of stage only. -/
structure Standing where
  sight : World.Sight
  stage : Stage
  cluster : Storage.Cluster
  calls : List Float

namespace Standing

/-- A standing one stage later. -/
def enter (v : Standing) (g : Stage) : Standing :=
  { v with
    sight := { v.sight with moves := v.sight.moves ++ [Stage.moveRecord v.stage g] }
    stage := g }

/-- A standing with another cluster at hand. -/
def keep (v : Standing) (c : Storage.Cluster) : Standing :=
  { v with cluster := c }

/-- A standing with other files. -/
def withFiles (v : Standing) (t : Files.Tree) : Standing :=
  { v with sight := { v.sight with files := t } }

/-- A standing after a request. -/
def asked (v : Standing) (r : Net.Request) : Standing :=
  { v with sight := { v.sight with link := (v.sight.link.send r).2 } }

/-- A standing after the planner was called. -/
def called (v : Standing) (threshold : Float) : Standing :=
  { v with calls := v.calls ++ [threshold] }

/-- A standing after a text was printed. -/
def printed (v : Standing) (text : String) : Standing :=
  { v with sight := { v.sight with texts := v.sight.texts ++ [text] } }

/-- A standing after the table was printed, if there was one to print. -/
def reported (v : Standing) : Option String → Standing
  | none => v
  | some text => (v.printed text).enter .reported

end Standing

namespace Session

/-- The standing of a session. -/
def standing (s : Session) : Standing :=
  ⟨s.world.sight, s.stage, s.cluster, s.calls⟩

theorem inWorld_shows
    {α : Type}
    {x : Act World α}
    {s : Session}
    {r : Except Failure α}
    {v : World.Sight}
    (h : Act.Shows World.sight x s.world r v) :
    Act.Shows standing (inWorld x) s r { s.standing with sight := v } := by
  obtain ⟨hr, hv⟩ := h
  refine ⟨hr, ?_⟩
  rw [← hv]
  rfl

/-- An action on the world whose sight does not change. -/
theorem inWorld_shows_same
    {α : Type}
    {x : Act World α}
    {s : Session}
    {r : Except Failure α}
    (h : Act.Shows World.sight x s.world r s.world.sight) :
    Act.Shows standing (inWorld x) s r s.standing :=
  inWorld_shows h

theorem isMove_moveRecord
    (a b : Stage) :
    (Stage.moveRecord a b).isMove = true := by
  have hwords : "Plan command: ".toList = Log.moveWords := rfl
  unfold Stage.moveRecord Log.Record.isMove
  rw [String.append_assoc, String.append_assoc, String.toList_append, hwords, Bool.and_eq_true]
  exact ⟨rfl, List.isPrefixOf_iff_prefix.mpr (List.prefix_append _ _)⟩

theorem enter_shows
    (g : Stage)
    (s : Session) :
    Act.Shows standing (enter g) s (.ok ()) (s.standing.enter g) := by
  have hmoves : (s.world.tell [Stage.moveRecord s.stage g]).moves =
      s.world.moves ++ [Stage.moveRecord s.stage g] := by
    rw [World.moves_tell, List.filter_cons_of_pos (isMove_moveRecord _ _), List.filter_nil]
  refine ⟨rfl, ?_⟩
  show Standing.mk (World.sight (s.world.tell [Stage.moveRecord s.stage g])) g s.cluster s.calls = _
  rw [World.sight, hmoves, World.texts_tell]
  rfl

theorem keep_shows
    (c : Storage.Cluster)
    (s : Session) :
    Act.Shows standing (keep c) s (.ok ()) (s.standing.keep c) :=
  ⟨rfl, rfl⟩

end Session

namespace Order

theorem settle_options
    (o : Options) :
    (Order.options o).settle = o.target.map fun name => (o, name) := by
  show (o.target >>= fun name => pure (o, name)) = _
  cases o.target <;> rfl

theorem settle_of_target
    {o : Options}
    {name : String}
    (h : o.target = .ok name) :
    (Order.options o).settle = .ok (o, name) := by
  rw [settle_options, h]
  rfl

theorem settle_entries
    (es : List (String × Data)) :
    (Order.entries es).settle = (Options.parse es).bind fun o => (Order.options o).settle :=
  rfl

/-- Options that are read from values name a node. -/
theorem target_of_parse
    {es : List (String × Data)}
    {o : Options}
    (h : Options.parse es = .ok o) :
    ∃ name, o.target = .ok name := by
  unfold Options.parse at h
  split at h
  · cases h
  · obtain ⟨name, hname, rfl⟩ := Failure.map_ok h
    exact ⟨name, hname⟩

theorem kind?_of_target_error
    {o : Options}
    {f : Failure}
    (h : o.target = .error f) :
    f.kind? = some .invalidArgument := by
  unfold Options.target at h
  split at h
  · cases h
    rfl
  · split at h
    · cases h
      rfl
    · cases h

/-- Options that cannot be settled are an invalid argument. -/
theorem kind?_of_settle_error
    {order : Order}
    {f : Failure}
    (h : order.settle = .error f) :
    f.kind? = some .invalidArgument := by
  cases order with
  | options o =>
    rcases Failure.bind_error h with ht | ⟨name, _, h⟩
    · exact kind?_of_target_error ht
    · cases h
  | entries es =>
    rcases Failure.bind_error h with hp | ⟨o, _, h⟩
    · unfold Options.parse at hp
      split at hp
      · cases hp
        rfl
      · next o _ =>
        cases ht : o.target with
        | error g =>
          rw [ht] at hp
          cases hp
          exact kind?_of_target_error ht
        | ok name =>
          rw [ht] at hp
          cases hp
    · rcases Failure.bind_error h with ht | ⟨name, _, h⟩
      · exact kind?_of_target_error ht
      · cases h

end Order

namespace Command

open Session

variable (c : Command)

/-! ## Before the paths are known -/

/-- The cluster a run starts from: that of the snapshot, or the one at hand. -/
def source (uri : Option Files.Path) (v : Standing) : Except Failure Storage.Cluster :=
  match c.loader with
  | .snapshot => Storage.Snapshot.loaded v.sight.files uri
  | .held => .ok v.cluster

/-- What settling the order of a run and loading its cluster come to. -/
def loading (order : Order) (v : Standing) : Except Failure Storage.Cluster :=
  order.settle.bind fun x => c.source (x.1.clusterUri <|> c.settings.clusterUri) v

/-- The threshold of a run. -/
def threshold (o : Options) : Float :=
  (Threshold.resolve (o.threshold.map .real) (some (.real c.settings.threshold))).1.toFloat

theorem load_shows
    (uri : Option Files.Path)
    (s : Session) :
    Act.Shows standing (inWorld (Storage.Snapshot.load uri)) s
      (Storage.Snapshot.loaded s.world.files uri) s.standing := by
  refine inWorld_shows_same ?_
  unfold Act.Shows Act.Meets
  rw [Storage.Snapshot.load_eq]
  exact ⟨rfl, World.sight_tell _ (Storage.Snapshot.quiet_records _ _)⟩

theorem loadCluster_error
    {uri : Option Files.Path}
    {s : Session}
    {f : Failure}
    (h : c.source uri s.standing = .error f) :
    Act.Shows standing (c.loadCluster uri) s (.error f) s.standing := by
  unfold source at h
  unfold loadCluster
  cases hl : c.loader with
  | held =>
    rw [hl] at h
    cases h
  | snapshot =>
    rw [hl] at h
    have hload := load_shows uri s
    rw [show Storage.Snapshot.loaded s.world.files uri = .error f from h] at hload
    exact hload.stop ⟨rfl, rfl⟩

theorem loadCluster_ok
    {uri : Option Files.Path}
    {s : Session}
    {k : Storage.Cluster}
    (h : c.source uri s.standing = .ok k) :
    Act.Shows standing (c.loadCluster uri) s (.ok ()) (s.standing.keep k) := by
  unfold source at h
  unfold loadCluster
  cases hl : c.loader with
  | held =>
    rw [hl] at h
    cases h
    exact inWorld_shows_same (Act.log_shows (Log.isMove_of_severity _ (by decide)) _)
  | snapshot =>
    rw [hl] at h
    have hload := load_shows uri s
    rw [show Storage.Snapshot.loaded s.world.files uri = .ok k from h] at hload
    refine hload.next ?_
    intro u hu
    rw [← hu]
    exact keep_shows k u

theorem quiet_resolve
    (user standard : Option Threshold.Quantity) :
    Log.Quiet (Threshold.resolve user standard).2 := by
  have hdebug (text : String) : Log.Quiet [⟨.debug, "Threshold percentage is " ++ text⟩] :=
    Log.quiet_cons (Log.isMove_of_word _ _ _ fun _ => rfl) Log.quiet_nil
  have hwarning (text : String) : Log.Quiet [⟨.warning, text⟩] :=
    Log.quiet_cons (Log.isMove_of_severity _ (by decide)) Log.quiet_nil
  unfold Threshold.resolve
  refine Log.quiet_append ?_ (hdebug _)
  split
  · exact Log.quiet_nil
  · exact Log.quiet_nil
  · exact hwarning _

theorem resolveThreshold_shows
    (o : Options)
    (s : Session) :
    Act.Shows standing (c.resolveThreshold o) s (.ok (c.threshold o)) s.standing := by
  refine (inWorld_shows_same (Act.logAll_shows (quiet_resolve _ _) _)).next ?_
  intro u hu
  rw [← hu]
  exact Act.pure_shows standing _ u

theorem findNode_error
    {name : String}
    {s : Session}
    (h : s.cluster.find? name = none) :
    Act.Shows standing (findNode name) s (.error (.nodeNotFound name)) s.standing := by
  unfold findNode
  refine Act.Meets.of_get ?_
  rw [h]
  exact inWorld_shows_same (Act.abort_shows _ _)

theorem findNode_ok
    {name : String}
    {s : Session}
    {place : Nat}
    (h : s.cluster.find? name = some place) :
    Act.Shows standing (findNode name) s (.ok place)
      (s.standing.keep (s.cluster.withScope [place])) := by
  unfold findNode
  refine Act.Meets.of_get ?_
  rw [h]
  refine (keep_shows _ s).next ?_
  intro u hu
  rw [← hu]
  exact Act.pure_shows standing place u

/-! ## Asking the node -/

theorem fetch_shows
    (node : Storage.Node)
    (s : Session) :
    Act.Shows standing (inWorld (node.fetchPaths c.settings.client)) s
      ((node.answer c.settings.client s.world.link).map node.located)
      (s.standing.asked (c.settings.client.request node.address)) := by
  refine inWorld_shows (v := (s.standing.asked _).sight) ?_
  unfold Act.Shows Act.Meets
  rw [Storage.Node.fetchPaths_eq]
  refine ⟨rfl, ?_⟩
  rw [World.sight_tell _ (Storage.Node.quiet_fetchRecords _ _ _)]
  rfl

theorem annotate_error
    {place : Nat}
    {node : Storage.Node}
    {s : Session}
    {f : Failure}
    (hnode : s.cluster.nodes[place]? = some node)
    (h : node.answer c.settings.client s.world.link = .error f) :
    Act.Shows standing (c.annotate place) s (.error f)
      (s.standing.asked (c.settings.client.request node.address)) := by
  have hfetch := fetch_shows c node s
  rw [h] at hfetch
  unfold annotate
  refine Act.Meets.of_get ?_
  rw [hnode]
  exact hfetch.stop ⟨rfl, rfl⟩

theorem annotate_ok
    {place : Nat}
    {node : Storage.Node}
    {s : Session}
    {m : Net.PathMap}
    (hnode : s.cluster.nodes[place]? = some node)
    (h : node.answer c.settings.client s.world.link = .ok m) :
    Act.Shows standing (c.annotate place) s (.ok ())
      ((s.standing.asked (c.settings.client.request node.address)).keep
        (s.cluster.updateNode place fun _ => node.located m)) := by
  have hfetch := fetch_shows c node s
  rw [h] at hfetch
  unfold annotate
  refine Act.Meets.of_get ?_
  rw [hnode]
  refine hfetch.next ?_
  intro u hu
  rw [← hu]
  exact keep_shows _ u

/-! ## The plans -/

theorem computePlans_shows
    (threshold : Float)
    (s : Session) :
    Act.Shows standing (c.computePlans threshold) s
      (c.planner.plans s.world.now s.cluster threshold) (s.standing.called threshold) :=
  Act.ofExcept_shows standing _ { s with calls := s.calls ++ [threshold] }

theorem quiet_overrides
    (x : Move.Overrides) :
    Log.Quiet x.records := by
  unfold Move.Overrides.records
  split
  · exact Log.quiet_nil
  · exact Log.quiet_cons (Log.isMove_of_word _ _ _ fun _ => rfl) Log.quiet_nil

theorem override_shows
    (o : Options)
    (plans : List Move.Plan)
    (s : Session) :
    Act.Shows standing (override o plans) s
      (.ok (Move.Overrides.apply ⟨o.bandwidth, o.maxError⟩ plans)) s.standing := by
  refine (inWorld_shows_same (Act.logAll_shows (quiet_overrides _) _)).next ?_
  intro u hu
  rw [← hu]
  exact Act.pure_shows standing _ u

/-! ## The files and the table -/

theorem writeBefore_shows
    (w : Writer)
    (name : String)
    (k : Storage.Cluster)
    (s : Session) :
    Act.Shows standing (inWorld (w.writeBefore name k)) s
      (w.filed w.beforeTemplate name k.document s.world.files).1
      (s.standing.withFiles (w.filed w.beforeTemplate name k.document s.world.files).2) :=
  inWorld_shows (w.writeBefore_shows name k s.world)

/-- The plan that is written: the first one, if it has a step. -/
def written? (plans : List Move.Plan) : Option Move.Plan :=
  plans.head?.filter fun p => !p.steps.isEmpty

/-- What writing the plan comes to. -/
def planFiled (w : Writer) (name : String) (plans : List Move.Plan) (t : Files.Tree) :
    Except Failure (Option Files.Path) × Files.Tree :=
  match written? plans with
  | none => (.ok none, t)
  | some p =>
    ((w.filed w.planTemplate name p.document t).1.map some,
      (w.filed w.planTemplate name p.document t).2)

/-- The stage after the plan was written or found needless. -/
def planStage (path : Option Files.Path) : Stage :=
  if path.isSome then .planWritten else .noPlanNeeded

theorem storePlan_error
    {w : Writer}
    {name : String}
    (threshold : Float)
    {plans : List Move.Plan}
    {s : Session}
    {f : Failure}
    {t : Files.Tree}
    (h : planFiled w name plans s.world.files = (.error f, t)) :
    Act.Shows standing (storePlan w name threshold plans) s (.error f) (s.standing.withFiles t) := by
  unfold planFiled at h
  unfold storePlan
  rw [written?] at h
  cases hp : plans.head?.filter fun p => !p.steps.isEmpty with
  | none =>
    rw [hp] at h
    cases h
  | some p =>
    rw [hp] at h
    have hwrite : Act.Shows standing (inWorld (w.writePlan name p)) s _ (s.standing.withFiles _) :=
      inWorld_shows (w.writePlan_shows name p s.world)
    obtain ⟨hr, ht⟩ := Prod.mk.inj h
    rw [ht, Failure.map_error hr] at hwrite
    exact hwrite.stop ⟨rfl, rfl⟩

theorem storePlan_ok
    {w : Writer}
    {name : String}
    (threshold : Float)
    {plans : List Move.Plan}
    {s : Session}
    {path : Option Files.Path}
    {t : Files.Tree}
    (h : planFiled w name plans s.world.files = (.ok path, t)) :
    Act.Shows standing (storePlan w name threshold plans) s (.ok path)
      ((s.standing.withFiles t).enter (planStage path)) := by
  unfold planFiled at h
  unfold storePlan
  rw [written?] at h
  cases hp : plans.head?.filter fun p => !p.steps.isEmpty with
  | none =>
    rw [hp] at h
    cases h
    refine Act.Meets.next (inWorld_shows_same (Act.log_shows ?_ _)) ?_
    · exact Log.isMove_of_severity _ (by decide)
    · intro u hu
      refine (enter_shows _ u).next ?_
      intro u' hu'
      rw [hu] at hu'
      exact ⟨rfl, hu'⟩
  | some p =>
    rw [hp] at h
    have hwrite : Act.Shows standing (inWorld (w.writePlan name p)) s _ (s.standing.withFiles _) :=
      inWorld_shows (w.writePlan_shows name p s.world)
    obtain ⟨hr, ht⟩ := Prod.mk.inj h
    obtain ⟨target, htarget, rfl⟩ := Failure.map_ok hr
    rw [ht, htarget] at hwrite
    refine hwrite.next ?_
    intro u hu
    refine (enter_shows _ u).next ?_
    intro u' hu'
    rw [hu] at hu'
    exact ⟨rfl, hu'⟩

/-- The table to print, if it is asked for and there is a step to show. -/
def table (o : Options) (plans : List Move.Plan) : Except Failure (Option String) :=
  if o.verbose && plans.any fun p => !p.steps.isEmpty then
    match Move.Table.render? plans with
    | some text => .ok (some text)
    | none => .error .sizeTooLarge
  else .ok none

theorem report_error
    {o : Options}
    {plans : List Move.Plan}
    {f : Failure}
    (h : table o plans = .error f)
    (s : Session) :
    Act.Shows standing (report o plans) s (.error f) s.standing := by
  unfold table at h
  unfold report
  split at h
  · next hasked =>
    rw [if_pos hasked]
    cases hr : Move.Table.render? plans with
    | some text =>
      rw [hr] at h
      cases h
    | none =>
      rw [hr] at h
      cases h
      exact Act.fail_shows standing _ s
  · cases h

theorem report_ok
    {o : Options}
    {plans : List Move.Plan}
    {text : Option String}
    (h : table o plans = .ok text)
    (s : Session) :
    Act.Shows standing (report o plans) s (.ok ()) (s.standing.reported text) := by
  unfold table at h
  unfold report
  split at h
  · next hasked =>
    rw [if_pos hasked]
    cases hr : Move.Table.render? plans with
    | none =>
      rw [hr] at h
      cases h
    | some shown =>
      rw [hr] at h
      cases h
      refine (inWorld_shows (Act.print_shows shown s.world)).next ?_
      intro u hu
      have henter := enter_shows .reported u
      rw [hu] at henter
      exact henter
  · next hasked =>
    rw [if_neg hasked]
    cases h
    exact Act.pure_shows standing () s

end Command
end Run
end Rebalance
