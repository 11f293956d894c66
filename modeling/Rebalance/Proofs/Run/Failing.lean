import Rebalance.Proofs.Net.Answer
import Rebalance.Proofs.Run.Stages

/-!
# What a failed run of the plan command has done

* `Stage.kinds`: the kinds of failure that end a run in a stage.
* `Halted`: what a failed run has asked, computed and written, by the stage it got to.
* `execute_bounded`: every run enters the first stages of a course, and a failed run has done what
  its last stage says, and no more.
-/

namespace Rebalance
namespace Run

/-! ## Kinds of failure -/

/-- The kinds of failure that end a run in a stage. -/
def Stage.kinds : Stage → List Kind
  | .init => [.invalidArgument, .aborted, .invalidCluster]
  | .thresholdResolved => [.nodeNotFound]
  | .nodeResolved => [.noConnection, .unreadableAnswer]
  | .constraintsApplied | .snapshotWritten => [.unwrittenFile]
  | _ => []

theorem kind?_of_plans_error
    {planner : Move.Planner}
    {now : Time.Moment}
    {k : Storage.Cluster}
    {threshold : Float}
    {f : Failure}
    (h : planner.plans now k threshold = .error f) :
    f.kind? = none := by
  cases planner with
  | fixed plans => cases h
  | widestGap =>
    obtain ⟨n, _, hn⟩ := Failure.mapM_error h
    rcases Failure.bind_error hn with hus | ⟨us, _, hn⟩
    · obtain ⟨x, _, hx⟩ := Failure.mapM_error hus
      unfold Move.Usage.of at hx
      split at hx
      · cases hx
      · cases hx
        rfl
    · rcases Failure.bind_error hn with hsteps | ⟨steps, _, hn⟩
      · unfold Move.gapSteps at hsteps
        split at hsteps
        · split at hsteps
          · have hhalf := Failure.map_error hsteps
            unfold Move.halfMove at hhalf
            dsimp only at hhalf
            split at hhalf
            · cases hhalf
              rfl
            · cases hhalf
          · cases hsteps
        · cases hsteps
          rfl
      · cases hn

theorem kind?_of_table_error
    {o : Options}
    {plans : List Move.Plan}
    {f : Failure}
    (h : Command.table o plans = .error f) :
    f.kind? = none := by
  unfold Command.table at h
  split at h
  · split at h
    · cases h
    · cases h
      rfl
  · cases h

/-! ## What a failed run has done -/

/-- The cluster of a run: the one it loads, or the one at hand when it loads none. -/
def Command.start (c : Command) (order : Order) (v : Standing) : Storage.Cluster :=
  match order.settle with
  | .error _ => v.cluster
  | .ok (o, _) =>
    match c.source (o.clusterUri <|> c.settings.clusterUri) v with
    | .error _ => v.cluster
    | .ok k => k

/-- Whether files hold the document of a cluster where a run puts it, and are else as they were
before the run but for further folders. -/
def Command.HoldsBefore (c : Command) (order : Order) (v : Standing) (k : Storage.Cluster)
    (t : Files.Tree) : Prop :=
  ∃ o name file text, order.settle = .ok (o, name) ∧
    Template.format c.room c.settings.beforeTemplate name = .ok file ∧ k.document = .ok text ∧
    Placed v.sight.files ((c.outputDir v.sight.now o).child file) (Text.encode text) t

/-- What a failed run has done, by the stage it got to. -/
structure Halted (c : Command) (order : Order) (v : Standing) (f : Failure) (u : Standing) :
    Prop where
  kind : ∀ k, f.kind? = some k → k ∈ u.stage.kinds
  requests : ∃ r, u.sight.link.requests =
    v.sight.link.requests ++ if u.stage.IsBefore .nodeResolved then [] else [r]
  calls : ∃ q, u.calls = v.calls ++ if u.stage.IsBefore .pathsAnnotated then [] else [q]
  nodes : u.stage.IsBefore .pathsAnnotated → u.cluster.nodes = (c.start order v).nodes
  unfound : u.stage = .thresholdResolved →
    ∃ o name, order.settle = .ok (o, name) ∧ (c.start order v).node? name = none
  texts : u.sight.texts = v.sight.texts
  folders : u.stage.IsBefore .snapshotWritten → Files.Tree.Grows v.sight.files u.sight.files
  files : ¬ u.stage.IsBefore .snapshotWritten →
    ∃ t, c.HoldsBefore order v u.cluster t ∧
      if u.stage = .planWritten then ∃ p content, Placed t p content u.sight.files
      else Files.Tree.Grows t u.sight.files

variable {c : Command} {order : Order} {v : Standing}

theorem Loaded.start_eq
    (p : Loaded c order v) :
    c.start order v = p.cluster := by
  unfold Command.start
  rw [p.settled]
  dsimp only
  rw [p.loaded]

/-- A run that fails before its cluster is loaded has done nothing. -/
theorem halted_init
    {f : Failure}
    (hinit : v.stage = .init)
    (hkind : ∀ k, f.kind? = some k → k ∈ Stage.init.kinds)
    (hstart : c.start order v = v.cluster) :
    Halted c order v f v where
  kind := by
    rw [hinit]
    exact hkind
  requests := ⟨⟨"", 0⟩, by simp [hinit, Stage.IsBefore, Stage.rank]⟩
  calls := ⟨0, by simp [hinit, Stage.IsBefore, Stage.rank]⟩
  nodes := fun _ => by rw [hstart]
  unfound := fun h => by
    rw [hinit] at h
    cases h
  texts := rfl
  folders := fun _ => Files.Tree.Grows.refl _
  files := fun h => absurd (by rw [hinit]; decide) h

theorem Loaded.halted
    (p : Loaded c order v)
    (h : p.cluster.find? p.name = none) :
    Halted c order v (.nodeNotFound p.name) p.standing where
  kind := by
    intro k hk
    cases hk
    exact List.mem_singleton_self _
  requests := ⟨⟨"", 0⟩, (List.append_nil _).symm⟩
  calls := ⟨0, (List.append_nil _).symm⟩
  nodes := fun _ => by
    rw [p.start_eq]
    rfl
  unfound := fun _ => ⟨p.options, p.name, p.settled, by
    rw [p.start_eq]
    exact Storage.Cluster.node?_eq_none_iff.mpr h⟩
  texts := rfl
  folders := fun _ => Files.Tree.Grows.refl _
  files := fun h => absurd (by decide : Stage.IsBefore .thresholdResolved .snapshotWritten) h

theorem Found.halted
    (p : Found c order v)
    {f : Failure}
    (h : p.node.answer c.settings.client v.sight.link = .error f) :
    Halted c order v f p.asked where
  kind := by
    intro k hk
    show k ∈ Stage.nodeResolved.kinds
    rcases (Net.Client.understood_sorted _).2.2.2 f h with hn | hn | hn
    · rw [hn] at hk
      cases hk
      decide
    · rw [hn] at hk
      cases hk
      decide
    · rw [hn] at hk
      cases hk
  requests := ⟨_, Net.Link.send_requests _ _⟩
  calls := ⟨0, (List.append_nil _).symm⟩
  nodes := fun _ => by
    rw [p.toLoaded.start_eq]
    rfl
  unfound := fun h => by cases h
  texts := rfl
  folders := fun _ => Files.Tree.Grows.refl _
  files := fun h => absurd (by decide : Stage.IsBefore .nodeResolved .snapshotWritten) h

theorem Annotated.halted
    (p : Annotated c order v)
    {f : Failure}
    (h : c.planner.plans v.sight.now p.located p.threshold = .error f) :
    Halted c order v f p.called where
  kind := by
    intro k hk
    rw [kind?_of_plans_error h] at hk
    cases hk
  requests := ⟨_, Net.Link.send_requests _ _⟩
  calls := ⟨_, rfl⟩
  nodes := fun hn => absurd hn (by decide : ¬ Stage.IsBefore .pathsAnnotated .pathsAnnotated)
  unfound := fun h => by cases h
  texts := rfl
  folders := fun _ => Files.Tree.Grows.refl _
  files := fun h => absurd (by decide : Stage.IsBefore .pathsAnnotated .snapshotWritten) h

theorem mem_kinds_of_isWriteFailure
    {f : Failure}
    {g : Stage}
    (hf : IsWriteFailure f)
    (hg : .unwrittenFile ∈ g.kinds) :
    ∀ k, f.kind? = some k → k ∈ g.kinds := by
  intro k hk
  rcases hf with hn | hn
  · rw [hn] at hk
    cases hk
  · rw [hn] at hk
    cases hk
    exact hg

theorem Planned.halted
    (p : Planned c order v)
    {f : Failure}
    {t : Files.Tree}
    (h : p.beforeFiled = (.error f, t)) :
    Halted c order v f (p.standing.withFiles t) where
  kind := mem_kinds_of_isWriteFailure (g := .constraintsApplied) (p.refused h).1 (by decide)
  requests := ⟨_, Net.Link.send_requests _ _⟩
  calls := ⟨_, rfl⟩
  nodes := fun hn => absurd hn (by decide : ¬ Stage.IsBefore .constraintsApplied .pathsAnnotated)
  unfound := fun h => by cases h
  texts := rfl
  folders := fun _ => (p.refused h).2
  files := fun h => absurd (by decide : Stage.IsBefore .constraintsApplied .snapshotWritten) h

theorem Stored.holdsBefore
    (p : Stored c order v) :
    c.HoldsBefore order v p.located p.files := by
  obtain ⟨file, text, named, _, worded, _, placed⟩ := p.placed
  exact ⟨p.options, p.name, file, text, p.settled, named, worded, placed⟩

theorem Stored.halted
    (p : Stored c order v)
    {f : Failure}
    {t : Files.Tree}
    (h : p.planFiled = (.error f, t)) :
    Halted c order v f (p.standing.withFiles t) where
  kind := mem_kinds_of_isWriteFailure (g := .snapshotWritten) (p.refused h).1 (by decide)
  requests := ⟨_, Net.Link.send_requests _ _⟩
  calls := ⟨_, rfl⟩
  nodes := fun hn => absurd hn (by decide : ¬ Stage.IsBefore .snapshotWritten .pathsAnnotated)
  unfound := fun h => by cases h
  texts := rfl
  folders := fun hn => absurd hn (by decide : ¬ Stage.IsBefore .snapshotWritten .snapshotWritten)
  files := fun _ => ⟨p.files, p.holdsBefore, (p.refused h).2⟩

theorem Decided.not_isBefore
    (p : Decided c order v)
    {g : Stage}
    (h : g.rank ≤ 8) :
    ¬ p.standing.stage.IsBefore g := by
  have hrank : (Command.planStage p.planPath).rank = 8 := by
    cases p.planPath <;> rfl
  exact Nat.not_lt.mpr (hrank.symm ▸ h)

theorem Decided.halted
    (p : Decided c order v)
    {f : Failure}
    (h : Command.table p.options p.plans = .error f) :
    Halted c order v f p.standing where
  kind := by
    intro k hk
    rw [kind?_of_table_error h] at hk
    cases hk
  requests := by
    refine ⟨c.settings.client.request p.node.address, ?_⟩
    rw [if_neg (p.not_isBefore (by decide))]
    exact Net.Link.send_requests _ _
  calls := by
    refine ⟨p.threshold, ?_⟩
    rw [if_neg (p.not_isBefore (by decide))]
    rfl
  nodes := fun hn => absurd hn (p.not_isBefore (by decide))
  unfound := fun hn => absurd (by rw [hn]; decide) (p.not_isBefore (g := .nodeResolved) (by decide))
  texts := rfl
  folders := fun hn => absurd hn (p.not_isBefore (by decide))
  files := by
    intro _
    refine ⟨p.files, p.holdsBefore, ?_⟩
    show if Command.planStage p.planPath = .planWritten then _ else _
    rcases p.placed with ⟨_, hpath, hfiles⟩ | ⟨plan, file, text, _, _, _, _, hpath, placed⟩
    · rw [hpath, if_neg (by decide)]
      show Files.Tree.Grows p.files p.planFiles
      rw [hfiles]
      exact Files.Tree.Grows.refl _
    · have hstage : Command.planStage p.planPath = .planWritten := by
        rw [hpath]
        rfl
      rw [if_pos hstage]
      exact ⟨_, _, placed⟩

/-! ## Every run -/

theorem start_of_settle_error
    {f : Failure}
    (h : order.settle = .error f) :
    c.start order v = v.cluster := by
  unfold Command.start
  rw [h]

theorem start_of_source_error
    {o : Options}
    {name : String}
    {f : Failure}
    (settled : order.settle = .ok (o, name))
    (h : c.source (o.clusterUri <|> c.settings.clusterUri) v = .error f) :
    c.start order v = v.cluster := by
  unfold Command.start
  rw [settled]
  dsimp only
  rw [h]

theorem source_kinds
    {uri : Option Files.Path}
    {f : Failure}
    (h : c.source uri v = .error f) :
    ∀ k, f.kind? = some k → k ∈ Stage.init.kinds := by
  unfold Command.source at h
  split at h
  · intro k hk
    rcases Storage.Snapshot.isLoadFailure_of_loaded h with hn | hn | hn
    · rw [hn] at hk
      cases hk
    · rw [hn] at hk
      cases hk
      decide
    · rw [hn] at hk
      cases hk
      decide
  · cases h

/-- A failed run has done what its last stage says, and no more. -/
theorem halted_of_ending
    {f : Failure}
    {u : Standing}
    (hinit : v.stage = .init)
    (h : Ending c order v (.error f) u) :
    Halted c order v f u := by
  cases h with
  | unsettled h =>
    refine halted_init hinit ?_ (start_of_settle_error h)
    intro k hk
    rw [Order.kind?_of_settle_error h] at hk
    cases hk
    decide
  | unloaded settled h =>
    exact halted_init hinit (source_kinds h) (start_of_source_error settled h)
  | unfound p h => exact p.halted h
  | unanswered p h => exact p.halted h
  | unplanned p h => exact p.halted h
  | unstored p h => exact p.halted h
  | undecided p h => exact p.halted h
  | unreported p h => exact p.halted h

/-- A run stops at once where its options cannot be settled, its cluster cannot be loaded or its
node is not there. -/
theorem Ending.early
    {r : Except Failure Outcome}
    {u : Standing}
    (h : Ending c order v r u) :
    (∃ f, order.settle = .error f ∧ r = .error f ∧ u = v) ∨
      (∃ o name f, order.settle = .ok (o, name) ∧
        c.source (o.clusterUri <|> c.settings.clusterUri) v = .error f ∧ r = .error f ∧ u = v) ∨
      ∃ p : Loaded c order v, p.cluster.find? p.name = none →
        r = .error (.nodeNotFound p.name) ∧ u = p.standing := by
  have further (p : Found c order v) : ∃ p : Loaded c order v, p.cluster.find? p.name = none →
      r = .error (.nodeNotFound p.name) ∧ u = p.standing := by
    refine ⟨p.toLoaded, ?_⟩
    intro hnone
    have hfound := p.found
    rw [hnone] at hfound
    cases hfound
  cases h with
  | unsettled h => exact .inl ⟨_, h, rfl, rfl⟩
  | unloaded settled h => exact .inr (.inl ⟨_, _, _, settled, h, rfl, rfl⟩)
  | unfound p h => exact .inr (.inr ⟨p, fun _ => ⟨rfl, rfl⟩⟩)
  | unanswered p h => exact .inr (.inr (further p))
  | unplanned p h => exact .inr (.inr (further p.toFound))
  | unstored p h => exact .inr (.inr (further p.toFound))
  | undecided p h => exact .inr (.inr (further p.toFound))
  | unreported p h => exact .inr (.inr (further p.toFound))
  | done p h => exact .inr (.inr (further p.toFound))

theorem Ending.of_settle_error
    {r : Except Failure Outcome}
    {u : Standing}
    (hinit : v.stage = .init)
    (h : Ending c order v r u)
    {f : Failure}
    (hf : order.settle = .error f) :
    r = .error f ∧ u.stage = .init := by
  rcases h.early with ⟨g, hg, hr, rfl⟩ | ⟨o, name, g, hs, _⟩ | ⟨p, _⟩
  · rw [hf] at hg
    cases hg
    exact ⟨hr, hinit⟩
  · rw [hf] at hs
    cases hs
  · have hs := p.settled
    rw [hf] at hs
    cases hs

theorem Ending.of_source_error
    {r : Except Failure Outcome}
    {u : Standing}
    (hinit : v.stage = .init)
    (h : Ending c order v r u)
    {o : Options}
    {name : String}
    {f : Failure}
    (hs : order.settle = .ok (o, name))
    (hf : c.source (o.clusterUri <|> c.settings.clusterUri) v = .error f) :
    r = .error f ∧ u.stage = .init := by
  rcases h.early with ⟨g, hg, _⟩ | ⟨o', name', g, hs', hg, hr, rfl⟩ | ⟨p, _⟩
  · rw [hs] at hg
    cases hg
  · rw [hs] at hs'
    cases hs'
    rw [hf] at hg
    cases hg
    exact ⟨hr, hinit⟩
  · obtain ⟨_, _, hl⟩ := p.unique hs
    rw [hf] at hl
    cases hl

theorem Ending.of_node_none
    {r : Except Failure Outcome}
    {u : Standing}
    (h : Ending c order v r u)
    {o : Options}
    {name : String}
    {k : Storage.Cluster}
    (hs : order.settle = .ok (o, name))
    (hl : c.source (o.clusterUri <|> c.settings.clusterUri) v = .ok k)
    (hnone : k.node? name = none) :
    r = .error (.nodeNotFound name) ∧ u.stage = .thresholdResolved := by
  rcases h.early with ⟨g, hg, _⟩ | ⟨o', name', g, hs', hg, _⟩ | ⟨p, hp⟩
  · rw [hs] at hg
    cases hg
  · rw [hs] at hs'
    cases hs'
    rw [hl] at hg
    cases hg
  · obtain ⟨_, hname, hl'⟩ := p.unique hs
    rw [hl] at hl'
    cases hl'
    subst hname
    obtain ⟨hr, hu⟩ := hp (Storage.Cluster.node?_eq_none_iff.mp hnone)
    rw [hu]
    exact ⟨hr, rfl⟩

/-- What a run does, by its end. -/
structure Bounded (c : Command) (order : Order) (v : Standing) (r : Except Failure Outcome)
    (u : Standing) : Prop where
  stages : ∃ planned shown gs, gs <+: Stage.course planned shown ∧ v.Went gs u ∧
    (r.isOk = true → gs = Stage.course planned shown)
  halted : ∀ f, r = .error f → Halted c order v f u
  unsettled : ∀ f, order.settle = .error f → r = .error f ∧ u.stage = .init
  unloaded : ∀ o name f, order.settle = .ok (o, name) →
    c.source (o.clusterUri <|> c.settings.clusterUri) v = .error f → r = .error f ∧ u.stage = .init
  unfound : ∀ o name k, order.settle = .ok (o, name) →
    c.source (o.clusterUri <|> c.settings.clusterUri) v = .ok k → k.node? name = none →
    r = .error (.nodeNotFound name) ∧ u.stage = .thresholdResolved

/-- A run of a fresh command enters the first stages of a course and logs each of them once.  When
it fails, it has done what its last stage says, and no more. -/
theorem execute_bounded
    (c : Command)
    (order : Order)
    (s : Session)
    (hinit : s.stage = .init) :
    Bounded c order s.standing (c.execute order s).1 (c.execute order s).2.standing := by
  have hending := ending_execute c order s
  generalize (c.execute order s).1 = r at hending ⊢
  generalize (c.execute order s).2.standing = u at hending ⊢
  refine ⟨went_of_ending hending, ?_, ?_, ?_, ?_⟩
  · rintro f rfl
    exact halted_of_ending hinit hending
  · intro f hf
    exact hending.of_settle_error hinit hf
  · intro o name f hs hf
    exact hending.of_source_error hinit hs hf
  · intro o name k hs hl hnone
    exact hending.of_node_none hs hl hnone

/-- On a cluster without nodes the run of a fresh command stops when it looks for its node.  On a
node with a full volume and an empty one, and with a name for plans that does not fit, it stops when
the cluster is written and the plan is not. -/
theorem execute_bounded_halfway :
    let command (planTemplate : String) : Command :=
      ⟨⟨"DiskBalancer", 10.0, .ofString "/system/diskbalancer", "\x7bnode\x7d.before.json",
        planTemplate, "DiskBalancerVolumeName", "http", 10, none, none⟩, .widestGap, .held, 100⟩
    let order : Order := .options ⟨some "node-a", none, none, none, 0, 0, false⟩
    let volume (uuid : String) (used : Nat) : Storage.Volume :=
      ⟨uuid, "D", 100, used, 0, false, false, false, false, ""⟩
    let node : Storage.Node :=
      ⟨"u1", .v4 167772161, 9867, "node-a", 0.0, [("D", ⟨"D", [volume "a" 90, volume "b" 0]⟩)]⟩
    let session (k : Storage.Cluster) : Session :=
      ⟨⟨⟨[], []⟩, ⟨[.answered 200 "\x7b\x7d"], []⟩, ⟨2024, 1, 1, 0, 0, 0, 0, none⟩, []⟩,
        .init, k, []⟩
    let early := (command "\x7bnode\x7d.plan.json").execute order (session .empty)
    let late := (command "\x7bname\x7d").execute order (session ⟨[node], []⟩)
    ((session .empty).stage = .init ∧ early.1 = .error (.nodeNotFound "node-a") ∧
      early.2.stage = .thresholdResolved ∧
      Bounded (command "\x7bnode\x7d.plan.json") order (session .empty).standing early.1
        early.2.standing) ∧
    (session ⟨[node], []⟩).stage = .init ∧ (∃ f, late.1 = .error f) ∧
      late.2.stage = .snapshotWritten ∧
      Bounded (command "\x7bname\x7d") order (session ⟨[node], []⟩).standing late.1
        late.2.standing := by
  intro command order volume node session early late
  have hearly := execute_bounded (command "\x7bnode\x7d.plan.json") order (session .empty) rfl
  have hlate := execute_bounded (command "\x7bname\x7d") order (session ⟨[node], []⟩) rfl
  obtain ⟨hr, hstage⟩ := hearly.unfound ⟨some "node-a", none, none, none, 0, 0, false⟩ "node-a"
    .empty rfl rfl rfl
  have hrun : (late.1.toOption.isNone, late.2.stage) = (true, .snapshotWritten) := by
    decide +kernel
  obtain ⟨hfails, hwritten⟩ := Prod.mk.inj hrun
  have hfailed := error_of_toOption (Option.isNone_iff_eq_none.mp hfails)
  exact ⟨⟨rfl, hr, hstage, hearly⟩, rfl, hfailed, hwritten, hlate⟩

end Run
end Rebalance
