import Rebalance.Proofs.Run.Determined
import Rebalance.Proofs.Run.Storing
import Rebalance.Proofs.Storage.Located

/-!
# A run made again

* `Decided.filed_again`: what a run has written to its files it can write again, without a trace.
* `Decided.again`: on the cluster and the files that a run has left, and with the same answer from
  its node, the same run gets as far again, with the same plans, paths and files.
* `execute_again`: a run that is made again answers the same, prints the same table and changes
  neither the files nor the cluster.
-/

namespace Rebalance
namespace Run

open Command

variable {c : Command} {order : Order} {v : Standing}

/-! ## Writing the files again -/

/-- What a run has written to its files it can write again. -/
theorem Decided.filed_again
    (p : Decided c order v) :
    ∃ u, p.writer.filed c.settings.beforeTemplate p.name p.located.document p.planFiles =
        (.ok p.beforePath, u) ∧
      planFiled p.writer p.name p.plans u = (.ok p.planPath, p.planFiles) := by
  obtain ⟨text, hpath, htext, hstore⟩ := p.toStored.store_eq
  have hdecided : planFiled p.writer p.name p.plans p.files = (.ok p.planPath, p.planFiles) :=
    p.decided
  unfold planFiled at hdecided ⊢
  cases hplan : written? p.plans with
  | none =>
    rw [hplan] at hdecided
    obtain ⟨_, hfiles⟩ := Prod.mk.inj hdecided
    refine ⟨p.planFiles, Writer.filed_ok_iff.mpr ⟨text, hpath, htext, ?_⟩, ?_⟩
    · rw [← hfiles]
      exact store_again hstore
    · exact Prod.ext (Prod.mk.inj hdecided).1 rfl
  | some plan =>
    rw [hplan] at hdecided
    obtain ⟨hr, hfiles⟩ := Prod.mk.inj hdecided
    obtain ⟨planPath, hfiled, hsome⟩ := Failure.map_ok hr
    obtain ⟨planText, hplanPath, hplanText, hplanStore⟩ :=
      Writer.filed_ok_iff.mp (Prod.ext hfiled hfiles)
    have hparent : p.beforePath.parent = planPath.parent :=
      (Writer.parent_of_path hpath).trans (Writer.parent_of_path hplanPath).symm
    obtain ⟨u, hbefore, hafter⟩ := store_both_again hparent hstore hplanStore
    refine ⟨u, Writer.filed_ok_iff.mpr ⟨text, hpath, htext, hbefore⟩, ?_⟩
    have hagain := Writer.filed_ok_iff.mpr ⟨planText, hplanPath, hplanText, hafter⟩
    dsimp only
    rw [hagain, ← hsome]
    rfl

/-! ## A run again -/

/-- A standing in which a run that left another one is made again: the files and the cluster are
those that it left, and the time and the answers of the nodes are those that it had. -/
structure Standing.Again (v u v' : Standing) : Prop where
  files : v'.sight.files = u.sight.files
  cluster : v'.cluster = u.cluster
  now : v'.sight.now = v.sight.now
  answers : ∀ q, (v'.sight.link.send q).1 = (v.sight.link.send q).1

/-- On the cluster and the files that it has left a run gets as far again, with the same plans,
paths and files. -/
theorem Decided.again
    {v' : Standing}
    (p : Decided c order v)
    (hheld : c.loader = .held)
    (hagain : Standing.Again v p.standing v') :
    ∃ p' : Decided c order v', p'.options = p.options ∧ p'.plans = p.plans ∧
      p'.outcome = p.outcome ∧ p'.planFiles = p.planFiles ∧ p'.located = p.located := by
  have hloaded : c.source (p.options.clusterUri <|> c.settings.clusterUri) v' = .ok p.located := by
    have hcluster : v'.cluster = p.located := hagain.cluster
    simp [source, hheld, hcluster]
  have hfound : p.located.find? p.name = some p.place := by
    have hsame : p.located = p.narrowed.withPaths _ :=
      Storage.Cluster.updateNode_located p.map p.there
    rw [hsame, Storage.Cluster.find?_withPaths]
    exact p.found
  have hthere : p.located.nodes[p.place]? = some (p.node.located p.map) :=
    Storage.Cluster.nodes_updateNode_self p.there
  have hanswered : (p.node.located p.map).answer c.settings.client v'.sight.link = .ok p.map := by
    have hanswer : (p.node.located p.map).answer c.settings.client v'.sight.link =
        p.node.answer c.settings.client v.sight.link := by
      unfold Storage.Node.answer
      rw [hagain.answers]
      rfl
    rw [hanswer]
    exact p.answered
  have hlocated : ((p.located.withScope [p.place]).updateNode p.place fun _ =>
      (p.node.located p.map).located p.map) = p.located :=
    Storage.Cluster.updateNode_located_again p.map p.there
  obtain ⟨u, hbefore, hplan⟩ := p.filed_again
  rw [← show v'.sight.files = p.planFiles from hagain.files] at hbefore
  exact p.remake hagain.now hloaded hfound hthere hanswered hlocated hbefore hplan

/-- A run that answered, made again by a command that holds its cluster, with the same order, the
same answers of the nodes and the files that it left, at the same time: it answers the same, prints
the same, and changes neither the files nor the cluster. -/
theorem execute_again
    {c : Command}
    {order : Order}
    {s t s' : Session}
    {r : Outcome}
    (hheld : c.loader = .held)
    (hrun : c.execute order s = (.ok r, t))
    (hagain : Standing.Again s.standing t.standing s'.standing) :
    ∃ t' shown, c.execute order s' = (.ok r, t') ∧
      t'.world.files = t.world.files ∧ t'.cluster = t.cluster ∧
      t.world.texts = s.world.texts ++ shown ∧ t'.world.texts = s'.world.texts ++ shown := by
  obtain ⟨p, text, htable, rfl, ht⟩ := exists_decided_of_execute hrun
  obtain ⟨hfiles, hcluster, htexts⟩ := p.left text
  rw [← ht] at hfiles hcluster htexts
  have hagain' : Standing.Again s.standing p.standing s'.standing :=
    ⟨hagain.files.trans hfiles, hagain.cluster.trans hcluster, hagain.now, hagain.answers⟩
  obtain ⟨p', hoptions, hplans, houtcome, hplanFiles, hlocated⟩ := p.again hheld hagain'
  have htable' : table p'.options p'.plans = .ok text := by
    rw [hoptions, hplans, htable]
  obtain ⟨t', hrun', ht'⟩ := execute_of_decided p' htable'
  obtain ⟨hfiles', hcluster', htexts'⟩ := p'.left text
  rw [← ht'] at hfiles' hcluster' htexts'
  refine ⟨t', text.toList, ?_, ?_, ?_, htexts, htexts'⟩
  · rw [hrun', houtcome]
  · exact hfiles'.trans (hplanFiles.trans hfiles.symm)
  · exact hcluster'.trans (hlocated.trans hcluster.symm)

/-- A run that writes a plan and prints its table, made again with the same answers and the same
time. -/
theorem execute_again_unbalanced :
    let volume (uuid : String) (used : Nat) : Storage.Volume :=
      ⟨uuid, "DISK", 100, used, 0, false, false, false, false, ""⟩
    let now : Time.Moment := ⟨2024, 1, 1, 0, 0, 0, 0, none⟩
    let plan : Move.Plan :=
      ⟨"node-a", "u1", 9867, now, [⟨volume "a" 90, volume "b" 10, 40, "DISK", 0.0, 0, 0, 0⟩]⟩
    let c : Command :=
      ⟨⟨"DiskBalancer", 10.0, .ofString "/system/diskbalancer", "\x7bnode\x7d.before.json",
        "\x7bnode\x7d.plan.json", "DiskBalancerVolumeName", "http", 10, none, none⟩,
        .fixed [plan], .held, 100⟩
    let order : Order :=
      .options ⟨some "node-a", none, some (.ofString "out"), some 5.0, 8, 0, true⟩
    let node : Storage.Node :=
      ⟨"u1", .v4 167772161, 9867, "node-a", 0.0,
        [("DISK", ⟨"DISK", [volume "a" 90, volume "b" 10]⟩)]⟩
    let link : Net.Link := ⟨[.answered 200 "\x7b\"a\": \"/data/a\"\x7d"], []⟩
    let s : Session := ⟨⟨⟨[], []⟩, link, now, []⟩, .init, ⟨[node], []⟩, []⟩
    let again (t : Session) : Session :=
      { t with world := { t.world with link := link, now := now } }
    ∃ r t t' shown, c.execute order s = (.ok r, t) ∧ r.planWritten = true ∧
      c.execute order (again t) = (.ok r, t') ∧ t'.world.files = t.world.files ∧
      t'.cluster = t.cluster ∧ t.world.texts = s.world.texts ++ shown ∧
      t'.world.texts = (again t).world.texts ++ shown := by
  intro volume now plan c order node link s again
  have hwritten : (c.execute order s).1.toOption.map Outcome.planWritten = some true := by
    decide +kernel
  cases h : c.execute order s with
  | mk x t =>
    rw [h] at hwritten
    cases x with
    | error f => cases hwritten
    | ok r =>
      have hagain : Standing.Again s.standing t.standing (again t).standing :=
        ⟨rfl, rfl, rfl, fun _ => rfl⟩
      obtain ⟨t', shown, hrun, hleft⟩ := execute_again rfl h hagain
      exact ⟨r, t, t', shown, rfl, Option.some.inj hwritten, hrun, hleft⟩

end Run
end Rebalance
