import Rebalance.Proofs.Run.Ending

/-!
# A run has one end

* `Loaded.eq` to `Decided.eq`: how far a run can get, and with what, is settled by its start.
* `execute_of_decided`, `exists_decided_of_execute`: a run answers when it can decide on its plan
  and print its table, and only then.
* `Decided.remake`: a run gets as far from another start that gives the same node, the same answer
  and the same files.
* `execute_alike`: what a run answers and leaves depends on the files, the cluster, the time and the
  answers of the nodes at its start, and on nothing else of its session.
-/

namespace Rebalance
namespace Run

open Command

variable {c : Command} {order : Order} {v : Standing}

/-! ## How far a run gets -/

theorem Loaded.eq
    (p q : Loaded c order v) :
    p = q := by
  obtain ⟨ho, hname, hload⟩ := q.unique p.settled
  obtain ⟨o, name, k, settled, loaded⟩ := p
  obtain ⟨o', name', k', settled', loaded'⟩ := q
  simp only at ho hname hload loaded
  subst ho hname
  obtain rfl := Except.ok.inj (loaded.symm.trans hload)
  rfl

theorem Found.eq
    (p q : Found c order v) :
    p = q := by
  obtain ⟨p, place, node, found, there⟩ := p
  obtain ⟨q, place', node', found', there'⟩ := q
  obtain rfl := Loaded.eq p q
  have hplace : place = place' := by simpa [found] using found'
  subst hplace
  have hnode : node = node' := by simpa [there] using there'
  subst hnode
  rfl

theorem Annotated.eq
    (p q : Annotated c order v) :
    p = q := by
  obtain ⟨p, m, answered⟩ := p
  obtain ⟨q, m', answered'⟩ := q
  obtain rfl := Found.eq p q
  have hm : m = m' := by simpa [answered] using answered'
  subst hm
  rfl

theorem Planned.eq
    (p q : Planned c order v) :
    p = q := by
  obtain ⟨p, computed, planned⟩ := p
  obtain ⟨q, computed', planned'⟩ := q
  obtain rfl := Annotated.eq p q
  have hcomputed : computed = computed' := by simpa [planned] using planned'
  subst hcomputed
  rfl

theorem Stored.eq
    (p q : Stored c order v) :
    p = q := by
  obtain ⟨p, path, files, stored⟩ := p
  obtain ⟨q, path', files', stored'⟩ := q
  obtain rfl := Planned.eq p q
  obtain ⟨hpath, hfiles⟩ : path = path' ∧ files = files' := by simpa [stored] using stored'
  subst hpath hfiles
  rfl

theorem Decided.eq
    (p q : Decided c order v) :
    p = q := by
  obtain ⟨p, path, files, decided⟩ := p
  obtain ⟨q, path', files', decided'⟩ := q
  obtain rfl := Stored.eq p q
  obtain ⟨hpath, hfiles⟩ : path = path' ∧ files = files' := by simpa [decided] using decided'
  subst hpath hfiles
  rfl

/-! ## How a run ends -/

/-- A run that can decide on its plan, and can print its table, ends with its answer. -/
theorem Ending.of_decided
    {r : Except Failure Outcome}
    {u : Standing}
    (h : Ending c order v r u)
    (p : Decided c order v)
    {text : Option String}
    (htable : table p.options p.plans = .ok text) :
    r = .ok p.outcome ∧ u = (p.standing.reported text).enter .done := by
  cases h with
  | unsettled hs => simp [p.settled] at hs
  | unloaded settled hl =>
    obtain ⟨_, _, hp⟩ := p.toLoaded.unique settled
    rw [hl] at hp
    cases hp
  | unfound q hf =>
    rw [Loaded.eq q p.toLoaded, p.found] at hf
    cases hf
  | unanswered q ha =>
    rw [Found.eq q p.toFound, p.answered] at ha
    cases ha
  | unplanned q hp =>
    obtain rfl := Annotated.eq q p.toAnnotated
    simp [p.planned] at hp
  | unstored q hb =>
    rw [Planned.eq q p.toPlanned, p.stored] at hb
    cases hb
  | undecided q hd =>
    rw [Stored.eq q p.toStored, p.decided] at hd
    cases hd
  | unreported q ht =>
    rw [Decided.eq q p, htable] at ht
    cases ht
  | done q ht =>
    obtain rfl := Decided.eq q p
    rw [htable] at ht
    cases ht
    exact ⟨rfl, rfl⟩

/-- A run that can decide on its plan, and can print its table, answers. -/
theorem execute_of_decided
    {s : Session}
    (p : Decided c order s.standing)
    {text : Option String}
    (htable : table p.options p.plans = .ok text) :
    ∃ t, c.execute order s = (.ok p.outcome, t) ∧
      t.standing = (p.standing.reported text).enter .done := by
  obtain ⟨hr, hu⟩ := (ending_execute c order s).of_decided p htable
  exact ⟨(c.execute order s).2, Prod.ext hr rfl, hu⟩

/-- A run that answers has decided on its plan and printed its table. -/
theorem exists_decided_of_execute
    {s t : Session}
    {r : Outcome}
    (h : c.execute order s = (.ok r, t)) :
    ∃ (p : Decided c order s.standing) (text : Option String),
      table p.options p.plans = .ok text ∧ r = p.outcome ∧
        t.standing = (p.standing.reported text).enter .done := by
  have hending := ending_execute c order s
  rw [h] at hending
  generalize hr : Except.ok r = x at hending
  generalize ht : t.standing = u at hending
  cases hending with
  | @done p text htable =>
    cases hr
    exact ⟨p, text, htable, rfl, rfl⟩
  | _ => cases hr

/-- What a run that has decided on its plan prints, and what it leaves of files and cluster. -/
theorem Decided.left
    (p : Decided c order v)
    (text : Option String) :
    let u := (p.standing.reported text).enter .done
    u.sight.files = p.planFiles ∧ u.cluster = p.located ∧
      u.sight.texts = v.sight.texts ++ text.toList := by
  cases text with
  | none => exact ⟨rfl, rfl, (List.append_nil _).symm⟩
  | some shown => exact ⟨rfl, rfl, rfl⟩

/-! ## The same run from another start -/

/-- A run gets as far from another start, at the same time, that gives a node at the same place, the
same cluster with its paths, and the same files. -/
theorem Decided.remake
    {v' : Standing}
    (p : Decided c order v)
    (hnow : v'.sight.now = v.sight.now)
    {k : Storage.Cluster}
    {node : Storage.Node}
    {u : Files.Tree}
    (hloaded : c.source (p.options.clusterUri <|> c.settings.clusterUri) v' = .ok k)
    (hfound : k.find? p.name = some p.place)
    (hthere : k.nodes[p.place]? = some node)
    (hanswered : node.answer c.settings.client v'.sight.link = .ok p.map)
    (hlocated : ((k.withScope [p.place]).updateNode p.place fun _ => node.located p.map)
      = p.located)
    (hbefore : p.writer.filed c.settings.beforeTemplate p.name p.located.document v'.sight.files =
      (.ok p.beforePath, u))
    (hplan : planFiled p.writer p.name p.plans u = (.ok p.planPath, p.planFiles)) :
    ∃ p' : Decided c order v', p'.options = p.options ∧ p'.plans = p.plans ∧
      p'.outcome = p.outcome ∧ p'.planFiles = p.planFiles ∧ p'.located = p.located := by
  let a : Annotated c order v' :=
    ⟨⟨⟨p.options, p.name, k, p.settled, hloaded⟩, p.place, node, hfound, hthere⟩, p.map, hanswered⟩
  have hplanned : c.planner.plans v'.sight.now a.located a.threshold = .ok p.computed := by
    have hsame : a.located = p.located := hlocated
    rw [hsame, hnow]
    exact p.planned
  let q : Planned c order v' := ⟨a, p.computed, hplanned⟩
  have hfolder : q.folder = p.folder := by
    show c.outputDir v'.sight.now p.options = c.outputDir v.sight.now p.options
    rw [hnow]
  have hstored : q.beforeFiled = (.ok p.beforePath, u) := by
    show (c.writer q.folder).filed _ _ a.located.document v'.sight.files = _
    rw [hfolder, show a.located = p.located from hlocated]
    exact hbefore
  let b : Stored c order v' := ⟨q, p.beforePath, u, hstored⟩
  have hdecided : b.planFiled = (.ok p.planPath, p.planFiles) := by
    show planFiled (c.writer q.folder) _ _ _ = _
    rw [hfolder]
    exact hplan
  refine ⟨⟨b, p.planPath, p.planFiles, hdecided⟩, rfl, rfl, ?_, rfl, hlocated⟩
  show Outcome.mk _ _ q.folder _ _ _ _ = _
  rw [hfolder]
  rfl

/-- Two standings that a run cannot tell apart: the files, the cluster, the time and the answers of
the nodes are the same. -/
structure Standing.Alike (v v' : Standing) : Prop where
  files : v'.sight.files = v.sight.files
  cluster : v'.cluster = v.cluster
  now : v'.sight.now = v.sight.now
  answers : ∀ q, (v'.sight.link.send q).1 = (v.sight.link.send q).1

theorem Standing.Alike.source
    {v' : Standing}
    (h : Standing.Alike v v')
    (uri : Option Files.Path) :
    c.source uri v' = c.source uri v := by
  unfold Command.source
  rw [h.files, h.cluster]

theorem Standing.Alike.answer
    {v' : Standing}
    (h : Standing.Alike v v')
    (n : Storage.Node)
    (client : Net.Client) :
    n.answer client v'.sight.link = n.answer client v.sight.link := by
  unfold Storage.Node.answer
  rw [h.answers]

theorem Decided.alike
    {v' : Standing}
    (p : Decided c order v)
    (h : Standing.Alike v v') :
    ∃ p' : Decided c order v', p'.options = p.options ∧ p'.plans = p.plans ∧
      p'.outcome = p.outcome ∧ p'.planFiles = p.planFiles ∧ p'.located = p.located := by
  refine p.remake h.now ?_ p.found p.there ?_ rfl ?_ p.decided
  · rw [h.source]
    exact p.loaded
  · rw [h.answer]
    exact p.answered
  · rw [h.files]
    exact p.stored

/-- A run that gets as far from another start answers the same and leaves the same files and
cluster. -/
theorem execute_remade
    {s s' t : Session}
    {r : Outcome}
    (h : c.execute order s = (.ok r, t))
    (hremade : ∀ p : Decided c order s.standing, ∃ p' : Decided c order s'.standing,
      p'.options = p.options ∧ p'.plans = p.plans ∧ p'.outcome = p.outcome ∧
        p'.planFiles = p.planFiles ∧ p'.located = p.located) :
    ∃ t', c.execute order s' = (.ok r, t') ∧ t'.world.files = t.world.files ∧
      t'.cluster = t.cluster := by
  obtain ⟨p, text, htable, rfl, ht⟩ := exists_decided_of_execute h
  obtain ⟨hfiles, hcluster, _⟩ := p.left text
  rw [← ht] at hfiles hcluster
  obtain ⟨p', hoptions, hplans, houtcome, hplanFiles, hlocated⟩ := hremade p
  obtain ⟨t', hrun, ht'⟩ := execute_of_decided p' (hoptions ▸ hplans ▸ htable)
  obtain ⟨hfiles', hcluster', _⟩ := p'.left text
  rw [← ht'] at hfiles' hcluster'
  refine ⟨t', ?_, ?_, ?_⟩
  · rw [hrun, houtcome]
  · exact hfiles'.trans (hplanFiles.trans hfiles.symm)
  · exact hcluster'.trans (hlocated.trans hcluster.symm)

/-- What a run answers, and the files and the cluster that it leaves, depend on the files, the
cluster, the time and the answers of the nodes at its start only. -/
theorem execute_alike
    {s s' t : Session}
    {r : Outcome}
    (h : c.execute order s = (.ok r, t))
    (halike : Standing.Alike s.standing s'.standing) :
    ∃ t', c.execute order s' = (.ok r, t') ∧ t'.world.files = t.world.files ∧
      t'.cluster = t.cluster :=
  execute_remade h fun p => p.alike halike

end Run
end Rebalance
