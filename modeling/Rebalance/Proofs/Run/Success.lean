import Rebalance.Proofs.Run.Stages

/-!
# What a successful run of the plan command has done

* `pick`: the threshold that a user's percentage and that of the settings come to.
* `Success`: what a run has asked, computed, written and printed when it answers.
* `execute_success`: a run that answers has done all of it.
-/

namespace Rebalance
namespace Run

/-! ## The threshold -/

/-- Whether a number is a percentage above 0 and up to 100. -/
def IsPercentage (x : Float) : Prop :=
  0.0 < x ∧ x ≤ 100.0

instance : DecidablePred IsPercentage :=
  fun x => inferInstanceAs (Decidable (0.0 < x ∧ x ≤ 100.0))

/-- A number, if it is a percentage above 0 and up to 100. -/
def percentage? (x : Float) : Option Float :=
  if IsPercentage x then some x else none

/-- The threshold that a user's percentage and that of the settings come to. -/
def pick (user : Option Float) (standard : Float) : Float :=
  ((user.bind percentage?).or (percentage? standard)).getD 10.0

theorem isPercentage_of_percentage?
    {x y : Float}
    (h : percentage? x = some y) :
    IsPercentage y := by
  unfold percentage? at h
  split at h
  · next hx =>
    cases h
    exact hx
  · cases h

theorem isPercentage_pick
    (user : Option Float)
    (standard : Float) :
    IsPercentage (pick user standard) := by
  unfold pick
  cases hu : user.bind percentage? with
  | some x =>
    obtain ⟨y, _, hy⟩ := Option.bind_eq_some_iff.mp hu
    exact isPercentage_of_percentage? hy
  | none =>
    cases hs : percentage? standard with
    | some x => exact isPercentage_of_percentage? hs
    | none => exact (by decide : IsPercentage 10.0)

theorem filter_isValid_real
    (x : Float) :
    (some (Threshold.Quantity.real x)).filter Threshold.Quantity.isValid =
      (percentage? x).map .real := by
  have hvalid : Threshold.Quantity.isValid (.real x) = decide (IsPercentage x) :=
    (Bool.decide_and _ _).symm
  unfold percentage?
  by_cases h : IsPercentage x
  · rw [if_pos h]
    exact if_pos (hvalid.trans (decide_eq_true h))
  · rw [if_neg h]
    exact if_neg (by rw [hvalid]; simpa using h)

theorem threshold_eq_pick
    (c : Command)
    (o : Options) :
    c.threshold o = pick o.threshold c.settings.threshold := by
  have huser : (o.threshold.map Threshold.Quantity.real).filter Threshold.Quantity.isValid =
      (o.threshold.bind percentage?).map .real := by
    cases o.threshold with
    | none => rfl
    | some x => exact filter_isValid_real x
  unfold Command.threshold Threshold.resolve pick
  rw [huser, filter_isValid_real]
  cases o.threshold.bind percentage? with
  | some x => rfl
  | none =>
    cases percentage? c.settings.threshold with
    | some x => rfl
    | none => rfl

/-! ## Files side by side -/

/-- Whether a path leads to a file with a content.  A device keeps nothing. -/
def Holds (t : Files.Tree) (p : Files.Path) (content : List Nat) : Prop :=
  ∃ l, t.walk p = .ok l ∧ (Files.device? l = none → t.file? l = some content)

theorem ne_up_of_isFileName
    {name : String}
    (h : isFileName name = true) :
    name ≠ ".." := by
  rintro rfl
  exact absurd h (by decide)

section Placed

variable {t u w : Files.Tree} {p q : Files.Path} {x y : List Nat}

theorem Placed.holds
    (h : Placed t p x u) :
    Holds u p x := by
  obtain ⟨l, hl, hw⟩ := h
  refine ⟨l, hl, ?_⟩
  intro hd
  rw [hw.here, if_pos hd]

theorem Placed.keeps
    (h : Placed t p x u) :
    Files.Tree.Keeps t u := by
  obtain ⟨_, _, hw⟩ := h
  exact hw.keeps

/-- A second file in the same folder leaves the first one alone. -/
theorem Placed.holds_after
    {a b : String}
    (h : Placed t (q.child a) x u)
    (g : Placed u (q.child b) y w)
    (ha : isFileName a = true)
    (hb : isFileName b = true)
    (hab : a ≠ b) :
    Holds w (q.child a) x := by
  obtain ⟨l, hl, hx⟩ := h
  obtain ⟨k, hk, hy⟩ := g
  have hne : l ≠ k :=
    Files.Tree.walk_child_ne hy.keeps.working (ne_up_of_isFileName ha) (ne_up_of_isFileName hb) hab
      hl hk
  refine ⟨l, hy.keeps.walk hl, ?_⟩
  intro hd
  rw [hy.elsewhere l hne, hx.here, if_pos hd]

/-- Where a path does not lead, its file changes nothing. -/
theorem Placed.file?_eq
    {l : Files.Location}
    (h : Placed t p x u)
    (hkeeps : Files.Tree.Keeps u w)
    (hl : w.walk p ≠ .ok l) :
    u.file? l = t.file? l := by
  obtain ⟨k, hk, hx⟩ := h
  refine hx.elsewhere l fun hlk => hl ?_
  rw [hlk]
  exact hkeeps.walk hk

end Placed

/-! ## What a run has done -/

/-- What a run has done when it answers: the options and the name it settled, the cluster it loaded,
the node it found and the plans that its planner computed. -/
structure Success (c : Command) (order : Order) (v : Standing) (r : Outcome) (u : Standing)
    (o : Options) (name : String) (k : Storage.Cluster) (node : Storage.Node)
    (computed : List Move.Plan) : Prop where
  settled : order.settle = .ok (o, name)
  loaded : c.source (o.clusterUri <|> c.settings.clusterUri) v = .ok k
  found : k.node? name = some node
  requests : u.sight.link.requests =
    v.sight.link.requests ++ [c.settings.client.request node.address]
  cluster : ∃ place m, k.find? name = some place ∧
    node.answer c.settings.client v.sight.link = .ok m ∧
    u.cluster = (k.withScope [place]).updateNode place fun _ => node.located m
  calls : u.calls = v.calls ++ [r.threshold]
  planned : c.planner.plans v.sight.now u.cluster r.threshold = .ok computed
  threshold : r.threshold = pick o.threshold c.settings.threshold
  percentage : IsPercentage r.threshold
  folder : r.outputDir = c.outputDir v.sight.now o
  before : ∃ file text, Template.format c.room c.settings.beforeTemplate name = .ok file ∧
    r.beforePath = r.outputDir.child file ∧ u.cluster.document = .ok text ∧
    Holds u.sight.files r.beforePath (Text.encode text)
  plans : r.plans = Move.Overrides.apply ⟨o.bandwidth, o.maxError⟩ computed
  written : r.planWritten = r.planPath.isSome
  needed : r.planPath.isSome = true ↔ ∃ plan rest, computed = plan :: rest ∧ plan.steps ≠ []
  plan : ∀ path, r.planPath = some path → ∃ plan file text, r.plans.head? = some plan ∧
    Template.format c.room c.settings.planTemplate name = .ok file ∧ path = r.outputDir.child file ∧
    plan.document = .ok text ∧ Holds u.sight.files path (Text.encode text)
  others : ∀ l, u.sight.files.walk r.beforePath ≠ .ok l →
    (∀ path, r.planPath = some path → u.sight.files.walk path ≠ .ok l) →
    u.sight.files.file? l = v.sight.files.file? l
  texts : if o.verbose = true ∧ ∃ plan ∈ r.plans, plan.steps ≠ [] then
      ∃ table, Move.Table.render? r.plans = some table ∧ u.sight.texts = v.sight.texts ++ [table]
    else u.sight.texts = v.sight.texts
  stage : r.stage = .done ∧ u.stage = .done

variable {c : Command} {order : Order} {v : Standing}

/-! ## Plans and their overrides -/

theorem written?_apply_eq_none_iff
    (x : Move.Overrides)
    (computed : List Move.Plan) :
    Command.written? (x.apply computed) = none ↔
      ¬ ∃ plan rest, computed = plan :: rest ∧ plan.steps ≠ [] := by
  cases computed with
  | nil => simp [Command.written?, Move.Overrides.apply]
  | cons plan rest =>
    simp [Command.written?, Move.Overrides.apply, Move.Overrides.onPlan]

theorem head?_of_written?
    {plans : List Move.Plan}
    {plan : Move.Plan}
    (h : Command.written? plans = some plan) :
    plans.head? = some plan :=
  (Option.filter_eq_some_iff.mp h).1

theorem any_steps_iff
    (plans : List Move.Plan) :
    (plans.any fun p => !p.steps.isEmpty) = true ↔ ∃ plan ∈ plans, plan.steps ≠ [] := by
  simp

/-! ## A run that answers -/

variable {c : Command} {order : Order} {v : Standing}

theorem Decided.before
    (p : Decided c order v)
    (hnames : Template.format c.room c.settings.beforeTemplate p.name ≠
      Template.format c.room c.settings.planTemplate p.name) :
    ∃ file text, Template.format c.room c.settings.beforeTemplate p.name = .ok file ∧
      p.beforePath = p.folder.child file ∧ p.located.document = .ok text ∧
      Holds p.planFiles p.beforePath (Text.encode text) := by
  obtain ⟨file, text, named, single, worded, hpath, placed⟩ := p.toStored.placed
  refine ⟨file, text, named, hpath, worded, ?_⟩
  rw [hpath]
  rcases p.placed with ⟨_, _, hfiles⟩ | ⟨plan, file', text', _, named', single', _, _, placed'⟩
  · rw [hfiles]
    exact placed.holds
  · refine placed.holds_after placed' single single' fun h => hnames ?_
    rw [named, named', h]

theorem Decided.keeps
    (p : Decided c order v) :
    Files.Tree.Keeps p.files p.planFiles := by
  rcases p.placed with ⟨_, _, hfiles⟩ | ⟨_, _, _, _, _, _, _, _, placed⟩
  · rw [hfiles]
    exact Files.Tree.Keeps.refl _
  · exact placed.keeps

theorem Decided.others
    (p : Decided c order v)
    {l : Files.Location}
    (hbefore : p.planFiles.walk p.beforePath ≠ .ok l)
    (hplan : ∀ path, p.planPath = some path → p.planFiles.walk path ≠ .ok l) :
    p.planFiles.file? l = v.sight.files.file? l := by
  obtain ⟨file, text, _, _, _, hpath, placed⟩ := p.toStored.placed
  rw [hpath] at hbefore
  rw [← placed.file?_eq p.keeps hbefore]
  rcases p.placed with ⟨_, _, hfiles⟩ | ⟨_, _, _, _, _, _, _, hsome, placed'⟩
  · rw [hfiles]
  · exact placed'.file?_eq (Files.Tree.Keeps.refl _) (hplan _ hsome)

theorem Decided.needed
    (p : Decided c order v) :
    p.planPath.isSome = true ↔ ∃ plan rest, p.computed = plan :: rest ∧ plan.steps ≠ [] := by
  rcases p.placed with ⟨hnone, hpath, _⟩ | ⟨plan, _, _, hsome, _, _, _, hpath, _⟩
  · rw [hpath]
    exact iff_of_false (by decide) ((written?_apply_eq_none_iff _ _).mp hnone)
  · rw [hpath]
    refine iff_of_true rfl (Classical.byContradiction ?_)
    intro h
    have hnone : Command.written? p.plans = none := (written?_apply_eq_none_iff _ _).mpr h
    rw [hnone] at hsome
    cases hsome

theorem Decided.plan
    (p : Decided c order v)
    {path : Files.Path}
    (h : p.planPath = some path) :
    ∃ plan file text, p.plans.head? = some plan ∧
      Template.format c.room c.settings.planTemplate p.name = .ok file ∧
      path = p.folder.child file ∧
      plan.document = .ok text ∧ Holds p.planFiles path (Text.encode text) := by
  rcases p.placed with ⟨_, hpath, _⟩ | ⟨plan, file, text, hsome, named, _, worded, hpath, placed⟩
  · rw [hpath] at h
    cases h
  · rw [hpath] at h
    cases h
    exact ⟨plan, file, text, head?_of_written? hsome, named, rfl, worded, placed.holds⟩

theorem texts_of_table
    {o : Options}
    {plans : List Move.Plan}
    {text : Option String}
    {u : Standing}
    (h : Command.table o plans = .ok text) :
    if o.verbose = true ∧ ∃ plan ∈ plans, plan.steps ≠ [] then
      ∃ table, Move.Table.render? plans = some table ∧
        ((u.reported text).enter .done).sight.texts = u.sight.texts ++ [table]
    else ((u.reported text).enter .done).sight.texts = u.sight.texts := by
  have hiff : (o.verbose && plans.any fun p => !p.steps.isEmpty) = true ↔
      o.verbose = true ∧ ∃ plan ∈ plans, plan.steps ≠ [] := by
    rw [Bool.and_eq_true, any_steps_iff]
  unfold Command.table at h
  split at h
  · next hasked =>
    rw [if_pos (hiff.mp hasked)]
    split at h
    · next table htable =>
      cases h
      exact ⟨table, htable, rfl⟩
    · cases h
  · next hasked =>
    rw [if_neg fun hn => hasked (hiff.mpr hn)]
    cases h
    rfl

/-- A run that answers has done all of it. -/
theorem Decided.success
    (p : Decided c order v)
    (hnames : Template.format c.room c.settings.beforeTemplate p.name ≠
      Template.format c.room c.settings.planTemplate p.name)
    {text : Option String}
    (h : Command.table p.options p.plans = .ok text) :
    Success c order v p.outcome ((p.standing.reported text).enter .done) p.options p.name p.cluster
      p.node p.computed where
  settled := p.settled
  loaded := p.loaded
  found := Storage.Cluster.node?_of_find? p.found p.there
  requests := by
    cases text <;> exact Net.Link.send_requests _ _
  cluster := by
    refine ⟨p.place, p.map, p.found, p.answered, ?_⟩
    cases text <;> rfl
  calls := by
    cases text <;> rfl
  planned := by
    cases text <;> exact p.planned
  threshold := threshold_eq_pick c p.options
  percentage := by
    show IsPercentage (c.threshold p.options)
    rw [threshold_eq_pick]
    exact isPercentage_pick _ _
  folder := rfl
  before := by
    cases text <;> exact p.before hnames
  plans := rfl
  written := rfl
  needed := p.needed
  plan := by
    cases text <;> exact fun _ => p.plan
  others := by
    intro l hbefore hplan
    cases text <;> exact p.others hbefore hplan
  texts := texts_of_table h
  stage := ⟨rfl, rfl⟩

/-- A run that answers, and whose files have two names, has asked its node once, called its planner
once with a percentage, written the cluster with its paths and the plan if one is needed, and
printed the table if there is one to print. -/
theorem execute_success
    {c : Command}
    {order : Order}
    {s t : Session}
    {r : Outcome}
    (h : c.execute order s = (.ok r, t))
    (hnames : ∀ o name, order.settle = .ok (o, name) →
      Template.format c.room c.settings.beforeTemplate name ≠
        Template.format c.room c.settings.planTemplate name) :
    ∃ o name k node computed,
      Success c order s.standing r t.standing o name k node computed := by
  have hending := ending_execute c order s
  rw [h] at hending
  dsimp only at hending
  generalize t.standing = u at hending ⊢
  generalize hr : Except.ok r = x at hending
  cases hending with
  | @done p text htable =>
    cases hr
    exact ⟨_, _, _, _, _, p.success (hnames _ _ p.settled) htable⟩
  | _ => cases hr

/-- A run on a node with a full volume and an empty one, whose path the node gives: the plan is
written and the table is printed. -/
theorem execute_success_unbalanced :
    let c : Command :=
      ⟨⟨"DiskBalancer", 10.0, .ofString "/system/diskbalancer", "\x7bnode\x7d.before.json",
        "\x7bnode\x7d.plan.json", "DiskBalancerVolumeName", "http", 10, none, none⟩,
        .widestGap, .held, 100⟩
    let order : Order := .options ⟨some "node-a", none, none, none, 5, 0, true⟩
    let volume (uuid : String) (used : Nat) : Storage.Volume :=
      ⟨uuid, "D", 100, used, 0, false, false, false, false, ""⟩
    let node : Storage.Node :=
      ⟨"u1", .v4 167772161, 9867, "node-a", 0.0, [("D", ⟨"D", [volume "a" 90, volume "b" 0]⟩)]⟩
    let s : Session :=
      ⟨⟨⟨[], []⟩, ⟨[.answered 200 "\x7b\"b\": \"/b\"\x7d"], []⟩,
        ⟨2024, 1, 1, 0, 0, 0, 0, none⟩, []⟩,
        .init, ⟨[node], []⟩, []⟩
    ∃ r t, c.execute order s = (.ok r, t) ∧ r.planWritten = true ∧ t.world.texts.length = 1 ∧
      ∃ o name k node computed, Success c order s.standing r t.standing o name k node computed := by
  intro c order volume node s
  have hnames : ∀ o name, order.settle = .ok (o, name) →
      Template.format c.room c.settings.beforeTemplate name ≠
        Template.format c.room c.settings.planTemplate name := by
    intro o name h
    have hname : name = "node-a" := (Prod.mk.inj (Except.ok.inj h)).2.symm
    subst hname
    intro heq
    exact absurd (congrArg Except.toOption heq) (by decide +kernel)
  have hrun : (((c.execute order s).1.toOption.map Outcome.planWritten),
      (c.execute order s).2.world.texts.length) = (some true, 1) := by
    decide +kernel
  obtain ⟨hwritten, htexts⟩ := Prod.mk.inj hrun
  cases h : c.execute order s with
  | mk x t =>
    rw [h] at hwritten htexts
    cases x with
    | error f => cases hwritten
    | ok r => exact ⟨r, t, rfl, Option.some.inj hwritten, htexts, execute_success h hnames⟩

end Run
end Rebalance
