import Rebalance.Move.Overrides
import Rebalance.Storage.Cluster

/-!
# Plans as objects that others hold too

A planner may answer every call with the same objects, so it matters that the overrides are applied
to copies.  A copy of a plan has a list and steps of its own; all else it shares with its original,
also the volumes of its steps, which may be volumes of the cluster.

* `Heap`: the objects there are.  `Heap.plan` is the plan that an object shows.
* `Heap.copies`: copies of plans with the overrides applied.
* `Heap.Extends`: a heap has further objects and else the same ones, and what these show is the same
  (`read_of_extends`).
* `Heap.copies_apply`: copying makes further objects and no more, and the copies show the plans with
  the overrides applied.
-/

namespace Rebalance
namespace Move

open Storage

/-! ## Cells -/

/-- Numbered cells; those from `count` on are not in use. -/
structure Cells (α : Type) where
  count : Nat
  get : Nat → α

namespace Cells

variable {α : Type}

/-- The cells with one more in use. -/
def add (c : Cells α) (a : α) : Cells α :=
  ⟨c.count + 1, fun i => if i = c.count then a else c.get i⟩

/-- Whether cells are others with further ones in use. -/
structure Extends (c d : Cells α) : Prop where
  count : c.count ≤ d.count
  get : ∀ i, i < c.count → d.get i = c.get i

theorem Extends.refl
    (c : Cells α) :
    Extends c c :=
  ⟨Nat.le_refl _, fun _ _ => rfl⟩

theorem Extends.trans
    {c d e : Cells α}
    (h : Extends c d)
    (g : Extends d e) :
    Extends c e := by
  refine ⟨Nat.le_trans h.count g.count, ?_⟩
  intro i hi
  rw [g.get i (Nat.lt_of_lt_of_le hi h.count), h.get i hi]

theorem extends_add
    (c : Cells α)
    (a : α) :
    Extends c (c.add a) := by
  refine ⟨Nat.le_succ _, ?_⟩
  intro i hi
  simp [add, Nat.ne_of_lt hi]

@[simp] theorem count_add
    (c : Cells α)
    (a : α) :
    (c.add a).count = c.count + 1 :=
  rfl

@[simp] theorem get_add_count
    (c : Cells α)
    (a : α) :
    (c.add a).get c.count = a := by
  simp [add]

end Cells

/-! ## Objects -/

/-- Where a volume of a cluster lies: the place of its node, and its own among the volumes of the
node. -/
structure Home where
  place : Nat
  index : Nat

/-- The volume of a cluster at a home. -/
def Home.volume? (k : Cluster) (h : Home) : Option Volume :=
  (k.nodes[h.place]?).bind fun n => n.volumes[h.index]?

/-- A step as an object.  A volume that is one of the cluster's own has a home there. -/
structure StepObject where
  step : Step
  sourceHome : Option Home
  destinationHome : Option Home

/-- A plan as an object; `steps` is the number of its list of steps. -/
structure PlanObject where
  nodeName : String
  nodeUuid : String
  port : Nat
  timestamp : Time.Moment
  steps : Nat

/-- A volume as it is now: as the cluster has it, if it is one of the cluster's own. -/
def current (k : Option Cluster) (home : Option Home) (v : Volume) : Volume :=
  (k.bind fun k => home.bind fun h => h.volume? k).getD v

namespace StepObject

/-- The step that an object shows while a cluster is kept. -/
def shown (k : Option Cluster) (x : StepObject) : Step :=
  { x.step with
    source := current k x.sourceHome x.step.source
    destination := current k x.destinationHome x.step.destination }

/-- A copy with the overrides applied.  It shares its volumes with the original. -/
def overridden (o : Overrides) (x : StepObject) : StepObject :=
  { x with step := o.onStep x.step }

theorem shown_overridden
    (o : Overrides)
    (k : Option Cluster)
    (x : StepObject) :
    (x.overridden o).shown k = o.onStep (x.shown k) :=
  rfl

end StepObject

/-- The objects there are: steps, lists of steps and plans. -/
structure Heap where
  steps : Cells StepObject
  lists : Cells (List Nat)
  plans : Cells PlanObject

namespace Heap

/-- The step that the object of a number shows. -/
def step (h : Heap) (k : Option Cluster) (i : Nat) : Step :=
  (h.steps.get i).shown k

/-- The plan that the object of a number shows. -/
def plan (h : Heap) (k : Option Cluster) (p : Nat) : Plan :=
  let x := h.plans.get p
  ⟨x.nodeName, x.nodeUuid, x.port, x.timestamp, (h.lists.get x.steps).map (h.step k)⟩

/-- The plans that objects show. -/
def read (h : Heap) (k : Option Cluster) (ps : List Nat) : List Plan :=
  ps.map (h.plan k)

/-- Whether a number is that of a plan, with a list and steps, among the objects in use. -/
structure Sound (h : Heap) (p : Nat) : Prop where
  plan : p < h.plans.count
  list : (h.plans.get p).steps < h.lists.count
  steps : ∀ i ∈ h.lists.get (h.plans.get p).steps, i < h.steps.count

/-! ## Copies -/

/-- Copies the objects of some numbers, one after the other. -/
def copyEach (copy : Heap → Nat → Nat × Heap) : Heap → List Nat → List Nat × Heap
  | h, [] => ([], h)
  | h, i :: rest =>
    let (j, h) := copy h i
    let (js, h) := copyEach copy h rest
    (j :: js, h)

/-- Copies a step with the overrides applied. -/
def copyStep (o : Overrides) (h : Heap) (i : Nat) : Nat × Heap :=
  (h.steps.count, { h with steps := h.steps.add ((h.steps.get i).overridden o) })

/-- Copies a plan, its list and its steps, with the overrides applied to the steps. -/
def copyPlan (o : Overrides) (h : Heap) (p : Nat) : Nat × Heap :=
  let x := h.plans.get p
  let (steps, h) := copyEach (copyStep o) h (h.lists.get x.steps)
  (h.plans.count,
    { h with lists := h.lists.add steps, plans := h.plans.add { x with steps := h.lists.count } })

/-- Copies plans with the overrides applied. -/
def copies (o : Overrides) (h : Heap) (ps : List Nat) : List Nat × Heap :=
  copyEach (copyPlan o) h ps

/-! ## Heaps with further objects -/

/-- Whether a heap is another one with further objects. -/
structure Extends (h g : Heap) : Prop where
  steps : h.steps.Extends g.steps
  lists : h.lists.Extends g.lists
  plans : h.plans.Extends g.plans

theorem Extends.refl
    (h : Heap) :
    Extends h h :=
  ⟨.refl _, .refl _, .refl _⟩

theorem Extends.trans
    {a b c : Heap}
    (h : Extends a b)
    (g : Extends b c) :
    Extends a c :=
  ⟨h.steps.trans g.steps, h.lists.trans g.lists, h.plans.trans g.plans⟩

theorem Extends.step
    {h g : Heap}
    (he : Extends h g)
    (k : Option Cluster)
    {i : Nat}
    (hi : i < h.steps.count) :
    g.step k i = h.step k i := by
  rw [Heap.step, he.steps.get i hi, Heap.step]

/-- Further objects leave a plan sound. -/
theorem Sound.of_extends
    {h g : Heap}
    {p : Nat}
    (hp : h.Sound p)
    (he : Extends h g) :
    g.Sound p := by
  have hplan : g.plans.get p = h.plans.get p := he.plans.get p hp.plan
  have hlist : g.lists.get (g.plans.get p).steps = h.lists.get (h.plans.get p).steps := by
    rw [hplan, he.lists.get _ hp.list]
  refine ⟨Nat.lt_of_lt_of_le hp.plan he.plans.count, ?_, ?_⟩
  · rw [hplan]
    exact Nat.lt_of_lt_of_le hp.list he.lists.count
  · rw [hlist]
    intro i hi
    exact Nat.lt_of_lt_of_le (hp.steps i hi) he.steps.count

/-- Further objects leave what a plan shows. -/
theorem Extends.plan
    {h g : Heap}
    (he : Extends h g)
    (k : Option Cluster)
    {p : Nat}
    (hp : h.Sound p) :
    g.plan k p = h.plan k p := by
  have hsteps : (h.lists.get (h.plans.get p).steps).map (g.step k) =
      (h.lists.get (h.plans.get p).steps).map (h.step k) :=
    List.map_congr_left fun i hi => he.step k (hp.steps i hi)
  simp only [Heap.plan, he.plans.get p hp.plan, he.lists.get _ hp.list, hsteps]

/-- Further objects leave what plans show. -/
theorem read_of_extends
    {h g : Heap}
    (he : Extends h g)
    (k : Option Cluster)
    {ps : List Nat}
    (hps : ∀ p ∈ ps, h.Sound p) :
    g.read k ps = h.read k ps :=
  List.map_congr_left fun p hp => he.plan k (hps p hp)

/-! ## What copying does -/

/-- Whether copying one object makes further objects and no more, and the copy shows what the
original shows, with a change. -/
def Copies {β : Type} (Ok : Heap → Nat → Prop) (show_ : Heap → Nat → β) (change : β → β)
    (copy : Heap → Nat → Nat × Heap) : Prop :=
  ∀ h i, Ok h i → Extends h (copy h i).2 ∧ Ok (copy h i).2 (copy h i).1 ∧
    show_ (copy h i).2 (copy h i).1 = change (show_ h i)

/-- Whether further objects leave what an object shows. -/
def Lasts {β : Type} (Ok : Heap → Nat → Prop) (show_ : Heap → Nat → β) : Prop :=
  ∀ h g i, Extends h g → Ok h i → Ok g i ∧ show_ g i = show_ h i

/-- Copying objects one after the other does for each of them what copying one does. -/
theorem copyEach_copies
    {β : Type}
    {Ok : Heap → Nat → Prop}
    {show_ : Heap → Nat → β}
    {change : β → β}
    {copy : Heap → Nat → Nat × Heap}
    (hlasts : Lasts Ok show_)
    (hcopy : Copies Ok show_ change copy)
    (h : Heap)
    (is : List Nat)
    (hok : ∀ i ∈ is, Ok h i) :
    let made := copyEach copy h is
    Extends h made.2 ∧ (∀ j ∈ made.1, Ok made.2 j) ∧
      made.1.map (show_ made.2) = is.map fun i => change (show_ h i) := by
  induction is generalizing h with
  | nil => exact ⟨Extends.refl h, by simp [copyEach], rfl⟩
  | cons i rest ih =>
    obtain ⟨hfirst, hnew, hshown⟩ := hcopy h i (hok i List.mem_cons_self)
    have hrest (j : Nat) (hj : j ∈ rest) : Ok (copy h i).2 j :=
      (hlasts _ _ j hfirst (hok j (List.mem_cons_of_mem i hj))).1
    obtain ⟨hextends, hnews, hshowns⟩ := ih (copy h i).2 hrest
    -- The first copy lasts while the others are made, and those are made of the same originals.
    obtain ⟨hnew', hlast⟩ := hlasts _ _ _ hextends hnew
    refine ⟨hfirst.trans hextends, ?_, ?_⟩
    · intro j hj
      rcases List.mem_cons.mp hj with rfl | hj
      · exact hnew'
      · exact hnews j hj
    · have hsame : (rest.map fun j => change (show_ (copy h i).2 j)) =
          rest.map fun j => change (show_ h j) := by
        refine List.map_congr_left ?_
        intro j hj
        rw [(hlasts _ _ j hfirst (hok j (List.mem_cons_of_mem i hj))).2]
      simp only [copyEach, List.map_cons]
      rw [hlast, hshown, hshowns, hsame]

theorem lasts_step
    (k : Option Cluster) :
    Lasts (fun h i => i < h.steps.count) fun h i => h.step k i :=
  fun _ _ _ he hi => ⟨Nat.lt_of_lt_of_le hi he.steps.count, he.step k hi⟩

theorem lasts_plan
    (k : Option Cluster) :
    Lasts Sound fun h p => h.plan k p :=
  fun _ _ _ he hp => ⟨hp.of_extends he, he.plan k hp⟩

theorem copies_copyStep
    (o : Overrides)
    (k : Option Cluster) :
    Copies (fun h i => i < h.steps.count) (fun h i => h.step k i) o.onStep (copyStep o) := by
  intro h i _
  refine ⟨⟨Cells.extends_add _ _, .refl _, .refl _⟩, Nat.lt_succ_self _, ?_⟩
  simp [copyStep, step, StepObject.shown_overridden]

theorem copies_copyPlan
    (o : Overrides)
    (k : Option Cluster) :
    Copies Sound (fun h p => h.plan k p) o.onPlan (copyPlan o) := by
  intro h p hp
  obtain ⟨hextends, hsteps, hshown⟩ := copyEach_copies (lasts_step k) (copies_copyStep o k) h
    (h.lists.get (h.plans.get p).steps) hp.steps
  unfold copyPlan
  dsimp only
  generalize copyEach (copyStep o) h (h.lists.get (h.plans.get p).steps) = made at *
  obtain ⟨steps, g⟩ := made
  refine ⟨hextends.trans ⟨.refl _, Cells.extends_add _ _, Cells.extends_add _ _⟩, ?_, ?_⟩
  · exact ⟨by simp, by simp, by simpa using hsteps⟩
  · simp only [plan, Cells.get_add_count, Overrides.onPlan, List.map_map]
    exact congrArg (Plan.mk _ _ _ _) hshown

/-- Copying plans makes further objects and no more, and the copies show the plans with the
overrides applied. -/
theorem copies_apply
    (o : Overrides)
    (h : Heap)
    (ps : List Nat)
    (hps : ∀ p ∈ ps, h.Sound p)
    (k : Option Cluster) :
    Extends h (h.copies o ps).2 ∧
      (h.copies o ps).2.read k (h.copies o ps).1 = o.apply (h.read k ps) := by
  obtain ⟨hextends, _, hshown⟩ := copyEach_copies (lasts_plan k) (copies_copyPlan o k) h ps hps
  refine ⟨hextends, hshown.trans ?_⟩
  rw [Overrides.apply, read, List.map_map]
  rfl

end Heap

/-! ## No overrides -/

/-- Overrides that are not in force leave plans as they are. -/
theorem Overrides.apply_none
    (plans : List Plan) :
    Overrides.apply ⟨0, 0⟩ plans = plans := by
  have hstep : Overrides.onStep ⟨0, 0⟩ = id := rfl
  have hplan : Overrides.onPlan ⟨0, 0⟩ = id := by
    funext p
    rw [Overrides.onPlan, hstep, List.map_id]
    rfl
  rw [Overrides.apply, hplan, List.map_id]

end Move
end Rebalance
