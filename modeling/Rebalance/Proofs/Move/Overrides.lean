import Rebalance.Proofs.Move.Objects
import Rebalance.Proofs.Schema.Entries

/-!
# What overrides do to plans

* `Overrides.OfStep`, `Overrides.OfPlan`: a step and a plan beside what overrides make of it.
* `Overrides.eq_apply_iff`: plans with overrides applied are determined by this, one by one.
* `Overrides.apply_apply`: overrides applied one after the other are the later ones, and where these
  are not in force the earlier ones.
* `Heap.Made`: an object that a call has made, with a list and steps that it has made too.
* `overrides_compose`: the same on a heap, where all objects that were there stay as they were.
-/

namespace Rebalance
namespace Move

open Storage

namespace Overrides

/-! ## Steps and plans -/

/-- A step and the one that overrides make of it. -/
structure OfStep (o : Overrides) (s t : Step) : Prop where
  bandwidth : (t.bandwidth : Int) = if 0 < o.bandwidth then o.bandwidth else s.bandwidth
  maxDiskErrors : (t.maxDiskErrors : Int) = if 0 < o.maxErrors then o.maxErrors else s.maxDiskErrors
  rest : t = { s with bandwidth := t.bandwidth, maxDiskErrors := t.maxDiskErrors }

/-- A plan and the one that overrides make of it. -/
structure OfPlan (o : Overrides) (p q : Plan) : Prop where
  steps : List.Forall₂ o.OfStep p.steps q.steps
  rest : q = { p with steps := q.steps }

theorem choose_cast
    (n : Int)
    (own : Nat) :
    (choose n own : Int) = if 0 < n then n else own := by
  unfold choose
  split
  · omega
  · rfl

theorem ofStep_iff
    {o : Overrides}
    {s t : Step} :
    o.OfStep s t ↔ t = o.onStep s := by
  constructor
  · intro h
    have hb : t.bandwidth = choose o.bandwidth s.bandwidth := by
      have := h.bandwidth
      rw [← choose_cast] at this
      omega
    have he : t.maxDiskErrors = choose o.maxErrors s.maxDiskErrors := by
      have := h.maxDiskErrors
      rw [← choose_cast] at this
      omega
    rw [h.rest, hb, he]
    rfl
  · rintro rfl
    exact ⟨choose_cast _ _, choose_cast _ _, rfl⟩

theorem ofPlan_iff
    {o : Overrides}
    {p q : Plan} :
    o.OfPlan p q ↔ q = o.onPlan p := by
  have hstep (s t : Step) : o.OfStep s t ↔ o.onStep s = t := ofStep_iff.trans eq_comm
  have hsteps (ts : List Step) : List.Forall₂ o.OfStep p.steps ts ↔ p.steps.map o.onStep = ts :=
    Schema.forall₂_iff_map_eq hstep
  constructor
  · intro h
    rw [h.rest, ← (hsteps _).mp h.steps]
    rfl
  · rintro rfl
    exact ⟨(hsteps _).mpr rfl, rfl⟩

/-- Plans are others with overrides applied just when each is what they make of its original. -/
theorem eq_apply_iff
    {o : Overrides}
    {ps qs : List Plan} :
    qs = o.apply ps ↔ List.Forall₂ o.OfPlan ps qs := by
  have hplan (p q : Plan) : o.OfPlan p q ↔ o.onPlan p = q := ofPlan_iff.trans eq_comm
  rw [Schema.forall₂_iff_map_eq hplan, eq_comm]
  rfl

/-! ## One after the other -/

/-- Overrides in place of earlier ones: those that are in force, and else the earlier ones. -/
def after (o' o : Overrides) : Overrides :=
  ⟨if 0 < o'.bandwidth then o'.bandwidth else o.bandwidth,
   if 0 < o'.maxErrors then o'.maxErrors else o.maxErrors⟩

theorem choose_choose
    (n n' : Int)
    (own : Nat) :
    choose n' (choose n own) = choose (if 0 < n' then n' else n) own := by
  unfold choose
  split <;> simp_all

theorem onStep_onStep
    (o o' : Overrides)
    (s : Step) :
    o'.onStep (o.onStep s) = (o'.after o).onStep s := by
  simp only [onStep, after, choose_choose]

theorem onPlan_onPlan
    (o o' : Overrides)
    (p : Plan) :
    o'.onPlan (o.onPlan p) = (o'.after o).onPlan p := by
  simp only [onPlan, List.map_map]
  congr 2
  funext s
  exact onStep_onStep o o' s

theorem apply_apply
    (o o' : Overrides)
    (ps : List Plan) :
    o'.apply (o.apply ps) = (o'.after o).apply ps := by
  unfold apply
  rw [List.map_map]
  exact List.map_congr_left fun p _ => onPlan_onPlan o o' p

end Overrides

/-! ## On a heap -/

namespace Heap

/-- Whether a plan on a heap was made after an earlier heap: its object, its list and its steps are
all further ones. -/
structure Made (b g : Heap) (p : Nat) : Prop where
  sound : g.Sound p
  plan : b.plans.count ≤ p
  list : b.lists.count ≤ (g.plans.get p).steps
  steps : ∀ i ∈ g.lists.get (g.plans.get p).steps, b.steps.count ≤ i

/-- Further objects leave a plan made. -/
theorem Made.of_extends
    {b g g' : Heap}
    {p : Nat}
    (hp : b.Made g p)
    (h : g.Extends g') :
    b.Made g' p := by
  have hplan : g'.plans.get p = g.plans.get p := h.plans.get p hp.sound.plan
  have hlist : g'.lists.get (g'.plans.get p).steps = g.lists.get (g.plans.get p).steps := by
    rw [hplan, h.lists.get _ hp.sound.list]
  exact ⟨hp.sound.of_extends h, hp.plan, hplan ▸ hp.list, hlist ▸ hp.steps⟩

/-- Copying objects one after the other makes as many further objects, when copying one makes one.
What is said of the objects made has to last while others are made. -/
theorem copyEach_made
    (Ok New : Heap → Nat → Prop)
    (copy : Heap → Nat → Nat × Heap)
    {b : Heap}
    (hok : ∀ g g' i, Extends g g' → Ok g i → Ok g' i)
    (hnew : ∀ g g' i, Extends g g' → New g i → New g' i)
    (hcopy : ∀ g i, Extends b g → Ok g i →
      Extends g (copy g i).2 ∧ New (copy g i).2 (copy g i).1)
    {g : Heap}
    (hg : Extends b g)
    (is : List Nat)
    (his : ∀ i ∈ is, Ok g i) :
    let made := copyEach copy g is
    Extends g made.2 ∧ made.1.length = is.length ∧ ∀ j ∈ made.1, New made.2 j := by
  induction is generalizing g with
  | nil => exact ⟨Extends.refl g, rfl, by simp [copyEach]⟩
  | cons i rest ih =>
    obtain ⟨hfirst, hmade⟩ := hcopy g i hg (his i List.mem_cons_self)
    obtain ⟨hrest, hlength, hmades⟩ := ih (hg.trans hfirst) fun j hj =>
      hok _ _ j hfirst (his j (List.mem_cons_of_mem i hj))
    refine ⟨hfirst.trans hrest, congrArg (· + 1) hlength, ?_⟩
    intro j hj
    rcases List.mem_cons.mp hj with rfl | hj
    · exact hnew _ _ _ hrest hmade
    · exact hmades j hj

/-- A copy of a plan is made, with its list and its steps. -/
theorem made_copyPlan
    (o : Overrides)
    {b g : Heap}
    (hg : Extends b g)
    {p : Nat}
    (hp : g.Sound p) :
    Extends g (copyPlan o g p).2 ∧ b.Made (copyPlan o g p).2 (copyPlan o g p).1 := by
  obtain ⟨hextends, -, hsteps⟩ := copyEach_made
    (fun g i => i < g.steps.count)
    (fun g i => b.steps.count ≤ i ∧ i < g.steps.count)
    (copyStep o)
    (fun _ _ _ h hi => Nat.lt_of_lt_of_le hi h.steps.count)
    (fun _ _ _ h hi => ⟨hi.1, Nat.lt_of_lt_of_le hi.2 h.steps.count⟩)
    (fun g' i hg' _ => ⟨⟨Cells.extends_add _ _, .refl _, .refl _⟩, hg'.steps.count,
      Nat.lt_succ_self _⟩)
    hg (g.lists.get (g.plans.get p).steps) hp.steps
  have hlater := hg.trans hextends
  unfold copyPlan
  dsimp only
  generalize copyEach (copyStep o) g (g.lists.get (g.plans.get p).steps) = made at *
  obtain ⟨steps, g'⟩ := made
  refine ⟨hextends.trans ⟨.refl _, Cells.extends_add _ _, Cells.extends_add _ _⟩, ?_⟩
  refine ⟨⟨by simp, by simp, ?_⟩, hlater.plans.count, ?_, ?_⟩
  · simpa using fun i hi => (hsteps i hi).2
  · simpa using hlater.lists.count
  · simpa using fun i hi => (hsteps i hi).1

/-- Copies of plans are made, one for each. -/
theorem made_copies
    (o : Overrides)
    (h : Heap)
    (ps : List Nat)
    (hps : ∀ p ∈ ps, h.Sound p) :
    (h.copies o ps).1.length = ps.length ∧ ∀ p ∈ (h.copies o ps).1, h.Made (h.copies o ps).2 p := by
  obtain ⟨-, hlength, hmade⟩ := copyEach_made Sound h.Made (copyPlan o)
    (fun _ _ _ he hp => hp.of_extends he) (fun _ _ _ he hp => hp.of_extends he)
    (fun _ _ hg hp => made_copyPlan o hg hp) (Extends.refl h) ps hps
  exact ⟨hlength, hmade⟩

end Heap

/-- Overrides change two fields of every step of every plan, each by itself, and nothing else, and
overrides one after the other come to one.  On a heap they are applied to copies, whose objects are
all new, while every object that was there stays as it was. -/
theorem overrides_compose
    (o o' : Overrides) :
    (∀ ps qs, qs = o.apply ps ↔ List.Forall₂ o.OfPlan ps qs) ∧
      (∀ ps, o'.apply (o.apply ps) = (o'.after o).apply ps) ∧
      ∀ (h : Heap) (ps : List Nat) (k : Option Cluster), (∀ p ∈ ps, h.Sound p) →
        let made := h.copies o ps
        let again := made.2.copies o' made.1
        made.1.length = ps.length ∧ (∀ p ∈ made.1, h.Made made.2 p) ∧
          made.2.read k made.1 = o.apply (h.read k ps) ∧
          again.2.read k again.1 = (o'.after o).apply (h.read k ps) ∧
          h.Extends made.2 ∧ made.2.read k ps = h.read k ps ∧
          h.Extends again.2 ∧ again.2.read k ps = h.read k ps := by
  refine ⟨fun _ _ => Overrides.eq_apply_iff, Overrides.apply_apply o o', ?_⟩
  intro h ps k hps made again
  obtain ⟨hlength, hmade⟩ := h.made_copies o ps hps
  obtain ⟨hextends, hshown⟩ := h.copies_apply o ps hps k
  obtain ⟨hextends', hshown'⟩ := made.2.copies_apply o' made.1 (fun p hp => (hmade p hp).sound) k
  refine ⟨hlength, hmade, hshown, ?_, hextends, Heap.read_of_extends hextends k hps,
    hextends.trans hextends', Heap.read_of_extends (hextends.trans hextends') k hps⟩
  rw [hshown', hshown, Overrides.apply_apply]

/-- A plan that is listed twice, under a bandwidth and a negative error limit, and then under no
bandwidth and an error limit: each copy has the first bandwidth and the second error limit. -/
theorem overrides_compose_signs :
    let volume (uuid : String) : Volume :=
      ⟨uuid, "DISK", 100, 50, 0, false, false, false, false, ""⟩
    let step : Step := ⟨volume "a", volume "b", 40, "DISK", 0.0, 0, 10, 5⟩
    let h : Heap :=
      ⟨⟨1, fun _ => ⟨step, none, none⟩⟩, ⟨1, fun _ => [0]⟩,
        ⟨1, fun _ => ⟨"node-a", "u1", 9867, ⟨2024, 1, 1, 0, 0, 0, 0, none⟩, 0⟩⟩⟩
    let limits (ps : List Plan) : List (List (Nat × Nat)) :=
      ps.map fun p => p.steps.map fun s => (s.bandwidth, s.maxDiskErrors)
    let made := h.copies ⟨50, -1⟩ [0, 0]
    let again := made.2.copies ⟨0, 2⟩ made.1
    (∀ p ∈ [0, 0], h.Sound p) ∧ again.2.read none again.1 =
        Overrides.apply ⟨50, 2⟩ (h.read none [0, 0]) ∧
      limits (again.2.read none again.1) = [[(50, 2)], [(50, 2)]] ∧
      again.2.read none [0, 0] = h.read none [0, 0] := by
  intro volume step h limits made again
  have hsound : ∀ p ∈ [0, 0], h.Sound p := by
    intro p hp
    obtain rfl : p = 0 := by simpa using hp
    exact ⟨by decide, by decide, by decide⟩
  obtain ⟨-, -, hcopies⟩ := overrides_compose ⟨50, -1⟩ ⟨0, 2⟩
  obtain ⟨-, -, -, hshown, -, -, -, hkept⟩ := hcopies h [0, 0] none hsound
  refine ⟨hsound, hshown, ?_, hkept⟩
  rw [hshown]
  rfl

end Move
end Rebalance
