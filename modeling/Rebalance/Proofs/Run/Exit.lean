import Rebalance.Proofs.Run.Determined
import Rebalance.Proofs.Run.Storing
import Rebalance.Proofs.Run.Success
import Rebalance.Run.Program

/-!
# What the exit of the program tells of the files

* `Tree.Spares`: a location where a change to a tree makes at most a folder.
* `Ending.spares`: a run of the plan command that fails, other than in its table, spares every
  location but that of the cluster's file.
* `Program.Request`: what the program is asked for when it gets as far as choosing a planner.
* `Program.Tells`: what the end of a run tells of the files.  A normal return tells that the run
  did all of its work with the planner that was chosen (`Program.Request.Completes`), code 1 that
  at most the file of the cluster was written, and a command line that cannot be read touches
  nothing.
* `Program.exit_status`: every run tells this, whatever way of choosing a planner it has that spares
  the files, and so do the runs whose planner the settings name.
-/

namespace Rebalance

/-! ## Locations that are spared -/

namespace Files.Tree

/-- Whether a location holds in one tree what it holds in another, or a folder where nothing was. -/
def Spares (t u : Tree) (l : Location) : Prop :=
  u.entry? l = t.entry? l ∨ t.entry? l = none ∧ u.entry? l = some .folder

theorem Spares.refl
    (t : Tree)
    (l : Location) :
    Spares t t l :=
  .inl rfl

theorem Spares.trans
    {t u w : Tree}
    {l : Location}
    (h : Spares t u l)
    (g : Spares u w l) :
    Spares t w l := by
  rcases g with hg | ⟨hnone, hfolder⟩
  · unfold Spares at h ⊢
    rw [hg]
    exact h
  · rcases h with hh | ⟨_, hh⟩
    · exact .inr ⟨hh ▸ hnone, hfolder⟩
    · rw [hh] at hnone
      cases hnone

theorem Grows.spares
    {t u : Tree}
    (h : Grows t u)
    (l : Location) :
    Spares t u l :=
  h.entry l

/-- A content that is put somewhere spares every other location. -/
theorem Accepts.spares
    {t : Tree}
    {k l : Location}
    {content : List Nat}
    (h : t.Accepts k content)
    (hne : k ≠ l) :
    Spares t (t.put k content) l := by
  unfold Spares
  rw [h.entry?_put]
  simp [hne]

/-- A location that is spared holds the same regular file, or none. -/
theorem Spares.file?
    {t u : Tree}
    {l : Location}
    (h : Spares t u l) :
    u.file? l = t.file? l := by
  unfold Tree.file?
  rcases h with he | ⟨hnone, hfolder⟩
  · rw [he]
  · rw [hnone, hfolder]

end Files.Tree

namespace Run

open Files
open Command

variable {c : Command} {order : Order} {v u : Standing}

/-! ## A run of the plan command that fails -/

theorem table_error
    {o : Options}
    {plans : List Move.Plan}
    {f : Failure}
    (h : table o plans = .error f) :
    f = .sizeTooLarge := by
  unfold table at h
  split at h
  · split at h
    · cases h
    · cases h
      rfl
  · cases h

/-- A run that has written its cluster spares every location but that of the file. -/
theorem Stored.spares
    (p : Stored c order v)
    {t : Tree}
    (hkeeps : Tree.Keeps p.files t)
    {l : Location}
    (hl : t.walk p.beforePath ≠ .ok l) :
    Tree.Spares v.sight.files p.files l := by
  obtain ⟨text, _, _, hstore⟩ := p.store_eq
  obtain ⟨w, k, hmade, hready, hfiles⟩ := ready_of_store hstore
  have hgrows := Tree.grows_makeFolders v.sight.files p.beforePath.parent
  rw [hmade] at hgrows
  have hkept : Tree.Keeps w p.files := hfiles ▸ hready.accepts.keeps
  have hne : k ≠ l := by
    rintro rfl
    exact hl (hkeeps.walk (hkept.walk hready.leads))
  rw [hfiles]
  exact (hgrows.spares l).trans (hready.accepts.spares hne)

/-- A run that fails, other than in its table, spares every location but that of the cluster's
file. -/
theorem Ending.spares
    {f : Failure}
    (h : Ending c order v (.error f) u)
    (hf : f ≠ .sizeTooLarge)
    {l : Location}
    (hl : ∀ o name p, order.settle = .ok (o, name) →
      (c.writer (c.outputDir v.sight.now o)).path c.settings.beforeTemplate name = .ok p →
      u.sight.files.walk p ≠ .ok l) :
    Tree.Spares v.sight.files u.sight.files l := by
  cases h with
  | unsettled _ => exact .refl _ _
  | unloaded _ _ => exact .refl _ _
  | unfound _ _ => exact .refl _ _
  | unanswered _ _ => exact .refl _ _
  | unplanned _ _ => exact .refl _ _
  | unstored p hbefore => exact (p.refused hbefore).2.spares l
  | undecided p hplan =>
    obtain ⟨_, hgrows⟩ := p.refused hplan
    obtain ⟨_, hpath, _⟩ := p.store_eq
    exact (p.spares hgrows.keeps (hl _ _ _ p.settled hpath)).trans (hgrows.spares l)
  | unreported p htable => exact absurd (table_error htable) hf

namespace Program

/-! ## The program around the plan command -/

/-- Whether choosing a planner leaves the files alone. -/
def Chooser.SparesFiles (choose : Chooser) : Prop :=
  ∀ s w, (choose s w).2.files = w.files

/-- Whether choosing a planner leaves the world alone, but for what it logs and prints. -/
def Chooser.OnlyTells (choose : Chooser) : Prop :=
  ∀ s w, ∃ events, (choose s w).2 = { w with events := events }

theorem Chooser.OnlyTells.sparesFiles
    {choose : Chooser}
    (h : choose.OnlyTells) :
    choose.SparesFiles := by
  intro s w
  obtain ⟨events, hworld⟩ := h s w
  rw [hworld]

/-- The planner that settings name is chosen without touching anything. -/
theorem onlyTells_choosePlanner :
    Chooser.OnlyTells choosePlanner := by
  intro s w
  unfold choosePlanner
  cases s.planner with
  | none => exact ⟨_, rfl⟩
  | some t => cases t <;> exact ⟨_, rfl⟩

theorem orLeave_files
    (x : Act World Unit)
    (w : World) :
    (orLeave x w).2.files = (x w).2.files := by
  unfold orLeave
  split
  · next h => rw [h]
  · next h =>
    rw [h]
    split <;> rfl

theorem orLeave_ok
    {x : Act World Unit}
    {w : World}
    (h : (orLeave x w).1 = .ok ()) :
    (x w).1 = .ok () ∧ (orLeave x w).2 = (x w).2 := by
  unfold orLeave at h ⊢
  split at h
  · next hx =>
    rw [hx]
    exact ⟨rfl, rfl⟩
  · split at h <;> cases h

/-- Code 1 tells of a failure, and of another one than that of a table. -/
theorem orLeave_exit
    {x : Act World Unit}
    {w : World}
    (h : (orLeave x w).1 = .error (.exit 1)) :
    ∃ f, (x w).1 = .error f ∧ f ≠ .sizeTooLarge := by
  unfold orLeave at h
  split at h
  · cases h
  · next f _ hx =>
    refine ⟨f, by rw [hx], ?_⟩
    rintro rfl
    cases h

/-- What the program is asked for: the arguments, the settings, the options and the name of the
node. -/
structure Request (words : List String) (environment : List (String × String)) (w : World) where
  arguments : Arguments
  settings : Settings
  options : Options
  name : String
  read : Arguments.read words = .ok arguments
  loaded : Settings.load w.files environment [] = .ok settings
  parsed : Options.parse arguments.entries = .ok options
  named : options.target = .ok name

namespace Request

variable {words : List String} {environment : List (String × String)} {w : World}

theorem eq
    (p q : Request words environment w) :
    p = q := by
  obtain ⟨a, s, o, name, read, loaded, parsed, named⟩ := p
  obtain ⟨a', s', o', name', read', loaded', parsed', named'⟩ := q
  obtain rfl := Except.ok.inj (read.symm.trans read')
  obtain rfl := Except.ok.inj (loaded.symm.trans loaded')
  obtain rfl := Except.ok.inj (parsed.symm.trans parsed')
  obtain rfl := Except.ok.inj (named.symm.trans named')
  rfl

/-- The plan command with a planner. -/
def command (q : Request words environment w) (room : Nat) (planner : Move.Planner) : Command :=
  ⟨q.settings, planner, .snapshot, room⟩

/-- The world in which the plan command is run: the program's, after a planner was chosen. -/
def begun (q : Request words environment w) (choose : Chooser) : World :=
  (choose q.settings { w with events := [] }).2

/-- The writer of the files, in the folder for them. -/
def writer (q : Request words environment w) (room : Nat) (choose : Chooser) : Writer :=
  let c := q.command room (.fixed [])
  c.writer (c.outputDir (q.begun choose).now q.options)

/-- Whether a path is that of the cluster's file. -/
def IsBefore (q : Request words environment w) (room : Nat) (choose : Chooser) (p : Path) :
    Prop :=
  (q.writer room choose).path q.settings.beforeTemplate q.name = .ok p

/-- Whether a path is that of the plan's file. -/
def IsPlan (q : Request words environment w) (room : Nat) (choose : Chooser) (p : Path) : Prop :=
  (q.writer room choose).path q.settings.planTemplate q.name = .ok p

/-- Whether the templates do not name one file for both. -/
def AreApart (q : Request words environment w) (room : Nat) : Prop :=
  ∀ file, Template.format room q.settings.beforeTemplate q.name = .ok file →
    Template.format room q.settings.planTemplate q.name ≠ .ok file

/-- Files with two names lie at two places. -/
theorem walk_ne
    {q : Request words environment w}
    {room : Nat}
    (hapart : q.AreApart room)
    {choose : Chooser}
    {p p' : Path}
    (hp : q.IsBefore room choose p)
    (hp' : q.IsPlan room choose p')
    {t : Tree}
    {l : Location}
    (hl : t.walk p' = .ok l) :
    t.walk p ≠ .ok l := by
  rcases Writer.path_cases (q.writer room choose) q.settings.beforeTemplate q.name with
    ⟨f, hf, _⟩ | ⟨file, hfile, hsingle, hpath⟩
  · rw [IsBefore, hf] at hp
    cases hp
  · rcases Writer.path_cases (q.writer room choose) q.settings.planTemplate q.name with
      ⟨f, hf, _⟩ | ⟨file', hfile', hsingle', hpath'⟩
    · rw [IsPlan, hf] at hp'
      cases hp'
    · rw [IsBefore, hpath] at hp
      rw [IsPlan, hpath'] at hp'
      cases hp
      cases hp'
      have hne : file ≠ file' := fun h => hapart file hfile (h ▸ hfile')
      intro hk
      exact Tree.walk_child_ne rfl (ne_up_of_isFileName hsingle) (ne_up_of_isFileName hsingle')
        hne hk hl rfl

end Request

/-- Whether a run of the program has done all of its work and left a world: a planner was chosen,
and the plan command, run with that planner in the world that the choosing left, has done all of
its work and left that world. -/
def Request.Completes
    {words : List String}
    {environment : List (String × String)}
    {w : World}
    (q : Request words environment w)
    (room : Nat)
    (choose : Chooser)
    (u : World) : Prop :=
  ∃ (planner : Move.Planner) (r : Outcome) (s : Session) (k : Storage.Cluster)
      (node : Storage.Node) (computed : List Move.Plan),
    (choose q.settings { w with events := [] }).1 = .ok planner ∧ s.world = u ∧
    Success (q.command room planner) (.options q.options)
      (Session.standing ⟨q.begun choose, .init, .empty, []⟩) r s.standing q.options q.name k node
      computed

/-- What the end of a run tells of the files.  A normal return tells that the run has done all of
its work.  Code 1 tells that at most the file of the cluster was written and at most folders were
made, also at the place of the plan's file.  A command line that cannot be read ends with code 0 or
2; the world is as it was, and no planner is asked for. -/
structure Tells (room : Nat) (choose : Chooser) (stamp : String) (words : List String)
    (environment : List (String × String)) (w : World) (e : Ending) : Prop where
  completed : e.result = .ok () →
    ∃ q : Request words environment w, q.Completes room choose e.world
  spared : e.result = .error (.exit 1) → ∀ l,
    (∀ (q : Request words environment w) p, q.IsBefore room choose p →
      e.world.files.walk p ≠ .ok l) →
      Tree.Spares w.files e.world.files l
  unplanned : e.result = .error (.exit 1) → ∀ (q : Request words environment w) p l,
    q.IsPlan room choose p → e.world.files.walk p = .ok l → Tree.Spares w.files e.world.files l
  unread : ∀ f, Arguments.read words = .error f →
    (e.result = .error (.exit 0) ∨ e.result = .error (.exit 2)) ∧ e.world = w ∧
      ∀ choose', runBy room choose' stamp words environment w = e

/-! ## Requests and codes, computed -/

/-- The code that the program leaves with, if it leaves. -/
def exitCode? : Except Failure Unit → Option Nat
  | .error (.exit n) => some n
  | _ => none

theorem exitCode?_eq_some
    {r : Except Failure Unit}
    {n : Nat}
    (h : exitCode? r = some n) :
    r = .error (.exit n) := by
  unfold exitCode? at h
  split at h
  · cases h
    rfl
  · cases h

/-- The settings, the options and the name of the node that the program is asked for, if it gets as
far as that. -/
def asked? (words : List String) (environment : List (String × String)) (w : World) :
    Option (Settings × Options × String) := do
  let a ← (Arguments.read words).toOption
  let s ← (Settings.load w.files environment []).toOption
  let o ← (Options.parse a.entries).toOption
  let name ← o.target.toOption
  return (s, o, name)

/-- The names that the two templates of some settings give for a node. -/
def fileNames (room : Nat) (s : Settings) (name : String) : Option String × Option String :=
  ((Template.format room s.beforeTemplate name).toOption,
    (Template.format room s.planTemplate name).toOption)

theorem asked?_eq_some_iff
    {words : List String}
    {environment : List (String × String)}
    {w : World}
    {s : Settings}
    {o : Options}
    {name : String} :
    asked? words environment w = some (s, o, name) ↔
      ∃ q : Request words environment w, q.settings = s ∧ q.options = o ∧ q.name = name := by
  simp only [asked?, Option.bind_eq_bind, Option.bind_eq_some_iff, toOption_eq_some_iff,
    Option.pure_def, Option.some.injEq, Prod.mk.injEq]
  constructor
  · rintro ⟨a, hread, s, hload, o, hparse, name, hname, rfl, rfl, rfl⟩
    exact ⟨⟨a, s, o, name, hread, hload, hparse, hname⟩, rfl, rfl, rfl⟩
  · rintro ⟨q, rfl, rfl, rfl⟩
    exact ⟨_, q.read, _, q.loaded, _, q.parsed, _, q.named, rfl, rfl, rfl⟩

theorem Request.apart_of_names
    {room : Nat}
    {words : List String}
    {environment : List (String × String)}
    {w : World}
    {q : Request words environment w}
    {a b : String}
    (h : fileNames room q.settings q.name = (some a, some b))
    (hne : a ≠ b) :
    q.AreApart room := by
  obtain ⟨hbefore, hplan⟩ := Prod.mk.inj h
  intro file hfile hfile'
  rw [hfile] at hbefore
  rw [hfile'] at hplan
  exact hne ((Option.some.inj hbefore).symm.trans (Option.some.inj hplan))

/-! ## The parts of the program -/

/-- The runs of the program that get as far as their options: where a planner is chosen, the plan
command is run with it. -/
theorem plan_cases
    (room : Nat)
    (choose : Chooser)
    (s : Settings)
    (a : Arguments)
    (w : World) :
    (∃ f, (plan room choose s a w).1 = .error f ∧
        ((plan room choose s a w).2 = w ∨ (plan room choose s a w).2 = (choose s w).2)) ∨
      ∃ o planner, Options.parse a.entries = .ok o ∧ (choose s w).1 = .ok planner ∧
        plan room choose s a w = planWith room s o planner (choose s w).2 := by
  unfold plan
  cases hparse : Options.parse a.entries with
  | error f => exact .inl ⟨f, rfl, .inl rfl⟩
  | ok o =>
    have hparsed : Act.ofExcept (.ok o) w = (.ok o, w) := rfl
    cases hchoose : choose s w with
    | mk r u =>
      cases r with
      | error f =>
        refine .inl ⟨f, ?_⟩
        rw [Act.andThen_ok hparsed, Act.andThen_error hchoose]
        exact ⟨rfl, .inr rfl⟩
      | ok planner =>
        refine .inr ⟨o, planner, rfl, rfl, ?_⟩
        rw [Act.andThen_ok hparsed, Act.andThen_ok hchoose]

/-- How the program ends: it cannot read its command line, it fails before it chooses a planner, or
it plans. -/
theorem runBy_cases
    (room : Nat)
    (choose : Chooser)
    (stamp : String)
    (words : List String)
    (environment : List (String × String))
    (w : World) :
    let e := runBy room choose stamp words environment w
    (∃ f, Arguments.read words = .error f ∧
        (e.result = .error (.exit 0) ∨ e.result = .error (.exit 2)) ∧ e.world = w ∧
        ∀ choose', runBy room choose' stamp words environment w = e) ∨
      (∃ a, Arguments.read words = .ok a) ∧ ((∃ f, e.result = .error f ∧ e.world = w) ∨
        ∃ a s, Arguments.read words = .ok a ∧ Settings.load w.files environment [] = .ok s ∧
          e.result = (orLeave (plan room choose s a) { w with events := [] }).1 ∧
          e.world = (orLeave (plan room choose s a) { w with events := [] }).2) := by
  intro e
  cases hread : Arguments.read words with
  | error f =>
    refine .inl ⟨f, rfl, ?_⟩
    cases f with
    | help => simp [e, runBy, hread]
    | misuse m => simp [e, runBy, hread]
  | ok a =>
    refine .inr ⟨⟨a, rfl⟩, ?_⟩
    cases hlevel : a.logLevel with
    | nothing => exact .inl ⟨.noLevel, by simp [e, runBy, hread, hlevel]⟩
    | value level =>
      have he : e = withArguments room choose stamp a level environment w := by
        simp [e, runBy, hread, hlevel]
      unfold withArguments at he
      dsimp only at he
      cases hload : Settings.load w.files environment [] with
      | error f =>
        rw [hload] at he
        exact .inl ⟨f, by simp [he]⟩
      | ok s =>
        rw [hload] at he
        dsimp only at he
        split at he
        · next f _ _ => exact .inl ⟨f, by simp [he]⟩
        · exact .inr ⟨a, s, rfl, rfl, by rw [he], by rw [he]⟩

/-! ## What the exit tells -/

/-- A run that returns normally has done all of its work. -/
theorem completes_of_plan
    {room : Nat}
    {choose : Chooser}
    {words : List String}
    {environment : List (String × String)}
    {w : World}
    (hnames : ∀ q : Request words environment w, q.AreApart room)
    {a : Arguments}
    {s : Settings}
    (hread : Arguments.read words = .ok a)
    (hload : Settings.load w.files environment [] = .ok s)
    (h : (plan room choose s a { w with events := [] }).1 = .ok ()) :
    ∃ q : Request words environment w,
      q.Completes room choose (plan room choose s a { w with events := [] }).2 := by
  obtain ⟨f, hf, _⟩ | ⟨o, planner, hparse, hchosen, hplan⟩ :=
    plan_cases room choose s a { w with events := [] }
  · rw [hf] at h
    cases h
  · obtain ⟨name, hname⟩ := Order.target_of_parse hparse
    let q : Request words environment w := ⟨a, s, o, name, hread, hload, hparse, hname⟩
    rw [hplan] at h ⊢
    unfold planWith at h ⊢
    dsimp only at h ⊢
    split at h
    · next r t hrun =>
      obtain ⟨p, shown, htable, rfl, ht⟩ := exists_decided_of_execute hrun
      obtain ⟨ho, hn, _⟩ := p.toLoaded.unique (Order.settle_of_target hname)
      have hdiffer : Template.format room s.beforeTemplate p.name ≠
          Template.format room s.planTemplate p.name := by
        obtain ⟨file, _, hfile, _⟩ := p.toStored.placed
        rw [hn] at hfile ⊢
        exact fun heq => hnames q file hfile (heq ▸ hfile)
      have hsuccess := p.success hdiffer htable
      rw [ho, hn, ← ht] at hsuccess
      exact ⟨q, planner, _, t, _, _, _, hchosen, rfl, hsuccess⟩
    · cases h

/-- A run that leaves with code 1 spares every location but that of the cluster's file. -/
theorem spares_of_plan
    {room : Nat}
    {choose : Chooser}
    (hchoose : choose.SparesFiles)
    {words : List String}
    {environment : List (String × String)}
    {w : World}
    {a : Arguments}
    {s : Settings}
    (hread : Arguments.read words = .ok a)
    (hload : Settings.load w.files environment [] = .ok s)
    {f : Failure}
    (h : (plan room choose s a { w with events := [] }).1 = .error f)
    (hf : f ≠ .sizeTooLarge)
    {l : Location}
    (hl : ∀ (q : Request words environment w) p, q.IsBefore room choose p →
      (plan room choose s a { w with events := [] }).2.files.walk p ≠ .ok l) :
    Tree.Spares w.files (plan room choose s a { w with events := [] }).2.files l := by
  have hfiles := hchoose s { w with events := [] }
  obtain ⟨_, _, hworld | hworld⟩ | ⟨o, planner, hparse, _, hplan⟩ :=
    plan_cases room choose s a { w with events := [] }
  · rw [hworld]
    exact .refl _ _
  · rw [hworld]
    exact .inl (congrArg (fun t => Tree.entry? t l) hfiles)
  · obtain ⟨name, hname⟩ := Order.target_of_parse hparse
    let q : Request words environment w := ⟨a, s, o, name, hread, hload, hparse, hname⟩
    rw [hplan] at h hl ⊢
    unfold planWith at h hl ⊢
    dsimp only at h hl ⊢
    have hending := ending_execute ⟨s, planner, .snapshot, room⟩ (.options o)
      ⟨(choose s { w with events := [] }).2, .init, .empty, []⟩
    split at h
    · cases h
    · next g t hrun =>
      cases h
      rw [hrun] at hending hl
      dsimp only at hending hl ⊢
      rw [← show (choose s { w with events := [] }).2.files = w.files from hfiles]
      refine hending.spares hf ?_
      intro o' name' p hsettle hp
      rw [Order.settle_of_target hname] at hsettle
      cases hsettle
      exact hl q p hp

/-- A run with a way to choose its planner that spares the files, when the templates do not name one
file for both. -/
theorem tells_runBy
    {room : Nat}
    {choose : Chooser}
    (hchoose : choose.SparesFiles)
    (stamp : String)
    {words : List String}
    {environment : List (String × String)}
    {w : World}
    (hnames : ∀ q : Request words environment w, q.AreApart room) :
    Tells room choose stamp words environment w (runBy room choose stamp words environment w) := by
  generalize he : runBy room choose stamp words environment w = e
  have hcases := runBy_cases room choose stamp words environment w
  rw [he] at hcases
  -- What code 1 says of the plan's file follows from what it says of all locations.
  suffices hspared : e.result = .error (.exit 1) → ∀ l,
      (∀ (q : Request words environment w) p, q.IsBefore room choose p →
        e.world.files.walk p ≠ .ok l) →
        Tree.Spares w.files e.world.files l by
    refine ⟨?_, hspared, ?_, ?_⟩
    · intro h
      obtain ⟨f, _, hresult | hresult, _⟩ |
        ⟨_, ⟨f, hf, _⟩ | ⟨a, s, hread, hload, hresult, hworld⟩⟩ := hcases
      · cases h.symm.trans hresult
      · cases h.symm.trans hresult
      · cases h.symm.trans hf
      · obtain ⟨hplan, hsame⟩ := orLeave_ok (hresult.symm.trans h)
        rw [show e.world = _ from hworld.trans hsame]
        exact completes_of_plan hnames hread hload hplan
    · intro h q p l hp hl
      refine hspared h l ?_
      intro q' p' hp'
      obtain rfl := Request.eq q q'
      exact Request.walk_ne (hnames q) hp' hp hl
    · intro f hf
      obtain ⟨_, _, hend⟩ | ⟨⟨a, hread⟩, _⟩ := hcases
      · exact hend
      · cases hread.symm.trans hf
  intro h l hl
  obtain ⟨f, _, hresult | hresult, _⟩ |
    ⟨_, ⟨f, _, hworld⟩ | ⟨a, s, hread, hload, hresult, hworld⟩⟩ := hcases
  · cases h.symm.trans hresult
  · cases h.symm.trans hresult
  · rw [show e.world = w from hworld]
    exact .refl _ _
  · obtain ⟨f, hplan, hf⟩ := orLeave_exit (hresult.symm.trans h)
    have hfiles : e.world.files = _ := (congrArg World.files hworld).trans (orLeave_files _ _)
    rw [hfiles] at hl ⊢
    exact spares_of_plan hchoose hread hload hplan hf hl

/-- The exit of the program tells what is on disk when the templates do not name one file for both:
whatever way of choosing a planner it has that spares the files, and with the planner that its
settings name, which is chosen without touching anything. -/
theorem exit_status
    (room : Nat)
    (stamp : String)
    (words : List String)
    (environment : List (String × String))
    (w : World)
    (hnames : ∀ q : Request words environment w, q.AreApart room) :
    (∀ choose : Chooser, choose.SparesFiles →
      Tells room choose stamp words environment w (runBy room choose stamp words environment w)) ∧
    Chooser.OnlyTells choosePlanner ∧
    Tells room choosePlanner stamp words environment w (run room stamp words environment w) :=
  ⟨fun _ hchoose => tells_runBy hchoose stamp hnames, onlyTells_choosePlanner,
    tells_runBy onlyTells_choosePlanner.sparesFiles stamp hnames⟩

/-- A cluster of one node with a full volume and an empty one, and the paths that the node gives. -/
def unbalancedWorld : World :=
  let content :=
    "\x7b\"nodes\": [\x7b\"uuid\": \"n\", \"ip\": \"1.1.1.1\", \"port\": 5, \"volume_sets\": "
      ++ "\x7b\"D\": \x7b\"storage_type\": \"D\", \"volumes\": "
      ++ "[\x7b\"uuid\": \"a\", \"storage_type\": \"D\", \"capacity\": 100, \"used\": 90\x7d, "
      ++ "\x7b\"uuid\": \"b\", \"storage_type\": \"D\", \"capacity\": 100\x7d]\x7d\x7d\x7d]\x7d"
  ⟨⟨[(["c.json"], .file (Text.encode content))], []⟩,
    ⟨[.answered 200 "\x7b\"a\": \"/a\"\x7d"], []⟩, ⟨2024, 1, 1, 0, 0, 0, 0, none⟩, []⟩

/-- The words that ask for a plan of that node, with a table. -/
def unbalancedWords : List String :=
  ["-p", "n", "-u", "c.json", "-o", "out", "-v"]

/-- The variables that name a planner. -/
def unbalancedEnvironment : List (String × String) :=
  [("PLANNER", "tests.stubs.StubPlanner")]

/-- A run with the planner that the settings name on an unbalanced node returns normally and has
done all of its work. -/
theorem exit_status_unbalanced :
    let idle : Chooser := fun _ => pure (.fixed [])
    (∀ q : Request unbalancedWords unbalancedEnvironment unbalancedWorld, q.AreApart 100) ∧
      (idle.SparesFiles ∧ Tells 100 idle "" unbalancedWords unbalancedEnvironment unbalancedWorld
        (runBy 100 idle "" unbalancedWords unbalancedEnvironment unbalancedWorld)) ∧
      (run 100 "" unbalancedWords unbalancedEnvironment unbalancedWorld).result = .ok () ∧
      ∃ q : Request unbalancedWords unbalancedEnvironment unbalancedWorld,
        q.Completes 100 choosePlanner
          (run 100 "" unbalancedWords unbalancedEnvironment unbalancedWorld).world := by
  intro idle
  have hidle : idle.SparesFiles := fun _ _ => rfl
  have hasked : (asked? unbalancedWords unbalancedEnvironment unbalancedWorld).map
      (fun x => fileNames 100 x.1 x.2.2) = some (some "n.before.json", some "n.plan.json") := by
    decide +kernel
  have hnames (q : Request unbalancedWords unbalancedEnvironment unbalancedWorld) :
      q.AreApart 100 := by
    rw [asked?_eq_some_iff.mpr ⟨q, rfl, rfl, rfl⟩] at hasked
    exact Request.apart_of_names (Option.some.inj hasked) (by decide)
  have hsome : (run 100 "" unbalancedWords unbalancedEnvironment unbalancedWorld).result.toOption =
      some () := by
    decide +kernel
  have hok := ok_of_toOption hsome
  obtain ⟨hany, _, hrun⟩ :=
    exit_status 100 "" unbalancedWords unbalancedEnvironment unbalancedWorld hnames
  exact ⟨hnames, ⟨hidle, hany idle hidle⟩, hok, hrun.completed hok⟩

/-- On its way to the folder of the files a run makes a folder at the place of the plan's file; it
can write the file of the cluster, but not that of the plan, and leaves with code 1. -/
theorem exit_one_makes_folder :
    let content :=
      "\x7b\"nodes\": [\x7b\"uuid\": \"n\", \"ip\": \"1.1.1.1\", \"port\": 5\x7d]\x7d"
    let volume (uuid : String) (used : Nat) : Storage.Volume :=
      ⟨uuid, "D", 9, used, 0, false, false, false, false, ""⟩
    let now : Time.Moment := ⟨2024, 1, 1, 0, 0, 0, 0, none⟩
    let plan : Move.Plan :=
      ⟨"", "n", 5, now, [⟨volume "a" 9, volume "b" 0, 4, "D", 0.0, 0, 0, 0⟩]⟩
    let words := ["-p", "n", "-u", "c.json", "-o", "n.plan.json/..", "-t", "10"]
    let w : World :=
      ⟨⟨[(["c.json"], .file (Text.encode content))], []⟩,
        ⟨[.answered 200 "\x7b\x7d"], []⟩, now, []⟩
    let choose : Chooser := fun _ => pure (.fixed [plan])
    let e := runBy 100 choose "" words [] w
    choose.SparesFiles ∧ ∃ (q : Request words [] w) (p : Path),
      q.AreApart 100 ∧ q.IsPlan 100 choose p ∧
      e.result = .error (.exit 1) ∧ e.world.files.walk p = .ok ["n.plan.json"] ∧
      w.files.entry? ["n.plan.json"] = none ∧
      Tree.entry? e.world.files ["n.plan.json"] = some .folder := by
  intro content volume now plan words w choose e
  let p : Path := ⟨.relative, ["n.plan.json", "..", "n.plan.json"]⟩
  let writer (s : Settings) (o : Options) : Writer :=
    let c : Command := ⟨s, .fixed [], .snapshot, 100⟩
    c.writer (c.outputDir now o)
  have hfound : ((asked? words [] w).map fun (s, o, name) =>
      (fileNames 100 s name, ((writer s o).path s.planTemplate name).toOption)) =
        some ((some "n.before.json", some "n.plan.json"), some p) := by
    decide +kernel
  have hrun : (exitCode? e.result, (e.world.files.walk p).toOption,
      Tree.entry? e.world.files ["n.plan.json"]) =
        (some 1, some ["n.plan.json"], some .folder) := by
    decide +kernel
  obtain ⟨⟨s, o, name⟩, hsome, hfound⟩ := Option.map_eq_some_iff.mp hfound
  obtain ⟨q, rfl, rfl, rfl⟩ := asked?_eq_some_iff.mp hsome
  obtain ⟨hnames, hplan⟩ := Prod.mk.inj hfound
  obtain ⟨hresult, hrest⟩ := Prod.mk.inj hrun
  obtain ⟨hwalk, hfolder⟩ := Prod.mk.inj hrest
  exact ⟨fun _ _ => rfl, q, p, Request.apart_of_names hnames (by decide), ok_of_toOption hplan,
    exitCode?_eq_some hresult, ok_of_toOption hwalk, by decide, hfolder⟩

end Program
end Run
end Rebalance
