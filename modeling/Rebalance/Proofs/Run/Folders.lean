import Rebalance.Proofs.Files.Confined
import Rebalance.Proofs.Run.Determined
import Rebalance.Proofs.Run.Success
import Rebalance.Proofs.Time.FolderName

/-!
# Runs apart by the second

* `confined_of_ending`: a run changes no file but in its own folder, however it ends.
* `Job`: a command with an order, and the session it begins in.  `leave` is what jobs leave of the
  files when they run one after the other.
* `Job.artifacts_of_answer`: the files of a job that answers lie in its folder and can be read.
* `readFile_leave`: they are read the same after any jobs at other seconds.
* `folders_by_second`: the default folders of runs differ by the second, and so do their files.
-/

namespace Rebalance
namespace Run

open Command Files

/-! ## What a run leaves alone -/

theorem Placed.confined
    {t u : Tree}
    {folder : Path}
    {name : String}
    {content : List Nat}
    (h : Placed t (folder.child name) content u)
    (hname : isFileName name = true) :
    Tree.Confined folder t u := by
  obtain ⟨l, hl, hw⟩ := h
  refine ⟨hw.keeps, fun k hk => hw.elsewhere k ?_⟩
  rintro rfl
  exact hk (hw.keeps.isIn (Tree.isIn_of_walk (ne_up_of_isFileName hname) hl))

/-- The first of two files in one folder holds some content after the second one, also when both
have one name. -/
theorem Placed.exists_holds_after
    {t u w : Tree}
    {q : Path}
    {a b : String}
    {x y : List Nat}
    (h : Placed t (q.child a) x u)
    (g : Placed u (q.child b) y w)
    (ha : isFileName a = true)
    (hb : isFileName b = true) :
    ∃ content, Holds w (q.child a) content := by
  by_cases hab : a = b
  · subst hab
    exact ⟨y, g.holds⟩
  · exact ⟨x, h.holds_after g ha hb hab⟩

/-- The files of a run. -/
def Outcome.artifacts (r : Outcome) : List Path :=
  r.beforePath :: r.planPath.toList

section Endings

variable {c : Command} {order : Order} {v : Standing}

theorem Stored.confined
    (p : Stored c order v) :
    Tree.Confined p.folder v.sight.files p.files := by
  obtain ⟨_, _, _, single, _, _, placed⟩ := p.placed
  exact placed.confined single

theorem Decided.confined
    (p : Decided c order v) :
    Tree.Confined p.folder v.sight.files p.planFiles := by
  refine p.toStored.confined.trans ?_
  rcases p.placed with ⟨_, _, hfiles⟩ | ⟨_, _, _, _, _, single, _, _, placed⟩
  · rw [hfiles]
    exact .refl _ _
  · exact placed.confined single

/-- A run changes no file but in its own folder, however it ends. -/
theorem confined_of_ending
    {r : Except Failure Outcome}
    {u : Standing}
    {folder : Path}
    (hfolder : ∀ o name, order.settle = .ok (o, name) → c.outputDir v.sight.now o = folder)
    (h : Ending c order v r u) :
    Tree.Confined folder v.sight.files u.sight.files := by
  cases h with
  -- No file is touched before the cluster is written.
  | unsettled _ | unloaded _ _ | unfound _ _ | unanswered _ _ | unplanned _ _ => exact .refl _ _
  | unstored p h => exact (p.refused h).2.confined _
  | undecided p h =>
    rw [← hfolder _ _ p.settled]
    exact p.confined.trans ((p.refused h).2.confined _)
  | unreported p _ =>
    rw [← hfolder _ _ p.settled]
    exact p.confined
  | @done p text _ =>
    rw [← hfolder _ _ p.settled, (p.left text).1]
    exact p.confined

/-- Every file of a run lies in its folder and holds some content. -/
theorem Decided.artifacts
    (p : Decided c order v) :
    ∀ path ∈ p.outcome.artifacts, ∃ name content, path = p.folder.child name ∧
      isFileName name = true ∧ Holds p.planFiles path content := by
  obtain ⟨a, _, _, ha, _, hpath, hbefore⟩ := p.toStored.placed
  have hartifacts : p.outcome.artifacts = p.folder.child a :: p.planPath.toList :=
    congrArg (· :: p.planPath.toList) hpath
  rw [hartifacts, List.forall_mem_cons]
  rcases p.placed with ⟨_, hnone, hfiles⟩ | ⟨_, b, _, _, _, hb, _, hsome, hplan⟩
  · rw [hnone, hfiles]
    exact ⟨⟨a, _, rfl, ha, hbefore.holds⟩, List.forall_mem_nil _⟩
  · rw [hsome]
    obtain ⟨content, hholds⟩ := hbefore.exists_holds_after hplan ha hb
    exact ⟨⟨a, content, rfl, ha, hholds⟩,
      List.forall_mem_singleton.mpr ⟨b, _, rfl, hb, hplan.holds⟩⟩

end Endings

/-! ## Jobs -/

/-- A command with an order, and the session it begins in. -/
structure Job where
  command : Command
  order : Order
  session : Session

namespace Job

/-- The time of a job. -/
def now (j : Job) : Time.Moment :=
  j.session.world.now

/-- The files before a job. -/
def before (j : Job) : Tree :=
  j.session.world.files

/-- What a job answers. -/
def answer (j : Job) : Except Failure Outcome :=
  (j.command.execute j.order j.session).1

/-- The files after a job. -/
def after (j : Job) : Tree :=
  (j.command.execute j.order j.session).2.world.files

/-- The same job with other files before it. -/
def onto (j : Job) (t : Tree) : Job :=
  { j with session := { j.session with world := { j.session.world with files := t } } }

/-- Whether a job has no output option, and a time that exists. -/
structure IsDefault (j : Job) : Prop where
  output : ∀ o name, j.order.settle = .ok (o, name) → o.output = none
  valid : j.now.Valid

/-- The folder of a job that has no output option. -/
def folder (j : Job) : Path :=
  j.command.settings.outputDir.child j.now.folderName

variable {j : Job}

theorem outputDir_eq
    (j : Job)
    {o : Options}
    (h : o.output = none) :
    j.command.outputDir j.now o = j.folder := by
  rw [outputDir, h, folder]

theorem IsDefault.confined
    (h : j.IsDefault) :
    Tree.Confined j.folder j.before j.after := by
  have hfolder : ∀ o name, j.order.settle = .ok (o, name) →
      j.command.outputDir j.session.standing.sight.now o = j.folder :=
    fun o name hsettle => j.outputDir_eq (h.output o name hsettle)
  have hconfined := confined_of_ending hfolder (ending_execute j.command j.order j.session)
  exact hconfined

/-- The files of a job that answers lie in its folder and can be read. -/
theorem IsDefault.artifacts_of_answer
    (h : j.IsDefault)
    {r : Outcome}
    (hr : j.answer = .ok r) :
    r.outputDir = j.folder ∧ ∀ path ∈ r.artifacts, ∃ name content, path = j.folder.child name ∧
      isFileName name = true ∧ j.after.readFile path = .ok content := by
  unfold answer at hr
  unfold after
  obtain ⟨t, hrun⟩ : ∃ t, j.command.execute j.order j.session = (.ok r, t) := ⟨_, Prod.ext hr rfl⟩
  rw [hrun]
  obtain ⟨p, text, _, rfl, ht⟩ := exists_decided_of_execute hrun
  have hfiles : t.world.files = p.planFiles :=
    (congrArg (fun u => u.sight.files) ht).trans (p.left text).1
  have hfolder : p.folder = j.folder := j.outputDir_eq (h.output _ _ p.settled)
  refine ⟨hfolder, ?_⟩
  intro path hpath
  obtain ⟨name, content, rfl, hname, l, hwalk, hholds⟩ := p.artifacts path hpath
  rw [hfolder] at hwalk ⊢
  have hin := Tree.isIn_of_walk (ne_up_of_isFileName hname) hwalk
  have hdevice : device? l = none :=
    Tree.device?_of_isIn (j.now.folderName_ne (by decide)) (j.now.folderName_ne (by decide)) hin
  exact ⟨name, content, rfl, hname, hfiles ▸ Tree.readFile_of_file? hwalk (hholds hdevice)⟩

end Job

/-! ## Jobs at other seconds -/

theorem isFileName_folderName
    (t : Time.Moment) :
    isFileName t.folderName = true :=
  (isFileName_iff _).mpr ⟨t.folderName_ne (by decide), t.slash_not_mem_folderName,
    t.folderName_ne (by decide), t.folderName_ne (by decide)⟩

theorem folderName_ne_of_not_sameSecond
    {s t : Time.Moment}
    (hs : s.Valid)
    (ht : t.Valid)
    (h : ¬ s.SameSecond t) :
    s.folderName ≠ t.folderName :=
  mt (Time.Moment.folderName_eq_iff hs ht).mp h

/-- What jobs leave of the files when they run one after the other. -/
def leave (t : Tree) (jobs : List Job) : Tree :=
  jobs.foldl (fun t j => (j.onto t).after) t

/-- A file in the folder of a time is read the same after any jobs at other seconds. -/
theorem readFile_leave
    {root : Path}
    {s : Time.Moment}
    {name : String}
    {content : List Nat}
    {t : Tree}
    {jobs : List Job}
    (hs : s.Valid)
    (hname : isFileName name = true)
    (hjobs : ∀ j ∈ jobs, j.IsDefault ∧ ¬ s.SameSecond j.now)
    (hread : t.readFile ((root.child s.folderName).child name) = .ok content) :
    (leave t jobs).readFile ((root.child s.folderName).child name) = .ok content := by
  induction jobs generalizing t with
  | nil => exact hread
  | cons j rest ih =>
    rw [List.forall_mem_cons] at hjobs
    obtain ⟨⟨hdefault, hsecond⟩, hrest⟩ := hjobs
    -- The job stays in its own folder, whatever the jobs before it have left.
    have honto : (j.onto t).IsDefault := ⟨hdefault.output, hdefault.valid⟩
    refine ih hrest (honto.confined.readFile (s.folderName_ne (by decide))
      (j.now.folderName_ne (by decide)) (ne_up_of_isFileName hname) (s.folderName_ne (by decide))
      (folderName_ne_of_not_sameSecond hs hdefault.valid hsecond) hread)

/-- Two times have one name just when they agree up to the second, and a name is that of a single
file, of letters, digits and dashes, so it continues every path as one name.  Runs without an
output option have folders of their own in the default one when their seconds differ, and no file
that one of them changes is changed by the other one, however they end.  The files of a run that
answers can be read in its folder, and are read the same after any runs at other seconds. -/
theorem folders_by_second :
    (∀ s t : Time.Moment, s.Valid → t.Valid → (s.folderName = t.folderName ↔ s.SameSecond t)) ∧
    (∀ t : Time.Moment, isFileName t.folderName = true ∧
      (∀ c ∈ t.folderName.toList, c.isAlphanum = true ∨ c = '-') ∧
      ∀ root : Path, root.join t.folderName = root.child t.folderName) ∧
    (∀ i j : Job, i.IsDefault → j.IsDefault → ¬ i.now.SameSecond j.now →
      (∀ o o', o.output = none → o'.output = none →
        i.command.outputDir i.now o = i.command.settings.outputDir.child i.now.folderName ∧
          i.command.outputDir i.now o ≠ j.command.outputDir j.now o') ∧
      ∀ l, i.after.file? l ≠ i.before.file? l → j.after.file? l = j.before.file? l) ∧
    ∀ (j : Job) (r : Outcome), j.IsDefault → j.answer = .ok r →
      r.outputDir = j.command.settings.outputDir.child j.now.folderName ∧
      ∀ path ∈ r.artifacts, ∃ name content, path = r.outputDir.child name ∧
        j.after.readFile path = .ok content ∧
        ∀ jobs, (∀ k ∈ jobs, k.IsDefault ∧ ¬ j.now.SameSecond k.now) →
          (leave j.after jobs).readFile path = .ok content := by
  refine ⟨fun s t => Time.Moment.folderName_eq_iff, ?_, ?_, ?_⟩
  · intro t
    have hname := isFileName_folderName t
    exact ⟨hname, fun c => Time.Moment.isAlphanum_of_mem_folderName, join_of_isFileName hname⟩
  · intro i j hi hj hsecond
    have hne := folderName_ne_of_not_sameSecond hi.valid hj.valid hsecond
    constructor
    · intro o o' ho ho'
      rw [i.outputDir_eq ho, j.outputDir_eq ho']
      exact ⟨rfl, Path.child_ne hne⟩
    · intro l hchanged
      have hin : i.before.IsIn i.folder l :=
        Classical.byContradiction fun hout => hchanged (hi.confined.elsewhere l hout)
      exact hj.confined.elsewhere l
        (Tree.not_isIn_of_ne (i.now.folderName_ne (by decide)) (j.now.folderName_ne (by decide)) hne
          hin)
  · intro j r hj hr
    obtain ⟨hfolder, hartifacts⟩ := hj.artifacts_of_answer hr
    refine ⟨hfolder, ?_⟩
    intro path hpath
    obtain ⟨name, content, rfl, hname, hread⟩ := hartifacts path hpath
    refine ⟨name, content, by rw [hfolder], hread, ?_⟩
    intro jobs hjobs
    exact readFile_leave hj.valid hname hjobs hread

/-- Two runs under one default folder, the second a second after the first: each leaves a plan in
its own folder, and the first one's is still there after the second one. -/
theorem folders_by_second_next :
    let volume (uuid : String) (used : Nat) : Storage.Volume :=
      ⟨uuid, "DISK", 100, used, 0, false, false, false, false, ""⟩
    let now (second : Nat) : Time.Moment := ⟨2024, 1, 31, 12, 5, second, 0, none⟩
    let plan : Move.Plan :=
      ⟨"node-a", "u1", 9867, now 0, [⟨volume "a" 90, volume "b" 10, 40, "DISK", 0.0, 0, 0, 0⟩]⟩
    let node : Storage.Node :=
      ⟨"u1", .v4 167772161, 9867, "node-a", 0.0,
        [("DISK", ⟨"DISK", [volume "a" 90, volume "b" 10]⟩)]⟩
    let command : Command :=
      ⟨⟨"DiskBalancer", 10.0, .ofString "/out", "\x7bnode\x7d.before.json",
        "\x7bnode\x7d.plan.json", "DiskBalancerVolumeName", "http", 10, none, none⟩,
        .fixed [plan], .held, 100⟩
    let job (second : Nat) : Job :=
      ⟨command, .options ⟨some "node-a", none, none, some 5.0, 8, 0, false⟩,
        ⟨⟨⟨[], []⟩, ⟨[.answered 200 "\x7b\x7d"], []⟩, now second, []⟩, .init, ⟨[node], []⟩, []⟩⟩
    let path (folder : String) : Path := ⟨.slash, ["out", folder, "node-a.plan.json"]⟩
    ∃ r content, (job 9).answer = .ok r ∧
      r.planPath = some (path "2024-Jan-31-12-05-09") ∧
      ((job 10).onto (job 9).after).answer.toOption.bind Outcome.planPath =
        some (path "2024-Jan-31-12-05-10") ∧
      (leave (job 9).after [job 10]).readFile (path "2024-Jan-31-12-05-09") = .ok content := by
  intro volume now plan node command job path
  have hdefault (second : Nat) (h : (now second).Valid) : (job second).IsDefault := by
    refine ⟨?_, h⟩
    intro o name hsettle
    obtain rfl := (Prod.mk.inj (Except.ok.inj hsettle)).1
    rfl
  have hpaths : ((job 9).answer.toOption.bind Outcome.planPath,
      ((job 10).onto (job 9).after).answer.toOption.bind Outcome.planPath) =
      (some (path "2024-Jan-31-12-05-09"), some (path "2024-Jan-31-12-05-10")) := by
    decide +kernel
  obtain ⟨hfirst, hsecond⟩ := Prod.mk.inj hpaths
  obtain ⟨r, hr, hplan⟩ := Option.bind_eq_some_iff.mp hfirst
  have hanswer := ok_of_toOption hr
  obtain ⟨_, _, _, hfiles⟩ := folders_by_second
  obtain ⟨_, hartifacts⟩ := hfiles (job 9) r (hdefault 9 (by decide)) hanswer
  have hmem : path "2024-Jan-31-12-05-09" ∈ r.artifacts :=
    List.mem_cons_of_mem _ (by rw [hplan]; exact List.mem_singleton_self _)
  obtain ⟨_, content, _, _, hkept⟩ := hartifacts _ hmem
  refine ⟨r, content, hanswer, hplan, hsecond, hkept _ ?_⟩
  rw [List.forall_mem_singleton]
  exact ⟨hdefault 10 (by decide), fun hsame => absurd hsame.second (by decide)⟩

end Run
end Rebalance
