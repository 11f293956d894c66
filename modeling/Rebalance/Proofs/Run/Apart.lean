import Rebalance.Proofs.Move.RoundTrip
import Rebalance.Proofs.Run.Determined
import Rebalance.Proofs.Run.Naming
import Rebalance.Proofs.Run.Success
import Rebalance.Proofs.Storage.RoundTrip

/-!
# When the two files of a node are two

* `document_ne`: the text of a cluster is never that of a plan.
* `Writer.artifactPath_ne_iff`: the two files of a node lie apart just when their templates give two
  names.
* `format_around_ne`: templates with one text before the node's name and two after it give two names
  for every node.
* `snapshot_apart`: after a run that wrote a plan the file of the cluster still holds the cluster
  just when the templates give two names.
* `snapshot_overwritten`: settings with one template for both files are accepted, and a run under
  them leaves nothing but the plan.
-/

namespace Rebalance

/-! ## The texts of a cluster and of a plan -/

/-- The bytes of a text that begins with ordinary characters begin with those of the characters. -/
theorem Text.encode_ofList_append
    {cs : List Char}
    (h : ∀ c ∈ cs, Text.IsOrdinary c)
    (rest : List Char) :
    Text.encode (String.ofList (cs ++ rest)) =
      (cs.map Char.toNat).flatMap Text.encodeOne ++ Text.encode (String.ofList rest) := by
  simp [Text.encode, Text.codes, Text.codesOf_ordinary h]

theorem Storage.Cluster.exists_of_document
    {c : Storage.Cluster}
    {text : String}
    (h : c.document = .ok text) :
    ∃ rest, text = String.ofList ("\x7b\n  \"nodes".toList ++ rest) := by
  obtain ⟨_, rfl⟩ := Json.document_ok (document_ok_iff.mp h)
  rw [toData, Json.write, Json.write]
  exact ⟨_, rfl⟩

theorem Move.Plan.exists_of_document
    {p : Move.Plan}
    {text : String}
    (h : p.document = .ok text) :
    ∃ rest, text = String.ofList ("\x7b\n  \"node_".toList ++ rest) := by
  obtain ⟨_, rfl⟩ := Json.document_ok (document_ok_iff.mp h)
  rw [toData, Json.write, Json.write]
  exact ⟨_, rfl⟩

namespace Run

open Files

/-- The bytes of a cluster's document are never those of a plan's. -/
theorem encode_document_ne
    {k : Storage.Cluster}
    {plan : Move.Plan}
    {snapshot text : String}
    (hk : k.document = .ok snapshot)
    (hplan : plan.document = .ok text) :
    Text.encode snapshot ≠ Text.encode text := by
  obtain ⟨rest, rfl⟩ := Storage.Cluster.exists_of_document hk
  obtain ⟨more, rfl⟩ := Move.Plan.exists_of_document hplan
  have hordinary {cs : List Char} (h : (cs.all fun c => c.toNat < 0x80) = true) :
      ∀ c ∈ cs, Text.IsOrdinary c :=
    fun c hc => Text.isOrdinary_of_lt (of_decide_eq_true (List.all_eq_true.mp h c hc))
  have hnodes : ("\x7b\n  \"nodes".toList.all fun c => c.toNat < 0x80) = true := by decide
  have hnode : ("\x7b\n  \"node_".toList.all fun c => c.toNat < 0x80) = true := by decide
  have hlength : (("\x7b\n  \"nodes".toList.map Char.toNat).flatMap Text.encodeOne).length =
      (("\x7b\n  \"node_".toList.map Char.toNat).flatMap Text.encodeOne).length := by decide
  rw [Text.encode_ofList_append (hordinary hnodes), Text.encode_ofList_append (hordinary hnode)]
  intro h
  exact absurd (List.append_inj_left h hlength) (by decide)

/-! ## Two paths -/

/-- The two files of a node have different paths just when their templates give different names. -/
theorem Writer.artifactPath_ne_iff
    (w : Writer)
    {node : String}
    (v : World)
    {p q : Path}
    (hp : (w.artifactPath w.beforeTemplate node v).1 = .ok p)
    (hq : (w.artifactPath w.planTemplate node v).1 = .ok q) :
    p ≠ q ↔ Template.format w.room w.beforeTemplate node ≠
      Template.format w.room w.planTemplate node := by
  obtain ⟨m, hm, _, rfl⟩ := w.exists_name_of_artifactPath v hp
  obtain ⟨n, hn, _, rfl⟩ := w.exists_name_of_artifactPath v hq
  rw [hm, hn, Ne, Ne, Path.child_inj, Except.ok.injEq]

/-- Two ends after one front and one plain field make two names of every node. -/
theorem format_around_ne
    (room : Nat)
    {front back more : String}
    (hne : back ≠ more)
    (node : String) :
    Template.format room (Template.around front back) node ≠
      Template.format room (Template.around front more) node := by
  rw [Template.format_around, Template.format_around]
  intro h
  have hnames : Text.concat [front, node, back] = Text.concat [front, node, more] :=
    Except.ok.inj h
  refine hne (Text.codes_inj ?_)
  simpa [Text.codes_concat] using congrArg Text.codes hnames

/-! ## Two files of a run -/

/-- The file that was written first still holds its content just when the second one has another
name. -/
theorem Placed.file?_iff
    {t u w : Tree}
    {q : Path}
    {a b : String}
    {x y : List Nat}
    (h : Placed t (q.child a) x u)
    (g : Placed u (q.child b) y w)
    (ha : isFileName a = true)
    (hb : isFileName b = true)
    (hxy : x ≠ y) :
    ∃ l, w.walk (q.child a) = .ok l ∧
      (device? l = none → (w.file? l = some x ↔ a ≠ b)) := by
  by_cases hab : a = b
  · subst hab
    obtain ⟨l, hl, hy⟩ := g.holds
    refine ⟨l, hl, fun hd => iff_of_false ?_ (not_not_intro rfl)⟩
    rw [hy hd, Option.some.injEq]
    exact Ne.symm hxy
  · obtain ⟨l, hl, hx⟩ := h.holds_after g ha hb hab
    exact ⟨l, hl, fun hd => iff_of_true (hx hd) hab⟩

/-- The two files of a run that wrote a plan. -/
theorem Decided.apart
    {c : Command}
    {order : Order}
    {v : Standing}
    (p : Decided c order v)
    {path : Path}
    (h : p.planPath = some path) :
    ∃ snapshot plan text, p.located.document = .ok snapshot ∧ p.plans.head? = some plan ∧
      plan.document = .ok text ∧ Holds p.planFiles path (Text.encode text) ∧
      ∃ l, p.planFiles.walk p.beforePath = .ok l ∧
        (device? l = none → (p.planFiles.file? l = some (Text.encode snapshot) ↔
          Template.format c.room c.settings.beforeTemplate p.name ≠
            Template.format c.room c.settings.planTemplate p.name)) := by
  obtain ⟨file, snapshot, named, single, worded, hpath, placed⟩ := p.toStored.placed
  rcases p.placed with ⟨_, hnone, _⟩ | ⟨plan, file', text, hsome, named', single', worded', hpath',
    placed'⟩
  · rw [hnone] at h
    cases h
  · rw [hpath'] at h
    cases h
    refine ⟨snapshot, plan, text, worded, head?_of_written? hsome, worded', placed'.holds, ?_⟩
    rw [hpath, named, named', Ne, Except.ok.injEq]
    exact placed.file?_iff placed' single single' (encode_document_ne worded worded')

/-- The two files that a run leaves when it wrote a plan. -/
theorem execute_apart
    {c : Command}
    {order : Order}
    {s t : Session}
    {r : Outcome}
    {path : Path}
    (h : c.execute order s = (.ok r, t))
    (hpath : r.planPath = some path) :
    ∃ o name snapshot plan text, order.settle = .ok (o, name) ∧
      t.cluster.document = .ok snapshot ∧ r.plans.head? = some plan ∧
      plan.document = .ok text ∧ Holds t.world.files path (Text.encode text) ∧
      ∃ l, t.world.files.walk r.beforePath = .ok l ∧
        (device? l = none → (t.world.files.file? l = some (Text.encode snapshot) ↔
          Template.format c.room c.settings.beforeTemplate name ≠
            Template.format c.room c.settings.planTemplate name)) := by
  obtain ⟨p, text, _, rfl, ht⟩ := exists_decided_of_execute h
  obtain ⟨hfiles, hcluster, _⟩ := p.left text
  rw [← ht] at hfiles hcluster
  have hfiles' : t.world.files = p.planFiles := hfiles
  have hcluster' : t.cluster = p.located := hcluster
  obtain ⟨snapshot, plan, written, hapart⟩ := p.apart hpath
  rw [hfiles', hcluster']
  exact ⟨p.options, p.name, snapshot, plan, written, p.settled, hapart⟩

/-- The two files of a node have different paths just when their templates give different names, and
templates with one text before the node's name and two after it always do.  After a run that wrote a
plan the file of the cluster still holds the cluster just when the names are different, unless it is
a device. -/
theorem snapshot_apart
    (room : Nat)
    (settings : Settings) :
    (∀ folder node v p q,
      let w : Writer := ⟨folder, settings.beforeTemplate, settings.planTemplate, room⟩
      (w.artifactPath w.beforeTemplate node v).1 = .ok p →
      (w.artifactPath w.planTemplate node v).1 = .ok q →
      (p ≠ q ↔ Template.format room settings.beforeTemplate node ≠
        Template.format room settings.planTemplate node)) ∧
    (∀ front back more, settings.beforeTemplate = Template.around front back →
      settings.planTemplate = Template.around front more → back ≠ more →
      ∀ node, Template.format room settings.beforeTemplate node ≠
        Template.format room settings.planTemplate node) ∧
    ∀ planner loader order s t r path,
      (Command.mk settings planner loader room).execute order s = (.ok r, t) →
      r.planPath = some path →
      ∃ o name snapshot plan text, order.settle = .ok (o, name) ∧
        t.cluster.document = .ok snapshot ∧ r.plans.head? = some plan ∧
        plan.document = .ok text ∧ Holds t.world.files path (Text.encode text) ∧
        ∃ l, t.world.files.walk r.beforePath = .ok l ∧
          (device? l = none → (t.world.files.file? l = some (Text.encode snapshot) ↔
            Template.format room settings.beforeTemplate name ≠
              Template.format room settings.planTemplate name)) := by
  refine ⟨?_, ?_, ?_⟩
  · intro folder node v p q w hp hq
    exact w.artifactPath_ne_iff v hp hq
  · intro front back more hbefore hplan hne node
    rw [hbefore, hplan]
    exact format_around_ne room hne node
  · intro planner loader order s t r path hrun hpath
    have happart := execute_apart hrun hpath
    exact happart

/-- A run under the standard settings that writes a plan: the file of the cluster holds the
cluster. -/
theorem snapshot_apart_standard :
    let volume (uuid : String) (used : Nat) : Storage.Volume :=
      ⟨uuid, "DISK", 100, used, 0, false, false, false, false, ""⟩
    let now : Time.Moment := ⟨2024, 1, 1, 0, 0, 0, 0, none⟩
    let plan : Move.Plan :=
      ⟨"node-a", "u1", 9867, now, [⟨volume "a" 90, volume "b" 10, 40, "DISK", 0.0, 0, 0, 0⟩]⟩
    let order : Order :=
      .options ⟨some "node-a", none, some (.ofString "out"), some 5.0, 8, 0, false⟩
    let node : Storage.Node :=
      ⟨"u1", .v4 167772161, 9867, "node-a", 0.0,
        [("DISK", ⟨"DISK", [volume "a" 90, volume "b" 10]⟩)]⟩
    let s : Session :=
      ⟨⟨⟨[], []⟩, ⟨[.answered 200 "\x7b\x7d"], []⟩, now, []⟩, .init, ⟨[node], []⟩, []⟩
    ∃ settings r t snapshot, Settings.load ⟨[], []⟩ [] [] = .ok settings ∧
      (Command.mk settings (.fixed [plan]) .held 100).execute order s = (.ok r, t) ∧
      r.planWritten = true ∧ t.cluster.document = .ok snapshot ∧
      t.world.files.readFile r.beforePath = .ok (Text.encode snapshot) := by
  intro volume now plan order node s
  let run (settings : Settings) := (Command.mk settings (.fixed [plan]) .held 100).execute order s
  let p : Path := ⟨.relative, ["out", "node-a.before.json"]⟩
  let q : Path := ⟨.relative, ["out", "node-a.plan.json"]⟩
  have hdone : ((Settings.load ⟨[], []⟩ [] []).toOption.bind fun settings =>
      (run settings).1.toOption.map fun r =>
        ((settings.beforeTemplate, settings.planTemplate), r.beforePath, r.planPath,
          r.planWritten)) =
      some (("\x7bnode\x7d.before.json", "\x7bnode\x7d.plan.json"), p, some q, true) := by
    decide +kernel
  obtain ⟨settings, hload, hrun⟩ := Option.bind_eq_some_iff.mp hdone
  obtain ⟨r, hr, hvalues⟩ := Option.map_eq_some_iff.mp hrun
  obtain ⟨htemplates, hbefore, hpath, hwritten⟩ :
      (settings.beforeTemplate, settings.planTemplate) =
        ("\x7bnode\x7d.before.json", "\x7bnode\x7d.plan.json") ∧
      r.beforePath = p ∧ r.planPath = some q ∧ r.planWritten = true := by
    simpa using hvalues
  obtain ⟨hfirst, hsecond⟩ := Prod.mk.inj htemplates
  have hexecute : run settings = (.ok r, (run settings).2) := Prod.ext (ok_of_toOption hr) rfl
  obtain ⟨_, hends, hholds⟩ := snapshot_apart 100 settings
  have hnames := hends "" ".before.json" ".plan.json" (hfirst.trans (by decide))
    (hsecond.trans (by decide)) (by decide)
  obtain ⟨_, name, snapshot, _, _, _, hdocument, _, _, _, l, hwalk, hiff⟩ :=
    hholds _ _ _ _ _ _ _ hexecute hpath
  have hdevice : device? l = none := device?_of_suffix (by rw [hbefore]; decide) hwalk
  exact ⟨settings, r, (run settings).2, snapshot, ok_of_toOption hload, hexecute, hwritten,
    hdocument, Tree.readFile_of_file? hwalk ((hiff hdevice).mpr (hnames name))⟩

/-- Settings with one template for both files are accepted, and a run under them that writes a plan
leaves no file of the cluster. -/
theorem snapshot_overwritten :
    let given : List (String × Data) :=
      [("BEFORE_TEMPLATE", .text "\x7bnode\x7d.json"), ("PLAN_TEMPLATE", .text "\x7bnode\x7d.json")]
    let volume (uuid : String) (used : Nat) : Storage.Volume :=
      ⟨uuid, "DISK", 100, used, 0, false, false, false, false, ""⟩
    let now : Time.Moment := ⟨2024, 1, 1, 0, 0, 0, 0, none⟩
    let plan : Move.Plan :=
      ⟨"node-a", "u1", 9867, now, [⟨volume "a" 90, volume "b" 10, 40, "DISK", 0.0, 0, 0, 0⟩]⟩
    let order : Order :=
      .options ⟨some "node-a", none, some (.ofString "out"), some 5.0, 8, 0, false⟩
    let node : Storage.Node :=
      ⟨"u1", .v4 167772161, 9867, "node-a", 0.0,
        [("DISK", ⟨"DISK", [volume "a" 90, volume "b" 10]⟩)]⟩
    let s : Session :=
      ⟨⟨⟨[], []⟩, ⟨[.answered 200 "\x7b\x7d"], []⟩, now, []⟩, .init, ⟨[node], []⟩, []⟩
    ∃ settings r t snapshot, Settings.load ⟨[], []⟩ [] given = .ok settings ∧
      (Command.mk settings (.fixed [plan]) .held 100).execute order s = (.ok r, t) ∧
      r.planPath = some r.beforePath ∧ t.cluster.document = .ok snapshot ∧
      ∃ content, t.world.files.readFile r.beforePath = .ok content ∧
        content ≠ Text.encode snapshot := by
  intro given volume now plan order node s
  let run (settings : Settings) := (Command.mk settings (.fixed [plan]) .held 100).execute order s
  let p : Path := ⟨.relative, ["out", "node-a.json"]⟩
  have hdone : ((Settings.load ⟨[], []⟩ [] given).toOption.bind fun settings =>
      (run settings).1.toOption.map fun r => (r.beforePath, r.planPath)) = some (p, some p) := by
    decide +kernel
  obtain ⟨settings, hload, hrun⟩ := Option.bind_eq_some_iff.mp hdone
  obtain ⟨r, hr, hvalues⟩ := Option.map_eq_some_iff.mp hrun
  obtain ⟨hbefore, hpath⟩ := Prod.mk.inj hvalues
  have hexecute : run settings = (.ok r, (run settings).2) := Prod.ext (ok_of_toOption hr) rfl
  obtain ⟨_, _, snapshot, _, text, _, hdocument, _, hwritten, ⟨l, hwalk, hholds⟩, _⟩ :=
    execute_apart hexecute hpath
  have hdevice : device? l = none := device?_of_suffix (by decide) hwalk
  refine ⟨settings, r, (run settings).2, snapshot, ok_of_toOption hload, hexecute,
    hpath.trans (congrArg some hbefore.symm), hdocument, Text.encode text, ?_, ?_⟩
  · rw [hbefore]
    exact Tree.readFile_of_file? hwalk (hholds hdevice)
  · exact (encode_document_ne hdocument hwritten).symm

end Run
end Rebalance
