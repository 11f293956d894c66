import Rebalance.Proofs.Move.RoundTrip
import Rebalance.Proofs.Run.Writing
import Rebalance.Proofs.Storage.RoundTrip
import Rebalance.Proofs.Template.Misfit

/-!
# How the files of a run can fail to be written

* `Artifact`: one of the two files, with its template, its document, and the action that writes it.
* `Artifact.Delivered`, `Artifact.Refused`, `Artifact.Escapes`: a file that is written; one that is
  not, for a reason the writer reports; and one whose failure is of no kind.
* `artifact_contract`: each of the three comes to its own result, and there is no other.  A template
  that takes no items and has no layouts, with texts and paths that can be written, never leads to a
  failure without a kind.
-/

namespace Rebalance
namespace Run

open Files
open Storage (AreWritable)

/-- A file of a run: the cluster as it was before, or a plan. -/
inductive Artifact
  | before (cluster : Storage.Cluster)
  | plan (plan : Move.Plan)

namespace Artifact

/-- The template that names the file. -/
def template (w : Writer) : Artifact → String
  | .before _ => w.beforeTemplate
  | .plan _ => w.planTemplate

/-- The text of the file. -/
def document : Artifact → Except Failure String
  | .before c => c.document
  | .plan p => p.document

/-- The texts that stand in the file. -/
def texts : Artifact → List String
  | .before c => c.texts
  | .plan p => p.texts

/-- Writes the file for a node. -/
def write (w : Writer) (node : String) : Artifact → Act World Path
  | .before c => w.writeBefore node c
  | .plan p => w.writePlan node p

variable (a : Artifact) (w : Writer) (node : String)

theorem write_shows
    (v : World) :
    Act.Shows World.sight (a.write w node) v
      (w.filed (a.template w) node a.document v.files).1
      { v.sight with files := (w.filed (a.template w) node a.document v.files).2 } := by
  cases a with
  | before c => exact w.writeBefore_shows node c v
  | plan p => exact w.writePlan_shows node p v

theorem exists_document_iff :
    (∃ text, a.document = .ok text) ↔ AreWritable a.texts := by
  cases a with
  | before c => exact Storage.Cluster.exists_document_iff
  | plan p => exact Move.Plan.exists_document_iff

theorem kind?_of_document
    {a : Artifact}
    {f : Failure}
    (h : a.document = .error f) :
    f.kind? = none := by
  cases a with
  | before c =>
    obtain ⟨_, rfl⟩ := Failure.mapError_error h
    rfl
  | plan p =>
    obtain ⟨_, rfl⟩ := Failure.mapError_error h
    rfl

/-! ## The three ends -/

/-- Whether a file is written: its template names a single file, its document has a text, and the
text can be stored. -/
def Delivered (t : Tree) : Prop :=
  ∃ name text, Template.format w.room (a.template w) node = .ok name ∧ isFileName name = true ∧
    a.document = .ok text ∧ Storable (Text.encode text) (w.folder.child name) t

/-- Whether a file is not written for a reason that is reported: its template does not fit, or names
no single file, or the tree does not allow it. -/
inductive Refused (t : Tree) : Prop
  | misfit
    {cause : Template.Fault}
    (named : Template.format w.room (a.template w) node = .error cause)
    (misfit : cause.isMisfit = true)
  | badName
    {name : String}
    (named : Template.format w.room (a.template w) node = .ok name)
    (single : ¬ isFileName name = true)
  | blocked
    {name text : String}
    (named : Template.format w.room (a.template w) node = .ok name)
    (single : isFileName name = true)
    (worded : a.document = .ok text)
    (blocked : Blocked (Text.encode text) (w.folder.child name) t)

/-- Whether a file is not written for a reason of no kind: its template misuses a value, or a text
in it cannot be written, or no file can have its path, or too many folders are missing on the way to
it. -/
inductive Escapes (t : Tree) : Prop
  | misuse
    {cause : Template.Fault}
    (named : Template.format w.room (a.template w) node = .error cause)
    (misuse : ¬ cause.isMisfit = true)
  | wordless
    {name : String}
    (named : Template.format w.room (a.template w) node = .ok name)
    (single : isFileName name = true)
    (wordless : ¬ AreWritable a.texts)
  | stray
    {name : String}
    (named : Template.format w.room (a.template w) node = .ok name)
    (single : isFileName name = true)
    (writable : AreWritable a.texts)
    (stray : Stray (w.folder.child name) t)
  | deep
    {name : String}
    (named : Template.format w.room (a.template w) node = .ok name)
    (single : isFileName name = true)
    (writable : AreWritable a.texts)
    (deep : t.IsDeep w.folder)

/-- Every file comes to one of the three ends, and each end to its own result. -/
theorem filed_cases
    (t : Tree) :
    (a.Delivered w node t ∧ ∃ p, (w.filed (a.template w) node a.document t).1 = .ok p) ∨
      (a.Refused w node t ∧ ∃ f, (w.filed (a.template w) node a.document t).1 = .error f ∧
        f.kind? = some .unwrittenFile) ∨
      a.Escapes w node t ∧ ∃ f, (w.filed (a.template w) node a.document t).1 = .error f ∧
        f.kind? = none := by
  unfold Writer.filed Writer.path
  cases hname : Template.format w.room (a.template w) node with
  | error cause =>
    by_cases hmisfit : cause.isMisfit = true
    · simp only [hmisfit, if_true]
      exact .inr (.inl ⟨.misfit hname hmisfit, _, rfl, rfl⟩)
    · simp only [hmisfit]
      exact .inr (.inr ⟨.misuse hname hmisfit, _, rfl, rfl⟩)
  | ok name =>
    by_cases hsingle : isFileName name = true
    · simp only [hsingle, if_true, join_of_isFileName hsingle w.folder]
      cases hdocument : a.document with
      | error f =>
        have hwordless : ¬ AreWritable a.texts := by
          rw [← exists_document_iff, hdocument]
          simp
        exact .inr (.inr ⟨.wordless hname hsingle hwordless, f, rfl, kind?_of_document hdocument⟩)
      | ok text =>
        have hwritable := (exists_document_iff a).mp ⟨text, hdocument⟩
        simp only [Writer.filedAt]
        rcases store_cases (Text.encode text) (w.folder.child name) t with
          ⟨hstorable, hok⟩ | ⟨hstray | hdeep, f, hf, hkind⟩ | ⟨hblocked, f, hf, hkind⟩
        · exact .inl ⟨⟨name, text, hname, hsingle, hdocument, hstorable⟩, _, by rw [hok]; rfl⟩
        · exact .inr (.inr ⟨.stray hname hsingle hwritable hstray, f, by rw [hf]; rfl, hkind⟩)
        · rw [Path.parent_child] at hdeep
          exact .inr (.inr ⟨.deep hname hsingle hwritable hdeep, f, by rw [hf]; rfl, hkind⟩)
        · exact .inr (.inl ⟨.blocked hname hsingle hdocument hblocked, f, by rw [hf]; rfl, hkind⟩)
    · simp only [hsingle]
      exact .inr (.inl ⟨.badName hname hsingle, _, rfl, rfl⟩)

/-! ## No two ends at once -/

variable {a w node} {t : Tree}

theorem Delivered.not_refused
    (h : a.Delivered w node t) :
    ¬ a.Refused w node t := by
  obtain ⟨name, text, hname, hsingle, hdocument, hstorable⟩ := h
  intro hrefused
  cases hrefused with
  | misfit named _ => simp [hname] at named
  | badName named single =>
    cases hname.symm.trans named
    exact single hsingle
  | blocked named _ worded blocked =>
    cases hname.symm.trans named
    cases hdocument.symm.trans worded
    exact hstorable.not_blocked blocked

theorem Delivered.not_escapes
    (h : a.Delivered w node t) :
    ¬ a.Escapes w node t := by
  obtain ⟨name, text, hname, hsingle, hdocument, hstorable⟩ := h
  intro hescapes
  cases hescapes with
  | misuse named _ => simp [hname] at named
  | wordless _ _ wordless => exact wordless ((exists_document_iff a).mp ⟨text, hdocument⟩)
  | stray named _ _ stray =>
    cases hname.symm.trans named
    exact hstorable.not_stray stray
  | deep named _ _ deep =>
    rw [← Path.parent_child w.folder name] at deep
    exact hstorable.shallow deep

theorem Refused.not_escapes
    (h : a.Refused w node t) :
    ¬ a.Escapes w node t := by
  intro hescapes
  cases h with
  | misfit named misfit =>
    cases hescapes with
    | misuse named' misuse =>
      cases named.symm.trans named'
      exact misuse misfit
    | wordless named' _ _ => simp [named] at named'
    | stray named' _ _ _ => simp [named] at named'
    | deep named' _ _ _ => simp [named] at named'
  | badName named single =>
    cases hescapes with
    | misuse named' _ => simp [named] at named'
    | wordless named' single' _ =>
      cases named.symm.trans named'
      exact single single'
    | stray named' single' _ _ =>
      cases named.symm.trans named'
      exact single single'
    | deep named' single' _ _ =>
      cases named.symm.trans named'
      exact single single'
  | @blocked name _ named _ worded blocked =>
    cases hescapes with
    | misuse named' _ => simp [named] at named'
    | wordless _ _ wordless => exact wordless ((exists_document_iff a).mp ⟨_, worded⟩)
    | stray named' _ _ stray =>
      cases named.symm.trans named'
      exact stray.not_blocked blocked
    | deep _ _ _ deep =>
      rw [← Path.parent_child w.folder name] at deep
      exact blocked.2.1 deep

/-! ## The contract of the writer -/

theorem exists_filed_iff :
    (∃ p, (w.filed (a.template w) node a.document t).1 = .ok p) ↔ a.Delivered w node t := by
  rcases filed_cases a w node t with ⟨h, hok⟩ | ⟨h, f, hf, _⟩ | ⟨h, f, hf, _⟩
  · exact iff_of_true hok h
  · exact iff_of_false (by simp [hf]) fun hdelivered => hdelivered.not_refused h
  · exact iff_of_false (by simp [hf]) fun hdelivered => hdelivered.not_escapes h

/-- The kind of a failure tells whether the file is refused. -/
theorem filed_sorted :
    ((∃ f, (w.filed (a.template w) node a.document t).1 = .error f ∧
        f.kind? = some .unwrittenFile) ↔ a.Refused w node t) ∧
      ((∃ f, (w.filed (a.template w) node a.document t).1 = .error f ∧ f.kind? = none) ↔
        a.Escapes w node t) ∧
      ∀ f, (w.filed (a.template w) node a.document t).1 = .error f →
        f.kind? = some .unwrittenFile ∨ f.kind? = none := by
  rcases filed_cases a w node t with ⟨h, p, hp⟩ | ⟨h, f, hf, hkind⟩ | ⟨h, f, hf, hkind⟩
  · exact ⟨iff_of_false (by simp [hp]) h.not_refused, iff_of_false (by simp [hp]) h.not_escapes,
      by simp [hp]⟩
  · exact ⟨iff_of_true ⟨f, hf, hkind⟩ h, iff_of_false (by simp [hf, hkind]) h.not_escapes,
      by simp [hf, hkind]⟩
  · exact ⟨iff_of_false (by simp [hf, hkind]) fun hrefused => hrefused.not_escapes h,
      iff_of_true ⟨f, hf, hkind⟩ h, by simp [hf, hkind]⟩

/-- A file with a bare template, with texts and paths that can be written, does not fail without a
kind. -/
theorem not_escapes_of_isBare
    (hbare : Template.IsBare (a.template w).toList)
    (htexts : AreWritable a.texts)
    (hfolder : w.folder.IsUsable)
    (hshort : w.folder.names.length < Tree.levelLimit)
    (hpath : ∀ name, Template.format w.room (a.template w) node = .ok name →
      (w.folder.child name).IsUsable) :
    ¬ a.Escapes w node t := by
  intro hescapes
  cases hescapes with
  | misuse named misuse => exact misuse (Template.isMisfit_of_format hbare named)
  | wordless _ _ wordless => exact wordless htexts
  | stray named _ _ stray =>
    rcases stray with hparent | ⟨_, hchild⟩
    · rw [Path.parent_child] at hparent
      exact hparent hfolder
    · exact hchild (hpath _ named)
  | deep _ _ _ deep => exact Nat.not_le.mpr hshort (Tree.levelLimit_le_of_isDeep deep)

end Artifact

/-- A file of a run is written just when its template names a single file, no text in it holds a
surrogate, and it can be stored; it then lies in the folder under that name.  It is a file that is
not written just when the template does not fit, or names no single file, or the tree does not allow
it.  Any other failure has no kind: the template misuses a value, or a text cannot be written, or no
file can have the path, or too many folders are missing on the way.  None of these happens under a
template without items and layouts when the texts and paths can be written and the folder lies less
deep than the limit. -/
theorem artifact_contract
    (a : Artifact)
    (w : Writer)
    (node : String)
    (v : World) :
    let r := a.write w node v
    ((∃ p, r.1 = .ok p) ↔ a.Delivered w node v.files) ∧
    (∀ p, r.1 = .ok p →
      ∃ name text, Template.format w.room (a.template w) node = .ok name ∧ isFileName name = true ∧
        p = w.folder.child name ∧ a.document = .ok text ∧
        Placed v.files p (Text.encode text) r.2.files) ∧
    ((∃ f, r.1 = .error f ∧ f.kind? = some .unwrittenFile) ↔ a.Refused w node v.files) ∧
    ((∃ f, r.1 = .error f ∧ f.kind? = none) ↔ a.Escapes w node v.files) ∧
    (∀ f, r.1 = .error f → f.kind? = some .unwrittenFile ∨ f.kind? = none) ∧
    (Template.IsBare (a.template w).toList → AreWritable a.texts → w.folder.IsUsable →
      w.folder.names.length < Tree.levelLimit →
      (∀ name, Template.format w.room (a.template w) node = .ok name →
        (w.folder.child name).IsUsable) →
      ∀ f, r.1 = .error f → f.kind? = some .unwrittenFile) := by
  intro r
  obtain ⟨hresult, hsight⟩ := a.write_shows w node v
  have hfiles : r.2.files = (w.filed (a.template w) node a.document v.files).2 :=
    congrArg World.Sight.files hsight
  have hr : r.1 = (w.filed (a.template w) node a.document v.files).1 := hresult
  obtain ⟨hrefused, hescapes, hkinds⟩ := @Artifact.filed_sorted a w node v.files
  rw [hr, hfiles]
  refine ⟨Artifact.exists_filed_iff, ?_, hrefused, hescapes, hkinds, ?_⟩
  · intro p hp
    have hfiling := w.filing_filed (a.template w) node a.document
      (fun _ h => .inl (Artifact.kind?_of_document h)) v.files
    rw [hp] at hfiling
    cases hfiling with
    | placed named single worded placed => exact ⟨_, _, named, single, rfl, worded, placed⟩
  · intro hbare htexts hfolder hshort hpath f hf
    rcases hkinds f hf with hkind | hkind
    · exact hkind
    · exact absurd (hescapes.mp ⟨f, hf, hkind⟩)
        (Artifact.not_escapes_of_isBare hbare htexts hfolder hshort hpath)

/-- An empty cluster under five templates and folders: an item of a text by a name, a folder with a
NUL, a folder that lies too deep, an unknown field, and a plain field. -/
theorem artifact_contract_of_each :
    let a : Artifact := .before ⟨[], []⟩
    let v : World := ⟨⟨[], []⟩, ⟨[], []⟩, ⟨2024, 1, 1, 0, 0, 0, 0, none⟩, []⟩
    let out : Path := .ofString "out"
    let nul : Path := .ofString "a\x00b"
    let deep : Path := ⟨.relative, List.replicate (Tree.levelLimit + 1) "a"⟩
    let written (folder : Path) (template : String) := (a.write ⟨folder, template, "", 100⟩ "n" v).1
    (∃ f, written out "\x7bnode[a]\x7d" = .error f ∧ f.kind? = none) ∧
    (∃ f, written nul "\x7bnode\x7d" = .error f ∧ f.kind? = none) ∧
    (∃ f, written deep "\x7bnode\x7d" = .error f ∧ f.kind? = none) ∧
    (∃ f, written out "\x7bname\x7d" = .error f ∧ f.kind? = some .unwrittenFile) ∧
    written out "\x7bnode\x7d" = .ok ⟨.relative, ["out", "n"]⟩ := by
  intro a v out nul deep written
  have hcontract (folder : Path) (template : String) :=
    artifact_contract a ⟨folder, template, "", 100⟩ "n" v
  obtain ⟨_, _, _, hitem, _⟩ := hcontract out "\x7bnode[a]\x7d"
  obtain ⟨_, _, _, hnul, _⟩ := hcontract nul "\x7bnode\x7d"
  obtain ⟨_, _, _, hdeep, _⟩ := hcontract deep "\x7bnode\x7d"
  obtain ⟨_, _, hname, _⟩ := hcontract out "\x7bname\x7d"
  have hkey : Template.format 100 "\x7bnode[a]\x7d" "n" = .error .textKey := by decide +kernel
  have hunknown : Template.format 100 "\x7bname\x7d" "n" = .error .unknownName := by decide +kernel
  have hnode : Template.format 100 "\x7bnode\x7d" "n" = .ok "n" := by decide +kernel
  have hfolder : ¬ nul.IsUsable := by decide +kernel
  have hsingle : isFileName "n" = true := by decide +kernel
  have hwritable : AreWritable a.texts := by decide +kernel
  exact ⟨hitem.mpr (.misuse hkey (by decide)),
    hnul.mpr (.stray hnode hsingle hwritable (.inl hfolder)),
    hdeep.mpr (.deep hnode hsingle hwritable Tree.isDeep_replicate),
    hname.mpr (.misfit hunknown (by decide)), ok_of_toOption (by decide +kernel)⟩

end Run
end Rebalance
