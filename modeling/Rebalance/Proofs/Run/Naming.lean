import Rebalance.Proofs.Run.Artifact
import Rebalance.Proofs.Template.Literal
import Rebalance.Proofs.Text.Codes

/-!
# Where the files of a run lie

* `Writer.exists_artifactPath_iff`: a node's file has a path just when its template gives the name
  of a single file; the path is that name in the folder.
* `Writer.artifactPath_around_ne`: under a template of literal text and one plain field, nodes of
  different names have different files.
* `artifacts_in_folder`: every file of a node lies in the folder itself, under its own name, and the
  files of different nodes do not collide.
-/

namespace Rebalance
namespace Run

open Files

namespace Writer

variable (w : Writer) {template node name : String} (v : World)

theorem artifactPath_fst
    (template node : String) :
    (w.artifactPath template node v).1 = w.path template node :=
  (w.artifactPath_shows template node v).1

/-- A path that a node's file has is that of the template's name in the folder. -/
theorem exists_name_of_artifactPath
    {p : Path}
    (h : (w.artifactPath template node v).1 = .ok p) :
    ∃ name, Template.format w.room template node = .ok name ∧ isFileName name = true ∧
      p = w.folder.child name := by
  rw [artifactPath_fst] at h
  rcases w.path_cases template node with ⟨f, hf, _⟩ | ⟨name, hname, hsingle, hpath⟩
  · rw [hf] at h
    cases h
  · rw [hpath] at h
    cases h
    exact ⟨name, hname, hsingle, rfl⟩

/-- A node's file has a path just when its name is that of a single file. -/
theorem exists_artifactPath_iff
    (hname : Template.format w.room template node = .ok name) :
    (∃ p, (w.artifactPath template node v).1 = .ok p) ↔ isFileName name = true := by
  constructor
  · rintro ⟨p, hp⟩
    obtain ⟨name', hname', hsingle, _⟩ := w.exists_name_of_artifactPath v hp
    rw [hname] at hname'
    cases hname'
    exact hsingle
  · intro hsingle
    refine ⟨w.folder.join name, ?_⟩
    simp [artifactPath_fst, path, hname, hsingle]

/-- Under a template of literal text and one plain field, nodes of different names have different
files. -/
theorem artifactPath_around_ne
    {front back a b : String}
    (hne : a ≠ b)
    {p q : Path}
    (hp : (w.artifactPath (Template.around front back) a v).1 = .ok p)
    (hq : (w.artifactPath (Template.around front back) b v).1 = .ok q) :
    p ≠ q := by
  obtain ⟨m, hm, _, rfl⟩ := w.exists_name_of_artifactPath v hp
  obtain ⟨n, hn, _, rfl⟩ := w.exists_name_of_artifactPath v hq
  rw [Template.format_around] at hm hn
  cases hm
  cases hn
  intro h
  have hnames : Text.concat [front, a, back] = Text.concat [front, b, back] := Path.child_inj.mp h
  refine hne (Text.codes_inj ?_)
  simpa [Text.codes_concat] using congrArg Text.codes hnames

end Writer

/-- Every file of a node lies in the output folder itself.  A template's name is taken just when it
is not empty, has no slash, and is neither one dot nor two; it is then the last name of the path,
and the folder is the rest.  Under a template of literal text and one plain field, two nodes never
share a file. -/
theorem artifacts_in_folder
    (folder before plan : String)
    (room : Nat)
    (v : World) :
    let w : Writer := ⟨.ofString folder, before, plan, room⟩
    (∀ template node name, Template.format w.room template node = .ok name →
      ((∃ p, (w.artifactPath template node v).1 = .ok p) ↔
        name ≠ "" ∧ '/' ∉ name.toList ∧ name ≠ "." ∧ name ≠ "..") ∧
      ∀ p, (w.artifactPath template node v).1 = .ok p →
        p.name = name ∧ p.parent = .ofString folder) ∧
    ∀ front back a b p q, a ≠ b →
      (w.artifactPath (Template.around front back) a v).1 = .ok p →
      (w.artifactPath (Template.around front back) b v).1 = .ok q →
      p ≠ q := by
  intro w
  constructor
  · intro template node name hname
    constructor
    · rw [w.exists_artifactPath_iff v hname, isFileName_iff]
    · intro p hp
      obtain ⟨name', hname', _, rfl⟩ := w.exists_name_of_artifactPath v hp
      rw [hname] at hname'
      cases hname'
      exact ⟨Path.name_child _ _, Path.parent_child _ _⟩
  · intro front back a b p q hne hp hq
    exact w.artifactPath_around_ne v hne hp hq

/-- Two nodes and a text with a slash, under a template with a brace of its own, in a folder that is
not spelled in order. -/
theorem artifacts_in_folder_brace :
    let w : Writer := ⟨.ofString "out//./x/", "", "", 100⟩
    let v : World := ⟨⟨[], []⟩, ⟨[], []⟩, ⟨2024, 1, 1, 0, 0, 0, 0, none⟩, []⟩
    let template := "\x7b\x7b\x7bnode\x7d.json"
    (∃ p q, (w.artifactPath template "a" v).1 = .ok p ∧
      (w.artifactPath template "b" v).1 = .ok q ∧
      p.name = "\x7ba.json" ∧ p.parent = ⟨.relative, ["out", "x"]⟩ ∧ p ≠ q) ∧
    ¬ ∃ p, (w.artifactPath template "a/b" v).1 = .ok p := by
  intro w v template
  have htemplate : template = Template.around "\x7b" ".json" := by decide +kernel
  have hname (node : String) :
      Template.format w.room template node = .ok (Text.concat ["\x7b", node, ".json"]) := by
    rw [htemplate, Template.format_around]
  obtain ⟨hsingle, happart⟩ := artifacts_in_folder "out//./x/" "" "" 100 v
  obtain ⟨hiff, hlies⟩ := hsingle template "a" _ (hname "a")
  obtain ⟨p, hp⟩ := hiff.mpr (by decide)
  obtain ⟨q, hq⟩ := (hsingle template "b" _ (hname "b")).1.mpr (by decide)
  obtain ⟨hlast, hparent⟩ := hlies p hp
  refine ⟨⟨p, q, hp, hq, hlast, hparent.trans (by decide +kernel), ?_⟩, ?_⟩
  · rw [htemplate] at hp hq
    exact happart _ _ _ _ _ _ (by decide) hp hq
  · rw [(hsingle template "a/b" _ (hname "a/b")).1]
    decide

end Run
end Rebalance
