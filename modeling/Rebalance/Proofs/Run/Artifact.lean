import Rebalance.Proofs.Files.Path
import Rebalance.Proofs.Files.Tree
import Rebalance.Proofs.Run.World
import Rebalance.Run.Artifact
import Rebalance.Run.Kind

/-!
# What writing the files of a run comes to

* `isFileName_iff`: a name of a single file is neither empty nor dots, and has no slash.
* `Storing`: the two ends of storing a content.  A content that is stored lies at the place its
  path leads to, and every other regular file is as before; one that cannot be stored leaves
  nothing but further folders.
* `Writer.filed`: what writing a document under a template's name comes to, with its two ends
  `Filing`.  Both files of a run are written this way (`Writer.writeBefore_shows`,
  `Writer.writePlan_shows`).
-/

namespace Rebalance

namespace Run

open Files

/-! ## Names of single files -/

/-- A text is the name of a single file unless it is empty, or dots, or has a slash. -/
theorem isFileName_iff
    (name : String) :
    isFileName name = true ↔ name ≠ "" ∧ '/' ∉ name.toList ∧ name ≠ "." ∧ name ≠ ".." := by
  have hname := Path.name_ofString_eq_iff name
  simp only [isFileName, Bool.and_eq_true, bne_iff_ne, beq_iff_eq, hname]
  constructor
  · rintro ⟨⟨⟨hempty, hdot⟩, hup⟩, hslash, _⟩
    exact ⟨hempty, hslash, hdot, hup⟩
  · rintro ⟨hempty, hslash, hdot, hup⟩
    exact ⟨⟨⟨hempty, hdot⟩, hup⟩, hslash, hdot⟩

/-- The name of a single file continues a path as one name. -/
theorem join_of_isFileName
    {name : String}
    (h : isFileName name = true)
    (p : Path) :
    p.join name = p.child name := by
  obtain ⟨hempty, hslash, hdot, _⟩ := (isFileName_iff name).mp h
  exact p.join_of_not_mem hslash hempty hdot

/-! ## Storing a content -/

/-- Whether a failure is of a kind that writing a file may have. -/
def IsWriteFailure (f : Failure) : Prop :=
  f.kind? = none ∨ f.kind? = some .unwrittenFile

/-- Whether a path leads to a place that holds a content, and every other regular file is as it was
before. -/
def Placed (t : Tree) (p : Path) (content : List Nat) (u : Tree) : Prop :=
  ∃ l, u.walk p = .ok l ∧ Tree.Written t l content u

/-- How storing a content ends. -/
inductive Storing (content : List Nat) (p : Path) (t : Tree) : Except Failure Unit → Tree → Prop
  | refused
    {f : Failure}
    {u : Tree}
    (kind : IsWriteFailure f)
    (grows : Tree.Grows t u) :
    Storing content p t (.error f) u
  | placed
    {u : Tree}
    (placed : Placed t p content u) :
    Storing content p t (.ok ()) u

theorem isWriteFailure_of_check
    {p : Path}
    {f : Failure}
    (h : p.check = .error f) :
    IsWriteFailure f := by
  unfold Path.check at h
  split at h
  · cases h
    exact .inl rfl
  · split at h
    · cases h
      exact .inl rfl
    · cases h

theorem storing_store
    (content : List Nat)
    (p : Path)
    (t : Tree) :
    Storing content p t (store content p t).1 (store content p t).2 := by
  have hmade := Tree.grows_makeFolders t p.parent
  unfold store
  split
  · next hcheck => exact .refused (isWriteFailure_of_check hcheck) (Tree.Grows.refl t)
  · split
    · exact .refused (.inl rfl) (Tree.Grows.refl t)
    · split
      · next heq =>
        rw [heq] at hmade
        exact .refused (.inr rfl) hmade
      · next heq =>
        rw [heq] at hmade
        split
        · next hcheck => exact .refused (isWriteFailure_of_check hcheck) hmade
        · split
          · exact .refused (.inr rfl) hmade
          · next hv =>
            obtain ⟨l, hl, hw⟩ := Tree.writeFile_ok hv
            refine .placed ⟨l, hw.keeps.walk hl, hmade.keeps.trans hw.keeps, hw.here, ?_⟩
            intro k hk
            rw [hw.elsewhere k hk, hmade.file? k]

theorem check_of_store
    {content : List Nat}
    {p : Path}
    {t u : Tree}
    (h : store content p t = (.ok (), u)) :
    p.check = .ok () := by
  unfold store at h
  split at h
  · cases h
  · split at h
    · cases h
    · split at h
      · cases h
      · split at h
        · cases h
        · next hcheck => exact hcheck

theorem placed_of_store
    {content : List Nat}
    {p : Path}
    {t u : Tree}
    (h : store content p t = (.ok (), u)) :
    Placed t p content u := by
  have hstoring := storing_store content p t
  rw [h] at hstoring
  cases hstoring with
  | placed placed => exact placed

/-- Writing a file stores its content; the log tells of no change of stage. -/
theorem write_shows
    (content : List Nat)
    (p : Path)
    (w : World) :
    Act.Shows World.sight (write content p) w (store content p w.files).1
      { w.sight with files := (store content p w.files).2 } := by
  have hfiles (u : World) (hu : u.sight = w.sight) : u.files = w.files :=
    congrArg World.Sight.files hu
  unfold write
  refine Act.Meets.next (Act.log_shows ?_ w) ?_
  · rw [String.append_assoc, String.append_assoc]
    exact Log.isMove_of_word _ _ _ fun _ => rfl
  intro u hu
  refine Act.Meets.next (a := (store content p w.files).1)
    (v := { w.sight with files := (store content p w.files).2 }) ?_ ?_
  · unfold Act.Shows Act.Meets Act.on
    dsimp only
    rw [hfiles u hu, ← hu]
    exact ⟨rfl, rfl⟩
  · intro u' hu'
    rw [← hu']
    cases (store content p w.files).1 with
    | ok r => exact Act.pure_shows World.sight () u'
    | error f =>
      cases f with
      | writeFailed target at_ fault => exact Act.abort_shows _ u'
      | _ => exact Act.fail_shows World.sight _ u'

namespace Writer

/-- What writing a document to a path comes to. -/
def filedAt (p : Path) (document : Except Failure String) (t : Tree) : Except Failure Path × Tree :=
  match document with
  | .error f => (.error f, t)
  | .ok text =>
    ((store (Text.encode text) p t).1.map fun _ => p, (store (Text.encode text) p t).2)

/-- What writing a document under a template's name comes to. -/
def filed (w : Writer) (template node : String) (document : Except Failure String) (t : Tree) :
    Except Failure Path × Tree :=
  match w.path template node with
  | .error f => (.error f, t)
  | .ok p => filedAt p document t

/-- How writing a document under a template's name ends. -/
inductive Filing (w : Writer) (template node : String) (document : Except Failure String)
    (t : Tree) : Except Failure Path → Tree → Prop
  | refused
    {f : Failure}
    {u : Tree}
    (kind : IsWriteFailure f)
    (grows : Tree.Grows t u) :
    Filing w template node document t (.error f) u
  | placed
    {name text : String}
    {u : Tree}
    (named : Template.format w.room template node = .ok name)
    (single : isFileName name = true)
    (worded : document = .ok text)
    (placed : Placed t (w.folder.child name) (Text.encode text) u) :
    Filing w template node document t (.ok (w.folder.child name)) u

theorem path_cases
    (w : Writer)
    (template node : String) :
    (∃ f, w.path template node = .error f ∧ IsWriteFailure f) ∨
      ∃ name, Template.format w.room template node = .ok name ∧ isFileName name = true ∧
        w.path template node = .ok (w.folder.child name) := by
  unfold path
  split
  · split
    · exact .inl ⟨_, rfl, .inr rfl⟩
    · exact .inl ⟨_, rfl, .inl rfl⟩
  · next name hname =>
    split
    · next hsingle =>
      exact .inr ⟨name, hname, hsingle, congrArg Except.ok (join_of_isFileName hsingle w.folder)⟩
    · exact .inl ⟨_, rfl, .inr rfl⟩

theorem filing_filed
    (w : Writer)
    (template node : String)
    (document : Except Failure String)
    (hdocument : ∀ f, document = .error f → IsWriteFailure f)
    (t : Tree) :
    Filing w template node document t (w.filed template node document t).1
      (w.filed template node document t).2 := by
  unfold filed
  rcases path_cases w template node with ⟨f, hp, hf⟩ | ⟨name, hname, hsingle, hp⟩
  · rw [hp]
    exact .refused hf (Tree.Grows.refl t)
  · rw [hp]
    cases document with
    | error f => exact .refused (hdocument f rfl) (Tree.Grows.refl t)
    | ok text =>
      have hstoring := storing_store (Text.encode text) (w.folder.child name) t
      dsimp only [filedAt]
      generalize store (Text.encode text) (w.folder.child name) t = x at hstoring ⊢
      obtain ⟨r, u⟩ := x
      cases hstoring with
      | refused kind grows => exact .refused kind grows
      | placed placed => exact .placed hname hsingle rfl placed

theorem artifactPath_shows
    (w : Writer)
    (template node : String)
    (v : World) :
    Act.Shows World.sight (w.artifactPath template node) v (w.path template node) v.sight := by
  unfold artifactPath
  cases w.path template node with
  | ok p => exact Act.pure_shows World.sight p v
  | error f =>
    cases f with
    | templateMisuse cause => exact Act.fail_shows World.sight _ v
    | _ => exact Act.abort_shows _ v

theorem filedAt_shows
    (p : Path)
    (document : Except Failure String)
    (v : World) :
    Act.Shows World.sight
      (do
        let text ← Act.ofExcept document
        write (Text.encode text) p
        return p)
      v (filedAt p document v.files).1 { v.sight with files := (filedAt p document v.files).2 } := by
  cases document with
  | error f => exact (Act.fail_shows World.sight f v).stop ⟨rfl, rfl⟩
  | ok text =>
    refine Act.Meets.next (Act.pure_shows World.sight text v) ?_
    intro u hu
    have hfiles : u.files = v.files := congrArg World.Sight.files hu
    have hwrite := write_shows (Text.encode text) p u
    rw [← hfiles, ← hu]
    dsimp only [filedAt]
    cases hr : (store (Text.encode text) p u.files).1 with
    | error f =>
      rw [hr] at hwrite
      exact hwrite.stop ⟨rfl, rfl⟩
    | ok r =>
      rw [hr] at hwrite
      refine hwrite.next ?_
      intro u' hu'
      rw [← hu']
      exact Act.pure_shows World.sight p u'

/-- The cluster is written under the name of the template for clusters. -/
theorem writeBefore_shows
    (w : Writer)
    (node : String)
    (c : Storage.Cluster)
    (v : World) :
    Act.Shows World.sight (w.writeBefore node c) v (w.filed w.beforeTemplate node c.document v.files).1
      { v.sight with files := (w.filed w.beforeTemplate node c.document v.files).2 } := by
  have hpath := artifactPath_shows w w.beforeTemplate node v
  unfold writeBefore filed
  cases hp : w.path w.beforeTemplate node with
  | error f =>
    rw [hp] at hpath
    exact hpath.stop ⟨rfl, rfl⟩
  | ok p =>
    rw [hp] at hpath
    refine hpath.next ?_
    intro u hu
    have hfiles : u.files = v.files := congrArg World.Sight.files hu
    rw [← hu, ← hfiles]
    exact filedAt_shows p c.document u

/-- A plan is written under the name of the template for plans. -/
theorem writePlan_shows
    (w : Writer)
    (node : String)
    (p : Move.Plan)
    (v : World) :
    Act.Shows World.sight (w.writePlan node p) v (w.filed w.planTemplate node p.document v.files).1
      { v.sight with files := (w.filed w.planTemplate node p.document v.files).2 } := by
  have hpath := artifactPath_shows w w.planTemplate node v
  unfold writePlan filed
  cases hp : w.path w.planTemplate node with
  | error f =>
    rw [hp] at hpath
    exact hpath.stop ⟨rfl, rfl⟩
  | ok target =>
    rw [hp] at hpath
    refine hpath.next ?_
    intro u hu
    refine Act.Meets.next (Act.log_shows ?_ u) ?_
    · exact Log.isMove_of_severity _ (by decide)
    · intro u' hu'
      have hfiles : u'.files = v.files := congrArg World.Sight.files (hu'.trans hu)
      rw [← hu, ← hu', ← hfiles]
      exact filedAt_shows target p.document u'

end Writer
end Run
end Rebalance
