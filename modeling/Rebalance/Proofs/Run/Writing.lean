import Rebalance.Proofs.Files.Making
import Rebalance.Proofs.Run.Storing

/-!
# When a file is written, and what that changes

* `Storable`: a content whose file can be written: both paths can be used, the folders on the way
  are there or can be made, not too many of them, and the place takes the content (`store_ok_iff`).
* `Stray`, `Blocked`: what else there is.  A path that no file can have, or whose missing folders
  are too many, is refused without a kind; a path that the tree does not allow is a file that is
  not written (`store_cases`).
* `PavedAt`: a location that holds what it held, or a new folder above a path.
* `write_exact`: writing a file changes that file, adds folders above it, and leaves the rest alone;
  a file that is not written changes no file.  Writing once more is as if the first time had made
  the folders only.
-/

namespace Rebalance
namespace Run

open Files

/-! ## What can be stored -/

/-- Whether the place of a path takes a content once the folders on the way are made. -/
structure Receives (content : List Nat) (p : Path) (t : Tree) : Prop where
  fits : p.Fits
  apart : t.place p ∉ t.way p.parent
  accepts : t.Accepts (t.place p) content

/-- Whether a content can be stored: its folder and its path can be used, the folders on the way are
there or can be made, those that are missing are not too many, and the place takes it. -/
structure Storable (content : List Nat) (p : Path) (t : Tree) : Prop where
  folder : p.parent.IsUsable
  shallow : ¬ t.IsDeep p.parent
  passable : t.Passable p.parent
  usable : p.IsUsable
  receives : Receives content p t

/-- Whether no file can have a path, or its folder: the text is no name. -/
def Stray (p : Path) (t : Tree) : Prop :=
  ¬ p.parent.IsUsable ∨ t.Passable p.parent ∧ ¬ p.IsUsable

/-- Whether a tree does not allow a file at a path that can be used. -/
def Blocked (content : List Nat) (p : Path) (t : Tree) : Prop :=
  p.parent.IsUsable ∧ ¬ t.IsDeep p.parent ∧
    (¬ t.Passable p.parent ∨ t.Passable p.parent ∧ p.IsUsable ∧ ¬ Receives content p t)

section Made

variable {p : Path} {t u : Tree}

/-- Where the folders are made, a path that fits leads to its place. -/
theorem walk_of_made
    (hmade : t.makeFolders p.parent = (u, .ok ()))
    (hfits : p.Fits) :
    u.walk p = .ok (t.place p) := by
  have hpaved := Tree.paved_makeFolders t p.parent
  rw [hmade] at hpaved
  obtain ⟨_, hway⟩ := Tree.isFolder_iff_way.mp (Tree.isFolder_of_makeFolders hmade)
  exact Tree.walk_eq_ok_iff.mpr ⟨hfits, hway, (Tree.place_congr hpaved.working p).symm⟩

/-- Once the folders are made, a place takes a content just when it took it before and is none of
the folders. -/
theorem accepts_made_iff
    {content : List Nat}
    (hmade : t.makeFolders p.parent = (u, .ok ())) :
    u.Accepts (t.place p) content ↔
      t.place p ∉ t.way p.parent ∧ t.Accepts (t.place p) content := by
  have hpaved := Tree.paved_makeFolders t p.parent
  rw [hmade] at hpaved
  obtain ⟨_, hway⟩ := Tree.isFolder_iff_way.mp (Tree.isFolder_of_makeFolders hmade)
  rw [Tree.way_congr hpaved.working] at hway
  constructor
  · intro h
    have hsame : u.entry? (t.place p) = t.entry? (t.place p) := by
      rcases hpaved.entry (t.place p) with hsame | ⟨_, hfolder, _⟩
      · exact hsame
      · exact absurd hfolder h.unfolded
    refine ⟨fun hmem => h.unfolded (hway _ hmem), hsame ▸ h.unfolded, h.fitting, ?_⟩
    intro hdevice hnone
    exact h.room hdevice (hsame.trans hnone)
  · rintro ⟨hapart, h⟩
    have hsame : u.entry? (t.place p) = t.entry? (t.place p) := by
      rcases hpaved.entry (t.place p) with hsame | ⟨_, _, _, hmem⟩
      · exact hsame
      · exact absurd hmem hapart
    exact ⟨hsame ▸ h.unfolded, h.fitting, fun hdevice hnone =>
      h.room hdevice (hsame.symm.trans hnone)⟩

/-- Once the folders are made, a file is written just when its place receives the content. -/
theorem exists_writeFile_made_iff
    (content : List Nat)
    (hmade : t.makeFolders p.parent = (u, .ok ())) :
    (∃ v, u.writeFile p content = .ok v) ↔ Receives content p t := by
  constructor
  · rintro ⟨v, hv⟩
    obtain ⟨l, hwalk, haccepts, _⟩ := Tree.accepts_of_writeFile hv
    obtain ⟨hfits, _, _⟩ := Tree.walk_eq_ok_iff.mp hwalk
    have hplace : l = t.place p := by
      rw [walk_of_made hmade hfits] at hwalk
      exact (Except.ok.inj hwalk).symm
    obtain ⟨hapart, haccepts⟩ := (accepts_made_iff hmade).mp (hplace ▸ haccepts)
    exact ⟨hfits, hapart, haccepts⟩
  · intro h
    have haccepts := (accepts_made_iff hmade).mpr ⟨h.apart, h.accepts⟩
    exact ⟨_, haccepts.writeFile (walk_of_made hmade h.fits)⟩

end Made

/-- A content is stored, or its path strays or is too deep, or the tree does not allow it; a path
that strays or is too deep is refused without a kind, and the rest are files that are not
written. -/
theorem store_cases
    (content : List Nat)
    (p : Path)
    (t : Tree) :
    Storable content p t ∧ (store content p t).1 = .ok () ∨
      (Stray p t ∨ t.IsDeep p.parent) ∧
        (∃ f, (store content p t).1 = .error f ∧ f.kind? = none) ∨
      Blocked content p t ∧
        ∃ f, (store content p t).1 = .error f ∧ f.kind? = some .unwrittenFile := by
  have hmakes := Tree.makeFolders_ok_iff (t := t) (p := p.parent)
  unfold store
  cases hfolder : p.parent.check with
  | error f =>
    refine .inr (.inl ⟨.inl (.inl fun h => ?_), f, rfl, Path.kind?_of_check hfolder⟩)
    rw [Path.check_ok_iff.mpr h] at hfolder
    cases hfolder
  | ok r =>
    have hparent := Path.check_ok_iff.mp hfolder
    by_cases hdeep : t.IsDeep p.parent
    · simp only [if_pos hdeep]
      exact .inr (.inl ⟨.inr hdeep, _, rfl, rfl⟩)
    simp only [if_neg hdeep]
    generalize hmade : t.makeFolders p.parent = made at hmakes
    obtain ⟨u, r⟩ := made
    cases r with
    | error e =>
      refine .inr (.inr ⟨⟨hparent, hdeep, .inl fun h => ?_⟩, _, rfl, rfl⟩)
      cases hmakes.mpr h
    | ok r =>
      have hpassable := hmakes.mp rfl
      dsimp only
      cases hcheck : p.check with
      | error f =>
        have hstray : Stray p t := by
          refine .inr ⟨hpassable, fun h => ?_⟩
          rw [Path.check_ok_iff.mpr h] at hcheck
          cases hcheck
        exact .inr (.inl ⟨.inl hstray, f, rfl, Path.kind?_of_check hcheck⟩)
      | ok r =>
        have husable := Path.check_ok_iff.mp hcheck
        have hwrites := exists_writeFile_made_iff content hmade
        dsimp only
        cases hv : u.writeFile p content with
        | error fault =>
          refine .inr (.inr ⟨⟨hparent, hdeep, .inr ⟨hpassable, husable, fun h => ?_⟩⟩, _, rfl, rfl⟩)
          obtain ⟨v, hv'⟩ := hwrites.mpr h
          rw [hv] at hv'
          cases hv'
        | ok v => exact .inl ⟨⟨hparent, hdeep, hpassable, husable, hwrites.mp ⟨v, hv⟩⟩, rfl⟩

section Store

variable {content : List Nat} {p : Path} {t : Tree}

theorem Storable.not_stray
    (h : Storable content p t) :
    ¬ Stray p t := by
  rintro (hfolder | ⟨_, husable⟩)
  · exact hfolder h.folder
  · exact husable h.usable

theorem Storable.not_blocked
    (h : Storable content p t) :
    ¬ Blocked content p t := by
  rintro ⟨_, _, hpassable | ⟨_, _, hreceives⟩⟩
  · exact hpassable h.passable
  · exact hreceives h.receives

theorem Stray.not_blocked
    (h : Stray p t) :
    ¬ Blocked content p t := by
  rintro ⟨hfolder, _, hblocked⟩
  rcases h with hstray | ⟨hpassable, husable⟩
  · exact hstray hfolder
  · rcases hblocked with himpassable | ⟨_, hp, _⟩
    · exact himpassable hpassable
    · exact husable hp

/-- A content is stored just when it can be. -/
theorem store_ok_iff :
    (store content p t).1 = .ok () ↔ Storable content p t := by
  rcases store_cases content p t with
    ⟨h, hok⟩ | ⟨hstray | hdeep, f, hf, _⟩ | ⟨hblocked, f, hf, _⟩
  · exact iff_of_true hok h
  · exact iff_of_false (by simp [hf]) fun h => h.not_stray hstray
  · exact iff_of_false (by simp [hf]) fun h => h.shallow hdeep
  · exact iff_of_false (by simp [hf]) fun h => h.not_blocked hblocked

end Store

/-! ## What storing changes -/

/-- Whether a location holds in one tree what it holds in another, or a folder where nothing was and
where a path above a given one leads. -/
def PavedAt (t : Tree) (p : Path) (u : Tree) (l : Location) : Prop :=
  u.entry? l = t.entry? l ∨
    t.entry? l = none ∧ u.entry? l = some .folder ∧ ∃ q : Path, q.IsAbove p ∧ l = t.place q

/-- Further folders on the way to the folder of a path are above the path. -/
theorem pavedAt_of_paved
    {p : Path}
    {t u : Tree}
    (h : Tree.Paved t p.parent u)
    (l : Location) :
    PavedAt t p u l := by
  rcases h.entry l with hsame | ⟨hnone, hfolder, _, hway⟩
  · exact .inl hsame
  · obtain ⟨q, hroot, hfront, rfl⟩ := Tree.mem_way_iff.mp hway
    refine .inr ⟨hnone, hfolder, q, Path.isAbove_of_prefix_parent ?_ hroot hfront, rfl⟩
    -- A path without names begins and ends at a folder that is there.
    intro hnames
    have hq : q.names = [] := by simpa [Path.parent, hnames] using hfront
    have hstart := Tree.entry?_start t q
    rw [Tree.place, hq, List.foldl_nil, hstart] at hnone
    cases hnone

section Changes

variable {content : List Nat} {p : Path} {t u : Tree}

/-- A content that is stored is at its place, and anywhere else there are at most new folders. -/
theorem pavedAt_of_store
    (h : store content p t = (.ok (), u))
    {l : Location}
    (hl : l ≠ t.place p) :
    PavedAt t p u l := by
  obtain ⟨w, k, hmade, hready, rfl⟩ := ready_of_store h
  have hpaved := Tree.paved_makeFolders t p.parent
  rw [hmade] at hpaved
  have hk : k = t.place p := by
    rw [Tree.place_of_walk hready.leads, Tree.place_congr hpaved.working]
  have hsame : Tree.entry? (w.put k content) l = w.entry? l := by
    rw [hready.accepts.entry?_put, if_neg]
    rintro ⟨heq, _⟩
    exact hl (heq ▸ hk)
  unfold PavedAt
  rw [hsame]
  exact pavedAt_of_paved hpaved l

/-- A path that a content was stored at leads to its place, where the content is read. -/
theorem reads_of_store
    (h : store content p t = (.ok (), u)) :
    u.walk p = .ok (t.place p) ∧
      (device? (t.place p) = none → u.readFile p = .ok content) ∧
      ∀ l, l ≠ t.place p → u.file? l = t.file? l := by
  obtain ⟨k, hwalk, hwritten⟩ := placed_of_store h
  have hk : k = t.place p := by
    rw [Tree.place_of_walk hwalk, Tree.place_congr hwritten.keeps.working]
  subst hk
  refine ⟨hwalk, ?_, hwritten.elsewhere⟩
  intro hdevice
  exact Tree.readFile_of_file? hwalk (by rw [hwritten.here, if_pos hdevice])

/-- However a content fails to be stored, at most new folders are left. -/
theorem paved_of_store_error
    {f : Failure}
    (h : store content p t = (.error f, u)) :
    Tree.Paved t p.parent u := by
  have hpaved := Tree.paved_makeFolders t p.parent
  unfold store at h
  split at h
  · cases h
    exact Tree.Paved.refl t p.parent
  · split at h
    · cases h
      exact Tree.Paved.refl t p.parent
    · split at h
      · next hmade =>
        cases h
        rw [hmade] at hpaved
        exact hpaved
      · next hmade =>
        rw [hmade] at hpaved
        split at h
        · cases h
          exact hpaved
        · split at h
          · cases h
            exact hpaved
          · cases h

/-- Storing once more is as if the first time had only made the folders. -/
theorem store_store
    (more : List Nat)
    (h : store content p t = (.ok (), u)) :
    store more p u = store more p (t.makeFolders p.parent).1 := by
  obtain ⟨w, l, hmade, hready, rfl⟩ := ready_of_store h
  rw [hmade]
  cases hdevice : device? l with
  | some d => rw [Tree.put_of_some w content hdevice]
  | none =>
    -- A regular file takes every content that its place took one of.
    have haccepts : w.Accepts l more :=
      ⟨hready.accepts.unfolded, by simp [hdevice], hready.accepts.room⟩
    have hmore : Ready more p l w :=
      ⟨hready.parent, hready.folder, hready.name, hready.leads, haccepts⟩
    rw [hmore.store, (hmore.put hready.accepts).store, Tree.put_put]

end Changes

/-! ## Writing a file -/

theorem write_fst
    (content : List Nat)
    (p : Path)
    (w : World) :
    (write content p w).1 = (store content p w.files).1 :=
  (write_shows content p w).1

theorem write_files
    (content : List Nat)
    (p : Path)
    (w : World) :
    (write content p w).2.files = (store content p w.files).2 :=
  congrArg World.Sight.files (write_shows content p w).2

/-- Where storing comes to the same, writing does. -/
theorem write_congr
    {content : List Nat}
    {p : Path}
    {v w : World}
    (h : store content p v.files = store content p w.files) :
    (write content p v).1 = (write content p w).1 ∧
      (write content p v).2.files = (write content p w).2.files := by
  rw [write_fst, write_fst, write_files, write_files, h]
  exact ⟨rfl, rfl⟩

/-- Writing a file is exact when it succeeds and harmless when it fails.  It succeeds just when the
content can be stored.  The path then leads to its place, the content is read there, every other
regular file is as before, and all that is new elsewhere are folders above the path; writing once
more comes to what it comes to where the folders alone have been made.  If it fails, no regular file
has changed, and all that is new are folders above the path.  A device takes a content and keeps
nothing. -/
theorem write_exact
    (content : List Nat)
    (p : Path)
    (w : World) :
    let t := w.files
    let r := write content p w
    let u := r.2.files
    (r.1 = .ok () ↔ Storable content p t) ∧
    (r.1 = .ok () →
      u.walk p = .ok (t.place p) ∧
      (device? (t.place p) = none → u.readFile p = .ok content) ∧
      (∀ l, l ≠ t.place p → u.file? l = t.file? l ∧ PavedAt t p u l) ∧
      ∀ more,
        let again := write more p r.2
        let once := write more p { w with files := (t.makeFolders p.parent).1 }
        again.1 = once.1 ∧ again.2.files = once.2.files) ∧
    (∀ f, r.1 = .error f → ∀ l, u.file? l = t.file? l ∧ PavedAt t p u l) := by
  intro t r u
  have hresult : r.1 = (store content p t).1 := write_fst content p w
  have hfiles : u = (store content p t).2 := write_files content p w
  refine ⟨?_, ?_, ?_⟩
  · rw [hresult]
    exact store_ok_iff
  · intro hok
    have hstore : store content p t = (.ok (), u) := Prod.ext (hresult ▸ hok) hfiles.symm
    obtain ⟨hwalk, hread, helsewhere⟩ := reads_of_store hstore
    refine ⟨hwalk, hread, fun l hl => ⟨helsewhere l hl, pavedAt_of_store hstore hl⟩, ?_⟩
    intro more again once
    refine write_congr ?_
    exact store_store more hstore
  · intro f hf l
    have hstore : store content p t = (.error f, u) := Prod.ext (hresult ▸ hf) hfiles.symm
    have hpaved := paved_of_store_error hstore
    exact ⟨hpaved.grows.file? l, pavedAt_of_paved hpaved l⟩

/-- A longer file behind a folder that is missing and a step back, and a file in the way. -/
theorem write_exact_steps_back :
    let t : Tree :=
      ⟨[(["w", "a"], .folder), (["w", "a", "f"], .file [1, 2, 3]), (["w", "g"], .file [5])], ["w"]⟩
    let w : World := ⟨t, ⟨[], []⟩, ⟨2024, 1, 1, 0, 0, 0, 0, none⟩, []⟩
    let p : Path := ⟨.relative, ["a", "n", "..", "f"]⟩
    let q : Path := ⟨.relative, ["b", "..", "g", "h"]⟩
    (Storable [9] p t ∧ (write [9] p w).2.files.readFile p = .ok [9] ∧
      (write [9] p w).2.files.file? ["w", "g"] = some [5]) ∧
    (∃ f, (write [9] q w).1 = .error f) ∧ (write [9] q w).2.files.file? ["w", "g"] = some [5] ∧
      (write [9] q w).2.files.entry? ["w", "b"] = some .folder := by
  intro t w p q
  obtain ⟨hiff, hok, _⟩ := write_exact [9] p w
  obtain ⟨_, _, herror⟩ := write_exact [9] q w
  have hwritten : (write [9] p w).1 = .ok () := by
    rw [write_fst]
    exact ok_of_toOption (by decide +kernel)
  obtain ⟨f, hblocked⟩ : ∃ f, (write [9] q w).1 = .error f := by
    rw [write_fst]
    exact error_of_toOption (by decide +kernel)
  obtain ⟨_, hread, helsewhere, _⟩ := hok hwritten
  have hother : t.file? ["w", "g"] = some [5] := by decide +kernel
  refine ⟨⟨hiff.mp hwritten, hread (by decide +kernel), ?_⟩, ⟨f, hblocked⟩, ?_, ?_⟩
  · exact (helsewhere ["w", "g"] (by decide +kernel)).1.trans hother
  · exact (herror f hblocked ["w", "g"]).1.trans hother
  · rw [write_files]
    decide +kernel

end Run
end Rebalance
