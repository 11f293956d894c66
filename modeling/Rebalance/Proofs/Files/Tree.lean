import Rebalance.Files.Tree

/-!
# What a change to a tree of files leaves alone

* `Grows`: one tree is another one with some further folders; whatever making folders does, and
  however it ends, the tree only grows (`grows_makeFolders`).
* `Keeps`: the folders of one tree are folders of another; a path that led somewhere still leads to
  the same place (`Keeps.walk`).
* `file?`: the content of a regular file.  Writing a file puts a content at one location and
  leaves every other regular file alone (`writeFile_ok`).
* `walk_child_ne`: two names in one folder are two places.
* `device?_of_suffix`: the name of a JSON file leads to no device.
-/

namespace Rebalance
namespace Files
namespace Tree

/-! ## Entries -/

theorem find?_setEntry
    (l k : Location)
    (e : Entry)
    (es more : List (Location × Entry)) :
    ((setEntry l e es ++ more).find? fun x => x.1 == k) =
      if l = k then some (l, e) else (es ++ more).find? fun x => x.1 == k := by
  induction es with
  | nil =>
    by_cases h : l = k
    · simp [setEntry, h]
    · simp [setEntry, h]
  | cons x rest ih =>
    obtain ⟨m, y⟩ := x
    by_cases hm : m = l
    · subst hm
      by_cases h : m = k
      · simp [setEntry, h]
      · simp [setEntry, h]
    · by_cases hk : m = k
      · subst hk
        simp [setEntry, hm, Ne.symm hm]
      · simpa [setEntry, hm, hk] using ih

theorem isBase_set
    (t : Tree)
    (l k : Location)
    (e : Entry) :
    (t.set l e).isBase k = t.isBase k := by
  rfl

theorem entry?_of_isBase
    {t : Tree}
    {l : Location}
    (h : t.isBase l = true) :
    t.entry? l = some .folder := by
  simp [ entry?, h]

theorem entry?_set
    (t : Tree)
    {l : Location}
    (k : Location)
    (e : Entry)
    (h : t.isBase l = false) :
    Tree.entry? (t.set l e) k = if l = k then some e else t.entry? k := by
  unfold entry?
  rw [isBase_set]
  dsimp only [set]
  rw [find?_setEntry]
  by_cases hk : l = k
  · subst hk
    simp [h]
  · by_cases hb : t.isBase k = true
    · simp [hb, hk]
    · simp [hb, hk]

/-- A location where no folder is lies outside the way to the working folder. -/
theorem isBase_eq_false
    {t : Tree}
    {l : Location}
    (h : t.entry? l ≠ some .folder) :
    t.isBase l = false := by
  cases hb : t.isBase l with
  | false => rfl
  | true => exact absurd (entry?_of_isBase hb) h

/-! ## Trees that keep folders -/

/-- Whether the folders of a tree are folders of another one too. -/
structure Keeps (t u : Tree) : Prop where
  working : u.working = t.working
  folder : ∀ l, t.entry? l = some .folder → u.entry? l = some .folder

theorem Keeps.refl
    (t : Tree) :
    Keeps t t :=
  ⟨rfl, fun _ h => h⟩

theorem Keeps.trans
    {t u v : Tree}
    (h : Keeps t u)
    (g : Keeps u v) :
    Keeps t v :=
  ⟨g.working.trans h.working, fun l hl => g.folder l (h.folder l hl)⟩

theorem keeps_set
    {t : Tree}
    {l : Location}
    (e : Entry)
    (h : t.entry? l ≠ some .folder) :
    Keeps t (t.set l e) := by
  refine ⟨rfl, ?_⟩
  intro k hk
  have hne : l ≠ k := fun he => h (he ▸ hk)
  rw [entry?_set t k e (isBase_eq_false h), if_neg hne]
  exact hk

theorem Keeps.follow
    {t u : Tree}
    (h : Keeps t u)
    {names : List String}
    {l m : Location}
    (hf : t.follow l names = .ok m) :
    u.follow l names = .ok m := by
  induction names generalizing l with
  | nil => exact hf
  | cons name rest ih =>
    unfold Tree.follow at hf ⊢
    cases hs : step l name with
    | error f =>
      rw [hs] at hf
      cases hf
    | ok next =>
      rw [hs] at hf
      dsimp only at hf ⊢
      split at hf
      · cases hf
      · cases hf
      · next he =>
        rw [h.folder next he]
        exact ih hf

/-- A path that leads somewhere keeps leading there. -/
theorem Keeps.walk
    {t u : Tree}
    (h : Keeps t u)
    {p : Path}
    {l : Location}
    (hw : t.walk p = .ok l) :
    u.walk p = .ok l := by
  have hstart : u.start p = t.start p := by
    simp [start, h.working]
  unfold Tree.walk at hw ⊢
  split at hw
  · cases hw
  · next hlimit =>
    rw [if_neg hlimit, hstart]
    cases hf : t.follow (t.start p) p.names.dropLast with
    | error f =>
      rw [hf] at hw
      cases hw
    | ok m =>
      rw [hf] at hw
      rw [h.follow hf]
      exact hw

/-! ## Trees that grow by folders -/

/-- Whether a tree is another one with some further folders. -/
structure Grows (t u : Tree) : Prop where
  working : u.working = t.working
  entry : ∀ l, u.entry? l = t.entry? l ∨ t.entry? l = none ∧ u.entry? l = some .folder

theorem Grows.refl
    (t : Tree) :
    Grows t t :=
  ⟨rfl, fun _ => .inl rfl⟩

theorem Grows.trans
    {t u v : Tree}
    (h : Grows t u)
    (g : Grows u v) :
    Grows t v := by
  refine ⟨g.working.trans h.working, ?_⟩
  intro l
  rcases g.entry l with hg | ⟨hn, hv⟩
  · rw [hg]
    exact h.entry l
  · rcases h.entry l with hh | ⟨_, hu⟩
    · exact .inr ⟨hh ▸ hn, hv⟩
    · rw [hn] at hu
      cases hu

theorem Grows.keeps
    {t u : Tree}
    (h : Grows t u) :
    Keeps t u := by
  refine ⟨h.working, ?_⟩
  intro l hl
  rcases h.entry l with he | ⟨hn, _⟩
  · rw [he, hl]
  · rw [hn] at hl
    cases hl

theorem grows_makeFolder
    {t u : Tree}
    {p : Path}
    (h : t.makeFolder p = .ok u) :
    Grows t u := by
  unfold makeFolder at h
  cases hw : t.walk p with
  | error f =>
    rw [hw] at h
    cases h
  | ok l =>
    rw [hw] at h
    dsimp only at h
    split at h
    · cases h
    · next hnone =>
      split at h
      · cases h
      · cases h
        have hl : t.entry? l = none := by simpa using hnone
        have hb : t.isBase l = false := isBase_eq_false (by simp [hl])
        refine ⟨rfl, ?_⟩
        intro k
        rw [entry?_set t k _ hb]
        by_cases hk : l = k
        · subst hk
          exact .inr ⟨hl, if_pos rfl⟩
        · exact .inl (if_neg hk)

theorem grows_makeFoldersLoop
    (fuel : Nat)
    (t : Tree)
    (p : Path) :
    Grows t (makeFoldersLoop fuel t p).1 := by
  induction fuel generalizing t p with
  | zero => exact Grows.refl t
  | succ fuel ih =>
    unfold makeFoldersLoop
    split
    · next u hu => exact grows_makeFolder hu
    · split
      · exact Grows.refl t
      · have hparent := ih t p.parent
        split
        · next u e hu =>
          rw [hu] at hparent
          exact hparent
        · next u hu =>
          rw [hu] at hparent
          split
          · next v hv => exact hparent.trans (grows_makeFolder hv)
          · exact hparent
    · exact Grows.refl t

/-- However making folders ends, all it leaves behind is further folders. -/
theorem grows_makeFolders
    (t : Tree)
    (p : Path) :
    Grows t (t.makeFolders p).1 :=
  grows_makeFoldersLoop _ t p

/-! ## Regular files -/

/-- The content of the regular file at a location.  A device is none. -/
def file? (t : Tree) (l : Location) : Option (List Nat) :=
  match t.entry? l, device? l with
  | some (.file content), none => some content
  | _, _ => none

theorem Grows.file?
    {t u : Tree}
    (h : Grows t u)
    (l : Location) :
    u.file? l = t.file? l := by
  unfold Tree.file?
  rcases h.entry l with he | ⟨hn, hu⟩
  · rw [he]
  · rw [hn, hu]

theorem file?_set
    {t : Tree}
    {l : Location}
    (k : Location)
    (content : List Nat)
    (h : t.entry? l ≠ some .folder)
    (hd : device? l = none) :
    (t.set l (.file content)).file? k = if l = k then some content else t.file? k := by
  unfold Tree.file?
  rw [entry?_set t k _ (isBase_eq_false h)]
  by_cases hk : l = k
  · subst hk
    simp [hd]
  · simp [hk]

/-- What a tree is after a content went to a location: every other regular file is as before, and
the one there holds the content.  A device takes it and keeps nothing. -/
structure Written (t : Tree) (l : Location) (content : List Nat) (u : Tree) : Prop where
  keeps : Keeps t u
  here : u.file? l = if device? l = none then some content else none
  elsewhere : ∀ k, k ≠ l → u.file? k = t.file? k

theorem file?_of_device
    {t : Tree}
    {l : Location}
    {d : Device}
    (h : device? l = some d) :
    t.file? l = none := by
  unfold Tree.file?
  rw [h]
  split
  · next heq => cases heq
  · rfl

/-- A file that is written has its new content, and every other regular file the old one. -/
theorem writeFile_ok
    {t u : Tree}
    {p : Path}
    {content : List Nat}
    (h : t.writeFile p content = .ok u) :
    ∃ l, t.walk p = .ok l ∧ Written t l content u := by
  unfold writeFile at h
  cases hw : t.walk p with
  | error f =>
    rw [hw] at h
    cases h
  | ok l =>
    rw [hw] at h
    refine ⟨l, rfl, ?_⟩
    have device_case : ∀ d, device? l = some d → Written t l content t := by
      intro d hd
      refine ⟨Keeps.refl t, ?_, fun _ _ => rfl⟩
      rw [file?_of_device hd, hd]
      rfl
    have regular_case : t.entry? l ≠ some .folder → device? l = none →
        Written t l content (t.set l (.file content)) := by
      intro hfolder hd
      refine ⟨keeps_set _ hfolder, ?_, ?_⟩
      · rw [file?_set l content hfolder hd, if_pos rfl, if_pos hd]
      · intro k hk
        rw [file?_set k content hfolder hd, if_neg (Ne.symm hk)]
    dsimp only at h
    split at h
    · cases h
    · next hd _ =>
      cases h
      exact device_case _ hd
    · next hd _ =>
      split at h
      · cases h
        exact device_case _ hd
      · cases h
    · next hnone hd =>
      split at h
      · cases h
      · cases h
        exact regular_case (by simp [hnone]) hd
    · next hfolder he hd =>
      cases h
      refine regular_case ?_ hd
      intro hf
      rw [he] at hf
      exact hfolder (Option.some.inj hf)

/-- A regular file that a path leads to is read back. -/
theorem readFile_of_file?
    {t : Tree}
    {p : Path}
    {l : Location}
    {content : List Nat}
    (hw : t.walk p = .ok l)
    (h : t.file? l = some content) :
    t.readFile p = .ok content := by
  unfold Tree.file? at h
  unfold readFile
  rw [hw]
  dsimp only
  split at h
  · next he _ =>
    cases h
    rw [he]
  · cases h

/-! ## Places by names alone -/

/-- The place one name further, by the name alone. -/
def advance (l : Location) (name : String) : Location :=
  if name = ".." then l.dropLast else l ++ [name]

theorem step_ok
    {l m : Location}
    {name : String}
    (h : step l name = .ok m) :
    m = advance l name := by
  unfold step at h
  unfold advance
  split at h
  · next hup =>
    cases h
    rw [if_pos hup]
  · next hup =>
    split at h
    · cases h
    · cases h
      rw [if_neg hup]

theorem follow_ok
    {t : Tree}
    {names : List String}
    {l m : Location}
    (h : t.follow l names = .ok m) :
    m = names.foldl advance l := by
  induction names generalizing l with
  | nil =>
    cases h
    rfl
  | cons name rest ih =>
    unfold follow at h
    cases hs : step l name with
    | error f =>
      rw [hs] at h
      cases h
    | ok next =>
      rw [hs] at h
      dsimp only at h
      split at h
      · cases h
      · cases h
      · rw [List.foldl_cons, ← step_ok hs]
        exact ih h

/-- A name in a folder leads to the place of that name below the folder. -/
theorem walk_child
    {t : Tree}
    {p : Path}
    {name : String}
    {l : Location}
    (hname : name ≠ "..")
    (h : t.walk (p.child name) = .ok l) :
    l = p.names.foldl advance (t.start p) ++ [name] := by
  have hstart : t.start (p.child name) = t.start p := rfl
  unfold walk at h
  split at h
  · cases h
  · have hdrop : (p.child name).names.dropLast = p.names := List.dropLast_concat
    have hlast : (p.child name).names.getLast? = some name := List.getLast?_concat
    rw [hdrop, hlast, hstart] at h
    cases hf : t.follow (t.start p) p.names with
    | error f =>
      rw [hf] at h
      cases h
    | ok m =>
      rw [hf] at h
      rw [step_ok h, follow_ok hf, advance, if_neg hname]

/-- Two names in one folder lead to two places, also when the tree has changed in between. -/
theorem walk_child_ne
    {t u : Tree}
    {p : Path}
    {a b : String}
    {l k : Location}
    (hworking : u.working = t.working)
    (ha : a ≠ "..")
    (hb : b ≠ "..")
    (hab : a ≠ b)
    (hl : t.walk (p.child a) = .ok l)
    (hk : u.walk (p.child b) = .ok k) :
    l ≠ k := by
  have hstart : u.start p = t.start p := by
    simp [start, hworking]
  rw [walk_child ha hl, walk_child hb hk, hstart]
  intro h
  have := List.append_cancel_left h
  exact hab (List.head_eq_of_cons_eq this)

end Tree

/-! ## Names of JSON files -/

theorem Path.suffix_ne :
    ∀ name ∈ ["", "..", "null", "zero", "full"], Path.suffix ⟨.relative, [name]⟩ ≠ ".json" := by
  decide

/-- The name of a JSON file is no step back and names no device. -/
theorem Path.name_not_mem
    {p : Path}
    (h : p.suffix = ".json") :
    p.name ∉ ["", "..", "null", "zero", "full"] := by
  intro hmem
  exact suffix_ne p.name hmem h

theorem device?_append
    (at_ : Location)
    {name : String}
    (h : name ∉ ["", "..", "null", "zero", "full"]) :
    device? (at_ ++ [name]) = none := by
  have hnone : (devices.find? fun e => e.1 == at_ ++ [name]) = none := by
    refine List.find?_eq_none.mpr ?_
    intro e he heq
    have hlast : e.1.getLast? = some name := by
      rw [eq_of_beq heq, List.getLast?_append]
      rfl
    simp only [devices, List.mem_cons, List.not_mem_nil, or_false] at he
    rcases he with rfl | rfl | rfl <;> exact h (Option.some.inj hlast ▸ by decide)
  rw [device?, hnone]
  rfl

/-- A path with the name of a JSON file leads to no device. -/
theorem device?_of_suffix
    {t : Tree}
    {p : Path}
    (hsuffix : p.suffix = ".json")
    {l : Location}
    (hwalk : t.walk p = .ok l) :
    device? l = none := by
  have hname := Path.name_not_mem hsuffix
  unfold Tree.walk at hwalk
  split at hwalk
  · cases hwalk
  · split at hwalk
    · cases hwalk
    · split at hwalk
      · next hlast =>
        have hempty : p.name = "" := by rw [Path.name, hlast]; rfl
        exact absurd (hempty ▸ List.mem_cons_self) hname
      · next name hlast =>
        have hlast : p.name = name := by rw [Path.name, hlast]; rfl
        rw [hlast] at hname
        unfold Tree.step at hwalk
        split at hwalk
        · next hback =>
          rw [hback] at hname
          exact absurd (by decide) hname
        · split at hwalk
          · cases hwalk
          · cases hwalk
            exact device?_append _ hname

end Files
end Rebalance
