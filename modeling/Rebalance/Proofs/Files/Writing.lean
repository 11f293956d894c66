import Rebalance.Proofs.Files.Tree

/-!
# What writing a file comes to, and what writing it again does

* `Accepts`, `put`: where a content can be put, and the tree with the content there.  Writing a file
  is this and no more (`accepts_of_writeFile`, `Accepts.writeFile`).
* `put_again`: two contents that were put one after the other are put again without a trace.
* `isFolder_of_makeFolders`, `makeFolders_of_isFolder`: what making folders leaves is a folder, and
  a folder that is there already is made without a trace.
-/

namespace Rebalance
namespace Files
namespace Tree

/-! ## Setting entries twice -/

theorem setEntry_setEntry
    (l : Location)
    (e f : Entry)
    (es : List (Location × Entry)) :
    setEntry l f (setEntry l e es) = setEntry l f es := by
  induction es with
  | nil => simp [setEntry]
  | cons x rest ih =>
    obtain ⟨k, y⟩ := x
    by_cases hk : k = l
    · simp [setEntry, hk]
    · simp [setEntry, hk, ih]

/-- Setting the entry that is there already changes nothing. -/
theorem setEntry_of_find?
    {l : Location}
    {e : Entry}
    {es : List (Location × Entry)}
    (h : (es.find? fun x => x.1 == l) = some (l, e)) :
    setEntry l e es = es := by
  induction es with
  | nil => simp at h
  | cons x rest ih =>
    obtain ⟨k, y⟩ := x
    by_cases hk : k = l
    · simp [hk] at h
      simp [setEntry, hk, h]
    · simp [hk] at h
      simp [setEntry, hk, ih h]

theorem set_set
    (t : Tree)
    (l : Location)
    (e f : Entry) :
    (t.set l e).set l f = t.set l f := by
  simp [set, setEntry_setEntry]

/-- An entry that was set is there until another one is set at its location. -/
theorem set_again
    (t : Tree)
    {l k : Location}
    (e f : Entry)
    (h : l ≠ k) :
    ((t.set l e).set k f).set l e = (t.set l e).set k f := by
  have hfirst : ((setEntry l e t.entries).find? fun x => x.1 == l) = some (l, e) := by
    simpa using find?_setEntry l l e t.entries []
  have hfound :
      ((setEntry k f (setEntry l e t.entries)).find? fun x => x.1 == l) = some (l, e) := by
    have hsecond := find?_setEntry k l f (setEntry l e t.entries) []
    rw [if_neg h.symm] at hsecond
    simpa [hfirst] using hsecond
  simp [set, setEntry_of_find? hfound]

/-! ## Putting a content at a location -/

/-- The tree with a content put at a location.  A device takes it and keeps nothing. -/
def put (t : Tree) (l : Location) (content : List Nat) : Tree :=
  if device? l = none then t.set l (.file content) else t

/-- Whether a content can be put at a location. -/
structure Accepts (t : Tree) (l : Location) (content : List Nat) : Prop where
  unfolded : t.entry? l ≠ some .folder
  fitting : device? l = some .full → content = []
  room : device? l = none → t.entry? l = none → isClosed l = false

theorem put_of_none
    {l : Location}
    (t : Tree)
    (content : List Nat)
    (h : device? l = none) :
    t.put l content = t.set l (.file content) := by
  simp [put, h]

theorem put_of_some
    {l : Location}
    {d : Device}
    (t : Tree)
    (content : List Nat)
    (h : device? l = some d) :
    t.put l content = t := by
  simp [put, h]

/-- A file that was written is at a place that accepted its content, and the content is there. -/
theorem accepts_of_writeFile
    {t u : Tree}
    {p : Path}
    {content : List Nat}
    (h : t.writeFile p content = .ok u) :
    ∃ l, t.walk p = .ok l ∧ t.Accepts l content ∧ u = t.put l content := by
  unfold writeFile at h
  cases hw : t.walk p with
  | error f =>
    rw [hw] at h
    cases h
  | ok l =>
    rw [hw] at h
    refine ⟨l, rfl, ?_⟩
    dsimp only at h
    split at h
    · cases h
    · next hd hfolder =>
      cases h
      exact ⟨⟨hfolder, by simp [hd], by simp [hd]⟩, (put_of_some t content hd).symm⟩
    · next hd hfolder =>
      split at h
      · next hempty =>
        cases h
        have hnil : content = [] := by simpa using hempty
        exact ⟨⟨hfolder, fun _ => hnil, by simp [hd]⟩, (put_of_some t content hd).symm⟩
      · cases h
    · next hnone hd =>
      split at h
      · cases h
      · next hopen =>
        cases h
        exact ⟨⟨by simp [hnone], by simp [hd], fun _ _ => by simpa using hopen⟩,
          (put_of_none t content hd).symm⟩
    · next e hfolder he hd =>
      cases h
      have hunfolded : t.entry? l ≠ some .folder := by
        rw [he]
        exact fun hf => hfolder (Option.some.inj hf)
      exact ⟨⟨hunfolded, by simp [hd], by simp [he]⟩, (put_of_none t content hd).symm⟩

/-- A file is written where its path leads to a place that accepts the content. -/
theorem Accepts.writeFile
    {t : Tree}
    {p : Path}
    {l : Location}
    {content : List Nat}
    (h : t.Accepts l content)
    (hw : t.walk p = .ok l) :
    t.writeFile p content = .ok (t.put l content) := by
  unfold Tree.writeFile
  rw [hw]
  dsimp only
  split
  · next he => exact absurd he h.unfolded
  · next hd _ => rw [put_of_some t content hd]
  · next hd _ => simp [h.fitting hd, put_of_some t [] hd]
  · next he hd => simp [h.room hd he, put_of_none t content hd]
  · next hd => rw [put_of_none t content hd]

theorem Accepts.keeps
    {t : Tree}
    {l : Location}
    {content : List Nat}
    (h : t.Accepts l content) :
    Keeps t (t.put l content) := by
  cases hd : device? l with
  | none =>
    rw [put_of_none t content hd]
    exact keeps_set _ h.unfolded
  | some d =>
    rw [put_of_some t content hd]
    exact Keeps.refl t

/-- What stands elsewhere stays. -/
theorem Accepts.entry?_put
    {t : Tree}
    {k : Location}
    {y : List Nat}
    (h : t.Accepts k y)
    (l : Location) :
    Tree.entry? (t.put k y) l =
      if k = l ∧ device? k = none then some (.file y) else t.entry? l := by
  cases hd : device? k with
  | none =>
    rw [put_of_none t y hd, entry?_set t l _ (isBase_eq_false h.unfolded)]
    simp
  | some d =>
    rw [put_of_some t y hd]
    simp

/-- A place accepts a content also after another one was put somewhere. -/
theorem Accepts.put
    {t : Tree}
    {l k : Location}
    {x y : List Nat}
    (h : t.Accepts l x)
    (g : t.Accepts k y) :
    (t.put k y).Accepts l x := by
  refine ⟨?_, h.fitting, ?_⟩
  · rw [g.entry?_put]
    split
    · simp
    · exact h.unfolded
  · intro hd he
    rw [g.entry?_put] at he
    split at he
    · cases he
    · exact h.room hd he

theorem put_put
    (t : Tree)
    (l : Location)
    (x y : List Nat) :
    (t.put l x).put l y = t.put l y := by
  cases hd : device? l with
  | none => simp only [put_of_none _ _ hd, set_set]
  | some d => simp only [put_of_some _ _ hd]

/-- Two contents that were put one after the other are put again without a trace, also when both go
to one location. -/
theorem put_again
    (t : Tree)
    (l k : Location)
    (x y : List Nat) :
    (((t.put l x).put k y).put l x).put k y = (t.put l x).put k y := by
  by_cases h : l = k
  · subst h
    simp only [put_put]
  · have hfirst : ((t.put l x).put k y).put l x = (t.put l x).put k y := by
      cases hl : device? l with
      | some d => simp only [put_of_some _ _ hl]
      | none =>
        cases hk : device? k with
        | some d => simp only [put_of_some _ _ hk, put_of_none _ _ hl, set_set]
        | none => simp only [put_of_none _ _ hl, put_of_none _ _ hk, set_again t _ _ h]
    rw [hfirst, put_put]

/-! ## Folders that are there already -/

theorem isFolder_iff
    {t : Tree}
    {p : Path} :
    t.isFolder p = .ok true ↔ ∃ l, t.walk p = .ok l ∧ t.entry? l = some .folder := by
  unfold isFolder
  cases t.walk p with
  | error f => cases f <;> simp
  | ok l => simp

theorem Keeps.isFolder
    {t u : Tree}
    (h : Keeps t u)
    {p : Path}
    (hp : t.isFolder p = .ok true) :
    u.isFolder p = .ok true := by
  obtain ⟨l, hw, hl⟩ := isFolder_iff.mp hp
  exact isFolder_iff.mpr ⟨l, h.walk hw, h.folder l hl⟩

theorem isFolder_of_makeFolder
    {t u : Tree}
    {p : Path}
    (h : t.makeFolder p = .ok u) :
    u.isFolder p = .ok true := by
  have hkeeps := (grows_makeFolder h).keeps
  unfold makeFolder at h
  cases hw : t.walk p with
  | error f =>
    rw [hw] at h
    cases h
  | ok l =>
    rw [hw] at h
    dsimp only at h
    split at h
    · cases h
    · next hnone =>
      split at h
      · cases h
      · cases h
        have hb : t.isBase l = false := isBase_eq_false fun hl => hnone (by simp [hl])
        exact isFolder_iff.mpr ⟨l, hkeeps.walk hw, by simp [entry?_set t l _ hb]⟩

theorem isFolder_of_settle
    {t : Tree}
    {p : Path}
    {f : Fault}
    (h : t.settle p f = .ok ()) :
    t.isFolder p = .ok true := by
  unfold settle at h
  split at h
  · cases h
  · next hp => exact hp
  · cases h

theorem isFolder_of_makeFoldersLoop
    {fuel : Nat}
    {t u : Tree}
    {p : Path}
    (h : makeFoldersLoop fuel t p = (u, .ok ())) :
    u.isFolder p = .ok true := by
  have settled {v : Tree} {f : Fault}
      (hs : (v, (v.settle p f).mapError fun g => (p, g)) = (u, .ok ())) :
      u.isFolder p = .ok true := by
    obtain ⟨rfl, hs⟩ := Prod.mk.inj hs
    cases hv : v.settle p f with
    | error g =>
      rw [hv] at hs
      cases hs
    | ok r => exact isFolder_of_settle hv
  cases fuel with
  | zero => cases h
  | succ fuel =>
    unfold makeFoldersLoop at h
    split at h
    · next v hv =>
      cases h
      exact isFolder_of_makeFolder hv
    · split at h
      · cases h
      · split at h
        · cases h
        · split at h
          · next w hw =>
            cases h
            exact isFolder_of_makeFolder hw
          · exact settled h
    · exact settled h

/-- What making folders leaves at its path is a folder. -/
theorem isFolder_of_makeFolders
    {t u : Tree}
    {p : Path}
    (h : t.makeFolders p = (u, .ok ())) :
    u.isFolder p = .ok true :=
  isFolder_of_makeFoldersLoop h

theorem makeFolder_of_isFolder
    {t : Tree}
    {p : Path}
    (h : t.isFolder p = .ok true) :
    t.makeFolder p = .error .exists := by
  obtain ⟨l, hw, hl⟩ := isFolder_iff.mp h
  simp [makeFolder, hw, hl]

/-- A folder that is there already is made without a trace. -/
theorem makeFolders_of_isFolder
    {t : Tree}
    {p : Path}
    (h : t.isFolder p = .ok true) :
    t.makeFolders p = (t, .ok ()) := by
  have hmake := makeFolder_of_isFolder h
  have hsettle : t.settle p .exists = .ok () := by
    rw [settle, h]
  rw [makeFolders, makeFoldersLoop, hmake]
  dsimp only
  rw [hsettle]
  rfl

/-! ## How far up the making of folders goes -/

theorem levelsLoop_of_makeFolder
    (fuel : Nat)
    {t : Tree}
    {p : Path}
    (h : t.makeFolder p ≠ .error .notFound) :
    levelsLoop (fuel + 1) t p = 1 := by
  unfold levelsLoop
  split
  · next hmissing => exact absurd hmissing h
  · rfl

/-- The making of a folder that is there already goes no level up. -/
theorem not_isDeep_of_isFolder
    {t : Tree}
    {p : Path}
    (h : t.isFolder p = .ok true) :
    ¬ t.IsDeep p := by
  have hlevels : t.levels p = 1 :=
    levelsLoop_of_makeFolder _ (by simp [makeFolder_of_isFolder h])
  rw [IsDeep, hlevels]
  decide

theorem levelsLoop_le
    (fuel : Nat)
    (t : Tree)
    (p : Path) :
    levelsLoop fuel t p ≤ fuel := by
  induction fuel generalizing p with
  | zero => exact Nat.le_refl 0
  | succ fuel ih =>
    have hparent := ih p.parent
    unfold levelsLoop
    split
    · split <;> omega
    · omega

/-- Only a path of many names has too many folders missing on the way. -/
theorem levelLimit_le_of_isDeep
    {t : Tree}
    {p : Path}
    (h : t.IsDeep p) :
    levelLimit ≤ p.names.length := by
  have hlevels : t.levels p ≤ p.names.length + 1 := levelsLoop_le _ t p
  unfold IsDeep at h
  omega

end Tree
end Files
end Rebalance
