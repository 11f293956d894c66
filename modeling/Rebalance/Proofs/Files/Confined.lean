import Rebalance.Proofs.Files.Making
import Rebalance.Proofs.Files.Path

/-!
# Changes that stay in one folder

* `Tree.Confined`: a tree keeps the folders of another one, and its regular files but for those in
  one folder.  Changes to one folder add up (`Tree.Confined.trans`).
* `Tree.not_isIn_of_ne`: folders of different names share no file, wherever the folders are.
* `Tree.Confined.readFile`: a file in a folder of another name is read as before.
-/

namespace Rebalance
namespace Files
namespace Tree

/-- Whether a location is that of a name in a folder. -/
def IsIn (t : Tree) (folder : Path) (l : Location) : Prop :=
  ∃ name, l = t.place folder ++ [name]

/-- Whether a tree keeps the folders of another one, and its regular files but for those in one
folder. -/
structure Confined (folder : Path) (t u : Tree) : Prop where
  keeps : Keeps t u
  elsewhere : ∀ l, ¬ t.IsIn folder l → u.file? l = t.file? l

theorem place_child
    (t : Tree)
    (p : Path)
    {name : String}
    (h : name ≠ "..") :
    t.place (p.child name) = t.place p ++ [name] := by
  have hlast : (p.child name).names.getLast? = some name := List.getLast?_concat
  rw [place_of_getLast? t hlast, Path.parent_child, advance, if_neg h]

/-- A name in a folder leads into the folder. -/
theorem isIn_of_walk
    {t : Tree}
    {folder : Path}
    {name : String}
    {l : Location}
    (hname : name ≠ "..")
    (h : t.walk (folder.child name) = .ok l) :
    t.IsIn folder l :=
  ⟨name, by rw [place_of_walk h, place_child t folder hname]⟩

theorem Keeps.isIn
    {t u : Tree}
    (h : Keeps t u)
    {folder : Path}
    {l : Location}
    (hl : u.IsIn folder l) :
    t.IsIn folder l := by
  obtain ⟨name, rfl⟩ := hl
  exact ⟨name, by rw [place_congr h.working]⟩

theorem Grows.confined
    {t u : Tree}
    (h : Grows t u)
    (folder : Path) :
    Confined folder t u :=
  ⟨h.keeps, fun l _ => h.file? l⟩

theorem Confined.refl
    (folder : Path)
    (t : Tree) :
    Confined folder t t :=
  ⟨Keeps.refl t, fun _ _ => rfl⟩

theorem Confined.trans
    {folder : Path}
    {t u v : Tree}
    (h : Confined folder t u)
    (g : Confined folder u v) :
    Confined folder t v := by
  refine ⟨h.keeps.trans g.keeps, ?_⟩
  intro l hl
  rw [g.elsewhere l fun hu => hl (h.keeps.isIn hu), h.elsewhere l hl]

/-! ## Folders of different names -/

section Names

variable {t u : Tree} {p q : Path} {m n : String} {l : Location}

/-- Folders of different names share no file, wherever the folders are. -/
theorem not_isIn_of_ne
    (hm : m ≠ "..")
    (hn : n ≠ "..")
    (hne : m ≠ n)
    (h : t.IsIn (p.child m) l) :
    ¬ u.IsIn (q.child n) l := by
  obtain ⟨a, rfl⟩ := h
  rintro ⟨b, heq⟩
  rw [place_child t p hm, place_child u q hn] at heq
  have hfolders : t.place p ++ [m] = u.place q ++ [n] := (List.append_inj' heq rfl).1
  exact hne (List.head_eq_of_cons_eq (List.append_inj' hfolders rfl).2)

/-- A folder that has not the name of that of the devices has none. -/
theorem device?_of_isIn
    (hup : m ≠ "..")
    (hdev : m ≠ "dev")
    (h : t.IsIn (p.child m) l) :
    device? l = none := by
  obtain ⟨a, rfl⟩ := h
  rw [place_child t p hup]
  have hnone : (devices.find? fun e => e.1 == t.place p ++ [m] ++ [a]) = none := by
    refine List.find?_eq_none.mpr ?_
    intro e he heq
    have hfolder : e.1.dropLast = t.place p ++ [m] := by
      rw [eq_of_beq heq, List.dropLast_concat]
    have hname : e.1.dropLast.getLast? = some "dev" := by
      simp only [devices, List.mem_cons, List.not_mem_nil, or_false] at he
      rcases he with rfl | rfl | rfl <;> rfl
    rw [hfolder, List.getLast?_concat] at hname
    exact hdev (Option.some.inj hname)
  rw [device?, hnone]
  rfl

theorem exists_walk_of_readFile
    {content : List Nat}
    (h : t.readFile p = .ok content) :
    ∃ l, t.walk p = .ok l ∧ (device? l = none → t.file? l = some content) := by
  unfold readFile at h
  split at h
  · cases h
  · next l hwalk =>
    refine ⟨l, hwalk, ?_⟩
    intro hdevice
    split at h
    · cases h
    · cases h
    · next hentry =>
      cases h
      rw [file?, hentry, hdevice]

/-- A file in a folder of another name is read as before. -/
theorem Confined.readFile
    {a : String}
    {content : List Nat}
    (h : Confined (q.child n) t u)
    (hm : m ≠ "..")
    (hn : n ≠ "..")
    (ha : a ≠ "..")
    (hdev : m ≠ "dev")
    (hne : m ≠ n)
    (hread : t.readFile ((p.child m).child a) = .ok content) :
    u.readFile ((p.child m).child a) = .ok content := by
  obtain ⟨l, hwalk, hfile⟩ := exists_walk_of_readFile hread
  have hin := isIn_of_walk ha hwalk
  have hsame := h.elsewhere l (not_isIn_of_ne hm hn hne hin)
  exact readFile_of_file? (h.keeps.walk hwalk) (hsame.trans (hfile (device?_of_isIn hm hdev hin)))

end Names

end Tree
end Files
end Rebalance
