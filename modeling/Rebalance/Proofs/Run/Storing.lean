import Rebalance.Proofs.Files.Writing
import Rebalance.Proofs.Run.Ending

/-!
# What storing a content comes to, step by step

* `Ready`: a tree in which storing a content makes no folder and puts it at a location.  Storing
  makes the folders that are missing and then finds such a tree (`ready_of_store`).
* `store_again`, `store_both_again`: what was stored once is stored again without a trace.
* `Writer.filed_ok_iff`: a document is written when its template names a file, it has a text, and
  the text is stored.
-/

namespace Rebalance
namespace Run

open Files

/-! ## Trees that are ready -/

/-- A tree in which storing a content puts it at a location and makes no folder. -/
structure Ready (content : List Nat) (p : Path) (l : Location) (t : Tree) : Prop where
  parent : p.parent.check = .ok ()
  folder : t.isFolder p.parent = .ok true
  name : p.check = .ok ()
  leads : t.walk p = .ok l
  accepts : t.Accepts l content

theorem Ready.store
    {content : List Nat}
    {p : Path}
    {l : Location}
    {t : Tree}
    (h : Ready content p l t) :
    store content p t = (.ok (), t.put l content) := by
  simp only [Run.store, h.parent, if_neg (Tree.not_isDeep_of_isFolder h.folder),
    Tree.makeFolders_of_isFolder h.folder, h.name, h.accepts.writeFile h.leads]

/-- Another content put somewhere leaves a tree ready. -/
theorem Ready.put
    {x y : List Nat}
    {p : Path}
    {l k : Location}
    {t : Tree}
    (h : Ready x p l t)
    (g : t.Accepts k y) :
    Ready x p l (t.put k y) where
  parent := h.parent
  folder := g.keeps.isFolder h.folder
  name := h.name
  leads := g.keeps.walk h.leads
  accepts := h.accepts.put g

/-- Storing makes the folders that are missing and puts the content into a tree that is ready. -/
theorem ready_of_store
    {content : List Nat}
    {p : Path}
    {t u : Tree}
    (h : store content p t = (.ok (), u)) :
    ∃ w l, t.makeFolders p.parent = (w, .ok ()) ∧ Ready content p l w ∧ u = w.put l content := by
  unfold store at h
  split at h
  · cases h
  · next hparent =>
    split at h
    · cases h
    · split at h
      · cases h
      · next w hmade =>
        split at h
        · cases h
        · next hname =>
          split at h
          · cases h
          · next v hwritten =>
            obtain ⟨l, hleads, haccepts, hv⟩ := Tree.accepts_of_writeFile hwritten
            have hu : v = u := (Prod.mk.inj h).2
            refine ⟨w, l, hmade, ⟨hparent, ?_, hname, hleads, haccepts⟩, hu ▸ hv⟩
            exact Tree.isFolder_of_makeFolders hmade

/-- A content that was stored is stored again without a trace. -/
theorem store_again
    {content : List Nat}
    {p : Path}
    {t u : Tree}
    (h : store content p t = (.ok (), u)) :
    store content p u = (.ok (), u) := by
  obtain ⟨w, l, _, hready, rfl⟩ := ready_of_store h
  rw [(hready.put hready.accepts).store, Tree.put_put]

/-- Two contents that were stored in one folder, one after the other, are stored again without a
trace, also when both go to one file. -/
theorem store_both_again
    {x y : List Nat}
    {p q : Path}
    {t u w : Tree}
    (hparent : p.parent = q.parent)
    (h : store x p t = (.ok (), u))
    (g : store y q u = (.ok (), w)) :
    ∃ u', store x p w = (.ok (), u') ∧ store y q u' = (.ok (), w) := by
  obtain ⟨t', l, _, hx, rfl⟩ := ready_of_store h
  have hx' := hx.put hx.accepts
  obtain ⟨u', k, hmade, hy, rfl⟩ := ready_of_store g
  -- The first content was stored in the folder of the second one, so nothing was made for that.
  rw [← hparent, Tree.makeFolders_of_isFolder hx'.folder] at hmade
  obtain rfl := (Prod.mk.inj hmade).1
  have hxw := hx'.put hy.accepts
  have hyw := (hy.put hy.accepts).put hxw.accepts
  refine ⟨_, hxw.store, ?_⟩
  rw [hyw.store, Tree.put_again]

/-! ## Writing documents again -/

namespace Writer

theorem parent_of_path
    {w : Writer}
    {template node : String}
    {p : Path}
    (h : w.path template node = .ok p) :
    p.parent = w.folder := by
  rcases path_cases w template node with ⟨f, hf, _⟩ | ⟨name, _, _, hp⟩
  · rw [hf] at h
    cases h
  · rw [hp] at h
    cases h
    simp [Path.parent, Path.child]

/-- A document is written when its template names a file, the document has a text, and the text is
stored. -/
theorem filed_ok_iff
    {w : Writer}
    {template node : String}
    {document : Except Failure String}
    {p : Path}
    {t u : Tree} :
    w.filed template node document t = (.ok p, u) ↔
      ∃ text, w.path template node = .ok p ∧ document = .ok text ∧
        store (Text.encode text) p t = (.ok (), u) := by
  unfold filed filedAt
  cases w.path template node with
  | error f => simp
  | ok q =>
    cases document with
    | error f => simp
    | ok text =>
      dsimp only
      generalize hstore : store (Text.encode text) q t = x
      obtain ⟨r, v⟩ := x
      constructor
      · intro h
        obtain ⟨hr, rfl⟩ := Prod.mk.inj h
        obtain ⟨_, rfl, rfl⟩ := Failure.map_ok hr
        exact ⟨text, rfl, rfl, hstore⟩
      · rintro ⟨text', hq, htext, h⟩
        cases hq
        cases htext
        rw [hstore] at h
        cases h
        rfl

end Writer

theorem Stored.store_eq
    {c : Command}
    {order : Order}
    {v : Standing}
    (p : Stored c order v) :
    ∃ text, p.writer.path c.settings.beforeTemplate p.name = .ok p.beforePath ∧
      p.located.document = .ok text ∧
      store (Text.encode text) p.beforePath v.sight.files = (.ok (), p.files) :=
  Writer.filed_ok_iff.mp p.stored

end Run
end Rebalance
