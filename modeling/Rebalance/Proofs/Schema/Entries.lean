import Mathlib.Data.List.Forall2
import Rebalance.Proofs.Schema.Reading

/-!
# What the values of a document stand for

* `Reading`: what single values and collections are taken for.  `Reading.lenient` is what the
  readers accept; in `Reading.declared` every value has its declared type already.
* `Entered`, `EnteredOr`: an entry that is there, or that may be left out, stands for a value.
* `entered_of_required`, `enteredOr_of_optional`, `forall₂_of_readList`, `mapOf_of_readMap`: what
  was read is what the document stands for.
* `required_of_entered`, `optional_of_enteredOr`, `readList_of_forall₂`, `readMap_of_mapOf`: what
  the document stands for is read, when its parts are.
-/

namespace Rebalance
namespace Schema

variable {α : Type}

open Checked

/-! ## Readings -/

/-- What the values of a document are taken for.  `merges` says what the entries of a map come to,
once their keys are texts. -/
structure Reading where
  text : Data → String → Prop
  whole : Data → Int → Prop
  truth : Data → Bool → Prop
  number : Data → Float → Prop
  address : Data → Net.Address → Prop
  items : Data → List Data → Prop
  merges : {α : Type} → List (String × α) → List (String × α) → Prop

namespace Reading

/-- The reading of the validator.  Keys that are read as the same text count once. -/
def lenient : Reading where
  text d s := readText d = .ok s
  whole d n := readWhole d = .ok n
  truth d b := readBool d = .ok b
  number d x := readNumber d = .ok x
  address d a := readAddress d = .ok a
  items d ds := d = .list ds ∨ d = .set ds
  merges xs ys := ys = xs.foldl (fun acc e => put e.1 e.2 acc) []

/-- The reading of values that have their declared types: texts of characters, whole numbers,
truth values, doubles, texts of addresses, lists, and maps whose keys are pairwise different. -/
def declared : Reading where
  text d s := d = .text s ∧ Text.hasSurrogate s = false
  whole d n := d = .int n
  truth d b := d = .bool b
  number d x := d = .float x
  address d a := ∃ s, d = .text s ∧ Net.Address.read? s = some a
  items d ds := d = .list ds
  merges xs ys := (xs.map Prod.fst).Nodup ∧ ys = xs

/-- Whether a value is taken for a whole number that is not negative. -/
def count
    (r : Reading)
    (d : Data)
    (n : Nat) : Prop :=
  r.whole d n

/-- Whether a value is taken for a list, item by item. -/
def ListOf
    (r : Reading)
    (stands : Data → α → Prop)
    (d : Data)
    (xs : List α) : Prop :=
  ∃ ds, r.items d ds ∧ List.Forall₂ stands ds xs

/-- Whether a value is taken for a map with texts for its keys, entry by entry. -/
def MapOf
    (r : Reading)
    (stands : Data → α → Prop)
    (d : Data)
    (ys : List (String × α)) : Prop :=
  ∃ es xs, d = .map es ∧
    List.Forall₂ (fun e x => r.text e.1 x.1 ∧ stands e.2 x.2) es xs ∧ r.merges xs ys

end Reading

/-! ## Entries -/

/-- Whether an entry is there and its value stands for `a`. -/
def Entered
    (es : List (Data × Data))
    (name : String)
    (stands : Data → α → Prop)
    (a : α) : Prop :=
  ∃ d, Data.find? name es = some d ∧ stands d a

/-- Whether an entry stands for `a`, which is `usual` where the entry is left out. -/
def EnteredOr
    (es : List (Data × Data))
    (name : String)
    (usual : α)
    (stands : Data → α → Prop)
    (a : α) : Prop :=
  Entered es name stands a ∨ Data.find? name es = none ∧ a = usual

section Entries

variable {es : List (Data × Data)} {name : String} {usual : α} {read : Data → Checked α}
  {stands : Data → α → Prop} {a : α}

theorem entered_of_required
    (hread : ∀ {d}, read d = .ok a → stands d a)
    (h : required es name read = .ok a) :
    Entered es name stands a := by
  unfold required at h
  split at h
  · next d hd => exact ⟨d, hd, hread (under_ok h)⟩
  · cases h

theorem enteredOr_of_optional
    (hread : ∀ {d}, read d = .ok a → stands d a)
    (h : optional es name usual read = .ok a) :
    EnteredOr es name usual stands a := by
  unfold optional at h
  split at h
  · next d hd => exact .inl ⟨d, hd, hread (under_ok h)⟩
  · next hnone =>
    cases h
    exact .inr ⟨hnone, rfl⟩

theorem required_of_entered
    (hread : ∀ {d}, stands d a → read d = .ok a)
    (h : Entered es name stands a) :
    required es name read = .ok a := by
  obtain ⟨d, hd, ha⟩ := h
  rw [required, hd]
  dsimp only
  rw [hread ha]
  rfl

theorem optional_of_none
    (read : Data → Checked α)
    (usual : α)
    (h : Data.find? name es = none) :
    optional es name usual read = .ok usual := by
  rw [optional, h]

theorem optional_of_enteredOr
    (hread : ∀ {d}, stands d a → read d = .ok a)
    (h : EnteredOr es name usual stands a) :
    optional es name usual read = .ok a := by
  rcases h with ⟨d, hd, ha⟩ | ⟨hnone, rfl⟩
  · rw [optional, hd]
    dsimp only
    rw [hread ha]
    rfl
  · exact optional_of_none read a hnone

end Entries

/-! ## Lists -/

section Lists

variable {read : Data → Checked α} {stands : Data → α → Prop}

theorem exists_of_forall₂
    {δ : Type}
    {relates : δ → α → Prop}
    {ds : List δ}
    {xs : List α}
    (h : List.Forall₂ relates ds xs) :
    ∀ x ∈ xs, ∃ d ∈ ds, relates d x := by
  induction h with
  | nil => exact List.forall_mem_nil _
  | cons hx _ ih =>
    refine List.forall_mem_cons.mpr ⟨⟨_, List.mem_cons_self, hx⟩, ?_⟩
    intro x hmem
    obtain ⟨d, hd, hrelates⟩ := ih x hmem
    exact ⟨d, List.mem_cons_of_mem _ hd, hrelates⟩

/-- What stands for items one by one, as a function of them, are their images. -/
theorem forall₂_iff_map_eq
    {δ : Type}
    {relates : δ → α → Prop}
    {f : δ → α}
    (h : ∀ d x, relates d x ↔ f d = x)
    {ds : List δ}
    {xs : List α} :
    List.Forall₂ relates ds xs ↔ ds.map f = xs := by
  have hrelates : relates = fun d x => f d = x := by
    funext d x
    exact propext (h d x)
  rw [hrelates, ← List.forall₂_map_left_iff, List.forall₂_eq_eq_eq]

/-- Each item of a list that a document gives is given by a part of the document. -/
theorem exists_of_listOf
    {r : Reading}
    {es : List (Data × Data)}
    {name : String}
    {xs : List α}
    (h : EnteredOr es name [] (r.ListOf stands) xs) :
    ∀ x ∈ xs, ∃ d, stands d x := by
  rcases h with ⟨_, _, ds, _, hds⟩ | ⟨_, rfl⟩
  · intro x hx
    obtain ⟨d, _, hd⟩ := exists_of_forall₂ hds x hx
    exact ⟨d, hd⟩
  · exact List.forall_mem_nil _

theorem forall₂_of_readItems
    (hread : ∀ {d a}, read d = .ok a → stands d a)
    {i : Nat}
    {ds : List Data}
    {xs : List α}
    (h : readItems read i ds = .ok xs) :
    List.Forall₂ stands ds xs := by
  induction ds generalizing i xs with
  | nil =>
    cases h
    exact .nil
  | cons d ds ih =>
    obtain ⟨g, ys, hg, hys, rfl⟩ := seq_ok h
    obtain ⟨x, hx, rfl⟩ := map_ok hg
    exact .cons (hread (under_ok hx)) (ih hys)

/-- A list that was read is what the document stands for, item by item. -/
theorem forall₂_of_readList
    (hread : ∀ {d a}, read d = .ok a → stands d a)
    {d : Data}
    {xs : List α}
    (h : readList read d = .ok xs) :
    Reading.lenient.ListOf stands d xs := by
  cases d with
  | list ds => exact ⟨ds, .inl rfl, forall₂_of_readItems hread h⟩
  | set ds => exact ⟨ds, .inr rfl, forall₂_of_readItems hread h⟩
  | _ => cases h

theorem readItems_of_forall₂
    {ds : List Data}
    {xs : List α}
    (hread : ∀ x ∈ xs, ∀ {d}, stands d x → read d = .ok x)
    (h : List.Forall₂ stands ds xs)
    (i : Nat) :
    readItems read i ds = .ok xs := by
  induction h generalizing i with
  | nil => rfl
  | cons hx hxs ih =>
    rw [readItems, hread _ List.mem_cons_self hx,
      ih fun y hy => hread y (List.mem_cons_of_mem _ hy)]
    rfl

/-- A list is read from what stands for it, when its items are. -/
theorem readList_of_forall₂
    {d : Data}
    {xs : List α}
    (hread : ∀ x ∈ xs, ∀ {d}, stands d x → read d = .ok x)
    (h : Reading.declared.ListOf stands d xs) :
    readList read d = .ok xs := by
  obtain ⟨ds, rfl, hxs⟩ := h
  exact readItems_of_forall₂ hread hxs 0

end Lists

/-! ## Maps -/

section Maps

variable {read : Data → Checked α} {stands : Data → α → Prop}

theorem forall₂_of_readEntries
    (hread : ∀ {d a}, read d = .ok a → stands d a)
    {es : List (Data × Data)}
    {xs : List (String × α)}
    (h : readEntries readText read es = .ok xs) :
    List.Forall₂ (fun e x => Reading.lenient.text e.1 x.1 ∧ stands e.2 x.2) es xs := by
  induction es generalizing xs with
  | nil =>
    cases h
    exact .nil
  | cons e es ih =>
    obtain ⟨g, ys, hg, hys, rfl⟩ := seq_ok h
    obtain ⟨y, hy, rfl⟩ := map_ok hg
    obtain ⟨g', a, hg', ha, rfl⟩ := seq_ok hy
    obtain ⟨key, hkey, rfl⟩ := map_ok hg'
    exact .cons ⟨under_ok (under_ok hkey), hread (under_ok ha)⟩ (ih hys)

/-- A map that was read is what the document stands for, entry by entry. -/
theorem mapOf_of_readMap
    (hread : ∀ {d a}, read d = .ok a → stands d a)
    {d : Data}
    {ys : List (String × α)}
    (h : readMap readText read d = .ok ys) :
    Reading.lenient.MapOf stands d ys := by
  cases d with
  | map es =>
    obtain ⟨xs, hxs, rfl⟩ := map_ok h
    exact ⟨es, xs, rfl, forall₂_of_readEntries hread hxs, rfl⟩
  | _ => cases h

theorem readEntries_of_forall₂
    {es : List (Data × Data)}
    {xs : List (String × α)}
    (hread : ∀ x ∈ xs, ∀ {d}, stands d x.2 → read d = .ok x.2)
    (h : List.Forall₂ (fun e x => Reading.declared.text e.1 x.1 ∧ stands e.2 x.2) es xs) :
    readEntries readText read es = .ok xs := by
  induction h with
  | nil => rfl
  | @cons e x es xs hx hxs ih =>
    obtain ⟨k, d⟩ := e
    obtain ⟨⟨rfl, _⟩, hd⟩ := hx
    rw [readEntries, hread x List.mem_cons_self hd,
      ih fun y hy => hread y (List.mem_cons_of_mem _ hy)]
    rfl

/-- A map whose keys are pairwise different is read from what stands for it, when its values are. -/
theorem readMap_of_mapOf
    {d : Data}
    {ys : List (String × α)}
    (hread : ∀ y ∈ ys, ∀ {d}, stands d y.2 → read d = .ok y.2)
    (h : Reading.declared.MapOf stands d ys) :
    readMap readText read d = .ok ys := by
  obtain ⟨es, xs, rfl, hxs, hdistinct, rfl⟩ := h
  unfold readMap
  dsimp only
  rw [readEntries_of_forall₂ hread hxs]
  exact congrArg Checked.ok (foldl_put_eq hdistinct)

/-- The keys of a declared map are pairwise different, and each value is given by a part of the
document. -/
theorem exists_of_mapOf
    {es : List (Data × Data)}
    {name : String}
    {ys : List (String × α)}
    (h : EnteredOr es name [] (Reading.declared.MapOf stands) ys) :
    (ys.map Prod.fst).Nodup ∧ ∀ y ∈ ys, ∃ d, stands d y.2 := by
  rcases h with ⟨_, _, entries, xs, _, hxs, hdistinct, rfl⟩ | ⟨_, rfl⟩
  · refine ⟨hdistinct, ?_⟩
    intro y hy
    obtain ⟨e, _, _, hvalue⟩ := exists_of_forall₂ hxs y hy
    exact ⟨e.2, hvalue⟩
  · exact ⟨List.nodup_nil, List.forall_mem_nil _⟩

end Maps

end Schema
end Rebalance
