import Mathlib.Data.List.Basic
import Mathlib.Data.List.Infix
import Rebalance.Proofs.Files.Reading
import Rebalance.Proofs.Files.Writing
import Rebalance.Proofs.Text.Codes

/-!
# Which folders are made on the way to a path, and when that succeeds

* `Path.Fits`: a path whose text is short enough, and each of its names.
* `Tree.place`, `Tree.way`: the place that the names of a path lead to, and the places that its
  first names lead to.
* `Tree.Paved`: one tree is another one with further folders, all of them on the way to a path.
  However making folders ends, this is what it leaves (`Tree.paved_makeFolders`).
* `Tree.isFolder_iff_way`: a path leads to a folder just when it fits and every place on the way to
  it is a folder.
* `Tree.makeFolders_ok_iff`: making folders succeeds just when the path fits and every place on the
  way is a folder or is free.
* `Tree.isDeep_iff_of_passable`: of such folders too many are missing just when the one as many
  names up as the limit is not there.
-/

namespace Rebalance

/-! ## Bytes of joined names -/

theorem Text.encodeName_slash
    (s r : String) :
    Text.encodeName (s ++ "/" ++ r) = Text.encodeName s ++ Text.encodeName ("/" ++ r) := by
  have hslash : Text.IsOrdinary '/' := Text.isOrdinary_of_lt (by decide)
  have hcodes : Text.codes (s ++ "/" ++ r) = Text.codes s ++ Text.codes ("/" ++ r) := by
    simp only [Text.codes, String.toList_append, List.append_assoc]
    exact Text.codesOf_append s.toList r.toList hslash
  rw [Text.encodeName, hcodes, List.flatMap_append]
  rfl

theorem Text.joined_concat
    (separator last : String)
    {names : List String}
    (h : names ≠ []) :
    Text.joined separator (names ++ [last]) = Text.joined separator names ++ separator ++ last := by
  induction names with
  | nil => exact absurd rfl h
  | cons name rest ih =>
    cases rest with
    | nil => rfl
    | cons next more =>
      have hrest := ih (List.cons_ne_nil next more)
      simp only [List.cons_append, Text.joined] at hrest ⊢
      rw [hrest]
      simp only [String.append_assoc]

namespace Files

/-! ## Paths that fit -/

/-- Whether a name is short enough.  A step back is no name. -/
def IsShort (name : String) : Prop :=
  name = ".." ∨ (Text.encodeName name).length ≤ Tree.nameLimit

/-- Whether the text of a path is short enough, and each of its names. -/
structure Path.Fits (p : Path) : Prop where
  text : (Text.encodeName p.text).length ≤ Tree.pathLimit
  names : ∀ name ∈ p.names, IsShort name

/-- Whether a path is what another one begins with, and less than all of it. -/
structure Path.IsAbove (q p : Path) : Prop where
  root : q.root = p.root
  front : q.names <+: p.names
  ne : q.names ≠ p.names

/-- The path that is left when some names are taken off at the end. -/
def Path.up (n : Nat) (p : Path) : Path :=
  { p with names := p.names.take (p.names.length - n) }

namespace Path

theorem up_succ
    (n : Nat)
    (p : Path) :
    p.up (n + 1) = p.parent.up n := by
  have hlength : min (p.names.length - 1 - n) (p.names.length - 1) = p.names.length - (n + 1) := by
    omega
  have hnames : p.names.take (p.names.length - (n + 1)) =
      p.names.dropLast.take (p.names.dropLast.length - n) := by
    rw [List.length_dropLast, List.dropLast_eq_take, List.take_take, hlength]
  exact congrArg (fun names => { p with names := names }) hnames

theorem text_child
    {p : Path}
    (name : String)
    (h : p.names ≠ []) :
    (p.child name).text = p.text ++ "/" ++ name := by
  simp [text, child, h, Text.joined_concat, String.append_assoc]

theorem length_text_of_nil
    {p : Path}
    (h : p.names = []) :
    (Text.encodeName p.text).length ≤ Tree.pathLimit := by
  obtain ⟨root, names⟩ := p
  cases h
  cases root <;> decide

theorem child_parent
    {p : Path}
    {name : String}
    (h : p.names.getLast? = some name) :
    p.parent.child name = p := by
  have hnames := List.dropLast_append_getLast? name h
  simp [parent, child, hnames]

/-- The path before the last name fits too. -/
theorem Fits.parent
    {p : Path}
    (h : p.Fits) :
    p.parent.Fits := by
  refine ⟨?_, fun name hname => h.names name (List.dropLast_subset _ hname)⟩
  by_cases hnil : p.parent.names = []
  · exact length_text_of_nil hnil
  · cases hlast : p.names.getLast? with
    | none =>
      have : p.names = [] := List.getLast?_eq_none_iff.mp hlast
      exact absurd (by simp [Path.parent, this]) hnil
    | some name =>
      have htext := h.text
      rw [← child_parent hlast, text_child name hnil, Text.encodeName_slash,
        List.length_append] at htext
      omega

theorem isAbove_of_prefix_parent
    {q p : Path}
    (hnames : p.names ≠ [])
    (hroot : q.root = p.root)
    (hfront : q.names <+: p.parent.names) :
    q.IsAbove p := by
  refine ⟨hroot, hfront.trans (List.dropLast_prefix _), ?_⟩
  intro heq
  have hlength := hfront.length_le
  have hpos := List.length_pos_iff.mpr hnames
  rw [heq, parent, List.length_dropLast] at hlength
  omega

end Path

namespace Tree

/-! ## Places and ways -/

/-- The place that the names of a path lead to. -/
def place (t : Tree) (p : Path) : Location :=
  p.names.foldl advance (t.start p)

/-- The places that the first names of a path lead to, from where it begins to its own place. -/
def way (t : Tree) (p : Path) : List Location :=
  p.names.scanl advance (t.start p)

theorem mem_scanl_iff
    {names : List String}
    {l k : Location} :
    k ∈ names.scanl advance l ↔ ∃ front, front <+: names ∧ k = front.foldl advance l := by
  induction names generalizing l with
  | nil => simp
  | cons name rest ih =>
    rw [List.scanl_cons, List.mem_cons, ih]
    constructor
    · rintro (rfl | ⟨front, hfront, rfl⟩)
      · exact ⟨[], List.nil_prefix, rfl⟩
      · exact ⟨name :: front, List.cons_prefix_cons.mpr ⟨rfl, hfront⟩, rfl⟩
    · rintro ⟨front, hfront, rfl⟩
      rcases List.prefix_cons_iff.mp hfront with rfl | ⟨more, rfl, hmore⟩
      · exact .inl rfl
      · exact .inr ⟨more, hmore, rfl⟩

theorem mem_way_iff
    {t : Tree}
    {p : Path}
    {l : Location} :
    l ∈ t.way p ↔ ∃ q : Path, q.root = p.root ∧ q.names <+: p.names ∧ l = t.place q := by
  rw [way, mem_scanl_iff]
  constructor
  · rintro ⟨front, hfront, rfl⟩
    exact ⟨⟨p.root, front⟩, rfl, hfront, rfl⟩
  · rintro ⟨⟨root, front⟩, hroot, hfront, rfl⟩
    cases hroot
    exact ⟨front, hfront, rfl⟩

theorem place_mem_way
    (t : Tree)
    (p : Path) :
    t.place p ∈ t.way p :=
  mem_way_iff.mpr ⟨p, rfl, List.prefix_rfl, rfl⟩

theorem way_parent_subset
    (t : Tree)
    (p : Path) :
    t.way p.parent ⊆ t.way p := by
  intro l hl
  obtain ⟨q, hroot, hfront, rfl⟩ := mem_way_iff.mp hl
  exact mem_way_iff.mpr ⟨q, hroot, hfront.trans (List.dropLast_prefix _), rfl⟩

/-- The place of a path is that of its last name from the place of its folder. -/
theorem place_of_getLast?
    (t : Tree)
    {p : Path}
    {name : String}
    (h : p.names.getLast? = some name) :
    t.place p = advance (t.place p.parent) name := by
  have hstart : t.start p.parent = t.start p := rfl
  conv_lhs => rw [place, ← List.dropLast_append_getLast? name h, List.foldl_append]
  rw [place, hstart]
  rfl

theorem place_congr
    {t u : Tree}
    (h : u.working = t.working)
    (p : Path) :
    u.place p = t.place p := by
  simp [place, start, h]

theorem way_congr
    {t u : Tree}
    (h : u.working = t.working)
    (p : Path) :
    u.way p = t.way p := by
  simp [way, start, h]

/-- A path begins at a folder that is always there. -/
theorem entry?_start
    (t : Tree)
    (p : Path) :
    t.entry? (t.start p) = some .folder := by
  refine entry?_of_isBase ?_
  unfold start isBase
  split
  · exact List.isPrefixOf_iff_prefix.mpr List.prefix_rfl
  · rfl

/-! ## Following names -/

theorem step_of_isShort
    (l : Location)
    {name : String}
    (h : IsShort name) :
    step l name = .ok (advance l name) := by
  unfold step advance
  split
  · rfl
  · next hup => rw [if_neg (Nat.not_lt.mpr (h.resolve_left hup))]

theorem isShort_of_step
    {l m : Location}
    {name : String}
    (h : step l name = .ok m) :
    IsShort name := by
  unfold step at h
  split at h
  · next hup => exact .inl hup
  · split at h
    · cases h
    · next hlimit => exact .inr (Nat.not_lt.mp hlimit)

/-- Names lead somewhere from a folder just when they are short and pass nothing but folders. -/
theorem exists_follow_iff
    {t : Tree}
    {l : Location}
    (names : List String)
    (hl : t.entry? l = some .folder) :
    (∃ m, t.follow l names = .ok m) ↔
      (∀ name ∈ names, IsShort name) ∧ ∀ k ∈ names.scanl advance l, t.entry? k = some .folder := by
  induction names generalizing l with
  | nil => simp [follow, hl]
  | cons name rest ih =>
    rw [follow, List.scanl_cons, List.forall_mem_cons, List.forall_mem_cons]
    constructor
    · rintro ⟨m, hm⟩
      cases hs : step l name with
      | error f =>
        rw [hs] at hm
        cases hm
      | ok next =>
        rw [hs] at hm
        dsimp only at hm
        split at hm
        · cases hm
        · cases hm
        · next hnext =>
          obtain rfl := step_ok hs
          obtain ⟨hshort, hway⟩ := (ih hnext).mp ⟨m, hm⟩
          exact ⟨⟨isShort_of_step hs, hshort⟩, hl, hway⟩
    · rintro ⟨⟨hname, hshort⟩, -, hway⟩
      have hnext : t.entry? (advance l name) = some .folder :=
        hway _ (mem_scanl_iff.mpr ⟨[], List.nil_prefix, rfl⟩)
      rw [step_of_isShort l hname]
      dsimp only
      rw [hnext]
      exact (ih hnext).mpr ⟨hshort, hway⟩

/-- Short names that pass no file lead somewhere, or to where nothing is yet. -/
theorem follow_of_forall
    {t : Tree}
    {l : Location}
    {names : List String}
    (hshort : ∀ name ∈ names, IsShort name)
    (hway : ∀ k ∈ names.scanl advance l, t.entry? k = some .folder ∨ t.entry? k = none) :
    t.follow l names = .ok (names.foldl advance l) ∨ t.follow l names = .error .notFound := by
  induction names generalizing l with
  | nil => exact .inl rfl
  | cons name rest ih =>
    rw [List.forall_mem_cons] at hshort
    rw [List.scanl_cons, List.forall_mem_cons] at hway
    have hnext := hway.2 (advance l name) (mem_scanl_iff.mpr ⟨[], List.nil_prefix, rfl⟩)
    rw [follow, step_of_isShort l hshort.1]
    dsimp only
    rcases hnext with hfolder | hnone
    · rw [hfolder]
      exact ih hshort.2 hway.2
    · rw [hnone]
      exact .inr rfl

/-- A path that leads somewhere leads to its place. -/
theorem place_of_walk
    {t : Tree}
    {p : Path}
    {l : Location}
    (h : t.walk p = .ok l) :
    l = t.place p := by
  unfold walk at h
  split at h
  · cases h
  · split at h
    · cases h
    · next m hm =>
      obtain rfl := follow_ok hm
      split at h
      · next hlast =>
        have hnames : p.names = [] := List.getLast?_eq_none_iff.mp hlast
        cases h
        simp [place, hnames]
      · next name hlast => exact (step_ok h).trans (place_of_getLast? t hlast).symm

theorem mem_way_parent_iff
    {t : Tree}
    {p : Path}
    {l : Location} :
    l ∈ t.way p ↔ l ∈ t.way p.parent ∨ l = t.place p := by
  constructor
  · intro hl
    obtain ⟨q, hroot, hfront, rfl⟩ := mem_way_iff.mp hl
    by_cases hwhole : q.names = p.names
    · refine .inr ?_
      rw [place, place, start, start, hroot, hwhole]
    · obtain ⟨rest, hrest⟩ := hfront
      have hmore : rest ≠ [] := by
        rintro rfl
        exact hwhole (by simpa using hrest)
      refine .inl (mem_way_iff.mpr ⟨q, hroot, ⟨rest.dropLast, ?_⟩, rfl⟩)
      rw [Path.parent, ← hrest, List.dropLast_append_of_ne_nil hmore]
  · rintro (hl | rfl)
    · exact way_parent_subset t p hl
    · exact place_mem_way t p

/-- A path leads somewhere just when it fits and every place on the way to its folder is a folder;
it then leads to its place. -/
theorem walk_eq_ok_iff
    {t : Tree}
    {p : Path}
    {l : Location} :
    t.walk p = .ok l ↔
      p.Fits ∧ (∀ k ∈ t.way p.parent, t.entry? k = some .folder) ∧ l = t.place p := by
  have hfollow := exists_follow_iff p.names.dropLast (entry?_start t p)
  constructor
  · intro h
    have hplace := place_of_walk h
    unfold walk at h
    split at h
    · cases h
    · next htext =>
      split at h
      · cases h
      · next m hm =>
        obtain ⟨hshort, hway⟩ := hfollow.mp ⟨m, hm⟩
        refine ⟨⟨Nat.not_lt.mp htext, ?_⟩, hway, hplace⟩
        split at h
        · next hlast =>
          rw [List.getLast?_eq_none_iff.mp hlast]
          exact List.forall_mem_nil _
        · next name hlast =>
          rw [← List.dropLast_append_getLast? name hlast, List.forall_mem_append,
            List.forall_mem_singleton]
          exact ⟨hshort, isShort_of_step h⟩
  · rintro ⟨hfits, hway, rfl⟩
    have hshort : ∀ name ∈ p.names.dropLast, IsShort name := hfits.parent.names
    obtain ⟨m, hm⟩ := hfollow.mpr ⟨hshort, hway⟩
    rw [walk, if_neg (Nat.not_lt.mpr hfits.text), hm]
    obtain rfl := follow_ok hm
    dsimp only
    split
    · next hlast =>
      have hnames := List.getLast?_eq_none_iff.mp hlast
      simp [place, hnames]
    · next name hlast =>
      rw [step_of_isShort _ (hfits.names name (List.mem_of_getLast? hlast)),
        place_of_getLast? t hlast]
      rfl

/-- A path leads to a folder just when it fits and every place on the way to it is a folder. -/
theorem isFolder_iff_way
    {t : Tree}
    {p : Path} :
    t.isFolder p = .ok true ↔ p.Fits ∧ ∀ l ∈ t.way p, t.entry? l = some .folder := by
  rw [isFolder_iff]
  simp only [walk_eq_ok_iff, mem_way_parent_iff (p := p)]
  constructor
  · rintro ⟨l, ⟨hfits, hway, rfl⟩, hl⟩
    refine ⟨hfits, ?_⟩
    rintro k (hk | rfl)
    · exact hway k hk
    · exact hl
  · rintro ⟨hfits, hway⟩
    exact ⟨t.place p, ⟨hfits, fun k hk => hway k (.inl hk), rfl⟩, hway _ (.inr rfl)⟩

/-! ## Further folders on a way -/

/-- Whether a tree is another one with some further folders, all of them on the way to a path. -/
structure Paved (t : Tree) (p : Path) (u : Tree) : Prop where
  working : u.working = t.working
  entry : ∀ l, u.entry? l = t.entry? l ∨
    t.entry? l = none ∧ u.entry? l = some .folder ∧ isClosed l = false ∧ l ∈ t.way p

namespace Paved

variable {t u v : Tree} {p : Path}

theorem refl
    (t : Tree)
    (p : Path) :
    Paved t p t :=
  ⟨rfl, fun _ => .inl rfl⟩

theorem grows
    (h : Paved t p u) :
    Grows t u :=
  ⟨h.working, fun l => (h.entry l).imp_right fun ⟨hnone, hfolder, _⟩ => ⟨hnone, hfolder⟩⟩

theorem trans
    (h : Paved t p u)
    (g : Paved u p v) :
    Paved t p v := by
  refine ⟨g.working.trans h.working, ?_⟩
  intro l
  rcases g.entry l with hg | ⟨hnone, hfolder, hopen, hway⟩
  · rw [hg]
    exact h.entry l
  · rw [way_congr h.working] at hway
    rcases h.entry l with hh | ⟨_, hu, _⟩
    · exact .inr ⟨hh ▸ hnone, hfolder, hopen, hway⟩
    · rw [hnone] at hu
      cases hu

theorem of_parent
    (h : Paved t p.parent u) :
    Paved t p u :=
  ⟨h.working, fun l => (h.entry l).imp_right fun ⟨hnone, hfolder, hopen, hway⟩ =>
    ⟨hnone, hfolder, hopen, way_parent_subset t p hway⟩⟩

end Paved

theorem paved_makeFolder
    {t u : Tree}
    {p : Path}
    (h : t.makeFolder p = .ok u) :
    Paved t p u := by
  unfold makeFolder at h
  split at h
  · cases h
  · next l hwalk =>
    split at h
    · cases h
    · next hsome =>
      split at h
      · cases h
      · next hopen =>
        cases h
        obtain rfl := place_of_walk hwalk
        have hnone : t.entry? (t.place p) = none := by simpa using hsome
        have hbase : t.isBase (t.place p) = false := isBase_eq_false (by simp [hnone])
        refine ⟨rfl, ?_⟩
        intro l
        rw [entry?_set t l _ hbase]
        by_cases hl : t.place p = l
        · subst hl
          exact .inr ⟨hnone, if_pos rfl, by simpa using hopen, place_mem_way t p⟩
        · exact .inl (if_neg hl)

theorem paved_makeFoldersLoop
    (fuel : Nat)
    (t : Tree)
    (p : Path) :
    Paved t p (makeFoldersLoop fuel t p).1 := by
  induction fuel generalizing t p with
  | zero => exact Paved.refl t p
  | succ fuel ih =>
    unfold makeFoldersLoop
    split
    · next u hu => exact paved_makeFolder hu
    · split
      · exact Paved.refl t p
      · have hparent := (ih t p.parent).of_parent
        split
        · next u e hu =>
          rw [hu] at hparent
          exact hparent
        · next u hu =>
          rw [hu] at hparent
          split
          · next v hv => exact hparent.trans (paved_makeFolder hv)
          · exact hparent
    · exact Paved.refl t p

/-- However making folders ends, all it leaves is further folders on the way. -/
theorem paved_makeFolders
    (t : Tree)
    (p : Path) :
    Paved t p (t.makeFolders p).1 :=
  paved_makeFoldersLoop _ t p

/-! ## When folders are made -/

/-- Whether a path fits and every place on the way to it is a folder or is free. -/
structure Passable (t : Tree) (p : Path) : Prop where
  fits : p.Fits
  way : ∀ l ∈ t.way p, t.entry? l = some .folder ∨ t.entry? l = none ∧ isClosed l = false

namespace Passable

variable {t u : Tree} {p : Path}

theorem parent
    (h : t.Passable p) :
    t.Passable p.parent :=
  ⟨h.fits.parent, fun l hl => h.way l (way_parent_subset t p hl)⟩

/-- Folders on some way take nothing from a path that is passable. -/
theorem of_paved
    {q : Path}
    (h : t.Passable p)
    (g : Paved t q u) :
    u.Passable p := by
  refine ⟨h.fits, ?_⟩
  intro l hl
  rw [way_congr g.working] at hl
  rcases g.entry l with hg | ⟨_, hfolder, _⟩
  · rw [hg]
    exact h.way l hl
  · exact .inl hfolder

/-- A passable path leads to its place, unless a folder on the way is missing. -/
theorem walk
    (h : t.Passable p) :
    t.walk p = .ok (t.place p) ∨ t.walk p = .error .notFound := by
  have hfollow := follow_of_forall (l := t.start p) h.fits.parent.names fun l hl =>
    (h.parent.way l hl).imp_right And.left
  rcases hfollow with hok | hmissing
  · refine .inl (walk_eq_ok_iff.mpr ⟨h.fits, ?_, rfl⟩)
    exact ((exists_follow_iff _ (entry?_start t p)).mp ⟨_, hok⟩).2
  · refine .inr ?_
    have hdrop : t.follow (t.start p) p.names.dropLast = .error .notFound := hmissing
    rw [Tree.walk, if_neg (Nat.not_lt.mpr h.fits.text), hdrop]

/-- A path without names leads to where it begins. -/
theorem names_ne_nil
    (h : t.Passable p)
    (hmissing : t.walk p = .error .notFound) :
    p.names ≠ [] := by
  intro hnil
  simp [Tree.walk, hnil, follow, Nat.not_lt.mpr h.fits.text] at hmissing

/-- At the end of a passable path a folder is made, unless it is there. -/
theorem makeFolder
    (h : t.Passable p)
    (hwalk : t.walk p = .ok (t.place p)) :
    (∃ u, t.makeFolder p = .ok u) ∨ t.makeFolder p = .error .exists ∧ t.isFolder p = .ok true := by
  rw [Tree.makeFolder, hwalk]
  rcases h.way _ (place_mem_way t p) with hfolder | ⟨hnone, hopen⟩
  · exact .inr ⟨by simp [hfolder], isFolder_iff.mpr ⟨_, hwalk, hfolder⟩⟩
  · exact .inl ⟨t.set (t.place p) .folder, by simp [hnone, hopen]⟩

end Passable

theorem settle_of_isFolder
    {t : Tree}
    {p : Path}
    (f : Fault)
    (h : t.isFolder p = .ok true) :
    t.settle p f = .ok () := by
  rw [settle, h]

theorem makeFoldersLoop_of_passable
    {fuel : Nat}
    {t : Tree}
    {p : Path}
    (hfuel : p.names.length < fuel)
    (h : t.Passable p) :
    (makeFoldersLoop fuel t p).2 = .ok () := by
  induction fuel generalizing t p with
  | zero => omega
  | succ fuel ih =>
    rw [makeFoldersLoop]
    rcases h.walk with hwalk | hmissing
    · rcases h.makeFolder hwalk with ⟨u, hu⟩ | ⟨hexists, hfolder⟩
      · rw [hu]
      · simp [hexists, settle_of_isFolder .exists hfolder, Except.mapError]
    · have hmake : t.makeFolder p = .error .notFound := by rw [Tree.makeFolder, hmissing]
      have hnames := h.names_ne_nil hmissing
      have hlength : p.parent.names.length < fuel := by
        have := List.length_pos_iff.mpr hnames
        simp only [Path.parent, List.length_dropLast]
        omega
      rw [hmake]
      dsimp only
      rw [if_neg hnames]
      have hparent := ih hlength h.parent
      have hpaved := paved_makeFoldersLoop fuel t p.parent
      generalize hu : makeFoldersLoop fuel t p.parent = x at hparent hpaved ⊢
      obtain ⟨u, r⟩ := x
      cases hparent
      have hfolder := isFolder_of_makeFoldersLoop hu
      have hpass := h.of_paved hpaved
      have hwalk : u.walk p = .ok (u.place p) :=
        walk_eq_ok_iff.mpr ⟨h.fits, (isFolder_iff_way.mp hfolder).2, rfl⟩
      dsimp only
      rcases hpass.makeFolder hwalk with ⟨v, hv⟩ | ⟨hexists, hthere⟩
      · rw [hv]
      · simp [hexists, settle_of_isFolder .exists hthere, Except.mapError]

/-- Folders are made just where the path fits and every place on the way is a folder or is free. -/
theorem makeFolders_ok_iff
    {t : Tree}
    {p : Path} :
    (t.makeFolders p).2 = .ok () ↔ t.Passable p := by
  constructor
  · intro h
    have hpaved := paved_makeFolders t p
    generalize hu : t.makeFolders p = x at h hpaved
    obtain ⟨u, r⟩ := x
    cases h
    obtain ⟨hfits, hway⟩ := isFolder_iff_way.mp (isFolder_of_makeFolders hu)
    refine ⟨hfits, ?_⟩
    intro l hl
    have hfolder := hway l (way_congr hpaved.working p ▸ hl)
    rcases hpaved.entry l with hsame | ⟨hnone, _, hopen, _⟩
    · exact .inl (hsame ▸ hfolder)
    · exact .inr ⟨hnone, hopen⟩
  · exact makeFoldersLoop_of_passable (Nat.lt_succ_self _)

/-! ## How far up the making goes -/

/-- Where a path leads to a folder, what is left of it without some names does too. -/
theorem isFolder_up
    {t : Tree}
    {p : Path}
    (n : Nat)
    (h : t.isFolder p = .ok true) :
    t.isFolder (p.up n) = .ok true := by
  induction n generalizing p with
  | zero => simpa [Path.up] using h
  | succ n ih =>
    obtain ⟨hfits, hway⟩ := isFolder_iff_way.mp h
    rw [Path.up_succ]
    exact ih (isFolder_iff_way.mpr ⟨hfits.parent, fun l hl => hway l (way_parent_subset t p hl)⟩)

/-- Where nothing bars the way, the making goes up past every level whose folder is missing. -/
theorem lt_levelsLoop_iff
    {fuel n : Nat}
    {t : Tree}
    {p : Path}
    (hfuel : p.names.length < fuel)
    (h : t.Passable p) :
    n < levelsLoop fuel t p ↔
      n = 0 ∨ n ≤ p.names.length ∧ t.isFolder (p.up n) ≠ .ok true := by
  induction fuel generalizing n p with
  | zero => omega
  | succ fuel ih =>
    rcases h.walk with hwalk | hmissing
    · -- The folder around is there, and so are all the others above.
      obtain ⟨hfits, hway, _⟩ := walk_eq_ok_iff.mp hwalk
      have hparent := isFolder_iff_way.mpr ⟨hfits.parent, hway⟩
      have hmake : t.makeFolder p ≠ .error .notFound := by
        rcases h.makeFolder hwalk with ⟨u, hu⟩ | ⟨hexists, _⟩
        · simp [hu]
        · simp [hexists]
      rw [levelsLoop_of_makeFolder fuel hmake, Nat.lt_one_iff]
      cases n with
      | zero => simp
      | succ n => simp [Path.up_succ, isFolder_up n hparent]
    · have hmake : t.makeFolder p = .error .notFound := by rw [Tree.makeFolder, hmissing]
      have hnames := h.names_ne_nil hmissing
      have hpos : 1 ≤ p.names.length := List.length_pos_iff.mpr hnames
      have hlength : p.parent.names.length = p.names.length - 1 := List.length_dropLast
      have hparent : t.isFolder p.parent ≠ .ok true := by
        intro hfolder
        have hwalk := walk_eq_ok_iff.mpr ⟨h.fits, (isFolder_iff_way.mp hfolder).2, rfl⟩
        rw [hmissing] at hwalk
        cases hwalk
      rw [levelsLoop, hmake]
      dsimp only
      rw [if_neg hnames]
      cases n with
      | zero => simp
      | succ n =>
        rw [Nat.succ_lt_succ_iff, ih (by omega) h.parent, Path.up_succ, hlength]
        cases n with
        | zero =>
          have hsame : p.parent.up 0 = p.parent := by simp [Path.up]
          simp [hsame, hparent, hpos]
        | succ n =>
          have : n + 1 ≤ p.names.length - 1 ↔ n + 1 + 1 ≤ p.names.length := by omega
          simp [this]

/-- Where nothing bars the way, too many folders are missing just when the one as many names up as
the limit is missing. -/
theorem isDeep_iff_of_passable
    {t : Tree}
    {p : Path}
    (h : t.Passable p) :
    t.IsDeep p ↔ levelLimit ≤ p.names.length ∧ t.isFolder (p.up levelLimit) ≠ .ok true := by
  have hpos : levelLimit ≠ 0 := by decide
  rw [IsDeep, levels, lt_levelsLoop_iff (Nat.lt_succ_self _) h]
  simp [hpos]

theorem length_joined_replicate
    (n : Nat) :
    (Text.encodeName (Text.joined "/" (List.replicate (n + 1) "a"))).length = 2 * n + 1 := by
  induction n with
  | zero => decide +kernel
  | succ n ih =>
    have hlast : (Text.encodeName ("/" ++ "a")).length = 2 := by decide +kernel
    rw [List.replicate_succ', Text.joined_concat _ _ (by simp), Text.encodeName_slash,
      List.length_append, ih, hlast]
    omega

theorem entry?_replicate
    (n : Nat) :
    Tree.entry? ⟨[], []⟩ (List.replicate (n + 1) "a") = none := by
  have hstanding : ∀ e ∈ standing, e.1.head? ≠ some "a" := by decide +kernel
  have hbase : Tree.isBase ⟨[], []⟩ (List.replicate (n + 1) "a") = false := rfl
  unfold Tree.entry?
  rw [hbase]
  simp only [Bool.false_eq_true, if_false, List.nil_append, Option.map_eq_none_iff,
    List.find?_eq_none, beq_iff_eq]
  intro e he heq
  exact hstanding e he (by rw [heq]; rfl)

/-- In a tree without entries, folders one more than the limit are too many. -/
theorem isDeep_replicate :
    (⟨[], []⟩ : Tree).IsDeep ⟨.relative, List.replicate (levelLimit + 1) "a"⟩ := by
  have hfold (k : Nat) : (List.replicate k "a").foldl advance [] = List.replicate k "a" := by
    induction k with
    | zero => rfl
    | succ k ih =>
      rw [List.replicate_succ', List.foldl_append, ih]
      rfl
  have hplace (k : Nat) : (⟨[], []⟩ : Tree).place ⟨.relative, List.replicate k "a"⟩ =
      List.replicate k "a" :=
    hfold k
  have hpassable : (⟨[], []⟩ : Tree).Passable ⟨.relative, List.replicate (levelLimit + 1) "a"⟩ := by
    refine ⟨⟨?_, ?_⟩, ?_⟩
    · rw [Path.text, if_neg (by simp), Root.text, String.empty_append, length_joined_replicate]
      decide
    · intro name hname
      obtain rfl := List.eq_of_mem_replicate hname
      exact .inr (by decide +kernel)
    · intro l hl
      obtain ⟨⟨root, front⟩, rfl, hfront, rfl⟩ := mem_way_iff.mp hl
      obtain ⟨_, hfront⟩ := List.prefix_replicate_iff.mp hfront
      dsimp only at hfront ⊢
      rw [hfront, hplace]
      cases front.length with
      | zero => exact .inl rfl
      | succ k => exact .inr ⟨entry?_replicate k, rfl⟩
  refine (isDeep_iff_of_passable hpassable).mpr ⟨by simp, ?_⟩
  intro hfolder
  have hthere := (isFolder_iff_way.mp hfolder).2 _ (place_mem_way _ _)
  simp only [Path.up, List.length_replicate, List.take_replicate, hplace] at hthere
  rw [show min (levelLimit + 1 - levelLimit) (levelLimit + 1) = 0 + 1 from rfl,
    entry?_replicate] at hthere
  cases hthere

end Tree
end Files
end Rebalance
