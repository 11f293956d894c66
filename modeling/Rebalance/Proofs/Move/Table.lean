import Rebalance.Move.Table
import Rebalance.Proofs.Text.Align
import Rebalance.Proofs.Text.Split
import Mathlib.Algebra.GroupWithZero.Nat

/-!
# The table of planned moves

* `Entry`: what a row tells of a step.
* `Entry.width_row`, `Entry.columns_row`: a row of texts that fit their columns is 83 characters
  wide, and its columns without their spaces are these texts.
* `HasLines`: a text is made of lines that end with a line feed, in one way only
  (`HasLines.linesOf_eq`).
* `hasLines_pieces`, `length_flatMap_pieces`: lines that hold line feeds make more lines.
* `render?_eq_some_iff`: the table is made of its heading, a row for every step, and a closing rule.
-/

namespace Rebalance
namespace Move
namespace Table

open Text

/-! ## Rows -/

/-- What a row tells of a step. -/
structure Entry where
  source : String
  destination : String
  size : String
  storageType : String

/-- What the row of a step tells; nothing when its size has no text. -/
def entryOf? (s : Step) : Option Entry :=
  s.sizeText?.map fun size => ⟨s.source.path, s.destination.path, size, s.destination.storageType⟩

/-- The row of an entry. -/
def Entry.row (e : Entry) : String :=
  Table.row [e.source, e.destination, e.size, e.storageType]

theorem stepRow?_eq
    (s : Step) :
    stepRow? s = (entryOf? s).map Entry.row := by
  simp [stepRow?, entryOf?, Option.map_map]
  rfl

/-- Cells stand next to each other with a space between them. -/
theorem Entry.toList_row
    (e : Entry) :
    e.row.toList = centre 30 e.source.toList ++ ' ' :: (centre 30 e.destination.toList ++
      ' ' :: (centre 10 e.size.toList ++ ' ' :: centre 10 e.storageType.toList)) := by
  simp [Entry.row, Table.row, columns, joined, cell, String.toList_append]

theorem Entry.codes_row
    (e : Entry) :
    codes e.row = codesOf (centre 30 e.source.toList) ++ ' '.toNat ::
      (codesOf (centre 30 e.destination.toList) ++ ' '.toNat ::
        (codesOf (centre 10 e.size.toList) ++ ' '.toNat ::
          codesOf (centre 10 e.storageType.toList))) := by
  rw [codes, Entry.toList_row, codesOf_append_space, codesOf_append_space, codesOf_append_space]

/-- A row is as wide as its cells and the three spaces between them. -/
theorem Entry.length_row
    (e : Entry) :
    (codes e.row).length = max 30 (Text.size e.source.toList) +
      max 30 (Text.size e.destination.toList) + max 10 (Text.size e.size.toList) +
      max 10 (Text.size e.storageType.toList) + 3 := by
  have hcell (width : Nat) (cs : List Char) :
      (codesOf (centre width cs)).length = max width (Text.size cs) := size_centre width cs
  rw [Entry.codes_row]
  simp only [List.length_append, List.length_cons, hcell]
  omega

/-- Whether a text can be read back from a column: it is no wider, has no line feed, and has no
space at either end. -/
structure FitsColumn (width : Nat) (v : String) : Prop where
  narrow : Text.size v.toList ≤ width
  unbroken : '\n' ∉ v.toList
  first : v.toList.head? ≠ some ' '
  last : v.toList.getLast? ≠ some ' '

/-- Whether all that a row tells can be read back from it. -/
structure Entry.Fits (e : Entry) : Prop where
  source : FitsColumn 30 e.source
  destination : FitsColumn 30 e.destination
  size : FitsColumn 10 e.size
  storageType : FitsColumn 10 e.storageType

/-- What stands between two places of a row, without the spaces around it. -/
def column (start stop : Nat) (row : String) : String :=
  String.ofList (trim (· == ' ') (slice start stop row.toList))

/-- What the columns of a row tell. -/
def readRow (row : String) : Entry :=
  ⟨column 0 30 row, column 31 61 row, column 62 72 row, column 73 83 row⟩

/-- The columns of a row in which every text fits its column. -/
theorem Entry.slices_row
    {e : Entry}
    (h : e.Fits) :
    slice 0 30 e.row.toList = centre 30 e.source.toList ∧
      slice 31 61 e.row.toList = centre 30 e.destination.toList ∧
      slice 62 72 e.row.toList = centre 10 e.size.toList ∧
      slice 73 83 e.row.toList = centre 10 e.storageType.toList := by
  have hcodes := e.codes_row
  have hsource := size_centre_of_le h.source.narrow
  have hdestination := size_centre_of_le h.destination.narrow
  have hsize := size_centre_of_le h.size.narrow
  have htype := size_centre_of_le h.storageType.narrow
  rw [codes] at hcodes
  generalize centre 30 e.source.toList = a at hcodes hsource ⊢
  generalize centre 30 e.destination.toList = b at hcodes hdestination ⊢
  generalize centre 10 e.size.toList = c at hcodes hsize ⊢
  generalize centre 10 e.storageType.toList = d at hcodes htype ⊢
  let gap := [' '.toNat]
  have hfirst : codesOf e.row.toList = [] ++
      (codesOf a ++ (gap ++ codesOf b ++ gap ++ codesOf c ++ gap ++ codesOf d)) := by
    simp [hcodes, gap]
  have hsecond : codesOf e.row.toList = (codesOf a ++ gap) ++
      (codesOf b ++ (gap ++ codesOf c ++ gap ++ codesOf d)) := by
    simp [hcodes, gap]
  have hthird : codesOf e.row.toList = (codesOf a ++ gap ++ codesOf b ++ gap) ++
      (codesOf c ++ (gap ++ codesOf d)) := by
    simp [hcodes, gap]
  have hfourth : codesOf e.row.toList =
      (codesOf a ++ gap ++ codesOf b ++ gap ++ codesOf c ++ gap) ++ (codesOf d ++ []) := by
    simp [hcodes, gap]
  have hlength (cs : List Char) : (codesOf cs).length = Text.size cs := rfl
  refine ⟨slice_eq hfirst rfl (by omega), slice_eq hsecond ?_ (by omega),
    slice_eq hthird ?_ (by omega), slice_eq hfourth ?_ (by omega)⟩ <;>
  simp [hlength, gap, hsource, hdestination, hsize]

/-- A row of texts that fit their columns is 83 characters wide. -/
theorem Entry.width_row
    {e : Entry}
    (h : e.Fits) :
    (codes e.row).length = 83 := by
  have hsource := h.source.narrow
  have hdestination := h.destination.narrow
  have hsize := h.size.narrow
  have htype := h.storageType.narrow
  rw [e.length_row]
  omega

/-- A space stands between its columns. -/
theorem Entry.gap_row
    {e : Entry}
    (h : e.Fits)
    {place : Nat}
    (hplace : place ∈ [30, 61, 72]) :
    (codes e.row)[place]? = some ' '.toNat := by
  have hsource := size_centre_of_le h.source.narrow
  have hdestination := size_centre_of_le h.destination.narrow
  have hsize := size_centre_of_le h.size.narrow
  unfold Text.size at hsource hdestination hsize
  simp only [List.mem_cons, List.not_mem_nil, or_false] at hplace
  rcases hplace with rfl | rfl | rfl <;>
    simp [e.codes_row, List.getElem?_append, hsource, hdestination, hsize]

/-- The columns without their spaces are the texts. -/
theorem Entry.columns_row
    {e : Entry}
    (h : e.Fits) :
    column 0 30 e.row = e.source ∧ column 31 61 e.row = e.destination ∧
      column 62 72 e.row = e.size ∧ column 73 83 e.row = e.storageType := by
  obtain ⟨hsource, hdestination, hsize, htype⟩ := Entry.slices_row h
  simp only [column, hsource, hdestination, hsize, htype,
    trim_centre _ h.source.first h.source.last,
    trim_centre _ h.destination.first h.destination.last, trim_centre _ h.size.first h.size.last,
    trim_centre _ h.storageType.first h.storageType.last, String.ofList_toList, and_self]

/-- The columns tell the texts. -/
theorem Entry.readRow_row
    {e : Entry}
    (h : e.Fits) :
    readRow e.row = e := by
  obtain ⟨hsource, hdestination, hsize, htype⟩ := Entry.columns_row h
  rw [readRow, hsource, hdestination, hsize, htype]

/-- The characters of a row are spaces and those of its texts. -/
theorem Entry.count_row
    (e : Entry)
    {c : Char}
    (h : c ≠ ' ') :
    e.row.toList.count c = e.source.toList.count c + e.destination.toList.count c +
      e.size.toList.count c + e.storageType.toList.count c := by
  rw [e.toList_row]
  simp [count_centre _ _ h, Ne.symm h]
  omega

/-! ## Lines -/

/-- The characters of some lines, each ended by a line feed. -/
def ended (lines : List String) : List Char :=
  lines.flatMap fun line => line.toList ++ ['\n']

/-- Whether a text is made of lines, each ended by a line feed. -/
structure HasLines (text : String) (lines : List String) : Prop where
  unbroken : ∀ line ∈ lines, '\n' ∉ line.toList
  text_eq : text.toList = ended lines

/-- The lines of a text, less what follows its last line feed. -/
def linesOf (text : String) : List String :=
  ((text.toList.splitOn '\n').map String.ofList).dropLast

theorem splitOn_ended
    {lines : List String}
    (h : ∀ line ∈ lines, '\n' ∉ line.toList) :
    (ended lines).splitOn '\n' = lines.map String.toList ++ [[]] := by
  induction lines with
  | nil => rfl
  | cons line lines ih =>
    have hrest := ih fun l hl => h l (List.mem_cons_of_mem line hl)
    have hcons : ended (line :: lines) = line.toList ++ '\n' :: ended lines := by
      simp [ended]
    rw [hcons, List.splitOn_append_cons_self_of_not_mem (h line List.mem_cons_self), hrest,
      List.map_cons, List.cons_append]

/-- The lines of a text are those it is made of, so there is one way only to be made of lines. -/
theorem HasLines.linesOf_eq
    {text : String}
    {lines : List String}
    (h : HasLines text lines) :
    linesOf text = lines := by
  rw [linesOf, h.text_eq, splitOn_ended h.unbroken]
  simp [Function.comp_def]

theorem ended_append
    (lines others : List String) :
    ended (lines ++ others) = ended lines ++ ended others := by
  simp [ended]

/-- The pieces of a line between its line feeds. -/
def pieces (line : String) : List String :=
  (line.toList.splitOn '\n').map String.ofList

/-- A text with a line feed behind it is made of its pieces. -/
theorem ended_pieces
    (line : String) :
    ended (pieces line) = line.toList ++ ['\n'] := by
  unfold pieces
  induction line.toList with
  | nil => rfl
  | cons c cs ih =>
    obtain ⟨piece, rest, hsplit⟩ := List.exists_cons_of_ne_nil (List.splitOn_ne_nil '\n' cs)
    rw [List.splitOn_cons_eq_if_modifyHead]
    by_cases hc : c = '\n'
    · simpa [ended, hc] using ih
    · rw [hsplit] at ih ⊢
      simpa [ended, hc] using ih

theorem unbroken_pieces
    {line piece : String}
    (h : piece ∈ pieces line) :
    '\n' ∉ piece.toList := by
  obtain ⟨cs, hcs, rfl⟩ := List.mem_map.mp h
  rw [String.toList_ofList]
  exact fun hmem => (mem_of_mem_splitOn hcs hmem).2 rfl

theorem length_pieces
    (line : String) :
    (pieces line).length = line.toList.count '\n' + 1 := by
  rw [pieces, List.length_map]
  induction line.toList with
  | nil => rfl
  | cons c cs ih =>
    rw [List.splitOn_cons_eq_if_modifyHead]
    by_cases hc : c = '\n'
    · simp [hc, ih]
    · simp [hc, ih]

theorem ended_flatMap_pieces
    (lines : List String) :
    ended (lines.flatMap pieces) = ended lines := by
  induction lines with
  | nil => rfl
  | cons line lines ih =>
    rw [List.flatMap_cons, ended_append, ih, ended_pieces]
    simp [ended]

theorem length_flatMap_pieces
    (lines : List String) :
    (lines.flatMap pieces).length =
      lines.length + (lines.map fun line => line.toList.count '\n').sum := by
  induction lines with
  | nil => rfl
  | cons line lines ih =>
    rw [List.flatMap_cons, List.length_append, length_pieces, ih, List.length_cons, List.map_cons,
      List.sum_cons]
    omega

/-- Lines that may hold line feeds themselves are still made of lines: as many as there are line
feeds in them and behind them. -/
theorem hasLines_pieces
    {text : String}
    {lines : List String}
    (h : text.toList = ended lines) :
    HasLines text (lines.flatMap pieces) := by
  refine ⟨?_, h.trans (ended_flatMap_pieces lines).symm⟩
  intro piece hpiece
  obtain ⟨line, _, hline⟩ := List.mem_flatMap.mp hpiece
  exact unbroken_pieces hline

/-! ## The report -/

theorem mapM_eq_some_iff
    {α β : Type}
    {f : α → Option β}
    {xs : List α}
    {ys : List β} :
    xs.mapM f = some ys ↔ xs.map f = ys.map some := by
  induction xs generalizing ys with
  | nil => simp
  | cons x xs ih =>
    cases ys with
    | nil => simp [Option.bind_eq_some_iff]
    | cons y ys => simp [Option.bind_eq_some_iff, ih]

theorem mapM_option_map
    {α β γ : Type}
    (f : α → Option β)
    (g : β → γ)
    (xs : List α) :
    xs.mapM (fun x => (f x).map g) = (xs.mapM f).map (List.map g) := by
  induction xs with
  | nil => rfl
  | cons x xs ih =>
    cases hx : f x <;> cases hxs : xs.mapM f <;> simp [hx, hxs, ih]

theorem toList_joined
    {lines : List String}
    (h : lines ≠ []) :
    (joined "\n" lines ++ "\n").toList = ended lines := by
  induction lines with
  | nil => exact absurd rfl h
  | cons line lines ih =>
    cases lines with
    | nil => simp [joined, ended]
    | cons next rest =>
      have hjoined : joined "\n" (line :: next :: rest) ++ "\n" =
          line ++ ("\n" ++ (joined "\n" (next :: rest) ++ "\n")) := by
        simp [joined, String.append_assoc]
      rw [hjoined, String.toList_append, String.toList_append, ih (List.cons_ne_nil _ _)]
      simp [ended]

/-- The lines above the rows. -/
def heading : List String :=
  ["", "Plan :", "",
    "================================================================================",
    "         Source Disk                    Dest.Disk              Size      Type   "]

/-- The line below the rows. -/
def closing : String :=
  "================================================================================"

/-- The lines of a table with a row for each entry. -/
def tableLines (entries : List Entry) : List String :=
  heading ++ entries.map Entry.row ++ [closing]

/-- The steps of plans in the order in which they are shown. -/
def stepsOf (plans : List Plan) : List Step :=
  plans.flatMap Plan.steps

/-- The lines of the table are known just when every step has an entry. -/
theorem lines?_eq
    (plans : List Plan) :
    lines? plans = ((stepsOf plans).mapM entryOf?).map tableLines := by
  have hrule : rule = closing := by decide +kernel
  have htitles : titles =
      "         Source Disk                    Dest.Disk              Size      Type   " := by
    decide +kernel
  have hrows : stepRow? = fun s => (entryOf? s).map Entry.row := funext stepRow?_eq
  rw [lines?, hrule, htitles, hrows, mapM_option_map, Option.map_map]
  rfl

/-- The table has a row for every step, and no text just when the size of a step has none. -/
theorem render?_eq_some_iff
    {plans : List Plan}
    {text : String} :
    render? plans = some text ↔ ∃ entries : List Entry,
      (stepsOf plans).map entryOf? = entries.map some ∧ text.toList = ended (tableLines entries) := by
  simp only [render?, lines?_eq, Option.map_map, Option.map_eq_some_iff, mapM_eq_some_iff]
  refine exists_congr fun entries => and_congr_right fun _ => ?_
  rw [← toList_joined (by simp [tableLines]), String.toList_inj]
  exact eq_comm

end Table
end Move
end Rebalance
