import Rebalance.Proofs.Move.Table
import Rebalance.Proofs.Size.Width

/-!
# What the table of planned moves tells

* `report_read_back`: the table has one row for each step, in order.  Rows in which every text fits
  its column are 83 characters wide and can be read back, so that the table tells its steps.
* `report_lines`: it has six lines and one for each step just when no path and no type holds a line
  feed.  Each line feed adds a line, and a path can hold the whole row of another step.
* `row_width_of_size`: among paths and types that fit, a row is one character too wide just when its
  size is shown as 1000 of its unit or more.
-/

namespace Rebalance
namespace Move
namespace Table

open Text

/-! ## Entries -/

/-- Whether the sizes of all steps have texts. -/
def HasSizes (steps : List Step) : Prop :=
  ∀ s ∈ steps, s.sizeText?.isSome

instance (steps : List Step) : Decidable (HasSizes steps) :=
  inferInstanceAs (Decidable (∀ s ∈ steps, s.sizeText?.isSome))

theorem entryOf?_eq_some_iff
    {s : Step}
    {e : Entry} :
    entryOf? s = some e ↔ s.sizeText? = some e.size ∧ s.source.path = e.source ∧
      s.destination.path = e.destination ∧ s.destination.storageType = e.storageType := by
  cases e
  simp only [entryOf?, Option.map_eq_some_iff, Entry.mk.injEq]
  constructor
  · rintro ⟨size, hsize, hsource, hdestination, rfl, htype⟩
    exact ⟨hsize, hsource, hdestination, htype⟩
  · rintro ⟨hsize, hsource, hdestination, htype⟩
    exact ⟨_, hsize, hsource, hdestination, rfl, htype⟩

theorem HasSizes.exists_entries
    {steps : List Step}
    (h : HasSizes steps) :
    ∃ entries : List Entry, steps.map entryOf? = entries.map some := by
  induction steps with
  | nil => exact ⟨[], rfl⟩
  | cons s steps ih =>
    obtain ⟨entries, hentries⟩ := ih fun t ht => h t (List.mem_cons_of_mem s ht)
    obtain ⟨size, hsize⟩ := Option.isSome_iff_exists.mp (h s List.mem_cons_self)
    have hentry : entryOf? s =
        some ⟨s.source.path, s.destination.path, size, s.destination.storageType⟩ :=
      entryOf?_eq_some_iff.mpr ⟨hsize, rfl, rfl, rfl⟩
    exact ⟨_ :: entries, by rw [List.map_cons, List.map_cons, hentries, hentry]⟩

/-- A table is made when the sizes of all steps have texts. -/
theorem HasSizes.exists_table
    {plans : List Plan}
    (h : HasSizes (stepsOf plans)) :
    ∃ (text : String) (entries : List Entry), render? plans = some text ∧
      (stepsOf plans).map entryOf? = entries.map some ∧
      text.toList = ended (tableLines entries) := by
  obtain ⟨entries, hentries⟩ := h.exists_entries
  have htext : (String.ofList (ended (tableLines entries))).toList =
      ended (tableLines entries) := String.toList_ofList
  exact ⟨_, entries, render?_eq_some_iff.mpr ⟨entries, hentries, htext⟩, hentries, htext⟩

theorem unbroken_heading :
    ∀ line ∈ heading, '\n' ∉ line.toList := by
  decide

theorem unbroken_closing :
    '\n' ∉ closing.toList := by
  decide

/-! ## Reading back -/

/-- A row of texts that fit their columns stands on one line. -/
theorem Entry.unbroken_row
    {e : Entry}
    (h : e.Fits) :
    '\n' ∉ e.row.toList := by
  rw [← List.count_eq_zero, e.count_row (by decide), List.count_eq_zero.mpr h.source.unbroken,
    List.count_eq_zero.mpr h.destination.unbroken, List.count_eq_zero.mpr h.size.unbroken,
    List.count_eq_zero.mpr h.storageType.unbroken]

/-- The lines of a table in which every text fits its column. -/
theorem hasLines_of_fits
    {text : String}
    {entries : List Entry}
    (htext : text.toList = ended (tableLines entries))
    (h : ∀ e ∈ entries, e.Fits) :
    HasLines text (tableLines entries) := by
  refine ⟨?_, htext⟩
  intro line hline
  simp only [tableLines, List.mem_append, List.mem_map, List.mem_singleton] at hline
  rcases hline with (hline | ⟨e, he, rfl⟩) | rfl
  · exact unbroken_heading line hline
  · exact Entry.unbroken_row (h e he)
  · exact unbroken_closing

/-- Rows of texts that fit their columns tell these texts. -/
theorem map_row_inj
    {entries others : List Entry}
    (hentries : ∀ e ∈ entries, e.Fits)
    (hothers : ∀ e ∈ others, e.Fits)
    (h : entries.map Entry.row = others.map Entry.row) :
    entries = others := by
  have hread {es : List Entry} (hes : ∀ e ∈ es, e.Fits) : (es.map Entry.row).map readRow = es := by
    rw [List.map_map]
    exact (List.map_congr_left fun e he => Entry.readRow_row (hes e he)).trans (List.map_id es)
  rw [← hread hentries, h, hread hothers]

/-- Whether all that a row tells of a step can be read back from it. -/
def StepFits (s : Step) : Prop :=
  ∃ e, entryOf? s = some e ∧ e.Fits

theorem fits_of_stepFits
    {steps : List Step}
    {entries : List Entry}
    (hentries : steps.map entryOf? = entries.map some)
    (h : ∀ s ∈ steps, StepFits s) :
    ∀ e ∈ entries, e.Fits := by
  intro e he
  have hmem : some e ∈ steps.map entryOf? := hentries ▸ List.mem_map_of_mem he
  obtain ⟨s, hs, hse⟩ := List.mem_map.mp hmem
  obtain ⟨e', he', hfits⟩ := h s hs
  obtain rfl : e' = e := Option.some.inj (he'.symm.trans hse)
  exact hfits

/-- The table has five lines of heading, one row for each step in the order of plans and steps, and
a closing rule.  The row of a step whose texts fit their columns is 83 characters wide, with spaces
between its columns, and its columns without their spaces are these texts.  So tables of such steps
are equal only when they tell the same of the same number of steps. -/
theorem report_read_back
    {plans : List Plan}
    (h : HasSizes (stepsOf plans)) :
    ∃ (text : String) (entries : List Entry), render? plans = some text ∧
      (stepsOf plans).map entryOf? = entries.map some ∧
      text.toList = ended (tableLines entries) ∧
      (∀ e : Entry, e.Fits → (codes e.row).length = 83 ∧
        (∀ place ∈ [30, 61, 72], (codes e.row)[place]? = some ' '.toNat) ∧
        column 0 30 e.row = e.source ∧ column 31 61 e.row = e.destination ∧
        column 62 72 e.row = e.size ∧ column 73 83 e.row = e.storageType) ∧
      ((∀ s ∈ stepsOf plans, StepFits s) →
        ∀ others : List Plan, (∀ s ∈ stepsOf others, StepFits s) → render? others = some text →
          (stepsOf others).map entryOf? = (stepsOf plans).map entryOf?) := by
  obtain ⟨text, entries, hrender, hentries, htext⟩ := h.exists_table
  refine ⟨text, entries, hrender, hentries, htext, ?_, ?_⟩
  · intro e hfits
    exact ⟨Entry.width_row hfits, fun _ hplace => Entry.gap_row hfits hplace,
      Entry.columns_row hfits⟩
  · intro hplans others hothers hothersRender
    obtain ⟨entries', hentries', htext'⟩ := render?_eq_some_iff.mp hothersRender
    have hfits := fits_of_stepFits hentries hplans
    have hfits' := fits_of_stepFits hentries' hothers
    have hlines : tableLines entries' = tableLines entries := by
      rw [← (hasLines_of_fits htext' hfits').linesOf_eq, (hasLines_of_fits htext hfits).linesOf_eq]
    unfold tableLines at hlines
    have hrows : entries'.map Entry.row = entries.map Entry.row :=
      List.append_cancel_left (List.append_cancel_right hlines)
    rw [hentries, hentries', map_row_inj hfits' hfits hrows]

/-- A disk at a path. -/
def diskAt (path storageType : String) : Storage.Volume :=
  ⟨"disk", storageType, 0, 0, 0, false, false, false, false, path⟩

/-- A move between two paths. -/
def moveOf (source destination storageType : String) (bytes : Nat) : Step :=
  ⟨diskAt source storageType, diskAt destination storageType, bytes, "", 0.0, 0, 0, 0⟩

/-- A plan of some moves. -/
def planOf (steps : List Step) : Plan :=
  ⟨"host", "node", 1, ⟨1970, 1, 1, 0, 0, 0, 0, some 0⟩, steps⟩

/-- A move of forty gibibytes and one of none are told by the table of one plan with both. -/
theorem report_read_back_two :
    let plans := [planOf [moveOf "/data/a" "/data/b" "DISK" 42949672960, moveOf "/c" "" "SSD" 0]]
    HasSizes (stepsOf plans) ∧ (∀ s ∈ stepsOf plans, StepFits s) ∧
      ∀ others : List Plan, (∀ s ∈ stepsOf others, StepFits s) → render? others = render? plans →
        (stepsOf others).map entryOf? =
          [some ⟨"/data/a", "/data/b", "40.00 GiB", "DISK"⟩, some ⟨"/c", "", "0 B", "SSD"⟩] := by
  intro plans
  have hfirst : entryOf? (moveOf "/data/a" "/data/b" "DISK" 42949672960) =
      some ⟨"/data/a", "/data/b", "40.00 GiB", "DISK"⟩ :=
    entryOf?_eq_some_iff.mpr ⟨by decide +kernel, rfl, rfl, rfl⟩
  have hsecond : entryOf? (moveOf "/c" "" "SSD" 0) = some ⟨"/c", "", "0 B", "SSD"⟩ :=
    entryOf?_eq_some_iff.mpr ⟨by decide +kernel, rfl, rfl, rfl⟩
  have hcolumn {width : Nat} {v : String} (hnarrow : Text.size v.toList ≤ width)
      (hsafe : '\n' ∉ v.toList ∧ v.toList.head? ≠ some ' ' ∧ v.toList.getLast? ≠ some ' ') :
      FitsColumn width v := ⟨hnarrow, hsafe.1, hsafe.2.1, hsafe.2.2⟩
  have hsizes : HasSizes (stepsOf plans) := by decide +kernel
  have hfits : ∀ s ∈ stepsOf plans, StepFits s := by
    intro s hs
    have hcases :
        s = moveOf "/data/a" "/data/b" "DISK" 42949672960 ∨ s = moveOf "/c" "" "SSD" 0 := by
      simpa [plans, stepsOf, planOf] using hs
    rcases hcases with rfl | rfl
    · exact ⟨_, hfirst, hcolumn (by decide) (by decide), hcolumn (by decide) (by decide),
        hcolumn (by decide) (by decide), hcolumn (by decide) (by decide)⟩
    · exact ⟨_, hsecond, hcolumn (by decide) (by decide), hcolumn (by decide) (by decide),
        hcolumn (by decide) (by decide), hcolumn (by decide) (by decide)⟩
  refine ⟨hsizes, hfits, ?_⟩
  intro others hothers hrender
  obtain ⟨text, _, htext, _, _, _, htell⟩ := report_read_back hsizes
  rw [htell hfits others hothers (hrender.trans htext), ← hfirst, ← hsecond]
  rfl

/-! ## Line feeds -/

/-- How many line feeds the paths and the type in a row hold. -/
def breaks (s : Step) : Nat :=
  s.source.path.toList.count '\n' + s.destination.path.toList.count '\n' +
    s.destination.storageType.toList.count '\n'

theorem breaks_eq_zero_iff
    (s : Step) :
    breaks s = 0 ↔ '\n' ∉ s.source.path.toList ∧ '\n' ∉ s.destination.path.toList ∧
      '\n' ∉ s.destination.storageType.toList := by
  rw [breaks, Nat.add_eq_zero_iff, Nat.add_eq_zero_iff, List.count_eq_zero, List.count_eq_zero,
    List.count_eq_zero, and_assoc]

/-- The line feeds in a row are those of the paths and the type. -/
theorem count_row_eq_breaks
    {s : Step}
    {e : Entry}
    (h : entryOf? s = some e) :
    e.row.toList.count '\n' = breaks s := by
  obtain ⟨hsize, hsource, hdestination, htype⟩ := entryOf?_eq_some_iff.mp h
  rw [e.count_row (by decide), List.count_eq_zero.mpr (Size.unbroken_of_text? hsize), ← hsource,
    ← hdestination, ← htype]
  rfl

theorem sum_breaks
    {steps : List Step}
    {entries : List Entry}
    (h : steps.map entryOf? = entries.map some) :
    (entries.map fun e => e.row.toList.count '\n').sum = (steps.map breaks).sum := by
  induction steps generalizing entries with
  | nil =>
    obtain rfl : entries = [] := List.map_eq_nil_iff.mp h.symm
    rfl
  | cons s steps ih =>
    cases entries with
    | nil => cases h
    | cons e entries =>
      obtain ⟨hhead, htail⟩ := List.cons_eq_cons.mp h
      rw [List.map_cons, List.map_cons, List.sum_cons, List.sum_cons, count_row_eq_breaks hhead,
        ih htail]

theorem length_tableLines
    (entries : List Entry) :
    (tableLines entries).length = 6 + entries.length := by
  simp [tableLines, heading]
  omega

theorem sum_count_tableLines
    (entries : List Entry) :
    ((tableLines entries).map fun line => line.toList.count '\n').sum =
      (entries.map fun e => e.row.toList.count '\n').sum := by
  have hheading : (heading.map fun line => line.toList.count '\n').sum = 0 := by decide
  have hclosing := List.count_eq_zero.mpr unbroken_closing
  simp [tableLines, hheading, hclosing, Function.comp_def]

/-- A step with the row of another one in front of its source path. -/
def underRow (row : String) (s : Step) : Step :=
  { s with source := { s.source with path := row ++ "\n" ++ cell s.source.path 30 } }

/-- A path that holds the row of another step looks like two rows. -/
theorem row_underRow
    {row : String}
    {s : Step}
    {e : Entry}
    (h : entryOf? s = some e) :
    ∃ forged, entryOf? (underRow row s) = some forged ∧ forged.row.toList =
      row.toList ++ '\n' :: e.row.toList := by
  obtain ⟨hsize, hsource, hdestination, htype⟩ := entryOf?_eq_some_iff.mp h
  refine ⟨{ e with source := (underRow row s).source.path },
    entryOf?_eq_some_iff.mpr ⟨hsize, rfl, hdestination, htype⟩, ?_⟩
  have hpath : (underRow row s).source.path.toList =
      row.toList ++ '\n' :: centre 30 e.source.toList := by
    simp [underRow, cell, String.toList_append, hsource]
  have hfeed : IsOrdinary '\n' := isOrdinary_of_lt (by decide)
  have hwide : 30 ≤ Text.size (underRow row s).source.path.toList := by
    have hcell : Text.size (centre 30 e.source.toList) = max 30 (Text.size e.source.toList) :=
      size_centre 30 e.source.toList
    rw [hpath, Text.size, codesOf_append _ _ hfeed, codesOf_cons _ hfeed.1 hfeed.2,
      List.length_append, List.length_cons]
    unfold Text.size at hcell
    omega
  rw [Entry.toList_row, Entry.toList_row]
  dsimp only
  rw [centre_of_le hwide, hpath, List.append_assoc, List.cons_append]

/-- A path can hold the whole row of another step: then the table is that of both steps. -/
theorem render?_underRow
    {plans forged : List Plan}
    {before after : List Step}
    {s other : Step}
    {row text : String}
    (h : render? plans = some text)
    (hplans : stepsOf plans = before ++ s :: other :: after)
    (hrow : stepRow? s = some row)
    (hforged : stepsOf forged = before ++ underRow row other :: after) :
    render? forged = some text := by
  obtain ⟨entries, hentries, htext⟩ := render?_eq_some_iff.mp h
  rw [hplans, List.map_append, List.map_cons, List.map_cons] at hentries
  obtain ⟨front, rest, rfl, hfront, hrest⟩ := List.map_eq_append_iff.mp hentries.symm
  obtain ⟨e, rest, rfl, he, hrest⟩ := List.map_eq_cons_iff.mp hrest
  obtain ⟨f, back, rfl, hf, hback⟩ := List.map_eq_cons_iff.mp hrest
  obtain rfl : e.row = row := by
    rw [stepRow?_eq, ← he] at hrow
    exact Option.some.inj hrow
  obtain ⟨g, hg, htwo⟩ := row_underRow hf.symm
  refine render?_eq_some_iff.mpr ⟨front ++ g :: back, ?_, ?_⟩
  · rw [hforged, List.map_append, List.map_cons, List.map_append, List.map_cons, hfront, hback, hg]
  · rw [htext]
    simp [tableLines, ended, htwo]

/-- The table is made of lines: the six around its rows, one for each step, and one more for each
line feed in a path or a type.  So it has one line for each step just when there are none.  A path
can hold the whole row of another step: then the table is that of both steps. -/
theorem report_lines
    {plans : List Plan}
    (h : HasSizes (stepsOf plans)) :
    ∃ text, render? plans = some text ∧ HasLines text (linesOf text) ∧
      (linesOf text).length = 6 + (stepsOf plans).length + ((stepsOf plans).map breaks).sum ∧
      ((linesOf text).length = 6 + (stepsOf plans).length ↔ ∀ s ∈ stepsOf plans,
        '\n' ∉ s.source.path.toList ∧ '\n' ∉ s.destination.path.toList ∧
          '\n' ∉ s.destination.storageType.toList) ∧
      (∀ (before after : List Step) (s other : Step) (row : String),
        stepsOf plans = before ++ s :: other :: after → stepRow? s = some row →
          ∀ forged : List Plan, stepsOf forged = before ++ underRow row other :: after →
            render? forged = some text) := by
  obtain ⟨text, entries, hrender, hentries, htext⟩ := h.exists_table
  have hlines := hasLines_pieces htext
  have hcount : (linesOf text).length =
      6 + (stepsOf plans).length + ((stepsOf plans).map breaks).sum := by
    have hsteps := congrArg List.length hentries
    rw [List.length_map, List.length_map] at hsteps
    rw [hlines.linesOf_eq, length_flatMap_pieces, length_tableLines, sum_count_tableLines,
      ← sum_breaks hentries, hsteps]
  refine ⟨text, hrender, ?_, hcount, ?_, fun _ _ _ _ _ hplans hrow _ hforged =>
    render?_underRow hrender hplans hrow hforged⟩
  · rwa [hlines.linesOf_eq]
  · rw [hcount, Nat.add_eq_left, List.sum_eq_zero_iff]
    simp only [List.forall_mem_map, breaks_eq_zero_iff]

/-- In a table of one step a line feed in its path makes two lines of its row, and a path that holds
a row makes two rows of one. -/
theorem report_lines_broken :
    HasSizes (stepsOf [planOf [moveOf "a\nb" "c" "DISK" 1]]) ∧
      (∃ text, render? [planOf [moveOf "a\nb" "c" "DISK" 1]] = some text ∧
        (linesOf text).length = 8) ∧
      ∃ row, stepRow? (moveOf "a" "b" "DISK" 1) = some row ∧
        (render? [planOf [underRow row (moveOf "c" "d" "DISK" 2)]]).isSome ∧
        render? [planOf [underRow row (moveOf "c" "d" "DISK" 2)]] =
          render? [planOf [moveOf "a" "b" "DISK" 1, moveOf "c" "d" "DISK" 2]] := by
  have hbroken : HasSizes (stepsOf [planOf [moveOf "a\nb" "c" "DISK" 1]]) := by
    decide +kernel
  have htwo : HasSizes (stepsOf [planOf [moveOf "a" "b" "DISK" 1, moveOf "c" "d" "DISK" 2]]) := by
    decide +kernel
  obtain ⟨row, hrow⟩ : ∃ row, stepRow? (moveOf "a" "b" "DISK" 1) = some row :=
    Option.isSome_iff_exists.mp (by decide +kernel)
  refine ⟨hbroken, ?_, row, hrow, ?_⟩
  · obtain ⟨text, htext, _, hlength, _⟩ := report_lines hbroken
    exact ⟨text, htext, hlength⟩
  · obtain ⟨text, htext, _, _, _, hforge⟩ := report_lines htwo
    have hforged := hforge [] [] _ _ row rfl hrow
      [planOf [underRow row (moveOf "c" "d" "DISK" 2)]] rfl
    rw [hforged, htext]
    exact ⟨rfl, rfl⟩

/-! ## Widths -/

/-- A step whose paths and type fit their columns and whose size is below 1024 PiB has a text of
eleven characters at most for its size, which is one too many for its column just when the size is
shown as 1000 of its unit or more.  Then its row is 84 characters wide, and else 83. -/
theorem row_width_of_size
    {plans : List Plan}
    {s : Step}
    (hs : s ∈ stepsOf plans)
    (hsource : Text.size s.source.path.toList ≤ 30)
    (hdestination : Text.size s.destination.path.toList ≤ 30)
    (htype : Text.size s.destination.storageType.toList ≤ 10)
    (hbytes : s.bytesToMove < 1024 ^ 6) :
    ∃ text row, s.sizeText? = some text ∧ stepRow? s = some row ∧
      (∀ lines, lines? plans = some lines → row ∈ lines) ∧
      Text.size text.toList ≤ 11 ∧ (10 < Text.size text.toList ↔ Size.IsLong s.bytesToMove) ∧
      (codes row).length = if Size.IsLong s.bytesToMove then 84 else 83 := by
  obtain ⟨text, htext, hmost, hlong⟩ := Size.text?_width hbytes
  rw [← Size.size_of_text? htext] at hmost hlong
  let e : Entry := ⟨s.source.path, s.destination.path, text, s.destination.storageType⟩
  have hentry : entryOf? s = some e := entryOf?_eq_some_iff.mpr ⟨htext, rfl, rfl, rfl⟩
  refine ⟨text, e.row, htext, by rw [stepRow?_eq, hentry, Option.map_some], ?_, hmost, ?_, ?_⟩
  · intro lines hlines
    rw [lines?_eq, Option.map_eq_some_iff] at hlines
    obtain ⟨entries, hentries, rfl⟩ := hlines
    have hmem : some e ∈ entries.map some := by
      rw [← mapM_eq_some_iff.mp hentries, ← hentry]
      exact List.mem_map_of_mem hs
    have he : e ∈ entries := by simpa using hmem
    simp only [tableLines, List.mem_append, List.mem_map]
    exact .inl (.inr ⟨e, he, rfl⟩)
  · rw [← hlong]
    omega
  · have hwidth : (codes e.row).length = 30 + 30 + max 10 (Text.size text.toList) + 10 + 3 := by
      rw [e.length_row, Nat.max_eq_left hsource, Nat.max_eq_left hdestination,
        Nat.max_eq_left htype]
    by_cases h : Size.IsLong s.bytesToMove
    · have heleven := hlong.mpr h
      rw [hwidth, if_pos h]
      omega
    · have hfits := mt hlong.mp h
      rw [hwidth, if_neg h]
      omega

/-- A thousand kibibytes make a row too wide. -/
theorem row_width_of_size_thousand :
    ∃ row, stepRow? (moveOf "/a" "/b" "DISK" 1024000) = some row ∧
      (moveOf "/a" "/b" "DISK" 1024000).sizeText? = some "1000.00 KiB" ∧
      Text.size "1000.00 KiB".toList = 11 ∧ (codes row).length = 84 := by
  have hmem : moveOf "/a" "/b" "DISK" 1024000 ∈
      stepsOf [planOf [moveOf "/a" "/b" "DISK" 1024000]] := List.mem_cons_self
  have hlong : Size.IsLong 1024000 := by decide +kernel
  obtain ⟨_, row, _, hrow, _, _, _, hwidth⟩ := row_width_of_size hmem (by decide) (by decide)
    (by decide) (by decide)
  exact ⟨row, hrow, by decide +kernel, by decide, hwidth.trans (if_pos hlong)⟩

end Table
end Move
end Rebalance
