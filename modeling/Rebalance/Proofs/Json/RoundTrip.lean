import Rebalance.Proofs.Duplicates
import Rebalance.Proofs.Json.Reread

/-!
# Documents that are read back from their texts

* `rereads_of_hasForm`: the text of a document is read as `reread` says, whatever ends it.
* `read_written`: a document that was written is read as `reread` says.
* `Storable`: a document that survives a JSON text.
* `read_document`: a storable document that was written is read as it was.
-/

namespace Rebalance
namespace Json

/-- Whether a document survives a JSON text, with containers at most `room` deep: whole numbers
have not too many digits, doubles are read back, and keys are pairwise different texts. -/
inductive Storable : (room : Nat) → Data → Prop
  | bool
    {room : Nat}
    (b : Bool) :
    Storable room (.bool b)
  | int
    {room : Nat}
    {n : Int}
    (digits : Decimal.width n.natAbs ≤ Decimal.digitLimit) :
    Storable room (.int n)
  | float
    {room : Nat}
    {x : Float}
    {cs : List Char}
    (stored : Decimal.storedText? x = some cs)
    (back : scalar cs = .ok (.float x, [])) :
    Storable room (.float x)
  | text
    {room : Nat}
    (s : String) :
    Storable room (.text s)
  | list
    {room : Nat}
    {ds : List Data}
    (items : ∀ d ∈ ds, Storable room d) :
    Storable (room + 1) (.list ds)
  | map
    {room : Nat}
    {es : List (String × Data)}
    (distinct : (es.map Prod.fst).Nodup)
    (values : ∀ e ∈ es, Storable room e.2) :
    Storable (room + 1) (.map (es.map textEntry))

theorem Storable.hasForm
    {room : Nat}
    {d : Data}
    (h : Storable room d) :
    HasForm room d := by
  induction h with
  | bool b => exact .bool b
  | int digits => exact .int _
  | float stored back => exact .float _
  | text s => exact .text s
  | list items ih => exact .list ih
  | map distinct values ih => exact .map distinct ih

/-- What survives is read as it was. -/
theorem Storable.reread
    {room : Nat}
    {d : Data}
    (h : Storable room d) :
    reread d = .ok d := by
  induction h with
  | bool b => rfl
  | int digits => exact reread_int digits
  | @float room x cs stored back =>
    obtain ⟨y, hread, hy⟩ := rereadFloat?_of_stored stored
    rw [back] at hread
    cases hread
    rw [Json.reread, rereadFloat, hy]
  | text s => rfl
  | list items ih =>
    rw [Json.reread, rereadItems_self_iff.mpr ih]
    rfl
  | map distinct values ih =>
    rw [Json.reread, rereadEntries_self_iff.mpr ih]
    rfl

/-- So does whatever has a form and is read as it was. -/
theorem storable_of_reread
    {room : Nat}
    {d : Data}
    (hform : HasForm room d)
    (hread : reread d = .ok d) :
    Storable room d := by
  induction hform with
  | bool b => exact .bool b
  | int n => exact .int (legible_int_iff.mp ⟨_, hread⟩)
  | float x =>
    rw [reread, rereadFloat] at hread
    cases hstored : Decimal.storedText? x with
    | none =>
      rw [rereadFloat?_eq_none_iff.mpr hstored] at hread
      cases hread
    | some cs =>
      obtain ⟨y, hscalar, hy⟩ := rereadFloat?_of_stored hstored
      rw [hy] at hread
      cases hread
      exact .float hstored hscalar
  | text s => exact .text s
  | @list room ds items ih =>
    rw [reread] at hread
    cases hitems : rereadItems ds with
    | error f =>
      rw [hitems] at hread
      cases hread
    | ok rs =>
      rw [hitems] at hread
      cases hread
      have hself := rereadItems_self_iff.mp hitems
      exact .list fun d hd => ih d hd (hself d hd)
  | @map room es distinct values ih =>
    rw [reread] at hread
    cases hentries : rereadEntries (es.map textEntry) with
    | error f =>
      rw [hentries] at hread
      cases hread
    | ok rs =>
      rw [hentries] at hread
      cases hread
      have hself := rereadEntries_self_iff.mp hentries
      exact .map distinct fun e he => ih e he (hself e he)

/-! ## Spaces -/

theorem skip_of_isFirst
    {c : Char}
    (h : IsFirst c)
    (cs : List Char) :
    skip (c :: cs) = c :: cs := by
  rw [skip, List.dropWhile_cons, if_neg (by simp [h.1])]

theorem skip_newLine
    (n : Nat)
    (cs : List Char) :
    skip (newLine n ++ cs) = skip cs := by
  have hblanks (k : Nat) : skip (List.replicate k ' ' ++ cs) = skip cs := by
    induction k with
    | zero => rfl
    | succ k ih => exact ih
  exact hblanks (2 * n)

theorem ends_newLine
    (n : Nat)
    (cs : List Char) :
    Ends (newLine n ++ cs) :=
  .inr rfl

/-! ## First characters -/

/-- Whether the text of a value begins like one. -/
def Begins (d : Data) : Prop :=
  ∀ n, ∃ c cs, write n d = c :: cs ∧ IsFirst c

theorem exists_first_intText
    (n : Int) :
    ∃ c cs, (Decimal.intText n).toList = c :: cs ∧ IsScalarFirst c := by
  unfold Decimal.intText
  cases n with
  | ofNat m =>
    obtain ⟨c, cs, hcs⟩ := List.exists_cons_of_ne_nil (Decimal.digits_ne_nil m)
    rw [String.toList_ofList, hcs]
    exact ⟨c, cs, rfl, .inr (Decimal.isDigit_of_mem_digits (hcs ▸ List.mem_cons_self))⟩
  | negSucc m =>
    rw [String.toList_ofList]
    exact ⟨_, _, rfl, .inl (by decide)⟩

theorem exists_first_writeFloat
    (x : Float) :
    ∃ c cs, writeFloat x = c :: cs ∧ IsScalarFirst c := by
  unfold writeFloat
  cases hstored : Decimal.storedText? x with
  | none => exact ⟨_, _, rfl, .inl (by decide)⟩
  | some cs =>
    obtain ⟨y, hread⟩ := scalar_storedText? hstored
    exact exists_first_of_scalar hread

theorem begins_of_hasForm
    {room : Nat}
    {d : Data}
    (h : HasForm room d) :
    Begins d := by
  intro n
  cases h with
  | bool b =>
    obtain ⟨c, cs, hcs, hc⟩ := exists_first_of_scalar (scalar_bool b)
    exact ⟨c, cs, hcs, hc.isFirst⟩
  | int m =>
    obtain ⟨c, cs, hcs, hc⟩ := exists_first_intText m
    exact ⟨c, cs, hcs, hc.isFirst⟩
  | float x =>
    obtain ⟨c, cs, hcs, hc⟩ := exists_first_writeFloat x
    exact ⟨c, cs, hcs, hc.isFirst⟩
  | text s => exact ⟨_, _, rfl, by decide⟩
  | @list _ ds items => cases ds <;> exact ⟨_, _, rfl, by decide⟩
  | @map _ es distinct values => cases es <;> exact ⟨_, _, rfl, by decide⟩

/-! ## Rules of the reader -/

theorem value_scalar
    {c : Char}
    (hc : IsScalarFirst c)
    (fuel depth : Nat)
    (cs : List Char) :
    value (fuel + 1) depth (c :: cs) = scalar (c :: cs) := by
  have hquote : c ≠ '"' := hc.ne (by decide)
  have hbracket : c ≠ '[' := hc.ne (by decide)
  have hbrace : c ≠ '\x7b' := hc.ne (by decide)
  unfold value
  split
  · next he => exact absurd (List.cons.inj he).1 hquote
  · next he => exact absurd (List.cons.inj he).1 hbracket
  · next he => exact absurd (List.cons.inj he).1 hbrace
  · rfl

theorem value_list
    {fuel depth : Nat}
    {cs more : List Char}
    {c : Char}
    (hdepth : depth < depthLimit)
    (hskip : skip cs = c :: more)
    (hc : IsFirst c) :
    value (fuel + 1) depth ('[' :: cs)
      = (items fuel (depth + 1) (c :: more)).map fun r => (.list r.1, r.2) := by
  rw [value, if_neg (Nat.not_le.mpr hdepth), hskip]
  split
  · next he => exact absurd (List.cons.inj he).1 hc.2.1
  · cases items fuel (depth + 1) (c :: more) <;> rfl

theorem value_map
    {fuel depth : Nat}
    {cs more : List Char}
    {c : Char}
    (hdepth : depth < depthLimit)
    (hskip : skip cs = c :: more)
    (hc : IsFirst c) :
    value (fuel + 1) depth ('\x7b' :: cs)
      = (entries fuel (depth + 1) (c :: more)).map fun r => (.map (Data.ofEntries r.1), r.2) := by
  rw [value, if_neg (Nat.not_le.mpr hdepth), hskip]
  split
  · next he => exact absurd (List.cons.inj he).1 hc.2.2.1
  · cases entries fuel (depth + 1) (c :: more) <;> rfl

theorem items_error
    {fuel depth : Nat}
    {cs : List Char}
    {e : Halt}
    (hread : value fuel depth cs = .error e) :
    items (fuel + 1) depth cs = .error e := by
  simp only [items, hread]

theorem items_last
    {fuel depth : Nat}
    {cs more rest : List Char}
    {d : Data}
    (hread : value fuel depth cs = .ok (d, more))
    (hskip : skip more = ']' :: rest) :
    items (fuel + 1) depth cs = .ok ([d], rest) := by
  simp only [items, hread, hskip]

theorem items_next
    {fuel depth : Nat}
    {cs more : List Char}
    {d : Data}
    (hread : value fuel depth cs = .ok (d, ',' :: more)) :
    items (fuel + 1) depth cs
      = (items fuel depth (skip more)).map fun r => (d :: r.1, r.2) := by
  have hcomma : skip (',' :: more) = ',' :: more := skip_of_isFirst (by decide) more
  simp only [items, hread, hcomma]
  cases items fuel depth (skip more) <;> rfl

theorem entries_error
    {fuel depth : Nat}
    {cs body : List Char}
    {k : Data}
    {e : Halt}
    (hkey : string cs = .ok (k, ':' :: body))
    (hread : value fuel depth (skip body) = .error e) :
    entries (fuel + 1) depth ('"' :: cs) = .error e := by
  have hcolon : skip (':' :: body) = ':' :: body := skip_of_isFirst (by decide) body
  simp only [entries, hkey, hcolon, hread]

theorem entries_last
    {fuel depth : Nat}
    {cs body more rest : List Char}
    {k v : Data}
    (hkey : string cs = .ok (k, ':' :: body))
    (hread : value fuel depth (skip body) = .ok (v, more))
    (hskip : skip more = '\x7d' :: rest) :
    entries (fuel + 1) depth ('"' :: cs) = .ok ([(k, v)], rest) := by
  have hcolon : skip (':' :: body) = ':' :: body := skip_of_isFirst (by decide) body
  simp only [entries, hkey, hcolon, hread, hskip]

theorem entries_next
    {fuel depth : Nat}
    {cs body more : List Char}
    {k v : Data}
    (hkey : string cs = .ok (k, ':' :: body))
    (hread : value fuel depth (skip body) = .ok (v, ',' :: more)) :
    entries (fuel + 1) depth ('"' :: cs)
      = (entries fuel depth (skip more)).map fun r => ((k, v) :: r.1, r.2) := by
  have hcolon : skip (':' :: body) = ':' :: body := skip_of_isFirst (by decide) body
  have hcomma : skip (',' :: more) = ',' :: more := skip_of_isFirst (by decide) more
  simp only [entries, hkey, hcolon, hread, hcomma]
  cases entries fuel depth (skip more) <;> rfl

/-! ## Keys -/

theorem put_textEntry
    {k : String}
    {es : List (String × Data)}
    (h : k ∉ es.map Prod.fst)
    (v : Data) :
    Data.put (.text k) v (es.map textEntry) = (es ++ [(k, v)]).map textEntry := by
  induction es with
  | nil => rfl
  | cons e es ih =>
    rw [List.map_cons, List.mem_cons, not_or] at h
    have hsame : ¬ (Data.text e.1).same (.text k) = true := fun he =>
      h.1 (eq_of_beq he).symm
    rw [List.map_cons, textEntry, Data.put, if_neg hsame, ih h.2]
    rfl

/-- Entries whose keys are pairwise different texts are kept as they are. -/
theorem ofEntries_textEntry
    {es : List (String × Data)}
    (h : (es.map Prod.fst).Nodup) :
    Data.ofEntries (es.map textEntry) = es.map textEntry := by
  have hput {k : String} {xs : List (String × Data)} (hk : k ∉ xs.map Prod.fst) (v : Data) :
      Data.put (.text k) v (xs.map textEntry) = (xs ++ [(k, v)]).map textEntry :=
    put_textEntry hk v
  have hfold := Duplicates.foldl_put_of_nodup hput [] es h
  rw [Data.ofEntries, List.foldl_map]
  exact hfold

/-! ## Values -/

/-- Whether the text of a value is read as `reread` says, whatever ends it, `room` containers below
the limit. -/
def Rereads (room : Nat) (d : Data) : Prop :=
  ∀ (depth n : Nat) (rest : List Char) (fuel : Nat), depth + room ≤ depthLimit → Ends rest →
    (write n d).length ≤ fuel →
      value fuel depth (write n d ++ rest) = (reread d).map fun r => (r, rest)

theorem skip_write
    {d : Data}
    (h : Begins d)
    (n : Nat)
    (cs : List Char) :
    skip (write n d ++ cs) = write n d ++ cs := by
  obtain ⟨c, more, hwrite, hc⟩ := h n
  rw [hwrite, List.cons_append]
  exact skip_of_isFirst hc _

theorem writeText_append
    (cs rest : List Char) :
    writeText cs ++ rest = '"' :: (cs.flatMap writeChar ++ '"' :: rest) := by
  simp [writeText]

theorem writeItems_append
    (n : Nat)
    (d : Data)
    (ds : List Data)
    (rest : List Char) :
    writeItems n (d :: ds) ++ rest
      = ',' :: (newLine n ++ (write n d ++ (writeItems n ds ++ rest))) := by
  simp [writeItems]

theorem writeEntries_append
    (n : Nat)
    (e : String × Data)
    (es : List (String × Data))
    (rest : List Char) :
    writeEntries n ((e :: es).map textEntry) ++ rest
      = ',' :: (newLine n ++ (writeText e.1.toList ++ (':' :: ' ' :: (write n e.2
        ++ (writeEntries n (es.map textEntry) ++ rest))))) := by
  simp [writeEntries, write, textEntry]

theorem write_list_append
    (n : Nat)
    (d : Data)
    (ds : List Data)
    (rest : List Char) :
    write n (.list (d :: ds)) ++ rest = '[' :: (newLine (n + 1) ++
      (write (n + 1) d ++ (writeItems (n + 1) ds ++ (newLine n ++ ']' :: rest)))) := by
  simp [write]

theorem write_map_append
    (n : Nat)
    (e : String × Data)
    (es : List (String × Data))
    (rest : List Char) :
    write n (.map ((e :: es).map textEntry)) ++ rest
      = '\x7b' :: (newLine (n + 1) ++ (writeText e.1.toList ++ (':' :: ' ' ::
        (write (n + 1) e.2 ++ (writeEntries (n + 1) (es.map textEntry)
          ++ (newLine n ++ '\x7d' :: rest)))))) := by
  simp [write, textEntry]

theorem ends_writeItems
    (n m : Nat)
    (ds : List Data)
    (cs : List Char) :
    Ends (writeItems n ds ++ (newLine m ++ cs)) := by
  cases ds with
  | nil => exact ends_newLine m cs
  | cons d ds => exact .inl rfl

theorem ends_writeEntries
    (n m : Nat)
    (es : List (String × Data))
    (cs : List Char) :
    Ends (writeEntries n (es.map textEntry) ++ (newLine m ++ cs)) := by
  cases es with
  | nil => exact ends_newLine m cs
  | cons e es => exact .inl rfl

theorem rereads_of_scalar
    {d : Data}
    {cs : List Char}
    (hfirst : ∃ c more, cs = c :: more ∧ IsScalarFirst c)
    (hread : ∀ rest, Ends rest → scalar (cs ++ rest) = (reread d).map fun r => (r, rest))
    (hwrite : ∀ n, write n d = cs)
    (room : Nat) :
    Rereads room d := by
  intro depth n rest fuel _ hends hfuel
  obtain ⟨c, more, rfl, hc⟩ := hfirst
  rw [hwrite n] at hfuel ⊢
  cases fuel with
  | zero => cases hfuel
  | succ fuel =>
    rw [List.cons_append, value_scalar hc]
    exact hread rest hends

theorem rereads_int
    (n : Int)
    (room : Nat) :
    Rereads room (.int n) := by
  refine rereads_of_scalar (exists_first_intText n) ?_ (fun _ => rfl) room
  intro rest hends
  rw [scalar_intText n hends, reread]
  split <;> rfl

theorem rereads_float
    (x : Float)
    (room : Nat) :
    Rereads room (.float x) := by
  refine rereads_of_scalar (exists_first_writeFloat x) ?_ (fun _ => rfl) room
  intro rest hends
  unfold writeFloat
  rw [reread, rereadFloat]
  cases hstored : Decimal.storedText? x with
  | none =>
    rw [rereadFloat?_eq_none_iff.mpr hstored]
    rfl
  | some cs =>
    obtain ⟨y, hread, hy⟩ := rereadFloat?_of_stored hstored
    rw [hy]
    exact scalar_append hread hends

/-- The texts of items are read one after the other, up to one that is not read. -/
theorem items_write
    {room : Nat}
    {d : Data}
    {ds : List Data}
    (hbegins : ∀ x ∈ d :: ds, Begins x)
    (hreads : ∀ x ∈ d :: ds, Rereads room x)
    {depth : Nat}
    (hdepth : depth + room ≤ depthLimit)
    (n m : Nat)
    (rest : List Char)
    {fuel : Nat}
    (hfuel : (write n d).length + (writeItems n ds).length < fuel) :
    items fuel depth (write n d ++ (writeItems n ds ++ (newLine m ++ ']' :: rest)))
      = (rereadItems (d :: ds)).map fun rs => (rs, rest) := by
  induction ds generalizing d fuel with
  | nil =>
    cases fuel with
    | zero => exact absurd hfuel (Nat.not_lt_zero _)
    | succ fuel =>
      have hvalue := hreads d List.mem_cons_self depth n (newLine m ++ ']' :: rest) fuel hdepth
        (ends_newLine m _) (by omega)
      cases hd : reread d with
      | error e =>
        rw [hd] at hvalue
        rw [rereadItems_error hd]
        exact items_error hvalue
      | ok r =>
        rw [hd] at hvalue
        rw [rereadItems_cons hd]
        exact items_last hvalue (skip_newLine m _)
  | cons e es ih =>
    cases fuel with
    | zero => exact absurd hfuel (Nat.not_lt_zero _)
    | succ fuel =>
      rw [writeItems, List.length_cons, List.length_append, List.length_append] at hfuel
      have he : e ∈ d :: e :: es := List.mem_cons_of_mem d List.mem_cons_self
      have hvalue := hreads d List.mem_cons_self depth n
        (writeItems n (e :: es) ++ (newLine m ++ ']' :: rest)) fuel hdepth
        (ends_writeItems n m _ _) (by omega)
      cases hd : reread d with
      | error f =>
        rw [hd] at hvalue
        rw [rereadItems_error hd]
        exact items_error hvalue
      | ok r =>
        rw [hd, writeItems_append] at hvalue
        have hrest := ih (fun x hx => hbegins x (List.mem_cons_of_mem d hx))
          (fun x hx => hreads x (List.mem_cons_of_mem d hx))
          (by omega : (write n e).length + (writeItems n es).length < fuel)
        rw [rereadItems_cons hd, writeItems_append, items_next hvalue, skip_newLine,
          skip_write (hbegins e he), hrest]
        cases rereadItems (e :: es) <;> rfl

/-- The texts of entries are read one after the other, up to one that is not read. -/
theorem entries_write
    {room : Nat}
    {e : String × Data}
    {es : List (String × Data)}
    (hbegins : ∀ x ∈ e :: es, Begins x.2)
    (hreads : ∀ x ∈ e :: es, Rereads room x.2)
    {depth : Nat}
    (hdepth : depth + room ≤ depthLimit)
    (n m : Nat)
    (rest : List Char)
    {fuel : Nat}
    (hfuel : (write n e.2).length + (writeEntries n (es.map textEntry)).length < fuel) :
    entries fuel depth (writeText e.1.toList ++ (':' :: ' ' :: (write n e.2
      ++ (writeEntries n (es.map textEntry) ++ (newLine m ++ '\x7d' :: rest)))))
      = (rereadEntries (textEntry e :: es.map textEntry)).map fun rs => (rs, rest) := by
  -- After the key there is one blank, and the value begins right after it.
  have hskip (e : String × Data) (he : Begins e.2) (cs : List Char) :
      skip (' ' :: (write n e.2 ++ cs)) = write n e.2 ++ cs :=
    skip_write he n cs
  induction es generalizing e fuel with
  | nil =>
    cases fuel with
    | zero => exact absurd hfuel (Nat.not_lt_zero _)
    | succ fuel =>
      have hvalue := hreads e List.mem_cons_self depth n (newLine m ++ '\x7d' :: rest) fuel hdepth
        (ends_newLine m _) (by omega)
      rw [← hskip e (hbegins e List.mem_cons_self)] at hvalue
      rw [writeText_append]
      cases he : reread e.2 with
      | error f =>
        rw [he] at hvalue
        rw [rereadEntries_error he]
        exact entries_error (string_writeText e.1 _) hvalue
      | ok r =>
        rw [he] at hvalue
        rw [rereadEntries_cons he]
        exact entries_last (string_writeText e.1 _) hvalue (skip_newLine m _)
  | cons e' es ih =>
    cases fuel with
    | zero => exact absurd hfuel (Nat.not_lt_zero _)
    | succ fuel =>
      have hlength := congrArg List.length (writeEntries_append n e' es [])
      simp only [List.length_cons, List.length_append, List.length_nil] at hlength
      have hvalue := hreads e List.mem_cons_self depth n
        (writeEntries n ((e' :: es).map textEntry) ++ (newLine m ++ '\x7d' :: rest)) fuel hdepth
        (ends_writeEntries n m _ _) (by omega)
      rw [← hskip e (hbegins e List.mem_cons_self)] at hvalue
      rw [writeText_append]
      cases he : reread e.2 with
      | error f =>
        rw [he] at hvalue
        rw [rereadEntries_error he]
        exact entries_error (string_writeText e.1 _) hvalue
      | ok r =>
        rw [he, writeEntries_append] at hvalue
        have hrest := ih (fun x hx => hbegins x (List.mem_cons_of_mem e hx))
          (fun x hx => hreads x (List.mem_cons_of_mem e hx))
          (by omega : (write n e'.2).length + (writeEntries n (es.map textEntry)).length < fuel)
        rw [writeText_append] at hrest
        rw [rereadEntries_cons he, writeEntries_append,
          entries_next (string_writeText e.1 _) hvalue, skip_newLine, writeText_append,
          skip_of_isFirst (by decide), hrest]
        rw [List.map_cons]
        cases rereadEntries (textEntry e' :: es.map textEntry) <;> rfl

theorem rereads_list
    {room : Nat}
    {ds : List Data}
    (hbegins : ∀ x ∈ ds, Begins x)
    (hreads : ∀ x ∈ ds, Rereads room x) :
    Rereads (room + 1) (.list ds) := by
  intro depth n rest fuel hdepth _ hfuel
  have hlimit : depth < depthLimit := by omega
  cases ds with
  | nil =>
    cases fuel with
    | zero => cases hfuel
    | succ fuel =>
      show value (fuel + 1) depth ('[' :: ']' :: rest) = .ok (.list [], rest)
      rw [value, if_neg (Nat.not_le.mpr hlimit)]
      rfl
  | cons d ds =>
    cases fuel with
    | zero => cases hfuel
    | succ fuel =>
      obtain ⟨c, cs, hwrite, hc⟩ := hbegins d List.mem_cons_self (n + 1)
      have htext := write_list_append n d ds rest
      have hlength := congrArg List.length htext
      simp only [List.length_cons, List.length_append] at hlength
      have hbound : (write (n + 1) d).length + (writeItems (n + 1) ds).length < fuel := by omega
      have hitems := items_write hbegins hreads (by omega : depth + 1 + room ≤ depthLimit) (n + 1) n
        rest hbound
      have hskip := skip_write (hbegins d List.mem_cons_self) (n + 1)
        (writeItems (n + 1) ds ++ (newLine n ++ ']' :: rest))
      rw [← skip_newLine (n + 1)] at hskip
      rw [hwrite, List.cons_append] at hitems hskip
      rw [htext, hwrite, List.cons_append, value_list hlimit hskip hc, hitems, reread]
      cases rereadItems (d :: ds) <;> rfl

theorem rereads_map
    {room : Nat}
    {es : List (String × Data)}
    (hdistinct : (es.map Prod.fst).Nodup)
    (hbegins : ∀ x ∈ es, Begins x.2)
    (hreads : ∀ x ∈ es, Rereads room x.2) :
    Rereads (room + 1) (.map (es.map textEntry)) := by
  intro depth n rest fuel hdepth _ hfuel
  have hlimit : depth < depthLimit := by omega
  cases es with
  | nil =>
    cases fuel with
    | zero => cases hfuel
    | succ fuel =>
      show value (fuel + 1) depth ('\x7b' :: '\x7d' :: rest) = .ok (.map [], rest)
      rw [value, if_neg (Nat.not_le.mpr hlimit)]
      rfl
  | cons e es =>
    cases fuel with
    | zero => cases hfuel
    | succ fuel =>
      have htext := write_map_append n e es rest
      have hlength := congrArg List.length htext
      simp only [List.length_cons, List.length_append] at hlength
      have hbound : (write (n + 1) e.2).length
          + (writeEntries (n + 1) (es.map textEntry)).length < fuel := by
        omega
      have hentries := entries_write hbegins hreads (by omega : depth + 1 + room ≤ depthLimit)
        (n + 1) n rest hbound
      rw [← List.map_cons, writeText_append] at hentries
      have hskip (cs : List Char) : skip (newLine (n + 1) ++ '"' :: cs) = '"' :: cs := by
        rw [skip_newLine, skip_of_isFirst (by decide)]
      rw [htext, writeText_append, value_map hlimit (hskip _) (by decide), hentries, reread]
      cases hrs : rereadEntries ((e :: es).map textEntry) with
      | error f => rfl
      | ok rs =>
        -- The keys are pairwise different still, so that every entry stays where it was.
        obtain ⟨fs, rfl, hkeys⟩ := exists_of_rereadEntries hrs
        have hfold := ofEntries_textEntry (hkeys ▸ hdistinct)
        simp only [Except.map, hfold]

/-- The text of a document is read as `reread` says, whatever ends it. -/
theorem rereads_of_hasForm
    {room : Nat}
    {d : Data}
    (h : HasForm room d) :
    Rereads room d := by
  induction h with
  | bool b =>
    refine rereads_of_scalar ?_ (fun rest hends => ?_) (fun _ => rfl) _
    · exact exists_first_of_scalar (scalar_bool b)
    · exact scalar_append (scalar_bool b) hends
  | int n => exact rereads_int n _
  | float x => exact rereads_float x _
  | text s =>
    intro depth n rest fuel _ _ hfuel
    cases fuel with
    | zero => cases hfuel
    | succ fuel =>
      rw [write, writeText_append]
      exact string_writeText s rest
  | list items ih => exact rereads_list (fun x hx => begins_of_hasForm (items x hx)) ih
  | map distinct values ih =>
    exact rereads_map distinct (fun x hx => begins_of_hasForm (values x hx)) ih

/-! ## Whole documents -/

theorem document_ok
    {d : Data}
    {text : String}
    (h : document d = .ok text) :
    unwritten? d = none ∧ text = String.ofList (write 0 d) := by
  unfold document at h
  split at h
  · cases h
  · next hnone =>
    cases h
    exact ⟨hnone, rfl⟩

/-- A document that was written is read as `reread` says. -/
theorem read_written
    {room : Nat}
    {d : Data}
    (h : HasForm room d)
    (hroom : room ≤ depthLimit)
    {text : String}
    (hdocument : document d = .ok text) :
    read text.toList = (reread d).mapError (Halt.fault text.toList) := by
  obtain ⟨_, rfl⟩ := document_ok hdocument
  obtain ⟨c, cs, hwrite, hc⟩ := begins_of_hasForm h 0
  have hvalue := rereads_of_hasForm h 0 0 [] (2 * (write 0 d).length + 2) (by omega) trivial
    (by omega)
  have hskip := skip_write (begins_of_hasForm h) 0 []
  rw [List.append_nil] at hvalue hskip
  have hmark : (write 0 d).head? ≠ some '\ufeff' := by
    rw [hwrite, List.head?_cons]
    exact fun he => hc.2.2.2 (Option.some.inj he)
  rw [String.toList_ofList, read, whole, if_neg hmark, hskip, hvalue]
  cases reread d <;> rfl

/-- A storable document that was written is read as it was. -/
theorem read_document
    {room : Nat}
    {d : Data}
    (h : Storable room d)
    (hroom : room ≤ depthLimit)
    {text : String}
    (hdocument : document d = .ok text) :
    read text.toList = .ok d := by
  rw [read_written h.hasForm hroom hdocument, h.reread]
  rfl

end Json
end Rebalance
