import Rebalance.Proofs.Json.RoundTrip

/-!
# Documents whose texts are plain

* `unwritten?_text`, `unwritten?_list`, `unwritten?_map`: a document can be written just when none
  of its texts holds a surrogate.
* `KeepsPlain`: a piece of a text that is plain in front of whatever ends it.
* `isPlain_document`: the text of a document that was written is plain.
-/

namespace Rebalance
namespace Json

/-! ## What can be written -/

theorem unwrittenItem?_eq_none_iff
    {ds : List Data} :
    unwrittenItem? ds = none ↔ ∀ d ∈ ds, unwritten? d = none := by
  induction ds with
  | nil => exact ⟨fun _ => List.forall_mem_nil _, fun _ => rfl⟩
  | cons d ds ih =>
    rw [unwrittenItem?, List.forall_mem_cons, ← ih]
    cases unwritten? d with
    | none => simp
    | some s => simp

theorem unwrittenEntry?_eq_none_iff
    {es : List (String × Data)} :
    unwrittenEntry? (es.map textEntry) = none ↔
      ∀ e ∈ es, Text.hasSurrogate e.1 = false ∧ unwritten? e.2 = none := by
  induction es with
  | nil => exact ⟨fun _ => List.forall_mem_nil _, fun _ => rfl⟩
  | cons e es ih =>
    rw [List.map_cons, textEntry, unwrittenEntry?, List.forall_mem_cons, ← ih, unwritten?]
    cases hkey : Text.hasSurrogate e.1 with
    | true => simp
    | false => cases unwritten? e.2 <;> simp

theorem unwritten?_text
    (s : String) :
    unwritten? (.text s) = none ↔ Text.hasSurrogate s = false := by
  rw [unwritten?]
  cases Text.hasSurrogate s <;> simp

theorem unwritten?_list
    (ds : List Data) :
    unwritten? (.list ds) = none ↔ ∀ d ∈ ds, unwritten? d = none := by
  rw [unwritten?, unwrittenItem?_eq_none_iff]

theorem unwritten?_map
    (es : List (String × Data)) :
    unwritten? (.map (es.map textEntry)) = none ↔
      ∀ e ∈ es, Text.hasSurrogate e.1 = false ∧ unwritten? e.2 = none := by
  rw [unwritten?, unwrittenEntry?_eq_none_iff]

/-! ## Pieces of a text -/

/-- Whether a text stays plain with a piece in front that is followed by what ends it. -/
def KeepsPlain (cs : List Char) : Prop :=
  ∀ rest, Ends rest → Text.IsPlain rest → Text.IsPlain (cs ++ rest)

theorem keepsPlain_of_low
    {cs : List Char}
    (h : ∀ c ∈ cs, c.toNat < 0x80 ∧ c ≠ '\r') :
    KeepsPlain cs :=
  fun _ _ hrest => Text.isPlain_append h hrest

/-- The same for a text that is checked one character at a time. -/
theorem keepsPlain_of_all
    {cs : List Char}
    (h : cs.all (fun c => c.toNat < 0x80 ∧ c ≠ '\r') = true) :
    KeepsPlain cs :=
  keepsPlain_of_low fun c hc => of_decide_eq_true (List.all_eq_true.mp h c hc)

theorem isPlain_newLine
    (n : Nat)
    {rest : List Char}
    (h : Text.IsPlain rest) :
    Text.IsPlain (newLine n ++ rest) := by
  refine Text.isPlain_append ?_ h
  intro c hc
  rcases List.mem_cons.mp hc with rfl | hc
  · decide
  · rw [(List.mem_replicate.mp hc).2]
    decide

theorem keepsPlain_intText
    (n : Int) :
    KeepsPlain (Decimal.intText n).toList := by
  refine keepsPlain_of_low ?_
  intro c hc
  unfold Decimal.intText at hc
  cases n with
  | ofNat m =>
    rw [String.toList_ofList] at hc
    exact Decimal.low_of_isDigit (Decimal.isDigit_of_mem_digits hc)
  | negSucc m =>
    rw [String.toList_ofList] at hc
    rcases List.mem_cons.mp hc with rfl | hc
    · decide
    · exact Decimal.low_of_isDigit (Decimal.isDigit_of_mem_digits hc)

theorem keepsPlain_storedText?
    {x : Float}
    {cs : List Char}
    (h : Decimal.storedText? x = some cs) :
    KeepsPlain cs := by
  refine keepsPlain_of_low ?_
  intro c hc
  rcases Decimal.isNumeral_of_storedText? h c hc with hc | hc
  · exact Decimal.low_of_isDigit hc
  · simp only [List.mem_cons, List.not_mem_nil, or_false] at hc
    rcases hc with rfl | rfl | rfl | rfl <;> decide

theorem keepsPlain_writeFloat
    (x : Float) :
    KeepsPlain (writeFloat x) := by
  unfold writeFloat
  cases hstored : Decimal.storedText? x with
  | none => exact keepsPlain_of_all rfl
  | some cs => exact keepsPlain_storedText? hstored

theorem isPlain_low
    {c : Char}
    (hc : c.toNat < 0x80 ∧ c ≠ '\r')
    {cs : List Char}
    (h : Text.IsPlain cs) :
    Text.IsPlain (c :: cs) :=
  Text.isPlain_cons (Text.isOrdinary_of_lt hc.1) hc.2 h

theorem isPlain_writeItems
    {ds : List Data}
    (n m : Nat)
    (h : ∀ d ∈ ds, KeepsPlain (write n d))
    {cs : List Char}
    (hcs : Text.IsPlain (newLine m ++ cs)) :
    Text.IsPlain (writeItems n ds ++ (newLine m ++ cs)) := by
  induction ds with
  | nil => exact hcs
  | cons d ds ih =>
    rw [writeItems_append]
    refine isPlain_low (by decide) (isPlain_newLine n ?_)
    exact h d List.mem_cons_self _ (ends_writeItems n m ds cs)
      (ih fun x hx => h x (List.mem_cons_of_mem d hx))

theorem isPlain_writeEntries
    {es : List (String × Data)}
    (n m : Nat)
    (h : ∀ e ∈ es, Text.hasSurrogate e.1 = false ∧ KeepsPlain (write n e.2))
    {cs : List Char}
    (hcs : Text.IsPlain (newLine m ++ cs)) :
    Text.IsPlain (writeEntries n (es.map textEntry) ++ (newLine m ++ cs)) := by
  induction es with
  | nil => exact hcs
  | cons e es ih =>
    obtain ⟨hkey, hvalue⟩ := h e List.mem_cons_self
    rw [writeEntries_append]
    refine isPlain_low (by decide) (isPlain_newLine n (isPlain_writeText hkey ?_))
    refine isPlain_low (by decide) (isPlain_low (by decide) ?_)
    exact hvalue _ (ends_writeEntries n m es cs) (ih fun x hx => h x (List.mem_cons_of_mem e hx))

theorem keepsPlain_list
    {n : Nat}
    {ds : List Data}
    (h : ∀ d ∈ ds, KeepsPlain (write (n + 1) d)) :
    KeepsPlain (write n (.list ds)) := by
  intro rest _ hrest
  cases ds with
  | nil => exact isPlain_low (by decide) (isPlain_low (by decide) hrest)
  | cons d ds =>
    have hclose : Text.IsPlain (newLine n ++ ']' :: rest) :=
      isPlain_newLine n (isPlain_low (by decide) hrest)
    have htext := write_list_append n d ds rest
    rw [htext]
    refine isPlain_low (by decide) (isPlain_newLine (n + 1) ?_)
    exact h d List.mem_cons_self _ (ends_writeItems _ n ds _)
      (isPlain_writeItems _ n (fun x hx => h x (List.mem_cons_of_mem d hx)) hclose)

theorem keepsPlain_map
    {n : Nat}
    {es : List (String × Data)}
    (h : ∀ e ∈ es, Text.hasSurrogate e.1 = false ∧ KeepsPlain (write (n + 1) e.2)) :
    KeepsPlain (write n (.map (es.map textEntry))) := by
  intro rest _ hrest
  cases es with
  | nil => exact isPlain_low (by decide) (isPlain_low (by decide) hrest)
  | cons e es =>
    obtain ⟨hkey, hvalue⟩ := h e List.mem_cons_self
    have hclose : Text.IsPlain (newLine n ++ '\x7d' :: rest) :=
      isPlain_newLine n (isPlain_low (by decide) hrest)
    have htext := write_map_append n e es rest
    rw [htext]
    refine isPlain_low (by decide) (isPlain_newLine (n + 1) (isPlain_writeText hkey ?_))
    refine isPlain_low (by decide) (isPlain_low (by decide) ?_)
    exact hvalue _ (ends_writeEntries _ n es _)
      (isPlain_writeEntries _ n (fun x hx => h x (List.mem_cons_of_mem e hx)) hclose)

/-- The text of a document without surrogates stays plain in front of what ends it. -/
theorem keepsPlain_write
    {room : Nat}
    {d : Data}
    (h : HasForm room d)
    (hwritten : unwritten? d = none)
    (n : Nat) :
    KeepsPlain (write n d) := by
  induction h generalizing n with
  | bool b =>
    refine keepsPlain_of_all ?_
    cases b <;> rfl
  | int m => exact keepsPlain_intText m
  | float x => exact keepsPlain_writeFloat x
  | text s =>
    intro rest _ hrest
    exact isPlain_writeText ((unwritten?_text s).mp hwritten) hrest
  | @list room ds items ih =>
    have hitems := (unwritten?_list ds).mp hwritten
    refine keepsPlain_list ?_
    intro d hd
    exact ih d hd (hitems d hd) (n + 1)
  | @map room es distinct values ih =>
    have hentries := (unwritten?_map es).mp hwritten
    refine keepsPlain_map ?_
    intro e he
    obtain ⟨hkey, hvalue⟩ := hentries e he
    exact ⟨hkey, ih e he hvalue (n + 1)⟩

/-! ## Whole documents -/

theorem isPlain_document
    {room : Nat}
    {d : Data}
    (h : HasForm room d)
    {text : String}
    (hdocument : document d = .ok text) :
    Text.IsPlain text.toList := by
  obtain ⟨hwritten, rfl⟩ := document_ok hdocument
  have hplain := keepsPlain_write h hwritten 0 [] trivial Text.isPlain_nil
  rwa [List.append_nil, ← String.toList_ofList (l := write 0 d)] at hplain

end Json
end Rebalance
