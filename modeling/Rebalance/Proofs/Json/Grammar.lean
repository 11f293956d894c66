import Rebalance.Proofs.Json.Literal
import Rebalance.Proofs.Json.RoundTrip

/-!
# The grammar of JSON texts, and the reader beside it

* `Piece`, `Spells`: what the head of a text spells, and what it leaves: a value, an object with
  every entry that is written in it, items or entries.
* `spells_readers`: whatever is read is spelled.
* `Spells.reads`: whatever is spelled is read, with two units of fuel for each character.
* `IsText`: what a whole text spells with only spaces around it; `read_eq_iff` says that this is
  what is read from it.
-/

namespace Rebalance
namespace Json

/-- What the head of a text spells. -/
inductive Piece
  | value (d : Data)
  | object (es : List (String × Data))
  | items (ds : List Data)
  | entry (e : String × Data)
  | entries (es : List (String × Data))

/-- Whether a text holds spaces only. -/
def IsBlank (s : List Char) : Prop :=
  ∀ c ∈ s, isSpace c = true

/-- Whether the head of a text, inside `depth` containers, spells a piece, up to the rest.  Words
and numbers are told by `scalar` alone.  As a value an object keeps the first place and the last
value of each key. -/
inductive Spells : (depth : Nat) → (cs : List Char) → Piece → (rest : List Char) → Prop
  | scalar
    {depth : Nat}
    {cs rest : List Char}
    {d : Data}
    (word : scalar cs = .ok (d, rest)) :
    Spells depth cs (.value d) rest
  | text
    {depth : Nat}
    {inside rest : List Char}
    {codes : List Nat}
    (literal : Literal (Text.codesOf inside) codes) :
    Spells depth ('"' :: (inside ++ '"' :: rest)) (.value (.text (Text.ofCodes codes))) rest
  | emptyList
    {depth : Nat}
    {s rest : List Char}
    (room : depth < depthLimit)
    (blank : IsBlank s) :
    Spells depth ('[' :: (s ++ ']' :: rest)) (.value (.list [])) rest
  | list
    {depth : Nat}
    {s cs rest : List Char}
    {ds : List Data}
    (room : depth < depthLimit)
    (blank : IsBlank s)
    (items : Spells (depth + 1) cs (.items ds) rest) :
    Spells depth ('[' :: (s ++ cs)) (.value (.list ds)) rest
  | map
    {depth : Nat}
    {cs rest : List Char}
    {es : List (String × Data)}
    (object : Spells depth cs (.object es) rest) :
    Spells depth cs (.value (.map (Data.ofEntries (es.map textEntry)))) rest
  | emptyObject
    {depth : Nat}
    {s rest : List Char}
    (room : depth < depthLimit)
    (blank : IsBlank s) :
    Spells depth ('\x7b' :: (s ++ '\x7d' :: rest)) (.object []) rest
  | object
    {depth : Nat}
    {s cs rest : List Char}
    {es : List (String × Data)}
    (room : depth < depthLimit)
    (blank : IsBlank s)
    (entries : Spells (depth + 1) cs (.entries es) rest) :
    Spells depth ('\x7b' :: (s ++ cs)) (.object es) rest
  | lastItem
    {depth : Nat}
    {cs s rest : List Char}
    {d : Data}
    (blank : IsBlank s)
    (value : Spells depth cs (.value d) (s ++ ']' :: rest)) :
    Spells depth cs (.items [d]) rest
  | nextItem
    {depth : Nat}
    {cs s t more rest : List Char}
    {d : Data}
    {ds : List Data}
    (before : IsBlank s)
    (behind : IsBlank t)
    (value : Spells depth cs (.value d) (s ++ ',' :: (t ++ more)))
    (items : Spells depth more (.items ds) rest) :
    Spells depth cs (.items (d :: ds)) rest
  | entry
    {depth : Nat}
    {inside s t cs rest : List Char}
    {codes : List Nat}
    {d : Data}
    (literal : Literal (Text.codesOf inside) codes)
    (before : IsBlank s)
    (behind : IsBlank t)
    (value : Spells depth cs (.value d) rest) :
    Spells depth ('"' :: (inside ++ '"' :: (s ++ ':' :: (t ++ cs))))
      (.entry (Text.ofCodes codes, d)) rest
  | lastEntry
    {depth : Nat}
    {cs s rest : List Char}
    {e : String × Data}
    (blank : IsBlank s)
    (entry : Spells depth cs (.entry e) (s ++ '\x7d' :: rest)) :
    Spells depth cs (.entries [e]) rest
  | nextEntry
    {depth : Nat}
    {cs s t more rest : List Char}
    {e : String × Data}
    {es : List (String × Data)}
    (before : IsBlank s)
    (behind : IsBlank t)
    (entry : Spells depth cs (.entry e) (s ++ ',' :: (t ++ more)))
    (entries : Spells depth more (.entries es) rest) :
    Spells depth cs (.entries (e :: es)) rest

/-- Whether a whole text spells a piece, with only spaces around it. -/
def IsText (cs : List Char) (p : Piece) : Prop :=
  ∃ s more t, IsBlank s ∧ IsBlank t ∧ cs = s ++ more ∧ Spells 0 more p t

/-! ## Spaces -/

theorem exists_blank
    (cs : List Char) :
    ∃ s, IsBlank s ∧ cs = s ++ skip cs :=
  ⟨cs.takeWhile isSpace, fun _ hc => List.mem_takeWhile_imp hc,
    List.takeWhile_append_dropWhile.symm⟩

theorem skip_blank
    {s : List Char}
    (h : IsBlank s)
    (cs : List Char) :
    skip (s ++ cs) = skip cs := by
  induction s with
  | nil => rfl
  | cons c s ih =>
    obtain ⟨hc, hs⟩ := List.forall_mem_cons.mp h
    rw [List.cons_append, skip, List.dropWhile_cons_of_pos hc]
    exact ih hs

/-- Spaces in front of a character that can be the first of a value are skipped. -/
theorem skip_blank_cons
    {s : List Char}
    (h : IsBlank s)
    {c : Char}
    (hc : isSpace c = false)
    (cs : List Char) :
    skip (s ++ c :: cs) = c :: cs := by
  rw [skip_blank h, skip, List.dropWhile_cons_of_neg (by simp [hc])]

/-- What is left without the spaces at its head had spaces in front of it. -/
theorem exists_blank_of_skip
    {cs more : List Char}
    (h : skip cs = more) :
    ∃ s, IsBlank s ∧ cs = s ++ more :=
  h ▸ exists_blank cs

/-! ## What is read is spelled -/

/-- What holds of the readers with some fuel: whatever they read is spelled. -/
structure Sound (fuel : Nat) : Prop where
  value : ∀ {depth cs d rest}, value fuel depth cs = .ok (d, rest) →
    Spells depth cs (.value d) rest
  items : ∀ {depth cs ds rest}, items fuel depth cs = .ok (ds, rest) →
    Spells depth cs (.items ds) rest
  entries : ∀ {depth cs fs rest}, entries fuel depth cs = .ok (fs, rest) →
    ∃ es, fs = es.map textEntry ∧ Spells depth cs (.entries es) rest

section Sound

variable {fuel depth : Nat} {cs rest : List Char}

theorem spells_of_value_succ
    (hread : Sound fuel)
    {d : Data}
    (h : value (fuel + 1) depth cs = .ok (d, rest)) :
    Spells depth cs (.value d) rest := by
  unfold value at h
  split at h
  · obtain ⟨inside, codes, rfl, hliteral, rfl⟩ := string_eq_iff.mp h
    exact .text hliteral
  · next body =>
    split at h
    · cases h
    next hroom =>
    have hroom := Nat.not_le.mp hroom
    split at h
    · next hskip =>
      cases h
      obtain ⟨s, hs, rfl⟩ := exists_blank_of_skip hskip
      exact .emptyList hroom hs
    split at h
    · next hitems =>
      cases h
      obtain ⟨s, hs, hbody⟩ := exists_blank body
      rw [hbody]
      exact .list hroom hs (hread.items hitems)
    · cases h
  · next body =>
    split at h
    · cases h
    next hroom =>
    have hroom := Nat.not_le.mp hroom
    split at h
    · next hskip =>
      cases h
      obtain ⟨s, hs, rfl⟩ := exists_blank_of_skip hskip
      exact .map (.emptyObject hroom hs)
    split at h
    · next hentries =>
      cases h
      obtain ⟨s, hs, hbody⟩ := exists_blank body
      obtain ⟨es, rfl, hes⟩ := hread.entries hentries
      rw [hbody]
      exact .map (.object hroom hs hes)
    · cases h
  · exact .scalar h

theorem spells_of_items_succ
    (hread : Sound fuel)
    {ds : List Data}
    (h : items (fuel + 1) depth cs = .ok (ds, rest)) :
    Spells depth cs (.items ds) rest := by
  unfold items at h
  split at h
  · cases h
  next d more hvalue =>
  have hd := hread.value hvalue
  split at h
  · next hskip =>
    cases h
    obtain ⟨s, hs, rfl⟩ := exists_blank_of_skip hskip
    exact .lastItem hs hd
  · next body hskip =>
    split at h
    · next hitems =>
      cases h
      obtain ⟨s, hs, rfl⟩ := exists_blank_of_skip hskip
      obtain ⟨t, ht, hbody⟩ := exists_blank body
      rw [hbody] at hd
      exact .nextItem hs ht hd (hread.items hitems)
    · cases h
  · cases h

theorem spells_of_entries_succ
    (hread : Sound fuel)
    {fs : List (Data × Data)}
    (h : entries (fuel + 1) depth cs = .ok (fs, rest)) :
    ∃ es, fs = es.map textEntry ∧ Spells depth cs (.entries es) rest := by
  unfold entries at h
  split at h
  · split at h
    · cases h
    next k afterKey hkey =>
    obtain ⟨inside, codes, rfl, hliteral, rfl⟩ := string_eq_iff.mp hkey
    split at h
    · next body hcolon =>
      obtain ⟨s, hs, rfl⟩ := exists_blank_of_skip hcolon
      obtain ⟨t, ht, hbody⟩ := exists_blank body
      split at h
      · cases h
      next d more hvalue =>
      have hentry := Spells.entry hliteral hs ht (hread.value hvalue)
      rw [← hbody] at hentry
      split at h
      · next hskip =>
        cases h
        obtain ⟨u, hu, rfl⟩ := exists_blank_of_skip hskip
        exact ⟨[_], rfl, .lastEntry hu hentry⟩
      · next tail hskip =>
        split at h
        · next hentries =>
          cases h
          obtain ⟨es, rfl, hes⟩ := hread.entries hentries
          obtain ⟨u, hu, rfl⟩ := exists_blank_of_skip hskip
          obtain ⟨v, hv, htail⟩ := exists_blank tail
          rw [htail] at hentry
          exact ⟨_ :: es, rfl, .nextEntry hu hv hentry hes⟩
        · cases h
      · cases h
    · cases h
  · cases h

theorem spells_readers
    (fuel : Nat) :
    Sound fuel := by
  induction fuel with
  | zero =>
    constructor
    · intro depth cs d rest h
      cases h
    · intro depth cs ds rest h
      cases h
    · intro depth cs fs rest h
      cases h
  | succ fuel ih =>
    exact ⟨spells_of_value_succ ih, spells_of_items_succ ih, spells_of_entries_succ ih⟩

end Sound

/-! ## What is spelled is read -/

/-- What is spelled leaves an end of the text. -/
theorem Spells.suffix
    {depth : Nat}
    {cs rest : List Char}
    {p : Piece}
    (h : Spells depth cs p rest) :
    rest <:+ cs := by
  have happend (c : Char) (s cs : List Char) : cs <:+ c :: (s ++ cs) :=
    ⟨c :: s, rfl⟩
  induction h with
  | @scalar depth cs rest d word =>
    have hbounded := bounded_scalar depth cs
    rw [word] at hbounded
    exact hbounded
  | text => exact (List.suffix_cons _ _).trans (happend _ _ _)
  | emptyList => exact (List.suffix_cons _ _).trans (happend _ _ _)
  | list _ _ _ ih => exact ih.trans (happend _ _ _)
  | map _ ih => exact ih
  | emptyObject => exact (List.suffix_cons _ _).trans (happend _ _ _)
  | object _ _ _ ih => exact ih.trans (happend _ _ _)
  | lastItem _ _ ih => exact ((List.suffix_cons _ _).trans (List.suffix_append _ _)).trans ih
  | nextItem _ _ _ _ ihvalue ihitems =>
    exact ihitems.trans (((happend _ _ _).trans (List.suffix_append _ _)).trans ihvalue)
  | entry _ _ _ _ ih =>
    exact ih.trans (((happend _ _ _).trans (List.suffix_append _ _)).trans
      ((List.suffix_cons _ _).trans (happend _ _ _)))
  | lastEntry _ _ ih => exact ((List.suffix_cons _ _).trans (List.suffix_append _ _)).trans ih
  | nextEntry _ _ _ _ ihentry ihentries =>
    exact ihentries.trans (((happend _ _ _).trans (List.suffix_append _ _)).trans ihentry)

/-- What is spelled begins like a value. -/
theorem Spells.exists_first
    {depth : Nat}
    {cs rest : List Char}
    {p : Piece}
    (h : Spells depth cs p rest) :
    ∃ c more, cs = c :: more ∧ IsFirst c := by
  induction h with
  | scalar word =>
    obtain ⟨c, more, hcs, hc⟩ := exists_first_of_scalar word
    exact ⟨c, more, hcs, hc.isFirst⟩
  | text | emptyList | list | emptyObject | object | entry => exact ⟨_, _, rfl, by decide⟩
  | map _ ih => exact ih
  | lastItem _ _ ih => exact ih
  | nextItem _ _ _ _ ih _ => exact ih
  | lastEntry _ _ ih => exact ih
  | nextEntry _ _ _ _ ih _ => exact ih

/-- Whether the readers find a piece at the head of a text.  An entry is read by no reader of its
own: its key and its value are. -/
def IsRead (fuel depth : Nat) (cs rest : List Char) : Piece → Prop
  | .value d => value fuel depth cs = .ok (d, rest)
  | .object es => value fuel depth cs = .ok (.map (Data.ofEntries (es.map textEntry)), rest)
  | .items ds => items (fuel + 1) depth cs = .ok (ds, rest)
  | .entry e => ∃ name afterKey body, cs = '"' :: name ∧ string name = .ok (.text e.1, afterKey) ∧
      skip afterKey = ':' :: body ∧ value fuel depth (skip body) = .ok (e.2, rest)
  | .entries es => entries (fuel + 1) depth cs = .ok (es.map textEntry, rest)

section Reads

variable {fuel depth : Nat} {s t cs more rest : List Char}

theorem value_list_blank
    (fuel : Nat)
    (room : depth < depthLimit)
    (hs : IsBlank s)
    (hfirst : ∃ c tail, cs = c :: tail ∧ IsFirst c) :
    value (fuel + 1) depth ('[' :: (s ++ cs))
      = (items fuel (depth + 1) cs).map fun r => (.list r.1, r.2) := by
  obtain ⟨c, tail, rfl, hc⟩ := hfirst
  exact value_list room (skip_blank_cons hs hc.1 tail) hc

theorem value_map_blank
    (fuel : Nat)
    (room : depth < depthLimit)
    (hs : IsBlank s)
    (hfirst : ∃ c tail, cs = c :: tail ∧ IsFirst c) :
    value (fuel + 1) depth ('\x7b' :: (s ++ cs))
      = (entries fuel (depth + 1) cs).map fun r => (.map (Data.ofEntries r.1), r.2) := by
  obtain ⟨c, tail, rfl, hc⟩ := hfirst
  exact value_map room (skip_blank_cons hs hc.1 tail) hc

theorem items_next_blank
    {d : Data}
    (hread : value fuel depth cs = .ok (d, s ++ ',' :: (t ++ more)))
    (hs : IsBlank s)
    (ht : skip (t ++ more) = more) :
    items (fuel + 1) depth cs = (items fuel depth more).map fun r => (d :: r.1, r.2) := by
  have hcomma := skip_blank_cons hs (by decide : isSpace ',' = false) (t ++ more)
  simp only [items, hread, hcomma, ht]
  cases items fuel depth more <;> rfl

theorem entries_last_blank
    {e : String × Data}
    (hread : IsRead fuel depth cs (s ++ '\x7d' :: rest) (.entry e))
    (hs : IsBlank s) :
    entries (fuel + 1) depth cs = .ok ([textEntry e], rest) := by
  obtain ⟨name, afterKey, body, rfl, hkey, hcolon, hvalue⟩ := hread
  have hbrace := skip_blank_cons hs (by decide : isSpace '\x7d' = false) rest
  simp only [entries, hkey, hcolon, hvalue, hbrace]
  rfl

theorem entries_next_blank
    {e : String × Data}
    (hread : IsRead fuel depth cs (s ++ ',' :: (t ++ more)) (.entry e))
    (hs : IsBlank s)
    (ht : skip (t ++ more) = more) :
    entries (fuel + 1) depth cs
      = (entries fuel depth more).map fun r => (textEntry e :: r.1, r.2) := by
  obtain ⟨name, afterKey, body, rfl, hkey, hcolon, hvalue⟩ := hread
  have hcomma := skip_blank_cons hs (by decide : isSpace ',' = false) (t ++ more)
  simp only [entries, hkey, hcolon, hvalue, hcomma, ht]
  cases entries fuel depth more <;> rfl

end Reads

/-- What is spelled is read, with two units of fuel for each character. -/
theorem Spells.isRead
    {depth : Nat}
    {cs rest : List Char}
    {p : Piece}
    (h : Spells depth cs p rest)
    {fuel : Nat}
    (hfuel : 2 * cs.length ≤ fuel) :
    IsRead fuel depth cs rest p := by
  have hskip {depth : Nat} {s cs rest : List Char} {p : Piece} (hs : IsBlank s)
      (h : Spells depth cs p rest) : skip (s ++ cs) = cs := by
    obtain ⟨c, more, rfl, hc⟩ := h.exists_first
    exact skip_blank_cons hs hc.1 more
  induction h generalizing fuel with
  | @scalar depth cs rest d word =>
    obtain ⟨c, more, rfl, hc⟩ := exists_first_of_scalar word
    cases fuel with
    | zero => cases hfuel
    | succ fuel =>
      have hvalue := value_scalar hc fuel depth more
      exact hvalue.trans word
  | text literal =>
    cases fuel with
    | zero => cases hfuel
    | succ fuel => exact string_of_literal literal _
  | @emptyList depth s rest room blank =>
    cases fuel with
    | zero => cases hfuel
    | succ fuel =>
      have hbracket := skip_blank_cons blank (by decide : isSpace ']' = false) rest
      simp only [IsRead, value, if_neg (Nat.not_le.mpr room), hbracket]
  | @list depth s cs rest ds room blank hitems ih =>
    simp only [List.length_cons, List.length_append] at hfuel
    obtain ⟨fuel, rfl⟩ : ∃ n, fuel = n + 2 := ⟨fuel - 2, by omega⟩
    have hread : items (fuel + 1) (depth + 1) cs = .ok (ds, rest) := ih (by omega)
    have hvalue := value_list_blank (fuel + 1) room blank hitems.exists_first
    rw [hread] at hvalue
    exact hvalue
  | map _ ih => exact ih hfuel
  | @emptyObject depth s rest room blank =>
    cases fuel with
    | zero => cases hfuel
    | succ fuel =>
      have hbrace := skip_blank_cons blank (by decide : isSpace '\x7d' = false) rest
      simp only [IsRead, value, if_neg (Nat.not_le.mpr room), hbrace]
      rfl
  | @object depth s cs rest es room blank hentries ih =>
    simp only [List.length_cons, List.length_append] at hfuel
    obtain ⟨fuel, rfl⟩ : ∃ n, fuel = n + 2 := ⟨fuel - 2, by omega⟩
    have hread : entries (fuel + 1) (depth + 1) cs = .ok (es.map textEntry, rest) := ih (by omega)
    have hvalue := value_map_blank (fuel + 1) room blank hentries.exists_first
    rw [hread] at hvalue
    exact hvalue
  | lastItem blank _ ih => exact items_last (ih hfuel) (skip_blank_cons blank (by decide) _)
  | @nextItem depth cs s t more rest d ds before behind hvalue hitems ihvalue ihitems =>
    have hlength := hvalue.suffix.length_le
    simp only [List.length_append, List.length_cons] at hlength
    cases fuel with
    | zero => omega
    | succ fuel =>
      have hnext := items_next_blank (ihvalue hfuel) before (hskip behind hitems)
      have hread : items (fuel + 1) depth more = .ok (ds, rest) := ihitems (by omega)
      rw [hread] at hnext
      exact hnext
  | @entry depth inside s t cs rest codes d literal before behind hvalue ih =>
    have hlength : 2 * cs.length ≤ fuel := by
      simp at hfuel
      omega
    refine ⟨_, s ++ ':' :: (t ++ cs), t ++ cs, rfl, string_of_literal literal _,
      skip_blank_cons before (by decide) _, ?_⟩
    rw [hskip behind hvalue]
    exact ih hlength
  | lastEntry blank _ ih => exact entries_last_blank (ih hfuel) blank
  | @nextEntry depth cs s t more rest e es before behind hentry hentries ihentry ihentries =>
    have hlength := hentry.suffix.length_le
    simp only [List.length_append, List.length_cons] at hlength
    cases fuel with
    | zero => omega
    | succ fuel =>
      have hnext := entries_next_blank (ihentry hfuel) before (hskip behind hentries)
      have hread : entries (fuel + 1) depth more = .ok (es.map textEntry, rest) :=
        ihentries (by omega)
      rw [hread] at hnext
      exact hnext

/-! ## Whole texts -/

/-- No byte order mark stands in front of a value or of spaces. -/
theorem head?_ne_mark
    {s : List Char}
    (hs : IsBlank s)
    {c : Char}
    (hc : IsFirst c)
    (cs : List Char) :
    (s ++ c :: cs).head? ≠ some '\ufeff' := by
  cases s with
  | nil => simp [hc.2.2.2]
  | cons e s =>
    intro he
    have hspace := hs e List.mem_cons_self
    cases he
    exact Bool.false_ne_true hspace

theorem whole_eq_iff
    {cs : List Char}
    {d : Data} :
    whole cs = .ok d ↔ IsText cs (.value d) := by
  constructor
  · intro h
    unfold whole at h
    split at h
    · cases h
    split at h
    · cases h
    next rest hvalue =>
    split at h
    · next hskip =>
      cases h
      obtain ⟨s, hs, hcs⟩ := exists_blank cs
      exact ⟨s, skip cs, rest, hs, List.dropWhile_eq_nil_iff.mp hskip, hcs,
        (spells_readers _).value hvalue⟩
    · cases h
  · rintro ⟨s, more, t, hs, ht, rfl, hspells⟩
    have hread : value (2 * (s ++ more).length + 2) 0 more = .ok (d, t) :=
      hspells.isRead (by rw [List.length_append]; omega)
    obtain ⟨c, tail, rfl, hc⟩ := hspells.exists_first
    have hend : skip t = [] := List.dropWhile_eq_nil_iff.mpr ht
    rw [whole, if_neg (head?_ne_mark hs hc tail), skip_blank_cons hs hc.1, hread]
    simp only [hend]

/-- What is read from a text is the value that it spells. -/
theorem read_eq_iff
    {cs : List Char}
    {d : Data} :
    read cs = .ok d ↔ IsText cs (.value d) := by
  rw [← whole_eq_iff, read]
  cases whole cs <;> simp [Except.mapError]

theorem entries?_of_number
    {start cs rest : List Char}
    {negative : Bool}
    {d : Data}
    (h : number start negative cs = .ok (d, rest)) :
    d.entries? = none := by
  unfold number at h
  split at h
  · cases h
  · dsimp only at h
    split at h
    · split at h
      · cases h
      · cases h
        rfl
    · cases h
      rfl

/-- A word or a number is no object. -/
theorem entries?_of_scalar
    {cs rest : List Char}
    {d : Data}
    (h : scalar cs = .ok (d, rest)) :
    d.entries? = none := by
  have hwords : ∀ p ∈ words, p.2.entries? = none := by simp [words, Data.entries?]
  unfold scalar at h
  split at h
  · next r hword =>
    cases h
    obtain ⟨p, hp, hword⟩ := List.exists_of_findSome?_eq_some hword
    obtain ⟨more, -, hmore⟩ := Option.map_eq_some_iff.mp hword
    cases hmore
    exact hwords p hp
  · split at h
    · exact entries?_of_number h
    · exact entries?_of_number h

/-- A text spells a map just when it spells an object whose entries are that map. -/
theorem isText_map_iff
    {cs : List Char}
    {fs : List (Data × Data)} :
    IsText cs (.value (.map fs)) ↔
      ∃ es, IsText cs (.object es) ∧ Data.ofEntries (es.map textEntry) = fs := by
  constructor
  · rintro ⟨s, more, t, hs, ht, hcs, hspells⟩
    cases hspells with
    | scalar word => cases entries?_of_scalar word
    | map hobject => exact ⟨_, ⟨s, more, t, hs, ht, hcs, hobject⟩, rfl⟩
  · rintro ⟨es, ⟨s, more, t, hs, ht, hcs, hspells⟩, rfl⟩
    exact ⟨s, more, t, hs, ht, hcs, .map hspells⟩

end Json
end Rebalance
