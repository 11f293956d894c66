import Rebalance.Proofs.Json.Grammar

/-!
# Texts that go beyond a limit of the reader

* `Slot`, `Reaches`: the values that reading comes to, and how many containers are open there.
* `Exceeds`: a container that opens where no more may be open, or a whole number with too many
  digits.
* `IsExcessive`: a text in which reading comes to such a value.
* `halting`, `Reaches.stops`: the readers stop for a limit just where they come to such a value.
* `limit_iff_isExcessive`: reading a text goes beyond a limit just when the text is excessive.
-/

namespace Rebalance
namespace Json

/-- What is looked for at a place of a text. -/
inductive Slot
  | value
  | items
  | entries

/-- Whether reading the head of a text, inside `depth` containers, comes to the value at the head of
`inner`, inside `deep` containers. -/
inductive Reaches (deep : Nat) (inner : List Char) : (depth : Nat) → Slot → List Char → Prop
  | here :
    Reaches deep inner deep .value inner
  | list
    {depth : Nat}
    {s cs : List Char}
    (room : depth < depthLimit)
    (blank : IsBlank s)
    (items : Reaches deep inner (depth + 1) .items cs) :
    Reaches deep inner depth .value ('[' :: (s ++ cs))
  | object
    {depth : Nat}
    {s cs : List Char}
    (room : depth < depthLimit)
    (blank : IsBlank s)
    (entries : Reaches deep inner (depth + 1) .entries cs) :
    Reaches deep inner depth .value ('\x7b' :: (s ++ cs))
  | item
    {depth : Nat}
    {cs : List Char}
    (value : Reaches deep inner depth .value cs) :
    Reaches deep inner depth .items cs
  | nextItem
    {depth : Nat}
    {cs s t more : List Char}
    {d : Data}
    (before : IsBlank s)
    (behind : IsBlank t)
    (value : Spells depth cs (.value d) (s ++ ',' :: (t ++ more)))
    (items : Reaches deep inner depth .items more) :
    Reaches deep inner depth .items cs
  | entry
    {depth : Nat}
    {inside s t cs : List Char}
    {codes : List Nat}
    (literal : Literal (Text.codesOf inside) codes)
    (before : IsBlank s)
    (behind : IsBlank t)
    (value : Reaches deep inner depth .value cs) :
    Reaches deep inner depth .entries ('"' :: (inside ++ '"' :: (s ++ ':' :: (t ++ cs))))
  | nextEntry
    {depth : Nat}
    {cs s t more : List Char}
    {e : String × Data}
    (before : IsBlank s)
    (behind : IsBlank t)
    (entry : Spells depth cs (.entry e) (s ++ ',' :: (t ++ more)))
    (entries : Reaches deep inner depth .entries more) :
    Reaches deep inner depth .entries cs

/-- Whether a whole number with too many digits stands at the head of a text. -/
def IsLongNumber (cs : List Char) : Prop :=
  ∃ ds rest, (wholeDigits? cs = some (ds, rest) ∨
      ∃ more, cs = '-' :: more ∧ wholeDigits? more = some (ds, rest)) ∧
    (takeFraction rest).1 = [] ∧ (takeExponent rest).1 = none ∧ Decimal.digitLimit < ds.length

/-- Whether a value at the head of a text, inside `deep` containers, goes beyond a limit. -/
def Exceeds (deep : Nat) (cs : List Char) : Prop :=
  (depthLimit ≤ deep ∧ ∃ c more, cs = c :: more ∧ isOpening c = true) ∨ IsLongNumber cs

/-- Whether reading comes to a value that goes beyond a limit. -/
def ReachesLimit (depth : Nat) (slot : Slot) (cs : List Char) : Prop :=
  ∃ deep inner, Reaches deep inner depth slot cs ∧ Exceeds deep inner

/-- Whether reading a whole text comes to a value that goes beyond a limit. -/
def IsExcessive (cs : List Char) : Prop :=
  ∃ s more, IsBlank s ∧ cs = s ++ more ∧ ReachesLimit 0 .value more

/-! ## What stops the reader -/

/-- Whether a halt is one for a limit. -/
def Halt.IsLimit : Halt → Prop
  | .stuck _ _ => False
  | .tooDeep _ => True
  | .tooManyDigits _ => True

theorem not_isLimit_of_parts
    {start cs : List Char}
    {e : Halt}
    (h : parts start cs = .error e) :
    ¬ e.IsLimit := by
  have hmap {p : Part} {r : Except Halt (List Part × List Char)}
      (h : (r.map fun r => (p :: r.1, r.2)) = .error e) : r = .error e := by
    cases r with
    | error e =>
      cases h
      rfl
    | ok r => cases h
  fun_induction parts start cs with
  | case1 | case3 | case4 | case7 | case8 | case9 =>
    cases h
    exact id
  | case2 => cases h
  | case5 _ _ _ _ _ _ _ _ ih => exact ih (hmap h)
  | case6 _ _ _ _ _ ih => exact ih (hmap h)
  | case10 _ _ _ _ _ _ _ ih => exact ih (hmap h)

theorem not_isLimit_of_string
    {cs : List Char}
    {e : Halt}
    (h : string cs = .error e) :
    ¬ e.IsLimit := by
  unfold string at h
  cases hparts : parts ('"' :: cs) cs with
  | error e =>
    rw [hparts] at h
    cases h
    exact not_isLimit_of_parts hparts
  | ok r =>
    rw [hparts] at h
    cases h

theorem takeFraction_snd
    {cs : List Char}
    (h : (takeFraction cs).1 = []) :
    (takeFraction cs).2 = cs := by
  unfold takeFraction at h ⊢
  split at h
  · next rest =>
    dsimp only at h ⊢
    by_cases hdigits : (rest.takeWhile Decimal.isDigit).isEmpty = true
    · rw [if_pos hdigits]
    · rw [if_neg hdigits] at h
      exact absurd (List.isEmpty_iff.mpr h) hdigits
  · rfl

theorem isLongNumber_of_number
    {start cs : List Char}
    {negative : Bool}
    {e : Halt}
    (h : number start negative cs = .error e)
    (hlimit : e.IsLimit) :
    ∃ ds rest, wholeDigits? cs = some (ds, rest) ∧ (takeFraction rest).1 = [] ∧
      (takeExponent rest).1 = none ∧ Decimal.digitLimit < ds.length := by
  unfold number at h
  split at h
  · cases h
    exact hlimit.elim
  · next ds rest hwhole =>
    dsimp only at h
    split at h
    · next hinteger =>
      split at h
      · next hlong =>
        obtain ⟨hfraction, hexponent⟩ := hinteger
        rw [List.isEmpty_iff] at hfraction
        rw [Option.isNone_iff_eq_none] at hexponent
        have hrest := takeFraction_snd hfraction
        rw [hrest] at hexponent
        exact ⟨ds, rest, hwhole, hfraction, hexponent, hlong⟩
      · cases h
    · cases h

/-- A word or number that stops the reader for a limit is a whole number with too many digits. -/
theorem isLongNumber_of_scalar
    {cs : List Char}
    {e : Halt}
    (h : scalar cs = .error e)
    (hlimit : e.IsLimit) :
    IsLongNumber cs := by
  unfold scalar at h
  split at h
  · cases h
  · split at h
    · next more _ =>
      obtain ⟨ds, rest, hwhole, hrest⟩ := isLongNumber_of_number h hlimit
      exact ⟨ds, rest, .inr ⟨more, rfl, hwhole⟩, hrest⟩
    · obtain ⟨ds, rest, hwhole, hrest⟩ := isLongNumber_of_number h hlimit
      exact ⟨ds, rest, .inl hwhole, hrest⟩

/-- What holds of the readers with some fuel: where they stop for a limit, they have come to a value
that goes beyond one. -/
structure Halting (fuel : Nat) : Prop where
  value : ∀ {depth cs e}, value fuel depth cs = .error e → e.IsLimit →
    ReachesLimit depth .value cs
  items : ∀ {depth cs e}, items fuel depth cs = .error e → e.IsLimit →
    ReachesLimit depth .items cs
  entries : ∀ {depth cs e}, entries fuel depth cs = .error e → e.IsLimit →
    ReachesLimit depth .entries cs

section Halting

variable {fuel depth : Nat} {cs : List Char} {e : Halt}

theorem reachesLimit_of_value_succ
    (hread : Halting fuel)
    (h : value (fuel + 1) depth cs = .error e)
    (hlimit : e.IsLimit) :
    ReachesLimit depth .value cs := by
  have hdeep {c : Char} (hc : isOpening c = true) (more : List Char) (hdepth : depthLimit ≤ depth) :
      ReachesLimit depth .value (c :: more) :=
    ⟨depth, c :: more, .here, .inl ⟨hdepth, c, more, rfl, hc⟩⟩
  unfold value at h
  split at h
  · exact absurd hlimit (not_isLimit_of_string h)
  · next body =>
    split at h
    · next hdepth => exact hdeep rfl body hdepth
    next hroom =>
    split at h
    · cases h
    split at h
    · cases h
    · next hitems =>
      cases h
      obtain ⟨deep, inner, hreaches, hexceeds⟩ := hread.items hitems hlimit
      obtain ⟨s, hs, hbody⟩ := exists_blank body
      rw [hbody]
      exact ⟨deep, inner, .list (Nat.not_le.mp hroom) hs hreaches, hexceeds⟩
  · next body =>
    split at h
    · next hdepth => exact hdeep rfl body hdepth
    next hroom =>
    split at h
    · cases h
    split at h
    · cases h
    · next hentries =>
      cases h
      obtain ⟨deep, inner, hreaches, hexceeds⟩ := hread.entries hentries hlimit
      obtain ⟨s, hs, hbody⟩ := exists_blank body
      rw [hbody]
      exact ⟨deep, inner, .object (Nat.not_le.mp hroom) hs hreaches, hexceeds⟩
  · exact ⟨depth, _, .here, .inr (isLongNumber_of_scalar h hlimit)⟩

theorem reachesLimit_of_items_succ
    (hread : Halting fuel)
    (h : items (fuel + 1) depth cs = .error e)
    (hlimit : e.IsLimit) :
    ReachesLimit depth .items cs := by
  unfold items at h
  split at h
  · next hvalue =>
    cases h
    obtain ⟨deep, inner, hreaches, hexceeds⟩ := hread.value hvalue hlimit
    exact ⟨deep, inner, .item hreaches, hexceeds⟩
  next hvalue =>
  split at h
  · cases h
  · next body hskip =>
    split at h
    · cases h
    next hitems =>
    cases h
    obtain ⟨deep, inner, hreaches, hexceeds⟩ := hread.items hitems hlimit
    have hspells := (spells_readers fuel).value hvalue
    obtain ⟨s, hs, rfl⟩ := exists_blank_of_skip hskip
    obtain ⟨t, ht, hbody⟩ := exists_blank body
    rw [hbody] at hspells
    exact ⟨deep, inner, .nextItem hs ht hspells hreaches, hexceeds⟩
  · cases h
    exact hlimit.elim

theorem reachesLimit_of_entries_succ
    (hread : Halting fuel)
    (h : entries (fuel + 1) depth cs = .error e)
    (hlimit : e.IsLimit) :
    ReachesLimit depth .entries cs := by
  unfold entries at h
  split at h
  · split at h
    · next hkey =>
      cases h
      exact absurd hlimit (not_isLimit_of_string hkey)
    next k afterKey hkey =>
    obtain ⟨inside, codes, rfl, hliteral, rfl⟩ := string_eq_iff.mp hkey
    split at h
    · next body hcolon =>
      obtain ⟨s, hs, rfl⟩ := exists_blank_of_skip hcolon
      obtain ⟨t, ht, hbody⟩ := exists_blank body
      split at h
      · next hvalue =>
        cases h
        obtain ⟨deep, inner, hreaches, hexceeds⟩ := hread.value hvalue hlimit
        rw [hbody]
        exact ⟨deep, inner, .entry hliteral hs ht hreaches, hexceeds⟩
      next hvalue =>
      have hentry := Spells.entry hliteral hs ht ((spells_readers fuel).value hvalue)
      rw [← hbody] at hentry
      split at h
      · cases h
      · next tail hskip =>
        split at h
        · cases h
        next hentries =>
        cases h
        obtain ⟨deep, inner, hreaches, hexceeds⟩ := hread.entries hentries hlimit
        obtain ⟨u, hu, rfl⟩ := exists_blank_of_skip hskip
        obtain ⟨v, hv, htail⟩ := exists_blank tail
        rw [htail] at hentry
        exact ⟨deep, inner, .nextEntry hu hv hentry hreaches, hexceeds⟩
      · cases h
        exact hlimit.elim
    · cases h
      exact hlimit.elim
  · cases h
    exact hlimit.elim

theorem halting
    (fuel : Nat) :
    Halting fuel := by
  induction fuel with
  | zero =>
    constructor
    · intro depth cs e h hlimit
      cases h
      exact hlimit.elim
    · intro depth cs e h hlimit
      cases h
      exact hlimit.elim
    · intro depth cs e h hlimit
      cases h
      exact hlimit.elim
  | succ fuel ih =>
    exact ⟨reachesLimit_of_value_succ ih, reachesLimit_of_items_succ ih,
      reachesLimit_of_entries_succ ih⟩

end Halting

/-! ## Where the reader stops -/

/-- Whether a reader stops for a limit. -/
def Stops {α : Type} (r : Except Halt α) : Prop :=
  ∃ e, r = .error e ∧ e.IsLimit

theorem Stops.of_eq_map
    {α β : Type}
    {r : Except Halt α}
    (h : Stops r)
    {q : Except Halt β}
    {f : α → β}
    (hq : q = r.map f) :
    Stops q := by
  obtain ⟨e, rfl, he⟩ := h
  exact ⟨e, hq, he⟩

theorem number_of_long
    {cs ds rest : List Char}
    (hwhole : wholeDigits? cs = some (ds, rest))
    (hfraction : (takeFraction rest).1 = [])
    (hexponent : (takeExponent rest).1 = none)
    (hlong : Decimal.digitLimit < ds.length)
    (start : List Char)
    (negative : Bool) :
    Stops (number start negative cs) := by
  have hrest := takeFraction_snd hfraction
  refine ⟨.tooManyDigits ds.length, ?_, trivial⟩
  simp only [number, hwhole, hfraction, hrest, hexponent]
  simp [hlong]

/-- The digits of a number begin with one. -/
theorem exists_digit_of_wholeDigits?
    {cs ds rest : List Char}
    (h : wholeDigits? cs = some (ds, rest)) :
    ∃ c more, cs = c :: more ∧ Decimal.isDigit c = true := by
  cases cs with
  | nil => cases h
  | cons c more =>
    refine ⟨c, more, rfl, ?_⟩
    simp only [wholeDigits?] at h
    by_cases hzero : c = '0'
    · subst hzero
      rfl
    · by_cases hdigit : Decimal.isDigit c = true
      · exact hdigit
      · simp [hzero, hdigit] at h

theorem stops_scalar
    {cs : List Char}
    (h : IsLongNumber cs) :
    (∃ c more, cs = c :: more ∧ IsScalarFirst c) ∧ Stops (scalar cs) := by
  obtain ⟨ds, rest, hwhole | ⟨more, rfl, hwhole⟩, hfraction, hexponent, hlong⟩ := h
  · obtain ⟨c, more, rfl, hdigit⟩ := exists_digit_of_wholeDigits? hwhole
    have hminus : c ≠ '-' := by
      rintro rfl
      cases hdigit
    refine ⟨⟨c, more, rfl, .inr hdigit⟩, ?_⟩
    have hstops := number_of_long hwhole hfraction hexponent hlong (c :: more) false
    unfold scalar
    rw [word?_eq_none (not_mem_firstLetters hdigit)]
    dsimp only
    split
    · next he => exact absurd (List.cons.inj he).1 hminus
    · exact hstops
  · obtain ⟨c, more, rfl, hdigit⟩ := exists_digit_of_wholeDigits? hwhole
    refine ⟨⟨'-', c :: more, rfl, .inl (by decide)⟩, ?_⟩
    have hstops := number_of_long hwhole hfraction hexponent hlong ('-' :: c :: more) true
    unfold scalar
    rw [word?_minus hdigit]
    exact hstops

/-- What goes beyond a limit begins like a value. -/
theorem Exceeds.exists_first
    {deep : Nat}
    {cs : List Char}
    (h : Exceeds deep cs) :
    ∃ c more, cs = c :: more ∧ IsFirst c := by
  rcases h with ⟨-, c, more, rfl, hc⟩ | hlong
  · refine ⟨c, more, rfl, ?_⟩
    simp only [isOpening, Bool.or_eq_true, beq_iff_eq] at hc
    rcases hc with rfl | rfl <;> decide
  · obtain ⟨⟨c, more, rfl, hc⟩, -⟩ := stops_scalar hlong
    exact ⟨c, more, rfl, hc.isFirst⟩

theorem Reaches.exists_first
    {depth deep : Nat}
    {slot : Slot}
    {cs inner : List Char}
    (h : Reaches deep inner depth slot cs)
    (hinner : ∃ c more, inner = c :: more ∧ IsFirst c) :
    ∃ c more, cs = c :: more ∧ IsFirst c := by
  induction h with
  | here => exact hinner
  | list | object | entry => exact ⟨_, _, rfl, by decide⟩
  | item _ ih => exact ih
  | nextItem _ _ value _ _ => exact value.exists_first
  | nextEntry _ _ entry _ _ => exact entry.exists_first

/-- Whether the readers stop for a limit in a slot. -/
def SlotStops (fuel depth : Nat) (cs : List Char) : Slot → Prop
  | .value => Stops (value fuel depth cs)
  | .items => Stops (items (fuel + 1) depth cs)
  | .entries => Stops (entries (fuel + 1) depth cs)

/-- The readers stop where they come to a value that goes beyond a limit. -/
theorem Reaches.stops
    {depth deep : Nat}
    {slot : Slot}
    {cs inner : List Char}
    (h : Reaches deep inner depth slot cs)
    (hexceeds : Exceeds deep inner)
    {fuel : Nat}
    (hfuel : 2 * cs.length ≤ fuel) :
    SlotStops fuel depth cs slot := by
  have hfirst {depth : Nat} {slot : Slot} {cs : List Char}
      (h : Reaches deep inner depth slot cs) : ∃ c more, cs = c :: more ∧ IsFirst c :=
    h.exists_first hexceeds.exists_first
  have hskip {depth : Nat} {slot : Slot} {s cs : List Char} (hs : IsBlank s)
      (h : Reaches deep inner depth slot cs) : skip (s ++ cs) = cs := by
    obtain ⟨c, more, rfl, hc⟩ := hfirst h
    exact skip_blank_cons hs hc.1 more
  induction h generalizing fuel with
  | here =>
    obtain ⟨c, more, rfl, -⟩ := hexceeds.exists_first
    obtain ⟨fuel, rfl⟩ : ∃ n, fuel = n + 1 := ⟨fuel - 1, by simp at hfuel; omega⟩
    rcases hexceeds with ⟨hdeep, c, more, hcs, hc⟩ | hlong
    · cases hcs
      simp only [isOpening, Bool.or_eq_true, beq_iff_eq] at hc
      rcases hc with rfl | rfl
      · exact ⟨.tooDeep false, by simp [value, hdeep], trivial⟩
      · exact ⟨.tooDeep true, by simp [value, hdeep], trivial⟩
    · obtain ⟨⟨c, more, hcs, hc⟩, hstops⟩ := stops_scalar hlong
      cases hcs
      show Stops (value (fuel + 1) deep (c :: more))
      rw [value_scalar hc]
      exact hstops
  | @list depth s cs room blank hitems ih =>
    simp only [List.length_cons, List.length_append] at hfuel
    obtain ⟨fuel, rfl⟩ : ∃ n, fuel = n + 2 := ⟨fuel - 2, by omega⟩
    have hstops : Stops (items (fuel + 1) (depth + 1) cs) :=
      ih (by omega)
    have hvalue := value_list_blank (fuel + 1) room blank (hfirst hitems)
    exact hstops.of_eq_map hvalue
  | @object depth s cs room blank hentries ih =>
    simp only [List.length_cons, List.length_append] at hfuel
    obtain ⟨fuel, rfl⟩ : ∃ n, fuel = n + 2 := ⟨fuel - 2, by omega⟩
    have hstops : Stops (entries (fuel + 1) (depth + 1) cs) :=
      ih (by omega)
    have hvalue := value_map_blank (fuel + 1) room blank (hfirst hentries)
    exact hstops.of_eq_map hvalue
  | item _ ih =>
    obtain ⟨e, hread, he⟩ := ih hfuel
    exact ⟨e, items_error hread, he⟩
  | @nextItem depth cs s t more d before behind hvalue hitems ih =>
    have hlength := hvalue.suffix.length_le
    simp only [List.length_append, List.length_cons] at hlength
    obtain ⟨fuel, rfl⟩ : ∃ n, fuel = n + 1 := ⟨fuel - 1, by omega⟩
    have hstops : Stops (items (fuel + 1) depth more) := ih (by omega)
    have hnext := items_next_blank (hvalue.isRead hfuel) before (hskip behind hitems)
    exact hstops.of_eq_map hnext
  | @entry depth inside s t cs codes literal before behind hvalue ih =>
    have hlength : 2 * cs.length ≤ fuel := by
      simp at hfuel
      omega
    obtain ⟨e, hread, he⟩ := ih hlength
    have hkey := string_of_literal literal (s ++ ':' :: (t ++ cs))
    have hcolon := skip_blank_cons before (by decide : isSpace ':' = false) (t ++ cs)
    rw [← hskip behind hvalue] at hread
    refine ⟨e, ?_, he⟩
    simp only [entries, hkey, hcolon, hread]
  | @nextEntry depth cs s t more e before behind hentry hentries ih =>
    have hlength := hentry.suffix.length_le
    simp only [List.length_append, List.length_cons] at hlength
    obtain ⟨fuel, rfl⟩ : ∃ n, fuel = n + 1 := ⟨fuel - 1, by omega⟩
    have hstops : Stops (entries (fuel + 1) depth more) := ih (by omega)
    have hnext := entries_next_blank (hentry.isRead hfuel) before (hskip behind hentries)
    exact hstops.of_eq_map hnext

/-! ## Whole texts -/

/-- Reading a whole text stops for a limit just when it comes to a value that goes beyond one. -/
theorem whole_stops_iff
    {cs : List Char} :
    Stops (whole cs) ↔ IsExcessive cs := by
  constructor
  · rintro ⟨e, h, hlimit⟩
    unfold whole at h
    split at h
    · cases h
      exact hlimit.elim
    split at h
    · next hvalue =>
      cases h
      obtain ⟨s, hs, hcs⟩ := exists_blank cs
      exact ⟨s, skip cs, hs, hcs, (halting _).value hvalue hlimit⟩
    · split at h
      · cases h
      · cases h
        exact hlimit.elim
  · rintro ⟨s, more, hs, rfl, deep, inner, hreaches, hexceeds⟩
    have hfirst := hreaches.exists_first hexceeds.exists_first
    have hvalue : Stops (value (2 * (s ++ more).length + 2) 0 more) :=
      hreaches.stops hexceeds (by rw [List.length_append]; omega)
    obtain ⟨c, tail, rfl, hc⟩ := hfirst
    obtain ⟨e, hread, he⟩ := hvalue
    refine ⟨e, ?_, he⟩
    rw [whole, if_neg (head?_ne_mark hs hc tail), skip_blank_cons hs hc.1, hread]

theorem limit_iff_stops
    {cs : List Char} :
    (∃ fault, read cs = .error fault ∧ ∀ lapse place, fault ≠ .malformed lapse place) ↔
      Stops (whole cs) := by
  constructor
  · rintro ⟨fault, hread, hlimit⟩
    obtain ⟨e, hwhole, rfl⟩ := whole_of_read hread
    cases e with
    | stuck lapse rest => exact absurd rfl (hlimit _ _)
    | tooDeep b => exact ⟨_, hwhole, trivial⟩
    | tooManyDigits n => exact ⟨_, hwhole, trivial⟩
  · rintro ⟨e, hwhole, hlimit⟩
    refine ⟨e.fault cs, by rw [read, hwhole]; rfl, ?_⟩
    cases e with
    | stuck lapse rest => exact hlimit.elim
    | tooDeep b => simp [Halt.fault]
    | tooManyDigits n => simp [Halt.fault]

/-- A text goes beyond a limit of the reader just when it is excessive. -/
theorem limit_iff_isExcessive
    {cs : List Char} :
    (∃ fault, read cs = .error fault ∧ ∀ lapse place, fault ≠ .malformed lapse place) ↔
      IsExcessive cs :=
  limit_iff_stops.trans whole_stops_iff

end Json
end Rebalance
