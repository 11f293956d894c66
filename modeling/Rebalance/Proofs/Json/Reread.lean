import Rebalance.Proofs.Json.Numerals

/-!
# What the text of a document is read as

* `HasForm`: a document whose kinds of values have a JSON form.
* `reread`: what the text of a value is read as.  Doubles that are not finite are gone, and a whole
  number with too many digits stops the reader.
* `Legible` with one rule for each kind of value: whether the text is read at all.
* `exists_tooManyDigits`: a text that is not read holds a number with too many digits.
-/

namespace Rebalance
namespace Json

/-- An entry of a map with a text for its key. -/
def textEntry (e : String × Data) : Data × Data :=
  (.text e.1, e.2)

/-- Whether a document has a JSON form, with containers at most `room` deep: it holds truth values,
numbers, texts, lists, and maps whose keys are pairwise different texts. -/
inductive HasForm : (room : Nat) → Data → Prop
  | bool
    {room : Nat}
    (b : Bool) :
    HasForm room (.bool b)
  | int
    {room : Nat}
    (n : Int) :
    HasForm room (.int n)
  | float
    {room : Nat}
    (x : Float) :
    HasForm room (.float x)
  | text
    {room : Nat}
    (s : String) :
    HasForm room (.text s)
  | list
    {room : Nat}
    {ds : List Data}
    (items : ∀ d ∈ ds, HasForm room d) :
    HasForm (room + 1) (.list ds)
  | map
    {room : Nat}
    {es : List (String × Data)}
    (distinct : (es.map Prod.fst).Nodup)
    (values : ∀ e ∈ es, HasForm room e.2) :
    HasForm (room + 1) (.map (es.map textEntry))

/-! ## What a text is read as -/

/-- The double that the numeral of a double is read as, if it has one. -/
def rereadFloat? (x : Float) : Option Float :=
  (Decimal.storedText? x).bind fun cs =>
    match scalar cs with
    | .ok (.float y, _) => some y
    | _ => none

/-- What the text of a double is read as: a double of its own, or nothing. -/
def rereadFloat (x : Float) : Data :=
  match rereadFloat? x with
  | some y => .float y
  | none => .null

mutual

/-- What the text of a value is read as. -/
def reread : Data → Except Halt Data
  | .int n =>
    if Decimal.digitLimit < Decimal.width n.natAbs then
      .error (.tooManyDigits (Decimal.width n.natAbs))
    else .ok (.int n)
  | .float x => .ok (rereadFloat x)
  | .list ds => (rereadItems ds).map .list
  | .map es => (rereadEntries es).map .map
  | d => .ok d

/-- What the texts of some items are read as. -/
def rereadItems : List Data → Except Halt (List Data)
  | [] => .ok []
  | d :: ds =>
    match reread d with
    | .ok r => (rereadItems ds).map fun rs => r :: rs
    | .error e => .error e

/-- What the texts of some entries are read as. -/
def rereadEntries : List (Data × Data) → Except Halt (List (Data × Data))
  | [] => .ok []
  | (k, v) :: es =>
    match reread v with
    | .ok r => (rereadEntries es).map fun rs => (k, r) :: rs
    | .error e => .error e

end

/-- A double is read from its numeral, if it has one. -/
theorem rereadFloat?_of_stored
    {x : Float}
    {cs : List Char}
    (h : Decimal.storedText? x = some cs) :
    ∃ y, scalar cs = .ok (.float y, []) ∧ rereadFloat? x = some y := by
  obtain ⟨y, hread⟩ := scalar_storedText? h
  refine ⟨y, hread, ?_⟩
  rw [rereadFloat?, h, Option.bind_some, hread]

theorem rereadFloat?_eq_none_iff
    {x : Float} :
    rereadFloat? x = none ↔ Decimal.storedText? x = none := by
  constructor
  · intro h
    cases hstored : Decimal.storedText? x with
    | none => rfl
    | some cs =>
      obtain ⟨y, _, hy⟩ := rereadFloat?_of_stored hstored
      rw [hy] at h
      cases h
  · intro h
    rw [rereadFloat?, h]
    rfl

/-! ## Items and entries -/

theorem rereadItems_cons
    {d r : Data}
    (h : reread d = .ok r)
    (ds : List Data) :
    rereadItems (d :: ds) = (rereadItems ds).map fun rs => r :: rs := by
  rw [rereadItems, h]

theorem rereadItems_error
    {d : Data}
    {e : Halt}
    (h : reread d = .error e)
    (ds : List Data) :
    rereadItems (d :: ds) = .error e := by
  rw [rereadItems, h]

theorem rereadEntries_cons
    {e : String × Data}
    {r : Data}
    (h : reread e.2 = .ok r)
    (es : List (Data × Data)) :
    rereadEntries (textEntry e :: es)
      = (rereadEntries es).map fun rs => textEntry (e.1, r) :: rs := by
  rw [textEntry, rereadEntries, h]
  rfl

theorem rereadEntries_error
    {e : String × Data}
    {f : Halt}
    (h : reread e.2 = .error f)
    (es : List (Data × Data)) :
    rereadEntries (textEntry e :: es) = .error f := by
  rw [textEntry, rereadEntries, h]

/-- Items are read one by one. -/
theorem rereadItems_map
    {α : Type}
    {write result : α → Data}
    {xs : List α}
    (h : ∀ x ∈ xs, reread (write x) = .ok (result x)) :
    rereadItems (xs.map write) = .ok (xs.map result) := by
  induction xs with
  | nil => rfl
  | cons x xs ih =>
    rw [List.map_cons, rereadItems_cons (h x List.mem_cons_self),
      ih (fun y hy => h y (List.mem_cons_of_mem x hy))]
    rfl

theorem length_rereadItems
    {ds rs : List Data}
    (h : rereadItems ds = .ok rs) :
    rs.length = ds.length := by
  induction ds generalizing rs with
  | nil =>
    cases h
    rfl
  | cons d ds ih =>
    cases hd : reread d with
    | error f =>
      rw [rereadItems_error hd] at h
      cases h
    | ok r =>
      rw [rereadItems_cons hd] at h
      cases hds : rereadItems ds with
      | error f =>
        rw [hds] at h
        cases h
      | ok more =>
        rw [hds] at h
        cases h
        exact congrArg (· + 1) (ih hds)

/-- Entries are read as their values are, under the keys as they are. -/
theorem rereadEntries_eq
    (es : List (String × Data)) :
    rereadEntries (es.map textEntry) = (rereadItems (es.map Prod.snd)).map fun rs =>
      ((es.map Prod.fst).zip rs).map textEntry := by
  induction es with
  | nil => rfl
  | cons e es ih =>
    rw [List.map_cons, List.map_cons, List.map_cons]
    cases he : reread e.2 with
    | error f =>
      rw [rereadEntries_error he, rereadItems_error he]
      rfl
    | ok r =>
      rw [rereadEntries_cons he, rereadItems_cons he, ih]
      cases rereadItems (es.map Prod.snd) <;> rfl

theorem rereadItems_self_iff
    {ds : List Data} :
    rereadItems ds = .ok ds ↔ ∀ d ∈ ds, reread d = .ok d := by
  induction ds with
  | nil => exact ⟨fun _ => List.forall_mem_nil _, fun _ => rfl⟩
  | cons d ds ih =>
    rw [List.forall_mem_cons, ← ih]
    cases hd : reread d with
    | error f => simp [rereadItems_error hd]
    | ok r => cases hds : rereadItems ds <;> simp [rereadItems_cons hd, hds, Except.map]

/-- Entries are read as they are just when their values are. -/
theorem rereadEntries_self_iff
    {es : List (String × Data)} :
    rereadEntries (es.map textEntry) = .ok (es.map textEntry) ↔ ∀ e ∈ es, reread e.2 = .ok e.2 := by
  have hvalues : rereadItems (es.map Prod.snd) = .ok (es.map Prod.snd) ↔
      ∀ e ∈ es, reread e.2 = .ok e.2 := by
    rw [rereadItems_self_iff, List.forall_mem_map]
  rw [← hvalues, rereadEntries_eq]
  constructor
  · intro h
    cases hread : rereadItems (es.map Prod.snd) with
    | error f =>
      rw [hread] at h
      cases h
    | ok vs =>
      have hlength := length_rereadItems hread
      have hinjective : ∀ x y, textEntry x = textEntry y → x = y := by
        rintro ⟨k, v⟩ ⟨k', v'⟩ he
        cases he
        rfl
      rw [hread, Except.map] at h
      have hzip := (List.map_inj_right hinjective).mp (Except.ok.inj h)
      rw [List.length_map] at hlength
      have hsnd : ((es.map Prod.fst).zip vs).map Prod.snd = vs :=
        List.map_snd_zip (by simp [hlength])
      rw [← hsnd, hzip]
  · intro h
    rw [h, Except.map, List.zip_map', List.map_id']

theorem exists_of_rereadEntries
    {es : List (String × Data)}
    {rs : List (Data × Data)}
    (h : rereadEntries (es.map textEntry) = .ok rs) :
    ∃ fs : List (String × Data), rs = fs.map textEntry ∧ fs.map Prod.fst = es.map Prod.fst := by
  rw [rereadEntries_eq] at h
  cases hvalues : rereadItems (es.map Prod.snd) with
  | error f =>
    rw [hvalues] at h
    cases h
  | ok vs =>
    rw [hvalues] at h
    cases h
    have hlength := length_rereadItems hvalues
    rw [List.length_map] at hlength
    exact ⟨_, rfl, List.map_fst_zip (by simp [hlength])⟩

/-! ## When a text is read -/

/-- Whether the text of a value is read at all. -/
def Legible (d : Data) : Prop :=
  ∃ r, reread d = .ok r

theorem legible_bool
    (b : Bool) :
    Legible (.bool b) :=
  ⟨_, rfl⟩

theorem legible_text
    (s : String) :
    Legible (.text s) :=
  ⟨_, rfl⟩

theorem legible_float
    (x : Float) :
    Legible (.float x) :=
  ⟨_, rfl⟩

theorem reread_int
    {n : Int}
    (h : Decimal.width n.natAbs ≤ Decimal.digitLimit) :
    reread (.int n) = .ok (.int n) :=
  if_neg (Nat.not_lt.mpr h)

theorem legible_int_iff
    {n : Int} :
    Legible (.int n) ↔ Decimal.width n.natAbs ≤ Decimal.digitLimit := by
  refine ⟨?_, fun h => ⟨_, reread_int h⟩⟩
  rintro ⟨r, h⟩
  rw [reread] at h
  split at h
  · cases h
  · next hlimit => exact Nat.not_lt.mp hlimit

theorem exists_rereadItems_iff
    {ds : List Data} :
    (∃ rs, rereadItems ds = .ok rs) ↔ ∀ d ∈ ds, Legible d := by
  induction ds with
  | nil => exact ⟨fun _ => List.forall_mem_nil _, fun _ => ⟨[], rfl⟩⟩
  | cons d ds ih =>
    rw [List.forall_mem_cons, ← ih]
    cases hd : reread d with
    | error e => simp [rereadItems_error hd, Legible, hd]
    | ok r =>
      cases hds : rereadItems ds <;> simp [rereadItems_cons hd, Legible, hd, hds, Except.map]

theorem legible_list_iff
    {ds : List Data} :
    Legible (.list ds) ↔ ∀ d ∈ ds, Legible d := by
  rw [← exists_rereadItems_iff, Legible, reread]
  cases rereadItems ds <;> simp [Except.map]

theorem legible_map_iff
    {es : List (String × Data)} :
    Legible (.map (es.map textEntry)) ↔ ∀ e ∈ es, Legible e.2 := by
  rw [← List.forall_mem_map (f := Prod.snd) (P := Legible), ← exists_rereadItems_iff, Legible,
    reread, rereadEntries_eq]
  cases rereadItems (es.map Prod.snd) <;> simp [Except.map]

theorem exists_error_item
    {ds : List Data}
    {f : Halt}
    (h : rereadItems ds = .error f) :
    ∃ d ∈ ds, reread d = .error f := by
  induction ds with
  | nil => cases h
  | cons d ds ih =>
    cases hd : reread d with
    | error g =>
      rw [rereadItems_error hd] at h
      cases h
      exact ⟨d, List.mem_cons_self, hd⟩
    | ok r =>
      rw [rereadItems_cons hd] at h
      cases hds : rereadItems ds with
      | error g =>
        rw [hds] at h
        cases h
        obtain ⟨x, hx, hread⟩ := ih hds
        exact ⟨x, List.mem_cons_of_mem d hx, hread⟩
      | ok rs =>
        rw [hds] at h
        cases h

/-- A text is not read only when it holds a number with too many digits. -/
theorem exists_tooManyDigits
    {room : Nat}
    {d : Data}
    (hform : HasForm room d)
    {f : Halt}
    (h : reread d = .error f) :
    ∃ count, Decimal.digitLimit < count ∧ f = .tooManyDigits count := by
  induction hform with
  | bool b => cases h
  | int n =>
    rw [reread] at h
    split at h
    · next hlimit =>
      cases h
      exact ⟨_, hlimit, rfl⟩
    · cases h
  | float x => cases h
  | text s => cases h
  | @list room ds items ih =>
    rw [reread] at h
    cases hds : rereadItems ds with
    | error g =>
      rw [hds] at h
      cases h
      obtain ⟨d, hd, hread⟩ := exists_error_item hds
      exact ih d hd hread
    | ok rs =>
      rw [hds] at h
      cases h
  | @map room es distinct values ih =>
    rw [reread, rereadEntries_eq] at h
    cases hvalues : rereadItems (es.map Prod.snd) with
    | error g =>
      rw [hvalues] at h
      cases h
      obtain ⟨d, hd, hread⟩ := exists_error_item hvalues
      obtain ⟨e, he, rfl⟩ := List.mem_map.mp hd
      exact ih e he hread
    | ok rs =>
      rw [hvalues] at h
      cases h

end Json
end Rebalance
