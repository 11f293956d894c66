import Rebalance.Proofs.Text.Codes
import Rebalance.Proofs.Time.Valid

/-!
# Moments that are read from their stored form

* `readDate_dateText`, `readMicro?_microText`, `readZone?_zoneText`: each piece of a stored moment
  is read in front of what follows it.
* `readMoment_text`: a moment that exists is read from its stored form.
* `hasSurrogate_text`: the stored form of a moment is made of ASCII characters.
-/

namespace Rebalance
namespace Time

open Decimal

/-! ## Numbers of a fixed width -/

theorem fixed?_filled
    {size n : Nat}
    (hsize : 0 < size)
    (h : n < 10 ^ size)
    (rest : List Char) :
    fixed? size (filled size n ++ rest) = some (n, rest) := by
  have hlength := length_filled hsize h
  have hdigits : (filled size n).all isDigit = true :=
    List.all_eq_true.mpr fun _ hc => isDigit_of_mem_filled hc
  unfold fixed?
  rw [List.take_left' hlength, List.drop_left' hlength]
  simp only [hlength, hdigits, and_self, if_true, valueOf_filled]

theorem length_le_utf8ByteSize
    (cs : List Char) :
    cs.length ≤ (String.ofList cs).utf8ByteSize := by
  induction cs with
  | nil => simp
  | cons c cs ih =>
    have hpos := Char.utf8Size_pos c
    rw [String.ofList_cons, String.utf8ByteSize_append, String.utf8ByteSize_singleton,
      List.length_cons]
    omega

/-! ## Dates -/

theorem length_dateText
    {t : Moment}
    (h : t.Valid) :
    t.dateText.length = 10 := by
  have hmonth := h.date.inYear
  have hday := h.date.inMonth
  have hyear := h.year
  have hdays := daysIn_le t.year t.month
  simp only [Moment.dateText, List.length_append, List.length_cons]
  rw [length_filled (by decide) (by omega), length_filled (by decide) (by omega),
    length_filled (by decide) (by omega)]

theorem readDate_dateText
    {t : Moment}
    (h : t.Valid)
    (rest : List Char) :
    readDate (t.dateText ++ rest) = .ok ((t.year, t.month, t.day), rest) := by
  have hmonth := h.date.inYear
  have hday := h.date.inMonth
  have hyear := h.year
  have hdays := daysIn_le t.year t.month
  have hbytes : ¬ (String.ofList (t.dateText ++ rest)).utf8ByteSize < 10 := by
    have hlength := length_le_utf8ByteSize (t.dateText ++ rest)
    rw [List.length_append, length_dateText h] at hlength
    omega
  unfold readDate
  rw [if_neg hbytes]
  simp only [Moment.dateText, List.append_assoc, List.cons_append]
  rw [fixed?_filled (by decide) (by omega)]
  dsimp only
  rw [if_neg (by simp), List.drop_one, List.tail_cons, fixed?_filled (by decide) (by omega)]
  dsimp only
  rw [if_neg (by simp), List.drop_one, List.tail_cons, fixed?_filled (by decide) (by omega)]
  dsimp only
  rw [if_neg (by omega), if_neg (by omega)]

/-! ## Zones -/

theorem readOffset?_filled
    {size : Nat}
    (h : size < 1440)
    (negative : Bool) :
    readOffset? negative (filled 2 (size / 60) ++ ':' :: filled 2 (size % 60))
      = some (if negative then -(size : Int) else size) := by
  have hbound : size % 60 < 10 ^ 2 := by omega
  have hminutes : fixed? 2 (filled 2 (size % 60)) = some (size % 60, []) := by
    have hfixed := fixed?_filled (by decide) hbound []
    rwa [List.append_nil] at hfixed
  have hsum : ((size / 60 : Nat) : Int) * 60 + ((size % 60 : Nat) : Int) = size := by omega
  have hhours : size / 60 < 24 := by omega
  have hminute : size % 60 < 60 := by omega
  unfold readOffset?
  rw [fixed?_filled (by decide) (by omega)]
  simp only [Option.bind_eq_bind, Option.bind_some, List.head?_cons, if_true, List.drop_one,
    List.tail_cons, hminutes, List.isEmpty_nil, hhours, hminute, and_self, hsum]
  rfl

/-- The zone of a stored moment is read up to the end. -/
theorem readZone?_zoneText
    {zone : Option Int}
    (h : ∀ o ∈ zone, o.natAbs < 1440) :
    readZone? (zoneText zone) = some zone := by
  cases zone with
  | none => rfl
  | some o =>
    have hsize : o.natAbs < 1440 := h o rfl
    by_cases hzero : o = 0
    · subst hzero
      rfl
    · have htext : zoneText (some o) = offsetText o := by
        unfold zoneText
        split <;> simp_all
      rw [htext, offsetText]
      by_cases hnegative : o < 0
      · have hvalue : -(o.natAbs : Int) = o := by omega
        rw [if_pos hnegative]
        show (readOffset? true _).map some = _
        rw [readOffset?_filled hsize, if_pos rfl, hvalue]
        rfl
      · have hvalue : (o.natAbs : Int) = o := by omega
        rw [if_neg hnegative]
        show (readOffset? false _).map some = _
        rw [readOffset?_filled hsize, if_neg Bool.false_ne_true, hvalue]
        rfl

/-- What a zone begins with is neither a digit nor the mark of a fraction. -/
theorem not_isDigit_of_zoneText
    {zone : Option Int}
    {c : Char}
    {rest : List Char}
    (h : zoneText zone = c :: rest) :
    isDigit c = false ∧ c ≠ '.' ∧ c ≠ ',' := by
  unfold zoneText at h
  split at h
  · cases h
  · cases h
    decide
  · cases h
    split <;> decide

/-! ## Fractions of a second -/

/-- The fraction of a second in a stored moment. -/
def microText (micro : Nat) : List Char :=
  if micro = 0 then [] else '.' :: filled 6 micro

/-- The fraction of a second is read in front of a zone. -/
theorem readMicro?_microText
    {micro : Nat}
    (h : micro < 1000000)
    (zone : Option Int) :
    readMicro? (microText micro ++ zoneText zone) = some (micro, zoneText zone) := by
  by_cases hzero : micro = 0
  · subst hzero
    cases hzone : zoneText zone with
    | nil => rfl
    | cons c rest =>
      have hhead : isDigit c = false ∧ c ≠ '.' ∧ c ≠ ',' := not_isDigit_of_zoneText hzone
      simp only [microText, if_true, List.nil_append, readMicro?, hhead, or_self, if_false]
  · have hdigits : ∀ c ∈ filled 6 micro, isDigit c = true := fun _ hc => isDigit_of_mem_filled hc
    have hzone : (zoneText zone).takeWhile isDigit = [] ∧
        (zoneText zone).dropWhile isDigit = zoneText zone := by
      cases hzone : zoneText zone with
      | nil => simp
      | cons c rest =>
        simp [(not_isDigit_of_zoneText hzone).1]
    have hlength : (filled 6 micro).length = 6 := length_filled (by decide) h
    have htake : (filled 6 micro).take 6 = filled 6 micro := List.take_of_length_le (by omega)
    have hne : (filled 6 micro).isEmpty = false := by
      rw [List.isEmpty_eq_false_iff_exists_mem]
      exact List.exists_mem_of_length_pos (by omega)
    simp only [microText, if_neg hzero, List.cons_append, readMicro?, true_or, if_true,
      List.takeWhile_append_of_pos hdigits, List.dropWhile_append_of_pos hdigits, hzone.1, hzone.2,
      List.append_nil, hne, htake, hlength, valueOf_filled]
    simp

/-! ## Moments -/

theorem text_eq
    (t : Moment) :
    t.text = t.dateText ++ 'T' :: (filled 2 t.hour ++ ':' :: (filled 2 t.minute
      ++ ':' :: (filled 2 t.second ++ (microText t.micro ++ zoneText t.offset)))) :=
  rfl

theorem readFull?_text
    {t : Moment}
    (h : t.Valid) :
    readFull? t.text = some t := by
  have hhour := h.hour
  have hminute := h.minute
  have hsecond := h.second
  unfold readFull?
  rw [text_eq, readDate_dateText h]
  simp only [true_or, if_true]
  unfold readClock?
  rw [fixed?_filled (by decide) (by omega)]
  simp only [Option.bind_eq_bind, Option.bind_some, List.head?_cons, ne_eq, not_true, if_false,
    List.drop_one, List.tail_cons]
  rw [fixed?_filled (by decide) (by omega)]
  simp only [Option.bind_some, List.head?_cons, if_true, List.tail_cons]
  rw [if_neg (by omega), fixed?_filled (by decide) (by omega)]
  simp only [Option.bind_some, readMicro?_microText h.micro, Option.pure_def]
  rw [if_neg (by omega), readZone?_zoneText h.offset]
  rfl

/-- A moment that exists is read from its stored form. -/
theorem readMoment_text
    {t : Moment}
    (h : t.Valid) :
    readMoment (String.ofList t.text) = .ok t := by
  have hyear : t.year ≠ 0 := by
    have hpos := h.year
    omega
  unfold readMoment
  simp only [String.toList_ofList, readFull?_text h, checkYear, if_neg hyear]

/-! ## Characters -/

theorem low_of_mem_zoneText
    {zone : Option Int}
    {c : Char}
    (h : c ∈ zoneText zone) :
    c.toNat < 0x80 ∧ c ≠ '\r' := by
  unfold zoneText at h
  split at h
  · cases h
  · rw [List.mem_singleton.mp h]
    decide
  · simp only [offsetText, List.mem_cons, List.mem_append] at h
    rcases h with rfl | h | rfl | h
    · split <;> decide
    · exact low_of_isDigit (isDigit_of_mem_filled h)
    · decide
    · exact low_of_isDigit (isDigit_of_mem_filled h)

theorem low_of_mem_text
    (t : Moment) :
    ∀ c ∈ t.text, c.toNat < 0x80 ∧ c ≠ '\r' := by
  have hdigits {size n : Nat} : ∀ c ∈ filled size n, c.toNat < 0x80 ∧ c ≠ '\r' :=
    fun _ hc => low_of_isDigit (isDigit_of_mem_filled hc)
  have hmicro : ∀ c ∈ microText t.micro, c.toNat < 0x80 ∧ c ≠ '\r' := by
    unfold microText
    split
    · exact List.forall_mem_nil _
    · exact List.forall_mem_cons.mpr ⟨by decide, hdigits⟩
  simp only [text_eq, Moment.dateText, List.forall_mem_append, List.forall_mem_cons]
  exact ⟨⟨hdigits, by decide, hdigits, by decide, hdigits⟩, by decide, hdigits, by decide,
    hdigits, by decide, hdigits, hmicro, fun _ hc => low_of_mem_zoneText hc⟩

/-- The stored form of a moment is made of ASCII characters. -/
theorem hasSurrogate_text
    (t : Moment) :
    Text.hasSurrogate (String.ofList t.text) = false := by
  have hplain : Text.IsPlain (t.text ++ []) :=
    Text.isPlain_append (low_of_mem_text t) Text.isPlain_nil
  rw [List.append_nil] at hplain
  simp only [Text.hasSurrogate, Text.codes, String.toList_ofList, List.any_eq_false]
  intro code hcode
  rw [(hplain code hcode).1]
  exact Bool.false_ne_true

end Time
end Rebalance
