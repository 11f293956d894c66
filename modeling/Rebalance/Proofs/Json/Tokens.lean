import Mathlib.Data.List.TakeWhile
import Rebalance.Json.Reader
import Rebalance.Json.Writer
import Rebalance.Proofs.Decimal.Digits
import Rebalance.Proofs.Text.Codes

/-!
# Words, numbers and strings of JSON texts

* `scalar_append`: a word or number that is read from a text is read from it whatever ends it.
* `scalar_intText`: the text of a whole number is read as that number, or has too many digits.
* `string_writeText`: a written string is read as the text it was written for.
-/

namespace Rebalance
namespace Json

/-- Whether a text lets the value in front of it end: it is empty, or begins with a comma or a new
line. -/
def Ends : List Char → Prop
  | [] => True
  | c :: _ => c = ',' ∨ c = '\n'

/-! ## Words -/

theorem after?_append
    {word : List Char}
    (hword : ',' ∉ word ∧ '\n' ∉ word)
    (cs : List Char)
    {rest : List Char}
    (h : Ends rest) :
    after? word (cs ++ rest) = (after? word cs).map fun r => r ++ rest := by
  induction word generalizing cs with
  | nil => rfl
  | cons w word ih =>
    obtain ⟨hcomma, hline⟩ := hword
    rw [List.mem_cons, not_or] at hcomma hline
    cases cs with
    | nil =>
      cases rest with
      | nil => rfl
      | cons c rest =>
        have hw : w ≠ c := by
          rcases h with rfl | rfl
          · exact Ne.symm hcomma.1
          · exact Ne.symm hline.1
        rw [List.nil_append, after?, if_neg hw]
        rfl
    | cons c cs =>
      rw [List.cons_append, after?, after?]
      split
      · exact ih ⟨hcomma.2, hline.2⟩ cs
      · rfl

theorem word?_append
    (cs : List Char)
    {rest : List Char}
    (h : Ends rest) :
    word? (cs ++ rest) = (word? cs).map fun r => (r.1, r.2 ++ rest) := by
  have hwords : ∀ p ∈ words, ',' ∉ p.1 ∧ '\n' ∉ p.1 := by
    intro p hp
    simp only [words, List.mem_cons, List.not_mem_nil, or_false] at hp
    rcases hp with rfl | rfl | rfl | rfl | rfl | rfl <;> decide
  unfold word?
  generalize words = ps at hwords
  induction ps with
  | nil => rfl
  | cons p ps ih =>
    obtain ⟨w, d⟩ := p
    rw [List.findSome?_cons, List.findSome?_cons]
    dsimp only
    rw [after?_append (hwords (w, d) List.mem_cons_self) cs h]
    cases after? w cs with
    | none => exact ih fun q hq => hwords q (List.mem_cons_of_mem (w, d) hq)
    | some r => rfl

/-! ## Numbers -/

theorem not_isDigit_of_ends
    {c : Char}
    {rest : List Char}
    (h : Ends (c :: rest)) :
    Decimal.isDigit c = false := by
  rcases h with rfl | rfl <;> rfl

theorem takeWhile_append
    (ds : List Char)
    {rest : List Char}
    (h : Ends rest) :
    (ds ++ rest).takeWhile Decimal.isDigit = ds.takeWhile Decimal.isDigit := by
  induction ds with
  | nil =>
    cases rest with
    | nil => rfl
    | cons c rest => exact List.takeWhile_cons_of_neg (by simp [not_isDigit_of_ends h])
  | cons d ds ih =>
    rw [List.cons_append, List.takeWhile_cons, List.takeWhile_cons, ih]

theorem dropWhile_append
    (ds : List Char)
    {rest : List Char}
    (h : Ends rest) :
    (ds ++ rest).dropWhile Decimal.isDigit = ds.dropWhile Decimal.isDigit ++ rest := by
  induction ds with
  | nil =>
    cases rest with
    | nil => rfl
    | cons c rest => exact List.dropWhile_cons_of_neg (by simp [not_isDigit_of_ends h])
  | cons d ds ih =>
    rw [List.cons_append, List.dropWhile_cons, List.dropWhile_cons, ih]
    split <;> rfl

theorem wholeDigits?_append
    {cs ds r : List Char}
    (hread : wholeDigits? cs = some (ds, r))
    {rest : List Char}
    (h : Ends rest) :
    wholeDigits? (cs ++ rest) = some (ds, r ++ rest) := by
  cases cs with
  | nil => cases hread
  | cons c cs =>
    rw [List.cons_append, wholeDigits?, takeWhile_append cs h, dropWhile_append cs h]
    rw [wholeDigits?] at hread
    split at hread
    · next hzero =>
      rw [if_pos hzero]
      cases hread
      rfl
    · next hzero =>
      rw [if_neg hzero]
      split at hread
      · next hdigit =>
        rw [if_pos hdigit]
        cases hread
        rfl
      · cases hread

theorem takeFraction_append
    (cs : List Char)
    {rest : List Char}
    (h : Ends rest) :
    takeFraction (cs ++ rest) = ((takeFraction cs).1, (takeFraction cs).2 ++ rest) := by
  cases cs with
  | nil =>
    cases rest with
    | nil => rfl
    | cons c rest => rcases h with rfl | rfl <;> rfl
  | cons c cs =>
    by_cases hc : c = '.'
    · subst hc
      rw [List.cons_append]
      simp only [takeFraction, takeWhile_append cs h, dropWhile_append cs h]
      split <;> rfl
    · rw [List.cons_append]
      simp [takeFraction, hc]

theorem takeSign_append
    (cs : List Char)
    {rest : List Char}
    (h : Ends rest) :
    Decimal.takeSign (cs ++ rest) = ((Decimal.takeSign cs).1, (Decimal.takeSign cs).2 ++ rest) := by
  cases cs with
  | nil =>
    cases rest with
    | nil => rfl
    | cons c rest => rcases h with rfl | rfl <;> rfl
  | cons c cs =>
    by_cases hminus : c = '-'
    · subst hminus
      rfl
    · by_cases hplus : c = '+'
      · subst hplus
        rfl
      · simp [Decimal.takeSign, hminus, hplus]

theorem takeExponent_append
    (cs : List Char)
    {rest : List Char}
    (h : Ends rest) :
    takeExponent (cs ++ rest) = ((takeExponent cs).1, (takeExponent cs).2 ++ rest) := by
  cases cs with
  | nil =>
    cases rest with
    | nil => rfl
    | cons c rest => rcases h with rfl | rfl <;> rfl
  | cons c cs =>
    rw [List.cons_append]
    simp only [takeExponent, takeSign_append cs h, takeWhile_append _ h, dropWhile_append _ h]
    split
    · split <;> rfl
    · rfl

theorem number_append
    {start : List Char}
    {negative : Bool}
    {cs : List Char}
    {d : Data}
    {r : List Char}
    (hread : number start negative cs = .ok (d, r))
    {rest : List Char}
    (h : Ends rest)
    (start' : List Char) :
    number start' negative (cs ++ rest) = .ok (d, r ++ rest) := by
  unfold number at hread ⊢
  cases hwhole : wholeDigits? cs with
  | none => simp [hwhole] at hread
  | some w =>
    obtain ⟨whole, more⟩ := w
    rw [wholeDigits?_append hwhole h]
    rw [hwhole] at hread
    simp only [takeFraction_append more h, takeExponent_append _ h] at hread ⊢
    split at hread
    · next hint =>
      rw [if_pos hint]
      split at hread
      · cases hread
      · next hlimit =>
        rw [if_neg hlimit]
        cases hread
        rfl
    · next hint =>
      rw [if_neg hint]
      cases hread
      rfl

/-- A word or number that is read from a text is read from it whatever ends it. -/
theorem scalar_append
    {cs : List Char}
    {d : Data}
    {r : List Char}
    (hread : scalar cs = .ok (d, r))
    {rest : List Char}
    (h : Ends rest) :
    scalar (cs ++ rest) = .ok (d, r ++ rest) := by
  unfold scalar at hread ⊢
  rw [word?_append cs h]
  cases hword : word? cs with
  | some w =>
    rw [hword] at hread
    cases hread
    rfl
  | none =>
    rw [hword] at hread
    cases cs with
    | nil => cases hread
    | cons c cs =>
      by_cases hc : c = '-'
      · subst hc
        exact number_append hread h _
      · simp only [Option.map_none, List.cons_append] at hread ⊢
        split at hread
        · next he => exact absurd (List.cons.inj he).1 hc
        · split
          · next he => exact absurd (List.cons.inj he).1 hc
          · exact number_append hread h _

/-- The first letters of the words. -/
def firstLetters : List Char :=
  ['n', 't', 'f', 'N', 'I', '-']

theorem word?_eq_none
    {c : Char}
    (h : c ∉ firstLetters)
    (cs : List Char) :
    word? (c :: cs) = none := by
  have hne (w : Char) (hw : w ∈ ['n', 't', 'f', 'N', 'I', '-']) : w ≠ c := by
    rintro rfl
    exact h hw
  simp [word?, words, after?, hne]

theorem not_mem_firstLetters
    {c : Char}
    (h : Decimal.isDigit c = true) :
    c ∉ firstLetters := by
  intro hmem
  simp only [firstLetters, List.mem_cons, List.not_mem_nil, or_false] at hmem
  rcases hmem with rfl | rfl | rfl | rfl | rfl | rfl <;> exact Bool.false_ne_true h

theorem word?_minus
    {c : Char}
    (h : Decimal.isDigit c = true)
    (cs : List Char) :
    word? ('-' :: c :: cs) = none := by
  have hne : 'I' ≠ c := by
    rintro rfl
    exact Bool.false_ne_true h
  simp [word?, words, after?, hne]

theorem scalar_bool
    (b : Bool) :
    scalar (if b then "true".toList else "false".toList) = .ok (.bool b, []) := by
  cases b <;> rfl

theorem wholeDigits?_digits
    (m : Nat) :
    wholeDigits? (Decimal.digits m) = some (Decimal.digits m, []) := by
  by_cases hm : m = 0
  · subst hm
    rfl
  · obtain ⟨c, ds, hds, hc⟩ := Decimal.digits_eq_cons hm
    have hdigits : ∀ d ∈ c :: ds, Decimal.isDigit d = true := fun d hd =>
      Decimal.isDigit_of_mem_digits (hds ▸ hd)
    have htail : ∀ d ∈ ds, Decimal.isDigit d = true := fun d hd =>
      hdigits d (List.mem_cons_of_mem c hd)
    rw [hds, wholeDigits?, if_neg hc, if_pos (hdigits c List.mem_cons_self),
      List.takeWhile_eq_self_iff.mpr htail, List.dropWhile_eq_nil_iff.mpr htail]

/-- The digits of a whole number are read up to what ends them, if there are not too many. -/
theorem number_digits
    (start : List Char)
    (negative : Bool)
    (m : Nat)
    {rest : List Char}
    (h : Ends rest) :
    number start negative (Decimal.digits m ++ rest) =
      if Decimal.digitLimit < Decimal.width m then .error (.tooManyDigits (Decimal.width m))
      else .ok (.int (if negative then -m else m), rest) := by
  have hfraction : takeFraction rest = ([], rest) := takeFraction_append [] h
  have hexponent : takeExponent rest = (none, rest) := takeExponent_append [] h
  rw [number, wholeDigits?_append (wholeDigits?_digits m) h, List.nil_append]
  simp only [hfraction, hexponent, Decimal.valueOf_digits]
  rfl

/-- The text of a whole number is read up to what ends it, if it has not too many digits. -/
theorem scalar_intText
    (n : Int)
    {rest : List Char}
    (h : Ends rest) :
    scalar ((Decimal.intText n).toList ++ rest) =
      if Decimal.digitLimit < Decimal.width n.natAbs then
        .error (.tooManyDigits (Decimal.width n.natAbs))
      else .ok (.int n, rest) := by
  have hdigit {m : Nat} {c : Char} {ds : List Char} (hds : Decimal.digits m = c :: ds) :
      Decimal.isDigit c = true :=
    Decimal.isDigit_of_mem_digits (hds ▸ List.mem_cons_self)
  cases n with
  | ofNat m =>
    have hread := number_digits (Decimal.digits m ++ rest) false m h
    unfold Decimal.intText scalar
    simp only [String.toList_ofList]
    cases hds : Decimal.digits m with
    | nil => exact absurd hds (Decimal.digits_ne_nil m)
    | cons c ds =>
      have hc : c ≠ '-' := by
        rintro rfl
        exact Bool.false_ne_true (hdigit hds)
      rw [List.cons_append, word?_eq_none (not_mem_firstLetters (hdigit hds))]
      dsimp only
      rw [hds, List.cons_append] at hread
      split
      · next he => exact absurd (List.cons.inj he).1 hc
      · exact hread
  | negSucc m =>
    have hread := number_digits ('-' :: (Decimal.digits (m + 1) ++ rest)) true (m + 1) h
    unfold Decimal.intText scalar
    simp only [String.toList_ofList]
    cases hds : Decimal.digits (m + 1) with
    | nil => exact absurd hds (Decimal.digits_ne_nil (m + 1))
    | cons c ds =>
      rw [List.cons_append, List.cons_append, word?_minus (hdigit hds), ← List.cons_append, ← hds]
      exact hread

/-! ## First characters -/

/-- Whether a character can be the first of a value: it is no space, closes nothing and is no byte
order mark. -/
def IsFirst (c : Char) : Prop :=
  isSpace c = false ∧ c ≠ ']' ∧ c ≠ '\x7d' ∧ c ≠ '\ufeff'

instance (c : Char) : Decidable (IsFirst c) :=
  inferInstanceAs (Decidable (_ ∧ _ ∧ _ ∧ _))

/-- Whether a character can be the first of a word or a number. -/
def IsScalarFirst (c : Char) : Prop :=
  c ∈ firstLetters ∨ Decimal.isDigit c = true

theorem exists_first_of_scalar
    {cs : List Char}
    {d : Data}
    {r : List Char}
    (hread : scalar cs = .ok (d, r)) :
    ∃ c t, cs = c :: t ∧ IsScalarFirst c := by
  cases cs with
  | nil => cases hread
  | cons c t =>
    refine ⟨c, t, rfl, Classical.byContradiction ?_⟩
    intro hc
    obtain ⟨hletter, hdigit⟩ := not_or.mp hc
    have hzero : c ≠ '0' := by
      rintro rfl
      exact hdigit rfl
    have hminus : c ≠ '-' := by
      rintro rfl
      exact hletter (by decide)
    unfold scalar at hread
    rw [word?_eq_none hletter] at hread
    simp [hminus, number, wholeDigits?, hzero, hdigit] at hread

theorem IsScalarFirst.ne
    {c : Char}
    (h : IsScalarFirst c)
    {e : Char}
    (he : e ∉ firstLetters ∧ Decimal.isDigit e = false) :
    c ≠ e := by
  rintro rfl
  rcases h with h | h
  · exact he.1 h
  · exact Bool.false_ne_true (he.2.symm.trans h)

theorem IsScalarFirst.isFirst
    {c : Char}
    (h : IsScalarFirst c) :
    IsFirst c := by
  refine ⟨?_, h.ne (by decide), h.ne (by decide), h.ne (by decide)⟩
  have hblank : c ≠ ' ' := h.ne (by decide)
  have htab : c ≠ '\t' := h.ne (by decide)
  have hline : c ≠ '\n' := h.ne (by decide)
  have hreturn : c ≠ '\r' := h.ne (by decide)
  simp [isSpace, hblank, htab, hline, hreturn]

/-! ## Strings -/

/-- The part of a string that a written character is read as. -/
def partOf (c : Char) : Part :=
  if c.toNat < 0x20 ∧ c ∉ ['\x08', '\x0c', '\n', '\r', '\t'] then .escaped c.toNat else .own c

theorem partOf_cases
    (c : Char) :
    c.toNat < 0x20 ∧ partOf c = .escaped c.toNat ∨ partOf c = .own c := by
  unfold partOf
  split
  · next h => exact .inl ⟨h.1, rfl⟩
  · exact .inr rfl

theorem hex4?_hexFixed
    {n : Nat}
    (h : n < 0x10000) :
    ∃ a b c d, Text.hexFixed 4 n = [a, b, c, d] ∧ hex4? a b c d = some n := by
  have hdigit (k : Nat) : Text.hexValue? (Text.hexDigit (k % 16)) = some (k % 16) :=
    Decimal.hexValue?_hexDigit _ (Nat.mod_lt k (by decide))
  refine ⟨_, _, _, _, rfl, ?_⟩
  have hsum : ((n / 16 / 16 / 16 % 16 * 16 + n / 16 / 16 % 16) * 16 + n / 16 % 16) * 16 + n % 16
      = n := by
    omega
  simp [hex4?, hdigit, hsum]

/-- How a character is written inside a string, and the part it is read as. -/
inductive Writing (c : Char) : List Char → Part → Prop
  | short
    {e : Char}
    (escape : escape? e = some c) :
    Writing c ['\\', e] (.own c)
  | code
    (low : c.toNat < 0x20) :
    Writing c ('\\' :: 'u' :: Text.hexFixed 4 c.toNat) (.escaped c.toNat)
  | own
    (quote : c ≠ '"')
    (slash : c ≠ '\\')
    (high : 0x20 ≤ c.toNat) :
    Writing c [c] (.own c)

theorem writing_writeChar
    (c : Char) :
    Writing c (writeChar c) (partOf c) := by
  by_cases hshort : c ∈ ['"', '\\', '\x08', '\x0c', '\n', '\r', '\t']
  · simp only [List.mem_cons, List.not_mem_nil, or_false] at hshort
    rcases hshort with rfl | rfl | rfl | rfl | rfl | rfl | rfl <;> exact .short rfl
  · simp only [List.mem_cons, List.not_mem_nil, or_false, not_or] at hshort
    obtain ⟨hquote, hslash, hback, hfeed, hline, hreturn, htab⟩ := hshort
    by_cases hlow : c.toNat < 0x20
    · have hwritten : writeChar c = '\\' :: 'u' :: Text.hexFixed 4 c.toNat := by
        simp [writeChar, hquote, hslash, hback, hfeed, hline, hreturn, htab, hlow]
      have hpart : partOf c = .escaped c.toNat := by
        simp [partOf, hback, hfeed, hline, hreturn, htab, hlow]
      rw [hwritten, hpart]
      exact .code hlow
    · have hwritten : writeChar c = [c] := by
        simp [writeChar, hquote, hslash, hback, hfeed, hline, hreturn, htab, hlow]
      have hpart : partOf c = .own c := if_neg fun h => hlow h.1
      rw [hwritten, hpart]
      exact .own hquote hslash (Nat.not_lt.mp hlow)

theorem parts_writing
    {c : Char}
    {ws : List Char}
    {p : Part}
    (h : Writing c ws p)
    (start : List Char)
    (e : Char)
    (more : List Char) :
    parts start (ws ++ e :: more) =
      (parts start (e :: more)).map fun (ps, rest) => (p :: ps, rest) := by
  cases h with
  | @short x escape =>
    have hx : x ≠ 'u' := by
      rintro rfl
      cases escape
    rw [List.cons_append, List.cons_append, List.nil_append]
    rw [parts]
    · rw [escape]
    · exact fun _ _ _ _ _ _ he _ => hx he
  | code low =>
    obtain ⟨a, b, x, y, hhex, hcode⟩ := hex4?_hexFixed (n := c.toNat) (by omega)
    rw [hhex]
    simp only [List.cons_append, List.nil_append]
    rw [parts, hcode]
  | own quote slash high =>
    rw [List.cons_append, List.nil_append]
    rw [parts]
    · rw [if_neg (Nat.not_lt.mpr high)]
    · exact quote
    · exact fun he _ => slash he
    · exact fun _ _ _ _ _ _ he _ => slash he
    · exact fun _ _ he _ => slash he

theorem parts_flatMap
    (start cs rest : List Char) :
    parts start (cs.flatMap writeChar ++ '"' :: rest) = .ok (cs.map partOf, rest) := by
  induction cs with
  | nil => rfl
  | cons c cs ih =>
    -- The step lemma wants the head of what follows, which may be the closing quote.
    obtain ⟨e, more, hmore⟩ : ∃ e more, cs.flatMap writeChar ++ '"' :: rest = e :: more :=
      List.exists_cons_of_ne_nil (by simp)
    rw [List.flatMap_cons, List.append_assoc, hmore,
      parts_writing (writing_writeChar c), ← hmore, ih]
    rfl

theorem codesOf_escaped
    (own : List Char)
    {a : Nat}
    (h : a < 0xd800)
    (ps : List Part) :
    codesOf own (.escaped a :: ps) = Text.codesOf own.reverse ++ a :: codesOf [] ps := by
  cases ps with
  | nil => rfl
  | cons p ps =>
    cases p with
    | own c => rfl
    | escaped b =>
      have hpair : ¬ (0xd800 ≤ a ∧ a ≤ 0xdbff ∧ 0xdc00 ≤ b ∧ b ≤ 0xdfff) := by omega
      rw [codesOf, if_neg hpair]

theorem codesOf_parts
    (own cs : List Char) :
    codesOf own (cs.map partOf) = Text.codesOf (own.reverse ++ cs) := by
  induction cs generalizing own with
  | nil =>
    rw [List.map_nil, codesOf, List.append_nil]
  | cons c cs ih =>
    rw [List.map_cons]
    rcases partOf_cases c with ⟨hlow, hpart⟩ | hpart
    · have hc : Text.IsOrdinary c := Text.isOrdinary_of_lt (by omega)
      rw [hpart, codesOf_escaped own (by omega), ih, Text.codesOf_append _ cs hc,
        Text.codesOf_cons cs hc.1 hc.2]
      rfl
    · rw [hpart, codesOf, ih, List.reverse_cons, List.append_assoc]
      rfl

/-- A written string is read as the text it was written for. -/
theorem string_writeText
    (s : String)
    (rest : List Char) :
    string (s.toList.flatMap writeChar ++ '"' :: rest) = .ok (.text s, rest) := by
  have hback : Text.ofCodes (Text.codesOf s.toList) = s := by
    rw [Text.ofCodes, Text.held_codesOf, String.ofList_toList]
  have hcodes : codesOf [] (s.toList.map partOf) = Text.codesOf s.toList := codesOf_parts [] s.toList
  rw [string, parts_flatMap]
  show Except.ok (Data.text (Text.ofCodes (codesOf [] (s.toList.map partOf))), rest) = _
  rw [hcodes, hback]

/-! ## Plain texts -/

/-- The code points that a code point is written as inside a string. -/
def writeCode (code : Nat) : List Nat :=
  if code < 0x80 then (writeChar (Char.ofNat code)).map Char.toNat else [code]

theorem writeChar_low
    (code : Nat)
    (h : code < 0x80) :
    writeChar (Char.ofNat code) ≠ [] ∧
      ∀ d ∈ writeChar (Char.ofNat code), d.toNat < 0x80 ∧ d ≠ '\r' := by
  -- The characters are counted along the text: a bound on all `d` is not decided by its members.
  have hall : ∀ code < 0x80, writeChar (Char.ofNat code) ≠ [] ∧
      (writeChar (Char.ofNat code)).all (fun d => d.toNat < 0x80 ∧ d ≠ '\r') = true := by
    decide
  obtain ⟨hne, hchars⟩ := hall code h
  refine ⟨hne, ?_⟩
  intro d hd
  exact of_decide_eq_true (List.all_eq_true.mp hchars d hd)

theorem writeCode_of_le
    {code : Nat}
    (h : 0x80 ≤ code) :
    writeCode code = [code] :=
  if_neg (Nat.not_lt.mpr h)

theorem writeChar_of_le
    {c : Char}
    (h : 0x80 ≤ c.toNat) :
    writeChar c = [c] := by
  have hne (d : Char) (hd : d.toNat < 0x80) : c ≠ d := by
    rintro rfl
    omega
  have hlow : ¬ c.toNat < 0x20 := by omega
  simp [writeChar, hne, hlow]

theorem flatMap_writeCode_marks
    (n : Nat) :
    (List.replicate n Text.markCode).flatMap writeCode = List.replicate n Text.markCode := by
  induction n with
  | zero => rfl
  | succ n ih =>
    rw [List.replicate_succ, List.flatMap_cons, ih, writeCode_of_le (by decide)]
    rfl

/-- A character of one byte is written in ordinary characters, whatever marks stand before it. -/
theorem codesAfter_writeChar
    {c : Char}
    (hlow : c.toNat < 0x80)
    (n : Nat)
    (rest : List Char) :
    Text.codesAfter n (writeChar c ++ rest)
      = List.replicate n Text.markCode ++ (writeCode c.toNat ++ Text.codesOf rest) := by
  obtain ⟨hne, hchars⟩ := writeChar_low c.toNat hlow
  rw [Char.ofNat_toNat] at hne hchars
  obtain ⟨d, ds, hds⟩ := List.exists_cons_of_ne_nil hne
  have hordinary : ∀ x ∈ d :: ds, Text.IsOrdinary x := by
    intro x hx
    exact Text.isOrdinary_of_lt (hchars x (hds ▸ hx)).1
  have hd := hordinary d List.mem_cons_self
  have hcode : writeCode c.toNat = (d :: ds).map Char.toNat := by
    rw [writeCode, if_pos hlow, Char.ofNat_toNat, hds]
  have hwritten := Text.codesAfter_append_cons n [] (ds ++ rest) hd.1 hd.2
  rw [List.nil_append] at hwritten
  rw [hds, List.cons_append, hwritten, ← List.cons_append, Text.codesOf_ordinary hordinary, hcode]
  rfl

theorem codesAfter_flatMap
    (n : Nat)
    (cs : List Char) :
    Text.codesAfter n (cs.flatMap writeChar) = (Text.codesAfter n cs).flatMap writeCode := by
  induction cs generalizing n with
  | nil => exact (flatMap_writeCode_marks n).symm
  | cons c cs ih =>
    rw [List.flatMap_cons]
    by_cases hlow : c.toNat < 0x80
    · have hc := Text.isOrdinary_of_lt hlow
      have hread := Text.codesAfter_append_cons n [] cs hc.1 hc.2
      rw [List.nil_append, Text.codesOf_cons cs hc.1 hc.2] at hread
      rw [codesAfter_writeChar hlow, hread, List.flatMap_append, List.flatMap_cons, Text.codesOf,
        Text.codesOf, ih 0]
      exact congrArg (· ++ _) (flatMap_writeCode_marks n).symm
    · have hhigh : 0x80 ≤ c.toNat := Nat.not_lt.mp hlow
      rw [writeChar_of_le hhigh, List.singleton_append, Text.codesAfter, Text.codesAfter]
      split
      · exact ih (n + 1)
      · split
        · next hi =>
          have bounds : 0x10d800 ≤ c.toNat ∧ c.toNat ≤ 0x10dfff := by
            simpa [Text.isStandIn] using hi
          have hcode : 0x80 ≤ if n % 2 = 0 then c.toNat - Text.lift else c.toNat := by
            unfold Text.lift
            split <;> omega
          rw [List.flatMap_append, flatMap_writeCode_marks, List.flatMap_cons,
            writeCode_of_le hcode, ih 0]
          rfl
        · rw [List.flatMap_append, flatMap_writeCode_marks, List.flatMap_cons,
            writeCode_of_le hhigh, ih 0]
          rfl

/-- A written string is plain when it was written for a text without surrogates. -/
theorem isPlain_writeText
    {s : String}
    (h : Text.hasSurrogate s = false)
    {rest : List Char}
    (hrest : Text.IsPlain rest) :
    Text.IsPlain (writeText s.toList ++ rest) := by
  have hquote : Text.IsOrdinary '"' := Text.isOrdinary_of_lt (by decide)
  have hinside : Text.IsPlain (s.toList.flatMap writeChar) := by
    intro code hcode
    rw [Text.codesOf, codesAfter_flatMap] at hcode
    obtain ⟨k, hk, hcode⟩ := List.mem_flatMap.mp hcode
    by_cases hlow : k < 0x80
    · obtain ⟨_, hchars⟩ := writeChar_low k hlow
      rw [writeCode, if_pos hlow] at hcode
      obtain ⟨d, hd, rfl⟩ := List.mem_map.mp hcode
      exact ⟨Text.isSurrogate_toNat d, fun he => (hchars d hd).2 (Char.toNat_inj.mp he)⟩
    · have hhigh : 0x80 ≤ k := Nat.not_lt.mp hlow
      rw [writeCode_of_le hhigh, List.mem_singleton] at hcode
      subst hcode
      refine ⟨?_, fun he => hlow (he ▸ by decide)⟩
      exact Bool.eq_false_iff.mpr fun hs =>
        Bool.eq_false_iff.mp h (List.any_eq_true.mpr ⟨code, hk, hs⟩)
  have hend : Text.IsPlain ('"' :: rest) := Text.isPlain_cons hquote (by decide) hrest
  unfold writeText
  rw [List.cons_append, List.append_assoc]
  exact Text.isPlain_cons hquote (by decide) (Text.isPlain_append_cons hinside hquote hend)

end Json
end Rebalance
