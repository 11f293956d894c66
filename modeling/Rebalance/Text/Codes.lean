import Rebalance.Decimal.Rounded
import Rebalance.Text.Classes

/-!
# Texts as code points

Texts as sequences of code points.  A text may hold surrogates that have no partner, and those are
no characters.  Each is held as the character sixteen planes above it, its stand-in, and a mark in
front tells a character that means itself from a stand-in.  As marks are only counted in front of
such characters, every string is the text of one sequence of code points.

* `ofCodes`, `codes`: the text of some code points, and the code points of a text.
* `concat`: texts one after the other.
* `codesOf_held`, `held_codesOf`: each of the two undoes the other.
* `Place`: a place in a text, as messages name it.  Lines and columns count from one, code points
  from zero.
-/

namespace Rebalance
namespace Text

/-- The distance from a surrogate to its stand-in. -/
def lift : Nat :=
  0x100000

/-- Whether a code point is that of a stand-in. -/
def isStandIn (code : Nat) : Bool :=
  decide (0x10d800 ≤ code ∧ code ≤ 0x10dfff)

/-- The code point of the mark. -/
def markCode : Nat :=
  0x10d7ff

/-- Marks in a row. -/
def marks (n : Nat) : List Char :=
  List.replicate n (Char.ofNat markCode)

/-- The characters that hold code points, after `n` marks. -/
def heldAfter : (n : Nat) → List Nat → List Char
  | n, [] => marks n
  | n, code :: rest =>
    if code = markCode then heldAfter (n + 1) rest
    else if isSurrogate code then marks (2 * n) ++ Char.ofNat (code + lift) :: heldAfter 0 rest
    else if isStandIn code then marks (2 * n + 1) ++ Char.ofNat code :: heldAfter 0 rest
    else marks n ++ Char.ofNat code :: heldAfter 0 rest

/-- The characters that hold code points. -/
def held (codes : List Nat) : List Char :=
  heldAfter 0 codes

/-- The code points that characters hold after `n` marks.  Marks count by twos in front of a
stand-in, and one over says that the character means itself. -/
def codesAfter : (n : Nat) → List Char → List Nat
  | n, [] => List.replicate n markCode
  | n, c :: rest =>
    if c.toNat = markCode then codesAfter (n + 1) rest
    else if isStandIn c.toNat then
      List.replicate (n / 2) markCode
        ++ (if n % 2 = 0 then c.toNat - lift else c.toNat) :: codesAfter 0 rest
    else List.replicate n markCode ++ c.toNat :: codesAfter 0 rest

/-- The code points that characters hold. -/
def codesOf (cs : List Char) : List Nat :=
  codesAfter 0 cs

/-- The text of some code points. -/
def ofCodes (codes : List Nat) : String :=
  String.ofList (held codes)

/-- The code points of a text. -/
def codes (s : String) : List Nat :=
  codesOf s.toList

/-- Texts one after the other.  It is their code points that are put together, as marks at the end
of one text would count in front of the next one. -/
def concat (texts : List String) : String :=
  ofCodes (texts.flatMap codes)

/-- The characters of a text in which every one means itself. -/
def heldChars (cs : List Char) : List Char :=
  held (cs.map Char.toNat)

/-- The text of a string whose characters all mean themselves. -/
def ofString (s : String) : String :=
  String.ofList (heldChars s.toList)

/-- A text as a string of its own characters; a surrogate shows as the replacement character. -/
def shown (s : String) : String :=
  String.ofList ((codes s).map charOf)

/-- The number of code points in a text. -/
def size (cs : List Char) : Nat :=
  (codesOf cs).length

/-- The head of a text, at most `n` code points. -/
def takeCodes (n : Nat) (cs : List Char) : List Char :=
  held ((codesOf cs).take n)

/-- Whether a text holds a surrogate. -/
def hasSurrogate (s : String) : Bool :=
  (codes s).any isSurrogate

/-- A text with each surrogate given up for three replacement characters, one for each byte. -/
def withoutSurrogates (s : String) : String :=
  ofCodes ((codes s).flatMap fun code =>
    if isSurrogate code then List.replicate 3 0xfffd else [code])

/-! ## Laws -/

theorem toNat_ofNat {n : Nat} (h : n.isValidChar) : (Char.ofNat n).toNat = n := by
  rw [Char.ofNat, dif_pos h]
  rfl

theorem codesAfter_marks (n k : Nat) (cs : List Char) :
    codesAfter n (marks k ++ cs) = codesAfter (n + k) cs := by
  induction k generalizing n with
  | zero => rfl
  | succ k ih =>
    have h : (Char.ofNat markCode).toNat = markCode := toNat_ofNat (by decide)
    have step : marks (k + 1) ++ cs = Char.ofNat markCode :: (marks k ++ cs) := rfl
    rw [step, codesAfter, if_pos h, ih]
    congr 1
    omega

theorem heldAfter_marks (n k : Nat) (codes : List Nat) :
    heldAfter n (List.replicate k markCode ++ codes) = heldAfter (n + k) codes := by
  induction k generalizing n with
  | zero => rfl
  | succ k ih =>
    rw [List.replicate_succ, List.cons_append, heldAfter, if_pos rfl, ih]
    congr 1
    omega

theorem isSurrogate_toNat (c : Char) : isSurrogate c.toNat = false := by
  have h : c.toNat.isValidChar := c.valid
  simp only [isSurrogate, decide_eq_false_iff_not]
  simp only [Nat.isValidChar] at h
  omega

theorem codesAfter_heldAfter (n : Nat) (codes : List Nat) (h : ∀ code ∈ codes, code < 0x110000) :
    codesAfter 0 (heldAfter n codes) = List.replicate n markCode ++ codes := by
  induction codes generalizing n with
  | nil =>
    have := codesAfter_marks 0 n []
    simpa [heldAfter, codesAfter] using this
  | cons code rest ih =>
    have hrest : ∀ code ∈ rest, code < 0x110000 := fun c hc => h c (List.mem_cons_of_mem _ hc)
    have hcode : code < 0x110000 := h code List.mem_cons_self
    rw [heldAfter]
    split
    · next hm =>
      rw [ih _ hrest, hm, List.replicate_succ', List.append_assoc]
      rfl
    · next hm =>
      split
      · next hs =>
        have bounds : 0xd800 ≤ code ∧ code ≤ 0xdfff := by simpa [isSurrogate] using hs
        have hv : (Char.ofNat (code + lift)).toNat = code + lift :=
          toNat_ofNat (by simp only [Nat.isValidChar, lift]; omega)
        have hm' : code + lift ≠ markCode := by unfold lift markCode; omega
        have hi : isStandIn (code + lift) = true := by
          unfold isStandIn lift
          exact decide_eq_true (by omega)
        rw [codesAfter_marks, codesAfter, hv, if_neg hm', if_pos hi, ih _ hrest]
        have half : (0 + 2 * n) / 2 = n := by omega
        have even : (0 + 2 * n) % 2 = 0 := by omega
        rw [half, even, if_pos rfl, Nat.add_sub_cancel]
        rfl
      · next hs =>
        have hv : (Char.ofNat code).toNat = code := by
          refine toNat_ofNat ?_
          simp only [isSurrogate, decide_eq_true_eq] at hs
          simp only [Nat.isValidChar]
          omega
        split
        · next hi =>
          rw [codesAfter_marks, codesAfter, hv, if_neg hm, if_pos hi, ih _ hrest]
          have half : (0 + (2 * n + 1)) / 2 = n := by omega
          have odd : ¬ (0 + (2 * n + 1)) % 2 = 0 := by omega
          rw [half, if_neg odd]
          rfl
        · next hi =>
          rw [codesAfter_marks, codesAfter, hv, if_neg hm, if_neg hi, ih _ hrest, Nat.zero_add]
          rfl

theorem heldAfter_codesAfter (n : Nat) (cs : List Char) :
    heldAfter 0 (codesAfter n cs) = marks n ++ cs := by
  induction cs generalizing n with
  | nil =>
    have := heldAfter_marks 0 n []
    simpa [heldAfter, codesAfter] using this
  | cons c rest ih =>
    have hs : ¬ isSurrogate c.toNat = true := by
      rw [isSurrogate_toNat]
      exact Bool.false_ne_true
    rw [codesAfter]
    split
    · next hm =>
      have hc : Char.ofNat markCode = c := by rw [← hm, Char.ofNat_toNat]
      rw [ih, marks, marks, hc, List.replicate_succ', List.append_assoc]
      rfl
    · next hm =>
      split
      · next hi =>
        have bounds : 0x10d800 ≤ c.toNat ∧ c.toNat ≤ 0x10dfff := by simpa [isStandIn] using hi
        rw [heldAfter_marks, Nat.zero_add]
        split
        · next even =>
          have back : c.toNat - lift + lift = c.toNat := by unfold lift; omega
          have twice : 2 * (n / 2) = n := by omega
          have hm' : c.toNat - lift ≠ markCode := by unfold lift markCode; omega
          have hs' : isSurrogate (c.toNat - lift) = true := by
            unfold isSurrogate lift
            exact decide_eq_true (by omega)
          rw [heldAfter, if_neg hm', if_pos hs', back, Char.ofNat_toNat, ih, twice]
          rfl
        · next odd =>
          have twice : 2 * (n / 2) + 1 = n := by omega
          rw [heldAfter, if_neg hm, if_neg hs, if_pos hi, Char.ofNat_toNat, ih, twice]
          rfl
      · next hi =>
        rw [heldAfter_marks, heldAfter, if_neg hm, if_neg hs, if_neg hi, Char.ofNat_toNat, ih,
          Nat.zero_add]
        rfl

/-- Nothing is lost when code points are held as characters. -/
theorem codesOf_held (codes : List Nat) (h : ∀ code ∈ codes, code < 0x110000) :
    codesOf (held codes) = codes :=
  codesAfter_heldAfter 0 codes h

/-- Every text is the one that holds its code points. -/
theorem held_codesOf (cs : List Char) : held (codesOf cs) = cs :=
  heldAfter_codesAfter 0 cs

/-- Different texts have different code points. -/
theorem codes_inj {s t : String} (h : codes s = codes t) : s = t := by
  have hs := held_codesOf s.toList
  rw [← codes, h, codes, held_codesOf] at hs
  exact String.toList_injective hs.symm

/-- A character that is neither a mark nor a stand-in counts for itself in front of a text. -/
theorem codesOf_cons {c : Char} (cs : List Char) (hm : c.toNat ≠ markCode)
    (hi : isStandIn c.toNat = false) : codesOf (c :: cs) = c.toNat :: codesOf cs := by
  rw [codesOf, codesAfter, if_neg hm, if_neg (by simp [hi])]
  rfl

/-- Such a character also parts a text into two that count for themselves. -/
theorem codesAfter_append_cons (n : Nat) (cs : List Char) {c : Char} (rest : List Char)
    (hm : c.toNat ≠ markCode) (hi : isStandIn c.toNat = false) :
    codesAfter n (cs ++ c :: rest) = codesAfter n cs ++ codesOf (c :: rest) := by
  induction cs generalizing n with
  | nil => simp [codesAfter, codesOf, hm, hi]
  | cons d cs ih =>
    rw [List.cons_append, codesAfter, codesAfter]
    split
    · exact ih _
    · split
      · rw [ih 0, List.append_assoc, List.cons_append]
      · rw [ih 0, List.append_assoc, List.cons_append]

/-! ## Places -/

/-- A place in a text: its line, its column, and the number of code points in front of it. -/
structure Place where
  line : Nat
  column : Int
  index : Int
deriving DecidableEq, Repr

/-- The place of a position in a text.  A position below zero counts from the end of the text, and
one beyond the end stands for the end; the column does not know of this. -/
def Place.ofIndex (codes : List Nat) (index : Int) : Place :=
  let stop := if index < 0 then index + codes.length else index
  let before := codes.take stop.toNat
  let tail := before.reverse.takeWhile (· ≠ '\n'.toNat)
  ⟨before.count '\n'.toNat + 1, index - ((before.length : Int) - tail.length - 1), index⟩

/-- A place in words. -/
def Place.text (p : Place) : String :=
  "line " ++ Decimal.intText p.line ++ " column " ++ Decimal.intText p.column
    ++ " (char " ++ Decimal.intText p.index ++ ")"

end Text
end Rebalance
