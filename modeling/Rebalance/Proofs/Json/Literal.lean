import Rebalance.Proofs.Json.Limits
import Rebalance.Proofs.Json.Tokens

/-!
# Strings between their quotes

* `Sign`, `Signs`: the signs that code points between two quotes are, one after the other.
* `meant`: the code points that signs stand for; two escaped surrogates that fit are one.
* `Literal`: what code points between two quotes stand for.
* `string_eq_iff`: a string is read just when such code points stand up to a closing quote, and it
  is read as what they stand for.
-/

namespace Rebalance
namespace Json

/-- What stands for a code point inside a string: the code point itself or its short escape, or an
escape in numbers. -/
inductive Sign
  | plain (code : Nat)
  | escaped (code : Nat)
deriving DecidableEq, Repr

/-- Whether a code point may stand for itself inside a string. -/
def IsOwn (code : Nat) : Prop :=
  0x20 ≤ code ∧ code ≠ '"'.toNat ∧ code ≠ '\\'.toNat

instance (code : Nat) : Decidable (IsOwn code) :=
  inferInstanceAs (Decidable (_ ∧ _ ∧ _))

/-- The signs that code points between two quotes are. -/
inductive Signs : List Nat → List Sign → Prop
  | nil :
    Signs [] []
  | own
    {code : Nat}
    {w : List Nat}
    {ss : List Sign}
    (own : IsOwn code)
    (rest : Signs w ss) :
    Signs (code :: w) (.plain code :: ss)
  | short
    {e c : Char}
    {w : List Nat}
    {ss : List Sign}
    (escape : escape? e = some c)
    (rest : Signs w ss) :
    Signs ('\\'.toNat :: e.toNat :: w) (.plain c.toNat :: ss)
  | code
    {a b c d : Char}
    {n : Nat}
    {w : List Nat}
    {ss : List Sign}
    (digits : hex4? a b c d = some n)
    (rest : Signs w ss) :
    Signs ('\\'.toNat :: 'u'.toNat :: a.toNat :: b.toNat :: c.toNat :: d.toNat :: w)
      (.escaped n :: ss)

/-- The code points that signs stand for.  A high surrogate and a low one right after it, both
escaped, stand for one code point. -/
def meant : List Sign → List Nat
  | [] => []
  | .plain code :: ss => code :: meant ss
  | .escaped a :: .escaped b :: ss =>
    if 0xd800 ≤ a ∧ a ≤ 0xdbff ∧ 0xdc00 ≤ b ∧ b ≤ 0xdfff then
      (0x10000 + (a - 0xd800) * 0x400 + (b - 0xdc00)) :: meant ss
    else a :: meant (.escaped b :: ss)
  | .escaped a :: ss => a :: meant ss

/-- Whether code points between two quotes stand for others. -/
def Literal (written codes : List Nat) : Prop :=
  ∃ ss, Signs written ss ∧ meant ss = codes

/-! ## Signs -/

theorem meant_plain
    (codes : List Nat)
    (ss : List Sign) :
    meant (codes.map .plain ++ ss) = codes ++ meant ss := by
  induction codes with
  | nil => rfl
  | cons code codes ih => simp [meant, ih]

section Own

variable {codes w : List Nat} {ss : List Sign}

theorem Signs.append_own
    (hown : ∀ code ∈ codes, IsOwn code)
    (h : Signs w ss) :
    Signs (codes ++ w) (codes.map .plain ++ ss) := by
  induction codes with
  | nil => exact h
  | cons code codes ih =>
    obtain ⟨hcode, hcodes⟩ := List.forall_mem_cons.mp hown
    exact .own hcode (ih hcodes)

theorem Signs.of_own
    {code : Nat}
    (hcode : IsOwn code)
    (h : Signs (code :: w) ss) :
    ∃ rest, ss = .plain code :: rest ∧ Signs w rest := by
  cases h with
  | own _ hrest => exact ⟨_, rfl, hrest⟩
  | short => exact absurd rfl hcode.2.2
  | code => exact absurd rfl hcode.2.2

theorem Signs.head_cases
    {code : Nat}
    (h : Signs (code :: w) ss) :
    IsOwn code ∨ code = '\\'.toNat := by
  cases h with
  | own hown => exact .inl hown
  | short => exact .inr rfl
  | code => exact .inr rfl

theorem Signs.of_append_own
    (hown : ∀ code ∈ codes, IsOwn code)
    (h : Signs (codes ++ w) ss) :
    ∃ rest, ss = codes.map .plain ++ rest ∧ Signs w rest := by
  induction codes generalizing ss with
  | nil => exact ⟨ss, rfl, h⟩
  | cons code codes ih =>
    obtain ⟨hcode, hcodes⟩ := List.forall_mem_cons.mp hown
    obtain ⟨more, rfl, hmore⟩ := Signs.of_own hcode h
    obtain ⟨rest, rfl, hrest⟩ := ih hcodes hmore
    exact ⟨rest, rfl, hrest⟩

end Own

/-! ## Code points of characters -/

/-- A code point of a text is one of its characters, or stands above all ASCII characters. -/
theorem of_mem_codesAfter
    {n : Nat}
    {cs : List Char}
    {code : Nat}
    (h : code ∈ Text.codesAfter n cs) :
    0x80 ≤ code ∨ ∃ c ∈ cs, c.toNat = code := by
  have hmarks (n : Nat) (hmem : code ∈ List.replicate n Text.markCode) : 0x80 ≤ code := by
    rw [(List.mem_replicate.mp hmem).2]
    decide
  induction cs generalizing n with
  | nil => exact .inl (hmarks n h)
  | cons c cs ih =>
    have hrest {n : Nat} (hmem : code ∈ Text.codesAfter n cs) :
        0x80 ≤ code ∨ ∃ d ∈ c :: cs, d.toNat = code := by
      rcases ih hmem with hhigh | ⟨d, hd, hcode⟩
      · exact .inl hhigh
      · exact .inr ⟨d, List.mem_cons_of_mem c hd, hcode⟩
    rw [Text.codesAfter] at h
    split at h
    · exact hrest h
    · split at h
      · next hi =>
        have hbounds : 0x10d800 ≤ c.toNat ∧ c.toNat ≤ 0x10dfff := by simpa [Text.isStandIn] using hi
        rcases List.mem_append.mp h with h | h
        · exact .inl (hmarks _ h)
        · rcases List.mem_cons.mp h with rfl | h
          · unfold Text.lift
            left
            split <;> omega
          · exact hrest h
      · rcases List.mem_append.mp h with h | h
        · exact .inl (hmarks _ h)
        · rcases List.mem_cons.mp h with rfl | h
          · exact .inr ⟨c, List.mem_cons_self, rfl⟩
          · exact hrest h

theorem isOwn_of_le
    {code : Nat}
    (h : 0x80 ≤ code) :
    IsOwn code := by
  have hquote : '"'.toNat = 0x22 := rfl
  have hslash : '\\'.toNat = 0x5c := rfl
  unfold IsOwn
  omega

theorem isOwn_of_ne
    {c : Char}
    (hquote : c ≠ '"')
    (hslash : c ≠ '\\')
    (hhigh : 0x20 ≤ c.toNat) :
    IsOwn c.toNat :=
  ⟨hhigh, fun he => hquote (Char.toNat_inj.mp he), fun he => hslash (Char.toNat_inj.mp he)⟩

theorem writing_of_isOwn
    {c : Char}
    (h : IsOwn c.toNat) :
    Writing c [c] (.own c) :=
  .own (fun he => h.2.1 (congrArg Char.toNat he)) (fun he => h.2.2 (congrArg Char.toNat he)) h.1

/-- Characters that stand for themselves hold code points that do. -/
theorem isOwn_codesOf
    {run : List Char}
    (h : ∀ c ∈ run, IsOwn c.toNat) :
    ∀ code ∈ Text.codesOf run, IsOwn code := by
  intro code hcode
  rcases of_mem_codesAfter hcode with hhigh | ⟨c, hc, rfl⟩
  · exact isOwn_of_le hhigh
  · exact h c hc

/-- A text whose first code point is an ASCII character begins with that character. -/
theorem exists_cons_of_codesOf
    {cs : List Char}
    {c : Char}
    {w : List Nat}
    (hc : c.toNat < 0x80)
    (h : Text.codesOf cs = c.toNat :: w) :
    ∃ more, cs = c :: more ∧ Text.codesOf more = w := by
  have hordinary := Text.isOrdinary_of_lt hc
  have hheld := Text.held_codesOf cs
  rw [h, Text.held, Text.heldAfter, if_neg hordinary.1, if_neg (by simp [Text.isSurrogate_toNat]),
    if_neg (by simp [hordinary.2]), Char.ofNat_toNat] at hheld
  subst hheld
  have hcodes := Text.codesOf_cons (Text.heldAfter 0 w) hordinary.1 hordinary.2
  exact ⟨_, rfl, (List.cons.inj (hcodes.symm.trans h)).2⟩

/-- A text whose code points begin with ASCII characters begins with those characters. -/
theorem exists_append_of_codesOf
    {xs cs : List Char}
    {w : List Nat}
    (hxs : ∀ x ∈ xs, x.toNat < 0x80)
    (h : Text.codesOf cs = xs.map Char.toNat ++ w) :
    ∃ more, cs = xs ++ more ∧ Text.codesOf more = w := by
  induction xs generalizing cs with
  | nil => exact ⟨cs, rfl, h⟩
  | cons x xs ih =>
    obtain ⟨hx, hxs⟩ := List.forall_mem_cons.mp hxs
    obtain ⟨mid, rfl, hmid⟩ := exists_cons_of_codesOf hx h
    obtain ⟨more, rfl, hmore⟩ := ih hxs hmid
    exact ⟨more, rfl, hmore⟩

theorem codesOf_ne_nil
    {cs : List Char}
    (h : cs ≠ []) :
    Text.codesOf cs ≠ [] := by
  intro hnil
  have hheld := Text.held_codesOf cs
  rw [hnil] at hheld
  exact h hheld.symm

theorem toNat_lt_of_hexValue?
    {c : Char}
    {n : Nat}
    (h : Text.hexValue? c = some n) :
    c.toNat < 0x80 := by
  have hbelow {e : Char} (he : e.toNat < 0x80) (hle : c ≤ e) : c.toNat < 0x80 :=
    Nat.lt_of_le_of_lt hle he
  unfold Text.hexValue? at h
  split at h
  · next hc => exact hbelow (by decide) hc.2
  · split at h
    · next hc => exact hbelow (by decide) hc.2
    · split at h
      · next hc => exact hbelow (by decide) hc.2
      · cases h

theorem lt_of_hex4?
    {a b c d : Char}
    {n : Nat}
    (h : hex4? a b c d = some n) :
    ∀ x ∈ ['\\', 'u', a, b, c, d], x.toNat < 0x80 := by
  simp only [hex4?, Option.bind_eq_bind, Option.bind_eq_some_iff] at h
  obtain ⟨_, ha, _, hb, _, hc, _, hd, -⟩ := h
  simp [toNat_lt_of_hexValue? ha, toNat_lt_of_hexValue? hb, toNat_lt_of_hexValue? hc,
    toNat_lt_of_hexValue? hd]

theorem lt_of_escape?
    {e c : Char}
    (h : escape? e = some c) :
    e.toNat < 0x80 ∧ c.toNat < 0x80 := by
  unfold escape? at h
  split at h <;> cases h <;> decide

theorem ordinary_of_lt
    {xs : List Char}
    (h : ∀ x ∈ xs, x.toNat < 0x80) :
    ∀ x ∈ xs, Text.IsOrdinary x :=
  fun x hx => Text.isOrdinary_of_lt (h x hx)

/-- The code points of a run of ASCII characters between two texts. -/
theorem codesOf_between
    (run : List Char)
    {c : Char}
    {cs : List Char}
    (h : ∀ x ∈ c :: cs, x.toNat < 0x80)
    (rest : List Char) :
    Text.codesOf (run ++ (c :: cs ++ rest))
      = Text.codesOf run ++ ((c :: cs).map Char.toNat ++ Text.codesOf rest) := by
  have hordinary := ordinary_of_lt h
  rw [← Text.codesOf_ordinary hordinary]
  exact Text.codesOf_append run (cs ++ rest) (hordinary c List.mem_cons_self)

/-! ## Parts of a string -/

/-- The signs of some parts, after characters of their own that come the last one first. -/
def signsOf (own : List Char) : List Part → List Sign
  | [] => (Text.codesOf own.reverse).map .plain
  | .own c :: ps => signsOf (c :: own) ps
  | .escaped a :: ps => (Text.codesOf own.reverse).map .plain ++ .escaped a :: signsOf [] ps

/-- No sign at the head is an escape in numbers where a character of its own comes first. -/
theorem exists_plain_of_own
    (own : List Char)
    (c : Char)
    (ps : List Part) :
    ∃ code ss, signsOf (c :: own) ps = .plain code :: ss := by
  have hhead (own : List Char) (c : Char) :
      ∃ code codes, Text.codesOf (c :: own).reverse = code :: codes :=
    List.exists_cons_of_ne_nil (codesOf_ne_nil (by simp))
  induction ps generalizing own c with
  | nil =>
    obtain ⟨code, codes, hcodes⟩ := hhead own c
    exact ⟨code, codes.map .plain, by rw [signsOf, hcodes, List.map_cons]⟩
  | cons p ps ih =>
    cases p with
    | own d => exact ih (c :: own) d
    | escaped a =>
      obtain ⟨code, codes, hcodes⟩ := hhead own c
      exact ⟨code, codes.map .plain ++ .escaped a :: signsOf [] ps,
        by rw [signsOf, hcodes, List.map_cons, List.cons_append]⟩

/-- The signs of parts stand for the code points that the parts are read as. -/
theorem meant_signsOf
    (own : List Char)
    (ps : List Part) :
    meant (signsOf own ps) = codesOf own ps := by
  have hescaped (b : Nat) (ps : List Part) :
      signsOf [] (.escaped b :: ps) = .escaped b :: signsOf [] ps := rfl
  fun_induction codesOf own ps with
  | case1 own =>
    have hmeant := meant_plain (Text.codesOf own.reverse) []
    rw [signsOf]
    simpa [meant] using hmeant
  | case2 own c ps ih => exact ih
  | case3 own a b ps ih_pair ih =>
    rw [hescaped] at ih
    rw [signsOf, meant_plain, hescaped, meant, ih_pair, ih]
  | case4 own a ps hps ih =>
    have hmeant : meant (.escaped a :: signsOf [] ps) = a :: meant (signsOf [] ps) := by
      cases ps with
      | nil => rfl
      | cons p ps =>
        cases p with
        | own c =>
          obtain ⟨code, ss, hss⟩ := exists_plain_of_own [] c ps
          rw [signsOf, hss]
          rfl
        | escaped b => exact absurd rfl (hps b ps)
    rw [signsOf, meant_plain, hmeant, ih]

/-- An ordinary character parts the signs in front of it from those behind it. -/
theorem signsOf_split
    (ys : List Char)
    {c : Char}
    (hc : Text.IsOrdinary c)
    (own : List Char)
    (ps : List Part) :
    signsOf (ys ++ c :: own) ps
      = (Text.codesOf own.reverse).map .plain ++ .plain c.toNat :: signsOf ys ps := by
  have hcodes (ys : List Char) : Text.codesOf (own.reverse ++ c :: ys.reverse)
      = Text.codesOf own.reverse ++ c.toNat :: Text.codesOf ys.reverse := by
    rw [Text.codesOf_append _ _ hc, Text.codesOf_cons _ hc.1 hc.2]
  induction ps generalizing ys with
  | nil => simp [signsOf, hcodes]
  | cons p ps ih =>
    cases p with
    | own d => exact ih (d :: ys)
    | escaped a => simp [signsOf, hcodes]

/-! ## Reading a string -/

theorem map_parts_ok
    {r : Except Halt (List Part × List Char)}
    {p : Part}
    {ps : List Part}
    {rest : List Char}
    (h : (r.map fun r => (p :: r.1, r.2)) = .ok (ps, rest)) :
    ∃ more, ps = p :: more ∧ r = .ok (more, rest) := by
  cases r with
  | error e => cases h
  | ok r =>
    cases h
    exact ⟨r.1, rfl, rfl⟩

/-- What is read up to a closing quote are signs, those of a run of characters before it among
them. -/
theorem signs_of_parts
    {start cs rest : List Char}
    {ps : List Part}
    (h : parts start cs = .ok (ps, rest))
    {run : List Char}
    (hrun : ∀ c ∈ run, IsOwn c.toNat) :
    ∃ inside, cs = inside ++ '"' :: rest ∧
      Signs (Text.codesOf (run ++ inside)) (signsOf run.reverse ps) := by
  fun_induction parts start cs generalizing ps run with
  | case1 => cases h
  | case2 more =>
    cases h
    refine ⟨[], rfl, ?_⟩
    have hsigns := Signs.append_own (isOwn_codesOf hrun) .nil
    simpa [signsOf] using hsigns
  | case3 => cases h
  | case4 => cases h
  | case5 a b c d e more code hdigits ih =>
    obtain ⟨ps, rfl, hread⟩ := map_parts_ok h
    obtain ⟨inside, hinside, hsigns⟩ := ih hread (List.forall_mem_nil _)
    refine ⟨'\\' :: 'u' :: a :: b :: c :: d :: inside, by simp [hinside], ?_⟩
    rw [signsOf, List.reverse_reverse]
    have hcodes := codesOf_between run (lt_of_hex4? hdigits) inside
    exact hcodes ▸ Signs.append_own (isOwn_codesOf hrun) (.code hdigits hsigns)
  | case6 e more _ c hescape ih =>
    obtain ⟨ps, rfl, hread⟩ := map_parts_ok h
    obtain ⟨inside, hinside, hsigns⟩ := ih hread (List.forall_mem_nil _)
    obtain ⟨he, hc⟩ := lt_of_escape? hescape
    refine ⟨'\\' :: e :: inside, by simp [hinside], ?_⟩
    have hsplit := signsOf_split [] (Text.isOrdinary_of_lt hc) run.reverse ps
    rw [signsOf, ← List.nil_append (c :: run.reverse), hsplit, List.reverse_reverse]
    have hlow : ∀ x ∈ ['\\', e], x.toNat < 0x80 := by simp [he]
    have hcodes := codesOf_between run hlow inside
    exact hcodes ▸ Signs.append_own (isOwn_codesOf hrun) (.short hescape hsigns)
  | case7 => cases h
  | case8 => cases h
  | case9 => cases h
  | case10 c more hquote hslash hcode hshort hhigh ih =>
    have hc : c ≠ '\\' := by
      intro hc
      cases more with
      | nil => exact hslash hc rfl
      | cons e more => exact hshort e more hc rfl
    have hown : ∀ x ∈ run ++ [c], IsOwn x.toNat := by
      rw [List.forall_mem_append, List.forall_mem_singleton]
      exact ⟨hrun, isOwn_of_ne hquote hc (Nat.not_lt.mp hhigh)⟩
    obtain ⟨ps, rfl, hread⟩ := map_parts_ok h
    obtain ⟨inside, rfl, hsigns⟩ := ih hread hown
    rw [List.append_assoc, List.reverse_append] at hsigns
    exact ⟨c :: inside, rfl, hsigns⟩

theorem parts_writing_inside
    {c : Char}
    {ws : List Char}
    {p : Part}
    (h : Writing c ws p)
    (start inside rest : List Char) :
    parts start (ws ++ (inside ++ '"' :: rest))
      = (parts start (inside ++ '"' :: rest)).map fun r => (p :: r.1, r.2) := by
  obtain ⟨e, more, hmore⟩ : ∃ e more, inside ++ '"' :: rest = e :: more :=
    List.exists_cons_of_ne_nil (by simp)
  rw [hmore]
  exact parts_writing h start e more

theorem parts_code_inside
    {a b c d : Char}
    {n : Nat}
    (hdigits : hex4? a b c d = some n)
    (start inside rest : List Char) :
    parts start ('\\' :: 'u' :: a :: b :: c :: d :: (inside ++ '"' :: rest))
      = (parts start (inside ++ '"' :: rest)).map fun r => (.escaped n :: r.1, r.2) := by
  obtain ⟨e, more, hmore⟩ : ∃ e more, inside ++ '"' :: rest = e :: more :=
    List.exists_cons_of_ne_nil (by simp)
  rw [hmore, parts, hdigits]

/-- Behind a backslash stands the letter of a short escape, or a code in numbers. -/
theorem Signs.slash_cases
    {inside : List Char}
    {ss : List Sign}
    (h : Signs ('\\'.toNat :: Text.codesOf inside) ss) :
    (∃ e c more rest, inside = e :: more ∧ escape? e = some c ∧ ss = .plain c.toNat :: rest ∧
        Signs (Text.codesOf more) rest) ∨
      ∃ a b c d n more rest, inside = 'u' :: a :: b :: c :: d :: more ∧
        hex4? a b c d = some n ∧ ss = .escaped n :: rest ∧ Signs (Text.codesOf more) rest := by
  generalize hw : Text.codesOf inside = w at h
  cases h with
  | own hown => exact absurd rfl hown.2.2
  | short hescape hrest =>
    obtain ⟨more, rfl, rfl⟩ := exists_cons_of_codesOf (lt_of_escape? hescape).1 hw
    exact .inl ⟨_, _, more, _, rfl, hescape, rfl, hrest⟩
  | code hdigits hrest =>
    obtain ⟨-, hlow⟩ := List.forall_mem_cons.mp (lt_of_hex4? hdigits)
    obtain ⟨more, rfl, rfl⟩ := exists_append_of_codesOf hlow hw
    exact .inr ⟨_, _, _, _, _, more, _, rfl, hdigits, rfl, hrest⟩

/-- Behind a run of characters of their own, a character other than a backslash is one too. -/
theorem Signs.isOwn_of_ne
    {run inside : List Char}
    (hrun : ∀ c ∈ run, IsOwn c.toNat)
    {c : Char}
    {ss : List Sign}
    (h : Signs (Text.codesOf (run ++ c :: inside)) ss)
    (hc : c ≠ '\\') :
    IsOwn c.toNat := by
  by_cases hlow : c.toNat < 0x80
  · have hordinary := Text.isOrdinary_of_lt hlow
    rw [Text.codesOf_append run inside hordinary,
      Text.codesOf_cons _ hordinary.1 hordinary.2] at h
    obtain ⟨more, rfl, hmore⟩ := Signs.of_append_own (isOwn_codesOf hrun) h
    rcases hmore.head_cases with hown | hslash
    · exact hown
    · exact absurd (Char.toNat_inj.mp hslash) hc
  · exact isOwn_of_le (Nat.not_lt.mp hlow)

/-- Signs are read up to the closing quote behind them. -/
theorem parts_of_signs
    {run inside : List Char}
    (hrun : ∀ c ∈ run, IsOwn c.toNat)
    {ss : List Sign}
    (h : Signs (Text.codesOf (run ++ inside)) ss)
    (start rest : List Char) :
    ∃ ps, parts start (inside ++ '"' :: rest) = .ok (ps, rest) ∧ signsOf run.reverse ps = ss := by
  -- Behind an escape the text goes on with an empty run, so that its length decides.
  induction hn : inside.length using Nat.strongRecOn generalizing run inside ss with
  | ind n ih =>
  subst hn
  cases inside with
  | nil =>
    rw [List.append_nil, ← List.append_nil (Text.codesOf run)] at h
    obtain ⟨more, rfl, hnil⟩ := Signs.of_append_own (isOwn_codesOf hrun) h
    cases hnil
    exact ⟨[], rfl, by simp [signsOf]⟩
  | cons c inside =>
    by_cases hc : c = '\\'
    · subst hc
      have hslash : Text.IsOrdinary '\\' := Text.isOrdinary_of_lt (by decide)
      rw [Text.codesOf_append run inside hslash, Text.codesOf_cons _ hslash.1 hslash.2] at h
      obtain ⟨signs, rfl, hsigns⟩ := Signs.of_append_own (isOwn_codesOf hrun) h
      have hshort {xs more : List Char} : more.length < ('\\' :: xs ++ more).length := by
        simp only [List.length_append, List.length_cons]
        omega
      rcases hsigns.slash_cases with ⟨e, c, more, ss, rfl, hescape, rfl, hmore⟩ |
        ⟨a, b, c, d, n, more, ss, rfl, hdigits, rfl, hmore⟩
      · obtain ⟨ps, hparts, rfl⟩ :=
          ih more.length (@hshort [e] more) (List.forall_mem_nil _) hmore rfl
        have hwritten := parts_writing_inside (.short hescape) start more rest
        have hordinary := Text.isOrdinary_of_lt (lt_of_escape? hescape).2
        have hsplit := signsOf_split [] hordinary run.reverse ps
        rw [hparts] at hwritten
        rw [List.reverse_reverse] at hsplit
        exact ⟨.own c :: ps, hwritten, hsplit⟩
      · obtain ⟨ps, hparts, rfl⟩ :=
          ih more.length (@hshort ['u', a, b, c, d] more) (List.forall_mem_nil _) hmore rfl
        have hwritten := parts_code_inside hdigits start more rest
        rw [hparts] at hwritten
        exact ⟨.escaped n :: ps, hwritten, by rw [signsOf, List.reverse_reverse]; rfl⟩
    · have hown := h.isOwn_of_ne hrun hc
      have hruns : ∀ x ∈ run ++ [c], IsOwn x.toNat := by
        rw [List.forall_mem_append, List.forall_mem_singleton]
        exact ⟨hrun, hown⟩
      rw [← List.singleton_append, ← List.append_assoc] at h
      obtain ⟨ps, hparts, rfl⟩ := ih inside.length (Nat.lt_succ_self _) hruns h rfl
      have hwritten := parts_writing_inside (writing_of_isOwn hown) start inside rest
      rw [hparts] at hwritten
      exact ⟨.own c :: ps, hwritten, by rw [List.reverse_append]; rfl⟩

/-- A string is read just when code points that stand for others are there up to a closing quote. -/
theorem string_eq_iff
    {cs rest : List Char}
    {d : Data} :
    string cs = .ok (d, rest) ↔ ∃ inside codes, cs = inside ++ '"' :: rest ∧
      Literal (Text.codesOf inside) codes ∧ d = .text (Text.ofCodes codes) := by
  constructor
  · intro h
    unfold string at h
    cases hparts : parts ('"' :: cs) cs with
    | error e =>
      rw [hparts] at h
      cases h
    | ok r =>
      obtain ⟨ps, more⟩ := r
      rw [hparts] at h
      cases h
      obtain ⟨inside, hinside, hsigns⟩ := signs_of_parts hparts (List.forall_mem_nil _)
      exact ⟨inside, codesOf [] ps, hinside, ⟨_, hsigns, meant_signsOf [] ps⟩, rfl⟩
  · rintro ⟨inside, codes, rfl, ⟨ss, hsigns, rfl⟩, rfl⟩
    obtain ⟨ps, hparts, rfl⟩ :=
      parts_of_signs (List.forall_mem_nil _) hsigns ('"' :: (inside ++ '"' :: rest)) rest
    rw [string, hparts]
    exact congrArg (fun codes => Except.ok (Data.text (Text.ofCodes codes), rest))
      (meant_signsOf [] ps).symm

theorem string_of_literal
    {inside : List Char}
    {codes : List Nat}
    (h : Literal (Text.codesOf inside) codes)
    (rest : List Char) :
    string (inside ++ '"' :: rest) = .ok (.text (Text.ofCodes codes), rest) :=
  string_eq_iff.mpr ⟨inside, codes, rfl, h, rfl⟩

end Json
end Rebalance
