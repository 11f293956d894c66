import Rebalance.Template

/-!
# Templates of literal text around one plain field

* `literal`: literal text as it is written in a template, with every brace twice.
* `expand_literal`: written literal text is replaced by itself.
* `format_around`: a template that is one plain field between two literal texts gives the node's
  name between these texts.
-/

namespace Rebalance
namespace Template

/-- A literal text as a template spells it: a brace is written twice. -/
def literal : List Char → List Char
  | [] => []
  | c :: cs => if c = '\x7b' ∨ c = '\x7d' then c :: c :: literal cs else c :: literal cs

/-- A plain field for the node, as a template spells it. -/
def plainField : List Char :=
  "\x7bnode\x7d".toList

/-- The template with one plain field for the node, between two literal texts. -/
def around (front back : String) : String :=
  String.ofList (literal front.toList ++ plainField ++ literal back.toList)

variable (fill : Field → Except Fault (List Char))

theorem expand_nil
    (fuel : Nat) :
    expand fill fuel [] = .ok ⟨[], []⟩ := by
  cases fuel <;> rfl

/-- Literal text is replaced by itself, whatever follows it. -/
theorem expand_literal
    (cs rest : List Char)
    {fuel : Nat}
    (h : (literal cs ++ rest).length < fuel) :
    ∃ left, rest.length < left ∧
      expand fill fuel (literal cs ++ rest) = (expand fill left rest).map (.after cs) := by
  induction cs generalizing fuel with
  | nil =>
    refine ⟨fuel, h, ?_⟩
    show expand fill fuel rest = _
    cases expand fill fuel rest <;> rfl
  | cons c cs ih =>
    obtain ⟨fuel, rfl⟩ : ∃ n, fuel = n + 1 := Nat.exists_eq_succ_of_ne_zero (by omega)
    have hcons (x : Except Fault Expansion) :
        (x.map (Expansion.after cs)).map (Expansion.after [c]) =
          x.map (Expansion.after (c :: cs)) := by
      cases x <;> rfl
    by_cases hbrace : c = '\x7b' ∨ c = '\x7d'
    · simp only [literal, if_pos hbrace, List.cons_append, List.length_cons] at h ⊢
      obtain ⟨left, hleft, hrest⟩ := @ih fuel (by omega)
      refine ⟨left, hleft, ?_⟩
      rw [← hcons, ← hrest]
      simp [expand, hbrace]
    · simp only [literal, if_neg hbrace, List.cons_append, List.length_cons] at h ⊢
      obtain ⟨left, hleft, hrest⟩ := @ih fuel (by omega)
      refine ⟨left, hleft, ?_⟩
      rw [← hcons, ← hrest]
      simp [expand, hbrace]

/-- A plain field for the node is replaced by what fills it. -/
theorem expand_plainField
    {fill : Field → Except Fault (List Char)}
    {cs : List Char}
    (hfill : fill ⟨"node".toList, none, []⟩ = .ok cs)
    (rest : List Char)
    (fuel : Nat) :
    expand fill (fuel + 1) (plainField ++ rest) = (expand fill fuel rest).map (.afterField cs) := by
  have htake : takeField ('n' :: 'o' :: 'd' :: 'e' :: '\x7d' :: rest) =
      .ok (⟨"node".toList, none, []⟩, rest) := rfl
  show expand fill (fuel + 1) ('\x7b' :: 'n' :: 'o' :: 'd' :: 'e' :: '\x7d' :: rest) = _
  rw [expand, if_pos (.inl rfl), if_neg (by decide), if_neg (by decide), htake]
  dsimp only
  rw [hfill]

/-- A plain field for the node is filled with the node's name. -/
theorem fillField_node
    (room : Nat)
    (node : List Char)
    (inner : List Char → Except Fault (List Char)) :
    fillField room node inner ⟨"node".toList, none, []⟩ = .ok node := by
  have hlook : lookUp node "node".toList = .ok (.text node) := rfl
  unfold fillField
  dsimp only
  rw [hlook]
  rfl

/-- A plain field between literal texts gives the node's name between these texts. -/
theorem format_around
    (room : Nat)
    (front back node : String) :
    format room (around front back) node = .ok (Text.concat [front, node, back]) := by
  have hchars : (around front back).toList =
      literal front.toList ++ (plainField ++ literal back.toList) := by
    rw [around, String.toList_ofList, List.append_assoc]
  unfold format build
  rw [hchars]
  generalize hfill : fillField room node.toList (build room node.toList 1) = fill
  have hnode : fill ⟨"node".toList, none, []⟩ = .ok node.toList := hfill ▸ fillField_node _ _ _
  obtain ⟨left, hleft, hfront⟩ := expand_literal fill front.toList
    (plainField ++ literal back.toList) (Nat.lt_succ_self _)
  obtain ⟨fuel, rfl⟩ : ∃ n, left = n + 1 := Nat.exists_eq_succ_of_ne_zero (by omega)
  have hfit : (literal back.toList ++ []).length < fuel := by
    have hfield : plainField.length = 6 := rfl
    rw [List.append_nil]
    rw [List.length_append] at hleft
    omega
  obtain ⟨_, _, hback⟩ := expand_literal fill back.toList [] hfit
  rw [List.append_nil] at hback
  rw [hfront, expand_plainField hnode, hback, expand_nil]
  refine congrArg (fun codes => Except.ok (Text.ofCodes codes)) ?_
  simp [Expansion.all, Expansion.after, Expansion.afterField, Text.codes, Text.codesOf]

end Template
end Rebalance
