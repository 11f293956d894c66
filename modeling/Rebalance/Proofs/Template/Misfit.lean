import Mathlib.Data.List.Basic
import Rebalance.Template

/-!
# Templates whose faults only say that they do not fit

* `IsBare`: text without a square bracket that opens and without a colon.  A field in such a text
  takes no item of a value and has no layout (`takeField_bare`).
* `isMisfit_of_steps`: members of members either are there or are unknown.
* `isMisfit_of_format`: a bare template that has no text does not fit.
-/

namespace Rebalance
namespace Template

/-- Whether a text takes no items and starts no layout. -/
structure IsBare (cs : List Char) : Prop where
  item : '[' ∉ cs
  layout : ':' ∉ cs

theorem isBare_cons_iff
    {c : Char}
    {cs : List Char} :
    IsBare (c :: cs) ↔ (c ≠ '[' ∧ c ≠ ':') ∧ IsBare cs := by
  constructor
  · rintro ⟨hitem, hlayout⟩
    rw [List.mem_cons, not_or] at hitem hlayout
    exact ⟨⟨Ne.symm hitem.1, Ne.symm hlayout.1⟩, hitem.2, hlayout.2⟩
  · rintro ⟨⟨hitem, hlayout⟩, hrest⟩
    exact ⟨List.not_mem_cons_of_ne_of_not_mem (Ne.symm hitem) hrest.item,
      List.not_mem_cons_of_ne_of_not_mem (Ne.symm hlayout) hrest.layout⟩

/-! ## Fields of a bare text -/

/-- The name of a field in a bare text takes no item, and no layout follows it. -/
theorem takeName_bare
    {cs : List Char}
    (h : IsBare cs) :
    (∃ name stop rest, takeName false cs = .ok (name, stop, rest) ∧
      '[' ∉ name ∧ stop ≠ ':' ∧ IsBare rest) ∨ takeName false cs = .error .malformed := by
  induction cs with
  | nil => exact .inr rfl
  | cons c cs ih =>
    obtain ⟨⟨hitem, hlayout⟩, hrest⟩ := isBare_cons_iff.mp h
    have hinside : decide (c = '[') = false := decide_eq_false hitem
    by_cases hopen : c = '\x7b'
    · exact .inr (by simp [takeName, hopen])
    by_cases hstop : c = '\x7d' ∨ c = ':' ∨ c = '!'
    · exact .inl ⟨[], c, cs, by simp [takeName, hopen, hstop], List.not_mem_nil, hlayout, hrest⟩
    rcases ih hrest with ⟨name, stop, rest, hname, hbare, hcolon, hmore⟩ | hmalformed
    · refine .inl ⟨c :: name, stop, rest, ?_, ?_, hcolon, hmore⟩
      · simp [takeName, hopen, hstop, hinside, hname, Except.map]
      · exact List.not_mem_cons_of_ne_of_not_mem (Ne.symm hitem) hbare
    · exact .inr (by simp [takeName, hopen, hstop, hinside, hmalformed, Except.map])

/-- A field in a bare text takes no item and has no layout. -/
theorem takeField_bare
    {cs : List Char}
    (h : IsBare cs) :
    (∃ field rest, takeField cs = .ok (field, rest) ∧
      '[' ∉ field.name ∧ field.layout = [] ∧ IsBare rest) ∨ takeField cs = .error .malformed := by
  rcases takeName_bare h with ⟨name, stop, rest, hname, hbare, hcolon, hrest⟩ | hmalformed
  · by_cases hclose : stop = '\x7d'
    · exact .inl ⟨⟨name, none, []⟩, rest, by simp [takeField, hname, hclose], hbare, rfl, hrest⟩
    match rest with
    | [] => exact .inr (by simp [takeField, hname, hclose, hcolon])
    | [conversion] => exact .inr (by simp [takeField, hname, hclose, hcolon])
    | conversion :: mark :: more =>
      obtain ⟨_, hafter⟩ := isBare_cons_iff.mp hrest
      obtain ⟨⟨_, hmark⟩, hmore⟩ := isBare_cons_iff.mp hafter
      by_cases hend : mark = '\x7d'
      · refine .inl ⟨⟨name, some conversion, []⟩, more, ?_, hbare, rfl, hmore⟩
        simp [takeField, hname, hclose, hcolon, hend]
      · refine .inr ?_
        rw [takeField, hname]
        dsimp only
        rw [if_neg hclose, if_neg hcolon]
        split
        · next heq => cases heq
        · next heq => exact absurd (List.cons.inj (List.cons.inj heq).2).1 hend
        · next heq => exact absurd (List.cons.inj (List.cons.inj heq).2).1 hmark
        · rfl
  · exact .inr (by simp [takeField, hmalformed])

/-! ## Faults of a field -/

theorem isMisfit_of_index
    {cs : List Char}
    {e : Fault}
    (h : index cs = .error e) :
    e.isMisfit = true := by
  unfold index at h
  split at h
  · cases h
  · split at h
    · cases h
      rfl
    · cases h

theorem isMisfit_of_member
    {v : Value}
    {name : String}
    {e : Fault}
    (h : v.member name = .error e) :
    e.isMisfit = true := by
  unfold Value.member at h
  split at h
  · cases h
  · cases h
    rfl

/-- Members of members that are not found are unknown. -/
theorem isMisfit_of_steps
    {fuel : Nat}
    {v : Value}
    {cs : List Char}
    {e : Fault}
    (hitem : '[' ∉ cs)
    (h : steps fuel v cs = .error e) :
    e.isMisfit = true := by
  induction fuel generalizing v cs with
  | zero =>
    cases cs with
    | nil => cases h
    | cons c cs =>
      cases h
      rfl
  | succ fuel ih =>
    cases cs with
    | nil => cases h
    | cons c cs =>
      rw [List.mem_cons, not_or] at hitem
      rw [steps] at h
      split at h
      · dsimp only at h
        split at h
        · cases h
          rfl
        · split at h
          · next hmember =>
            cases h
            exact isMisfit_of_member hmember
          · refine ih (fun hmem => hitem.2 ?_) h
            exact (List.dropWhile_sublist _).subset hmem
      · rw [if_neg (Ne.symm hitem.1)] at h
        cases h
        rfl

theorem isMisfit_of_lookUp
    {node name : List Char}
    {e : Fault}
    (hitem : '[' ∉ name)
    (h : lookUp node name = .error e) :
    e.isMisfit = true := by
  unfold lookUp at h
  dsimp only at h
  split at h
  · next hindex =>
    cases h
    exact isMisfit_of_index hindex
  · cases h
    rfl
  · split at h
    · cases h
      rfl
    · split at h
      · refine isMisfit_of_steps (fun hmem => hitem ?_) h
        exact (List.dropWhile_sublist _).subset hmem
      · cases h
        rfl

theorem isMisfit_of_convert
    {v : Value}
    {c : Char}
    {e : Fault}
    (h : v.convert c = .error e) :
    e.isMisfit = true := by
  unfold Value.convert at h
  split at h
  · cases h
  · split at h
    · cases h
    · split at h
      · cases h
      · cases h
        rfl

/-- A field that takes no item and has no layout is filled, or does not fit. -/
theorem isMisfit_of_fillField
    {room : Nat}
    {node : List Char}
    {inner : List Char → Except Fault (List Char)}
    {field : Field}
    {e : Fault}
    (hitem : '[' ∉ field.name)
    (hlayout : field.layout = [])
    (h : fillField room node inner field = .error e) :
    e.isMisfit = true := by
  unfold fillField at h
  rw [hlayout] at h
  split at h
  · next hlook =>
    cases h
    exact isMisfit_of_lookUp hitem hlook
  · split at h
    · next hconvert =>
      cases h
      split at hconvert
      · exact isMisfit_of_convert hconvert
      · cases hconvert
    · cases h

/-! ## Faults of a template -/

/-- A bare text is expanded, or does not fit, when its fields are filled or do not fit. -/
theorem isMisfit_of_expand
    {fill : Field → Except Fault (List Char)}
    (hfill : ∀ field e, '[' ∉ field.name → field.layout = [] → fill field = .error e →
      e.isMisfit = true)
    {fuel : Nat}
    {cs : List Char}
    {e : Fault}
    (hbare : IsBare cs)
    (h : expand fill fuel cs = .error e) :
    e.isMisfit = true := by
  have mapped {x : Except Fault Expansion} {f : Expansion → Expansion} {e : Fault}
      (hx : x.map f = .error e) : x = .error e := by
    cases x with
    | error g => exact congrArg Except.error (Except.error.inj hx)
    | ok a => cases hx
  induction fuel generalizing cs with
  | zero => cases h
  | succ fuel ih =>
    cases cs with
    | nil => cases h
    | cons c rest =>
      obtain ⟨_, hrest⟩ := isBare_cons_iff.mp hbare
      unfold expand at h
      split at h
      · cases rest with
        | nil =>
          cases h
          rfl
        | cons d more =>
          obtain ⟨_, hmore⟩ := isBare_cons_iff.mp hrest
          dsimp only at h
          split at h
          · exact ih hmore (mapped h)
          · split at h
            · cases h
              rfl
            · rcases takeField_bare hrest with
                ⟨field, left, hfield, hitem, hlayout, hleft⟩ | hmalformed
              · rw [hfield] at h
                dsimp only at h
                split at h
                · next hfault =>
                  cases h
                  exact hfill field e hitem hlayout hfault
                · exact ih hleft (mapped h)
              · rw [hmalformed] at h
                cases h
                rfl
      · exact ih hrest (mapped h)

/-- A bare template that has no text for a node does not fit. -/
theorem isMisfit_of_format
    {room : Nat}
    {template node : String}
    {e : Fault}
    (hbare : IsBare template.toList)
    (h : format room template node = .error e) :
    e.isMisfit = true := by
  unfold format build at h
  generalize hx : expand _ _ _ = x at h
  cases x with
  | ok text => cases h
  | error g =>
    cases h
    refine isMisfit_of_expand ?_ hbare hx
    intro field e hitem hlayout hfault
    exact isMisfit_of_fillField hitem hlayout hfault

end Template
end Rebalance
