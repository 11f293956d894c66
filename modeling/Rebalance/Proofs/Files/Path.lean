import Rebalance.Files.Path
import Rebalance.Proofs.Text.Split

/-!
# Texts as paths

* `Path.name_ofString_eq_iff`: a text is the last name of the path it spells just when it has no
  slash and is not a single dot.
* `Path.join_of_not_mem`: continuing a path by such a text adds it as one name.
* `Path.name_child`, `Path.parent_child`, `Path.child_inj`: a path that was continued by a name ends
  in that name, and is the path before without it.
-/

namespace Rebalance
namespace Files
namespace Path

/-! ## Names of a text -/

theorem isName_toList_iff
    (s : String) :
    isName s.toList = true ↔ s ≠ "" ∧ s ≠ "." := by
  have hdot : s.toList = ['.'] ↔ s = "." := by
    rw [← String.toList_inj]
    rfl
  simp [isName, hdot]

/-- A text without a slash spells its own name, unless it says nothing. -/
theorem ofString_of_not_mem
    {s : String}
    (h : '/' ∉ s.toList) :
    ofString s = ⟨.relative, if isName s.toList then [s] else []⟩ := by
  have hroot : rootOf s.toList = .relative := by
    unfold rootOf
    cases hs : s.toList with
    | nil => rfl
    | cons c cs =>
      rw [hs, List.mem_cons, not_or] at h
      simp [Ne.symm h.1]
  unfold ofString
  simp only [hroot, List.splitOn_eq_singleton h]
  cases hname : isName s.toList <;> simp [hname]

/-- No name of a path that a text spells holds a slash. -/
theorem not_mem_of_mem_ofString
    {s name : String}
    (h : name ∈ (ofString s).names) :
    '/' ∉ name.toList := by
  obtain ⟨piece, hpiece, rfl⟩ := List.mem_map.mp h
  intro hslash
  rw [String.toList_ofList] at hslash
  exact (Text.mem_of_mem_splitOn (List.mem_filter.mp hpiece).1 hslash).2 rfl

theorem not_mem_name_ofString
    (s : String) :
    '/' ∉ (ofString s).name.toList := by
  unfold name
  cases h : (ofString s).names.getLast? with
  | none => simp
  | some last => exact not_mem_of_mem_ofString (List.mem_of_getLast? h)

/-- A text is the last name of the path it spells just when it has no slash and is no dot. -/
theorem name_ofString_eq_iff
    (s : String) :
    (ofString s).name = s ↔ '/' ∉ s.toList ∧ s ≠ "." := by
  constructor
  · intro h
    refine ⟨h ▸ not_mem_name_ofString s, ?_⟩
    rintro rfl
    exact absurd h (by decide)
  · rintro ⟨hslash, hdot⟩
    rw [ofString_of_not_mem hslash]
    by_cases hempty : s = ""
    · subst hempty
      rfl
    · simp [(isName_toList_iff s).mpr ⟨hempty, hdot⟩, name]

/-! ## Continued paths -/

/-- A path continued by a text without a slash has it as one more name, unless it says nothing. -/
theorem join_of_not_mem
    (p : Path)
    {s : String}
    (hslash : '/' ∉ s.toList)
    (hempty : s ≠ "")
    (hdot : s ≠ ".") :
    p.join s = p.child s := by
  simp [join, ofString_of_not_mem hslash, (isName_toList_iff s).mpr ⟨hempty, hdot⟩, child]

@[simp] theorem name_child
    (p : Path)
    (n : String) :
    (p.child n).name = n := by
  simp [name, child]

@[simp] theorem parent_child
    (p : Path)
    (n : String) :
    (p.child n).parent = p := by
  simp [parent, child]

theorem child_inj
    {p : Path}
    {m n : String} :
    p.child m = p.child n ↔ m = n := by
  simp [child]

/-- Paths that end in different names are different, whatever they continue. -/
theorem child_ne
    {p q : Path}
    {m n : String}
    (h : m ≠ n) :
    p.child m ≠ q.child n := by
  intro heq
  refine h ?_
  rw [← p.name_child m, heq, name_child]

end Path
end Files
end Rebalance
