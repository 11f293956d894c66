/-!
# Texts cut at a separator

* `splitOn_append_of_not_mem`: what stands in front of the first separator belongs to the first
  piece.
* `mem_of_mem_splitOn`: the pieces hold the characters of the text, but no separator.
-/

namespace Rebalance
namespace Text

theorem splitOn_append_of_not_mem
    {sep : Char}
    {cs : List Char}
    (h : sep ∉ cs)
    (rest : List Char) :
    (cs ++ rest).splitOn sep = (rest.splitOn sep).modifyHead (cs ++ ·) := by
  obtain ⟨p, ps, hsplit⟩ := List.exists_cons_of_ne_nil (List.splitOn_ne_nil sep rest)
  induction cs with
  | nil =>
    rw [List.nil_append, hsplit]
    rfl
  | cons c cs ih =>
    rw [List.mem_cons, not_or] at h
    rw [List.cons_append, List.splitOn_cons_eq_if_modifyHead, if_neg (by simpa using Ne.symm h.1),
      ih h.2, hsplit]
    rfl

theorem mem_of_mem_splitOn
    {sep c : Char}
    {cs piece : List Char}
    (hpiece : piece ∈ cs.splitOn sep)
    (hc : c ∈ piece) :
    c ∈ cs ∧ c ≠ sep := by
  induction cs generalizing piece with
  | nil =>
    rw [List.splitOn_nil, List.mem_singleton] at hpiece
    simp [hpiece] at hc
  | cons d cs ih =>
    rw [List.splitOn_cons_eq_if_modifyHead] at hpiece
    split at hpiece
    · rcases List.mem_cons.mp hpiece with rfl | hpiece
      · simp at hc
      · exact (ih hpiece hc).imp_left (List.mem_cons_of_mem d)
    · next hd =>
      obtain ⟨p, ps, hsplit⟩ := List.exists_cons_of_ne_nil (List.splitOn_ne_nil sep cs)
      rw [hsplit] at hpiece ih
      rcases List.mem_cons.mp hpiece with rfl | hpiece
      · rcases List.mem_cons.mp hc with rfl | hc
        · exact ⟨List.mem_cons_self, by simpa using hd⟩
        · exact (ih List.mem_cons_self hc).imp_left (List.mem_cons_of_mem d)
      · exact (ih (List.mem_cons_of_mem p hpiece) hc).imp_left (List.mem_cons_of_mem d)

end Text
end Rebalance
