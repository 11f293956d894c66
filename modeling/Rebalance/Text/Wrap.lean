/-!
# Words in lines

Texts put together, and words laid out in lines.  A line takes as many words as fit in its width; a
word longer than a whole line is cut where the line ends.  Blanks at the ends of lines are dropped.

* `joined`: texts with a separator between them.
* `unifyBreaks`: a text whose lines all end in the same way.
* `wrap`: the lines of a text.
* `length_of_mem_wrap`: no line is longer than the width.
-/

namespace Rebalance
namespace Text

/-- Texts with a separator between them. -/
def joined (separator : String) : List String → String
  | [] => ""
  | [s] => s
  | s :: rest => s ++ separator ++ joined separator rest

/-- A text with every line ended by a line feed. -/
def unifyBreaks : List Char → List Char
  | '\r' :: '\n' :: rest => '\n' :: unifyBreaks rest
  | '\r' :: rest => '\n' :: unifyBreaks rest
  | c :: rest => c :: unifyBreaks rest
  | [] => []

/-! ## Lines of a width -/

/-- The words of a text and the single blanks between them. -/
def chunksOf (cs : List Char) : List (List Char) :=
  (cs.splitOn ' ').intersperse [' ']

/-- The chunks at the head of a list that fit in a width, and the rest. -/
def takeFitting : (room : Nat) → List (List Char) → List (List Char) × List (List Char)
  | _, [] => ([], [])
  | room, c :: rest =>
    if c.length ≤ room then
      let (taken, left) := takeFitting (room - c.length) rest
      (c :: taken, left)
    else ([], c :: rest)

/-- A line with the head of a word that is longer than any line, as much of it as there is room. -/
def takeCut (width : Nat) (line left : List (List Char)) : List (List Char) × List (List Char) :=
  match left with
  | c :: rest =>
    if width < c.length then
      let room := width - line.flatten.length
      (line ++ [c.take room], c.drop room :: rest)
    else (line, left)
  | [] => (line, [])

/-- Whether a chunk shows nothing. -/
def isBare (c : List Char) : Bool :=
  c.all (· == ' ')

/-- A line without a bare chunk at its end. -/
def dropBareEnd (line : List (List Char)) : List (List Char) :=
  if line.getLast?.any isBare then line.dropLast else line

/-- The chunks of a new line; one that shows nothing is dropped. -/
def dropBareHead : List (List Char) → List (List Char)
  | c :: rest => if isBare c then rest else c :: rest
  | [] => []

/-- Lays chunks out in lines, with fuel for the characters and the chunks. -/
def wrapChunks (width : Nat) : (fuel : Nat) → List (List Char) → List (List Char)
  | 0, _ => []
  | _, [] => []
  | fuel + 1, chunks =>
    let (line, left) := takeFitting width chunks
    let (line, left) := takeCut width line left
    let rest := wrapChunks width fuel (dropBareHead left)
    match dropBareEnd line with
    | [] => rest
    | line => line.flatten :: rest

/-- The lines of a text in which single blanks stand between words. -/
def wrap (width : Nat) (s : String) : List String :=
  let chunks := chunksOf s.toList
  (wrapChunks width (s.length + chunks.length + 1) chunks).map String.ofList

/-! ## Laws -/

theorem length_takeFitting (room : Nat) (chunks : List (List Char)) :
    (takeFitting room chunks).1.flatten.length ≤ room := by
  induction chunks generalizing room with
  | nil => simp [takeFitting]
  | cons c rest ih =>
    rw [takeFitting]
    split
    · have := ih (room - c.length)
      simp only [List.flatten_cons, List.length_append]
      omega
    · simp

theorem length_takeCut {width : Nat} {line : List (List Char)} (left : List (List Char))
    (h : line.flatten.length ≤ width) : (takeCut width line left).1.flatten.length ≤ width := by
  unfold takeCut
  split
  · split
    · simp only [List.flatten_append, List.length_append, List.flatten_cons, List.flatten_nil,
        List.append_nil, List.length_take]
      omega
    · exact h
  · exact h

theorem length_dropBareEnd (line : List (List Char)) :
    (dropBareEnd line).flatten.length ≤ line.flatten.length := by
  unfold dropBareEnd
  split
  · rcases List.eq_nil_or_concat line with rfl | ⟨init, last, rfl⟩ <;> simp
  · exact Nat.le_refl _

theorem length_of_mem_wrapChunks {width fuel : Nat} {chunks : List (List Char)} {l : List Char}
    (h : l ∈ wrapChunks width fuel chunks) : l.length ≤ width := by
  induction fuel generalizing chunks with
  | zero => simp [wrapChunks] at h
  | succ fuel ih =>
    cases chunks with
    | nil => simp [wrapChunks] at h
    | cons c rest =>
      simp only [wrapChunks] at h
      split at h
      · exact ih h
      · rcases List.mem_cons.1 h with rfl | h
        · exact Nat.le_trans (length_dropBareEnd _)
            (length_takeCut _ (length_takeFitting width (c :: rest)))
        · exact ih h

/-- No line is longer than the width. -/
theorem length_of_mem_wrap {width : Nat} {s l : String} (h : l ∈ wrap width s) :
    l.toList.length ≤ width := by
  obtain ⟨cs, hcs, rfl⟩ := List.mem_map.1 h
  simpa using length_of_mem_wrapChunks hcs

end Text
end Rebalance
