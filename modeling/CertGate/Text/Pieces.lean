/-!
# The pieces of a text between separators

* `splitText` : the parts of a text between the occurrences of a character, empty parts included;
* `joinTexts` : texts in a row, with a character between each two.

Joining the pieces gives the text back (`joinTexts_splitText`), texts without the character are the
pieces of their join (`splitText_joinTexts`), and there is one more piece than there are separators
(`length_splitText`), which are in none of them (`not_mem_of_mem_splitText`).
-/

namespace CertGate.Text

/-- The parts of a text between the occurrences of a character. -/
def splitText (sep : Char) (s : String) : List String :=
  (s.toList.splitOn sep).map String.ofList

def joinTexts (sep : Char) (ss : List String) : String :=
  String.ofList ([sep].intercalate (ss.map String.toList))

theorem toList_comp_ofList : String.toList ∘ String.ofList = id := by
  funext cs
  simp

theorem ofList_comp_toList : String.ofList ∘ String.toList = id := by
  funext s
  simp

theorem joinTexts_splitText (sep : Char) (s : String) : joinTexts sep (splitText sep s) = s := by
  rw [joinTexts, splitText, List.map_map, toList_comp_ofList, List.map_id,
    List.intercalate_splitOn, String.ofList_toList]

theorem splitText_joinTexts {sep : Char} {ss : List String} (ne : ss ≠ [])
    (h : ∀ s ∈ ss, sep ∉ s.toList) : splitText sep (joinTexts sep ss) = ss := by
  rw [splitText, joinTexts, String.toList_ofList, List.splitOn_intercalate, List.map_map,
    ofList_comp_toList, List.map_id]
  · intro cs mem
    obtain ⟨s, hs, rfl⟩ := List.mem_map.1 mem
    exact h s hs
  · intro nil
    exact ne (List.map_eq_nil_iff.1 nil)

theorem length_splitOn {α : Type} [DecidableEq α] (sep : α) (xs : List α) :
    (xs.splitOn sep).length = xs.count sep + 1 := by
  induction xs with
  | nil => rfl
  | cons x xs ih =>
    rw [List.splitOn, List.splitOnP_cons_eq_if_modifyHead]
    rw [List.splitOn] at ih
    by_cases h : x = sep
    · simp [h, ih]
    · simp [h, ih]

theorem length_splitText (sep : Char) (s : String) :
    (splitText sep s).length = s.toList.count sep + 1 := by
  rw [splitText, List.length_map, length_splitOn]

theorem not_mem_of_mem_splitOn {α : Type} [DecidableEq α] {sep : α} {xs ys : List α}
    (mem : ys ∈ xs.splitOn sep) : sep ∉ ys := by
  induction xs generalizing ys with
  | nil =>
    rw [List.splitOn, List.splitOnP_nil, List.mem_singleton] at mem
    simp [mem]
  | cons x xs ih =>
    rw [List.splitOn, List.splitOnP_cons_eq_if_modifyHead] at mem
    rw [List.splitOn] at ih
    by_cases h : x = sep
    · rw [if_pos (by simpa using h), List.mem_cons] at mem
      rcases mem with rfl | later
      · simp
      · exact ih later
    · rw [if_neg (by simpa using h)] at mem
      -- the first piece grows by an element that is no separator, the others stay
      cases pieces : xs.splitOnP (· == sep) with
      | nil => simp [pieces] at mem
      | cons first rest =>
        rw [pieces] at ih
        rw [pieces, List.modifyHead_cons, List.mem_cons] at mem
        rcases mem with rfl | later
        · rw [List.mem_cons, not_or]
          exact ⟨Ne.symm h, ih (by simp)⟩
        · exact ih (by simp [later])

/-- The pieces of a text are without the separator. -/
theorem not_mem_of_mem_splitText {sep : Char} {s piece : String} (mem : piece ∈ splitText sep s) :
    sep ∉ piece.toList := by
  obtain ⟨cs, inside, rfl⟩ := List.mem_map.1 mem
  rw [String.toList_ofList]
  exact not_mem_of_mem_splitOn inside

end CertGate.Text
