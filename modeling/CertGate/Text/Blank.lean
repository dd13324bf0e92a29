/-!
# Blanks and trimming

* `isBlank` : the characters counted as white space, `isSpace` the same without four controls;
* `trimBy` : a list without the elements of a class at its two ends, used for characters here and
  for octets elsewhere;
* `trim` : a text without the blanks at its two ends.

Trimming leaves a list alone when neither of its ends is in the class (`trimBy_eq_self`), and takes
away what is put around it (`trimBy_surrounded`) and nothing else (`exists_eq_trimBy`).
-/

namespace CertGate.Text

/-- The white space of Unicode: the five ASCII controls from tab to carriage return, the four
separators of information, and the spaces and line separators of every plane. -/
def isBlank (c : Char) : Bool :=
  let n := c.toNat
  (0x09 ≤ n && n ≤ 0x0D) || (0x1C ≤ n && n ≤ 0x20) || n == 0x85 || n == 0xA0 || n == 0x1680 ||
    (0x2000 ≤ n && n ≤ 0x200A) || n == 0x2028 || n == 0x2029 || n == 0x202F || n == 0x205F ||
    n == 0x3000

/-- The white space of Unicode without the separators of information. -/
def isSpace (c : Char) : Bool := isBlank c && !(0x1C ≤ c.toNat && c.toNat ≤ 0x1F)

section TrimBy

variable {α : Type}

def trimEndBy (p : α → Bool) (xs : List α) : List α :=
  (xs.reverse.dropWhile p).reverse

def trimBy (p : α → Bool) (xs : List α) : List α :=
  trimEndBy p (xs.dropWhile p)

/-- Nothing is trimmed from the end when the last element is not of the class. -/
theorem trimEndBy_concat {p : α → Bool} {a : α} (h : p a = false) (xs : List α) :
    trimEndBy p (xs ++ [a]) = xs ++ [a] := by
  simp [trimEndBy, h]

theorem dropWhile_eq_self {p : α → Bool} {xs : List α} (hd : ∀ a ∈ xs.head?, p a = false) :
    xs.dropWhile p = xs := by
  cases xs with
  | nil => rfl
  | cons a xs => simp [hd a (by simp)]

/-- A list that neither begins nor ends with an element of the class is left alone. -/
theorem trimBy_eq_self {p : α → Bool} {xs : List α} (hd : ∀ a ∈ xs.head?, p a = false)
    (tl : ∀ a ∈ xs.getLast?, p a = false) : trimBy p xs = xs := by
  rw [trimBy, dropWhile_eq_self hd]
  rcases List.eq_nil_or_concat xs with rfl | ⟨ys, a, rfl⟩
  · rfl
  · rw [List.concat_eq_append] at tl ⊢
    exact trimEndBy_concat (tl a (by simp)) ys

/-- What is trimmed from a list that only ends in the class follows what is left of it. -/
theorem exists_trimBy_append {p : α → Bool} {xs : List α} (hd : ∀ a ∈ xs.head?, p a = false)
    (tl : ∃ a ∈ xs.getLast?, p a = true) : ∃ more, more ≠ [] ∧ xs = trimBy p xs ++ more := by
  have front := dropWhile_eq_self hd
  obtain ⟨a, last, blank⟩ := tl
  rcases List.eq_nil_or_concat xs with rfl | ⟨ys, b, rfl⟩
  · cases last
  · rw [List.concat_eq_append] at front last ⊢
    rw [List.getLast?_concat] at last
    cases last
    refine ⟨((ys ++ [a]).reverse.takeWhile p).reverse, by simp [blank], ?_⟩
    rw [trimBy, front, trimEndBy, ← List.reverse_append, List.takeWhile_append_dropWhile,
      List.reverse_reverse]

theorem dropWhile_eq_nil {p : α → Bool} {xs : List α} (h : ∀ a ∈ xs, p a = true) :
    xs.dropWhile p = [] := by
  have whole := @List.dropWhile_append_of_pos α p xs [] h
  rwa [List.append_nil] at whole

/-- What is of the class on both sides does not count. -/
theorem trimBy_surrounded {p : α → Bool} {before xs after : List α} (front : ∀ a ∈ before, p a = true)
    (back : ∀ a ∈ after, p a = true) : trimBy p (before ++ xs ++ after) = trimBy p xs := by
  have bare : after.reverse.dropWhile p = [] :=
    dropWhile_eq_nil fun a mem => back a (List.mem_reverse.1 mem)
  rw [trimBy, List.append_assoc, List.dropWhile_append_of_pos front, List.dropWhile_append]
  split
  · next none => rw [trimBy, dropWhile_eq_nil back, List.isEmpty_iff.1 none]
  · rw [trimBy, trimEndBy, List.reverse_append, List.dropWhile_append, bare]
    rfl

/-- A list is what is left of it between two ends of the class. -/
theorem exists_eq_trimBy (p : α → Bool) (xs : List α) :
    ∃ before after, (∀ a ∈ before, p a = true) ∧ (∀ a ∈ after, p a = true) ∧
      xs = before ++ trimBy p xs ++ after := by
  let rest := xs.dropWhile p
  have back : rest = trimBy p xs ++ (rest.reverse.takeWhile p).reverse := by
    rw [trimBy, trimEndBy, ← List.reverse_append, List.takeWhile_append_dropWhile,
      List.reverse_reverse]
  refine ⟨xs.takeWhile p, (rest.reverse.takeWhile p).reverse, ?_, ?_, ?_⟩
  · exact List.all_eq_true.1 List.all_takeWhile
  · exact fun a mem => List.all_eq_true.1 List.all_takeWhile a (List.mem_reverse.1 mem)
  · rw [List.append_assoc, ← back, List.takeWhile_append_dropWhile]

end TrimBy

def trim (s : String) : String := String.ofList (trimBy isBlank s.toList)

@[simp] theorem toList_trim (s : String) : (trim s).toList = trimBy isBlank s.toList := by
  simp [trim]

end CertGate.Text
