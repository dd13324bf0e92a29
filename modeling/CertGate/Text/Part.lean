/-!
# Beginnings and parts of a text

* `occursIn` : whether a list is a contiguous part of another;
* `startsText`, `partOfText` : whether a text begins with another one, or holds it anywhere.

The tests mean what their names say: `occursIn_iff` in terms of `<:+:`, `startsText_iff` by the rest
of the text, `partOfText_iff` by the texts on both sides of the part.
-/

namespace CertGate.Text

/-- Whether the first list is a contiguous part of the second. -/
def occursIn {α : Type} [BEq α] (part : List α) : List α → Bool
  | [] => part.isEmpty
  | b :: bs => part.isPrefixOf (b :: bs) || occursIn part bs

theorem occursIn_iff {α : Type} [BEq α] [LawfulBEq α] {part bs : List α} :
    occursIn part bs = true ↔ part <:+: bs := by
  induction bs with
  | nil => rw [occursIn, List.isEmpty_iff, List.infix_nil]
  | cons b bs ih =>
    rw [occursIn, Bool.or_eq_true, List.isPrefixOf_iff_prefix, ih, List.infix_cons_iff]

/-- Whether a text begins with another: `startsText start s`. -/
def startsText (start s : String) : Bool := start.toList.isPrefixOf s.toList

/-- Whether a text is a contiguous part of another: `partOfText part s`. -/
def partOfText (part s : String) : Bool := occursIn part.toList s.toList

theorem startsText_iff {start s : String} :
    startsText start s = true ↔ ∃ rest : String, s = start ++ rest := by
  rw [startsText, List.isPrefixOf_iff_prefix]
  constructor
  · rintro ⟨rest, h⟩
    exact ⟨String.ofList rest, String.toList_inj.1 (by simp [h])⟩
  · rintro ⟨rest, rfl⟩
    exact ⟨rest.toList, by simp⟩

theorem partOfText_iff {part s : String} :
    partOfText part s = true ↔ ∃ before after : String, s = before ++ part ++ after := by
  rw [partOfText, occursIn_iff]
  constructor
  · rintro ⟨before, after, h⟩
    exact ⟨String.ofList before, String.ofList after, String.toList_inj.1 (by simp [← h])⟩
  · rintro ⟨before, after, rfl⟩
    exact ⟨before.toList, after.toList, by simp⟩

end CertGate.Text
