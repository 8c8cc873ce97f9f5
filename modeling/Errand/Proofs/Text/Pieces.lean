import Errand.Proofs.Text.Replacing

/-!
# Pieces between separators

A text that is cut at one character (`Chars.splitOn` with a needle of one
character) is cut as a list is (`List.splitOn`), so its pieces are without that
character and put together give the text again.

## Main results

* `splitOn_singleton`: cutting a text at one character is cutting the list.
* `separator_not_mem`: no piece has the separator in it.
-/

namespace Errand.Chars

variable {separator : Char}

/-- **Cutting a text at one character is cutting the list.** -/
theorem splitOn_singleton (separator : Char) (cs : List Char) :
    splitOn [separator] cs = cs.splitOn separator := by
  show splitFrom [separator] 0 [] cs = _
  induction cs with
  | nil => rfl
  | cons c cs ih =>
      rw [List.splitOn_cons_eq_if_modifyHead, splitFrom, startsWith, dropLead?]
      by_cases hSame : separator = c
      · obtain rfl := hSame
        rw [if_pos rfl, if_pos BEq.rfl, ← ih]
        rfl
      · have hOther : ¬ (c == separator) = true := fun h =>
          hSame (beq_iff_eq.mp h).symm
        rw [if_neg hSame, if_neg hOther, ← ih]
        exact splitFrom_current 0 [c] cs

theorem intercalate_splitOn (separator : Char) (cs : List Char) :
    [separator].intercalate (splitOn [separator] cs) = cs := by
  rw [splitOn_singleton, List.intercalate_splitOn]

theorem splitOn_intercalate {pieces : List (List Char)}
    (h : ∀ piece ∈ pieces, separator ∉ piece) (hSome : pieces ≠ []) :
    splitOn [separator] ([separator].intercalate pieces) = pieces := by
  rw [splitOn_singleton, List.splitOn_intercalate separator h hSome]

theorem splitOn_ne_nil (separator : Char) (cs : List Char) :
    splitOn [separator] cs ≠ [] := by
  rw [splitOn_singleton]
  exact List.splitOn_ne_nil separator cs

/-- **No piece has the separator in it.** -/
theorem separator_not_mem {cs piece : List Char}
    (h : piece ∈ splitOn [separator] cs) : separator ∉ piece := by
  rw [splitOn_singleton] at h
  induction cs generalizing piece with
  | nil =>
      obtain rfl := List.mem_singleton.mp h
      exact List.not_mem_nil
  | cons c cs ih =>
      rw [List.splitOn_cons_eq_if_modifyHead] at h
      split at h
      · obtain rfl | hLater := List.mem_cons.mp h
        · exact List.not_mem_nil
        · exact ih hLater
      · next hOther =>
        obtain ⟨first, rest, hPieces⟩ :=
          List.exists_cons_of_ne_nil (List.splitOn_ne_nil separator cs)
        rw [hPieces] at h ih
        obtain rfl | hLater := List.mem_cons.mp h
        · refine List.not_mem_cons_of_ne_of_not_mem ?_ (ih List.mem_cons_self)
          rintro rfl
          exact hOther BEq.rfl
        · exact ih (List.mem_cons_of_mem first hLater)

/-- What is joined has characters of the parts and of what stands between
them. -/
theorem mem_intercalate {separator : List Char} {parts : List (List Char)}
    {c : Char} (h : c ∈ separator.intercalate parts) :
    c ∈ separator ∨ ∃ part ∈ parts, c ∈ part := by
  induction parts with
  | nil => cases h
  | cons part rest ih =>
      cases rest with
      | nil =>
          rw [List.intercalate_singleton] at h
          exact .inr ⟨part, List.mem_cons_self, h⟩
      | cons next rest =>
          rw [List.intercalate_cons_cons, List.append_assoc, List.mem_append,
            List.mem_append] at h
          rcases h with hHere | hBetween | hLater
          · exact .inr ⟨part, List.mem_cons_self, hHere⟩
          · exact .inl hBetween
          · exact (ih hLater).imp_right fun ⟨v, hv, hMem⟩ =>
              ⟨v, List.mem_cons_of_mem part hv, hMem⟩

/-- Everything in a part is in the parts together. -/
theorem mem_intercalate_of_mem {parts : List (List Char)} {part : List Char}
    {c : Char} (h : part ∈ parts) (hc : c ∈ part) (separator : List Char) :
    c ∈ separator.intercalate parts := by
  induction parts with
  | nil => cases h
  | cons first rest ih =>
      cases rest with
      | nil =>
          obtain rfl := List.mem_singleton.mp h
          rwa [List.intercalate_singleton]
      | cons next rest =>
          rw [List.intercalate_cons_cons]
          obtain rfl | hLater := List.mem_cons.mp h
          · exact List.mem_append_left _ (List.mem_append_left _ hc)
          · exact List.mem_append_right _ (ih hLater)

/-- Everything in a piece is in the text. -/
theorem mem_of_mem_splitOn {cs piece : List Char} {c : Char}
    (h : piece ∈ splitOn [separator] cs) (hc : c ∈ piece) : c ∈ cs :=
  intercalate_splitOn separator cs ▸ mem_intercalate_of_mem h hc [separator]

end Errand.Chars
