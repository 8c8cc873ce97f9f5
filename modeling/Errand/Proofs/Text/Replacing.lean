import Errand.Proofs.Text.Occurrence

/-!
# Replaced occurrences

A text is replaced where it occurs, from the left and without overlap
(`Chars.replace`). The result is read off the front of a text: an occurrence
there becomes what replaces it, and a part in which no occurrence begins stays,
whatever comes behind.

## Main results

* `replace_self`: an occurrence at the front is replaced.
* `replace_skip`: a part in which no occurrence begins stays.
-/

namespace Errand.Chars

variable {needle new : List Char}

/-! ## Pieces -/

/-- The piece that is being read is the beginning of the first piece. -/
theorem splitFrom_current (skip : Nat) (current cs : List Char) :
    splitFrom needle skip current cs =
      (splitFrom needle skip [] cs).modifyHead (current.reverse ++ ·) := by
  induction cs generalizing skip current with
  | nil =>
      simp only [splitFrom, List.reverse_nil, List.modifyHead_cons,
        List.append_nil]
  | cons c cs ih =>
      cases skip with
      | succ n => exact ih n current
      | zero =>
          simp only [splitFrom]
          split
          · simp only [List.reverse_nil, List.modifyHead_cons, List.append_nil]
          · -- both pieces begin with what was read before and this character
            rw [ih 0 (c :: current), ih 0 [c], List.modifyHead_modifyHead]
            congr 1
            funext piece
            simp

theorem splitFrom_ne_nil (skip : Nat) (current cs : List Char) :
    splitFrom needle skip current cs ≠ [] := by
  induction cs generalizing skip current with
  | nil => exact List.cons_ne_nil _ _
  | cons c cs ih =>
      cases skip with
      | succ n => exact ih n current
      | zero =>
          simp only [splitFrom]
          split
          · exact List.cons_ne_nil _ _
          · exact ih 0 (c :: current)

theorem splitFrom_skip (passed cs : List Char) :
    splitFrom needle passed.length [] (passed ++ cs) =
      splitFrom needle 0 [] cs := by
  induction passed with
  | nil => rfl
  | cons c passed ih => exact ih

theorem intercalate_modifyHead (separator front : List Char)
    {parts : List (List Char)} (h : parts ≠ []) :
    separator.intercalate (parts.modifyHead (front ++ ·)) =
      front ++ separator.intercalate parts := by
  obtain ⟨part, rest, rfl⟩ := List.exists_cons_of_ne_nil h
  cases rest with
  | nil => simp only [List.modifyHead_cons, List.intercalate_singleton]
  | cons next rest =>
      simp only [List.modifyHead_cons, List.intercalate_cons_cons,
        List.append_assoc]

/-! ## Replacing from the front -/

theorem replace_eq (h : needle ≠ []) (cs : List Char) :
    replace needle new cs = new.intercalate (splitFrom needle 0 [] cs) := by
  rw [replace, splitOn, if_neg (mt List.isEmpty_iff.mp h)]

/-- A character at which no occurrence begins stays. -/
theorem replace_cons {c : Char} {cs : List Char} (h : ¬ needle <+: c :: cs) :
    replace needle new (c :: cs) = c :: replace needle new cs := by
  have hNeedle : needle ≠ [] := fun hEmpty => h (hEmpty ▸ List.nil_prefix)
  have hStart : ¬ startsWith needle (c :: cs) = true := mt isSome_dropLead?.mp h
  rw [replace_eq hNeedle, replace_eq hNeedle, splitFrom, if_neg hStart,
    splitFrom_current, intercalate_modifyHead new _ (splitFrom_ne_nil 0 [] cs)]
  rfl

/-- **An occurrence at the front is replaced.** -/
theorem replace_self (h : needle ≠ []) (rest : List Char) :
    replace needle new (needle ++ rest) = new ++ replace needle new rest := by
  obtain ⟨a, needle, rfl⟩ := List.exists_cons_of_ne_nil h
  have hStart : startsWith (a :: needle) (a :: (needle ++ rest)) = true :=
    isSome_dropLead?.mpr (List.prefix_append (a :: needle) rest)
  rw [replace_eq h, replace_eq h, List.cons_append, splitFrom, if_pos hStart,
    List.length_cons, Nat.add_sub_cancel, splitFrom_skip]
  have hSome : splitFrom (a :: needle) 0 [] rest ≠ [] :=
    splitFrom_ne_nil 0 [] rest
  obtain ⟨piece, pieces, hPieces⟩ := List.exists_cons_of_ne_nil hSome
  rw [hPieces, List.intercalate_cons_cons]
  rfl

/-- **A part in which no occurrence begins stays.** -/
theorem replace_skip {passed rest : List Char}
    (h : ∀ back, back <:+ passed → back ≠ [] → ¬ needle <+: back ++ rest) :
    replace needle new (passed ++ rest) =
      passed ++ replace needle new rest := by
  induction passed with
  | nil => rfl
  | cons c passed ih =>
      have hHere : ¬ needle <+: c :: (passed ++ rest) :=
        h (c :: passed) List.suffix_rfl (List.cons_ne_nil c passed)
      have hLater : ∀ back, back <:+ passed → back ≠ [] →
          ¬ needle <+: back ++ rest :=
        fun back hBack => h back (hBack.trans (List.suffix_cons c passed))
      rw [List.cons_append, replace_cons hHere, ih hLater]
      rfl

end Errand.Chars
