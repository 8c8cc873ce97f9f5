import Errand.Text.Blank

/-!
# Trimming and blankness

Trimming takes blanks off a text and nothing else, so it cannot make a text
blank that was not. What is left begins and ends with characters that are not
blank, so trimming it once more changes nothing.

## Main results

* `Text.trim_trim`: a trimmed text is left as it is.
* `Text.isBlank_trim`: a trimmed text is blank exactly if the text was.
* `Text.isBlank_append`: a text is blank exactly if its two parts are.
-/

namespace Errand.Chars

theorem all_dropWhile (p : Char → Bool) (cs : List Char) :
    (cs.dropWhile p).all p = cs.all p := by
  induction cs with
  | nil => rfl
  | cons c rest ih =>
      by_cases hc : p c = true
      · rw [List.dropWhile_cons_of_pos hc, ih, List.all_cons, hc, Bool.true_and]
      · rw [List.dropWhile_cons_of_neg hc]

theorem allBlank_trimStart (cs : List Char) :
    allBlank (trimStart cs) = allBlank cs :=
  all_dropWhile isBlank cs

theorem allBlank_trimEnd (cs : List Char) :
    allBlank (trimEnd cs) = allBlank cs := by
  unfold allBlank trimEnd
  rw [List.all_reverse, all_dropWhile, List.all_reverse]

theorem allBlank_trim (cs : List Char) : allBlank (trim cs) = allBlank cs := by
  unfold trim
  rw [allBlank_trimEnd, allBlank_trimStart]

/-! ## What trimming leaves -/

theorem trimStart_cons {c : Char} (hc : isBlank c = false) (rest : List Char) :
    trimStart (c :: rest) = c :: rest :=
  List.dropWhile_cons_of_neg (by rw [hc]; decide)

theorem isBlank_of_trimStart {cs rest : List Char} {c : Char}
    (h : trimStart cs = c :: rest) : isBlank c = false := by
  have hHead := List.head?_dropWhile_not isBlank cs
  change cs.dropWhile isBlank = _ at h
  rwa [h] at hHead

theorem trimStart_trimStart (cs : List Char) :
    trimStart (trimStart cs) = trimStart cs := by
  cases h : trimStart cs with
  | nil => rfl
  | cons c rest => exact trimStart_cons (isBlank_of_trimStart h) rest

theorem trimEnd_trimEnd (cs : List Char) :
    trimEnd (trimEnd cs) = trimEnd cs := by
  show (trimStart (trimStart cs.reverse).reverse.reverse).reverse = _
  rw [List.reverse_reverse, trimStart_trimStart]
  rfl

theorem trimEnd_cons {c : Char} (hc : isBlank c = false) (rest : List Char) :
    trimEnd (c :: rest) = c :: trimEnd rest := by
  unfold trimEnd
  rw [List.reverse_cons, List.dropWhile_append]
  cases hRest : rest.reverse.dropWhile isBlank with
  | nil =>
      rw [List.dropWhile_cons_of_neg (by rw [hc]; decide)]
      rfl
  | cons d ds => simp

theorem trimEnd_concat {c : Char} (hc : isBlank c = false) (cs : List Char) :
    trimEnd (cs ++ [c]) = cs ++ [c] := by
  show (trimStart (cs ++ [c]).reverse).reverse = _
  rw [List.reverse_concat, trimStart_cons hc, List.reverse_cons,
    List.reverse_reverse]

/-- Nothing in front of a character that is not blank is taken off the end. -/
theorem trimEnd_append_cons {c : Char} (hc : isBlank c = false)
    (front rest : List Char) :
    trimEnd (front ++ c :: rest) = front ++ c :: trimEnd rest := by
  induction front with
  | nil => exact trimEnd_cons hc rest
  | cons d front ih =>
      unfold trimEnd at ih ⊢
      rw [List.cons_append, List.reverse_cons, List.dropWhile_append]
      cases hRest : (front ++ c :: rest).reverse.dropWhile isBlank with
      | nil =>
          rw [hRest] at ih
          simp at ih
      | cons e es =>
          rw [hRest] at ih
          simpa using ih

theorem isPrefix_trimEnd (cs : List Char) : trimEnd cs <+: cs := by
  have hSuffix : cs.reverse.dropWhile isBlank <:+ cs.reverse :=
    List.dropWhile_suffix isBlank
  have hPrefix := List.reverse_prefix.mpr hSuffix
  rwa [List.reverse_reverse] at hPrefix

/-- Trimming leaves characters of the text. -/
theorem trim_subset (cs : List Char) : trim cs ⊆ cs := fun _ hc =>
  (List.dropWhile_suffix isBlank).subset
    ((isPrefix_trimEnd (trimStart cs)).subset hc)

theorem trim_trim (cs : List Char) : trim (trim cs) = trim cs := by
  unfold trim
  cases h : trimStart cs with
  | nil => rfl
  | cons c rest =>
      have hc := isBlank_of_trimStart h
      rw [trimEnd_cons hc, trimStart_cons hc, trimEnd_cons hc, trimEnd_trimEnd]

/-- The last character that trimming leaves is not blank. -/
theorem isBlank_of_trimEnd {cs front : List Char} {c : Char}
    (h : trimEnd cs = front ++ [c]) : isBlank c = false := by
  have hReverse : trimStart cs.reverse = c :: front.reverse := by
    have hTwice := congrArg List.reverse h
    rwa [List.reverse_concat, trimEnd, List.reverse_reverse] at hTwice
  exact isBlank_of_trimStart hReverse

theorem trim_cons_of_isBlank {c : Char} (hc : isBlank c = true)
    (cs : List Char) : trim (c :: cs) = trim cs := by
  unfold trim trimStart
  rw [List.dropWhile_cons_of_pos hc]

/-- A text between two characters that are not blank is left as it is. -/
theorem trim_of_ends {first last : Char} (hFirst : isBlank first = false)
    (hLast : isBlank last = false) (middle : List Char) :
    trim (first :: (middle ++ [last])) = first :: (middle ++ [last]) := by
  unfold trim
  rw [trimStart_cons hFirst, ← List.cons_append, trimEnd_concat hLast]

/-- A text that neither begins nor ends with a blank is left as it is. -/
theorem trim_of_solid_ends {cs : List Char}
    (hFirst : ∀ c ∈ cs.head?, isBlank c = false)
    (hLast : ∀ c ∈ cs.getLast?, isBlank c = false) : trim cs = cs := by
  have hStart : trimStart cs = cs := by
    cases cs with
    | nil => rfl
    | cons c rest => exact trimStart_cons (hFirst c rfl) rest
  rw [trim, hStart]
  rcases List.eq_nil_or_concat cs with rfl | ⟨front, last, rfl⟩
  · rfl
  · rw [List.concat_eq_append] at hLast ⊢
    exact trimEnd_concat (hLast last List.getLast?_concat) front

/-- A text that begins with no blank and ends like a trimmed text is left as it
is. -/
theorem trim_cons_append {c : Char} (hc : isBlank c = false)
    (middle : List Char) {cs : List Char} (hTrim : trim cs = cs)
    (hSome : cs ≠ []) : trim (c :: (middle ++ cs)) = c :: (middle ++ cs) := by
  obtain ⟨front, last, rfl⟩ := (List.eq_nil_or_concat cs).resolve_left hSome
  rw [List.concat_eq_append] at *
  have hLast : isBlank last = false := isBlank_of_trimEnd hTrim
  rw [← List.append_assoc]
  exact trim_of_ends hc hLast (middle ++ front)

end Errand.Chars

namespace Errand.Text

theorem trim_trim (s : String) : trim (trim s) = trim s := by
  unfold trim
  rw [String.toList_ofList, Chars.trim_trim]

/-- A text without blanks is trimmed. -/
theorem trim_of_solid {s : String}
    (h : ∀ c ∈ s.toList, Chars.isBlank c = false) : trim s = s := by
  unfold trim
  rw [Chars.trim_of_solid_ends (fun c hc => h c (List.mem_of_mem_head? hc))
    (fun c hc => h c (List.mem_of_mem_getLast? hc)), String.ofList_toList]

theorem isBlank_trim (s : String) : isBlank (trim s) = isBlank s := by
  unfold isBlank trim
  rw [String.toList_ofList, Chars.allBlank_trim]

theorem isBlank_append (s t : String) :
    isBlank (s ++ t) = (isBlank s && isBlank t) := by
  unfold isBlank Chars.allBlank
  rw [String.toList_append, List.all_append]

/-- A text that begins with a text that is not blank is not blank. -/
theorem isBlank_append_of_left {s : String} (h : isBlank s = false)
    (t : String) : isBlank (s ++ t) = false := by
  rw [isBlank_append, h, Bool.false_and]

/-- Lines of which the first is not blank make up a text that is not blank. -/
theorem isBlank_intercalate {first : String} (h : isBlank first = false)
    (separator : String) (rest : List String) :
    isBlank (separator.intercalate (first :: rest)) = false := by
  cases rest with
  | nil => rw [String.intercalate_singleton, h]
  | cons second rest =>
      rw [String.intercalate_cons_cons]
      exact isBlank_append_of_left (isBlank_append_of_left h _) _

end Errand.Text
