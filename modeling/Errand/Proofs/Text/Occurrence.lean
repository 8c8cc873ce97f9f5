import Errand.Text.Search

/-!
# First occurrences

A text is cut at the first occurrence of another one (`Chars.breakAt?`). This
file says where that is: a part of the text may be passed over if no occurrence
begins in it. There are two ways to know that. No occurrence begins in a part
that lacks the first character of what is looked for; and none reaches over a
character that what is looked for lacks, so that such a character separates the
text in front of it from the text behind it.

## Main results

* `contains_iff`: to be found in a text is to be a part of it.
* `breakAt?_skip`: a part in which no occurrence begins is passed over.
* `breakAt?_of_head_not_mem`, `breakAt?_of_separator`: the two ways to know
  that none begins.
-/

namespace Errand.Chars

theorem isSome_dropLead? {lead cs : List Char} :
    (dropLead? lead cs).isSome = true ↔ lead <+: cs := by
  constructor
  · intro h
    obtain ⟨rest, hRest⟩ := Option.isSome_iff_exists.mp h
    exact ⟨rest, (eq_append_of_dropLead? hRest).symm⟩
  · rintro ⟨rest, rfl⟩
    rw [dropLead?_append]
    rfl

theorem dropLead?_eq_none {lead cs : List Char} (h : ¬ lead <+: cs) :
    dropLead? lead cs = none := by
  rw [← Option.not_isSome_iff_eq_none, isSome_dropLead?]
  exact h

/-- A text begins with its first occurrence in front of anything. -/
theorem breakAt?_self (needle rest : List Char) :
    breakAt? needle (needle ++ rest) = some ([], rest) := by
  have hLead := dropLead?_append needle rest
  cases hText : needle ++ rest with
  | nil =>
      obtain ⟨rfl, rfl⟩ := List.append_eq_nil_iff.mp hText
      rfl
  | cons c cs =>
      rw [hText] at hLead
      rw [breakAt?, hLead]

theorem breakAt?_cons {needle cs : List Char} {c : Char}
    (h : ¬ needle <+: c :: cs) :
    breakAt? needle (c :: cs) =
      (breakAt? needle cs).map (Prod.map (c :: ·) id) := by
  rw [breakAt?, dropLead?_eq_none h]
  rfl

/-- **To be found in a text is to be a part of it.** -/
theorem contains_iff {needle cs : List Char} : contains needle cs = true ↔
    needle <:+: cs := by
  unfold contains
  constructor
  · intro h
    obtain ⟨⟨before, rest⟩, hBreak⟩ := Option.isSome_iff_exists.mp h
    exact ⟨before, rest, (eq_of_breakAt? hBreak).symm⟩
  · intro h
    induction cs with
    | nil =>
        obtain rfl := List.infix_nil.mp h
        rfl
    | cons c cs ih =>
        by_cases hHere : needle <+: c :: cs
        · obtain ⟨rest, hRest⟩ := hHere
          rw [← hRest, breakAt?_self]
          rfl
        · rw [breakAt?_cons hHere, Option.isSome_map]
          exact ih ((List.infix_cons_iff.mp h).resolve_left hHere)

/-- What comes behind does not change where the first occurrence is. -/
theorem breakAt?_append {needle cs before rest : List Char}
    (h : breakAt? needle cs = some (before, rest)) (more : List Char) :
    breakAt? needle (cs ++ more) = some (before, rest ++ more) := by
  induction cs generalizing before with
  | nil =>
      rw [breakAt?] at h
      split at h
      · next hEmpty =>
        obtain ⟨rfl, rfl⟩ := Prod.mk.inj (Option.some.inj h)
        rw [List.isEmpty_iff.mp hEmpty]
        exact breakAt?_self [] more
      · cases h
  | cons c cs ih =>
      by_cases hHere : needle <+: c :: cs
      · obtain ⟨rest', hRest⟩ := hHere
        rw [← hRest, breakAt?_self] at h
        obtain ⟨rfl, rfl⟩ := Prod.mk.inj (Option.some.inj h)
        rw [← hRest, List.append_assoc, breakAt?_self]
      · rw [breakAt?_cons hHere] at h
        obtain ⟨⟨before', rest'⟩, hBreak, hParts⟩ := Option.map_eq_some_iff.mp h
        obtain ⟨rfl, rfl⟩ := Prod.mk.inj hParts
        have hInfix : needle <:+: cs :=
          ⟨before', rest', (eq_of_breakAt? hBreak).symm⟩
        -- the occurrence in the text shows that none is long enough to reach
        -- over its end
        have hStill : ¬ needle <+: c :: (cs ++ more) := fun hPrefix =>
          hHere (List.prefix_of_prefix_length_le hPrefix
              (List.prefix_append (c :: cs) more)
            (Nat.le_succ_of_le hInfix.length_le))
        rw [List.cons_append, breakAt?_cons hStill, ih hBreak]
        rfl

/-- **A part in which no occurrence begins is passed over.** -/
theorem breakAt?_skip {needle passed rest : List Char}
    (h : ∀ back, back <:+ passed → back ≠ [] → ¬ needle <+: back ++ rest) :
    breakAt? needle (passed ++ rest) =
      (breakAt? needle rest).map (Prod.map (passed ++ ·) id) := by
  induction passed with
  | nil =>
      show breakAt? needle rest = (breakAt? needle rest).map id
      rw [Option.map_id]
      rfl
  | cons c passed ih =>
      have hHere : ¬ needle <+: c :: (passed ++ rest) :=
        h (c :: passed) List.suffix_rfl (List.cons_ne_nil c passed)
      have hLater : ∀ back, back <:+ passed → back ≠ [] →
          ¬ needle <+: back ++ rest :=
        fun back hBack => h back (hBack.trans (List.suffix_cons c passed))
      rw [List.cons_append, breakAt?_cons hHere, ih hLater, Option.map_map]
      rfl

/-- No occurrence begins in a part without the first character of what is
looked for. -/
theorem breakAt?_of_head_not_mem {a : Char} {passed : List Char}
    (h : a ∉ passed) (needle rest : List Char) :
    breakAt? (a :: needle) (passed ++ rest) =
      (breakAt? (a :: needle) rest).map (Prod.map (passed ++ ·) id) := by
  refine breakAt?_skip fun back hBack hNonempty hLead => ?_
  obtain ⟨b, back, rfl⟩ := List.exists_cons_of_ne_nil hNonempty
  obtain ⟨rfl, -⟩ := List.cons_prefix_cons.mp hLead
  exact h (hBack.subset List.mem_cons_self)

/-- **No occurrence reaches over a character that is not in what is looked
for.** -/
theorem breakAt?_of_separator {needle passed : List Char} {c : Char}
    (hNot : contains needle passed = false) (hc : c ∉ needle)
    (rest : List Char) :
    breakAt? needle (passed ++ c :: rest) =
      (breakAt? needle rest).map (Prod.map (passed ++ [c] ++ ·) id) := by
  rw [List.append_cons]
  refine breakAt?_skip fun back hBack hNonempty hLead => ?_
  -- what is left of the passed part ends with the separator
  obtain ⟨back, rfl, hPassed⟩ :=
    (List.suffix_concat_iff.mp hBack).resolve_left hNonempty
  have hPart : ¬ needle <+: back := fun hPrefix => by
    rw [contains_iff.mpr (hPrefix.isInfix.trans hPassed.isInfix)] at hNot
    cases hNot
  have hReach : ¬ back ++ [c] <+: needle :=
    fun hPrefix =>
      hc (hPrefix.subset (List.mem_append_right back List.mem_cons_self))
  rcases List.prefix_or_prefix_of_prefix hLead (List.prefix_append _ rest)
    with hPrefix | hPrefix
  · rcases List.prefix_concat_iff.mp hPrefix with rfl | hPrefix
    · exact hReach List.prefix_rfl
    · exact hPart hPrefix
  · exact hReach hPrefix

/-- On both sides of such a character a text is found where it is part of one
side. -/
theorem infix_append_cons {needle front rest : List Char} {c : Char}
    (hc : c ∉ needle) (h : needle <:+: front ++ c :: rest) :
    needle <:+: front ∨ needle <:+: rest := by
  cases hFront : contains needle front with
  | true => exact .inl (contains_iff.mp hFront)
  | false =>
      rw [← contains_iff, contains, breakAt?_of_separator hFront hc,
        Option.isSome_map] at h
      exact .inr (contains_iff.mp h)

end Errand.Chars
