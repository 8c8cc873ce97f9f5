import Errand.Text.Case

/-!
# Lower case

Two lower cases are in use. That of ASCII letters keeps every character in its
place; the full one is what mentions are looked for in. Apart from the capital
sigma, whose form depends on what stands around it, the full one takes every
character by itself and does not tell apart what the other one has made equal.
So a word without a capital sigma that occurs in a text up to the case of ASCII
letters occurs there in lower case as well.

A character that is neither cased nor passed over by casing ends a word, so the
lower case of the text in front of it and of the text behind it can be taken
one by one.

## Main results

* `lowerFrom_of_ascii`: on ASCII the two lower cases are the same.
* `lower_infix_of_asciiLower`: a word without a capital sigma is found in lower
  case where it is found up to the case of ASCII letters.
* `lower_append_cons`: lower case on both sides of a character that ends a word.
-/

namespace Errand.Chars

open Text.Table

/-! ## Lower case of ASCII -/

/-- What holds of all code points of ASCII holds of a character of ASCII. -/
theorem of_ascii {P : Char → Prop} (h : ∀ n < 0x80, P (Char.ofNat n)) {c : Char}
    (hc : c.toNat < 0x80) : P c := by
  have hChar := h c.toNat hc
  rwa [Char.ofNat_toNat] at hChar

/-- What is decided of all characters of a text holds of them. -/
theorem forall_mem_of_all {P : Char → Prop} [DecidablePred P] {cs : List Char}
    (h : (cs.all fun c => P c) = true) : ∀ c ∈ cs, P c :=
  fun c hc => of_decide_eq_true (List.all_eq_true.mp h c hc)

/-- A code point is that of its character. -/
theorem toNat_ofNat {n : Nat} (h : n.isValidChar) :
    (Char.ofNat n).toNat = n := by
  rw [Char.ofNat, dif_pos h]
  rfl

theorem toLower_of_le {c : Char} (h : 0x80 ≤ c.toNat) : c.toLower = c := by
  unfold Char.toLower
  rw [dif_neg]
  rintro ⟨-, hLe⟩
  have hUpper : c.toNat ≤ 0x5A := hLe
  omega

theorem lowerFrom_of_ascii {cs : List Char} (h : ∀ c ∈ cs, c.toNat < 0x80)
    (before : List Char) : lowerFrom before cs = asciiLower cs := by
  induction cs generalizing before with
  | nil => rfl
  | cons c rest ih =>
      have hc : c.toNat < 0x80 := h c List.mem_cons_self
      have hSigma : c ≠ 'Σ' := by
        rintro rfl
        exact absurd hc (by decide)
      have hDotted : c ≠ 'İ' := by
        rintro rfl
        exact absurd hc (by decide)
      rw [lowerFrom, if_neg hSigma, if_neg hDotted, lowerChar, if_pos hc,
        ih fun d hd => h d (List.mem_cons_of_mem c hd)]
      rfl

/-- A text whose ASCII letters in lower case make up an ASCII word is that word
in lower case. -/
theorem lower_of_asciiLower {cs word : List Char}
    (hWord : (word.all fun c => c.toNat < 0x80) = true)
    (h : asciiLower cs = word) : lower cs = word := by
  have hAscii : ∀ c ∈ cs, c.toNat < 0x80 := by
    intro c hc
    have hLower : c.toLower.toNat < 0x80 :=
      of_decide_eq_true (List.all_eq_true.mp hWord _
          (h ▸ List.mem_map_of_mem hc))
    by_cases hSmall : c.toNat < 0x80
    · exact hSmall
    · rwa [toLower_of_le (Nat.not_lt.mp hSmall)] at hLower
  rw [lower, lowerFrom_of_ascii hAscii, h]

theorem asciiLower_append (cs ds : List Char) :
    asciiLower (cs ++ ds) = asciiLower cs ++ asciiLower ds :=
  List.map_append

theorem asciiLower_cons (c : Char) (cs : List Char) :
    asciiLower (c :: cs) = c.toLower :: asciiLower cs :=
  rfl

/-! ## Characters taken by themselves -/

/-- The lower-case form of a character other than the capital sigma. -/
def lowerForm (c : Char) : List Char :=
  if c = 'İ' then ['i', '\u0307']
  else [lowerChar c]

/-- The lower-case form does not tell apart the cases of ASCII letters. -/
theorem lowerForm_toLower (c : Char) : lowerForm c.toLower = lowerForm c := by
  by_cases hSmall : c.toNat < 0x80
  · exact of_ascii (P := fun c => lowerForm c.toLower = lowerForm c)
      (by decide) hSmall
  · rw [toLower_of_le (Nat.not_lt.mp hSmall)]

theorem flatMap_lowerForm_asciiLower (cs : List Char) :
    (asciiLower cs).flatMap lowerForm = cs.flatMap lowerForm := by
  induction cs with
  | nil => rfl
  | cons c cs ih =>
      rw [List.flatMap_cons, ← lowerForm_toLower c, ← ih]
      rfl

theorem lowerFrom_cons {c : Char} (h : c ≠ 'Σ') (before rest : List Char) :
    lowerFrom before (c :: rest) =
      lowerForm c ++ lowerFrom (c :: before) rest := by
  rw [lowerFrom, if_neg h]
  rfl

/-- A part without a capital sigma has its lower-case form wherever it
stands. -/
theorem lowerFrom_append {part : List Char} (h : 'Σ' ∉ part)
    (before rest : List Char) :
    lowerFrom before (part ++ rest) =
      part.flatMap lowerForm ++ lowerFrom (part.reverse ++ before) rest := by
  induction part generalizing before with
  | nil => rfl
  | cons c part ih =>
      have hc : c ≠ 'Σ' := fun hSame => h (hSame ▸ List.mem_cons_self)
      rw [List.cons_append, lowerFrom_cons hc,
        ih (List.not_mem_of_not_mem_cons h), List.flatMap_cons,
        List.append_assoc, List.reverse_cons, List.append_assoc,
        List.singleton_append]

theorem lower_eq_flatMap {cs : List Char} (h : 'Σ' ∉ cs) :
    lower cs = cs.flatMap lowerForm := by
  have hWhole := lowerFrom_append h [] []
  rwa [List.append_nil, show lowerFrom (cs.reverse ++ []) [] = [] from rfl,
    List.append_nil] at hWhole

/-- What stands in front of a part is in front of its lower case. -/
theorem exists_lowerFrom_append (before front rest : List Char) :
    ∃ front', lowerFrom before (front ++ rest) =
      front' ++ lowerFrom (front.reverse ++ before) rest := by
  induction front generalizing before with
  | nil => exact ⟨[], rfl⟩
  | cons c front ih =>
      obtain ⟨front', hFront⟩ := ih (c :: before)
      rw [List.cons_append, lowerFrom, hFront, List.reverse_cons,
        List.append_assoc, List.singleton_append, ← List.append_assoc]
      exact ⟨_, rfl⟩

theorem lower_ne_nil {cs : List Char} (h : cs ≠ []) : lower cs ≠ [] := by
  obtain ⟨c, cs, rfl⟩ := List.exists_cons_of_ne_nil h
  rw [lower, lowerFrom]
  split
  · exact List.cons_ne_nil _ _
  · split <;> exact List.cons_ne_nil _ _

theorem sigma_mem_asciiLower {cs : List Char} : 'Σ' ∈ asciiLower cs ↔
    'Σ' ∈ cs := by
  constructor
  · intro h
    obtain ⟨c, hc, hLower⟩ := List.mem_map.mp h
    by_cases hSmall : c.toNat < 0x80
    · exact absurd hLower (of_ascii (P := fun c => c.toLower ≠ 'Σ')
          (by decide) hSmall)
    · rw [toLower_of_le (Nat.not_lt.mp hSmall)] at hLower
      exact hLower ▸ hc
  · intro h
    exact List.mem_map.mpr ⟨'Σ', h, by decide⟩

/-- **A word without a capital sigma is found in lower case where it is found
up to the case of ASCII letters.** -/
theorem lower_infix_of_asciiLower {word cs : List Char} (hSigma : 'Σ' ∉ word)
    (h : asciiLower word <:+: asciiLower cs) : lower word <:+: lower cs := by
  obtain ⟨front, rest, hText⟩ := h
  -- the part of the text that is the word up to the case of ASCII letters
  obtain ⟨before, after, rfl, hBefore, hAfter⟩ :=
    List.map_eq_append_iff.mp hText.symm
  obtain ⟨outer, part, rfl, hOuter, hPart⟩ := List.map_eq_append_iff.mp hBefore
  have hPart : asciiLower part = asciiLower word := hPart
  have hPartSigma : 'Σ' ∉ part := by
    rw [← sigma_mem_asciiLower, hPart, sigma_mem_asciiLower]
    exact hSigma
  obtain ⟨front', hFront⟩ := exists_lowerFrom_append [] outer (part ++ after)
  have hSame : part.flatMap lowerForm = lower word := by
    rw [lower_eq_flatMap hSigma, ← flatMap_lowerForm_asciiLower, hPart,
      flatMap_lowerForm_asciiLower]
  unfold lower at hSame ⊢
  rw [List.append_assoc, hFront, lowerFrom_append hPartSigma, hSame]
  exact ⟨front', _, List.append_assoc ..⟩

/-! ## Characters that end a word -/

/-- The character ends a word: it is neither cased nor passed over by casing. -/
def EndsWord (c : Char) : Prop :=
  inRanges c.toNat caseIgnorable = false ∧ inRanges c.toNat cased = false

instance (c : Char) : Decidable (EndsWord c) :=
  inferInstanceAs (Decidable (_ ∧ _))

theorem casedComes_append_cons {c : Char} (hc : EndsWord c)
    (cs rest : List Char) : casedComes (cs ++ c :: rest) = casedComes cs := by
  induction cs with
  | nil =>
      show (if inRanges c.toNat caseIgnorable then casedComes rest
            else inRanges c.toNat cased) = false
      rw [hc.1, hc.2]
      rfl
  | cons d cs ih => rw [List.cons_append, casedComes, casedComes, ih]

/-- What stands in front of such a character does not matter behind it. -/
theorem lowerFrom_behind {c : Char} (hc : EndsWord c)
    (cs before before' : List Char) :
    lowerFrom (before ++ c :: before') cs = lowerFrom before cs := by
  induction cs generalizing before with
  | nil => rfl
  | cons d cs ih =>
      have hRest := ih (d :: before)
      rw [List.cons_append] at hRest
      rw [lowerFrom, lowerFrom, casedComes_append_cons hc, hRest]

/-- **Lower case on both sides of a character that ends a word.** -/
theorem lower_append_cons {c : Char} (hc : EndsWord c)
    (front rest : List Char) :
    lower (front ++ c :: rest) = lower front ++ lowerForm c ++ lower rest := by
  have hSigma : c ≠ 'Σ' := by
    rintro rfl
    exact absurd hc (by decide)
  have hFrom : ∀ before, lowerFrom before (front ++ c :: rest) =
      lowerFrom before front ++ lowerForm c ++ lower rest := by
    induction front with
    | nil =>
        intro before
        rw [List.nil_append, lowerFrom_cons hSigma]
        exact congrArg (lowerForm c ++ ·) (lowerFrom_behind hc rest [] before)
    | cons d front ih =>
        intro before
        rw [List.cons_append, lowerFrom, lowerFrom,
          casedComes_append_cons hc, ih]
        simp only [List.append_assoc]
  exact hFrom []

end Errand.Chars
