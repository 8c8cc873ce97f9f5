import Errand.Proofs.Platform.Mention
import Errand.Proofs.Text.Bytes

/-!
# Looking for a keyword byte by byte

A text can be searched for an ASCII keyword over its bytes: find the bytes of
the keyword, look at the characters next to them, and after an occurrence
inside of a longer word start anew one byte behind its beginning, or at the
first place from there that lies between two characters. Each round cuts the
text at places that count bytes, and a cut inside of a character is none
(`round`). A sweep is a run of such rounds to its end (`Sweep`).

The places where rounds start are those between characters, since the first
character of an occurrence ends at the next such place. So every sweep ends, no
cut of it fails, and nothing is passed over: an occurrence that overlaps a
rejected one begins behind it, at the next character at the earliest.

## Main results

* `round_cases`: what a round between two characters comes to, by the first
  occurrence from there on.
* `sweep_byteOffset`: a sweep from between two characters ends, and says
  whether the keyword stands alone somewhere from there on.
* `containsKeyword_swept`: looking for a keyword gives exactly the answer of
  `containsKeyword`, and the places that it stands for.
-/

namespace Errand.Chars

open Percent

/-! ## Places that count bytes -/

/-- The parts of a text in front of a place and behind it, where the place
counts bytes; none if it does not lie between two characters of the text or at
one of its ends. -/
def cutAtByte? : List Char → Nat → Option (List Char × List Char)
  | cs, 0 => some ([], cs)
  | [], _ + 1 => none
  | c :: cs, n + 1 =>
    if c.utf8Size ≤ n + 1 then
      (cutAtByte? cs (n + 1 - c.utf8Size)).map fun (front, rest) =>
        (c :: front, rest)
    else none

/-- The first place of some bytes among others. -/
def findBytes? (needle bytes : List UInt8) : Option Nat :=
  (List.range (bytes.length + 1)).find? fun place =>
    needle.isPrefixOf (bytes.drop place)

/-- The first place from `n` on at which the text can be cut. -/
def cutFrom? (text : List Char) (n : Nat) : Option Nat :=
  (List.range' n ((bytesOf text).length + 1 - n)).find? fun place =>
    (cutAtByte? text place).isSome

/-- Only the empty text has no bytes. -/
theorem eq_nil_of_bytesOf {cs : List Char} (h : 0 = (bytesOf cs).length) :
    cs = [] :=
  Classical.not_not.mp fun hSome =>
    bytesOf_ne_nil hSome (List.length_eq_zero_iff.mp h.symm)

theorem byteOffset_add (text : List Char) (k j : Nat) :
    byteOffset text (k + j) = byteOffset text k +
      byteOffset (text.drop k) j := by
  simp only [byteOffset, List.take_add, bytesOf_append, List.length_append]

theorem byteOffset_le (text : List Char) (k : Nat) :
    byteOffset text k ≤ (bytesOf text).length := by
  have hWhole :=
    congrArg (fun cs => (bytesOf cs).length) (List.take_append_drop k text)
  simp only [bytesOf_append, List.length_append] at hWhole
  unfold byteOffset
  omega

theorem byteOffset_lt_succ {text : List Char} {k : Nat} (hk : k < text.length) :
    byteOffset text k < byteOffset text (k + 1) := by
  have hPositive := Char.utf8Size_pos text[k]
  rw [byteOffset_add, List.drop_eq_getElem_cons hk, byteOffset_succ,
    String.length_utf8EncodeChar]
  omega

theorem byteOffset_mono (text : List Char) {j k : Nat} (h : j ≤ k) :
    byteOffset text j ≤ byteOffset text k := by
  obtain ⟨d, rfl⟩ := Nat.exists_eq_add_of_le h
  rw [byteOffset_add]
  exact Nat.le_add_right _ _

/-- A cut at the start has nothing in front of it. -/
theorem cutAtByte?_zero_eq_some_iff {text front rest : List Char} :
    cutAtByte? text 0 = some (front, rest) ↔ text = front ++ rest ∧
    0 = (bytesOf front).length := by
  simp only [cutAtByte?, Option.some.injEq, Prod.mk.injEq]
  constructor
  · rintro ⟨rfl, rfl⟩
    exact ⟨rfl, rfl⟩
  · rintro ⟨hText, hBytes⟩
    obtain rfl := eq_nil_of_bytesOf hBytes
    exact ⟨rfl, hText⟩

/-- **A cut gives two parts that make up the text**, the first with as many
bytes as are asked for. -/
theorem cutAtByte?_eq_some_iff {text front rest : List Char} {n : Nat} :
    cutAtByte? text n = some (front, rest) ↔ text = front ++ rest ∧
    n = (bytesOf front).length := by
  induction text generalizing n front with
  | nil =>
      cases n with
      | zero => exact cutAtByte?_zero_eq_some_iff
      | succ n =>
          refine iff_of_false nofun ?_
          rintro ⟨hText, hBytes⟩
          obtain ⟨rfl, -⟩ := List.append_eq_nil_iff.mp hText.symm
          cases hBytes
  | cons c text ih =>
      have hPositive := Char.utf8Size_pos c
      cases n with
      | zero => exact cutAtByte?_zero_eq_some_iff
      | succ n =>
          rw [cutAtByte?]
          constructor
          · intro h
            split at h
            · next hFits =>
              obtain ⟨⟨front', rest'⟩, hCut, hParts⟩ :=
                Option.map_eq_some_iff.mp h
              obtain ⟨rfl, rfl⟩ := Prod.mk.inj hParts
              obtain ⟨rfl, hBytes⟩ := ih.mp hCut
              refine ⟨rfl, ?_⟩
              rw [bytesOf_cons, List.length_append,
                String.length_utf8EncodeChar]
              omega
            · cases h
          · rintro ⟨hText, hBytes⟩
            cases front with
            | nil => cases hBytes
            | cons d front =>
                obtain ⟨rfl, rfl⟩ := List.cons.inj hText
                rw [bytesOf_cons, List.length_append,
                  String.length_utf8EncodeChar] at hBytes
                have hCut := ih.mpr ⟨rfl, Nat.sub_eq_of_eq_add' hBytes⟩
                rw [if_pos (by omega), hCut]
                rfl

/-- The text can be cut between any two of its characters. -/
theorem cutAtByte?_byteOffset (text : List Char) (k : Nat) :
    cutAtByte? text (byteOffset text k) = some (text.take k, text.drop k) :=
  cutAtByte?_eq_some_iff.mpr ⟨(List.take_append_drop k text).symm, rfl⟩

/-- A place that the text can be cut at is one between two characters. -/
theorem exists_of_isSome_cutAtByte? {text : List Char} {n : Nat}
    (h : (cutAtByte? text n).isSome = true) :
    ∃ k ≤ text.length, n = byteOffset text k := by
  obtain ⟨⟨front, rest⟩, hCut⟩ := Option.isSome_iff_exists.mp h
  obtain ⟨rfl, rfl⟩ := cutAtByte?_eq_some_iff.mp hCut
  refine ⟨front.length, ?_, ?_⟩
  · rw [List.length_append]
    exact Nat.le_add_right _ _
  · rw [byteOffset, List.take_left]

/-- **Behind the first byte of a character, the next cut is behind the
character.** -/
theorem cutFrom?_succ {text : List Char} {k : Nat} (hk : k < text.length) :
    cutFrom? text (byteOffset text k + 1) = some (byteOffset text (k + 1)) := by
  have hNext := byteOffset_lt_succ hk
  have hEnd := byteOffset_le text (k + 1)
  unfold cutFrom?
  refine List.find?_range'_eq_some.mpr ⟨?_, ?_, fun n hFrom hn => ?_⟩
  · rw [cutAtByte?_byteOffset]
    rfl
  · rw [List.mem_range'_1]
    omega
  · -- a place in between would be that of a character between two neighbours
    rw [Bool.not_eq_true', Bool.eq_false_iff]
    intro hCut
    obtain ⟨j, -, rfl⟩ := exists_of_isSome_cutAtByte? hCut
    rcases Nat.lt_or_ge k j with hBehind | hBefore
    · have : byteOffset text (k + 1) ≤ byteOffset text j :=
        byteOffset_mono text hBehind
      omega
    · have := byteOffset_mono text hBefore
      omega

/-- **The bytes of a needle are found where the needle occurs first.** -/
theorem findBytes?_cases {needle : List Char} (hNeedle : needle ≠ [])
    (text : List Char) :
    findBytes? (bytesOf needle) (bytesOf text) = none ∧
    (∀ j, ¬ needle <+: text.drop j) ∨
      ∃ j, findBytes? (bytesOf needle) (bytesOf text) =
        some (byteOffset text j) ∧
        needle <+: text.drop j ∧ ∀ i < j, ¬ needle <+: text.drop i := by
  cases hFind : findBytes? (bytesOf needle) (bytesOf text) with
  | none =>
      refine .inl ⟨rfl, fun j hOccurs => ?_⟩
      have hBytes := (bytesOf_prefix_drop_iff hNeedle).mpr ⟨j, rfl, hOccurs⟩
      have hMissed := List.find?_eq_none.mp hFind (byteOffset text j)
        (List.mem_range.mpr (Nat.lt_succ_of_le (byteOffset_le text j)))
      exact hMissed (List.isPrefixOf_iff_prefix.mpr hBytes)
  | some place =>
      obtain ⟨hHere, -, hEarlier⟩ := List.find?_range_eq_some.mp hFind
      obtain ⟨j, rfl, hOccurs⟩ :=
        (bytesOf_prefix_drop_iff hNeedle).mp
          (List.isPrefixOf_iff_prefix.mp hHere)
      refine .inr ⟨j, rfl, hOccurs, fun i hi hBefore => ?_⟩
      have hLength : j < text.length := by
        refine Nat.lt_of_not_le fun hBeyond => ?_
        rw [List.drop_of_length_le hBeyond] at hOccurs
        exact hNeedle (List.prefix_nil.mp hOccurs)
      have hPlace : byteOffset text i < byteOffset text j :=
        Nat.lt_of_lt_of_le (byteOffset_lt_succ (Nat.lt_trans hi hLength))
          (byteOffset_mono text hi)
      have hNot := hEarlier _ hPlace
      rw [Bool.not_eq_true', Bool.eq_false_iff] at hNot
      exact hNot (List.isPrefixOf_iff_prefix.mpr
          ((bytesOf_prefix_drop_iff hNeedle).mpr ⟨i, rfl, hBefore⟩))

end Errand.Chars

namespace Errand.Platform

open Chars Percent

/-! ## Rounds -/

instance (front rest : List Char) : Decidable (Apart front rest) :=
  inferInstanceAs (Decidable (_ ∧ _))

/-- What a round comes to. -/
inductive Verdict where
  | settled (found : Bool)
  /-- The next round starts at this place. -/
  | again (start : Nat)
deriving DecidableEq, Repr

/-- One round from a place that counts bytes; none if the text is cut inside of
a character. -/
def round (keyword text : List Char) (start : Nat) : Option Verdict := do
  let (_, rest) ← cutAtByte? text start
  match findBytes? (bytesOf keyword) (bytesOf rest) with
  | none => some (.settled false)
  | some place =>
    let (front, _) ← cutAtByte? text (start + place)
    let (_, behind) ← cutAtByte? text (start + place + (bytesOf keyword).length)
    if Apart front behind then some (.settled true)
    else (cutFrom? text (start + place + 1)).map .again

/-- Rounds from a place to their end, none of which cuts the text inside of a
character. -/
inductive Sweep (keyword text : List Char) : (start : Nat) → (found : Bool) →
    Prop where
  | settled {start : Nat} {found : Bool} :
      round keyword text start = some (.settled found) →
      Sweep keyword text start found
  | again {start next : Nat} {found : Bool} :
      round keyword text start = some (.again next) →
      Sweep keyword text next found → Sweep keyword text start found

/-- A sweep has one outcome. -/
theorem Sweep.unique {keyword text : List Char} {start : Nat}
    {found found' : Bool} (h : Sweep keyword text start found)
    (h' : Sweep keyword text start found') : found = found' := by
  induction h with
  | settled hRound =>
      cases h' with
      | settled hRound' =>
          rw [hRound] at hRound'
          cases hRound'
          rfl
      | again hRound' _ => cases hRound.symm.trans hRound'
  | again hRound _ ih =>
      cases h' with
      | settled hRound' => cases hRound.symm.trans hRound'
      | again hRound' hNext =>
          rw [hRound] at hRound'
          cases hRound'
          exact ih hNext

/-- The keyword stands alone somewhere in the text, behind at least `k`
characters. -/
def StandsFrom (keyword text : List Char) (k : Nat) : Prop :=
  ∃ front rest, text = front ++ (keyword ++ rest) ∧ k ≤ front.length ∧
    Apart front rest

section

variable {keyword text : List Char} {k : Nat}

theorem round_of_missing
    (h : findBytes? (bytesOf keyword) (bytesOf (text.drop k)) = none) :
    round keyword text (byteOffset text k) = some (.settled false) := by
  unfold round
  rw [cutAtByte?_byteOffset, Option.bind_eq_bind, Option.bind_some]
  simp only [h]

/-- A round that finds the keyword looks at both sides of it, and goes on one
character behind its beginning. -/
theorem round_of_first {j : Nat} {rest : List Char}
    (hFind : findBytes? (bytesOf keyword) (bytesOf (text.drop k)) =
      some (byteOffset (text.drop k) j))
    (hText : text = text.take (k + j) ++ (keyword ++ rest))
    (hPlace : k + j < text.length) :
    round keyword text (byteOffset text k) =
      some (if Apart (text.take (k + j)) rest then .settled true
        else .again (byteOffset text (k + j + 1))) := by
  have hBehind : cutAtByte? text
        (byteOffset text (k + j) + (bytesOf keyword).length) =
      some (text.take (k + j) ++ keyword, rest) := by
    refine cutAtByte?_eq_some_iff.mpr
      ⟨by rw [List.append_assoc]; exact hText, ?_⟩
    rw [bytesOf_append, List.length_append, byteOffset]
  unfold round
  rw [cutAtByte?_byteOffset, Option.bind_eq_bind, Option.bind_some]
  simp only [hFind]
  rw [← byteOffset_add, cutAtByte?_byteOffset, Option.bind_some, hBehind,
    Option.bind_some, cutFrom?_succ hPlace, Option.map_some]
  exact (apply_ite some ..).symm

/-- An occurrence behind at least `k` characters is one in what is behind `k`
characters. -/
theorem prefix_of_occurrence {front rest : List Char}
    (hText : text = front ++ (keyword ++ rest)) (hFront : k ≤ front.length) :
    keyword <+: (text.drop k).drop (front.length - k) := by
  rw [List.drop_drop, Nat.add_sub_cancel' hFront, hText, List.drop_left]
  exact List.prefix_append keyword rest

/-- **What a round between two characters comes to.** It is settled by the
first occurrence from there on, or the next round starts one character behind
the beginning of that. -/
theorem round_cases (hKeyword : keyword ≠ []) (text : List Char) (k : Nat) :
    round keyword text (byteOffset text k) = some (.settled false) ∧
    ¬ StandsFrom keyword text k ∨
      round keyword text (byteOffset text k) = some (.settled true) ∧
      StandsFrom keyword text k ∨
      ∃ j, k < j ∧ j ≤ text.length ∧
      round keyword text (byteOffset text k) =
        some (.again (byteOffset text j)) ∧
        (StandsFrom keyword text k ↔ StandsFrom keyword text j) := by
  rcases findBytes?_cases hKeyword (text.drop k) with
      ⟨hFind, hNone⟩ | ⟨j, hFind, ⟨rest, hRest⟩, hFirst⟩
  · refine .inl ⟨round_of_missing hFind, ?_⟩
    rintro ⟨front, rest, hText, hFront, -⟩
    exact hNone _ (prefix_of_occurrence hText hFront)
  · rw [List.drop_drop] at hRest
    have hPlace : k + j < text.length := by
      refine Nat.lt_of_not_le fun hBeyond => hKeyword ?_
      rw [List.drop_of_length_le hBeyond] at hRest
      exact (List.append_eq_nil_iff.mp hRest).1
    have hText : text = text.take (k + j) ++ (keyword ++ rest) := by
      rw [hRest, List.take_append_drop]
    have hTaken : (text.take (k + j)).length = k + j :=
      List.length_take_of_le (Nat.le_of_lt hPlace)
    have hRound := round_of_first hFind hText hPlace
    by_cases hApart : Apart (text.take (k + j)) rest
    · rw [if_pos hApart] at hRound
      exact .inr (.inl ⟨hRound, text.take (k + j), rest, hText,
          by omega, hApart⟩)
    · rw [if_neg hApart] at hRound
      refine .inr (.inr ⟨k + j + 1, by omega, by omega, hRound, ?_, ?_⟩)
      · rintro ⟨front, rest', hText', hFront, hApart'⟩
        have hNotBefore : j ≤ front.length - k :=
          Nat.le_of_not_lt fun hBefore =>
            hFirst _ hBefore (prefix_of_occurrence hText' hFront)
        -- an occurrence at the same place has the same neighbours
        have hOther : front.length ≠ k + j := by
          intro hSame
          have hRests : keyword ++ rest = keyword ++ rest' := by
            rw [hRest, ← hSame, hText', List.drop_left]
          rw [← hSame, hText', List.take_left,
            List.append_cancel_left hRests] at hApart
          exact hApart hApart'
        exact ⟨front, rest', hText', by omega, hApart'⟩
      · rintro ⟨front, rest', hText', hFront, hApart'⟩
        exact ⟨front, rest', hText', by omega, hApart'⟩

/-- **A sweep from between two characters ends**, and says whether the keyword
stands alone somewhere from there on. The induction is on what is left of the
text. -/
theorem sweep_byteOffset (hKeyword : keyword ≠ []) (text : List Char)
    (k : Nat) :
    ∃ found, Sweep keyword text (byteOffset text k) found ∧
    (found = true ↔ StandsFrom keyword text k) := by
  rcases round_cases hKeyword text k with
    ⟨hRound, hNone⟩ | ⟨hRound, hStands⟩ | ⟨j, hBehind, hj, hRound, hSame⟩
  · exact ⟨false, .settled hRound, iff_of_false Bool.false_ne_true hNone⟩
  · exact ⟨true, .settled hRound, iff_of_true rfl hStands⟩
  · obtain ⟨found, hSweep, hFound⟩ := sweep_byteOffset hKeyword text j
    exact ⟨found, .again hRound hSweep, hFound.trans hSame.symm⟩
termination_by text.length - k

end

/-! ## Whole searches -/

/-- The answer of a search for a keyword over the bytes of a text: a sweep for
a keyword of ASCII, and any occurrence for other keywords. -/
def Searched (text : List Char) (keyword : String) (found : Bool) : Prop :=
  if lowered keyword = [] then found = false
  else if IsAscii (lowered keyword) then Sweep (lowered keyword) text 0 found
  else found = (findBytes? (bytesOf (lowered keyword)) (bytesOf text)).isSome

theorem isSome_findBytes? {needle text : List Char} (hNeedle : needle ≠ []) :
    (findBytes? (bytesOf needle) (bytesOf text)).isSome = true ↔
    needle <:+: text := by
  rw [List.infix_iff_prefix_suffix]
  rcases findBytes?_cases hNeedle text with ⟨hFind, hNone⟩ | ⟨j, hFind,
    hOccurs, -⟩
  · rw [hFind]
    refine iff_of_false Bool.false_ne_true ?_
    rintro ⟨rest, hPrefix, hSuffix⟩
    rw [List.suffix_iff_eq_drop.mp hSuffix] at hPrefix
    exact hNone _ hPrefix
  · rw [hFind]
    exact iff_of_true rfl ⟨text.drop j, hOccurs, List.drop_suffix j text⟩

/-- **A search for a keyword over the bytes of a text ends, never cuts a
character, and has one answer**: whether the trimmed keyword in lower case is
not empty and occurs in the text, anywhere if it is not of ASCII, and otherwise
somewhere with no letter or digit of ASCII on either side. -/
theorem containsKeyword_swept (text : List Char) (keyword : String) :
    (∀ found, Searched text keyword found ↔
      found = containsKeyword text keyword) ∧
      (containsKeyword text keyword = true ↔ lowered keyword ≠ [] ∧
        (¬ IsAscii (lowered keyword) → lowered keyword <:+: text) ∧
        (IsAscii (lowered keyword) →
          ∃ front rest, text = front ++ (lowered keyword ++ rest) ∧
          Apart front rest)) := by
  have hContains : containsKeyword text keyword = true ↔ lowered keyword ≠ [] ∧
      (¬ IsAscii (lowered keyword) → lowered keyword <:+: text) ∧
      (IsAscii (lowered keyword) →
        ∃ front rest, text = front ++ (lowered keyword ++ rest) ∧
        Apart front rest) := by
    rw [containsKeyword_iff]
    by_cases hAscii : IsAscii (lowered keyword)
    · simp only [hAscii, not_true_eq_false, false_implies,
        true_implies, true_and]
    · simp only [hAscii, not_false_eq_true, false_implies, true_implies,
        and_true, List.IsInfix, List.append_assoc, eq_comm]
  refine ⟨fun found => ?_, hContains⟩
  unfold Searched
  by_cases hEmpty : lowered keyword = []
  · have hFalse : containsKeyword text keyword = false :=
      Bool.eq_false_iff.mpr fun hTrue => (hContains.mp hTrue).1 hEmpty
    rw [if_pos hEmpty, hFalse]
  · rw [if_neg hEmpty]
    by_cases hAscii : IsAscii (lowered keyword)
    · rw [if_pos hAscii]
      obtain ⟨answer, hSweep, hAnswer⟩ := sweep_byteOffset hEmpty text 0
      have hSame : answer = containsKeyword text keyword := by
        rw [Bool.eq_iff_iff, hAnswer, hContains]
        simp only [StandsFrom, Nat.zero_le, true_and, ne_eq, hEmpty,
          not_false_eq_true, hAscii, not_true_eq_false, false_implies,
          true_implies]
      rw [← hSame]
      exact ⟨fun h => h.unique hSweep, fun h => h ▸ hSweep⟩
    · rw [if_neg hAscii]
      have hSame :
          (findBytes? (bytesOf (lowered keyword)) (bytesOf text)).isSome =
            containsKeyword text keyword := by
        rw [Bool.eq_iff_iff, isSome_findBytes? hEmpty, hContains]
        simp only [ne_eq, hEmpty, not_false_eq_true, hAscii, false_implies,
          true_implies, and_true, true_and]
      rw [hSame]

end Errand.Platform
