import Errand.Platform.Keyword
import Errand.Proofs.Query.Shape

/-!
# Fillers at the edges

Fillers are peeled off the edges of a segment until a word comes that is none
and that no filler of more than one character begins or ends. Such a word is
*firm*, and it stops the peeling: what stands behind it stays as it is, fillers
or not. A filler of one character may be in the way only where the edge touches
a mention.

This file follows the peeling through the two ways to ask for a search that
have the platform at an edge of the request: `search … on` in front of a
mention and `搜索…` behind one.

## Main results

* `Filler.peel_of_firm`: a firm word stops the peeling.
* `Segment.kept_search_on`, `Segment.kept_search_behind`: of the two segments,
  the words to search for are kept.
-/

namespace Errand

open Chars

namespace Filler

/-! ## Firm words -/

/-- The word is no filler, and no Chinese filler of more than one character
begins it. -/
structure FirmStart (w : List Char) : Prop where
  noFiller : isWord w = false
  noLead : ∀ f ∈ chinese, 1 < f.length → startsWith f.toList w = false

/-- The word is no filler, and no Chinese filler of more than one character
ends it. -/
structure FirmEnd (w : List Char) : Prop where
  noFiller : isWord w = false
  noTail : ∀ f ∈ chinese, 1 < f.length → endsWith f.toList w = false

/-- Away from a mention only fillers of more than one character count. -/
theorem exists_of_mem_chineseAt {f : List Char} (h : f ∈ chineseAt false) :
    ∃ g ∈ chinese, 1 < g.length ∧ g.toList = f := by
  obtain ⟨hMem, hLong⟩ := List.mem_filter.mp h
  obtain ⟨g, hg, rfl⟩ := List.mem_map.mp hMem
  refine ⟨g, hg, ?_, rfl⟩
  rw [← String.length_toList]
  exact of_decide_eq_true hLong

theorem stripOne?_of_firmStart {w : List Char} (h : FirmStart w) :
    stripOne? false w = none := by
  refine List.findSome?_eq_none_iff.mpr fun f hf => ?_
  obtain ⟨g, hg, hLong, rfl⟩ := exists_of_mem_chineseAt hf
  exact Option.isNone_iff_eq_none.mp
    (Option.isSome_eq_false_iff.mp (h.noLead g hg hLong))

theorem stripOneEnd?_of_firmEnd {w : List Char} (h : FirmEnd w) :
    stripOneEnd? false w = none := by
  refine List.findSome?_eq_none_iff.mpr fun f hf => ?_
  obtain ⟨g, hg, hLong, rfl⟩ := exists_of_mem_chineseAt hf
  have hNone : dropLead? g.toList.reverse w.reverse = none :=
    Option.isNone_iff_eq_none.mp
      (Option.isSome_eq_false_iff.mp (h.noTail g hg hLong))
  rw [hNone]
  rfl

/-! ## Peeling -/

section

variable {strip : Bool → List Char → Option (List Char)} {touching : Bool}
  {w : List Char} {rest : List (List Char)}

/-- A filler is peeled off, and then the edge touches no mention any more. -/
theorem peel_of_isWord (h : isWord w = true) :
    peel strip touching (w :: rest) = peel strip false rest := by
  rw [peel, if_pos h]

theorem stripAll_of_none (h : strip touching w = none) (rounds : Nat) :
    stripAll strip rounds touching w = (w, false) := by
  cases rounds with
  | zero => rfl
  | succ rounds => rw [stripAll, h]

/-- What is left of a word that is no filler stops the peeling. -/
theorem peel_of_stripAll {w' : List Char} (hFiller : isWord w = false)
    (hAll : (stripAll strip w.length touching w).1 = w') (hSome : w' ≠ []) :
    peel strip touching (w :: rest) = w' :: rest := by
  have hPeel : peel strip touching (w :: rest) =
      if (stripAll strip w.length touching w).1.isEmpty
      then peel strip false rest
      else (stripAll strip w.length touching w).1 :: rest := by
    rw [peel, hFiller]
    rfl
  rw [hPeel, hAll, if_neg (mt List.isEmpty_iff.mp hSome)]

/-- **A word from which nothing is stripped stops the peeling.** -/
theorem peel_of_firm (hFiller : isWord w = false)
    (hStrip : strip touching w = none) (hSome : w ≠ []) :
    peel strip touching (w :: rest) = w :: rest :=
  peel_of_stripAll hFiller (congrArg Prod.fst (stripAll_of_none hStrip _)) hSome

/-- So does what is left of a word from which one filler is stripped. -/
theorem peel_of_stripped {w' : List Char} (hFiller : isWord w = false)
    (hNonempty : w ≠ []) (hFirst : strip touching w = some w')
    (hStrip : strip false w' = none) (hSome : w' ≠ []) :
    peel strip touching (w :: rest) = w' :: rest := by
  refine peel_of_stripAll hFiller ?_ hSome
  obtain ⟨c, cs, rfl⟩ := List.exists_cons_of_ne_nil hNonempty
  rw [List.length_cons, stripAll]
  simp only [hFirst, stripAll_of_none hStrip]

end

/-! ## The words that are kept -/

section

variable {ws : List (List Char)}

/-- A firm first word stops the peeling from the front. -/
theorem peel_front (hWords : ∀ w ∈ ws, IsWord w) (hSome : ws ≠ [])
    (hStart : ∀ w ∈ ws.head?, FirmStart w) (more : List (List Char)) :
    peel stripOne? false (ws ++ more) = ws ++ more := by
  obtain ⟨w, rest, rfl⟩ := List.exists_cons_of_ne_nil hSome
  have hFirm := hStart w rfl
  exact peel_of_firm hFirm.noFiller (stripOne?_of_firmStart hFirm)
    (hWords w List.mem_cons_self).1

/-- Fillers behind a firm last word are peeled off from the end. -/
theorem peel_back (hWords : ∀ w ∈ ws, IsWord w) (hSome : ws ≠ [])
    (hEnd : ∀ w ∈ ws.getLast?, FirmEnd w) :
    (peel stripOneEnd? false ws.reverse).reverse = ws := by
  obtain ⟨front, last, rfl⟩ := (List.eq_nil_or_concat ws).resolve_left hSome
  rw [List.concat_eq_append] at *
  have hFirm := hEnd last List.getLast?_concat
  have hLast := hWords last (List.mem_append_right front List.mem_cons_self)
  rw [List.reverse_concat, peel_of_firm hFirm.noFiller
    (stripOneEnd?_of_firmEnd hFirm) hLast.1, ← List.reverse_concat,
    List.reverse_reverse]

end

end Filler

namespace Segment

open Filler

section

variable {ws : List (List Char)} (hWords : ∀ w ∈ ws, IsWord w) (hSome : ws ≠ [])
  (hStart : ∀ w ∈ ws.head?, FirmStart w) (hEnd : ∀ w ∈ ws.getLast?, FirmEnd w)

include hWords hSome hStart hEnd

/-- **In front of a mention** the fillers around the words go. -/
theorem kept_search_on :
    kept ⟨"search ".toList ++ (unwords ws ++ " on ".toList), false, true⟩ =
      unwords ws := by
  have hSearch : isWord "search".toList = true := by decide
  have hOn : isWord "on".toList = true := by decide
  have hFront : peel stripOne? false
        ("search".toList :: (ws ++ ["on".toList])) = ws ++ ["on".toList] :=
    (peel_of_isWord hSearch).trans (peel_front hWords hSome hStart _)
  have hBack : (peel stripOneEnd? false (ws ++ ["on".toList]).reverse).reverse =
        ws := by
    rw [List.reverse_concat, peel_of_isWord hOn]
    exact peel_back hWords hSome hEnd
  -- the text is a line of words with a space behind it
  have hText : "search ".toList ++ (unwords ws ++ " on ".toList) =
      unwords ("search".toList :: (ws ++ ["on".toList])) ++ ' ' :: [] := by
    rw [Query.unwords_cons _ (List.append_ne_nil_of_left_ne_nil hSome _),
      unwords_append hSome (List.cons_ne_nil _ _), Query.unwords_singleton]
    simp
  have hAll : ∀ w ∈ "search".toList :: (ws ++ ["on".toList]), IsWord w := by
    intro w hw
    rcases List.mem_cons.mp hw with rfl | hw
    · exact isWord_of_any (by decide) (by decide)
    · rcases List.mem_append.mp hw with hw | hw
      · exact hWords w hw
      · obtain rfl := List.mem_singleton.mp hw
        exact isWord_of_any (by decide) (by decide)
  have hTokens : words ("search ".toList ++ (unwords ws ++ " on ".toList)) =
      "search".toList :: (ws ++ ["on".toList]) := by
    rw [hText, Chars.words, wordsFrom_append_blank (by decide)]
    exact (List.append_nil _).trans (words_unwords hAll)
  have hTouches :
      ("search ".toList ++ (unwords ws ++ " on ".toList)).getLast?.any isBlank =
        true := by
    rw [hText, List.getLast?_concat]
    decide
  unfold kept
  simp only [hTokens, hTouches, Bool.false_and, Bool.not_true, Bool.and_false,
    hFront, hBack]

/-- **Behind a mention** the filler in front of the words goes. -/
theorem kept_search_behind :
    kept ⟨"搜索".toList ++ unwords ws, true, false⟩ = unwords ws := by
  have hBack := peel_back hWords hSome hEnd
  obtain ⟨w, rest, rfl⟩ := List.exists_cons_of_ne_nil hSome
  obtain ⟨hWord, hRest⟩ := List.forall_mem_cons.mp hWords
  have hFirst : IsWord ("搜索".toList ++ w) :=
    (isWord_of_any (by decide) (by decide)).append hWord
  have hTokens : words ("搜索".toList ++ unwords (w :: rest)) =
        ("搜索".toList ++ w) :: rest := by
    rw [append_unwords]
    exact words_unwords (List.forall_mem_cons.mpr ⟨hFirst, hRest⟩)
  have hFront : peel stripOne? true (("搜索".toList ++ w) :: rest) = w :: rest :=
    peel_of_stripped rfl hFirst.1 rfl
      (stripOne?_of_firmStart (hStart w rfl)) hWord.1
  have hTouches : ("搜索".toList ++ unwords (w :: rest)).head?.any isBlank =
        false := by
    show isBlank '搜' = false
    decide
  unfold kept
  simp only [hTokens, hTouches, Bool.true_and, Bool.not_false, Bool.false_and,
    hFront, hBack]

end

end Segment

end Errand
