import Errand.Proofs.Query.Line
import Errand.Proofs.Text.Scanning
import Errand.Proofs.Web.Reference

/-!
# The passes that make the text of a page

The text of a page comes about in four passes: elements without readable
content go, then tags, then references are decoded, and at last what is left is
brought into one line of words. This file says what the last pass does to any
text, and what all of them do to a text without markup, which is only to bring
it into one line.

## Main results

* `trim_collapse`: the last pass makes one line of the words of a text.
* `text_of_plain`: the text of a page without markup.
-/

namespace Errand

/-- A text that is written as it is. -/
structure PlainText where
  chars : List Char
  plain : '<' ∉ chars ∧ '>' ∉ chars ∧ '&' ∉ chars

theorem PlainText.noBracket (t : PlainText) : '<' ∉ t.chars := t.plain.1

namespace Page

open Pattern
open Chars (IsWord isBlank trim trimEnd trimStart unwords words)

/-! ## One line of words -/

/-- The text with every run of blanks as a single space, from a place on. -/
def collapse (before : Option Char) (cs : List Char) : List Char :=
  blankRun.replaceFrom [' '] 0 before cs

theorem matchAt_blankRun {before : Option Char} {c : Char} {bs rest : List Char}
    (h : AllBlank (c :: bs)) (hEnd : ∀ d ∈ rest.head?, isBlank d = false) :
    matchAt blankRun before ((c :: bs) ++ rest) =
      some ⟨(c :: bs).length, []⟩ := by
  obtain ⟨hc, hbs⟩ := List.forall_mem_cons.mp h
  have hRun : go (.run true isBlank) ⟨some c, bs ++ rest⟩ []
        (reached ((c :: bs) ++ rest)) =
      reached ((c :: bs) ++ rest) ⟨lastOf (some c) bs, rest⟩ [] := by
    refine runFrom_greedy hbs ?_ rfl
    rintro - front back hRest hSome hFront
    obtain ⟨d, front, rfl⟩ := List.exists_cons_of_ne_nil hSome
    have hd : isBlank d = false := hEnd d (by rw [hRest]; rfl)
    rw [hFront d List.mem_cons_self] at hd
    cases hd
  have hGo : go blankRun ⟨before, (c :: bs) ++ rest⟩ []
        (reached ((c :: bs) ++ rest)) =
      reached ((c :: bs) ++ rest) ⟨lastOf (some c) bs, rest⟩ [] :=
    (if_pos hc).trans hRun
  exact matchAt_of_go hGo

theorem matchAt_blankRun_eq_none {before : Option Char} {c : Char}
    (hc : isBlank c = false) (rest : List Char) :
    matchAt blankRun before (c :: rest) = none := by
  unfold matchAt blankRun
  simp only [go, hc, Bool.false_eq_true, if_false]

theorem collapse_blanks {c : Char} {bs rest : List Char}
    (h : AllBlank (c :: bs)) (hEnd : ∀ d ∈ rest.head?, isBlank d = false)
    (before : Option Char) :
    ∃ before', collapse before ((c :: bs) ++ rest) =
      ' ' :: collapse before' rest :=
  ⟨_, replaceFrom_take (matchAt_blankRun h hEnd) rfl (List.cons_ne_nil c bs)⟩

theorem collapse_solid {w rest : List Char} (h : ∀ c ∈ w, isBlank c = false)
    (before : Option Char) :
    collapse before (w ++ rest) = w ++ collapse (lastOf before w) rest := by
  refine replaceFrom_pass (fun before back hBack hSome => ?_) before
  obtain ⟨c, back, rfl⟩ := List.exists_cons_of_ne_nil hSome
  exact matchAt_blankRun_eq_none (h c (hBack.subset List.mem_cons_self))
    (back ++ rest)

theorem words_append_of_allBlank {bs : List Char} (h : AllBlank bs)
    (rest : List Char) : words (bs ++ rest) = words rest := by
  induction bs with
  | nil => rfl
  | cons c bs ih =>
      obtain ⟨hc, hbs⟩ := List.forall_mem_cons.mp h
      exact (Chars.wordsFrom_append_blank hc [] [] (bs ++ rest)).trans (ih hbs)

/-- A text is blanks, and behind them a text that begins with no blank. -/
theorem exists_blanks_append (cs : List Char) : ∃ bs rest, cs = bs ++ rest ∧
    AllBlank bs ∧
    ∀ d ∈ rest.head?, isBlank d = false := by
  refine ⟨cs.takeWhile isBlank, cs.dropWhile isBlank,
    List.takeWhile_append_dropWhile.symm,
    List.all_eq_true.mp List.all_takeWhile, fun d hd => ?_⟩
  have hHead := List.head?_dropWhile_not isBlank cs
  rwa [hd] at hHead

/-- A text that begins with no blank is a word, or a word and a blank and what
comes behind. -/
theorem exists_word_append {c : Char} (hc : isBlank c = false)
    (cs : List Char) : ∃ w rest,
    c :: cs = w ++ rest ∧ IsWord w ∧ ∀ d ∈ rest.head?, isBlank d = true := by
  refine ⟨(c :: cs).takeWhile (!isBlank ·), (c :: cs).dropWhile (!isBlank ·),
    List.takeWhile_append_dropWhile.symm, ⟨?_, fun d hd => ?_⟩, fun d hd => ?_⟩
  · rw [List.takeWhile_cons_of_pos (by rw [hc]; rfl)]
    exact List.cons_ne_nil _ _
  · have hAll := List.all_eq_true.mp List.all_takeWhile d hd
    rwa [Bool.not_eq_true'] at hAll
  · have hHead := List.head?_dropWhile_not (!isBlank ·) (c :: cs)
    rw [hd] at hHead
    have hBlank : (!isBlank d) = false := hHead
    rwa [Bool.not_eq_false'] at hBlank

theorem trimEnd_word_append {w bs : List Char} (hw : IsWord w)
    (hbs : AllBlank bs) : trimEnd (w ++ bs) = w := by
  obtain ⟨front, last, hLast⟩ := (List.eq_nil_or_concat w).resolve_left hw.1
  rw [List.concat_eq_append] at hLast
  have hSolid : isBlank last = false := hw.2 last (by rw [hLast]; simp)
  have hBlank : trimEnd bs = [] := by
    have hDrop : (bs.reverse ++ []).dropWhile isBlank = [] :=
      List.dropWhile_append_of_pos fun c hc => hbs c (List.mem_reverse.mp hc)
    rw [List.append_nil] at hDrop
    rw [trimEnd, hDrop]
    rfl
  rw [hLast, List.append_assoc, List.singleton_append,
    Chars.trimEnd_append_cons hSolid, hBlank]

/-- A word with blanks behind it is the first word of a text. -/
theorem words_word_append {w bs : List Char} {b : Char} (hw : IsWord w)
    (hb : isBlank b = true) (hbs : AllBlank bs) (rest : List Char) :
    words (w ++ b :: (bs ++ rest)) = w :: words rest := by
  rw [words, Chars.wordsFrom_append_blank hb, words_append_of_allBlank hbs]
  exact congrArg (· ++ words rest) (Chars.words_of_isWord hw)

/-- Nothing is trimmed from a word with something behind it that is not
blank. -/
theorem trimEnd_append_space {d : Char} (hd : isBlank d = false)
    (w cs : List Char) :
    trimEnd (w ++ ' ' :: d :: cs) = w ++ ' ' :: trimEnd (d :: cs) := by
  rw [List.append_cons, Chars.trimEnd_append_cons hd, Chars.trimEnd_cons hd,
    List.append_assoc]
  rfl

/-- A text that begins with no blank becomes its words with single spaces, up
to a space at its end. -/
theorem trimEnd_collapse (before : Option Char) (cs : List Char)
    (hStart : ∀ d ∈ cs.head?, isBlank d = false) :
    trimEnd (collapse before cs) = unwords (words cs) := by
  -- A run of blanks is passed at once, so the induction is on the length of
  -- what is left.
  induction hLength : cs.length using Nat.strongRecOn
    generalizing before cs with
  | ind n ih =>
      cases cs with
      | nil => rfl
      | cons c cs =>
          obtain ⟨w, rest, hText, hw, hRest⟩ :=
            exists_word_append (hStart c rfl) cs
          rw [hText, collapse_solid hw.2]
          cases rest with
          | nil =>
              have hNone : collapse (lastOf before w) [] = [] := rfl
              rw [hNone, List.append_nil, Chars.words_of_isWord hw,
                Query.unwords_singleton]
              have hTrim : trimEnd (w ++ []) = w := trimEnd_word_append hw nofun
              rwa [List.append_nil] at hTrim
          | cons b rest =>
              obtain ⟨bs, rest', hBlanks, hbs, hStart'⟩ :=
                exists_blanks_append rest
              have hAll : AllBlank (b :: bs) :=
                List.forall_mem_cons.mpr ⟨hRest b rfl, hbs⟩
              obtain ⟨before', hCollapse⟩ :=
                collapse_blanks hAll hStart' (lastOf before w)
              have hWords := words_word_append hw (hRest b rfl) hbs rest'
              have hShorter : rest'.length < n := by
                rw [← hLength, hText, hBlanks, List.length_append,
                  List.length_cons, List.length_append]
                omega
              have hLater := ih rest'.length hShorter before' rest' hStart' rfl
              rw [hBlanks, hWords]
              change trimEnd (w ++ collapse _ ((b :: bs) ++ rest')) = _
              rw [hCollapse]
              cases rest' with
              | nil =>
                  have hEnd : trimEnd (w ++ [' ']) = w :=
                    trimEnd_word_append hw
                      (List.forall_mem_cons.mpr ⟨rfl, nofun⟩)
                  rw [show words [] = [] from rfl, Query.unwords_singleton]
                  exact hEnd
              | cons d rest' =>
                  have hd : isBlank d = false := hStart' d rfl
                  have hFirst : collapse before' (d :: rest') =
                        d :: collapse (some d) rest' :=
                    collapse_solid (w := [d])
                      (List.forall_mem_cons.mpr ⟨hd, nofun⟩) before'
                  have hNonempty : words (d :: rest') ≠ [] := fun hNil => by
                    rw [hNil, hFirst, Chars.trimEnd_cons hd] at hLater
                    cases hLater
                  rw [Query.unwords_cons w hNonempty, ← hLater, hFirst]
                  exact trimEnd_append_space hd w _

/-- **The last pass makes one line of the words of a text.** -/
theorem trim_collapse (cs : List Char) :
    trim (blankRun.replaceAll [' '] cs) = unwords (words cs) := by
  have hSolid : ∀ (before : Option Char) (rest : List Char),
      (∀ d ∈ rest.head?, isBlank d = false) →
      trimStart (collapse before rest) = collapse before rest := by
    intro before rest hStart
    cases rest with
    | nil => rfl
    | cons d rest =>
        have hFirst : collapse before (d :: rest) =
              d :: collapse (some d) rest :=
          collapse_solid (w := [d])
            (List.forall_mem_cons.mpr ⟨hStart d rfl, nofun⟩) before
        rw [hFirst, Chars.trimStart_cons (hStart d rfl)]
  obtain ⟨bs, rest, hText, hbs, hStart⟩ := exists_blanks_append cs
  show trimEnd (trimStart (collapse none cs)) = _
  rw [hText, words_append_of_allBlank hbs]
  cases bs with
  | nil =>
      rw [List.nil_append, hSolid none rest hStart,
        trimEnd_collapse none rest hStart]
  | cons b bs =>
      obtain ⟨before', hCollapse⟩ := collapse_blanks hbs hStart none
      rw [hCollapse, trimStart, List.dropWhile_cons_of_pos rfl]
      change trimEnd (trimStart (collapse before' rest)) = _
      rw [hSolid before' rest hStart, trimEnd_collapse before' rest hStart]

/-! ## Texts without markup -/

/-- The pattern begins with an angle bracket. -/
def Bracketed (p : Pattern) : Prop := ∃ q, p = .seq (exactly "<") q

theorem bracketed_tag : Bracketed tag := ⟨_, rfl⟩

theorem bracketed_unreadableElement : Bracketed unreadableElement := ⟨_, rfl⟩

/-- A text without angle brackets is passed over. -/
theorem Bracketed.replaceFrom {p : Pattern} (hp : Bracketed p)
    {new front : List Char} (hFront : '<' ∉ front) (before : Option Char)
    (rest : List Char) :
    p.replaceFrom new 0 before (front ++ rest) =
      front ++ p.replaceFrom new 0 (lastOf before front) rest := by
  obtain ⟨q, rfl⟩ := hp
  refine replaceFrom_pass (fun before back hBack hSome => ?_) before
  obtain ⟨c, back, rfl⟩ := List.exists_cons_of_ne_nil hSome
  have hNoBracket : c ≠ '<' := fun hc =>
    hFront (hc ▸ hBack.subset List.mem_cons_self)
  rw [Option.eq_none_iff_forall_ne_some]
  intro m hm
  obtain ⟨rest', hRest, -⟩ := exists_of_go_exactly hm
  exact hNoBracket (List.cons.inj hRest).1

theorem Bracketed.replaceAll {p : Pattern} (hp : Bracketed p)
    {new text : List Char} (hText : '<' ∉ text) :
    p.replaceAll new text = text := by
  have hPass : p.replaceFrom new 0 none (text ++ []) = text ++ _ :=
    hp.replaceFrom hText none []
  rwa [List.append_nil, Pattern.replaceFrom, List.append_nil] at hPass

/-- **The text of a page without markup** is one line of its words. -/
theorem text_of_plain (t : PlainText) :
    text t.chars = unwords (words t.chars) := by
  have hElements : unreadableElement.replaceAll [' '] t.chars = t.chars :=
    bracketed_unreadableElement.replaceAll t.noBracket
  have hTags : tag.replaceAll [' '] t.chars = t.chars :=
    bracketed_tag.replaceAll t.noBracket
  unfold text
  dsimp only
  rw [hElements, hTags, decode_of_noAmpersand t.plain.2.2, trim_collapse]

end Page

end Errand
