import Errand.Platform.Keyword
import Errand.Proofs.Text.Blank
import Errand.Proofs.Text.Lowering
import Errand.Proofs.Text.Occurrence

/-!
# Mentions that are found and mentions that are taken away

A platform is found in a request by looking for its names in lower case, names
of ASCII characters with no letter or digit next to them and other names
anywhere (`Directory.detect`). The words to search for are what is left when
mentions are taken away, and for this the names are looked for up to the case
of ASCII letters, each of them anywhere (`Directory.mentionSpans`). So a name
that is part of a longer word is not found, and is taken away nevertheless.

This file describes both by the places where a name occurs, and says when they
agree: if no platform is found, nothing is taken away unless a name stands
inside of a longer word.

## Main results

* `Platform.containsKeyword_iff`: where a name has to stand to be found.
* `Directory.mentionSpans_eq_nil_iff`: nothing is taken away exactly if no name
  occurs.
* `Directory.withinWord_of_detect_eq_none`: a name that occurs and is not found
  is part of a longer word.
* `Directory.searchWords_of_detect_eq_none`: without such a name the words are
  those of a request without platforms.
-/

namespace Errand

namespace Platform

/-! ## Where names are found -/

/-- The names by which requests mention the platform: its keywords and its
domain. -/
def names (p : Platform) : List String := p.keywords ++ [p.domain]

/-- A name as it is looked for in lower case. -/
def lowered (name : String) : List Char := Chars.lower (Chars.trim name.toList)

/-- All characters are of ASCII. -/
def IsAscii (cs : List Char) : Prop := (cs.all fun c => c.toNat < 0x80) = true

instance (cs : List Char) : Decidable (IsAscii cs) :=
  inferInstanceAs (Decidable (_ = true))

/-- What stands between two texts has no letter or digit of ASCII next to it. -/
def Apart (front rest : List Char) : Prop :=
  front.getLast?.any isWordPart = false ∧ rest.head?.any isWordPart = false

/-- The word stands somewhere in the text with a letter or digit of ASCII next
to it. -/
def WithinWord (word text : List Char) : Prop :=
  ∃ front rest, text = front ++ (word ++ rest) ∧ ¬ Apart front rest

theorem WithinWord.contains {word text : List Char} (h : WithinWord word text) :
    Chars.contains word text = true := by
  obtain ⟨front, rest, rfl, -⟩ := h
  exact Chars.contains_iff.mpr ⟨front, rest, List.append_assoc ..⟩

theorem mentionedIn_iff {p : Platform} {text : List Char} :
    p.mentionedIn text = true ↔
    ∃ name ∈ p.names, containsKeyword text name = true := by
  simp only [mentionedIn, names, Bool.or_eq_true, List.any_eq_true,
    List.mem_append, List.mem_singleton, or_and_right, exists_or,
    exists_eq_left]

/-- A word stands in a text with nothing next to it if it begins the text so or
stands so in what follows. -/
theorem occursAsWord_cons {keyword text : List Char} {before : Option Char}
    {c : Char} :
    occursAsWord keyword before (c :: text) = true ↔
      (∃ rest, c :: text = keyword ++ rest ∧ before.any isWordPart = false ∧
        rest.head?.any isWordPart = false) ∨
        occursAsWord keyword (some c) text = true := by
  rw [occursAsWord, Bool.or_eq_true]
  refine or_congr_left ?_
  cases hLead : Chars.dropLead? keyword (c :: text) with
  | some rest =>
      have hText := Chars.eq_append_of_dropLead? hLead
      simp only [Bool.and_eq_true, Bool.not_eq_true']
      refine ⟨fun h => ⟨rest, hText, h⟩, ?_⟩
      rintro ⟨rest', hText', h⟩
      rwa [List.append_cancel_left (hText.symm.trans hText')]
  | none =>
      refine ⟨nofun, ?_⟩
      rintro ⟨rest, hText, -⟩
      rw [hText, Chars.dropLead?_append] at hLead
      cases hLead

theorem occursAsWord_from {keyword text : List Char} (before : Option Char) :
    occursAsWord keyword before text = true ↔
    ∃ front rest, text = front ++ (keyword ++ rest) ∧
      (front.getLast?.or before).any isWordPart = false ∧
      rest.head?.any isWordPart = false := by
  induction text generalizing before with
  | nil =>
      simp only [occursAsWord, Bool.and_eq_true, List.isEmpty_iff,
        Bool.not_eq_true']
      constructor
      · rintro ⟨rfl, hBefore⟩
        exact ⟨[], [], rfl, hBefore, rfl⟩
      · rintro ⟨front, rest, hText, hBefore, -⟩
        obtain ⟨rfl, hWord⟩ := List.append_eq_nil_iff.mp hText.symm
        exact ⟨(List.append_eq_nil_iff.mp hWord).1, hBefore⟩
  | cons c text ih =>
      rw [occursAsWord_cons, ih]
      constructor
      · rintro (⟨rest, hText, hApart⟩ | ⟨front, rest, rfl, hBefore, hRest⟩)
        · exact ⟨[], rest, hText, hApart⟩
        · refine ⟨c :: front, rest, rfl, ?_, hRest⟩
          cases front <;> exact hBefore
      · rintro ⟨front, rest, hText, hBefore, hRest⟩
        cases front with
        | nil => exact .inl ⟨rest, hText, hBefore, hRest⟩
        | cons d front =>
            obtain ⟨rfl, rfl⟩ := List.cons.inj hText
            refine .inr ⟨front, rest, rfl, ?_, hRest⟩
            cases front <;> exact hBefore

theorem occursAsWord_iff {keyword text : List Char} :
    occursAsWord keyword none text = true ↔
    ∃ front rest, text = front ++ (keyword ++ rest) ∧ Apart front rest := by
  rw [occursAsWord_from]
  simp only [Option.or_none, Apart]

/-- **A name is found where it occurs**, without a letter or digit next to it
if it is of ASCII. -/
theorem containsKeyword_iff {text : List Char} {name : String} :
    containsKeyword text name = true ↔
    lowered name ≠ [] ∧ ∃ front rest, text = front ++ (lowered name ++ rest) ∧
      (IsAscii (lowered name) → Apart front rest) := by
  have hUnfold : containsKeyword text name =
      if (lowered name).isEmpty then false
      else if IsAscii (lowered name) then occursAsWord (lowered name) none text
      else Chars.contains (lowered name) text := rfl
  rw [hUnfold]
  by_cases hEmpty : lowered name = []
  · simp [hEmpty]
  · have hNotEmpty : ¬ (lowered name).isEmpty = true :=
      mt List.isEmpty_iff.mp hEmpty
    rw [if_neg hNotEmpty]
    by_cases hAscii : IsAscii (lowered name)
    · rw [if_pos hAscii, occursAsWord_iff]
      simp only [ne_eq, hEmpty, not_false_eq_true, hAscii,
        forall_const, true_and]
    · rw [if_neg hAscii, Chars.contains_iff]
      simp only [ne_eq, hEmpty, not_false_eq_true, hAscii, false_implies,
        and_true, true_and, List.IsInfix, eq_comm, List.append_assoc]

end Platform

/-! ## Which platform a plan is about -/

namespace Directory

variable {d : Directory} {e : Platform} {platform request : String}

theorem mem_of_resolve (h : d.resolve platform request = some e) : e ∈ d := by
  rcases Option.or_eq_some_iff.mp h with hNamed | ⟨-, hMentioned⟩
  · exact List.mem_of_find?_eq_some hNamed
  · rcases Option.or_eq_some_iff.mp hMentioned with hThere | ⟨-, hHere⟩
    · exact List.mem_of_find?_eq_some hThere
    · exact List.mem_of_find?_eq_some hHere

/-- A plan is about the platform that it names. -/
theorem resolve_of_find (h : d.find platform = some e) (request : String) :
    d.resolve platform request = some e := by
  unfold resolve
  rw [h, Option.some_or]

end Directory

/-! ## Where names are taken away -/

/-- A needle begins nowhere in a text exactly if it does not occur there. -/
theorem placesFrom_eq_nil_iff {needle : List Char} (hNeedle : needle ≠ [])
    (at_ : Nat) (text : List Char) :
    placesFrom needle 0 at_ text = [] ↔ ¬ needle <:+: text := by
  induction text generalizing at_ with
  | nil => simp [placesFrom, hNeedle]
  | cons c text ih =>
      have hStart : Chars.startsWith needle (c :: text) = true ↔
          needle <+: c :: text := Chars.isSome_dropLead?
      rw [placesFrom, List.infix_cons_iff]
      by_cases hHere : needle <+: c :: text
      · simp [hStart.mpr hHere, hHere]
      · rw [if_neg (mt hStart.mp hHere), ih]
        simp [hHere]

theorem spansOf_eq_nil_iff {needle text : List Char} :
    spansOf needle text = [] ↔ needle = [] ∨ ¬ needle <:+: text := by
  unfold spansOf
  by_cases hNeedle : needle = []
  · simp [hNeedle]
  · rw [if_neg (mt List.isEmpty_iff.mp hNeedle), List.map_eq_nil_iff,
      placesFrom_eq_nil_iff hNeedle]
    simp [hNeedle]

theorem placesFrom_skip (needle passed text : List Char) (at_ : Nat) :
    placesFrom needle passed.length at_ (passed ++ text) =
      placesFrom needle 0 (at_ + passed.length) text := by
  induction passed generalizing at_ with
  | nil => rfl
  | cons c passed ih =>
      rw [List.length_cons, List.cons_append, placesFrom, ih,
        Nat.add_right_comm, Nat.add_assoc]

/-- A needle that begins a text begins there, and the next one is looked for
behind it. -/
theorem placesFrom_self {needle : List Char} (hNeedle : needle ≠ [])
    (rest : List Char) (at_ : Nat) :
    placesFrom needle 0 at_ (needle ++ rest) =
      at_ :: placesFrom needle 0 (at_ + needle.length) rest := by
  obtain ⟨a, needle, rfl⟩ := List.exists_cons_of_ne_nil hNeedle
  have hStart : Chars.startsWith (a :: needle) (a :: (needle ++ rest)) = true :=
    Chars.isSome_dropLead?.mpr (List.prefix_append (a :: needle) rest)
  rw [List.cons_append, placesFrom, if_pos hStart, List.length_cons,
    Nat.add_sub_cancel, placesFrom_skip, Nat.add_assoc, Nat.add_comm 1]

/-- The first place of a needle is where the text is cut at it, and the others
are behind. -/
theorem placesFrom_of_breakAt? {needle text front rest : List Char}
    (hNeedle : needle ≠ [])
    (h : Chars.breakAt? needle text = some (front, rest)) (at_ : Nat) :
    placesFrom needle 0 at_ text =
      (at_ + front.length) :: placesFrom needle 0
        (at_ + front.length + needle.length) rest := by
  induction text generalizing front at_ with
  | nil =>
      rw [Chars.breakAt?, if_neg (mt List.isEmpty_iff.mp hNeedle)] at h
      cases h
  | cons c text ih =>
      by_cases hHere : needle <+: c :: text
      · obtain ⟨behind, hBehind⟩ := hHere
        rw [← hBehind, Chars.breakAt?_self] at h
        obtain ⟨rfl, rfl⟩ := Prod.mk.inj (Option.some.inj h)
        rw [← hBehind, placesFrom_self hNeedle]
        rfl
      · have hStart : ¬ Chars.startsWith needle (c :: text) = true :=
          mt Chars.isSome_dropLead?.mp hHere
        rw [Chars.breakAt?_cons hHere] at h
        obtain ⟨⟨front', rest'⟩, hBreak, hParts⟩ := Option.map_eq_some_iff.mp h
        obtain ⟨rfl, rfl⟩ := Prod.mk.inj hParts
        rw [placesFrom, if_neg hStart, ih hBreak]
        simp only [List.length_cons, Nat.add_assoc, Nat.add_comm 1]

/-- A needle that occurs once has one span. -/
theorem spansOf_of_breakAt? {needle text front rest : List Char}
    (hNeedle : needle ≠ [])
    (h : Chars.breakAt? needle text = some (front, rest))
    (hRest : ¬ needle <:+: rest) :
    spansOf needle text = [(front.length, front.length + needle.length)] := by
  unfold spansOf
  rw [if_neg (mt List.isEmpty_iff.mp hNeedle), placesFrom_of_breakAt? hNeedle h,
    (placesFrom_eq_nil_iff hNeedle _ rest).mpr hRest, Nat.zero_add]
  rfl

theorem joinOnto_ne_nil (last : Nat × Nat) (spans : List (Nat × Nat)) :
    joinOnto last spans ≠ [] := by
  induction spans generalizing last with
  | nil => exact List.cons_ne_nil _ _
  | cons s spans ih =>
      rw [joinOnto]
      split
      · exact ih _
      · exact List.cons_ne_nil _ _

theorem joinSpans_eq_nil_iff {spans : List (Nat × Nat)} : joinSpans spans = [] ↔
    spans = [] := by
  cases spans with
  | nil => exact Iff.rfl
  | cons s spans =>
      exact iff_of_false (joinOnto_ne_nil s spans) (List.cons_ne_nil s spans)

namespace Directory

open Platform

variable {d : Directory} {request : String}

/-- A name as it is taken away. -/
def needle (name : String) : List Char :=
  Chars.asciiLower (Chars.trim name.toList)

/-- **Nothing is taken away exactly if no name occurs.** -/
theorem mentionSpans_eq_nil_iff {text : List Char} : d.mentionSpans text = [] ↔
    ∀ p ∈ d, ∀ name ∈ p.names, needle name = [] ∨
    ¬ needle name <:+: Chars.asciiLower text := by
  show joinSpans (((d.flatMap names).flatMap fun name =>
    spansOf (needle name) (Chars.asciiLower text)).mergeSort spanLe) = [] ↔ _
  rw [joinSpans_eq_nil_iff, ← List.length_eq_zero_iff, List.length_mergeSort,
    List.length_eq_zero_iff, List.flatMap_eq_nil_iff]
  simp only [List.mem_flatMap, spansOf_eq_nil_iff, forall_exists_index, and_imp]
  exact ⟨fun h p hp name hName => h name p hp hName,
    fun h name p hp hName => h p hp name hName⟩

/-- Where nothing is taken away, the words are those of a request without
platforms. -/
theorem searchWords_of_mentionSpans_eq_nil
    (h : d.mentionSpans request.toList = []) :
    d.searchWords request = searchWords [] request := by
  unfold searchWords segments
  rw [h, show mentionSpans [] request.toList = []
    from mentionSpans_eq_nil_iff.mpr nofun]

/-- **A name that occurs in a request and is not found there is part of a
longer word**, if it has no capital sigma. -/
theorem withinWord_of_detect_eq_none (hDetect : d.detect request = none)
    {p : Platform} (hp : p ∈ d) {name : String} (hName : name ∈ p.names)
    (hSigma : 'Σ' ∉ name.toList) (hNeedle : needle name ≠ [])
    (hOccurs : needle name <:+: Chars.asciiLower request.toList) :
    IsAscii (lowered name) ∧ WithinWord (lowered name)
      (Chars.lower request.toList) := by
  have hTrim : 'Σ' ∉ Chars.trim name.toList := fun h =>
    hSigma (Chars.trim_subset _ h)
  obtain ⟨front, rest, hText⟩ := Chars.lower_infix_of_asciiLower hTrim hOccurs
  rw [List.append_assoc] at hText
  have hSome : lowered name ≠ [] :=
    Chars.lower_ne_nil fun hEmpty => hNeedle (congrArg Chars.asciiLower hEmpty)
  have hMissed : ¬ (IsAscii (lowered name) → Apart front rest) :=
    fun hApart => by
    have hFound : p.mentionedIn (Chars.lower request.toList) = true :=
      mentionedIn_iff.mpr ⟨name, hName,
        containsKeyword_iff.mpr ⟨hSome, front, rest, hText.symm, hApart⟩⟩
    exact List.find?_eq_none.mp hDetect p hp hFound
  rw [Classical.not_imp] at hMissed
  exact ⟨hMissed.1, front, rest, hText.symm, hMissed.2⟩

/-- **Where no platform is found, the words are those of a request without
platforms**, as long as no name stands inside of a longer word. -/
theorem searchWords_of_detect_eq_none (hDetect : d.detect request = none)
    (hSigma : ∀ p ∈ d, ∀ name ∈ p.names, 'Σ' ∉ name.toList)
    (hWords : ∀ p ∈ d, ∀ name ∈ p.names, IsAscii (lowered name) →
      ¬ WithinWord (lowered name) (Chars.lower request.toList)) :
    d.searchWords request = searchWords [] request := by
  refine searchWords_of_mentionSpans_eq_nil
    (mentionSpans_eq_nil_iff.mpr fun p hp name hName => ?_)
  refine Classical.or_iff_not_imp_left.mpr fun hNeedle hOccurs => ?_
  obtain ⟨hAscii, hWithin⟩ :=
    withinWord_of_detect_eq_none hDetect hp hName
      (hSigma p hp name hName) hNeedle hOccurs
  exact hWords p hp name hName hAscii hWithin

/-- A table with a single platform. -/
def codeHosts : Directory :=
  [⟨"github", "github.com", ["github", "代码"],
      "https://github.com/search?q=\x7bquery\x7d", .page, []⟩]

/-- Names with something in between are no names. -/
theorem searchWords_of_detect_eq_none_spaced :
    codeHosts.detect "search git hub tips at 代 码" = none ∧
      codeHosts.searchWords "search git hub tips at 代 码" =
        searchWords [] "search git hub tips at 代 码" := by
  let request := "search git hub tips at 代 码"
  have hDetect : codeHosts.detect request = none := by decide +kernel
  have hSigma : ∀ p ∈ codeHosts, ∀ name ∈ p.names,
      'Σ' ∉ name.toList := by decide
  have hAbsent : ∀ p ∈ codeHosts, ∀ name ∈ p.names,
      Chars.contains (lowered name) (Chars.lower request.toList) = false := by
    decide +kernel
  refine ⟨hDetect, searchWords_of_detect_eq_none hDetect hSigma
    fun p hp name hName _ hWithin => ?_⟩
  have hThere := hWithin.contains
  rw [hAbsent p hp name hName] at hThere
  cases hThere

/-- **A longer word loses the letters of a name** that is not found in it. -/
theorem searchWords_cuts_word :
    ¬ ∀ (d : Directory) (request : String), d.detect request = none →
      d.searchWords request = searchWords [] request := by
  intro hSame
  have hDetect : codeHosts.detect "search githubber tricks" = none := by
    decide +kernel
  have hCut : codeHosts.searchWords "search githubber tricks" =
        "ber tricks" := by decide +kernel
  have hWhole : searchWords [] "search githubber tricks" =
        "githubber tricks" := by decide +kernel
  have hWords := hSame codeHosts "search githubber tricks" hDetect
  rw [hCut, hWhole] at hWords
  exact absurd hWords (by decide)

end Directory

end Errand
