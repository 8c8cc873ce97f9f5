import Errand.Planner
import Errand.Platform.Builtin
import Errand.Proofs.Platform.Filler
import Errand.Proofs.Platform.Mention
import Errand.Proofs.Web.Percent

/-!
# Searching on a platform by rule

A request can ask for a search on a platform in two ways, with the platform at
its end (`search … on`) or with Chinese fillers around the platform (`在…搜索…`).
This file follows such a request through the rules: the platform that is found
is the one that is named, the words to search for are exactly those in between,
and the plan loads the address of a search for them.

For a table of platforms this takes that its names do not get into each other's
way (`Directory.Unambiguous`): no name occurs in a keyword of another platform,
and none has a character in it that such a request puts next to names. For the
words it takes that they mention no platform themselves and that they begin and
end with words that are no fillers (`Sought`). Fillers in the middle stay.

## Main results

* `Directory.detect_of_single`, `Directory.segments_of_single`: a text with a
  single name in it, what is found there and what is left of it.
* `Sought.searchWords_search_on`, `Sought.searchWords_search_behind`: the words
  to search for.
* `Rules.plan_of_search`: the plan for both requests.
-/

namespace Errand

namespace Directory

open Platform

/-! ## Tables whose names can be told apart -/

/-- The characters that requests for a search put next to names. -/
def separators : List Char := [' ', '在', '搜', '索']

theorem of_separators {P : Char → Prop} (h : P ' ' ∧ P '在' ∧ P '搜' ∧ P '索') :
    ∀ c ∈ separators, P c := by
  simpa only [separators, List.forall_mem_cons, List.not_mem_nil, false_implies,
    implies_true, and_true] using h

/-- The name is written as it is looked for, and nothing of what is written
next to names occurs in it. -/
structure Plain (name : List Char) : Prop where
  nonempty : name ≠ []
  trimmed : Chars.trim name = name
  lower : Chars.lower name = name
  asciiLower : Chars.asciiLower name = name
  noSigma : 'Σ' ∉ name
  noSeparator : ∀ c ∈ separators, c ∉ name
  noVerb : Chars.contains name "search".toList = false ∧
    Chars.contains name "on".toList = false

/-- The names of the table can be told apart, and each of its platforms is
found by its domain and has one place for the words in the address of its
search. -/
structure Unambiguous (d : Directory) : Prop where
  plain : ∀ p ∈ d, ∀ name ∈ p.names, Plain name.toList
  apart : ∀ e ∈ d, ∀ w ∈ e.keywords, ∀ p ∈ d, ∀ name ∈ p.names,
    Chars.contains name.toList w.toList = true → p.domain = e.domain ∧ name = w
  once : (d.flatMap names).Nodup
  found : ∀ e ∈ d, d.find e.domain = some e
  place : ∀ e ∈ d, ∃ front behind : List Char,
    Chars.splitOn queryPlace.toList e.searchUrl.toList = [front, behind] ∧
      e.searchUrl.toList = front ++ (queryPlace.toList ++ behind)

theorem builtin_unambiguous : Unambiguous builtin where
  plain p hp name hName := by
    have hAll : ∀ p ∈ builtin, ∀ name ∈ p.names, name.toList ≠ [] ∧
        Chars.trim name.toList = name.toList ∧
        Chars.lower name.toList = name.toList ∧
        Chars.asciiLower name.toList = name.toList ∧
        'Σ' ∉ name.toList ∧
        (' ' ∉ name.toList ∧ '在' ∉ name.toList ∧ '搜' ∉ name.toList ∧
          '索' ∉ name.toList) ∧
        Chars.contains name.toList "search".toList = false ∧
          Chars.contains name.toList "on".toList = false := by decide +kernel
    obtain ⟨hSome, hTrim, hLower, hAscii, hSigma, hSeparator, hVerb⟩ :=
      hAll p hp name hName
    exact ⟨hSome, hTrim, hLower, hAscii, hSigma,
      of_separators hSeparator, hVerb⟩
  apart := by decide +kernel
  once := by decide +kernel
  found := by decide +kernel
  place e he := by
    have hAll : ∀ e ∈ builtin,
        (Chars.splitOn queryPlace.toList e.searchUrl.toList).length = 2 ∧
        queryPlace.toList.intercalate
          (Chars.splitOn queryPlace.toList e.searchUrl.toList) =
          e.searchUrl.toList := by decide +kernel
    obtain ⟨hLength, hParts⟩ := hAll e he
    match hSplit : Chars.splitOn queryPlace.toList e.searchUrl.toList,
      hLength with
    | [front, behind], _ =>
        refine ⟨front, behind, rfl, ?_⟩
        rw [← hParts, hSplit, List.intercalate_cons_cons,
          List.intercalate_singleton]
        exact List.append_assoc ..

/-! ## Texts with a single name -/

/-- No name of the table occurs in the text. -/
def Free (d : Directory) (cs : List Char) : Prop :=
  ∀ p ∈ d, ∀ name ∈ p.names, ¬ name.toList <:+: cs

/-- What stands around a name in a text has no name in it and puts a separator
on either side. -/
structure Single (d : Directory) (front : List Char) (c : Char)
    (rest : List Char) : Prop where
  sep : c ∈ separators
  edge : ∀ x ∈ rest.head?, x ∈ separators
  front : Free d front
  rest : Free d rest

/-- An entry keyword is one of its names. -/
theorem mem_names_of_keyword {e : Platform} {w : String} (hw : w ∈ e.keywords) :
    w ∈ e.names :=
  List.mem_append_left _ hw

/-- Where only one member of a list without repetitions has an image, that
image is all. -/
theorem flatMap_of_single {α β : Type} {f : α → List β} {xs : List α} {x : α}
    (hOnce : xs.Nodup) (hx : x ∈ xs) (hOther : ∀ y ∈ xs, y ≠ x → f y = []) :
    xs.flatMap f = f x := by
  obtain ⟨before, after, rfl⟩ := List.append_of_mem hx
  obtain ⟨-, hAfter, hApart⟩ := List.nodup_append.mp hOnce
  have hBefore : before.flatMap f = [] :=
    List.flatMap_eq_nil_iff.mpr fun y hy =>
      hOther y (List.mem_append_left _ hy) (hApart y hy x List.mem_cons_self)
  have hBehind : after.flatMap f = [] := List.flatMap_eq_nil_iff.mpr fun y hy =>
    hOther y (List.mem_append_right _ (List.mem_cons_of_mem x hy)) fun hSame =>
      (List.nodup_cons.mp hAfter).1 (hSame ▸ hy)
  rw [List.flatMap_append, List.flatMap_cons, hBefore, hBehind, List.nil_append,
    List.append_nil]

section

variable {d : Directory} (hd : d.Unambiguous) {e : Platform} (he : e ∈ d)
  {w : String} (hw : w ∈ e.keywords) {front rest : List Char} {c : Char}

include hd he hw

/-- **No other name occurs in such a text.** -/
theorem Single.eq_of_infix (h : Single d front c rest) {p : Platform}
    (hp : p ∈ d) {name : String} (hName : name ∈ p.names)
    (hOccurs : name.toList <:+: front ++ c :: (w.toList ++ rest)) :
    p = e ∧ name = w := by
  have hPlain := hd.plain p hp name hName
  have hInside : name.toList <:+: w.toList := by
    have hBehind :=
      (Chars.infix_append_cons (hPlain.noSeparator c h.sep)
          hOccurs).resolve_left
      (h.front p hp name hName)
    cases rest with
    | nil => rwa [List.append_nil] at hBehind
    | cons x rest =>
        have hRest : ¬ name.toList <:+: rest := fun hRest =>
          h.rest p hp name hName (hRest.trans (List.suffix_cons x rest).isInfix)
        exact (Chars.infix_append_cons (hPlain.noSeparator x (h.edge x rfl))
            hBehind).resolve_right hRest
  obtain ⟨hDomain, hSame⟩ :=
    hd.apart e he w hw p hp name hName (Chars.contains_iff.mpr hInside)
  have hFound := hd.found p hp
  rw [hDomain, hd.found e he] at hFound
  exact ⟨(Option.some.inj hFound).symm, hSame⟩

/-- **The platform that is found is the one that is named.** -/
theorem detect_of_single (h : Single d front c rest) {request : String}
    (hLower : Chars.lower request.toList = front ++ c :: (w.toList ++ rest)) :
    d.detect request = some e := by
  have hPlain := hd.plain e he w (mem_names_of_keyword hw)
  have hLowered : ∀ p ∈ d, ∀ name ∈ p.names, lowered name = name.toList :=
    fun p hp name hName => by
    rw [lowered, (hd.plain p hp name hName).trimmed,
      (hd.plain p hp name hName).lower]
  have hHere : e.mentionedIn (Chars.lower request.toList) = true := by
    have hNoPart : ∀ x ∈ separators, isWordPart x = false :=
      of_separators (by decide)
    refine mentionedIn_iff.mpr ⟨w, mem_names_of_keyword hw,
      containsKeyword_iff.mpr ?_⟩
    rw [hLowered e he w (mem_names_of_keyword hw)]
    refine ⟨hPlain.nonempty, front ++ [c], rest, by simp [hLower],
      fun _ => ⟨?_, ?_⟩⟩
    · rw [List.getLast?_concat]
      exact hNoPart c h.sep
    · cases rest with
      | nil => rfl
      | cons x rest => exact hNoPart x (h.edge x rfl)
  have hOnly : ∀ p ∈ d, p.mentionedIn (Chars.lower request.toList) = true →
      p = e := by
    intro p hp hMentioned
    obtain ⟨name, hName, hContains⟩ := mentionedIn_iff.mp hMentioned
    obtain ⟨-, before, behind, hText, -⟩ := containsKeyword_iff.mp hContains
    rw [hLowered p hp name hName, hLower] at hText
    exact (h.eq_of_infix hd he hw hp hName ⟨before, behind, by simp [hText]⟩).1
  unfold detect
  cases hFind : List.find? (·.mentionedIn (Chars.lower request.toList)) d with
  | none => exact absurd hHere (List.find?_eq_none.mp hFind e he)
  | some p =>
      have hMentioned := List.find?_some hFind
      rw [hOnly p (List.mem_of_find?_eq_some hFind) hMentioned]

/-- One mention is taken away, that of the name. -/
theorem mentionSpans_of_single (h : Single d front c rest) {text : List Char}
    (hAscii : Chars.asciiLower text = front ++ c :: (w.toList ++ rest)) :
    d.mentionSpans text =
      [(front.length + 1, front.length + 1 + w.toList.length)] := by
  have hPlain := hd.plain e he w (mem_names_of_keyword hw)
  have hNeedle : ∀ p ∈ d, ∀ name ∈ p.names, needle name = name.toList :=
    fun p hp name hName => by
    rw [needle, (hd.plain p hp name hName).trimmed,
      (hd.plain p hp name hName).asciiLower]
  have hOne : spansOf (needle w) (Chars.asciiLower text) =
      [(front.length + 1, front.length + 1 + w.toList.length)] := by
    have hBreak : Chars.breakAt? w.toList (front ++ c :: (w.toList ++ rest)) =
          some (front ++ [c], rest) := by
      have hFront : Chars.contains w.toList front = false :=
        Bool.eq_false_iff.mpr (mt Chars.contains_iff.mp
            (h.front e he w (mem_names_of_keyword hw)))
      rw [Chars.breakAt?_of_separator hFront (hPlain.noSeparator c h.sep),
        Chars.breakAt?_self]
      simp
    rw [hNeedle e he w (mem_names_of_keyword hw), hAscii,
      spansOf_of_breakAt? hPlain.nonempty hBreak
        (h.rest e he w (mem_names_of_keyword hw)), List.length_append]
    rfl
  have hOther : ∀ name ∈ d.flatMap names, name ≠ w →
      spansOf (needle name) (Chars.asciiLower text) = [] := by
    intro name hMem hNot
    obtain ⟨p, hp, hName⟩ := List.mem_flatMap.mp hMem
    refine spansOf_eq_nil_iff.mpr (.inr fun hOccurs => hNot ?_)
    rw [hNeedle p hp name hName, hAscii] at hOccurs
    exact (h.eq_of_infix hd he hw hp hName hOccurs).2
  have hMem : w ∈ d.flatMap names :=
    List.mem_flatMap.mpr ⟨e, he, mem_names_of_keyword hw⟩
  show joinSpans (((d.flatMap names).flatMap fun name =>
    spansOf (needle name) (Chars.asciiLower text)).mergeSort spanLe) = _
  rw [flatMap_of_single hd.once hMem hOther, hOne, List.mergeSort_singleton]
  rfl

/-- **What is left of the text is what stands around the name.** -/
theorem segments_of_single
    (h : Single d (Chars.asciiLower front) c (Chars.asciiLower rest)) :
    d.segments (front ++ c :: (w.toList ++ rest)) =
      [⟨front ++ [c], false, true⟩, ⟨rest, true, false⟩] := by
  have hSeparator : ∀ x ∈ separators, x.toLower = x := of_separators (by decide)
  have hAscii : Chars.asciiLower (front ++ c :: (w.toList ++ rest)) =
      Chars.asciiLower front ++ c :: (w.toList ++ Chars.asciiLower rest) := by
    have hKeyword := (hd.plain e he w (mem_names_of_keyword hw)).asciiLower
    rw [Chars.asciiLower_append, Chars.asciiLower_cons, Chars.asciiLower_append,
      hKeyword, hSeparator c h.sep]
  have hSpans := mentionSpans_of_single hd he hw h hAscii
  rw [Chars.length_asciiLower] at hSpans
  have hTake : (front ++ c :: (w.toList ++ rest)).take (front.length + 1) =
        front ++ [c] := by
    rw [List.append_cons, List.take_left'
      (by simp only [List.length_append, List.length_singleton])]
  have hDrop : (front ++ c :: (w.toList ++ rest)).drop
        (front.length + 1 + w.toList.length) = rest := by
    rw [List.append_cons, ← List.append_assoc,
      List.drop_left' (by simp only [List.length_append,
          List.length_singleton])]
  have hBehind : decide (0 < front.length + 1 + w.toList.length) = true :=
    decide_eq_true (by omega)
  rw [segments, hSpans]
  simp only [cutAt, Nat.sub_zero, hTake, hDrop, hBehind, Nat.lt_irrefl,
    decide_false]

end

/-! ## The two requests -/

section

variable {d : Directory} (hd : d.Unambiguous)

include hd

theorem free_nil : Free d [] := fun p hp name hName hOccurs =>
  (hd.plain p hp name hName).nonempty (List.infix_nil.mp hOccurs)

theorem free_append_cons {c : Char} (hc : c ∈ separators)
    {front rest : List Char} (hFront : Free d front) (hRest : Free d rest) :
    Free d (front ++ c :: rest) := fun p hp name hName hOccurs =>
  (Chars.infix_append_cons ((hd.plain p hp name hName).noSeparator c hc)
      hOccurs).elim
    (hFront p hp name hName) (hRest p hp name hName)

/-- The text of a request with the platform at its end, up to the space in
front of the platform. -/
theorem single_search_on {k : List Char} (hk : Free d k) :
    Single d ("search".toList ++ ' ' :: (k ++ ' ' :: "on".toList)) ' ' [] where
  sep := by decide
  edge := nofun
  front := by
    have hVerb : Free d "search".toList ∧ Free d "on".toList := by
      constructor <;> intro p hp name hName hOccurs
      · exact Bool.eq_false_iff.mp (hd.plain p hp name hName).noVerb.1
          (Chars.contains_iff.mpr hOccurs)
      · exact Bool.eq_false_iff.mp (hd.plain p hp name hName).noVerb.2
          (Chars.contains_iff.mpr hOccurs)
    exact free_append_cons hd (by decide) hVerb.1
      (free_append_cons hd (by decide) hk hVerb.2)
  rest := free_nil hd

/-- The text around the platform where it is in front of the words. -/
theorem single_search_behind {k : List Char} (hk : Free d k) :
    Single d [] '在' ('搜' :: '索' :: k) where
  sep := by decide
  edge x hx := by
    obtain rfl := Option.some.inj hx
    decide
  front := free_nil hd
  rest :=
    free_append_cons hd (by decide) (free_nil hd)
      (free_append_cons hd (by decide) (free_nil hd) hk)

end

end Directory

/-- Words to search for that mention no platform and begin and end with words
that stay. -/
structure Sought (d : Directory) (k : String) : Prop where
  notBlank : Text.isBlank k = false
  spaced : Chars.unwords (Chars.words k.toList) = k.toList
  unnamed : ∀ p ∈ d, ∀ name ∈ p.names,
    Chars.contains name.toList (Chars.lower k.toList) = false
  start : ∀ w ∈ (Chars.words k.toList).head?, Filler.FirmStart w
  stop : ∀ w ∈ (Chars.words k.toList).getLast?, Filler.FirmEnd w

namespace Sought

open Directory

variable {d : Directory} {k : String}

theorem words_ne_nil (h : Sought d k) : Chars.words k.toList ≠ [] :=
  fun hNil => by
  have hEmpty := h.spaced
  rw [hNil] at hEmpty
  have hBlank := h.notBlank
  rw [Text.isBlank, ← hEmpty] at hBlank
  cases hBlank

theorem free_lower (h : Sought d k) : Free d (Chars.lower k.toList) :=
  fun p hp name hName hOccurs =>
    Bool.eq_false_iff.mp (h.unnamed p hp name hName)
      (Chars.contains_iff.mpr hOccurs)

/-- A name that occurs up to the case of ASCII letters occurs in lower case. -/
theorem free_asciiLower (h : Sought d k) (hd : d.Unambiguous) :
    Free d (Chars.asciiLower k.toList) := by
  intro p hp name hName hOccurs
  have hPlain := hd.plain p hp name hName
  rw [← hPlain.asciiLower] at hOccurs
  have hLower := Chars.lower_infix_of_asciiLower hPlain.noSigma hOccurs
  rw [hPlain.lower] at hLower
  exact h.free_lower p hp name hName hLower

theorem toList_ne_nil (h : Sought d k) : k.toList ≠ [] := fun hNil =>
    h.words_ne_nil (by rw [hNil]; rfl)

theorem isWord_of_mem {w : List Char} (hw : w ∈ Chars.words k.toList) :
    Chars.IsWord w :=
  (Chars.of_mem_words hw).1

theorem trimmed (h : Sought d k) : Chars.trim k.toList = k.toList := by
  rw [← h.spaced]
  exact Chars.trim_unwords fun _ => isWord_of_mem

/-- Where only the words to search for are kept, they are what is searched
for. -/
theorem searchWords_of_kept (h : Sought d k) {request : String}
    {kept dropped : Segment}
    (hSegments : d.segments request.toList = [kept, dropped] ∨
      d.segments request.toList = [dropped, kept])
    (hKept : kept.kept = k.toList) (hDropped : dropped.kept = []) :
    d.searchWords request = k := by
  have hNotEmpty : k.toList.isEmpty = false :=
    List.isEmpty_eq_false_iff.mpr h.toList_ne_nil
  unfold searchWords
  rcases hSegments with hSegments | hSegments <;>
    simp [hSegments, hKept, hDropped, hNotEmpty, Query.unwords_singleton]

section

variable (h : Sought d k) (hd : d.Unambiguous) {e : Platform} (he : e ∈ d)
  {w : String} (hw : w ∈ e.keywords)

include h hd he hw

/-- **The words to search for in front of the platform.** -/
theorem searchWords_search_on :
    d.searchWords ("search " ++ k ++ " on " ++ w) = k := by
  let front : List Char :=
    "search".toList ++ ' ' :: (k.toList ++ ' ' :: "on".toList)
  have hText : ("search " ++ k ++ " on " ++ w).toList =
        front ++ ' ' :: (w.toList ++ []) := by
    simp [front]
  have hAscii : Chars.asciiLower front =
      "search".toList ++ ' ' :: (Chars.asciiLower k.toList ++ ' ' ::
        "on".toList) := by
    simp only [front, Chars.asciiLower_append, Chars.asciiLower_cons]
    rfl
  have hSingle : Single d (Chars.asciiLower front) ' '
        (Chars.asciiLower []) := by
    rw [hAscii]
    exact single_search_on hd (h.free_asciiLower hd)
  have hKept :=
    Segment.kept_search_on (fun _ => isWord_of_mem) h.words_ne_nil
      h.start h.stop
  have hFront : front ++ [' '] =
        "search ".toList ++ (k.toList ++ " on ".toList) := by simp [front]
  rw [h.spaced, ← hFront] at hKept
  have hRest : Segment.kept ⟨[], true, false⟩ = [] := by decide
  refine h.searchWords_of_kept (.inl ?_) hKept hRest
  rw [hText]
  exact segments_of_single hd he hw hSingle

/-- **The words to search for behind the platform.** -/
theorem searchWords_search_behind :
    d.searchWords ("在" ++ w ++ "搜索" ++ k) = k := by
  have hText : ("在" ++ w ++ "搜索" ++ k).toList =
        [] ++ '在' :: (w.toList ++ '搜' :: '索' :: k.toList) := by
    simp
  have hSingle : Single d (Chars.asciiLower []) '在'
        (Chars.asciiLower ('搜' :: '索' :: k.toList)) :=
    single_search_behind hd (h.free_asciiLower hd)
  have hKept :=
    Segment.kept_search_behind (fun _ => isWord_of_mem) h.words_ne_nil
      h.start h.stop
  rw [h.spaced] at hKept
  have hFront : Segment.kept ⟨['在'], false, true⟩ = [] := by decide
  refine h.searchWords_of_kept (.inr ?_) hKept hFront
  rw [hText]
  exact segments_of_single hd he hw hSingle

end

end Sought

/-! ## The plan -/

namespace Directory

/-- A separator is on its own in lower case. -/
theorem lower_append_separator {c : Char} (hc : c ∈ separators)
    (front rest : List Char) :
    Chars.lower (front ++ c :: rest) =
      Chars.lower front ++ c :: Chars.lower rest := by
  have hAll : ∀ c ∈ separators, Chars.EndsWord c ∧ Chars.lowerForm c = [c] :=
    of_separators (by decide +kernel)
  obtain ⟨hEnds, hForm⟩ := hAll c hc
  rw [Chars.lower_append_cons hEnds, hForm, List.append_assoc,
    List.singleton_append]

/-- The address of a search is that of the table with the encoded words in the
place for them. -/
theorem exists_searchUrlFor_eq {d : Directory} (hd : d.Unambiguous)
    {e : Platform} (he : e ∈ d) :
    ∃ front behind : String, e.searchUrl = front ++ queryPlace ++ behind ∧
      ∀ words, e.searchUrlFor words = front ++ Percent.encode words ++
        behind := by
  obtain ⟨front, behind, hSplit, hUrl⟩ := hd.place e he
  refine ⟨String.ofList front, String.ofList behind, ?_, fun words => ?_⟩
  · apply String.toList_inj.mp
    simp only [String.toList_append, String.toList_ofList, hUrl,
      List.append_assoc]
  · apply String.toList_inj.mp
    rw [Platform.searchUrlFor, fillAddress, Text.replace, Chars.replace, hSplit,
      List.intercalate_cons_cons, List.intercalate_singleton]
    simp only [String.toList_append, String.toList_ofList]

end Directory

namespace Rules

open Directory

variable {d : Directory} {e : Platform} {request : String}

/-- Nothing is to be opened by a request that begins like none of the
openings. -/
theorem openTarget?_of_head {c : Char} {cs : List Char}
    (h : Chars.lower (Chars.trim request.toList) = c :: cs)
    (hc : ∀ o ∈ openings, o.toList.head? ≠ some c) :
    openTarget? request = none := by
  refine List.findSome?_eq_none_iff.mpr fun o ho => if_neg fun hStart => ?_
  obtain ⟨rest, hRest⟩ := Chars.isSome_dropLead?.mp hStart
  have hHead : o.toList.head? = some c := by
    rw [h] at hRest
    cases hOpening : o.toList with
    | nil =>
        have hSome : ∀ o ∈ openings, o.toList ≠ [] := by decide
        exact absurd hOpening (hSome o ho)
    | cons a opening =>
        rw [hOpening] at hRest
        exact congrArg some (List.cons.inj hRest).1
  exact hc o ho hHead

/-- **A request to search that mentions a platform is carried out there.** -/
theorem plan_of_detect {c : Char} {cs : List Char}
    (hLower : Chars.lower (Chars.trim request.toList) = c :: cs)
    (hOpening : ∀ o ∈ openings, o.toList.head? ≠ some c) {m : String}
    (hMarker : m ∈ searchMarkers) (hMark : m.toList <:+: c :: cs)
    (hDetect : d.detect request = some e) (hFound : d.find e.domain = some e) :
    plan d request = ⟨.automate
      (navigateTo (e.searchUrlFor (d.searchWords request)) :: e.resultSteps),
      e.domain, request⟩ := by
  have hOpen := openTarget?_of_head hLower hOpening
  have hSearches : hasMarker (Chars.lower (Chars.trim request.toList))
        searchMarkers = true := by
    rw [hLower]
    exact List.any_eq_true.mpr ⟨m, hMarker, Chars.contains_iff.mpr hMark⟩
  have hSteps : d.cannedSteps e.domain request =
      navigateTo (e.searchUrlFor (d.searchWords request)) :: e.resultSteps := by
    rw [cannedSteps, resolve_of_find hFound]
  simp only [plan, hOpen, Option.bind_none, hDetect, hSearches, Bool.true_or,
    Option.filter_some, if_true, hSteps]

end Rules

namespace Sought

open Directory Rules

section

variable {d : Directory} {k : String} (h : Sought d k) (hd : d.Unambiguous)
  {e : Platform} (he : e ∈ d) {w : String} (hw : w ∈ e.keywords)

include h hd he hw

/-- The plan for a search with the platform at the end. -/
theorem plan_search_on : plan d ("search " ++ k ++ " on " ++ w) =
    ⟨.automate (navigateTo (e.searchUrlFor k) :: e.resultSteps), e.domain,
      "search " ++ k ++ " on " ++ w⟩ := by
  have hPlain := hd.plain e he w (mem_names_of_keyword hw)
  let front (k : List Char) : List Char :=
    "search".toList ++ ' ' :: (k ++ ' ' :: "on".toList)
  have hText : ("search " ++ k ++ " on " ++ w).toList =
        front k.toList ++ ' ' :: w.toList := by
    simp [front]
  have hTrim : Chars.trim ("search " ++ k ++ " on " ++ w).toList =
        ("search " ++ k ++ " on " ++ w).toList := by
    rw [hText, List.append_cons]
    exact Chars.trim_cons_append (by decide) _ hPlain.trimmed hPlain.nonempty
  have hLower : Chars.lower ("search " ++ k ++ " on " ++ w).toList =
      front (Chars.lower k.toList) ++ ' ' :: (w.toList ++ []) := by
    have hVerb : Chars.lower "search".toList = "search".toList ∧
        Chars.lower "on".toList = "on".toList := by
      decide
    have hSpace : ' ' ∈ separators := by decide
    simp only [hText, front, List.append_assoc, List.cons_append,
      lower_append_separator hSpace, hVerb.1, hVerb.2, hPlain.lower,
      List.append_nil]
  have hDetect :=
    detect_of_single hd he hw (single_search_on hd h.free_lower) hLower
  have hMark : "search".toList <:+: front (Chars.lower k.toList) ++ ' ' ::
        (w.toList ++ []) :=
    ⟨[], _, List.append_assoc ..⟩
  have hPlan :=
    plan_of_detect ((congrArg Chars.lower hTrim).trans hLower) (by decide)
      (by decide) hMark hDetect
    (hd.found e he)
  rwa [h.searchWords_search_on hd he hw] at hPlan

/-- The plan for a search with the platform in front of the words. -/
theorem plan_search_behind : plan d ("在" ++ w ++ "搜索" ++ k) =
    ⟨.automate (navigateTo (e.searchUrlFor k) :: e.resultSteps), e.domain,
      "在" ++ w ++ "搜索" ++ k⟩ := by
  have hPlain := hd.plain e he w (mem_names_of_keyword hw)
  have hText : ("在" ++ w ++ "搜索" ++ k).toList =
        [] ++ '在' :: (w.toList ++ '搜' :: ([] ++ '索' :: k.toList)) := by
    simp
  have hTrim : Chars.trim ("在" ++ w ++ "搜索" ++ k).toList =
        ("在" ++ w ++ "搜索" ++ k).toList := by
    have hEnd :=
      Chars.trim_cons_append (show Chars.isBlank '在' = false by decide)
        (w.toList ++ ['搜', '索'])
      h.trimmed h.toList_ne_nil
    rw [List.append_assoc] at hEnd
    rw [hText]
    exact hEnd
  have hLower : Chars.lower ("在" ++ w ++ "搜索" ++ k).toList =
      [] ++ '在' :: (w.toList ++ '搜' :: '索' :: Chars.lower k.toList) := by
    have hSeparators : '在' ∈ separators ∧ '搜' ∈ separators ∧
        '索' ∈ separators := by decide
    rw [hText, lower_append_separator hSeparators.1,
      lower_append_separator hSeparators.2.1,
      lower_append_separator hSeparators.2.2, hPlain.lower]
    rfl
  have hDetect :=
    detect_of_single hd he hw (single_search_behind hd h.free_lower) hLower
  have hMark : "搜索".toList <:+:
        '在' :: (w.toList ++ '搜' :: '索' :: Chars.lower k.toList) :=
    ⟨'在' :: w.toList, Chars.lower k.toList, List.append_assoc ..⟩
  have hPlan :=
    plan_of_detect ((congrArg Chars.lower hTrim).trans hLower) (by decide)
      (by decide) hMark hDetect
    (hd.found e he)
  rwa [h.searchWords_search_behind hd he hw] at hPlan

end

end Sought

namespace Rules

open Directory

/-- **The plan for a search on a platform of the built-in table.** Whichever of
its keywords names the platform and whatever is searched for, the plan goes to
the platform, and what it loads first is the address of its search with the
words, encoded, in the place for them; decoding gives back just these words. -/
theorem plan_of_search {e : Platform} (he : e ∈ builtin) {w : String}
    (hw : w ∈ e.keywords) {k : String} (hk : Sought builtin k) :
    (∀ request ∈ ["search " ++ k ++ " on " ++ w, "在" ++ w ++ "搜索" ++ k],
      plan builtin request = ⟨.automate
        (navigateTo (e.searchUrlFor k) :: e.resultSteps), e.domain, request⟩) ∧
    (∃ front behind : String, e.searchUrl = front ++ queryPlace ++ behind ∧
      e.searchUrlFor k = front ++ Percent.encode k ++ behind) ∧
    Percent.decode? (Percent.encode k) = some k := by
  refine ⟨?_, ?_, Percent.decode?_encode k⟩
  · intro request hRequest
    simp only [List.mem_cons, List.not_mem_nil, or_false] at hRequest
    rcases hRequest with rfl | rfl
    · exact hk.plan_search_on builtin_unambiguous he hw
    · exact hk.plan_search_behind builtin_unambiguous he hw
  · obtain ⟨front, behind, hUrl, hFill⟩ :=
      exists_searchUrlFor_eq builtin_unambiguous he
    exact ⟨front, behind, hUrl, hFill k⟩

/-- Words in two scripts, with fillers in the middle and with fillers of one
character at either end. -/
theorem plan_of_search_mixed :
    ∃ e ∈ builtin, "b站" ∈ e.keywords ∧ Sought builtin "上海 play 100% 搜索 里" ∧
      plan builtin "search 上海 play 100% 搜索 里 on b站" =
        ⟨.automate (navigateTo ("https://search.bilibili.com/all?keyword=" ++
          "%E4%B8%8A%E6%B5%B7%20play%20100%25%20%E6%90%9C%E7%B4%A2%20%E9%87%8C") :: e.resultSteps),
          "bilibili.com", "search 上海 play 100% 搜索 里 on b站"⟩ := by
  obtain ⟨e, he, hKeyword, hDomain, hUrl⟩ : ∃ e ∈ builtin, "b站" ∈ e.keywords ∧
      e.domain = "bilibili.com" ∧
      e.searchUrlFor "上海 play 100% 搜索 里" =
        "https://search.bilibili.com/all?keyword=" ++
        "%E4%B8%8A%E6%B5%B7%20play%20100%25%20%E6%90%9C%E7%B4%A2%20%E9%87%8C" := by decide +kernel
  have hHead : (Chars.words "上海 play 100% 搜索 里".toList).head? =
        some ['上', '海'] := by decide +kernel
  have hLast : (Chars.words "上海 play 100% 搜索 里".toList).getLast? =
        some ['里'] := by decide +kernel
  have hSought : Sought builtin "上海 play 100% 搜索 里" := by
    refine ⟨by decide +kernel, by decide +kernel, by decide +kernel,
      fun w hw => ?_, fun w hw => ?_⟩
    · obtain rfl := Option.some.inj (hHead.symm.trans hw)
      exact ⟨by decide, by decide⟩
    · obtain rfl := Option.some.inj (hLast.symm.trans hw)
      exact ⟨by decide, by decide⟩
  have hPlan := (plan_of_search he hKeyword hSought).1 _ (List.mem_cons_self ..)
  rw [hUrl, hDomain] at hPlan
  exact ⟨e, he, hKeyword, hSought, hPlan⟩

end Rules

end Errand
