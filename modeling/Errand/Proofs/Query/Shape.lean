import Errand.Proofs.Query.Line

/-!
# The shape of a query

A query is meant to be one line of words: not blank, trimmed, and with no
blanks but single spaces between the words. This file says how far that holds.
Bringing a text into one line drops control characters last, behind the joining
of the words, so a word that consists of nothing else leaves its space behind.
Then the query begins or ends with a space, has two of them in a row, or is a
space and nothing else. That is the only way for it to go wrong: if every word
of the text shows something, the query is one line of words.

Whatever the words are, nothing is invented. The characters of a query that are
not blank are some of those of the request, in their order.

## Main results

* `isLine_unwords`, `ne_nil_of_isLine`: joined words are one line exactly if
  none of them is empty.
* `solids_normalize`: what is left of a text in one line.
* `isLine_normalize`, `exists_shown_of_isLine`: a text in one line is one line
  of words, if it is not empty, exactly if every word shows something.
* `clean_shape`: the shape of a query, and when a request is turned away.
* `clean_leaves_spaces`: queries that are not one line.
-/

namespace Errand

namespace Chars

/-- One line of words: not blank, trimmed, and with no blanks but single
spaces. -/
structure IsLine (cs : List Char) : Prop where
  notBlank : allBlank cs = false
  trimmed : trim cs = cs
  spaces : ∀ c ∈ cs, isBlank c = true → c = ' '
  single : ¬ [' ', ' '] <:+: cs

/-- The first character that trimming leaves is not blank. -/
theorem isBlank_of_trim {cs rest : List Char} {c : Char}
    (h : trim cs = c :: rest) : isBlank c = false := by
  unfold trim at h
  cases hStart : trimStart cs with
  | nil =>
      rw [hStart] at h
      cases h
  | cons d ds =>
      have hd := isBlank_of_trimStart hStart
      rw [hStart, trimEnd_cons hd] at h
      rwa [(List.cons.inj h).1] at hd

/-! ## Words joined with spaces -/

theorem unwords_append {before after : List (List Char)} (hBefore : before ≠ [])
    (hAfter : after ≠ []) :
    unwords (before ++ after) = unwords before ++ ' ' :: unwords after := by
  induction before with
  | nil => exact absurd rfl hBefore
  | cons w before ih =>
      cases before with
      | nil =>
          rw [Query.unwords_singleton]
          exact Query.unwords_cons w hAfter
      | cons w' before =>
          have hLater : (w' :: before) ++ after ≠ [] :=
            List.append_ne_nil_of_right_ne_nil _ hAfter
          rw [List.cons_append, Query.unwords_cons w hLater,
            ih (List.cons_ne_nil w' before),
            Query.unwords_cons w (List.cons_ne_nil w' before),
            List.append_assoc, List.cons_append]

/-- Words that are joined can be read off again at the spaces. -/
theorem splitOn_unwords {ws : List (List Char)} (h : ∀ w ∈ ws, IsWord w)
    (hSome : ws ≠ []) : (unwords ws).splitOn ' ' = ws := by
  refine List.splitOn_intercalate ' ' (fun w hw hSpace => ?_) hSome
  have hSolid := (h w hw).2 ' ' hSpace
  exact absurd hSolid (by decide)

/-- The only blanks of joined words are the spaces between them. -/
theorem eq_space_of_mem_unwords {ws : List (List Char)} (h : ∀ w ∈ ws, IsWord w)
    {c : Char} (hc : c ∈ unwords ws) (hBlank : isBlank c = true) : c = ' ' := by
  rcases mem_unwords hc with rfl | ⟨w, hw, hMem⟩
  · rfl
  · rw [(h w hw).2 c hMem] at hBlank
    cases hBlank

/-- Words that are joined make up one line. -/
theorem isLine_unwords {ws : List (List Char)} (h : ∀ w ∈ ws, IsWord w)
    (hSome : ws ≠ []) : IsLine (unwords ws) where
  notBlank := by
    obtain ⟨w, rest, rfl⟩ := List.exists_cons_of_ne_nil hSome
    have hFirst := (solid_ends_unwords h).1
    obtain ⟨c, cs, hText⟩ :=
      List.exists_cons_of_ne_nil
        (unwords_ne_nil (h w List.mem_cons_self).1 rest)
    rw [hText] at hFirst ⊢
    unfold allBlank
    rw [List.all_cons, hFirst c rfl, Bool.false_and]
  trimmed := trim_unwords h
  spaces _ hc hBlank := eq_space_of_mem_unwords h hc hBlank
  single := by
    -- Between two spaces in a row an empty word would be read off.
    rintro ⟨front, rest, hText⟩
    have hSplit := splitOn_unwords h hSome
    rw [← hText, List.append_assoc] at hSplit
    have hEmpty : [] ∈ (front ++ ' ' :: ([] ++ ' ' :: rest)).splitOn ' ' := by
      rw [List.splitOn_append_cons_self, List.splitOn_append_cons_self]
      simp
    rw [show front ++ ' ' :: ([] ++ ' ' :: rest) = front ++ ([' ', ' '] ++ rest)
      from rfl, hSplit] at hEmpty
    exact (h [] hEmpty).1 rfl

/-- An empty word shows in the joined text: at its beginning, at its end, as
two spaces in a row, or as nothing at all. -/
theorem ne_nil_of_isLine {ws : List (List Char)} (h : IsLine (unwords ws)) :
    ∀ w ∈ ws, w ≠ [] := by
  rintro w hw rfl
  obtain ⟨before, after, rfl⟩ := List.append_of_mem hw
  by_cases hAfter : after = []
  · subst hAfter
    by_cases hBefore : before = []
    · subst hBefore
      exact absurd h.notBlank (by decide)
    · have hText : unwords (before ++ [[]]) = unwords before ++ [' '] :=
        unwords_append hBefore (List.cons_ne_nil [] [])
      have hTrimmed := h.trimmed
      rw [hText] at hTrimmed
      exact absurd (isBlank_of_trimEnd hTrimmed) (by decide)
  · have hRest : unwords ([] :: after) = ' ' :: unwords after :=
      Query.unwords_cons [] hAfter
    by_cases hBefore : before = []
    · subst hBefore
      have hTrimmed := h.trimmed
      rw [List.nil_append, hRest] at hTrimmed
      exact absurd (isBlank_of_trim hTrimmed) (by decide)
    · refine h.single ⟨unwords before, unwords after, ?_⟩
      rw [unwords_append hBefore (List.cons_ne_nil [] after), hRest,
        List.append_assoc]
      rfl

/-- The words of a text are made of its characters that are not blank, each in
its place. -/
theorem flatten_wordsFrom (current cs : List Char) :
    (wordsFrom current cs).flatten = current.reverse ++ Pattern.solids cs := by
  induction cs generalizing current with
  | nil =>
      rw [wordsFrom]
      split
      · next hEmpty =>
        rw [List.isEmpty_iff.mp hEmpty]
        rfl
      · exact List.flatten_singleton.trans (List.append_nil _).symm
  | cons c rest ih =>
      rw [wordsFrom]
      split
      · next hBlank =>
        have hRest : Pattern.solids (c :: rest) = Pattern.solids rest :=
          List.filter_cons_of_neg (by simp [hBlank])
        rw [hRest]
        split
        · next hEmpty =>
          rw [ih, List.isEmpty_iff.mp hEmpty]
        · rw [List.flatten_cons, ih]
          rfl
      · next hBlank =>
        have hRest : Pattern.solids (c :: rest) = c :: Pattern.solids rest :=
          List.filter_cons_of_pos (by simp [hBlank])
        rw [ih, hRest, List.reverse_cons, List.append_assoc]
        rfl

/-- Joining words adds blanks and nothing else. -/
theorem solids_unwords {ws : List (List Char)} (h : ∀ w ∈ ws, IsWord w) :
    Pattern.solids (unwords ws) = ws.flatten := by
  induction ws with
  | nil => rfl
  | cons w rest ih =>
      obtain ⟨⟨-, hSolid⟩, hRest⟩ := List.forall_mem_cons.mp h
      have hWord : Pattern.solids w = w := List.filter_eq_self.mpr fun c hc =>
        by rw [hSolid c hc]; rfl
      by_cases hMore : rest = []
      · subst hMore
        rw [Query.unwords_singleton, hWord, List.flatten_singleton]
      · have hSpace : Pattern.solids (' ' :: unwords rest) =
              Pattern.solids (unwords rest) :=
          List.filter_cons_of_neg (by decide)
        rw [Query.unwords_cons w hMore, Pattern.solids_append, hWord, hSpace,
          ih hRest, List.flatten_cons]

end Chars

namespace Query

open Chars Pattern

/-- Control characters can as well be dropped from each word. -/
theorem shown_unwords (ws : List (List Char)) :
    shown (unwords ws) = unwords (ws.map shown) := by
  induction ws with
  | nil => rfl
  | cons w rest ih =>
      by_cases hMore : rest = []
      · subst hMore
        rw [unwords_singleton, List.map_singleton, unwords_singleton]
      · have hMapped : rest.map shown ≠ [] := mt List.map_eq_nil_iff.mp hMore
        have hSpace : shown (' ' :: unwords rest) =
              ' ' :: shown (unwords rest) :=
          List.filter_cons_of_pos (by decide)
        rw [unwords_cons w hMore, shown_append, hSpace, ih, List.map_cons,
          unwords_cons _ hMapped]

/-- **Nothing is invented**: what a text has besides blanks, in one line, it
had before, in the same order. -/
theorem solids_normalize (cs : List Char) :
    (solids (normalize cs)).Sublist (solids cs) := by
  have hWords : ∀ w ∈ words cs, IsWord w := fun w hw => (of_mem_words hw).1
  have hJoined : solids (unwords (words cs)) = solids cs := by
    rw [solids_unwords hWords]
    exact flatten_wordsFrom [] cs
  rw [← hJoined]
  exact List.filter_sublist.filter _

theorem shown_ne_nil_iff {w : List Char} : shown w ≠ [] ↔
    ∃ c ∈ w, isControl c = false := by
  unfold shown
  rw [Ne, List.filter_eq_nil_iff]
  simp

/-- The only blanks of a text in one line are spaces. -/
theorem eq_space_of_mem_normalize {cs : List Char} {c : Char}
    (hc : c ∈ normalize cs) (hBlank : isBlank c = true) : c = ' ' :=
  eq_space_of_mem_unwords (fun _ hw => (of_mem_words hw).1)
    (List.mem_filter.mp hc).1 hBlank

/-- A text in one line is empty, or it is one line of words, if every word
shows something. -/
theorem isLine_normalize {cs : List Char}
    (h : ∀ w ∈ words cs, ∃ c ∈ w, isControl c = false) :
    normalize cs = [] ∨ IsLine (normalize cs) := by
  have hShown : normalize cs = unwords ((words cs).map shown) :=
    shown_unwords (words cs)
  rw [hShown]
  by_cases hNone : words cs = []
  · rw [hNone]
    exact .inl rfl
  · refine .inr (isLine_unwords (fun v hv => ?_)
        (mt List.map_eq_nil_iff.mp hNone))
    obtain ⟨w, hw, rfl⟩ := List.mem_map.mp hv
    exact ⟨shown_ne_nil_iff.mpr (h w hw),
      isBlank_of_mem_shown (of_mem_words hw).1.2⟩

/-- In one line of words every word shows something. -/
theorem exists_shown_of_isLine {cs : List Char} (h : IsLine (normalize cs)) :
    ∀ w ∈ words cs, ∃ c ∈ w, isControl c = false := by
  have hJoined : IsLine (unwords ((words cs).map shown)) := by
    rw [← shown_unwords]
    exact h
  intro w hw
  exact shown_ne_nil_iff.mp (ne_nil_of_isLine hJoined (shown w)
      (List.mem_map_of_mem hw))

/-- A text in one line is blank only if it is empty, if every word shows
something. -/
theorem normalize_eq_nil_iff {cs : List Char}
    (h : ∀ w ∈ words cs, ∃ c ∈ w, isControl c = false) :
    normalize cs = [] ↔ allBlank (normalize cs) = true := by
  constructor
  · intro hEmpty
    rw [hEmpty]
    rfl
  · intro hAll
    apply (isLine_normalize h).resolve_right
    intro hLine
    have hNot := hLine.notBlank
    rw [hAll] at hNot
    cases hNot

/-- A request is turned away exactly if what it comes down to is empty or too
long. -/
theorem clean_eq_error_iff {request : String} {limit : Nat} :
    (∃ reason, clean request limit = .error reason) ↔
      normalize (strip request.toList) = [] ∨
      limit < (normalize (strip request.toList)).length := by
  constructor
  · rintro ⟨reason, hError⟩
    by_cases hEmpty : normalize (strip request.toList) = []
    · exact .inl hEmpty
    · refine .inr (Nat.lt_of_not_le fun hShort => ?_)
      have hOk : clean request limit =
            .ok ⟨String.ofList (normalize (strip request.toList))⟩ :=
        clean_eq_ok_iff.mpr ⟨hEmpty, hShort, rfl⟩
      rw [hError] at hOk
      cases hOk
  · intro h
    cases hClean : clean request limit with
    | error reason => exact ⟨reason, rfl⟩
    | ok q =>
        obtain ⟨hSome, hShort, -⟩ := clean_eq_ok_iff.mp hClean
        exact (h.elim hSome (Nat.not_lt.mpr hShort)).elim

/-- **The shape of a query.** A query is not longer than the limit, and has no
control characters and no blanks but spaces. Its other characters are some of
those of the request, in their order. It is one line of words exactly if every
word that is left of the request shows something. If so, a request is turned
away exactly if what is left of it in one line is blank or too long; in
general, if that is empty or too long. -/
theorem clean_shape (request : String) (limit : Nat) :
    let left := strip request.toList
    let kept := normalize left
    let allShow := ∀ w ∈ words left, ∃ c ∈ w, isControl c = false
    (∀ q, clean request limit = .ok q →
        q.text.length ≤ limit ∧ (∀ c ∈ q.text.toList, isControl c = false) ∧
          (∀ c ∈ q.text.toList, isBlank c = true → c = ' ') ∧
          (solids q.text.toList).Sublist request.toList ∧
          (IsLine q.text.toList ↔ allShow)) ∧
      ((∃ reason, clean request limit = .error reason) ↔ kept = [] ∨
        limit < kept.length) ∧
      (allShow → ((∃ reason, clean request limit = .error reason) ↔
        allBlank kept = true ∨ limit < kept.length)) := by
  intro left kept allShow
  refine ⟨fun q hClean => ?_, clean_eq_error_iff, fun hShow => ?_⟩
  · obtain ⟨hSome, hShort, hText⟩ := clean_eq_ok_iff.mp hClean
    have hKept : q.text.toList = kept := by rw [hText, String.toList_ofList]
    refine ⟨?_, isControl_of_clean hClean, fun c hc hBlank => ?_, ?_, ?_⟩
    · rw [← String.length_toList, hKept]
      exact hShort
    · rw [hKept] at hc
      exact eq_space_of_mem_normalize hc hBlank
    · rw [hKept]
      have hLeft : (solids left).Sublist (solids request.toList) :=
        solids_foldl_replaceAll solid_activeContent rfl request.toList
      exact ((solids_normalize left).trans hLeft).trans List.filter_sublist
    · rw [hKept]
      exact ⟨exists_shown_of_isLine,
        fun hShow => (isLine_normalize hShow).resolve_left hSome⟩
  · rw [← normalize_eq_nil_iff hShow]
    exact clean_eq_error_iff

/-- A request with a tag, tabs and blanks at its ends comes down to one line of
words. -/
theorem clean_shape_green_tea :
    clean " green\t<img src=x>  tea\n" 200 = .ok ⟨"green tea"⟩ ∧
    IsLine "green tea".toList := by
  have hClean : clean " green\t<img src=x>  tea\n" 200 = .ok ⟨"green tea"⟩ :=
    clean_eq_ok_iff.mpr ⟨by decide +kernel, by decide +kernel,
      by decide +kernel⟩
  have hWords : words (strip " green\t<img src=x>  tea\n".toList) =
        ["green".toList, "tea".toList] := by
    decide +kernel
  obtain ⟨-, -, -, -, hLine⟩ :=
    (clean_shape " green\t<img src=x>  tea\n" 200).1 _ hClean
  rw [hWords] at hLine
  exact ⟨hClean, hLine.mpr (by simp [isControl])⟩

/-- A word that shows nothing leaves its space behind: a query can be a space
and nothing else, it can begin with a space, and there can be two spaces
between its words. -/
theorem clean_leaves_spaces :
    clean "\x01 \x01" 200 = .ok ⟨" "⟩ ∧ allBlank " ".toList = true ∧
      clean "\x01 tea" 200 = .ok ⟨" tea"⟩ ∧ trim " tea".toList ≠ " tea".toList ∧
      clean "green \x01 tea" 200 = .ok ⟨"green  tea"⟩ ∧
      [' ', ' '] <:+: "green  tea".toList := by
  refine ⟨clean_eq_ok_iff.mpr
      ⟨by decide +kernel, by decide +kernel, by decide +kernel⟩,
    rfl,
    clean_eq_ok_iff.mpr
      ⟨by decide +kernel, by decide +kernel, by decide +kernel⟩,
    by decide,
    clean_eq_ok_iff.mpr
      ⟨by decide +kernel, by decide +kernel, by decide +kernel⟩,
    ⟨"green".toList, "tea".toList, by decide⟩⟩

end Query

end Errand
