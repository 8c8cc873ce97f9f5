import Errand.Proofs.Query.Residue
import Errand.Proofs.Text.Blank
import Errand.Proofs.Text.Pieces

/-!
# A query is one line

A cleaned request has no control characters, and so no line breaks. It is put
together from words with single spaces between them, so it is trimmed, with one
exception: the control characters go last, and a word that consists of nothing
else leaves its space behind. A request whose control characters are all blanks
has no such word.

## Main results

* `words_unwords`: words that are joined are read off again.
* `isControl_of_clean`: a query has no control characters.
* `trim_of_clean`: a query is trimmed if every control character of the request
  is a blank.
-/

namespace Errand

namespace Chars

/-! ## Words -/

/-- The text has characters, and none of them is a blank. -/
def IsWord (w : List Char) : Prop := w ≠ [] ∧ ∀ c ∈ w, isBlank c = false

theorem isWord_of_any {w : List Char} (hSome : w ≠ [])
    (h : w.any isBlank = false) : IsWord w :=
  ⟨hSome, fun c hc => Bool.eq_false_iff.mpr (List.any_eq_false.mp h c hc)⟩

theorem IsWord.append {v w : List Char} (hv : IsWord v) (hw : IsWord w) :
    IsWord (v ++ w) :=
  ⟨List.append_ne_nil_of_left_ne_nil hv.1 w,
    List.forall_mem_append.mpr ⟨hv.2, hw.2⟩⟩

/-- **What is read off a text are words, made of its characters.** Only the
word that is being read at the beginning can hold others, those of
`current`. -/
theorem of_mem_wordsFrom {current cs w : List Char}
    (h : w ∈ wordsFrom current cs) :
    w ≠ [] ∧ ∀ c ∈ w, c ∈ current ∨ c ∈ cs ∧ isBlank c = false := by
  have hRead : ∀ {current cs : List Char}, ¬ current.isEmpty = true →
      current.reverse ≠ [] ∧
      ∀ c ∈ current.reverse, c ∈ current ∨ c ∈ cs ∧ isBlank c = false :=
    fun hNonempty =>
      ⟨by simpa using hNonempty, fun c hc => .inl (List.mem_reverse.mp hc)⟩
  induction cs generalizing current with
  | nil =>
      rw [wordsFrom] at h
      split at h
      · cases h
      · next hNonempty =>
        obtain rfl := List.mem_singleton.mp h
        exact hRead hNonempty
  | cons d rest ih =>
      have hLater : w ∈ wordsFrom [] rest →
          w ≠ [] ∧ ∀ c ∈ w, c ∈ current ∨ c ∈ d :: rest ∧ isBlank c = false :=
        fun hRest =>
          (ih hRest).imp_right fun hChars c hc =>
            .inr (((hChars c hc).resolve_left List.not_mem_nil).imp_left
                (List.mem_cons_of_mem d))
      rw [wordsFrom] at h
      split at h
      · split at h
        · exact hLater h
        · next hNonempty =>
          rcases List.mem_cons.mp h with rfl | hRest
          · exact hRead hNonempty
          · exact hLater hRest
      · next hSolid =>
        obtain ⟨hNonempty, hChars⟩ := ih h
        refine ⟨hNonempty, fun c hc => ?_⟩
        rcases hChars c hc with hHere | ⟨hRest, hNotBlank⟩
        · rcases List.mem_cons.mp hHere with rfl | hCurrent
          · exact .inr ⟨List.mem_cons_self, Bool.eq_false_iff.mpr hSolid⟩
          · exact .inl hCurrent
        · exact .inr ⟨List.mem_cons_of_mem d hRest, hNotBlank⟩

theorem of_mem_words {cs w : List Char} (h : w ∈ words cs) :
    IsWord w ∧ w ⊆ cs := by
  obtain ⟨hNonempty, hChars⟩ := of_mem_wordsFrom h
  have hOf : ∀ c ∈ w, c ∈ cs ∧ isBlank c = false := fun c hc =>
    (hChars c hc).resolve_left List.not_mem_nil
  exact ⟨⟨hNonempty, fun c hc => (hOf c hc).2⟩, fun c hc => (hOf c hc).1⟩

/-! ## Words in one line -/

theorem unwords_ne_nil {w : List Char} (hw : w ≠ []) (ws : List (List Char)) :
    unwords (w :: ws) ≠ [] := by
  cases ws with
  | nil =>
      rw [Query.unwords_singleton]
      exact hw
  | cons w' ws =>
      rw [Query.unwords_cons w (List.cons_ne_nil w' ws)]
      exact List.append_ne_nil_of_left_ne_nil hw _

/-- Words joined with single spaces begin like the first and end like the last
of them. -/
theorem solid_ends_unwords {ws : List (List Char)} (h : ∀ w ∈ ws, IsWord w) :
    (∀ c ∈ (unwords ws).head?, isBlank c = false) ∧
      ∀ c ∈ (unwords ws).getLast?, isBlank c = false := by
  induction ws with
  | nil => exact ⟨nofun, nofun⟩
  | cons w rest ih =>
      obtain ⟨⟨hNonempty, hSolid⟩, hRest⟩ := List.forall_mem_cons.mp h
      cases rest with
      | nil =>
          rw [Query.unwords_singleton]
          exact ⟨fun c hc => hSolid c (List.mem_of_head? hc),
            fun c hc => hSolid c (List.mem_of_getLast? hc)⟩
      | cons w' rest =>
          have hLater : unwords (w' :: rest) ≠ [] :=
            unwords_ne_nil (hRest w' List.mem_cons_self).1 rest
          have hLast := List.getLast?_eq_some_getLast hLater
          rw [Query.unwords_cons w (List.cons_ne_nil w' rest),
            List.head?_append, Option.or_of_isSome
            (List.isSome_head?.mpr hNonempty), List.getLast?_append,
            List.getLast?_cons, hLast]
          exact ⟨fun c hc => hSolid c (List.mem_of_head? hc),
            fun c hc => (ih hRest).2 c (hLast.trans hc)⟩

theorem trim_unwords {ws : List (List Char)} (h : ∀ w ∈ ws, IsWord w) :
    trim (unwords ws) = unwords ws :=
  trim_of_solid_ends (solid_ends_unwords h).1 (solid_ends_unwords h).2

theorem mem_unwords {ws : List (List Char)} {c : Char} (h : c ∈ unwords ws) :
    c = ' ' ∨ ∃ w ∈ ws, c ∈ w :=
  (mem_intercalate h).imp_left List.mem_singleton.mp

/-! ## Words read off again -/

/-- A blank ends the word that is being read. -/
theorem wordsFrom_append_blank {c : Char} (hc : isBlank c = true)
    (current cs rest : List Char) :
    wordsFrom current (cs ++ c :: rest) =
      wordsFrom current cs ++ words rest := by
  induction cs generalizing current with
  | nil =>
      rw [List.nil_append, wordsFrom.eq_2, if_pos hc, wordsFrom.eq_1]
      split <;> rfl
  | cons d cs ih =>
      simp only [List.cons_append, wordsFrom, ih]
      split
      · split <;> rfl
      · rfl

theorem wordsFrom_of_solid {w : List Char} (h : ∀ c ∈ w, isBlank c = false)
    (current : List Char) :
    wordsFrom current w = wordsFrom (w.reverse ++ current) [] := by
  induction w generalizing current with
  | nil => rfl
  | cons c w ih =>
      obtain ⟨hc, hRest⟩ := List.forall_mem_cons.mp h
      have hStep : wordsFrom current (c :: w) = wordsFrom (c :: current) w := by
        rw [wordsFrom, hc]
        rfl
      rw [hStep, ih hRest, List.reverse_cons, List.append_assoc,
        List.singleton_append]

theorem words_of_isWord {w : List Char} (h : IsWord w) : words w = [w] := by
  rw [words, wordsFrom_of_solid h.2, List.append_nil, wordsFrom,
    List.isEmpty_reverse, if_neg (mt List.isEmpty_iff.mp h.1),
    List.reverse_reverse]

/-- **Words that are joined are read off again.** -/
theorem words_unwords {ws : List (List Char)} (h : ∀ w ∈ ws, IsWord w) :
    words (unwords ws) = ws := by
  induction ws with
  | nil => rfl
  | cons w ws ih =>
      obtain ⟨hw, hRest⟩ := List.forall_mem_cons.mp h
      cases ws with
      | nil =>
          rw [Query.unwords_singleton]
          exact words_of_isWord hw
      | cons w' ws =>
          rw [Query.unwords_cons w (List.cons_ne_nil w' ws), words,
            wordsFrom_append_blank (by decide), ih hRest]
          exact congrArg (· ++ w' :: ws) (words_of_isWord hw)

/-- What stands in front of joined words is part of the first. -/
theorem append_unwords (front w : List Char) (ws : List (List Char)) :
    front ++ unwords (w :: ws) = unwords ((front ++ w) :: ws) := by
  cases ws with
  | nil => rw [Query.unwords_singleton, Query.unwords_singleton]
  | cons w' ws =>
      rw [Query.unwords_cons w (List.cons_ne_nil w' ws),
        Query.unwords_cons _ (List.cons_ne_nil w' ws), List.append_assoc]

end Chars

namespace Query

open Chars

variable {request : String} {limit : Nat} {q : Query}

/-- **A query has no control characters**, and so no line breaks. -/
theorem isControl_of_clean (h : clean request limit = .ok q) :
    ∀ c ∈ q.text.toList, isControl c = false := by
  obtain ⟨-, -, hText⟩ := clean_eq_ok_iff.mp h
  intro c hc
  rw [hText, String.toList_ofList] at hc
  simpa using (List.mem_filter.mp hc).2

/-- **A query is trimmed** if every control character of the request is a
blank. -/
theorem trim_of_clean (h : clean request limit = .ok q)
    (hControl : ∀ c ∈ request.toList, isControl c = true → isBlank c = true) :
    Text.trim q.text = q.text := by
  obtain ⟨-, -, hText⟩ := clean_eq_ok_iff.mp h
  have hWords : ∀ w ∈ words (strip request.toList), IsWord w := fun w hw =>
    (of_mem_words hw).1
  have hShown : normalize (strip request.toList) =
        unwords (words (strip request.toList)) := by
    refine List.filter_eq_self.mpr fun c hc => ?_
    rcases mem_unwords hc with rfl | ⟨w, hw, hMem⟩
    · rfl
    · have hSolid := (hWords w hw).2 c hMem
      rcases Pattern.mem_foldl_replaceAll solid_activeContent
        ((of_mem_words hw).2 hMem) with hNew | hOld
      · obtain rfl := List.mem_singleton.mp hNew
        rfl
      · cases hShows : isControl c with
        | false => rfl
        | true => exact absurd (hControl c hOld hShows) (by rw [hSolid]; decide)
  rw [hText, hShown, Text.trim, String.toList_ofList, trim_unwords hWords]

end Query

end Errand
