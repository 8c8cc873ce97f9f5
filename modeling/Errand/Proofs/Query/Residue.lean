import Errand.Proofs.Text.Spacing
import Errand.Query

/-!
# What cleaning leaves of active content

Cleaning takes every piece of active content out once, pattern by pattern. What
a query still holds of it is what the text still holds after that, once its
control characters are gone: bringing the text into one line of words neither
adds a piece nor takes one away. So a query is free of active content exactly
if taking it out a second time finds nothing.

It need not be free of it. A control character inside of a piece hides it from
the patterns and is dropped later, and taking out one piece can join the parts
of another.

## Main results

* `solid_activeContent`, `carries_activeContent`: the patterns of active
  content begin with a character that is not blank, and do not mind the
  spacing.
* `similar_normalize`: one line of words is a respacing of the text without its
  control characters.
* `clean_residue`: what a query holds of active content.
* `clean_leaves_scheme`: a query that holds the scheme of a script address.
-/

namespace Errand

open Pattern
open Chars (isBlank unwords wordsFrom words)

namespace Query

/-! ## The patterns of active content -/

theorem carries_opening : Carries Loose Loose opening :=
  Carries.inOrder (by
    simp only [List.forall_mem_cons]
    exact ⟨IsMark.carries (by decide), carries_blanks, nofun⟩)

theorem solid_opening : Solid opening := (IsMark.solid (by decide)).inOrder _

theorem carries_scriptElement : Carries Loose Loose scriptElement :=
  Carries.inOrder (by
    have hScript : Carries Loose Loose (anyCase "script") :=
      (IsTerm.carries (by decide)).toLoose
    have hClose : Carries Loose Loose (exactly ">") :=
      IsMark.carries (by decide)
    have hSlash : Carries Loose Loose (exactly "/") :=
      IsMark.carries (by decide)
    simp only [List.forall_mem_cons]
    exact ⟨carries_opening, hScript, carries_upTo (by decide), hClose,
      Carries.runOfBlanks fun _ _ => rfl, carries_opening, hSlash,
      carries_blanks, hScript, carries_blanks, hClose, nofun⟩)

theorem carries_scriptScheme : Carries Loose Loose scriptScheme :=
  Carries.inOrder (by
    simp only [List.forall_mem_cons]
    exact ⟨(IsTerm.carries (by decide)).toLoose, carries_blanks,
      IsMark.carries (by decide), nofun⟩)

/-- A value between quotes. -/
theorem carries_quoted {quote : String} {stop : Char} (hQuote : IsMark quote)
    (hStop : isBlank stop = false) :
    Carries Loose Loose (inOrder [exactly quote, upTo [stop], exactly quote]) :=
  Carries.inOrder (by
    simp only [List.forall_mem_cons]
    exact ⟨hQuote.carries, carries_upTo (by simp [hStop]),
      hQuote.carries, nofun⟩)

theorem carries_eventHandler : Carries Tight Loose eventHandler := by
  have hBare : Carries Loose Loose
        (.run true fun c => !isBlank c && c != '>') :=
    Carries.runOfSolid fun c hc => by
      rw [Bool.and_eq_true, Bool.not_eq_true'] at hc
      exact hc.1
  refine Carries.boundary.seq (Carries.ofLoose (Carries.inOrder ?_))
  simp only [List.forall_mem_cons]
  exact ⟨(IsTerm.carries (by decide)).toLoose,
    (Carries.one fun _ => isBlank_of_isLatinLetter).toLoose,
    Carries.runOfSolid fun _ => isBlank_of_isLatinLetter, carries_blanks,
    IsMark.carries (by decide), carries_blanks,
    (carries_quoted (by decide) (by decide)).alt
      ((carries_quoted (by decide) (by decide)).alt hBare), nofun⟩

theorem carries_activeTag : Carries Loose Loose activeTag := by
  have hSlash : Carries Loose Loose (oneOf [exactly "/", .nothing]) :=
    (IsMark.carries (by decide)).alt Carries.nothing
  have hTerms : ∀ e ∈ activeElements, IsTerm e := by decide
  have hElements : Carries Loose Tight
        (oneOf (activeElements.map anyCase)) := by
    refine Carries.oneOf fun p hp => ?_
    obtain ⟨e, he, rfl⟩ := List.mem_map.mp hp
    exact (hTerms e he).carries
  have hRest : Carries Loose Loose (inOrder [upTo ['<', '>'], exactly ">"]) :=
    (carries_upTo (by decide)).seq (IsMark.carries (by decide))
  exact carries_opening.seq (hSlash.seq (carries_blanks.seq (hElements.seq
    (Carries.boundary.seq hRest.ofLoose))))

/-- No pattern of active content minds the spacing. -/
theorem carries_activeContent : ∀ p ∈ activeContent, Carries Tight Loose p := by
  simp only [activeContent, List.forall_mem_cons]
  exact ⟨carries_scriptElement.ofLoose, carries_scriptScheme.ofLoose,
    carries_eventHandler, carries_activeTag.ofLoose, nofun⟩

/-- Every piece of active content begins with a character that is not blank. -/
theorem solid_activeContent : ∀ p ∈ activeContent, Solid p := by
  simp only [activeContent, List.forall_mem_cons]
  exact ⟨solid_opening.inOrder _, (IsTerm.solid (by decide)).inOrder _,
    Solid.boundary_seq ((IsTerm.solid (by decide)).inOrder _),
    solid_opening.inOrder _, nofun⟩

/-! ## One line of words -/

/-- The text without its control characters, blanks apart. -/
def visible (cs : List Char) : List Char := cs.filter fun c =>
    isBlank c || !isControl c

/-- The text without its control characters. -/
def shown (cs : List Char) : List Char := cs.filter fun c => !isControl c

theorem visible_append (cs ds : List Char) :
    visible (cs ++ ds) = visible cs ++ visible ds :=
  List.filter_append ..

theorem shown_append (cs ds : List Char) :
    shown (cs ++ ds) = shown cs ++ shown ds :=
  List.filter_append ..

theorem visible_cons_of_isBlank {c : Char} (hc : isBlank c = true)
    (cs : List Char) : visible (c :: cs) = c :: visible cs := by
  unfold visible
  rw [List.filter_cons_of_pos (by rw [hc]; rfl)]

/-- In a word the two are the same. -/
theorem visible_eq_shown {cs : List Char} (h : ∀ c ∈ cs, isBlank c = false) :
    visible cs = shown cs :=
  List.filter_congr fun c hc => by rw [h c hc, Bool.false_or]

theorem unwords_singleton (w : List Char) : unwords [w] = w := by
  unfold unwords
  rw [List.intercalate_singleton]

theorem unwords_cons (w : List Char) {ws : List (List Char)} (h : ws ≠ []) :
    unwords (w :: ws) = w ++ ' ' :: unwords ws := by
  obtain ⟨w', ws, rfl⟩ := List.exists_cons_of_ne_nil h
  rfl

theorem isBlank_of_mem_shown {cs : List Char}
    (h : ∀ c ∈ cs, isBlank c = false) :
    ∀ c ∈ shown cs, isBlank c = false := fun c hc =>
    h c (List.mem_filter.mp hc).1

/-- A word, a blank and what comes behind it. -/
theorem respaced_word {w rest : List Char} {c : Char}
    (hw : ∀ d ∈ w, isBlank d = false) (hc : isBlank c = true)
    {ws : List (List Char)} (h : Similar (visible rest) (shown (unwords ws))) :
    Respaced (visible (w ++ c :: rest)) (shown (unwords (w :: ws))) := by
  obtain ⟨bs, ds, xs, ys, hxs, hys, hb, hd, hRespaced⟩ := h
  rw [visible_append, visible_eq_shown hw, visible_cons_of_isBlank hc, hxs]
  have hBlank : AllBlank (c :: bs) := List.forall_mem_cons.mpr ⟨hc, hb⟩
  cases ws with
  | nil =>
      obtain ⟨-, rfl⟩ := List.append_eq_nil_iff.mp hys.symm
      have hEnd : Respaced (c :: (bs ++ xs)) [] :=
        .ends (hBlank.append hRespaced.allBlank_of_nil) nofun
      have hWord := hEnd.append (isBlank_of_mem_shown hw)
      rw [List.append_nil] at hWord
      rw [unwords_singleton]
      exact hWord
  | cons w' ws =>
      rw [unwords_cons w (List.cons_ne_nil w' ws), shown_append]
      refine Respaced.append (isBlank_of_mem_shown hw) ?_
      show Respaced ((c :: bs) ++ xs) (' ' :: shown (unwords (w' :: ws)))
      rw [hys]
      exact .gap hBlank (List.forall_mem_cons.mpr ⟨rfl, hd⟩)
        (List.cons_ne_nil _ _)
        (List.cons_ne_nil ' ' ds) hRespaced

/-- The words from a place on, with and without a word that is being read
there, are a respacing of the text from there on. -/
theorem respaced_wordsFrom (cs : List Char) :
    Similar (visible cs) (shown (unwords (wordsFrom [] cs))) ∧
      ∀ current, current ≠ [] → (∀ c ∈ current, isBlank c = false) →
        Respaced (visible (current.reverse ++ cs))
          (shown (unwords (wordsFrom current cs))) := by
  induction cs with
  | nil =>
      refine ⟨⟨[], [], [], [], rfl, rfl, nofun, nofun, .ends nofun nofun⟩,
        fun current hNonempty hSolid => ?_⟩
      have hWord : ∀ c ∈ current.reverse, isBlank c = false := fun c hc =>
        hSolid c (List.mem_reverse.mp hc)
      have hWords : wordsFrom current [] = [current.reverse] := by
        unfold wordsFrom
        rw [if_neg (by simpa using hNonempty)]
      rw [hWords, unwords_singleton, List.append_nil, visible_eq_shown hWord]
      have hRefl :=
        Respaced.append (isBlank_of_mem_shown hWord)
          (.ends nofun nofun : Respaced [] [])
      rw [List.append_nil] at hRefl
      exact hRefl
  | cons c rest ih =>
      obtain ⟨hOutside, hInside⟩ := ih
      by_cases hc : isBlank c = true
      · refine ⟨?_, fun current hNonempty hSolid => ?_⟩
        · obtain ⟨bs, ds, xs, ys, hxs, hys, hb, hd, hRespaced⟩ := hOutside
          have hWords : wordsFrom [] (c :: rest) = wordsFrom [] rest := by
            simp only [wordsFrom, hc, if_true, List.isEmpty_nil]
          rw [hWords, visible_cons_of_isBlank hc, hxs]
          exact ⟨c :: bs, ds, xs, ys, rfl, hys,
            List.forall_mem_cons.mpr ⟨hc, hb⟩, hd, hRespaced⟩
        · have hWords : wordsFrom current (c :: rest) =
                current.reverse :: wordsFrom [] rest := by
            simp only [wordsFrom, hc, if_true]
            rw [if_neg (by simpa using hNonempty)]
          rw [hWords]
          exact respaced_word (fun d hd => hSolid d (List.mem_reverse.mp hd))
            hc hOutside
      · have hSolid : isBlank c = false := Bool.eq_false_iff.mpr hc
        have hWords : ∀ current, wordsFrom current (c :: rest) =
              wordsFrom (c :: current) rest := by
          intro current
          simp only [wordsFrom, hSolid, Bool.false_eq_true, if_false]
        refine ⟨?_, fun current hNonempty hCurrent => ?_⟩
        · rw [hWords]
          exact ⟨[], [], _, _, rfl, rfl, nofun, nofun,
            hInside [c] (List.cons_ne_nil c [])
              (List.forall_mem_cons.mpr ⟨hSolid, nofun⟩)⟩
        · rw [hWords]
          have hMore := hInside (c :: current) (List.cons_ne_nil c current)
            (List.forall_mem_cons.mpr ⟨hSolid, hCurrent⟩)
          rw [List.reverse_cons, List.append_assoc] at hMore
          exact hMore

/-- **One line of words is a respacing of the text without its control
characters.** -/
theorem similar_normalize (cs : List Char) :
    Similar (visible cs) (normalize cs) :=
  (respaced_wordsFrom cs).1

/-! ## What is left of active content -/

/-- A request is accepted exactly if what it comes down to is neither empty nor
too long. -/
theorem clean_eq_ok_iff {request : String} {limit : Nat} {q : Query} :
    clean request limit = .ok q ↔
      normalize (strip request.toList) ≠ [] ∧
      (normalize (strip request.toList)).length ≤ limit ∧
        q.text = String.ofList (normalize (strip request.toList)) := by
  unfold clean
  dsimp only
  split
  · next hEmpty =>
      exact ⟨nofun, fun h => absurd (List.isEmpty_iff.mp hEmpty) h.1⟩
  · next hNonempty =>
      split
      · next hLong =>
          exact ⟨nofun, fun h => absurd h.2.1 (Nat.not_le.mpr hLong)⟩
      · next hShort =>
          refine ⟨fun h => ?_, fun h => ?_⟩
          · obtain rfl := Except.ok.inj h
            exact ⟨fun hNil => hNonempty (List.isEmpty_iff.mpr hNil),
              Nat.not_lt.mp hShort, rfl⟩
          · exact congrArg Except.ok (congrArg Query.mk h.2.2.symm)

/-- Taking out active content leaves a text alone exactly if there is none. -/
theorem strip_eq_self_iff (cs : List Char) : strip cs = cs ↔
    ∀ p ∈ activeContent, ¬ Occurs p cs :=
  foldl_replaceAll_eq_self_iff solid_activeContent rfl cs

/-- Taking out active content brings in no control characters. -/
theorem visible_strip {cs : List Char}
    (h : ∀ c ∈ cs, isControl c = true → isBlank c = true) :
    visible (strip cs) = strip cs := by
  refine List.filter_eq_self.mpr fun c hc => ?_
  rcases mem_foldl_replaceAll solid_activeContent hc with hNew | hOld
  · obtain rfl := List.mem_singleton.mp hNew
    rfl
  · cases hControl : isControl c with
    | false => rw [Bool.not_false, Bool.or_true]
    | true => rw [h c hOld hControl, Bool.true_or]

/-- **What a query holds of active content is what is left of it by taking it
out once, in the text without its control characters.** So the query is free of
it exactly if taking it out again finds nothing, in the query or, if the
request has no control characters that are not blank, in what was left of
it. -/
theorem clean_residue {request : String} {limit : Nat} {q : Query}
    (h : clean request limit = .ok q) :
    (∀ p ∈ activeContent, Occurs p q.text.toList ↔
      Occurs p (visible (strip request.toList))) ∧
      ((∀ p ∈ activeContent, ¬ Occurs p q.text.toList) ↔
        strip q.text.toList = q.text.toList) ∧
      ((∀ c ∈ request.toList, isControl c = true → isBlank c = true) →
        ((∀ p ∈ activeContent, ¬ Occurs p q.text.toList) ↔
          strip (strip request.toList) = strip request.toList)) := by
  obtain ⟨-, -, hText⟩ := clean_eq_ok_iff.mp h
  have hOccurs : ∀ p ∈ activeContent,
      (Occurs p q.text.toList ↔ Occurs p (visible (strip request.toList))) := by
    intro p hp
    rw [hText, String.toList_ofList]
    exact (occurs_iff_of_similar (solid_activeContent p hp)
        (carries_activeContent p hp)
      (similar_normalize (strip request.toList))).symm
  refine ⟨hOccurs, (strip_eq_self_iff _).symm, fun hControl => ?_⟩
  rw [strip_eq_self_iff (strip request.toList)]
  rw [visible_strip hControl] at hOccurs
  exact forall₂_congr fun p hp => not_congr (hOccurs p hp)

/-- The scheme of a script address is taken out of a plain request. -/
theorem clean_residue_plain :
    clean "open javascript:alert(1)" 200 = .ok ⟨"open alert(1)"⟩ ∧
      ∀ p ∈ activeContent, ¬ Occurs p "open alert(1)".toList := by
  have hClean : clean "open javascript:alert(1)" 200 = .ok ⟨"open alert(1)"⟩ :=
    clean_eq_ok_iff.mpr ⟨by decide +kernel, by decide +kernel,
      by decide +kernel⟩
  exact ⟨hClean, (clean_residue hClean).2.1.mpr (by decide +kernel)⟩

theorem occurs_of_properMatchAt {p : Pattern} {pre cs : List Char}
    (h : (properMatchAt p pre.getLast? cs).isSome) : Occurs p (pre ++ cs) := by
  obtain ⟨m, hFound⟩ := Option.isSome_iff_exists.mp h
  obtain ⟨ds, tl, rfl, hMatch, -⟩ :=
    exists_of_matchAt (Option.filter_eq_some_iff.mp hFound).1
  exact ⟨pre, ds, tl, (List.append_assoc ..).symm, hMatch⟩

/-- A query can hold the scheme of a script address: because a control
character hid it, or because a tag stood in the middle of it. -/
theorem clean_leaves_scheme :
    scriptScheme ∈ activeContent ∧
      clean "open java\x01script:alert(1)" 200 =
        .ok ⟨"open javascript:alert(1)"⟩ ∧
      Occurs scriptScheme "open javascript:alert(1)".toList ∧
      strip "open javascript:alert(1)".toList ≠
        "open javascript:alert(1)".toList ∧
      clean "open javascript<a>:alert(1)" 200 =
        .ok ⟨"open javascript :alert(1)"⟩ ∧
      Occurs scriptScheme "open javascript :alert(1)".toList := by
  refine ⟨List.mem_cons_of_mem _ List.mem_cons_self,
    clean_eq_ok_iff.mpr ⟨by decide +kernel, by decide +kernel,
      by decide +kernel⟩, ?_, by decide +kernel,
    clean_eq_ok_iff.mpr ⟨by decide +kernel, by decide +kernel,
      by decide +kernel⟩, ?_⟩
  · have hText : "open javascript:alert(1)".toList =
          "open ".toList ++ "javascript:alert(1)".toList := by
      decide +kernel
    rw [hText]
    exact occurs_of_properMatchAt (by decide +kernel)
  · have hText : "open javascript :alert(1)".toList =
          "open ".toList ++ "javascript :alert(1)".toList := by
      decide +kernel
    rw [hText]
    exact occurs_of_properMatchAt (by decide +kernel)

end Query

end Errand
