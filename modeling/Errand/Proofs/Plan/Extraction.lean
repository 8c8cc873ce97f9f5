import Errand.Proofs.Json.Grammar
import Errand.Proofs.Plan.Travel

/-!
# The object in a model's text

A model is asked for an object and may write more than that: a fence around it,
words in front of it or behind it. `Planner.extractObject?` looks for the
object between the first opening brace of the text and the last closing one.
This file says when it is found there, for every text that spells an object and
everything that may stand around it, as long as no opening brace stands in
front of it.

Trimming and taking fences off leave the object alone: no fence has a brace in
it, and no brace is blank, so what is taken off in front ends before the
object, and what is taken off behind begins behind it. The whole text that is
left is no other object, since a text that begins with anything but a brace
spells none. So what is between the outermost braces decides, and that is the
object itself if no closing brace comes behind it, and no JSON text otherwise.

## Main results

* `unfenced_around`: what trimming and taking fences off leave around an object.
* `objectOf?_of_head`: a text spells no object unless it begins with a brace.
* `extractObject?_around`: the object is found if no closing brace comes behind
  it, and nothing is found otherwise.
-/

namespace Errand

/-! ## Taking text off around a character -/

namespace Chars

theorem dropLead?_append_cons {lead : List Char} {c : Char} (hc : c ∉ lead)
    (front rest : List Char) :
    dropLead? lead (front ++ c :: rest) =
      (dropLead? lead front).map (· ++ c :: rest) := by
  induction lead generalizing front with
  | nil => rfl
  | cons a lead ih =>
      have hHead : c ≠ a := List.ne_of_not_mem_cons hc
      have hLead : c ∉ lead := List.not_mem_of_not_mem_cons hc
      cases front with
      | nil => simp [dropLead?, hHead.symm]
      | cons b front =>
          by_cases hSame : a = b
          · simp only [List.cons_append, dropLead?, hSame, if_true]
            exact ih hLead front
          · simp [dropLead?, hSame]

theorem dropLeads_of_some {lead cs rest : List Char} (hLead : lead ≠ [])
    (h : dropLead? lead cs = some rest) :
    dropLeads lead cs = dropLeads lead rest := by
  rw [dropLeads, if_pos (List.length_pos_iff.mpr hLead)]
  split
  · next hSome => rw [Option.some.inj (h.symm.trans hSome)]
  · next hNone => cases h.symm.trans hNone

/-- No lead reaches over a character that is not in it. -/
theorem dropLeads_append_cons {lead : List Char} {c : Char} (hc : c ∉ lead)
    (hLead : lead ≠ []) (front rest : List Char) :
    dropLeads lead (front ++ c :: rest) = dropLeads lead front ++ c ::
      rest := by
  induction hLength : front.length using Nat.strongRecOn generalizing front with
  | _ n ih =>
      cases hFront : dropLead? lead front with
      | none =>
          have hWhole : dropLead? lead (front ++ c :: rest) = none := by
            rw [dropLead?_append_cons hc, hFront]
            rfl
          rw [dropLeads_of_none hWhole, dropLeads_of_none hFront]
      | some front' =>
          have hWhole : dropLead? lead (front ++ c :: rest) =
                some (front' ++ c :: rest) := by
            rw [dropLead?_append_cons hc, hFront]
            rfl
          have hShorter : front'.length < front.length := by
            rw [eq_append_of_dropLead? hFront, List.length_append]
            have := List.length_pos_iff.mpr hLead
            omega
          rw [dropLeads_of_some hLead hWhole, dropLeads_of_some hLead hFront]
          exact ih front'.length (hLength ▸ hShorter) front' rfl

theorem isSuffix_dropLeads (lead cs : List Char) :
    dropLeads lead cs <:+ cs := by
  fun_induction dropLeads lead cs with
  | case1 cs _ rest hRest ih =>
      exact ih.trans ⟨lead, (eq_append_of_dropLead? hRest).symm⟩
  | case2 | case3 => exact List.suffix_rfl

theorem dropTails_append_cons {tail : List Char} {c : Char} (hc : c ∉ tail)
    (hTail : tail ≠ []) (front rest : List Char) :
    dropTails tail (front ++ c :: rest) =
      front ++ c :: dropTails tail rest := by
  unfold dropTails
  rw [List.reverse_append, List.reverse_cons, List.append_assoc,
    List.singleton_append, dropLeads_append_cons (mt List.mem_reverse.mp hc)
    (mt List.reverse_eq_nil_iff.mp hTail)]
  simp

theorem trimStart_append_cons {c : Char} (hc : isBlank c = false)
    (front rest : List Char) :
    trimStart (front ++ c :: rest) = trimStart front ++ c :: rest := by
  unfold trimStart
  rw [List.dropWhile_append]
  cases hFront : front.dropWhile isBlank with
  | nil => exact trimStart_cons hc rest
  | cons d ds => rfl

/-- A function that leaves a character and what is in front of it alone keeps
the character. -/
theorem mem_of_append_cons {f : List Char → List Char} {c : Char}
    {cs : List Char}
    (h : ∀ front rest, f (front ++ c :: rest) = front ++ c :: f rest)
    (hc : c ∈ cs) : c ∈ f cs := by
  obtain ⟨front, rest, rfl⟩ := List.append_of_mem hc
  rw [h]
  exact List.mem_append_right front List.mem_cons_self

theorem isPrefix_dropTails (tail cs : List Char) :
    dropTails tail cs <+: cs := by
  have hPrefix :=
    List.reverse_prefix.mpr (isSuffix_dropLeads tail.reverse cs.reverse)
  rwa [List.reverse_reverse] at hPrefix

theorem dropWhile_ne_append {c : Char} {front : List Char} (h : c ∉ front)
    (rest : List Char) :
    (front ++ c :: rest).dropWhile (· != c) = c :: rest := by
  have hFront : ∀ d ∈ front, (d != c) = true := by
    rintro d hd
    exact bne_iff_ne.mpr fun hSame => h (hSame ▸ hd)
  rw [List.dropWhile_append_of_pos hFront, List.dropWhile_cons_of_neg (by simp)]

end Chars

/-! ## Texts that spell no object -/

namespace Json

/-- What is open is an array on the outside. -/
def WithinArray (opened : List Unfinished) : Prop :=
  ∃ done, opened.getLast? = some (.items done)

theorem withinArray_cons {u : Unfinished} {outer : List Unfinished}
    (hOuter : outer ≠ []) : WithinArray (u :: outer) ↔ WithinArray outer := by
  obtain ⟨w, outer, rfl⟩ := List.exists_cons_of_ne_nil hOuter
  unfold WithinArray
  rw [List.getLast?_cons_cons]

/-- What is opened within an array is within it. -/
theorem WithinArray.enter {outer : List Unfinished} (h : WithinArray outer)
    (u : Unfinished) : WithinArray (u :: outer) := by
  refine (withinArray_cons ?_).mpr h
  rintro rfl
  exact nomatch h

/-- An object on the inside is in the array on the outside or not, whatever has
been read of it. -/
theorem withinArray_fields {done : Fields} {key : String}
    {outer : List Unfinished} :
    WithinArray (.fields done key :: outer) ↔ WithinArray outer := by
  refine ⟨fun h => ?_, fun h => h.enter _⟩
  by_cases hOuter : outer = []
  · subst hOuter
    exact nomatch h
  · exact (withinArray_cons hOuter).mp h

/-- One more item leaves an array an array. -/
theorem WithinArray.items {done done' : List Json} {outer : List Unfinished}
    (h : WithinArray (.items done :: outer)) :
    WithinArray (.items done' :: outer) := by
  by_cases hOuter : outer = []
  · subst hOuter
    exact ⟨_, rfl⟩
  · exact (withinArray_cons hOuter).mpr ((withinArray_cons hOuter).mp h)

/-- A value inside of an array does not end the reading. -/
theorem exists_take_of_resume {room : Nat} {v : Json} {opened : List Unfinished}
    {es : List Event} {result : Json × List Event}
    (hWithin : WithinArray opened) (h : resume room v opened es = .ok result) :
    ∃ opened', WithinArray opened' ∧ take room opened' es = .ok result := by
  cases opened with
  | nil => exact nomatch hWithin
  | cons u outer =>
      cases u with
      | items done => exact ⟨.items (v :: done) :: outer, hWithin.items, h⟩
      | fields done key =>
          exact ⟨.fields (Fields.insert key v done) key :: outer,
            withinArray_fields.mpr (withinArray_fields.mp hWithin), h⟩

/-- **What is read is an array if an array is open on the outside.** -/
theorem exists_arr_of_take {room : Nat} {opened : List Unfinished}
    {es : List Event} {result : Json × List Event}
    (hWithin : WithinArray opened) (h : take room opened es = .ok result) :
    ∃ items, result.1 = .arr items := by
  induction es generalizing opened with
  | nil => cases h
  | cons e es ih =>
      have hPut : ∀ {v : Json} {opened : List Unfinished}, WithinArray opened →
          resume room v opened es = .ok result →
          ∃ items, result.1 = .arr items := by
        intro v opened hWithin hResume
        obtain ⟨opened', hWithin', hTake⟩ :=
          exists_take_of_resume hWithin hResume
        exact ih hWithin' hTake
      cases advances_of_take h with
      | value hValue hRest => exact hPut hWithin hRest
      | openArr hRoom hRest => exact ih (hWithin.enter _) hRest
      | openObj hRoom hRest => exact ih (hWithin.enter _) hRest
      | key hRest =>
          exact ih (withinArray_fields.mpr (withinArray_fields.mp hWithin))
            hRest
      | @closeArr done outer hRest =>
          by_cases hOuter : outer = []
          · subst hOuter
            cases hRest
            exact ⟨_, rfl⟩
          · exact hPut ((withinArray_cons hOuter).mp hWithin) hRest
      | closeObj hRest => exact hPut (withinArray_fields.mp hWithin) hRest

/-- Only the brace begins an object. -/
theorem eq_brace_of_scanToken {c : Char} {rest : List Char}
    (h : (scanToken c rest).1 = .openObj) : c = '\x7b' := by
  unfold scanToken at h
  split at h
  case h_3 => rfl
  case h_7 | h_8 | h_9 =>
    dsimp only at h
    split at h <;> cases h
  case h_10 | h_11 => split at h <;> cases h
  case h_12 =>
    split at h
    · cases h
    · split at h <;> cases h
  all_goals cases h

/-- A text whose first token opens no object is read as none. -/
theorem ne_obj_of_take {t : Token} (ht : t ≠ .openObj) {ts : List Token}
    {v : Json} {rest : List Event}
    (h : take maxDepth [] (parse .value [] (t :: ts)) = .ok (v, rest))
    (fields : Fields) : v ≠ .obj fields := by
  cases t with
  | openObj => exact absurd rfl ht
  | openArr =>
      have hWithin : WithinArray [.items []] := ⟨[], rfl⟩
      obtain ⟨items, hItems⟩ := exists_arr_of_take hWithin h
      rintro rfl
      cases hItems
  | null | bool b =>
      cases h
      nofun
  | num x | str x =>
      cases x with
      | none => cases h
      | some x =>
          cases h
          nofun
  | brokenString sound f => cases sound <;> cases h
  | closeArr | closeObj | comma | colon | broken f => cases h

end Json

namespace Planner

open Json

theorem objectOf?_of_read {cs : List Char} {fields : Fields}
    (h : Json.read cs = .ok (.obj fields)) :
    objectOf? cs = some (.obj fields) := by
  unfold objectOf?
  rw [h]
  rfl

theorem objectOf?_of_error {cs : List Char} {f : Fault}
    (h : Json.read cs = .error f) : objectOf? cs = none := by
  unfold objectOf?
  rw [h]
  rfl

/-- **A text spells no object unless it begins with a brace.** -/
theorem objectOf?_of_head {c : Char} (hSpace : isSpace c = false)
    (hBrace : c ≠ '\x7b') (rest : List Char) :
    objectOf? (c :: rest) = none := by
  obtain ⟨t, ts, hTokens, ht⟩ : ∃ t ts, tokens (c :: rest) = t :: ts ∧
      t ≠ .openObj := by
    have hSkip : skipSpace (c :: rest) = c :: rest :=
      List.dropWhile_cons_of_neg (by rw [hSpace]; decide)
    have hFirst : (scanToken c rest).1 ≠ .openObj := fun h =>
      hBrace (eq_brace_of_scanToken h)
    rw [tokens_eq, hSkip]
    rcases hScan : scanToken c rest with ⟨t, _ | r⟩
    · rw [hScan] at hFirst
      exact ⟨t, [], by simp only [hScan], hFirst⟩
    · rw [hScan] at hFirst
      exact ⟨t, tokens r.1, by simp only [hScan], hFirst⟩
  cases hTake : take maxDepth [] (events (c :: rest)) with
  | error f =>
      refine objectOf?_of_error (f := f) ?_
      unfold Json.read
      rw [hTake]
      rfl
  | ok taken =>
      obtain ⟨v, behind⟩ := taken
      rw [events, hTokens] at hTake
      have hNot := ne_obj_of_take ht hTake
      unfold objectOf? Json.read
      rw [events, hTokens, hTake]
      have hFields : v.fields? = none := by
        cases v with
        | obj fields => exact absurd rfl (hNot fields)
        | _ => rfl
      show ((finish Json (v, behind)).toOption.filter _) = none
      unfold finish
      split
      · next hPair =>
        obtain ⟨rfl, -⟩ := Prod.mk.inj hPair
        simp [Except.toOption, Option.filter, hFields]
      · rfl
      · rfl

theorem isSpace_of_isBlank {c : Char} (h : Chars.isBlank c = false) :
    isSpace c = false := by
  refine Bool.eq_false_iff.mpr fun hSpace => ?_
  simp only [isSpace, Bool.or_eq_true, decide_eq_true_eq] at hSpace
  rcases hSpace with ((rfl | rfl) | rfl) | rfl <;> exact absurd h (by decide)

/-! ## What is left around an object -/

/-- **What trimming and taking fences off leave around a text between braces**:
something of what was in front and something of what was behind, with a closing
brace in it if there was one, and no blanks on the outside. -/
theorem unfenced_around (front middle behind : List Char) : ∃ front' behind',
    unfenced (front ++ '\x7b' :: (middle ++ '\x7d' :: behind)) =
        front' ++ '\x7b' :: (middle ++ '\x7d' :: behind') ∧
      front' ⊆ front ∧ (∀ c ∈ front'.head?, Chars.isBlank c = false) ∧
      ('\x7d' ∈ behind' ↔ '\x7d' ∈ behind) ∧
      (∀ c ∈ behind'.getLast?, Chars.isBlank c = false) := by
  let fence := "```".toList
  let leads (cs : List Char) : List Char :=
    Chars.dropLeads fence (Chars.dropLeads (fence ++ "JSON".toList)
      (Chars.dropLeads (fence ++ "json".toList) cs))
  have hLeads : ∀ f rest, leads (f ++ '\x7b' :: rest) =
        leads f ++ '\x7b' :: rest := fun f rest => by
    have hFence : '\x7b' ∉ fence ∧ fence ≠ [] := by decide
    have hUpper : '\x7b' ∉ fence ++ "JSON".toList ∧
        fence ++ "JSON".toList ≠ [] := by decide
    have hLower : '\x7b' ∉ fence ++ "json".toList ∧
        fence ++ "json".toList ≠ [] := by decide
    simp only [leads]
    rw [Chars.dropLeads_append_cons hLower.1 hLower.2,
      Chars.dropLeads_append_cons hUpper.1 hUpper.2,
      Chars.dropLeads_append_cons hFence.1 hFence.2]
  have hTails : ∀ f rest, Chars.dropTails fence (f ++ '\x7d' :: rest) =
      f ++ '\x7d' :: Chars.dropTails fence rest :=
    Chars.dropTails_append_cons (by decide) (by decide)
  have hTrim : ∀ f rest, Chars.trimEnd (f ++ '\x7d' :: rest) =
        f ++ '\x7d' :: Chars.trimEnd rest :=
    Chars.trimEnd_append_cons (by decide)
  have hSuffix : ∀ cs, leads cs <:+ cs := fun cs =>
    (Chars.isSuffix_dropLeads _ _).trans
      ((Chars.isSuffix_dropLeads _ _).trans (Chars.isSuffix_dropLeads _ _))
  refine ⟨Chars.trimStart (leads (Chars.trimStart front)),
    Chars.trimEnd (Chars.dropTails fence (Chars.trimEnd behind)), ?_, ?_, ?_,
    ⟨fun h => ?_, fun h => ?_⟩, ?_⟩
  · have hBrace : Chars.isBlank '\x7b' = false := by decide
    show Chars.trim (Chars.dropTails fence (leads (Chars.trim _))) = _
    simp only [Chars.trim, Chars.trimStart_append_cons hBrace]
    rw [List.append_cons, ← List.append_assoc, hTrim, List.append_assoc,
      ← List.append_cons, hLeads, List.append_cons, ← List.append_assoc, hTails,
      List.append_assoc, ← List.append_cons, Chars.trimStart_append_cons hBrace,
      List.append_cons, ← List.append_assoc, hTrim, List.append_assoc,
      ← List.append_cons]
  · exact fun c hc => (List.dropWhile_suffix _).subset
      ((hSuffix _).subset ((List.dropWhile_suffix _).subset hc))
  · intro c hc
    obtain ⟨rest, hRest⟩ := List.head?_eq_some_iff.mp hc
    exact Chars.isBlank_of_trimStart hRest
  · exact (Chars.isPrefix_trimEnd _).subset
      ((Chars.isPrefix_dropTails _ _).subset
        ((Chars.isPrefix_trimEnd _).subset h))
  · exact Chars.mem_of_append_cons hTrim
      (Chars.mem_of_append_cons hTails (Chars.mem_of_append_cons hTrim h))
  · intro c hc
    obtain ⟨f, hFront⟩ := List.getLast?_eq_some_iff.mp hc
    exact Chars.isBlank_of_trimEnd hFront

/-- What is between the outermost braces of a text. -/
theorem braced?_around {front : List Char} (hFront : '\x7b' ∉ front)
    (middle : List Char) {behind : List Char} (hBehind : '\x7d' ∉ behind) :
    braced? (front ++ '\x7b' :: (middle ++ '\x7d' :: behind)) =
      some ('\x7b' :: (middle ++ ['\x7d'])) := by
  have hClosing : ('\x7b' :: (middle ++ '\x7d' :: behind)).reverse =
      behind.reverse ++ '\x7d' :: ('\x7b' :: middle).reverse := by simp
  unfold braced?
  simp only [Chars.dropWhile_ne_append hFront, hClosing,
    Chars.dropWhile_ne_append (mt List.mem_reverse.mp hBehind)]
  simp

/-! ## Where the object is found -/

section

variable {n : Nat} {fields : Fields} {object : List Char}

/-- The text of an object stands between braces. -/
theorem exists_of_spells (h : Spells n (.value (.obj fields)) object) :
    ∃ middle, object = '\x7b' :: (middle ++ ['\x7d']) := by
  cases h with
  | emptyObject hGap => exact ⟨_, rfl⟩
  | object hMembers => exact ⟨_, rfl⟩

variable (h : Spells n (.value (.obj fields)) object) (hDepth : n ≤ maxDepth)

include h hDepth

/-- With something behind it, the text of an object is the text of none. -/
theorem objectOf?_append {behind : List Char}
    (hBehind : ∃ c ∈ behind, isSpace c = false) :
    objectOf? (object ++ behind) = none := by
  obtain ⟨c, hMem, hc⟩ := hBehind
  have hSkip : skipSpace behind ≠ [] := fun hNil => by
    have hAll : behind.all isSpace = true := by
      rw [← Chars.all_dropWhile, show behind.dropWhile isSpace = [] from hNil]
      rfl
    rw [List.all_eq_true.mp hAll c hMem] at hc
    cases hc
  exact objectOf?_of_error (read_append_of_spells h hDepth nofun hSkip)

/-- What is left of a text around an object is the text of the object, or of
none. -/
theorem objectOf?_around {front behind : List Char} (hFront : '\x7b' ∉ front)
    (hHead : ∀ c ∈ front.head?, Chars.isBlank c = false)
    (hLast : ∀ c ∈ behind.getLast?, Chars.isBlank c = false) :
    objectOf? (front ++ (object ++ behind)) =
      if front = [] ∧ behind = [] then some (.obj fields) else none := by
  cases front with
  | cons c rest =>
      have hBrace : c ≠ '\x7b' := fun hSame =>
        hFront (hSame ▸ List.mem_cons_self)
      rw [if_neg (by simp)]
      exact objectOf?_of_head (isSpace_of_isBlank (hHead c rfl)) hBrace _
  | nil =>
      rcases List.eq_nil_or_concat behind with rfl | ⟨init, last, rfl⟩
      · rw [if_pos ⟨rfl, rfl⟩, List.nil_append, List.append_nil]
        exact objectOf?_of_read (read_of_spells h hDepth)
      · have hSolid : isSpace last = false :=
          isSpace_of_isBlank (hLast last (by simp))
        rw [if_neg (by simp)]
        exact objectOf?_append h hDepth ⟨last, by simp, hSolid⟩

/-- What is found in a text is the object, if nothing is left around it, or
else what is between the outermost braces. -/
theorem exists_extractObject?_eq {front : List Char} (hFront : '\x7b' ∉ front)
    (behind : List Char) :
    ∃ front' behind', '\x7b' ∉ front' ∧ ('\x7d' ∈ behind' ↔ '\x7d' ∈ behind) ∧
      extractObject? (String.ofList (front ++ (object ++ behind))) =
        (if front' = [] ∧ behind' = [] then some (.obj fields) else none).or
          ((braced? (front' ++ (object ++ behind'))).bind objectOf?) := by
  obtain ⟨middle, hObject⟩ := exists_of_spells h
  obtain ⟨front', behind', hInner, hSub, hHead, hMem, hLast⟩ :=
    unfenced_around front middle behind
  have hFront' : '\x7b' ∉ front' := fun hBrace => hFront (hSub hBrace)
  have hAround : ∀ f b : List Char, f ++ '\x7b' :: (middle ++ '\x7d' :: b) =
        f ++ (object ++ b) := by
    intro f b
    simp [hObject]
  rw [hAround, hAround] at hInner
  refine ⟨front', behind', hFront', hMem, ?_⟩
  rw [← objectOf?_around h hDepth hFront' hHead hLast]
  simp only [extractObject?, String.toList_ofList, hInner]

/-- **The object is found if no closing brace comes behind it**, whatever else
does. -/
theorem extractObject?_of_not_mem {front behind : List Char}
    (hFront : '\x7b' ∉ front) (hBehind : '\x7d' ∉ behind) :
    extractObject? (String.ofList (front ++ (object ++ behind))) =
      some (.obj fields) := by
  obtain ⟨front', behind', hFront', hMem, hExtract⟩ :=
    exists_extractObject?_eq h hDepth hFront behind
  obtain ⟨middle, hObject⟩ := exists_of_spells h
  have hBraced : braced? (front' ++ (object ++ behind')) = some object := by
    rw [hObject, List.cons_append, List.append_assoc, List.singleton_append]
    exact braced?_around hFront' middle (mt hMem.mp hBehind)
  have hObjectOf : objectOf? object = some (.obj fields) :=
    objectOf?_of_read (read_of_spells h hDepth)
  rw [hExtract, hBraced, Option.bind_some, hObjectOf]
  split <;> rfl

/-- **Nothing is found if a closing brace comes behind the object.** What is
between the outermost braces is then the object with something behind it. -/
theorem extractObject?_of_mem {front behind : List Char}
    (hFront : '\x7b' ∉ front) (hBehind : '\x7d' ∈ behind) :
    extractObject? (String.ofList (front ++ (object ++ behind))) = none := by
  obtain ⟨front', behind', hFront', hMem, hExtract⟩ :=
    exists_extractObject?_eq h hDepth hFront behind
  obtain ⟨middle, hObject⟩ := exists_of_spells h
  have hBehind' : '\x7d' ∈ behind' := hMem.mpr hBehind
  -- the last closing brace of what is left behind the object
  obtain ⟨after, before, hReverse, hAfter⟩ :=
    List.eq_append_cons_of_mem (List.mem_reverse.mpr hBehind')
  have hSplit : behind' = before.reverse ++ '\x7d' :: after.reverse := by
    rw [← List.reverse_reverse behind', hReverse]
    simp
  have hBraced : braced? (front' ++ (object ++ behind')) =
      some (object ++ (before.reverse ++ ['\x7d'])) := by
    have hInner := braced?_around hFront' (middle ++ '\x7d' :: before.reverse)
      (mt List.mem_reverse.mp hAfter)
    simpa [hObject, hSplit] using hInner
  have hNonempty : ¬ (front' = [] ∧ behind' = []) := fun hNil => by
    rw [hNil.2] at hBehind'
    cases hBehind'
  rw [hExtract, hBraced, Option.bind_some, if_neg hNonempty, Option.none_or]
  exact objectOf?_append h hDepth ⟨'\x7d', by simp, rfl⟩

/-- **An object in a model's text is found exactly if no closing brace comes
behind it**, for every text that spells it, in front of it everything without
an opening brace and behind it everything at all. -/
theorem extractObject?_around {front : List Char} (hFront : '\x7b' ∉ front)
    (behind : List Char) :
    extractObject? (String.ofList (front ++ (object ++ behind))) =
      if '\x7d' ∈ behind then none else some (.obj fields) := by
  by_cases hBehind : '\x7d' ∈ behind
  · rw [if_pos hBehind]
    exact extractObject?_of_mem h hDepth hFront hBehind
  · rw [if_neg hBehind]
    exact extractObject?_of_not_mem h hDepth hFront hBehind

end

/-- Behind prose with a closing brace and inside of a fence, a key that comes
twice, spaces, and a string with braces, an escape and a fence in it. -/
theorem extractObject?_around_fenced :
    extractObject?
      "Sure \x7d ```json\n\x7b\"a\": 1, \"a\": \x7b\"b\": \"\x7d\\u007d```\"\x7d\x7d\n```" =
      some (.obj [("a", .obj [("b", .str "\x7d\x7d```")])]) := by
  have hNone : Spaces [] := nofun
  have hSpace : Spaces [' '] := by simp [Spaces, isSpace]
  have hKey : StringText ['a'] ['a'] := stringText_of_plain (by decide)
  have hFence : StringText "```".toList "```".toList :=
    stringText_of_plain (by decide)
  have hEscape : CharText '\x7d' ['\\', 'u', '0', '0', '7', 'd'] :=
    @CharText.unit 0x7D _ (@UnitText.intro _ _ _ _ 0 0 7 13 rfl rfl rfl rfl) rfl
      rfl
  have hBraces : StringText "\x7d\x7d```".toList "\x7d\\u007d```".toList :=
    .cons (.plain (by decide) (by decide) (by decide)) (.cons hEscape hFence)
  have hInner : Spells 1 (.value (.obj [("b", .str "\x7d\x7d```")])) _ :=
    .object (.lastMember hNone (stringText_of_plain (by decide)) hNone hSpace
        (.string hBraces) hNone)
  have hObject :
      Spells 2 (.value (.obj [("a", .obj [("b", .str "\x7d\x7d```")])])) _ :=
    .object (.member hNone hKey hNone hSpace (.number numberText_one) hNone
      (.lastMember hSpace hKey hNone hSpace hInner hNone))
  have hFront : '\x7b' ∉ "Sure \x7d ```json\n".toList := by decide
  exact extractObject?_around hObject (by decide) hFront "\n```".toList

/-- **A closing brace behind the object hides it**, as in a smile at the end of
a remark. -/
theorem extractObject?_misses_object :
    ¬ ∀ (fields : Fields) (n : Nat) (object front behind : List Char), n ≤ 100 →
      Spells n (.value (.obj fields)) object → '\x7b' ∉ front →
      extractObject? (String.ofList (front ++ (object ++ behind))) =
        some (.obj fields) := by
  intro hFound
  have hNone : Spaces [] := nofun
  have hSpace : Spaces [' '] := by simp [Spaces, isSpace]
  have hKey : StringText ['a'] ['a'] := stringText_of_plain (by decide)
  have hObject : Spells 1 (.value (.obj [("a", .num (.int 1))]))
        "\x7b\"a\": 1\x7d".toList :=
    .object (.lastMember hNone hKey hNone hSpace (.number numberText_one) hNone)
  have hFront : '\x7b' ∉ "Here is the plan: ".toList := by decide
  have hBehind : '\x7d' ∈ " and that is all :-\x7d".toList := by decide
  have hMissed := extractObject?_of_mem hObject (by decide) hFront hBehind
  rw [hFound _ 1 _ _ _ (by decide) hObject hFront] at hMissed
  cases hMissed

end Planner

end Errand
