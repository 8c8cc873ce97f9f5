import Errand.Proofs.Plan.Vocabulary
import Errand.Proofs.Text.Blank

/-!
# What instructions ask for

An instruction is read leniently, but what is made of it is fit to run: its
selectors are different from each other and none of them is blank, its
parameters have no blanks at their ends, and what it cannot do without is
there. This file says which step an instruction means (`Means`), by one rule
for each kind of step, in terms of what stands under the keys of the
instruction. That the rules are met by what is read is shown tag by tag; the
promises are then read off the rules.

## Main results

* `Instruction.firstText?_eq_some_iff`: the first key with something usable
  under it is the one that counts.
* `Instruction.selectors_eq`: the selectors are those that are named, each
  where it comes first.
* `Step.means_ofInstruction`: what is read is what the instruction means.
* `Step.ofInstruction_fit`: it is fit to run.
-/

namespace Errand

namespace Text

/-- Nothing is left of a text by trimming exactly if it is blank. -/
theorem isEmpty_trim (s : String) : (trim s).isEmpty = isBlank s := by
  rw [Bool.eq_iff_iff, String.isEmpty_iff]
  constructor
  · intro hEmpty
    rw [← isBlank_trim, hEmpty]
    rfl
  · intro hBlank
    have hStart : Chars.trimStart s.toList = [] := by
      cases hRest : Chars.trimStart s.toList with
      | nil => rfl
      | cons c rest =>
          have hAll : Chars.allBlank (c :: rest) = true := by
            rw [← hRest, Chars.allBlank_trimStart]
            exact hBlank
          rw [Chars.allBlank, List.all_cons,
            Chars.isBlank_of_trimStart hRest] at hAll
          cases hAll
    rw [trim, Chars.trim, hStart]
    rfl

end Text

namespace Instruction

variable {i : Instruction} {key s t : String} {keys : List String}

/-! ## Texts -/

/-- Something stands in the text, and no blank at either end of it. -/
structure Solid (s : String) : Prop where
  trimmed : Text.trim s = s
  notBlank : Text.isBlank s = false

theorem solid_trim (h : Text.isBlank s = false) : Solid (Text.trim s) where
  trimmed := Text.trim_trim s
  notBlank := by rw [Text.isBlank_trim, h]

theorem usable?_eq_some_iff : usable? s = some t ↔ Text.isBlank s = false ∧
    Text.trim s = t := by
  unfold usable?
  simp only [Text.isEmpty_trim]
  split
  · next hBlank => simp [hBlank]
  · next hNot => simp [hNot]

theorem usable?_eq_none_iff : usable? s = none ↔ Text.isBlank s = true := by
  unfold usable?
  simp only [Text.isEmpty_trim]
  split
  · next hBlank => simp [hBlank]
  · next hNot => simp [hNot]

/-- A text that is not blank stands under the key, and this is what is left of
it without the blanks at its ends. -/
def Offers (i : Instruction) (key s : String) : Prop :=
  ∃ raw, i.text? key = some raw ∧ Text.isBlank raw = false ∧ Text.trim raw = s

/-- No text stands under the key, or a blank one. -/
def OffersNone (i : Instruction) (key : String) : Prop :=
  ∀ raw, i.text? key = some raw → Text.isBlank raw = true

/-- The text under the first of the keys that offers one. -/
def FirstOffer (i : Instruction) (keys : List String) (s : String) : Prop :=
  ∃ before key behind, keys = before ++ key :: behind ∧
    (∀ k ∈ before, i.OffersNone k) ∧ i.Offers key s

theorem Offers.solid (h : i.Offers key s) : Solid s := by
  obtain ⟨raw, -, hBlank, rfl⟩ := h
  exact solid_trim hBlank

theorem FirstOffer.solid (h : i.FirstOffer keys s) : Solid s := by
  obtain ⟨before, key, behind, -, -, hOffer⟩ := h
  exact hOffer.solid

theorem bind_usable?_eq_some_iff : (i.text? key).bind usable? = some s ↔
    i.Offers key s := by
  simp only [Option.bind_eq_some_iff, usable?_eq_some_iff, Offers]

theorem bind_usable?_eq_none_iff : (i.text? key).bind usable? = none ↔
    i.OffersNone key := by
  simp only [Option.bind_eq_none_iff, usable?_eq_none_iff, OffersNone]

theorem FirstOffer.exists_offer (h : i.FirstOffer keys s) :
    ∃ key ∈ keys, ¬ i.OffersNone key := by
  obtain ⟨before, key, behind, rfl, -, raw, hText, hBlank, -⟩ := h
  refine ⟨key, List.mem_append_right before List.mem_cons_self, fun hNone => ?_⟩
  rw [hNone raw hText] at hBlank
  cases hBlank

/-- **The first key with something usable under it is the one that counts.** -/
theorem firstText?_eq_some_iff : i.firstText? keys = some s ↔
    i.FirstOffer keys s := by
  unfold firstText? FirstOffer
  simp only [List.findSome?_eq_some_iff, bind_usable?_eq_some_iff,
    bind_usable?_eq_none_iff]
  constructor
  · rintro ⟨before, key, behind, hKeys, hOffer, hNone⟩
    exact ⟨before, key, behind, hKeys, hNone, hOffer⟩
  · rintro ⟨before, key, behind, hKeys, hNone, hOffer⟩
    exact ⟨before, key, behind, hKeys, hOffer, hNone⟩

theorem firstText?_eq_none_iff : i.firstText? keys = none ↔
    ∀ key ∈ keys, i.OffersNone key := by
  unfold firstText?
  simp only [List.findSome?_eq_none_iff, bind_usable?_eq_none_iff]

/-! ## Selectors -/

/-- The strings of the array under a key; none where there is no array. -/
def listed (i : Instruction) (key : String) : List String :=
  (((i.get? key).bind Json.items?).getD []).filterMap Json.text?

/-- The selectors that an instruction names, in order: the text under
`selector`, then those listed under `selectors`. Blank ones do not count, and
blanks at the ends are cut off. -/
def named (i : Instruction) : List String :=
  (((i.text? "selector").toList ++ i.listed "selectors").filter fun s =>
      !Text.isBlank s).map Text.trim

theorem filterMap_usable? (ss : List String) :
    ss.filterMap usable? = (ss.filter fun s => !Text.isBlank s).map
      Text.trim := by
  induction ss with
  | nil => rfl
  | cons s ss ih =>
      cases hBlank : Text.isBlank s with
      | true =>
          rw [List.filterMap_cons_none (usable?_eq_none_iff.mpr hBlank), ih,
            List.filter_cons_of_neg (by simp [hBlank])]
      | false =>
          rw [List.filterMap_cons_some (usable?_eq_some_iff.mpr ⟨hBlank, rfl⟩),
            ih, List.filter_cons_of_pos (by simp [hBlank]), List.map_cons]

/-- Leaving out what was seen before keeps every entry where it comes first. -/
theorem distinctOnto_eq (seen ss : List String) :
    distinctOnto seen ss = (ss.filter fun s => s ∉ seen).eraseDups := by
  induction ss generalizing seen with
  | nil => rfl
  | cons s ss ih =>
      rw [distinctOnto]
      split
      · next hSeen => rw [ih, List.filter_cons_of_neg (by simpa using hSeen)]
      · next hNew =>
        rw [ih, List.filter_cons_of_pos (by simpa using hNew),
          List.eraseDups_cons, List.filter_filter]
        congr 3
        funext t
        simp [Bool.beq_eq_decide_eq, not_or]

theorem nodup_distinctOnto (seen ss : List String) :
    (distinctOnto seen ss).Nodup ∧ ∀ s ∈ distinctOnto seen ss, s ∈ ss ∧
    s ∉ seen := by
  induction ss generalizing seen with
  | nil => exact ⟨List.nodup_nil, nofun⟩
  | cons s ss ih =>
      rw [distinctOnto]
      split
      · obtain ⟨hNodup, hMem⟩ := ih seen
        exact ⟨hNodup, fun t ht =>
          ⟨List.mem_cons_of_mem s (hMem t ht).1, (hMem t ht).2⟩⟩
      · next hNew =>
        obtain ⟨hNodup, hMem⟩ := ih (s :: seen)
        refine ⟨List.nodup_cons.mpr
          ⟨fun hAgain => (hMem s hAgain).2 List.mem_cons_self, hNodup⟩, ?_⟩
        refine List.forall_mem_cons.mpr ⟨⟨List.mem_cons_self, hNew⟩,
          fun t ht => ?_⟩
        exact ⟨List.mem_cons_of_mem s (hMem t ht).1,
          fun hSeen => (hMem t ht).2 (List.mem_cons_of_mem s hSeen)⟩

theorem selectors_eq_distinctOnto (i : Instruction) :
    i.selectors = distinctOnto [] i.named := by
  have hSingle : (i.firstText? ["selector"]).toList =
        (i.text? "selector").toList.filterMap usable? := by
    rw [firstText?, List.findSome?_singleton]
    cases i.text? "selector" with
    | none => rfl
    | some s =>
        rw [Option.bind_some, Option.toList_some, List.filterMap_cons]
        cases usable? s with
        | none => rfl
        | some t => rfl
  have hListed : (((i.get? "selectors").bind Json.items?).getD []).filterMap
        (fun j => j.text?.bind usable?) =
      (i.listed "selectors").filterMap usable? := by
    rw [listed, List.filterMap_filterMap]
  unfold selectors
  rw [named, ← filterMap_usable?, List.filterMap_append, ← hSingle, ← hListed]

/-- **The selectors are those that are named, each where it comes first.** -/
theorem selectors_eq (i : Instruction) : i.selectors = i.named.eraseDups := by
  rw [selectors_eq_distinctOnto, distinctOnto_eq,
    List.filter_eq_self.mpr fun s _ => by simp]

/-- There are selectors unless none is named. -/
theorem selectors_isEmpty (i : Instruction) :
    i.selectors.isEmpty = i.named.isEmpty := by
  rw [selectors_eq]
  cases i.named with
  | nil => rfl
  | cons s ss => rw [List.eraseDups_cons, List.isEmpty_cons, List.isEmpty_cons]

theorem nodup_selectors (i : Instruction) : i.selectors.Nodup := by
  rw [selectors_eq_distinctOnto]
  exact (nodup_distinctOnto [] i.named).1

/-- Every selector is solid. -/
theorem solid_of_mem_named (h : s ∈ i.named) : Solid s := by
  obtain ⟨raw, hRaw, rfl⟩ := List.mem_map.mp h
  exact solid_trim (by simpa using (List.mem_filter.mp hRaw).2)

/-! ## Counts -/

/-- The value stands for a count: a number, or a string that spells one. -/
def IsCount : Json → Prop
  | .num _ => True
  | .str s => ∃ n, Decimal.unsigned? maxCount (Chars.trim s.toList) = some n
  | _ => False

theorem isSome_countOf?_iff (j : Json) : (countOf? j).isSome = true ↔
    IsCount j := by
  cases j with
  | num n => cases n <;> exact iff_of_true rfl trivial
  | str s => exact Option.isSome_iff_exists
  | null | bool | arr | obj => exact iff_of_false Bool.false_ne_true id

theorem firstCount?_eq_none_iff :
    i.firstCount? keys = none ↔ ∀ key ∈ keys, ∀ j, i.get? key = some j →
    ¬ IsCount j := by
  unfold firstCount?
  simp only [List.findSome?_eq_none_iff, Option.bind_eq_none_iff,
    ← isSome_countOf?_iff, Bool.not_eq_true, Option.isSome_eq_false_iff,
    Option.isNone_iff_eq_none]

theorem verbatim?_eq_some_iff : i.verbatim? key = some s ↔
    i.text? key = some s ∧ s ≠ "" := by
  unfold verbatim?
  rw [Option.filter_eq_some_iff]
  simp

theorem verbatim?_eq_none_iff : i.verbatim? key = none ↔
    ∀ s, i.text? key = some s → s = "" := by
  unfold verbatim?
  rw [Option.filter_eq_none_iff]
  simp

end Instruction

namespace Step

open Instruction

/-! ## What tags require -/

/-- What an instruction must have for a step to come of it. -/
inductive Need where
  /-- A text that is not blank, under one of the keys. -/
  | solid (keys : List String)
  /-- A text that is not empty. -/
  | verbatim (key : String)
  | selectors
  /-- Selectors, or a count under one of the keys. -/
  | selectorsOrCount (keys : List String)
  | nothing
deriving DecidableEq, Repr

/-- The words of the vocabulary, each with what it requires. -/
def needs : List (String × Need) :=
  [("navigate", .solid ["url", "link"]), ("click", .selectors),
    ("click_any", .selectors), ("type", .verbatim "text"),
    ("keyboard_type", .verbatim "text"), ("press", .solid ["key"]),
    ("press_global", .solid ["key"]),
    ("wait", .selectorsOrCount ["ms", "timeout"]),
    ("wait_any", .selectorsOrCount ["ms", "timeout"]),
    ("wait_url", .solid ["includes", "url"]), ("sleep", .nothing),
    ("evaluate", .solid ["script", "expression"]), ("screenshot", .nothing),
    ("video_play", .nothing), ("video_force_play", .nothing),
    ("video_click_play", .nothing), ("video_keyboard_play", .nothing),
    ("wait_video_ready", .nothing)]

theorem map_fst_needs : needs.map Prod.fst = vocabulary := rfl

/-- What is required is missing, or there is nothing in it. -/
def Need.UnmetBy : Need → Instruction → Prop
  | .solid keys, i => ∀ key ∈ keys, i.OffersNone key
  | .verbatim key, i => ∀ s, i.text? key = some s → s = ""
  | .selectors, i => i.named = []
  | .selectorsOrCount keys, i =>
  i.named = [] ∧ ∀ key ∈ keys, ∀ j, i.get? key = some j → ¬ IsCount j
  | .nothing, _ => False

/-- The words for videos. -/
def videoTags : List (String × VideoAction) :=
  [("video_play", .play), ("video_force_play", .forcePlay),
    ("video_click_play", .clickPlay), ("video_keyboard_play", .keyboardPlay),
    ("wait_video_ready", .waitReady)]

/-- What an instruction with a tag means. -/
inductive Means (i : Instruction) : (tag : String) → StepKind → Prop where
  | navigate {url : String} : i.FirstOffer ["url", "link"] url →
      Means i "navigate" (.navigate url)
  | click {tag : String} : tag ∈ ["click", "click_any"] → i.named ≠ [] →
      Means i tag (.click i.named.eraseDups)
  | typeInto {text : String} : i.text? "text" = some text → text ≠ "" →
      Means i "type" (.type (i.firstText? ["selector"]) text (i.flag "clear"))
  | type {text : String} : i.text? "text" = some text → text ≠ "" →
      Means i "keyboard_type" (.type none text (i.flag "clear"))
  | pressOn {key : String} : i.FirstOffer ["key"] key →
      Means i "press" (.press (i.firstText? ["selector"]) key)
  | press {key : String} : i.FirstOffer ["key"] key →
      Means i "press_global" (.press none key)
  | wait {tag : String} : tag ∈ ["wait", "wait_any"] → i.named ≠ [] →
      Means i tag (.wait i.named.eraseDups (.ofText? (i.text? "state")))
  | pause {tag : String} {ms : Nat} : tag ∈ ["wait", "wait_any"] →
      i.named = [] →
      i.firstCount? ["ms", "timeout"] = some ms → Means i tag (.sleep ms)
  | waitUrl {part : String} : i.FirstOffer ["includes", "url"] part →
      Means i "wait_url" (.waitUrl part)
  | sleep :
      Means i "sleep"
        (.sleep ((i.firstCount? ["ms", "duration"]).getD defaultSleep))
  | evaluate {script : String} : i.FirstOffer ["script", "expression"] script →
      Means i "evaluate" (.evaluate script)
  | screenshot : Means i "screenshot" .screenshot
  | video {tag : String} {action : VideoAction} : (tag, action) ∈ videoTags →
      Means i tag (.video action)
  /-- The tag is known, and what it requires is missing. -/
  | invalid {tag reason : String} {need : Need} : (tag, need) ∈ needs →
      need.UnmetBy i →
      Means i tag (.invalid tag reason)
  | unknown {tag : String} : tag ∉ vocabulary → Means i tag (.unknown tag)

section

variable {i : Instruction} {tag : String} {kind : StepKind}

/-- A parameter that is required is there, or the step is invalid. -/
theorem means_of_required {α : Type} {found : Option α} {reason : String}
    {make : α → StepKind} (need : Need) (h : (match found with
      | some a => make a
      | none => .invalid tag reason) = kind)
    (hFound : ∀ a, found = some a → Means i tag (make a))
    (hNeed : (tag, need) ∈ needs) (hUnmet : found = none → need.UnmetBy i) :
    Means i tag kind := by
  subst h
  cases hCase : found with
  | some a => exact hFound a hCase
  | none => exact .invalid hNeed (hUnmet hCase)

/-- The candidates of an instruction are what it names; there are none if it
names nothing. -/
theorem named_of_candidates {found : Option (List String)}
    (hFound : found = if i.selectors.isEmpty then none else some i.selectors) :
    (∀ ss, found = some ss → i.named ≠ [] ∧ ss = i.named.eraseDups) ∧
    (found = none → i.named = []) := by
  subst hFound
  rw [selectors_isEmpty, selectors_eq]
  cases i.named with
  | nil => exact ⟨nofun, fun _ => rfl⟩
  | cons s ss =>
      refine ⟨fun found hFound =>
        ⟨List.cons_ne_nil s ss, (Option.some.inj hFound).symm⟩, nofun⟩

/-- **What is read is what the instruction means**, tag by tag. -/
theorem means_kindOf? (h : kindOf? tag i = some kind) : Means i tag kind := by
  have hUnmet : ∀ {keys : List String}, i.firstText? keys = none →
      (Need.solid keys).UnmetBy i :=
    firstText?_eq_none_iff.mp
  have hEmpty : i.verbatim? "text" = none → (Need.verbatim "text").UnmetBy i :=
    verbatim?_eq_none_iff.mp
  obtain ⟨hNamed, hNone⟩ := named_of_candidates (i := i) rfl
  unfold kindOf? at h
  split at h
  case h_1 =>
    exact means_of_required _ (Option.some.inj h)
      (fun _ hUrl => .navigate (firstText?_eq_some_iff.mp hUrl))
      (by decide) hUnmet
  case h_2 | h_3 =>
    refine means_of_required .selectors (Option.some.inj h)
      (fun ss hFound => ?_) (by decide) hNone
    obtain ⟨hSome, rfl⟩ := hNamed ss hFound
    exact .click (by decide) hSome
  case h_4 =>
    refine means_of_required _ (Option.some.inj h) (fun text hText => ?_)
      (by decide) hEmpty
    obtain ⟨hText, hSome⟩ := verbatim?_eq_some_iff.mp hText
    exact .typeInto hText hSome
  case h_5 =>
    refine means_of_required _ (Option.some.inj h) (fun text hText => ?_)
      (by decide) hEmpty
    obtain ⟨hText, hSome⟩ := verbatim?_eq_some_iff.mp hText
    exact .type hText hSome
  case h_6 =>
    exact means_of_required _ (Option.some.inj h)
      (fun _ hKey => .pressOn (firstText?_eq_some_iff.mp hKey))
      (by decide) hUnmet
  case h_7 =>
    exact means_of_required _ (Option.some.inj h)
      (fun _ hKey => .press (firstText?_eq_some_iff.mp hKey))
      (by decide) hUnmet
  case h_8 | h_9 =>
    dsimp only at h
    split at h
    · next ss hFound =>
      obtain ⟨hSome, rfl⟩ := hNamed ss hFound
      obtain rfl := Option.some.inj h
      exact .wait (by decide) hSome
    · next hFound =>
      refine means_of_required (.selectorsOrCount ["ms", "timeout"])
        (Option.some.inj h)
        (fun _ hMs => .pause (by decide) (hNone hFound) hMs) (by decide)
          fun hMissing => ?_
      exact ⟨hNone hFound, firstCount?_eq_none_iff.mp hMissing⟩
  case h_10 =>
    exact means_of_required _ (Option.some.inj h)
      (fun _ hPart => .waitUrl (firstText?_eq_some_iff.mp hPart))
      (by decide) hUnmet
  case h_11 =>
    obtain rfl := Option.some.inj h
    exact .sleep
  case h_12 =>
    exact means_of_required _ (Option.some.inj h)
      (fun _ hScript => .evaluate (firstText?_eq_some_iff.mp hScript))
      (by decide) hUnmet
  case h_13 =>
    obtain rfl := Option.some.inj h
    exact .screenshot
  case h_19 => cases h
  all_goals
    obtain rfl := Option.some.inj h
    exact .video (by decide)

theorem means_ofInstruction (i : Instruction) :
    Means i (normalTag i.tag) (ofInstruction i).kind := by
  cases hKind : kindOf? (normalTag i.tag) i with
  | some kind =>
      have hSame : (ofInstruction i).kind = kind := by
        unfold ofInstruction
        simp only [hKind, Option.getD_some]
      rw [hSame]
      exact means_kindOf? hKind
  | none =>
      have hOutside := kindOf?_eq_none_iff.mp hKind
      rw [kind_ofInstruction_unknown hOutside]
      exact .unknown hOutside

/-! ## Steps that are fit to run -/

/-- No tag has two requirements. -/
theorem need_unique {need need' : Need} (h : (tag, need) ∈ needs)
    (h' : (tag, need') ∈ needs) : need = need' := by
  have hAll : ∀ p ∈ needs, ∀ q ∈ needs, p.1 = q.1 → p.2 = q.2 := by decide
  exact hAll _ h _ h' rfl

/-- Everything that an instruction with a word of the vocabulary can mean,
other than an invalid step, has what the word requires. -/
theorem Means.met {need : Need} (h : Means i tag kind)
    (hNeed : (tag, need) ∈ needs) :
    ¬ need.UnmetBy i ∨ ∃ reason, kind = .invalid tag reason := by
  have hSolid : ∀ {keys : List String} {s : String}, i.FirstOffer keys s →
      ¬ (Need.solid keys).UnmetBy i := by
    intro keys s hOffer hNone
    obtain ⟨key, hKey, hSome⟩ := hOffer.exists_offer
    exact hSome (hNone key hKey)
  have hIs : ∀ {need' : Need}, (tag, need') ∈ needs → ¬ need'.UnmetBy i →
      ¬ need.UnmetBy i := by
    intro need' hNeed' hMet
    rwa [need_unique hNeed hNeed']
  cases h with
  | navigate hUrl =>
      exact .inl (hIs (by decide : (_, Need.solid ["url", "link"]) ∈ needs)
          (hSolid hUrl))
  | click hTag hSome =>
      have hNeeds : ∀ t ∈ ["click", "click_any"],
          (t, Need.selectors) ∈ needs := by decide
      exact .inl (hIs (hNeeds tag hTag) hSome)
  | typeInto hText hSome | type hText hSome =>
      exact .inl (hIs (by decide : (_, Need.verbatim "text") ∈ needs)
          fun hEmpty => hSome (hEmpty _ hText))
  | pressOn hKey | press hKey =>
      exact .inl (hIs (by decide : (_, Need.solid ["key"]) ∈ needs)
          (hSolid hKey))
  | wait hTag hSome =>
      have hNeeds : ∀ t ∈ ["wait", "wait_any"],
          (t, Need.selectorsOrCount ["ms", "timeout"]) ∈ needs := by decide
      exact .inl (hIs (hNeeds tag hTag) fun hUnmet => hSome hUnmet.1)
  | pause hTag _ hMs =>
      have hNeeds : ∀ t ∈ ["wait", "wait_any"],
          (t, Need.selectorsOrCount ["ms", "timeout"]) ∈ needs := by decide
      refine .inl (hIs (hNeeds tag hTag) fun hUnmet => ?_)
      rw [firstCount?_eq_none_iff.mpr hUnmet.2] at hMs
      cases hMs
  | waitUrl hPart =>
      exact .inl (hIs (by decide : (_, Need.solid ["includes", "url"]) ∈ needs)
          (hSolid hPart))
  | evaluate hScript =>
      exact .inl
        (hIs (by decide : (_, Need.solid ["script", "expression"]) ∈ needs)
          (hSolid hScript))
  | sleep | screenshot =>
      exact .inl (hIs (by decide : (_, Need.nothing) ∈ needs) id)
  | video hVideo =>
      have hNeeds : ∀ p ∈ videoTags, (p.1, Need.nothing) ∈ needs := by decide
      exact .inl (hIs (hNeeds _ hVideo) id)
  | invalid _ _ => exact .inr ⟨_, rfl⟩
  | unknown hOutside =>
      refine absurd ?_ hOutside
      rw [← map_fst_needs]
      exact List.mem_map_of_mem hNeed

/-- An instruction that cannot be run because something is missing, and no
other, means an invalid step. -/
theorem Means.isInvalid_iff (h : Means i tag kind) :
    (∃ tag' reason, kind = .invalid tag' reason) ↔ ∃ need, (tag, need) ∈ needs ∧
    need.UnmetBy i := by
  constructor
  · rintro ⟨tag', reason, rfl⟩
    cases h with
    | invalid hNeed hUnmet => exact ⟨_, hNeed, hUnmet⟩
  · rintro ⟨need, hNeed, hUnmet⟩
    obtain hMet | ⟨reason, hInvalid⟩ := h.met hNeed
    · exact absurd hUnmet hMet
    · exact ⟨tag, reason, hInvalid⟩

/-- Whatever is meant by a tag outside the vocabulary is an unknown step. -/
theorem Means.mem_vocabulary (h : Means i tag kind) :
    tag ∈ vocabulary ∨ kind = .unknown tag := by
  have hVideos : ∀ p ∈ videoTags, p.1 ∈ vocabulary := by decide
  have hClicks : ∀ t ∈ ["click", "click_any"], t ∈ vocabulary := by decide
  have hWaits : ∀ t ∈ ["wait", "wait_any"], t ∈ vocabulary := by decide
  cases h with
  | unknown _ => exact .inr rfl
  | click hTag _ => exact .inl (hClicks _ hTag)
  | wait hTag _ | pause hTag _ _ => exact .inl (hWaits _ hTag)
  | video hVideo => exact .inl (hVideos _ hVideo)
  | invalid hNeed _ =>
      rw [← map_fst_needs]
      exact .inl (List.mem_map_of_mem hNeed)
  | _ => exact .inl (by decide)

/-- Only tags outside the vocabulary mean unknown steps. -/
theorem Means.isUnknown_iff (h : Means i tag kind) :
    (∃ tag', kind = .unknown tag') ↔ tag ∉ vocabulary := by
  constructor
  · rintro ⟨tag', rfl⟩
    cases h with
    | unknown hOutside => exact hOutside
  · exact fun hOutside => ⟨tag, h.mem_vocabulary.resolve_left hOutside⟩

/-- The candidates of a step: there are some, no two of them are equal and none
is blank, and they are what the instruction names, each where it comes
first. -/
structure CandidatesOf (i : Instruction) (ss : List String) : Prop where
  notEmpty : ss ≠ []
  nodup : ss.Nodup
  solid : ∀ s ∈ ss, Solid s
  eq_named : ss = i.named.eraseDups

theorem candidatesOf_named (h : i.named ≠ []) :
    CandidatesOf i i.named.eraseDups where
  notEmpty hNil := by
    rw [← selectors_eq] at hNil
    have hBoth := selectors_isEmpty i
    rw [hNil] at hBoth
    exact h (List.isEmpty_iff.mp hBoth.symm)
  nodup := selectors_eq i ▸ nodup_selectors i
  solid s hs := solid_of_mem_named (List.mem_eraseDups.mp hs)
  eq_named := rfl

/-- A parameter that is a text: it comes from the first of the keys with
something usable under it, and no blanks are at its ends. -/
structure ParameterOf (i : Instruction) (keys : List String) (s : String) :
    Prop where
  first : i.FirstOffer keys s
  solid : Solid s

theorem parameterOf {keys : List String} {s : String}
    (h : i.FirstOffer keys s) : ParameterOf i keys s :=
  ⟨h, h.solid⟩

section

variable {ss : List String} {text : String}

theorem Means.candidates_of_click (h : Means i tag (.click ss)) :
    CandidatesOf i ss := by
  cases h with
  | click _ hSome => exact candidatesOf_named hSome

theorem Means.candidates_of_wait {state : WaitState}
    (h : Means i tag (.wait ss state)) : CandidatesOf i ss := by
  cases h with
  | wait _ hSome => exact candidatesOf_named hSome

theorem Means.parameter_of_navigate (h : Means i tag (.navigate text)) :
    ParameterOf i ["url", "link"] text := by
  cases h with
  | navigate hUrl => exact parameterOf hUrl

theorem Means.parameter_of_press {selector : Option String}
    (h : Means i tag (.press selector text)) : ParameterOf i ["key"] text := by
  cases h with
  | pressOn hKey | press hKey => exact parameterOf hKey

theorem Means.parameter_of_waitUrl (h : Means i tag (.waitUrl text)) :
    ParameterOf i ["includes", "url"] text := by
  cases h with
  | waitUrl hPart => exact parameterOf hPart

theorem Means.parameter_of_evaluate (h : Means i tag (.evaluate text)) :
    ParameterOf i ["script", "expression"] text := by
  cases h with
  | evaluate hScript => exact parameterOf hScript

theorem Means.text_of_type {selector : Option String} {clear : Bool}
    (h : Means i tag (.type selector text clear)) :
    i.text? "text" = some text ∧ text ≠ "" := by
  cases h with
  | typeInto hText hSome | type hText hSome => exact ⟨hText, hSome⟩

end

/-- A step is fit to run as what an instruction asks for. -/
structure Fit (i : Instruction) (s : Step) : Prop where
  means : Means i (normalTag i.tag) s.kind
  click : ∀ ss, s.kind = .click ss → CandidatesOf i ss
  wait : ∀ ss state, s.kind = .wait ss state → CandidatesOf i ss
  navigate : ∀ url, s.kind = .navigate url → ParameterOf i ["url", "link"] url
  press : ∀ selector key, s.kind = .press selector key →
    ParameterOf i ["key"] key
  waitUrl : ∀ part, s.kind = .waitUrl part →
    ParameterOf i ["includes", "url"] part
  evaluate : ∀ script, s.kind = .evaluate script →
    ParameterOf i ["script", "expression"] script
  /-- What is typed is the text as it stands. -/
  type : ∀ selector text clear, s.kind = .type selector text clear →
    i.text? "text" = some text ∧ text ≠ ""
  /-- Whoever sleeps is not timed. -/
  sleep : ∀ ms, s.kind = .sleep ms → s.timeout = none
  invalid : (∃ tag reason, s.kind = .invalid tag reason) ↔
    ∃ need, (normalTag i.tag, need) ∈ needs ∧ need.UnmetBy i
  unknown : (∃ tag, s.kind = .unknown tag) ↔ normalTag i.tag ∉ vocabulary

/-- Steps that sleep have no time limit of their own. -/
theorem timeout_of_sleep {ms : Nat} (h : (ofInstruction i).kind = .sleep ms) :
    (ofInstruction i).timeout = none := by
  unfold ofInstruction at h ⊢
  dsimp only at h ⊢
  rw [h]
  rfl

/-- **Every instruction gives a step that is fit to run.** -/
theorem ofInstruction_fit (i : Instruction) : Fit i (ofInstruction i) := by
  have hMeans := means_ofInstruction i
  exact {
    means := hMeans
    click := fun _ hKind => (hKind ▸ hMeans).candidates_of_click
    wait := fun _ _ hKind => (hKind ▸ hMeans).candidates_of_wait
    navigate := fun _ hKind => (hKind ▸ hMeans).parameter_of_navigate
    press := fun _ _ hKind => (hKind ▸ hMeans).parameter_of_press
    waitUrl := fun _ hKind => (hKind ▸ hMeans).parameter_of_waitUrl
    evaluate := fun _ hKind => (hKind ▸ hMeans).parameter_of_evaluate
    type := fun _ _ _ hKind => (hKind ▸ hMeans).text_of_type
    sleep := fun _ => timeout_of_sleep
    invalid := hMeans.isInvalid_iff
    unknown := hMeans.isUnknown_iff }

end

end Step

end Errand
