import Errand.Planner
import Errand.Proofs.Json.Records
import Errand.Proofs.Text.Blank
import Errand.Proofs.Text.Lowering

/-!
# Plans that travel

A plan is read leniently and written in one way. This file proves that the two
fit: reading settles every plan in a form (`Plan.Settled`) that writing and
reading again leave as it is, be it as a record or as text.

As text, the record is an object with its fields in the order of their
definition. The text begins and ends with a brace, so nothing is taken off it
as a fence; it is read back with its fields sorted, and a record is read from
its fields in any order. For this the steps have to be values that can be read
back themselves: regular, free of fractions, and not nested too deeply.

## Main results

* `Plan.settled_ofWire`: every plan that is read is settled.
* `Plan.ofWire_toWire`: a settled plan is read from its own record.
* `PlanWire.decode_sortedFields`, `PlanWire.read_toJson`: the record is read
  from its own fields, and the fields from the text of the record.
* `Planner.readPlan_toJson`: a settled plan is read from its own text.
* `Plan.travel_account`: the account of all of it.
-/

namespace Errand

/-! ## Operations -/

namespace OperationKind

@[simp] theorem ofText_name (k : OperationKind) : ofText k.name = k := by
  cases k <;> decide

/-- A text that is none of the four words asks for a search. -/
theorem ofText_of_ne_names {s : String}
    (h : ∀ k : OperationKind, Text.lower (Text.trim s) ≠ k.name) :
    ofText s = .search := by
  have hLookup : ∀ alternatives : List OperationKind,
      (alternatives.map fun k => (k.name, k)).lookup
        (Text.lower (Text.trim s)) = none := by
    intro alternatives
    induction alternatives with
    | nil => rfl
    | cons k rest ih =>
        rw [List.map_cons, List.lookup_cons, beq_eq_false_iff_ne.mpr (h k), ih]
  show (([OperationKind.search, .browse, .automate, .answer].map fun k =>
          (k.name, k)).lookup _).getD _ =
    _
  rw [hLookup]
  rfl

end OperationKind

/-! ## Settled plans -/

namespace Plan

/-- What reading makes of every plan: its platform has a name without outer
blanks, and an address to look at is not blank. -/
structure Settled (p : Plan) : Prop where
  trimmed : Text.trim p.platform = p.platform
  named : p.platform ≠ ""
  address : ∀ url, p.operation = .browse (some url) → Text.isBlank url = false

theorem platformOf_trimmed (operation spelled : String) :
    Text.trim (platformOf operation spelled) = platformOf operation spelled ∧
      platformOf operation spelled ≠ "" := by
  have hBrowser : Text.trim browserPlatform = browserPlatform ∧
      browserPlatform ≠ "" := by decide
  unfold platformOf
  by_cases hEmpty : (Text.trim spelled).isEmpty = true
  · simp only [hEmpty, if_true]
    exact hBrowser
  · simp only [hEmpty, if_false, Bool.false_eq_true]
    split
    · exact hBrowser
    · refine ⟨Text.trim_trim spelled, fun h => ?_⟩
      rw [h] at hEmpty
      exact hEmpty rfl

/-- The operation of a kind, with what the record has for it. -/
def operationOf (w : PlanWire) : OperationKind → Operation
  | .search => .search
  | .browse => .browse (w.url.filter fun u => !Text.isBlank u)
  | .automate => .automate (w.steps.filterMap Instruction.ofJson?)
  | .answer => .answer

theorem ofWire_eq (w : PlanWire) : ofWire w =
    ⟨operationOf w (OperationKind.ofText w.operation),
      platformOf w.operation w.platform, w.context⟩ := by
  unfold ofWire
  cases OperationKind.ofText w.operation <;> rfl

theorem platform_ofWire (w : PlanWire) :
    (ofWire w).platform = platformOf w.operation w.platform := by
  rw [ofWire_eq]

/-- **Every plan that is read is settled.** -/
theorem settled_ofWire (w : PlanWire) : (ofWire w).Settled := by
  obtain ⟨hTrimmed, hNamed⟩ := platformOf_trimmed w.operation w.platform
  rw [← platform_ofWire] at hTrimmed hNamed
  refine ⟨hTrimmed, hNamed, fun url h => ?_⟩
  rw [ofWire_eq] at h
  cases hKind : OperationKind.ofText w.operation with
  | browse =>
      simp only [hKind, operationOf, Operation.browse.injEq,
        Option.filter_eq_some_iff] at h
      simpa using h.2
  | _ => simp only [hKind, operationOf, reduceCtorEq] at h

/-- A plan whose operation is not understood is one for the browser. -/
theorem platform_of_ne_names {w : PlanWire}
    (h : ∀ k : OperationKind, Text.lower (Text.trim w.operation) ≠ k.name) :
    (ofWire w).platform = browserPlatform := by
  have hCase : Text.sameAsciiCase (Text.trim w.operation) "search" = false := by
    refine Bool.eq_false_iff.mpr fun hSame => h .search ?_
    have hLower : Chars.lower (Text.trim w.operation).toList =
          "search".toList :=
      Chars.lower_of_asciiLower (by decide) (eq_of_beq hSame)
    rw [Text.lower, hLower]
    rfl
  rw [platform_ofWire, platformOf, OperationKind.ofText_of_ne_names h, hCase]
  simp

/-- The steps of a plan are the objects among those of its record. -/
theorem steps_ofWire {w : PlanWire} {steps : List Instruction}
    (h : (ofWire w).operation = .automate steps) :
    steps.map Instruction.toJson = w.steps.filter fun j =>
      j.fields?.isSome := by
  have hSteps : steps = w.steps.filterMap Instruction.ofJson? := by
    rw [ofWire_eq] at h
    cases hKind : OperationKind.ofText w.operation with
    | automate =>
        simp only [hKind, operationOf, Operation.automate.injEq] at h
        exact h.symm
    | _ => simp only [hKind, operationOf, reduceCtorEq] at h
  rw [hSteps]
  induction w.steps with
  | nil => rfl
  | cons j rest ih =>
      cases j with
      | obj fields => exact congrArg (Json.obj fields :: ·) ih
      | _ => exact ih

/-- The platform of a plan with a name and without outer blanks is understood
with every operation. -/
theorem platformOf_name (k : OperationKind) {platform : String}
    (hTrimmed : Text.trim platform = platform) (hNamed : platform ≠ "") :
    platformOf k.name platform = platform := by
  have hEmpty : platform.isEmpty = false :=
    Bool.eq_false_iff.mpr fun hEmpty => hNamed (String.isEmpty_iff.mp hEmpty)
  have hKind : ¬ (OperationKind.ofText k.name = .search ∧
      (!Text.sameAsciiCase (Text.trim k.name) "search") = true) := by
    cases k <;> decide
  unfold platformOf
  simp only [hTrimmed, hEmpty, if_neg hKind, if_false, Bool.false_eq_true]

theorem operationOf_toWire {p : Plan} (h : p.Settled) :
    operationOf p.toWire p.kind = p.operation := by
  obtain ⟨operation, platform, context⟩ := p
  cases operation with
  | search => rfl
  | answer => rfl
  | browse url =>
      show Operation.browse (url.filter fun u => !Text.isBlank u) = .browse url
      cases url with
      | none => rfl
      | some url =>
          have hUrl : Text.isBlank url = false := h.address url rfl
          rw [Option.filter_some, hUrl]
          rfl
  | automate steps =>
      show Operation.automate ((steps.map Instruction.toJson).filterMap
            Instruction.ofJson?) =
        .automate steps
      have hSteps : steps.filterMap (Instruction.ofJson? ∘ Instruction.toJson) =
            steps :=
        List.filterMap_some
      rw [List.filterMap_map, hSteps]

/-- **A settled plan is read from its own record.** -/
theorem ofWire_toWire {p : Plan} (h : p.Settled) : ofWire p.toWire = p := by
  have hWord : p.toWire.operation = p.kind.name := rfl
  have hPlatform : p.toWire.platform = p.platform := rfl
  rw [ofWire_eq, hWord, hPlatform, OperationKind.ofText_name,
    operationOf_toWire h, platformOf_name p.kind h.trimmed h.named]
  rfl

end Plan

/-! ## The record as an object -/

namespace PlanWire

open Json Json.Decoder

/-- The fields of the record, in the order of its definition. -/
def fields (w : PlanWire) : Fields :=
  [("operation_type", .str w.operation), ("target_platform", .str w.platform),
    ("steps", .arr w.steps), ("context", .str w.context)] ++
    (w.url.map fun u => ("url", Json.str u)).toList

/-- The fields of the record, in increasing order of their keys. -/
def sortedFields (w : PlanWire) : Fields :=
  [("context", .str w.context), ("operation_type", .str w.operation),
    ("steps", .arr w.steps), ("target_platform", .str w.platform)] ++
    (w.url.map fun u => ("url", Json.str u)).toList

theorem toJson_eq (w : PlanWire) : w.toJson = .obj w.fields := rfl

theorem sorted_fields (w : PlanWire) :
    Fields.sorted w.fields = w.sortedFields := by
  obtain ⟨operation, platform, steps, context, url⟩ := w
  cases url <;> rfl

/-- **The record is read from its own fields**, in increasing order of their
keys. -/
theorem reads_sortedFields {w : PlanWire} {room : Nat}
    (hSteps : ∀ step ∈ w.steps, step.all isOrdered = true ∧ step.depth ≤ room) :
    decoder.Reads ⟨room + 2, false⟩ (.obj w.sortedFields) w := by
  obtain ⟨operation, platform, steps, context, url⟩ := w
  have hText : ∀ s, (orDefault "" text).Reads ⟨room + 1, false⟩ (.str s) s :=
    fun s => .orDefault "" (by simp) (.text s)
  have hItems : (list value).Reads ⟨room + 1, false⟩ (.arr steps)
        (steps.map id) :=
    .list fun step hStep => .value (hSteps step hStep).1 (hSteps step hStep).2
  rw [List.map_id] at hItems
  refine .record "PlanWire" (.cons rfl (by decide) (.slot (hText context) _ _ _)
    (.cons rfl (by decide) (.slot (hText operation) _ _ _)
    (.cons rfl (by decide) (.slot (.orDefault [] (by simp) hItems) _ _ _)
    (.cons rfl (by decide) (.slot (hText platform) _ _ _) ?_))))
  cases url with
  | none => exact .nil (by simp [slot])
  | some url =>
      exact .cons rfl (by decide)
        (.slot (.nullable (by simp) (.text url)) _ _ _)
        (.nil (by simp [slot]))

/-- The record is one level above its steps, and those are two levels above
nothing. -/
theorem depth_fields (w : PlanWire) :
    (obj w.fields).depth = itemsDepth w.steps + 2 := by
  obtain ⟨operation, platform, steps, context, url⟩ := w
  cases url <;> simp [fields, depth, fieldsDepth]

theorem depth_sortedFields (w : PlanWire) :
    (obj w.sortedFields).depth = itemsDepth w.steps + 2 := by
  obtain ⟨operation, platform, steps, context, url⟩ := w
  cases url <;> simp [sortedFields, depth, fieldsDepth]

/-- What holds of texts and of the steps holds of all values in the record. -/
theorem allFields_fields {p : Json → Bool} (hText : ∀ s, p (.str s) = true)
    {w : PlanWire} (hSteps : all p (.arr w.steps) = true) :
    allFields p w.fields = true := by
  obtain ⟨operation, platform, steps, context, url⟩ := w
  cases url <;> simp_all [fields, allFields, all]

/-- **The record is decoded from its own fields**, if its steps are values with
increasing keys. -/
theorem decode_sortedFields {w : PlanWire}
    (hSteps : allItems isOrdered w.steps = true) :
    decoder.ofValue (.obj w.sortedFields) = .ok w := by
  have hLength := depth_lt_length (.obj w.sortedFields) []
  rw [depth_sortedFields] at hLength
  obtain ⟨room, hRoom⟩ : ∃ room, (obj w.sortedFields).toEvents.length =
        room + 2 :=
    ⟨(obj w.sortedFields).toEvents.length - 2, by rw [toEvents]; omega⟩
  refine Reads.ofValue ?_
  rw [hRoom]
  refine reads_sortedFields fun step hStep =>
    ⟨allItems_iff.mp hSteps step hStep, ?_⟩
  have hDepth : step.depth ≤ itemsDepth w.steps :=
    itemsDepth_le_iff.mp (Nat.le_refl _) step hStep
  rw [toEvents] at hRoom
  omega

/-- **The record is read from its own text**, if its steps can be read back
themselves. -/
theorem read_toJson {w : PlanWire} (hSteps : ∀ step ∈ w.steps,
    step.all isRegular = true ∧ step.all isWhole = true ∧
    step.depth + 2 ≤ maxDepth) :
    read w.toJson.render = .ok (.obj w.sortedFields) := by
  have hRegular : all isRegular (.arr w.steps) = true :=
    all_arr.mpr ⟨rfl, allItems_iff.mpr fun step hStep => (hSteps step hStep).1⟩
  have hWhole : all isWhole (.arr w.steps) = true :=
    all_arr.mpr ⟨rfl, allItems_iff.mpr fun step hStep =>
      (hSteps step hStep).2.1⟩
  have hDepth : itemsDepth w.steps ≤ maxDepth - 2 :=
    itemsDepth_le_iff.mpr fun step hStep =>
      Nat.le_sub_of_add_le (hSteps step hStep).2.2
  have hRoom : (obj w.fields).depth ≤ maxDepth := by
    rw [depth_fields]
    exact Nat.add_le_of_le_sub (by decide) hDepth
  rw [toJson_eq, ← sorted_fields]
  exact read_render_obj (allFields_fields (fun _ => rfl) hWhole)
    (allFields_fields (fun _ => rfl) hRegular) hRoom

end PlanWire

/-! ## The record as text -/

namespace Json

theorem exists_renderFields (fields : Fields) :
    ∃ front, renderFields fields = front ++ ['\x7d'] := by
  induction fields with
  | nil => exact ⟨[], rfl⟩
  | cons field rest ih =>
      obtain ⟨key, value⟩ := field
      obtain ⟨front, hFront⟩ := ih
      exact ⟨_, by rw [renderFields, hFront, ← List.append_assoc]⟩

/-- The text of an object stands between braces. -/
theorem exists_render_obj (fields : Fields) :
    ∃ middle, render (.obj fields) = '\x7b' :: (middle ++ ['\x7d']) := by
  cases fields with
  | nil => exact ⟨[], rfl⟩
  | cons field rest =>
      obtain ⟨key, value⟩ := field
      obtain ⟨front, hFront⟩ := exists_renderFields rest
      exact ⟨renderString key ++ ':' :: render value ++ front,
        by rw [render, hFront]; simp⟩

end Json

namespace Chars

theorem dropLeads_of_none {lead cs : List Char} (h : dropLead? lead cs = none) :
    dropLeads lead cs = cs := by
  rw [dropLeads]
  split
  · split
    · next hSome => cases h.symm.trans hSome
    · rfl
  · rfl

end Chars

namespace Planner

open Json

/-- Nothing is taken off a text between braces. -/
theorem unfenced_of_braces (middle : List Char) :
    unfenced ('\x7b' :: (middle ++ ['\x7d'])) =
      '\x7b' :: (middle ++ ['\x7d']) := by
  have hTrim : Chars.trim ('\x7b' :: (middle ++ ['\x7d'])) =
        '\x7b' :: (middle ++ ['\x7d']) :=
    Chars.trim_of_ends (by decide) (by decide) middle
  have hTails : Chars.dropTails "```".toList ('\x7b' :: (middle ++ ['\x7d'])) =
      '\x7b' :: (middle ++ ['\x7d']) := by
    unfold Chars.dropTails
    rw [← List.cons_append, List.reverse_concat, Chars.dropLeads_of_none rfl,
      List.reverse_cons, List.reverse_reverse]
  have hLead : Chars.dropLeads "```".toList ('\x7b' :: (middle ++ ['\x7d'])) =
      '\x7b' :: (middle ++ ['\x7d']) := Chars.dropLeads_of_none rfl
  have hNamed : ∀ name : String, Chars.dropLeads ("```".toList ++ name.toList)
      ('\x7b' :: (middle ++ ['\x7d'])) = '\x7b' :: (middle ++ ['\x7d']) :=
    fun name => Chars.dropLeads_of_none rfl
  simp only [unfenced, hTrim, hNamed, hLead, hTails]

theorem extractObject?_of_read {fields read : Fields}
    (h : Json.read (render (.obj fields)) = .ok (.obj read)) :
    extractObject? (obj fields).compress = some (.obj read) := by
  obtain ⟨middle, hMiddle⟩ := exists_render_obj fields
  have hInner : unfenced (obj fields).compress.toList =
        render (.obj fields) := by
    rw [compress, String.toList_ofList, hMiddle, unfenced_of_braces]
  simp only [extractObject?, hInner, objectOf?, h]
  rfl

/-- **A settled plan is read from its own text.** -/
theorem readPlan_toJson {p : Plan} (hSettled : p.Settled)
    (hSteps : ∀ step ∈ p.toWire.steps,
      step.all isRegular = true ∧ step.all isWhole = true ∧
        step.depth + 2 ≤ maxDepth) :
    readPlan p.toWire.toJson.compress = .ok p := by
  have hOrdered : allItems isOrdered p.toWire.steps = true :=
    allItems_iff.mpr fun step hStep =>
      (all_isRegular.mp (hSteps step hStep).1).2
  have hExtract : extractObject? p.toWire.toJson.compress =
        some (.obj p.toWire.sortedFields) :=
    extractObject?_of_read (PlanWire.read_toJson hSteps)
  unfold readPlan
  simp only [hExtract, PlanWire.decode_sortedFields hOrdered,
    Plan.ofWire_toWire hSettled]

end Planner

/-! ## The whole -/

namespace Plan

open Json

/-- **A plan that was read travels unchanged.** Its platform has a name without
outer blanks, an address to look at is not blank, its steps are the objects
among those of the record, in their order, and a plan whose operation is not
understood is one for the browser. It is read again from its own record, and
also from the text of the record if its steps are values as they are read,
without fractions, and no more than a hundred levels deep; only a blank context
gives way to the request. -/
theorem travel_account (w : PlanWire) :
    let p := ofWire w
    let text := p.toWire.toJson.compress
    (Text.trim p.platform = p.platform ∧ p.platform ≠ "") ∧
      (∀ url, p.operation = .browse (some url) → Text.isBlank url = false) ∧
      (∀ steps, p.operation = .automate steps →
        steps.map Instruction.toJson = w.steps.filter fun j =>
          j.fields?.isSome) ∧
      ((∀ k : OperationKind, Text.lower (Text.trim w.operation) ≠ k.name) →
        p.platform = browserPlatform) ∧
      ofWire p.toWire = p ∧
      ((∀ step ∈ p.toWire.steps,
          step.all isRegular = true ∧ step.all isWhole = true ∧
          step.depth ≤ 100) →
        Planner.readPlan text = .ok p ∧
        ∀ request, Planner.planOf text request =
          if Text.isBlank p.context then { p with context := request }
          else p) := by
  intro p text
  have hSettled : p.Settled := settled_ofWire w
  refine ⟨⟨hSettled.trimmed, hSettled.named⟩, hSettled.address,
    fun steps => steps_ofWire, platform_of_ne_names, ofWire_toWire hSettled,
    fun hSteps => ?_⟩
  have hRead : Planner.readPlan text = .ok p :=
    Planner.readPlan_toJson hSettled fun step hStep =>
      ⟨(hSteps step hStep).1, (hSteps step hStep).2.1,
        Nat.le_trans (Nat.add_le_add_right (hSteps step hStep).2.2 2)
          (by decide)⟩
  refine ⟨hRead, fun request => ?_⟩
  unfold Planner.planOf
  rw [hRead]

/-- A record with a word in capitals, a platform between blanks, something that
is no step, and no context: the plan travels, and takes the request for its
context. One with another word is for the browser. -/
theorem travel_account_steps :
    let step : Json := .obj [("action", .str "type"), ("times", .num (.int 2))]
    let w : PlanWire := ⟨"AUTOMATE", " shop.test ", [step, .null], " ", none⟩
    let other : PlanWire := ⟨"dance", "shop.test", [], "tango", none⟩
    let p : Plan :=
      ⟨.automate [⟨[("action", .str "type"), ("times", .num (.int 2))]⟩],
        "shop.test", "tea"⟩
    (∀ step ∈ (ofWire w).toWire.steps,
        step.all isRegular = true ∧ step.all isWhole = true ∧
        step.depth ≤ 100) ∧
      Planner.planOf (ofWire w).toWire.toJson.compress "tea" = p ∧
      (∀ k : OperationKind, Text.lower (Text.trim other.operation) ≠ k.name) ∧
      (ofWire other).platform = browserPlatform := by
  intro step w other p
  have hSteps : ∀ step ∈ (ofWire w).toWire.steps,
      step.all isRegular = true ∧ step.all isWhole = true ∧
      step.depth ≤ 100 := by
    decide +kernel
  have hOther : ∀ k : OperationKind, Text.lower (Text.trim other.operation) ≠
        k.name := by
    intro k
    cases k <;> decide +kernel
  obtain ⟨-, -, -, -, -, hText⟩ := travel_account w
  obtain ⟨-, -, -, hBrowser, -, -⟩ := travel_account other
  have hKind : OperationKind.ofText w.operation = .automate := by decide +kernel
  have hPlatform : platformOf w.operation w.platform = "shop.test" := by
    decide +kernel
  have hPlan : ofWire w = { p with context := " " } := by
    rw [ofWire_eq, hKind, hPlatform]
    rfl
  refine ⟨hSteps, ?_, hOther, hBrowser hOther⟩
  rw [(hText hSteps).2 "tea", hPlan]
  exact if_pos (by decide)

end Plan

end Errand
