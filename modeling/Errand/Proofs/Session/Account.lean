import Errand.Proofs.Session.Legs

/-!
# The report of a session is a true account of it

A report says how far a session came. This file proves that it says so
truthfully, for every list of instructions, every browser and every time limit,
wherever the limit cuts the session short.

What the report is compared with are the **legs** of the session: the steps
that were begun, in their order, each with the run of what there was to do for
it. The records are those of the legs; a step that failed is a skipped one if
it is optional and ends the session if it is not; and the number of executed
steps tells how many steps the session went on after.

## Main results

* `Account`: everything that a report promises about the legs of its session.
* `run_account`: the report of every session keeps these promises, and the
  calls of the session are those of its opening, then those of its legs, one
  leg after the other, and then those that close it.
* `report_counts`: success and steps in the report of a session.
-/

namespace Errand.Session

open Dialogue

variable {σ : Type}

/-! ## Legs and records -/

namespace Leg

/-- What the record of a leg says. -/
theorem record?_eq_some {l : Leg σ} {record : Record}
    (h : l.record? = some record) :
    record.index = l.index ∧ record.description = l.step.describe ∧
      record.isFailed = !l.goesOn ∧
      (record.isFailed = true → l.step.optional = false) := by
  unfold goesOn
  cases hEnd : l.run.ending with
  | done did =>
      rw [record?_of_done hEnd] at h
      obtain rfl := Option.some.inj h
      exact ⟨rfl, rfl, rfl, fun hFailed => Bool.noConfusion hFailed⟩
  | failed t =>
      cases hOptional : l.step.optional with
      | true =>
          rw [record?_of_optional hEnd hOptional] at h
          obtain rfl := Option.some.inj h
          exact ⟨rfl, rfl, by simp only [Record.isFailed, Bool.not_true],
            fun hFailed => Bool.noConfusion hFailed⟩
      | false =>
          rw [record?_of_required hEnd hOptional] at h
          obtain rfl := Option.some.inj h
          exact ⟨rfl, rfl, by simp only [Record.isFailed, Bool.not_false],
            fun _ => rfl⟩
  | cutOff =>
      rw [record?_of_cut (.inl hEnd)] at h
      cases h
  | breakdown =>
      rw [record?_of_cut (.inr hEnd)] at h
      cases h

theorem exists_record?_of_goesOn {l : Leg σ} (h : l.goesOn = true) :
    ∃ record, l.record? = some record := by
  unfold goesOn at h
  cases hEnd : l.run.ending with
  | done did => exact ⟨_, record?_of_done hEnd⟩
  | failed t =>
      simp only [hEnd] at h
      exact ⟨_, record?_of_optional hEnd h⟩
  | cutOff => simp only [hEnd, Bool.false_eq_true] at h
  | breakdown => simp only [hEnd, Bool.false_eq_true] at h

/-- A session does not end well with a leg that does not go on. -/
theorem ending_ne_done {l : Leg σ} (h : l.goesOn = false) :
    l.ending ≠ .done () := by
  unfold goesOn at h
  unfold ending
  cases hEnd : l.run.ending with
  | done did => simp only [hEnd, Bool.true_eq_false] at h
  | failed t =>
      simp only [hEnd] at h
      simp only [h, if_false, Bool.false_eq_true]
      exact nofun
  | cutOff => exact nofun
  | breakdown => exact nofun

end Leg

/-- If all legs but the last go on, the records stand at the numbers of their
legs. -/
theorem getElem?_records {ls : List (Leg σ)}
    (h : ∀ l ∈ ls.dropLast, l.goesOn = true) (k : Nat) :
    (ls.filterMap Leg.record?)[k]? = ls[k]?.bind Leg.record? := by
  induction ls generalizing k with
  | nil => rfl
  | cons l rest ih =>
      cases rest with
      | nil =>
          cases hRecord : l.record? with
          | none =>
              rw [List.filterMap_cons_none hRecord]
              cases k with
              | zero => exact hRecord.symm
              | succ k => rfl
          | some record =>
              rw [List.filterMap_cons_some hRecord]
              cases k with
              | zero => exact hRecord.symm
              | succ k => rfl
      | cons l' rest =>
          rw [List.dropLast_cons_cons] at h
          obtain ⟨record, hRecord⟩ :=
            Leg.exists_record?_of_goesOn (h l List.mem_cons_self)
          rw [List.filterMap_cons_some hRecord]
          cases k with
          | zero => exact hRecord.symm
          | succ k =>
              rw [List.getElem?_cons_succ, List.getElem?_cons_succ]
              exact ih (fun x hx => h x (List.mem_cons_of_mem l hx)) k

/-- The executed steps are those that the session went on after. -/
theorem executed_records (ls : List (Leg σ)) :
    executed (ls.filterMap Leg.record?) = (ls.filter Leg.goesOn).length := by
  induction ls with
  | nil => rfl
  | cons l rest ih =>
      unfold executed at ih ⊢
      cases hRecord : l.record? with
      | none =>
          have hStops : l.goesOn = false := by
            cases hGoesOn : l.goesOn with
            | false => rfl
            | true =>
                obtain ⟨record, hSome⟩ := Leg.exists_record?_of_goesOn hGoesOn
                rw [hRecord] at hSome
                cases hSome
          rw [List.filterMap_cons_none hRecord, ih,
            List.filter_cons_of_neg (by rw [hStops]; decide)]
      | some record =>
          have hFailed := (Leg.record?_eq_some hRecord).2.2.1
          rw [List.filterMap_cons_some hRecord]
          cases hGoesOn : l.goesOn with
          | false =>
              rw [hGoesOn] at hFailed
              rw [List.filter_cons_of_neg (by rw [hFailed]; decide),
                List.filter_cons_of_neg (by rw [hGoesOn]; decide), ih]
          | true =>
              rw [hGoesOn] at hFailed
              rw [List.filter_cons_of_pos (by rw [hFailed]; decide),
                List.filter_cons_of_pos hGoesOn, List.length_cons,
                List.length_cons, ih]

/-! ## How far a session comes -/

/-- How the legs of a session of `total` steps stand to its ending: they are
complete, or the session could not be opened, or the last one stopped it. -/
inductive Shape (total : Nat) : List (Leg σ) → Ending Unit → Prop where
  | complete {ls : List (Leg σ)} (hAll : ∀ l ∈ ls, l.goesOn = true)
      (hLength : ls.length = total) :
      Shape total ls (.done ())
  | unopened {ending : Ending Unit} (hEnd : ending ≠ .done ()) :
      Shape total [] ending
  | stopped {before : List (Leg σ)} {last : Leg σ} {ending : Ending Unit}
      (hBefore : ∀ l ∈ before, l.goesOn = true) (hLast : last.goesOn = false)
      (hLength : before.length < total) (hEnd : ending ≠ .done ()) :
      Shape total (before ++ [last]) ending

theorem legs_shape (b : Browser σ) (o : Options) (target : Option String)
    (steps : List Step) (start : Time) (s : σ) :
    Shape steps.length (legs b o target steps start s)
      ((drive o target steps).play b (some (start + o.sessionTimeout)) start
        s).ending := by
  rw [play_drive]
  rcases legs_cases b o target steps start s
    with ⟨hOpened, hLegs⟩ | ⟨hClosed, hLegs⟩
  · rw [hLegs, Run.andThen_of_done hOpened, Run.ending_preceded]
    rcases legsFrom_shape b o (some (start + o.sessionTimeout)) steps 0 target
        (openingRun b o target start s).now
          (openingRun b o target start s).state with
      ⟨hAll, hLength⟩ | ⟨before, last, hEq, hBefore, hLast, hLength⟩
    · have hEnding : ∀ ls : List (Leg σ), (∀ l ∈ ls, l.goesOn = true) →
          (ls.getLast?.map Leg.ending).getD (.done ()) = .done () := by
        intro ls hls
        cases hGet : ls.getLast? with
        | none => rfl
        | some last =>
            exact Leg.ending_of_goesOn (hls last (List.mem_of_getLast? hGet))
      simp only [runOf]
      rw [hEnding _ hAll]
      exact .complete hAll hLength
    · simp only [runOf]
      rw [hEq] at hLength ⊢
      rw [List.getLast?_append, List.getLast?_singleton]
      rw [List.length_append, List.length_singleton] at hLength
      exact .stopped hBefore hLast hLength (Leg.ending_ne_done hLast)
  · rw [hLegs]
    refine .unopened fun hEnd => ?_
    unfold Run.andThen at hEnd
    cases hOpen : (openingRun b o target start s).ending with
    | done a => exact hClosed a hOpen
    | failed t => simp only [hOpen, reduceCtorEq] at hEnd
    | cutOff => simp only [hOpen, reduceCtorEq] at hEnd
    | breakdown => simp only [hOpen, reduceCtorEq] at hEnd

namespace Shape

variable {total : Nat} {ls : List (Leg σ)} {ending : Ending Unit}

/-- Every leg but the last goes on. -/
theorem dropLast (h : Shape total ls ending) :
    ∀ l ∈ ls.dropLast, l.goesOn = true := by
  cases h with
  | complete hAll hLength =>
      exact fun l hl => hAll l (List.dropLast_subset ls hl)
  | unopened hEnd => exact fun l hl => (List.not_mem_nil hl).elim
  | stopped hBefore hLast hLength hEnd =>
      rw [List.dropLast_concat]
      exact hBefore

/-- A leg that does not go on is the last one. -/
theorem last_of_stops (h : Shape total ls ending) {k : Nat} {l : Leg σ}
    (hk : ls[k]? = some l) (hStops : l.goesOn = false) : k + 1 = ls.length := by
  obtain ⟨hLt, hGet⟩ := List.getElem?_eq_some_iff.mp hk
  by_cases hLast : k + 1 = ls.length
  · exact hLast
  · have hMem : l ∈ ls.dropLast := by
      refine List.mem_iff_getElem?.mpr ⟨k, ?_⟩
      rw [List.getElem?_dropLast, if_pos (by omega), hk]
    have hGoesOn := h.dropLast l hMem
    rw [hStops] at hGoesOn
    cases hGoesOn

/-- After a leg that goes on comes another one, if there is a step left. -/
theorem next_of_goesOn (h : Shape total ls ending) {k : Nat} {l : Leg σ}
    (hk : ls[k]? = some l) (hGoesOn : l.goesOn = true) (hLeft : k + 1 < total) :
    k + 1 < ls.length := by
  obtain ⟨hLt, hGet⟩ := List.getElem?_eq_some_iff.mp hk
  cases h with
  | complete hAll hLength => omega
  | unopened hEnd => cases hk
  | @stopped before last _ hBefore hLast hLength hEnd =>
      rw [List.length_append, List.length_singleton] at hLt ⊢
      by_cases hEq : k = before.length
      · subst hEq
        rw [List.getElem?_concat_length] at hk
        obtain rfl := Option.some.inj hk
        rw [hLast] at hGoesOn
        cases hGoesOn
      · omega

/-- A session that came to a good end went on after every step. -/
theorem executed_of_done (h : Shape total ls ending)
    (hEnd : ending = .done ()) :
    executed (ls.filterMap Leg.record?) = total := by
  rw [executed_records]
  cases h with
  | complete hAll hLength => rw [List.filter_eq_self.mpr hAll]; exact hLength
  | unopened hOther => exact absurd hEnd hOther
  | stopped hBefore hLast hLength hOther => exact absurd hEnd hOther

/-- A session that was stopped went on after every leg but the last. -/
theorem executed_of_not_done (h : Shape total ls ending)
    (hEnd : ending ≠ .done ()) :
    executed (ls.filterMap Leg.record?) = ls.length - 1 := by
  rw [executed_records]
  cases h with
  | complete hAll hLength => exact absurd rfl hEnd
  | unopened hOther => rfl
  | stopped hBefore hLast hLength hOther =>
      rw [List.filter_append, List.filter_eq_self.mpr hBefore,
        List.filter_cons_of_neg (by rw [hLast]; decide), List.filter_nil,
        List.append_nil,
        List.length_append, List.length_singleton, Nat.add_sub_cancel]

/-- A session with a leg that does not go on does not come to a good end. -/
theorem not_done_of_stops (h : Shape total ls ending) {l : Leg σ} (hl : l ∈ ls)
    (hStops : l.goesOn = false) : ending ≠ .done () := by
  cases h with
  | complete hAll hLength =>
      rw [hAll l hl] at hStops
      cases hStops
  | unopened hEnd => exact hEnd
  | stopped hBefore hLast hLength hEnd => exact hEnd

theorem length_le (h : Shape total ls ending) : ls.length ≤ total := by
  cases h with
  | complete hAll hLength => exact Nat.le_of_eq hLength
  | unopened hEnd => exact Nat.zero_le total
  | stopped hBefore hLast hLength hEnd =>
      rw [List.length_append, List.length_singleton]
      exact hLength

/-! The records of such legs: -/

theorem getElem?_records_eq (h : Shape total ls ending) {k : Nat} {l : Leg σ}
    (hk : ls[k]? = some l) : (ls.filterMap Leg.record?)[k]? = l.record? := by
  rw [getElem?_records h.dropLast, hk]
  rfl

/-- Every record is that of the leg with its number. -/
theorem exists_leg (h : Shape total ls ending) {k : Nat} {record : Record}
    (hk : (ls.filterMap Leg.record?)[k]? = some record) :
    ∃ l, ls[k]? = some l ∧ l.record? = some record := by
  rw [getElem?_records h.dropLast] at hk
  exact Option.bind_eq_some_iff.mp hk

/-- The record of a failed step is that of the leg that stopped the session,
which is the last one.
-/
theorem stops_of_isFailed (h : Shape total ls ending) {k : Nat}
    {record : Record} (hk : (ls.filterMap Leg.record?)[k]? = some record)
    (hFailed : record.isFailed = true) :
    ending ≠ .done () ∧ k + 1 = ls.length ∧
    k + 1 = (ls.filterMap Leg.record?).length := by
  obtain ⟨l, hl, hRecord⟩ := h.exists_leg hk
  have hStops : l.goesOn = false := by
    have hEq := (Leg.record?_eq_some hRecord).2.2.1
    rw [hFailed] at hEq
    exact Bool.not_eq_true' _ ▸ hEq.symm
  have hLast := h.last_of_stops hl hStops
  have hLe : (ls.filterMap Leg.record?).length ≤ ls.length :=
    List.length_filterMap_le _ _
  obtain ⟨hLt, -⟩ := List.getElem?_eq_some_iff.mp hk
  exact ⟨h.not_done_of_stops (List.mem_of_getElem? hl) hStops, hLast, by omega⟩

/-- If the last record is not that of a failed step, no record is. -/
theorem isFailed_eq_false (h : Shape total ls ending)
    (hLast : ∀ record : Record, (ls.filterMap Leg.record?).getLast? =
      some record →
      record.isFailed = false) :
    ∀ record ∈ ls.filterMap Leg.record?, record.isFailed = false := by
  intro record hMem
  obtain ⟨k, hk⟩ := List.mem_iff_getElem?.mp hMem
  cases hFailed : record.isFailed with
  | false => rfl
  | true =>
      have hEnd := (h.stops_of_isFailed hk hFailed).2.2
      rw [← hFailed]
      refine hLast record ?_
      rw [List.getLast?_eq_getElem?, ← hEnd, Nat.add_sub_cancel, hk]

/-- A leg without a record is the last one, and every leg before it has one. -/
theorem length_records (h : Shape total ls ending) {k : Nat} {l : Leg σ}
    (hk : ls[k]? = some l) (hLast : k + 1 = ls.length)
    (hNone : l.record? = none) : (ls.filterMap Leg.record?).length = k := by
  have hEnds : (ls.filterMap Leg.record?).length ≤ k := by
    rw [← List.getElem?_eq_none_iff, h.getElem?_records_eq hk, hNone]
  by_cases hZero : k = 0
  · omega
  · obtain ⟨j, rfl⟩ := Nat.exists_eq_succ_of_ne_zero hZero
    have hLt : j < ls.length := by omega
    have hAt : ls[j]? = some ls[j] := List.getElem?_eq_getElem hLt
    have hBefore : ls[j].goesOn = true := by
      refine h.dropLast _ (List.mem_iff_getElem?.mpr ⟨j, ?_⟩)
      rw [List.getElem?_dropLast, if_pos (by omega), hAt]
    obtain ⟨record, hRecord⟩ := Leg.exists_record?_of_goesOn hBefore
    have hSome := h.getElem?_records_eq hAt
    rw [hRecord] at hSome
    obtain ⟨hFilled, -⟩ := List.getElem?_eq_some_iff.mp hSome
    omega

end Shape

/-! ## The account -/

/-- What a report promises about the legs of a session with these steps. -/
structure Account (steps : List Step) (ls : List (Leg σ)) (r : Report) :
    Prop where
  total : r.totalSteps = steps.length
  /-- The legs are those of the steps, in their order. -/
  numbered : ∀ (k : Nat) (l : Leg σ), ls[k]? = some l → l.index = k ∧
    steps[k]? = some l.step
  /-- The records carry the numbers 0, 1, 2 and so on, and describe the steps
  with these numbers. -/
  indexed : ∀ (k : Nat) (record : Record), r.records[k]? = some record →
    record.index = k ∧ steps[k]?.map Step.describe = some record.description
  /-- A step that was done is recorded so, and the next step is begun. -/
  done : ∀ (k : Nat) (l : Leg σ) did, ls[k]? = some l →
    l.run.ending = .done did →
    r.records[k]? = some ⟨k, l.step.describe, .done did⟩ ∧
      (k + 1 < steps.length → k + 1 < ls.length)
  /-- An optional step that failed is recorded as skipped, and the next step is
  begun. -/
  skipped : ∀ (k : Nat) (l : Leg σ) t, ls[k]? = some l →
    l.run.ending = .failed t →
    l.step.optional = true → r.records[k]? =
      some ⟨k, l.step.describe, .skipped t.full⟩ ∧
      (k + 1 < steps.length → k + 1 < ls.length)
  /-- A required step that failed is recorded as such, and no other step is
  begun. -/
  failed : ∀ (k : Nat) (l : Leg σ) t, ls[k]? = some l →
    l.run.ending = .failed t →
    l.step.optional = false →
    r.records[k]? = some ⟨k, l.step.describe, .failed t.full⟩ ∧
    ls.length = k + 1
  /-- A step that was cut short has no record, and no other step is begun. -/
  cut : ∀ (k : Nat) (l : Leg σ), ls[k]? = some l →
    (l.run.ending = .cutOff ∨ l.run.ending = .breakdown) →
    r.records.length = k ∧ ls.length = k + 1
  /-- Only a required step is recorded as failed, and only as the last one. -/
  failed_last : ∀ (k : Nat) (record : Record), r.records[k]? = some record →
    record.isFailed = true →
    steps[k]?.map Step.optional = some false ∧ k + 1 = r.records.length
  /-- A session whose last record is that of a failed step stopped there. -/
  aborted : ∀ record : Record, r.records.getLast? = some record →
    record.isFailed = true →
    r.stepsExecuted = record.index ∧ r.error.isSome = true ∧ r.success = false ∧
      ls.length = record.index + 1
  /-- In every other session the executed steps are those with a record. -/
  counted : (∀ record : Record, r.records.getLast? = some record →
      record.isFailed = false) →
    r.stepsExecuted = r.records.length
  success_iff : r.success = true ↔ r.error = none
  all_executed : r.success = true → r.stepsExecuted = r.totalSteps
  success_of_all_executed : steps ≠ [] → r.stepsExecuted = r.totalSteps →
    r.success = true

/-- The report has no error exactly if the steps came to a good end. -/
theorem errorOf_eq_none {o : Options} {steps total : Nat}
    {ending : Ending Unit} :
    errorOf o steps total ending = none ↔ ending = .done () := by
  cases ending with
  | done a => exact ⟨fun _ => rfl, fun _ => rfl⟩
  | failed t => exact ⟨nofun, nofun⟩
  | cutOff => exact ⟨nofun, nofun⟩
  | breakdown => exact ⟨nofun, nofun⟩

/-- **A report that is read off the legs is a true account of them.** -/
theorem Shape.account {steps : List Step} {ls : List (Leg σ)}
    {ending : Ending Unit} {r : Report} (hShape : Shape steps.length ls ending)
    (hNumbered : ∀ (k : Nat) (l : Leg σ), ls[k]? = some l → l.index = k ∧
      steps[k]? = some l.step)
    (hTotal : r.totalSteps = steps.length)
    (hRecords : r.records = ls.filterMap Leg.record?)
    (hExecuted : r.stepsExecuted = executed r.records)
    (hSuccess : r.success = true ↔ ending = .done ())
    (hError : r.error = none ↔ ending = .done ()) : Account steps ls r := by
  rw [hRecords] at hExecuted
  have hRecorded : ∀ (k : Nat) (l : Leg σ), ls[k]? = some l →
      r.records[k]? = l.record? :=
    fun k l hl => by rw [hRecords]; exact hShape.getElem?_records_eq hl
  refine
    { total := hTotal
      numbered := hNumbered
      indexed := ?indexed
      done := ?done
      skipped := ?skipped
      failed := ?failed
      cut := ?cut
      failed_last := ?failed_last
      aborted := ?aborted
      counted := ?counted
      success_iff := hSuccess.trans hError.symm
      all_executed := ?all_executed
      success_of_all_executed := ?success_of_all_executed }
  case indexed =>
    intro k record hk
    rw [hRecords] at hk
    obtain ⟨l, hl, hRecord⟩ := hShape.exists_leg hk
    obtain ⟨hIndex, hDescription, -, -⟩ := Leg.record?_eq_some hRecord
    obtain ⟨hNumber, hStep⟩ := hNumbered k l hl
    exact ⟨hIndex.trans hNumber, by rw [hStep, hDescription]; rfl⟩
  case done =>
    intro k l did hl hEnd
    have hGoesOn : l.goesOn = true := by simp only [Leg.goesOn, hEnd]
    refine ⟨?_, hShape.next_of_goesOn hl hGoesOn⟩
    rw [hRecorded k l hl, Leg.record?_of_done hEnd, (hNumbered k l hl).1]
  case skipped =>
    intro k l t hl hEnd hOptional
    have hGoesOn : l.goesOn = true := by simp only [Leg.goesOn, hEnd, hOptional]
    refine ⟨?_, hShape.next_of_goesOn hl hGoesOn⟩
    rw [hRecorded k l hl, Leg.record?_of_optional hEnd hOptional,
      (hNumbered k l hl).1]
  case failed =>
    intro k l t hl hEnd hRequired
    have hStops : l.goesOn = false := by simp only [Leg.goesOn, hEnd, hRequired]
    refine ⟨?_, (hShape.last_of_stops hl hStops).symm⟩
    rw [hRecorded k l hl, Leg.record?_of_required hEnd hRequired,
      (hNumbered k l hl).1]
  case cut =>
    intro k l hl hCut
    have hStops : l.goesOn = false := by
      rcases hCut with hEnd | hEnd <;> simp only [Leg.goesOn, hEnd]
    have hNone := Leg.record?_of_cut hCut
    have hLast := hShape.last_of_stops hl hStops
    exact ⟨by rw [hRecords]; exact hShape.length_records hl hLast hNone,
      hLast.symm⟩
  case failed_last =>
    intro k record hk hFailed
    rw [hRecords] at hk ⊢
    obtain ⟨l, hl, hRecord⟩ := hShape.exists_leg hk
    have hRequired := (Leg.record?_eq_some hRecord).2.2.2 hFailed
    refine ⟨?_, (hShape.stops_of_isFailed hk hFailed).2.2⟩
    rw [(hNumbered k l hl).2, ← hRequired]
    rfl
  case aborted =>
    intro record hLast hFailed
    rw [hRecords, List.getLast?_eq_getElem?] at hLast
    obtain ⟨l, hl, hRecord⟩ := hShape.exists_leg hLast
    obtain ⟨hEnd, hLegs, -⟩ := hShape.stops_of_isFailed hLast hFailed
    have hIndex := (Leg.record?_eq_some hRecord).1.trans (hNumbered _ l hl).1
    refine ⟨?_, ?_, ?_, by omega⟩
    · rw [hExecuted, hShape.executed_of_not_done hEnd]
      omega
    · exact Option.isSome_iff_ne_none.mpr fun hNone => hEnd (hError.mp hNone)
    · exact Bool.eq_false_iff.mpr fun hTrue => hEnd (hSuccess.mp hTrue)
  case counted =>
    intro hLast
    rw [hRecords] at hLast
    rw [hExecuted, hRecords]
    have hNoneFailed := hShape.isFailed_eq_false hLast
    exact congrArg List.length (List.filter_eq_self.mpr fun record hMem => by
      rw [hNoneFailed record hMem]; rfl)
  case all_executed =>
    intro hTrue
    rw [hExecuted, hShape.executed_of_done (hSuccess.mp hTrue), hTotal]
  case success_of_all_executed =>
    intro hNonempty hAll
    refine hSuccess.mpr ?_
    by_cases hEnd : ending = .done ()
    · exact hEnd
    · have hPositive : 0 < steps.length := List.length_pos_iff.mpr hNonempty
      have hLe := hShape.length_le
      rw [hExecuted, hShape.executed_of_not_done hEnd, hTotal] at hAll
      omega

/-! ## The account of a session -/

/-- Each leg is the run of what there was to do for its step, the first one
from the end of the opening and any other one from the end of the leg before
it. -/
def Chained (b : Browser σ) (o : Options) (deadline : Option Time)
    (target : Option String) (opened : Run Call σ Entry Unit)
    (ls : List (Leg σ)) : Prop :=
  ∀ (k : Nat) (l : Leg σ), ls[k]? = some l →
    (k = 0 → l.run = (stepTalk o target l.step).play b deadline opened.now
      opened.state) ∧
      ∀ j previous, k = j + 1 → ls[j]? = some previous →
        l.run = (stepTalk o none l.step).play b deadline previous.run.now
          previous.run.state

theorem legs_chained (b : Browser σ) (o : Options) (target : Option String)
    (steps : List Step) (start : Time) (s : σ) :
    Chained b o (some (start + o.sessionTimeout)) target
      (openingRun b o target start s)
      (legs b o target steps start s) := by
  intro k l hl
  rcases legs_cases b o target steps start s with ⟨-, hLegs⟩ | ⟨-, hLegs⟩
  · rw [hLegs] at hl ⊢
    exact legsFrom_run b o _ steps 0 target _ _ k l hl
  · rw [hLegs] at hl
    cases hl

theorem legs_getElem? (b : Browser σ) (o : Options) (target : Option String)
    (steps : List Step) (start : Time) (s : σ) (k : Nat) (l : Leg σ)
    (hl : (legs b o target steps start s)[k]? = some l) :
    l.index = k ∧ steps[k]? = some l.step := by
  rcases legs_cases b o target steps start s with ⟨-, hLegs⟩ | ⟨-, hLegs⟩
  · rw [hLegs] at hl
    obtain ⟨hIndex, hStep⟩ := legsFrom_getElem? b o _ steps 0 target _ _ k l hl
    exact ⟨by omega, hStep⟩
  · rw [hLegs] at hl
    cases hl

/-- The conclusion of a session asks for the address and closes the browser,
and makes no entry. -/
theorem conclude_confined (o : Options) :
    (conclude o).Confined (fun c => c = .currentUrl ∨ c = .close)
      (fun _ => False) := by
  refine Confined.bind (Confined.tried (Or.inl rfl)) fun url => ?_
  exact Confined.bind trivial fun _ =>
    Confined.bind (Confined.tried (Or.inr rfl)) fun _ => trivial

theorem steps_course (b : Browser σ) (o : Options) (target : Option String)
    (steps : List Step) (start : Time) (s : σ) :
    (course b o target steps start s).steps =
      (drive o target steps).play b (some (start + o.sessionTimeout))
        start s := by
  unfold course
  dsimp only
  split
  · rfl
  · split <;> rfl

/-- What happens behind the steps of a session belongs to its conclusion. -/
theorem conclusion_course (b : Browser σ) (o : Options) (target : Option String)
    (steps : List Step) (start : Time) (s : σ) :
    ∀ x ∈ ((course b o target steps start s).conclusion.map Run.trace).getD [],
      x.Within (fun c => c = .currentUrl ∨ c = .close) (fun _ => False) := by
  unfold course
  dsimp only
  split
  · exact nofun
  · split
    · exact (conclude_confined o).play b none _ _
    · exact nofun

/-- **The report of a session is a true account of it.** Whatever the browser
does and whenever the time limit strikes, the calls of the session are those
that open it, then those of its legs, one leg after the other, and then those
that close it; and the report keeps its promises about these legs.
-/
theorem run_account (b : Browser σ) (o : Options) (target : Option String)
    (instructions : List Instruction) (start : Time) (s : σ) :
    let steps := instructions.map Step.ofInstruction
    let c := run b o target instructions start s
    let ls := legs b o target steps start s
    Account steps ls (c.report o instructions.length) ∧
      (∃ closing, c.trace =
          (openingRun b o target start s).trace ++
            ls.flatMap Leg.trace ++ closing ∧
        (∀ x ∈ (openingRun b o target start s).trace,
          x.Within (fun call => call = .launch ∨
            target.map Call.goto = some call) (· = .opened)) ∧
        ∀ x ∈ closing, x.Within (fun call => call = .currentUrl ∨ call = .close)
          (fun _ => False)) ∧
      (∀ l ∈ ls, ∀ x ∈ l.run.trace, x.Within OnPage IsCapture) ∧
      Chained b o (some (start + o.sessionTimeout)) target
        (openingRun b o target start s) ls := by
  intro steps c ls
  have hSteps : c.steps = (drive o target steps).play b
        (some (start + o.sessionTimeout)) start s :=
    steps_course b o target steps start s
  have hEnding : (c.report o instructions.length).error = none ↔
      ((drive o target steps).play b (some (start + o.sessionTimeout)) start
        s).ending = .done () := by
    rw [← hSteps]
    exact errorOf_eq_none
  refine ⟨?_, ⟨(c.conclusion.map Run.trace).getD [], ?_, ?_, ?_⟩, ?_, ?_⟩
  · refine (legs_shape b o target steps start s).account
      (legs_getElem? b o target steps start s)
      ?_ ?_ rfl ?_ hEnding
    · exact (List.length_map Step.ofInstruction).symm
    · rw [← recordsOf_legs, ← hSteps]
      rfl
    · exact Option.isNone_iff_eq_none.trans hEnding
  · show c.steps.trace ++ (c.conclusion.map Run.trace).getD [] = _
    rw [hSteps, trace_play_drive]
  · exact (opening_confined target).play b
      (some (start + o.sessionTimeout)) start s
  · exact conclusion_course b o target steps start s
  · exact legs_onPage b o target steps start s
  · exact legs_chained b o target steps start s

/-- The report of a session has an error exactly if there is no success. It
counts no more steps than there are, and with success all of them. -/
theorem report_counts (b : Browser σ) (o : Options) (target : Option String)
    (instructions : List Instruction) (start : Time) (s : σ) :
    let r := (run b o target instructions start s).report o instructions.length
    (r.success = true ↔ r.error = none) ∧
      r.stepsExecuted ≤ instructions.length ∧
      (r.success = true → r.stepsExecuted = instructions.length) := by
  intro r
  let steps := instructions.map Step.ofInstruction
  have hSteps := steps_course b o target steps start s
  have hShape := legs_shape b o target steps start s
  have hLength : steps.length = instructions.length :=
    List.length_map Step.ofInstruction
  have hExecuted : r.stepsExecuted =
      executed ((legs b o target steps start s).filterMap Leg.record?) := by
    rw [← recordsOf_legs, ← hSteps]
    rfl
  have hError : r.error = none ↔
      ((drive o target steps).play b (some (start + o.sessionTimeout)) start
        s).ending = .done () := by
    rw [← hSteps]
    exact errorOf_eq_none
  have hSuccess : r.success = true ↔ r.error = none := Option.isNone_iff_eq_none
  rw [hExecuted, ← hLength]
  refine ⟨hSuccess, ?_, fun h =>
    hShape.executed_of_done (hError.mp (hSuccess.mp h))⟩
  by_cases hEnd : r.error = none
  · exact Nat.le_of_eq (hShape.executed_of_done (hError.mp hEnd))
  · rw [hShape.executed_of_not_done fun h => hEnd (hError.mpr h)]
    exact Nat.le_trans (Nat.sub_le _ 1) hShape.length_le

end Errand.Session
