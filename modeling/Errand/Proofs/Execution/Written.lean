import Errand.Execution.Summary
import Errand.Proofs.Json.Faults
import Errand.Proofs.Json.Records

/-!
# Outcomes as text

The record of an execution is written over several lines for whoever writes the
answer, and read again by the rules that stand in for a model. This file proves
that reading gives back the outcome that was written, whatever texts its
evidence and its error hold, and that a summary does not confuse two requests.

The one condition is that the number of steps is a count of 64 bits, as every
count of steps is.

## Main results

* `reads_toJson`: an outcome is read from its own record.
* `ofText_pretty`: an outcome is read from the text of its record.
* `careful_decoder`: no outcome is read past a fault of the text.
* `summary_inj`: the summaries for two requests differ if the requests do.
-/

namespace Errand

theorem OperationKind.lookup_name (k : OperationKind) :
    names.lookup k.name = some k := by
  cases k <;> decide

theorem Source.lookup_name (s : Source) : names.lookup s.name = some s := by
  cases s <;> decide

namespace Outcome

open Json Json.Decoder

theorem reads_evidenceToJson (e : Evidence) (room : Nat) (inText : Bool) :
    evidenceDecoder.Reads ⟨room + 1, inText⟩ (evidenceToJson e) e :=
  .record "EvidenceItem" (.cons rfl (by decide) (.slot (.text e.title) _ _ _)
    (.cons rfl (by decide) (.slot (.text e.href) _ _ _)
    (.cons rfl (by decide) (.slot (.text e.body) _ _ _)
    (.nil (by simp [slot])))))

/-- **An outcome is read from its own record**, be it as a value or as a
text. -/
theorem reads_toJson {o : Outcome} (hSteps : o.steps ≤ maxCount) (room : Nat)
    (inText : Bool) : decoder.Reads ⟨room + 3, inText⟩ o.toJson o := by
  obtain ⟨success, evidence, kind, platform, steps, error, source⟩ := o
  have hEvidence : (list evidenceDecoder).Reads ⟨room + 2, inText⟩
      (.arr (evidence.map evidenceToJson)) (evidence.map id) :=
    .listOf fun e _ => reads_evidenceToJson e room inText
  rw [List.map_id] at hEvidence
  refine .record "ExecutionResult"
    (.cons rfl (by decide) (.slot (.bool success) _ _ _)
    (.cons rfl (by decide) (.slot hEvidence _ _ _)
    (.cons rfl (by decide)
      (.slot (.choice (OperationKind.lookup_name kind)) _ _ _)
    (.cons rfl (by decide) (.slot (.text platform) _ _ _)
    (.cons rfl (by decide) (.slot (.count hSteps "usize") _ _ _) ?_)))))
  have hError : ∀ e, (nullable text).Reads ⟨room + 2, inText⟩ (.str e)
        (some e) :=
    fun e => .nullable (by simp) (.text e)
  have hSource : ∀ s : Source,
      (nullable (choice Source.names)).Reads ⟨room + 2, inText⟩
      (.str s.name) (some s) := fun s =>
      .nullable (by simp) (.choice s.lookup_name)
  -- the last two fields are written only if they are there
  cases error with
  | none =>
      cases source with
      | none => exact .nil (by simp [slot])
      | some s =>
          exact .cons rfl (by decide) (.slot (hSource s) _ _ _)
            (.nil (by simp [slot]))
  | some e =>
      cases source with
      | none =>
          exact .cons rfl (by decide) (.slot (hError e) _ _ _)
            (.nil (by simp [slot]))
      | some s =>
          exact .cons rfl (by decide) (.slot (hError e) _ _ _)
            (.cons rfl (by decide) (.slot (hSource s) _ _ _)
              (.nil (by simp [slot])))

/-- The one number in the record is a count of 64 bits. -/
theorem isExact_toJson {o : Outcome} (hSteps : o.steps ≤ maxCount) :
    o.toJson.all isExact = true := by
  obtain ⟨success, evidence, kind, platform, steps, error, source⟩ := o
  have hEvidence : all isExact (.arr (evidence.map evidenceToJson)) = true :=
    all_arr.mpr ⟨rfl, allItems_iff.mpr (List.forall_mem_map.mpr fun _ _ => rfl)⟩
  have hCount : all isExact (Json.ofNat steps) = true := by
    simp only [Json.ofNat, all, isExact, isWhole, isBounded, Bool.true_and,
      Bool.and_eq_true, decide_eq_true_eq]
    change steps ≤ maxCount at hSteps
    omega
  have hText : ∀ s, all isExact (.str s) = true := fun _ => rfl
  refine all_obj.mpr ⟨rfl, ?_⟩
  cases error <;> cases source <;>
    simp only [Option.map_none, Option.map_some, Option.toList_none,
      Option.toList_some, List.append_nil, List.cons_append, List.nil_append,
      allFields, hEvidence, hText, hCount, Bool.and_self, Bool.and_true] <;> rfl

/-- **An outcome is read from the text of its record**, whatever it holds. -/
theorem ofText_pretty {o : Outcome} (hSteps : o.steps ≤ maxCount) :
    decoder.ofText o.toJson.pretty = .ok o := by
  -- a text has room for 127 levels, and a record takes three of them
  refine (reads_toJson hSteps 124 true).ofText ?_
  rw [pretty, String.toList_ofList,
    events_renderIndented (isExact_toJson hSteps)]

/-- An outcome is read without stepping over a fault. -/
theorem careful_decoder : decoder.Careful := by
  have hEvidence : evidenceDecoder.Careful := by
    refine .record ?_ "EvidenceItem" _
    simp only [List.forall_mem_cons]
    exact ⟨.slot .text _ _ _, .slot .text _ _ _, .slot .text _ _ _, nofun⟩
  refine .record ?_ "ExecutionResult" _
  simp only [List.forall_mem_cons]
  exact ⟨.slot .bool _ _ _, .slot (.list hEvidence) _ _ _,
    .slot (.choice _) _ _ _, .slot .text _ _ _, .slot (.count _) _ _ _,
    .slot (.nullable .text) _ _ _, .slot (.nullable (.choice _)) _ _ _, nofun⟩

/-! ## Summaries -/

/-- **The summaries for two requests differ if the requests do.** -/
theorem summary_inj {o : Outcome} {request request' : String}
    (h : o.summary request = o.summary request') : request = request' := by
  have hFirst : ∀ {first first' : String} (rest : List String),
      "\n".intercalate (first :: rest) = "\n".intercalate (first' :: rest) →
      first = first' := by
    intro first first' rest hLines
    cases rest with
    | nil => simpa using hLines
    | cons second rest =>
        rw [String.intercalate_cons_cons,
          String.intercalate_cons_cons] at hLines
        simpa [String.append_assoc] using hLines
  have hLine := hFirst _ h
  simpa using hLine

end Outcome

end Errand
