import Errand.Planner
import Errand.Platform.Builtin
import Errand.Proofs.Execution.Written
import Errand.Proofs.Json.Faults
import Errand.Proofs.Query.Line
import Errand.Proofs.Text.Occurrence

/-!
# The rules in place of an answering model

The message that asks for an answer holds the request and, behind a label, the
record of the execution. The rules cut both out of it again and answer with the
summary of the record.

The request is cut out between its own label and the label of the record with a
blank line in front of it. A query is one line, so this is always the request,
without its outer blanks. The record however is what stands behind the first
occurrence of its label. So it is the record exactly if the label does not
occur in the query; otherwise what is read begins in the middle of the query,
and is no record.

## Main results

* `completeAnswer_answerMessage`: the answer to a request of one line without
  the label.
* `completeAnswer_of_label`: there is no answer to a request with the label.
* `complete_answerMessage`: both for queries, and when the answer is the
  summary for the query itself.
-/

namespace Errand.Rules

open Prompt

variable {request : String} {o : Outcome}

/-! ## The parts of the message -/

/-- The label of the record with a blank line in front of it. -/
theorem toList_blankLine :
    ("\n\n" ++ recordLabel).toList = '\n' :: '\n' :: recordLabel.toList := by
  decide

/-- The message in the order of its parts. -/
theorem toList_answerMessage (request record : String) :
    (answerMessage request record).toList =
      requestLabel.toList ++ (' ' :: request.toList ++
        '\n' :: '\n' :: (recordLabel.toList ++ '\n' :: record.toList)) := by
  simp only [answerMessage, String.toList_append, List.append_assoc]
  rfl

/-- The request is cut out of the message, if it is one line. -/
theorem request_in_answerMessage (hLine : '\n' ∉ request.toList)
    (record : String) :
    (after? requestLabel (answerMessage request record).toList).map
      (upTo ("\n\n" ++ recordLabel)) =
      some (' ' :: request.toList) := by
  have hBefore : '\n' ∉ ' ' :: request.toList :=
    List.not_mem_cons_of_ne_of_not_mem (by decide) hLine
  have hCut :=
    Chars.breakAt?_of_head_not_mem hBefore ('\n' :: recordLabel.toList)
    (('\n' :: '\n' :: recordLabel.toList) ++ '\n' :: record.toList)
  rw [Chars.breakAt?_self] at hCut
  rw [toList_answerMessage, after?, Chars.breakAt?_self]
  show some (upTo _ (' ' :: request.toList ++
    (('\n' :: '\n' :: recordLabel.toList) ++ '\n' :: record.toList))) = _
  rw [upTo, toList_blankLine, hCut]
  simp

/-- The label of the record does not begin in the label of the request. -/
theorem contains_recordLabel (request : String) :
    Chars.contains recordLabel.toList
      (requestLabel.toList ++ ' ' :: request.toList) =
      Text.contains recordLabel request := by
  have hRecord : recordLabel.toList =
        'E' :: 'X' :: (recordLabel.toList.drop 2) := by decide
  have hRequest : requestLabel.toList =
        ['R', 'E', 'Q', 'U', 'E', 'S', 'T', ':'] := by decide
  rw [Bool.eq_iff_iff, Text.contains, Chars.contains_iff, Chars.contains_iff,
    hRecord, hRequest]
  simp [List.infix_cons_iff, List.cons_prefix_cons]

/-- The record is cut out of the message, if its label does not occur in the
request. Neither label has a line break in it, so the blank line separates the
request from the label of the record. -/
theorem record_in_answerMessage
    (hLabel : Text.contains recordLabel request = false) (record : String) :
    after? recordLabel (answerMessage request record).toList =
      some ('\n' :: record.toList) := by
  have hBreak : '\n' ∉ recordLabel.toList := by decide
  -- each of the two line breaks is passed over in turn, the second with
  -- nothing in front of it
  have hRequest :=
    Chars.breakAt?_of_separator
      ((contains_recordLabel request).trans hLabel) hBreak
    ('\n' :: (recordLabel.toList ++ '\n' :: record.toList))
  have hLine : Chars.breakAt? recordLabel.toList
      ([] ++ '\n' :: (recordLabel.toList ++ '\n' :: record.toList)) = _ :=
    Chars.breakAt?_of_separator (by decide) hBreak _
  rw [List.nil_append, Chars.breakAt?_self] at hLine
  rw [hLine] at hRequest
  rw [toList_answerMessage, ← List.append_assoc, after?, hRequest]
  rfl

/-! ## The answer -/

theorem trim_pretty (o : Outcome) :
    Chars.trim ('\n' :: (recordOf o).toList) = (recordOf o).toList := by
  obtain ⟨middle, hMiddle⟩ :=
    Json.exists_renderIndented_obj 0 (o.toJson.fields?.getD [])
  have hText : (recordOf o).toList = '\x7b' :: (middle ++ ['\x7d']) := by
    rw [← hMiddle, recordOf, Json.pretty, String.toList_ofList]
    rfl
  rw [Chars.trim_cons_of_isBlank (by decide), hText]
  exact Chars.trim_of_ends (by decide) (by decide) middle

/-- The rules answer with the summary for the trimmed request, if the request
is one line and does not hold the label of the record. -/
theorem completeAnswer_answerMessage (hLine : '\n' ∉ request.toList)
    (hLabel : Text.contains recordLabel request = false)
    (hSteps : o.steps ≤ maxCount) :
    completeAnswer (answerMessage request (recordOf o)) =
      .ok (o.summary (Text.trim request)) := by
  unfold completeAnswer
  dsimp only
  rw [request_in_answerMessage hLine, record_in_answerMessage hLabel,
    Option.getD_some, Option.getD_some, trim_pretty, String.ofList_toList,
    recordOf, Outcome.ofText_pretty hSteps,
    Chars.trim_cons_of_isBlank (by decide)]
  rfl

/-! ## A request with the label of the record -/

theorem beginsNoToken_label : Json.BeginsNoToken 'E' := ⟨rfl, fun _ => rfl⟩

/-- Behind a blank line, the label of the record breaks a text, also if the
text is trimmed. -/
theorem isBrokenText_trim (front rest : List Char) :
    Json.IsBrokenText (Chars.trim (front ++ '\n' :: '\n' :: 'E' :: rest)) := by
  have hSolid : Chars.isBlank 'E' = false := by decide
  unfold Chars.trim Chars.trimStart
  rw [List.dropWhile_append]
  split
  -- if there are only blanks in front, they are trimmed together with the
  -- blank line
  · rw [List.dropWhile_cons_of_pos (by decide),
      List.dropWhile_cons_of_pos (by decide),
      List.dropWhile_cons_of_neg (by decide), Chars.trimEnd_cons hSolid]
    exact Json.isBrokenText_of_head beginsNoToken_label _
  · rw [List.append_cons, List.append_cons, Chars.trimEnd_append_cons hSolid,
      List.append_assoc]
    exact Json.isBrokenText_of_line beginsNoToken_label _ _

/-- If the label of the record occurs in the request, no record is read,
whatever it is. -/
theorem completeAnswer_of_label
    (hLabel : Text.contains recordLabel request = true) (record : String) :
    ∃ e, completeAnswer (answerMessage request record) = .error e := by
  obtain ⟨⟨before, behind⟩, hBreak⟩ :=
    Option.isSome_iff_exists.mp ((contains_recordLabel request).trans hLabel)
  have hMessage := Chars.breakAt?_append hBreak
    ('\n' :: '\n' :: (recordLabel.toList ++ '\n' :: record.toList))
  have hHead : recordLabel.toList = 'E' :: recordLabel.toList.drop 1 := by
    decide
  have hRecord : after? recordLabel (answerMessage request record).toList =
      some (behind ++ '\n' :: '\n' :: 'E' ::
        (recordLabel.toList.drop 1 ++ '\n' :: record.toList)) := by
    rw [toList_answerMessage, ← List.append_assoc, after?, hMessage]
    rfl
  have hBroken :=
    isBrokenText_trim behind (recordLabel.toList.drop 1 ++ '\n' ::
        record.toList)
  rw [← String.toList_ofList (l := Chars.trim _)] at hBroken
  obtain ⟨e, hError⟩ :=
    Json.Decoder.Careful.ofText Outcome.careful_decoder hBroken
  refine ⟨e, ?_⟩
  unfold completeAnswer
  dsimp only
  rw [hRecord, Option.getD_some, hError]
  rfl

/-! ## Summaries by message -/

theorem complete_answering (d : Directory) (message : String) :
    complete d answering message = completeAnswer message := if_neg (by decide)

/-- **The rules answer a query with the summary of the outcome, or not at
all.** They do so exactly if the label of the record does not occur in the
query; if it does, they find no record behind it. The summary is for the query
without its outer blanks, which is the query itself, unless control characters
stood in the request. -/
theorem complete_answerMessage {raw : String} {limit : Nat} {q : Query}
    (hClean : Query.clean raw limit = .ok q) (hSteps : o.steps ≤ maxCount)
    (d : Directory) :
    let answer := complete d answering (answerMessage q.text (recordOf o))
    (Text.contains recordLabel q.text = false →
        answer = .ok (o.summary (Text.trim q.text))) ∧
      (Text.contains recordLabel q.text = true → ∃ e, answer = .error e) ∧
      (answer = .ok (o.summary q.text) ↔
        Text.contains recordLabel q.text = false ∧ Text.trim q.text = q.text) ∧
      ((∀ c ∈ raw.toList, Query.isControl c = true → Chars.isBlank c = true) →
        Text.trim q.text = q.text) := by
  intro answer
  have hLine : '\n' ∉ q.text.toList := fun hMem =>
    absurd (Query.isControl_of_clean hClean '\n' hMem) (by decide)
  have hAnswer : answer = completeAnswer (answerMessage q.text (recordOf o)) :=
    complete_answering d _
  have hFound : Text.contains recordLabel q.text = false →
      answer = .ok (o.summary (Text.trim q.text)) := fun hLabel =>
    hAnswer.trans (completeAnswer_answerMessage hLine hLabel hSteps)
  have hLost : Text.contains recordLabel q.text = true →
      ∃ e, answer = .error e := fun hLabel => by
    rw [hAnswer]
    exact completeAnswer_of_label hLabel _
  refine ⟨hFound, hLost, ⟨fun h => ?_, fun ⟨hLabel, hTrimmed⟩ => ?_⟩,
    Query.trim_of_clean hClean⟩
  · cases hLabel : Text.contains recordLabel q.text with
    | false =>
        rw [hFound hLabel] at h
        exact ⟨rfl, Outcome.summary_inj (Except.ok.inj h)⟩
    | true =>
        obtain ⟨e, hError⟩ := hLost hLabel
        cases hError.symm.trans h
  · rw [hFound hLabel, hTrimmed]

/-- A query with quotes, and a record whose evidence holds the label of the
record and a line break. -/
theorem complete_answerMessage_quoted :
    let o : Outcome :=
      ⟨true, [⟨"EXECUTION RECORD:\n\x7b", "", "\\"⟩], .search, "browser", 2,
        none, none⟩
    let query := "find \"tea\" REQUEST:"
    (Query.clean query 200 = .ok ⟨query⟩ ∧ o.steps ≤ maxCount ∧
        Text.contains recordLabel query = false) ∧
      complete .builtin answering (answerMessage query (recordOf o)) =
        .ok ("Completed search on browser for \"find \"tea\" REQUEST:\".\n" ++
          "- EXECUTION RECORD:\n\x7b") := by
  intro o query
  have hClean : Query.clean query 200 = .ok ⟨query⟩ :=
    Query.clean_eq_ok_iff.mpr ⟨by decide +kernel, by decide +kernel,
      by decide +kernel⟩
  have hSteps : o.steps ≤ maxCount := by decide
  have hLabel : Text.contains recordLabel query = false := by decide +kernel
  obtain ⟨hFound, -, -, -⟩ := complete_answerMessage hClean hSteps .builtin
  refine ⟨⟨hClean, hSteps, hLabel⟩, (hFound hLabel).trans ?_⟩
  exact congrArg Except.ok (by decide +kernel)

/-- Two queries that are accepted and not answered with their summaries: one
holds the label of the record, and one is left with a space in front by a
control character. -/
theorem complete_loses_record :
    let o : Outcome := ⟨true, [], .answer, "browser", 0, none, none⟩
    (Query.clean "EXECUTION RECORD: x" 200 = .ok ⟨"EXECUTION RECORD: x"⟩ ∧
        ∃ e, complete .builtin answering
          (answerMessage "EXECUTION RECORD: x" (recordOf o)) =
          .error e) ∧
      Query.clean "\x01 b" 200 = .ok ⟨" b"⟩ ∧
      complete .builtin answering (answerMessage " b" (recordOf o)) =
        .ok (o.summary "b") ∧
      o.summary "b" ≠ o.summary " b" := by
  intro o
  refine ⟨⟨?_, ?_⟩, ?_, ?_, by decide +kernel⟩
  · exact Query.clean_eq_ok_iff.mpr ⟨by decide +kernel, by decide +kernel,
      by decide +kernel⟩
  · rw [complete_answering]
    exact completeAnswer_of_label (by decide +kernel) _
  · exact Query.clean_eq_ok_iff.mpr ⟨by decide +kernel, by decide +kernel,
      by decide +kernel⟩
  · rw [complete_answering]
    exact completeAnswer_answerMessage (by decide +kernel) (by decide +kernel)
      (by decide)

end Errand.Rules
