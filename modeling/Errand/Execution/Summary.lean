import Errand.Execution.Outcome

/-!
# Summaries

What the user is told when no language model writes the answer: one line on
what happened, up to five lines of evidence, how much more there is, and what
went wrong.
-/

namespace Errand.Outcome

/-- How many pieces of evidence a summary shows. -/
def shownEvidence : Nat := 5

/-- A piece of evidence on one line, with its address if it has one. -/
def evidenceLine (e : Evidence) : String :=
  if e.href.isEmpty then "- " ++ e.title
  else "- " ++ e.title ++ " (" ++ e.href ++ ")"

/-- The lines of the summary. -/
def summaryLines (request : String) (o : Outcome) : List String :=
  let opening := if o.success then "Completed" else "Could not complete"
  let more := o.evidence.length - shownEvidence
  (opening ++ " " ++ o.kind.name ++ " on " ++ o.platform ++ " for \"" ++
      request ++ "\".") ::
    (o.evidence.take shownEvidence).map evidenceLine ++
    (if 0 < more then ["…and " ++ Decimal.text more ++ " more."] else []) ++
    (o.error.map fun e => "Problem: " ++ e).toList

/-- The summary of an outcome. -/
def summary (request : String) (o : Outcome) : String :=
  "\n".intercalate (summaryLines request o)

end Errand.Outcome
