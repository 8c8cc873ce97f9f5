import Errand.Session.Performance

/-!
# Sessions and their reports

`Session.run` carries out a list of instructions in one browser session. The
steps run under the session's time limit. Whatever ends them, the browser is
closed again if it was there; the time limit does not apply to that.

The `Report` says what came of it. It is read off the trace of the steps: the
records and screenshots are those logged, and the steps executed are the
records of steps that did not fail.
-/

namespace Errand.Session

/-- What came of a session. -/
structure Report where
  success : Bool
  stepsExecuted : Nat
  totalSteps : Nat
  error : Option String
  finalUrl : Option String
  records : List Record
  screenshots : List String
deriving DecidableEq, Repr

/-- The record is of a step that failed and ended the session. -/
def Record.isFailed (r : Record) : Bool :=
  match r.result with
  | .failed _ => true
  | _ => false

/-- The record on one line; steps are counted from one. -/
def Record.line (r : Record) : String :=
  Decimal.text (r.index + 1) ++ ". " ++ r.description ++ " -> " ++
    match r.result with
    | .done note => note
    | .skipped reason => "skipped (" ++ reason ++ ")"
    | .failed reason => "FAILED (" ++ reason ++ ")"

/-- The records on one line each. -/
def transcript (records : List Record) : String :=
  "\n".intercalate (records.map Record.line)

/-- The records among the entries. -/
def recordsOf (entries : List Entry) : List Record :=
  entries.filterMap fun
    | .ended r => some r
    | _ => none

/-- The screenshots among the entries. -/
def screenshotsOf (entries : List Entry) : List String :=
  entries.filterMap fun
    | .captured path => some path
    | _ => none

/-- The number of steps that came to an end without ending the session. -/
def executed (records : List Record) : Nat :=
  (records.filter fun r => !r.isFailed).length

/-- The error that the end of the steps amounts to; `steps` of `total` were
executed. -/
def errorOf (o : Options) (steps total : Nat) : Ending Unit → Option String
  | .done () => none
  | .failed t => some t.full
  | .cutOff =>
  some ("automation timed out after " ++
    Duration.text o.sessionTimeout ++ " (" ++
      Decimal.text steps ++ " of " ++ Decimal.text total ++ " steps done)")
  | .breakdown => some "the browser broke down"

/-- The report on steps that ended so and left these entries. -/
def reportOf (o : Options) (total : Nat) (ending : Ending Unit)
    (entries : List Entry) (finalUrl : Option String) : Report :=
  let records := recordsOf entries
  let error := errorOf o (executed records) total ending
  ⟨error.isNone, executed records, total, error, finalUrl, records,
    screenshotsOf entries⟩

/-- The whole course of a session: the run of its steps, and that of its
conclusion if the browser was there. -/
structure Course (σ : Type) where
  steps : Run Call σ Entry Unit
  conclusion : Option (Run Call σ Entry (Option String))

namespace Course

variable {σ : Type}

/-- The time at the end. -/
def now (c : Course σ) : Time := (c.conclusion.map Run.now).getD c.steps.now

/-- The browser's state at the end. -/
def state (c : Course σ) : σ := (c.conclusion.map Run.state).getD c.steps.state

/-- Everything that happened, in order. -/
def trace (c : Course σ) : List (Happening Call Entry) :=
  c.steps.trace ++ ((c.conclusion.map Run.trace).getD [])

/-- The browser broke down on the way. -/
def brokeDown (c : Course σ) : Bool :=
  (match c.steps.ending with
    | .breakdown => true
    | _ => false) ||
  (match c.conclusion.map Run.ending with
    | some .breakdown => true
    | _ => false)

/-- The last address of the session. -/
def finalUrl (c : Course σ) : Option String :=
  match c.conclusion.map Run.ending with
  | some (.done url) => url
  | _ => none

/-- The report on a session of `total` steps. -/
def report (o : Options) (total : Nat) (c : Course σ) : Report :=
  reportOf o total c.steps.ending c.steps.entries c.finalUrl

end Course

/-- The course of a session with these steps, started at a time with the
browser in a state. -/
def course {σ : Type} (b : Browser σ) (o : Options) (target : Option String)
    (steps : List Step) (start : Time) (s : σ) : Course σ :=
  let driven :=
    (drive o target steps).play b (some (start + o.sessionTimeout)) start s
  match driven.ending with
  | .breakdown => ⟨driven, none⟩
  | _ =>
    if Entry.opened ∈ driven.entries then
      ⟨driven, some ((conclude o).play b none driven.now driven.state)⟩
    else ⟨driven, none⟩

/-- The course of a session that carries out instructions. -/
def run {σ : Type} (b : Browser σ) (o : Options) (target : Option String)
    (instructions : List Instruction) (start : Time) (s : σ) : Course σ :=
  course b o target (instructions.map Step.ofInstruction) start s

end Errand.Session
