/-!
# Failures

Two ways to say that something went wrong. A `Failure` is what ends an
operation as a whole: its kind and its detail. A `Trouble` is what a
collaborator reports: a message and, behind it, the messages of what led to it,
outermost first.
-/

namespace Errand

/-- What kind of thing went wrong. -/
inductive Failure.Kind where
  | io
  | validation
  | config
  | planning
  | execution
  | timeout
  | browser
  | service
  | model
deriving DecidableEq, Repr

/-- The end of an operation: what kind of thing went wrong, and the detail. -/
structure Failure where
  kind : Failure.Kind
  detail : String
deriving DecidableEq, Repr

namespace Failure

/-- The words in front of the detail. -/
def Kind.heading : Kind → String
  | .io => "IO error"
  | .validation => "Invalid query"
  | .config => "Configuration error"
  | .planning => "Planning error"
  | .execution => "Execution error"
  | .timeout => "Timeout"
  | .browser => "Browser error"
  | .service => "Action service error"
  | .model => "LLM Gateway error"

/-- The failure in words. -/
def message (f : Failure) : String := f.kind.heading ++ ": " ++ f.detail

/-- A request that cannot be understood or a program that is not set up ends
the call; every other failure is answered with less. -/
def isTerminal (f : Failure) : Bool := f.kind = .validation || f.kind = .config

end Failure

/-- Why a step failed: the message that names the step, and the messages of
what led to it. -/
structure Trouble where
  message : String
  causes : List String
deriving DecidableEq, Repr

namespace Trouble

/-- Trouble with no cause behind it. -/
def plain (message : String) : Trouble := ⟨message, []⟩

/-- The trouble as the cause of a larger one. -/
def within (t : Trouble) (message : String) : Trouble :=
  ⟨message, t.message :: t.causes⟩

/-- All messages, outermost first. -/
def full (t : Trouble) : String := ": ".intercalate (t.message :: t.causes)

end Trouble

end Errand
