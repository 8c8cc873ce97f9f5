import Errand.Agent

/-!
# The console

The program reads requests from its input, one on a line, and writes the
response to each. A blank line is passed over, and a word of farewell ends the
conversation. `Console.step` handles one line; `Console.transcript` is
everything that a whole input leads to.
-/

namespace Errand.Console

/-- What the program says when it starts. -/
def banner : String :=
  "\n".intercalate [
    "🤖 Local Web Agent Started!",
    "--------------------------------------------------",
    "Type a request, e.g. 'search iPhone 15 on Taobao'. 'quit' to exit.",
    "--------------------------------------------------",
    ""]

/-- What stands in front of the place for a request. -/
def prompt : String := "> "

/-- What is said of a failure that keeps the program from starting. -/
def complaint (f : Failure) : String := "❌ " ++ f.message ++ "\n"

/-- The exit code of a program that could not start. -/
def failedToStart : Nat := 2

/-- What a line of input asks for. -/
inductive Input where
  | nothing
  | leave
  | request (text : String)
deriving DecidableEq, Repr

/-- The meaning of a line. -/
def Input.ofLine (line : String) : Input :=
  let text := Text.trim line
  if text.isEmpty then .nothing
  else if text = "quit" ∨ text = "exit" then .leave
  else .request text

/-- The lines of an input; what follows the last line break counts as a line
unless it is empty. -/
def lines (input : String) : List String :=
  let pieces := (Chars.splitOn ['\n'] input.toList).map String.ofList
  match pieces.getLast? with
  | some "" => pieces.dropLast
  | _ => pieces

/-- How things stand between two lines. -/
structure State (σ : Type) where
  gate : Gate
  now : Time
  world : σ

/-- What is written about some responses. -/
def written (stamp : Stamp) (rs : List Response) : String :=
  String.join (rs.map fun r => (r.toJson stamp).pretty ++ "\n")

/-- What is written about a line, and how things stand then; none if the
conversation is over. The gate's clock shows `gateClock t` at time `t`. -/
def step {σ : Type} (a : Agent) (p : Partner Consultation.Answer σ)
    (gateClock : Time → Time) (stamp : Stamp) (line : String) (st : State σ) :
    Option (String × State σ) :=
  match Input.ofLine line with
  | .leave => none
  | .nothing => some (prompt, st)
  | .request text =>
    let h := a.handleAll p gateClock [text] st.gate st.now st.world
    some (written stamp h.responses ++ prompt, ⟨h.gate, h.now, h.state⟩)

/-- What is written about some lines, and how things stand in the end. -/
def transcriptFrom {σ : Type} (a : Agent) (p : Partner Consultation.Answer σ)
    (gateClock : Time → Time) (stamp : Stamp) : List String → State σ →
    String × State σ
  | [], st => ("", st)
  | line :: rest, st =>
    match step a p gateClock stamp line st with
    | none => ("", st)
    | some (text, st) =>
      let (more, st) := transcriptFrom a p gateClock stamp rest st
      (text ++ more, st)

/-- Everything that is written about an input. -/
def transcript {σ : Type} (a : Agent) (p : Partner Consultation.Answer σ)
    (gateClock : Time → Time) (stamp : Stamp) (input : String) (st : State σ) :
    String × State σ :=
  let (text, st) := transcriptFrom a p gateClock stamp (lines input) st
  (banner ++ prompt ++ text, st)

end Errand.Console
