import Errand.Duration
import Errand.Failure

/-!
# Dialogues

A part of the program talks to what is outside of it in questions. A family `A`
says of every question what it is answered with, so one type of questions is
one kind of collaborator: a browser, the tools for the web, a service, a
language model.

What such a part does is a `Dialogue A ε α`: a tree of questions, pauses, looks
at the clock and entries into a log of type `ε`, in which everything that comes
after a question depends on its answer. A dialogue is plain data. It ends with
a value or with trouble; `bind` goes on after a value and `attempt` turns
trouble into a value.

A `Partner A σ` answers the questions. It has a state, may let time pass, and
ends every question with an answer, with trouble, or by breaking down.
`Dialogue.play` carries a dialogue out with a partner. It yields a `Run`: how
the dialogue ended, the time and the partner's state at that point, and the
trace of all questions and entries in order. A deadline ends it at the first
wait that would go beyond, be it a pause or part of an answer; everything that
happened before stays in the trace.

`Partner.through` makes a partner of dialogues: it answers each question by a
dialogue with another partner. So every level of the program is a family of
questions, answered by the level below.
-/

namespace Errand

/-! ### Partners -/

/-- How a question ends. -/
inductive Reply (α : Type) where
  | answer (result : Except Trouble α)
  /-- The partner broke down and says nothing more. -/
  | breakdown

/-- A partner dealing with a question. -/
inductive Act (σ α : Type) where
  | finish (reply : Reply α) (state : σ)
  /-- Time passes; the partner is in `state` if nobody waits for what comes
  next. -/
  | wait (state : σ) (d : Duration) (next : Act σ α)

/-- How a partner deals with a question, given the time and its state. -/
structure Partner {Q : Type} (A : Q → Type) (σ : Type) where
  perform : (q : Q) → Time → σ → Act σ (A q)

/-- The time lies behind the deadline. -/
def isPast (deadline : Option Time) (t : Time) : Bool := deadline.any (· < t)

/-- Where an act ended: the reply, none if it was broken off, and the time and
state at that point. -/
structure Settled (σ α : Type) where
  reply : Option (Reply α)
  now : Time
  state : σ

namespace Act

variable {σ τ α : Type}

/-- The act until its end, or until the deadline: a wait that ends exactly at
the deadline is still waited for, one that would end later is broken off at the
deadline. -/
def settle (deadline : Option Time) (now : Time) : Act σ α → Settled σ α
  | .finish reply s => ⟨some reply, now, s⟩
  | .wait s d next =>
    if isPast deadline (now + d) then ⟨none, deadline.getD now, s⟩
    else next.settle deadline (now + d)

/-- Without a deadline no act is broken off. -/
theorem exists_settle_none (act : Act σ α) (now : Time) :
    ∃ reply now' s', act.settle none now = ⟨some reply, now', s'⟩ := by
  induction act generalizing now with
  | finish reply s => exact ⟨reply, now, s, rfl⟩
  | wait s d next ih => exact ih (now + d)

/-- The act with its states seen as parts of larger ones. -/
def mapState (f : σ → τ) : Act σ α → Act τ α
  | .finish reply s => .finish reply (f s)
  | .wait s d next => .wait (f s) d (next.mapState f)

end Act

/-! ### Dialogues -/

/-- A dialogue that ends with an `α`. -/
inductive Dialogue {Q : Type} (A : Q → Type) (ε α : Type) where
  | done (a : α)
  | fail (t : Trouble)
  | ask (q : Q) (next : Except Trouble (A q) → Dialogue A ε α)
  | pause (d : Duration) (next : Dialogue A ε α)
  /-- Looks at the clock. -/
  | clock (next : Time → Dialogue A ε α)
  /-- Makes an entry into the log. -/
  | note (e : ε) (next : Dialogue A ε α)

namespace Dialogue

variable {Q : Type} {A : Q → Type} {ε α β : Type}

/-- Goes on with the value of a dialogue. -/
def bind (d : Dialogue A ε α) (k : α → Dialogue A ε β) : Dialogue A ε β :=
  match d with
  | .done a => k a
  | .fail t => .fail t
  | .ask q next => .ask q fun r => (next r).bind k
  | .pause t next => .pause t (next.bind k)
  | .clock next => .clock fun t => (next t).bind k
  | .note e next => .note e (next.bind k)

/-- Goes on after a dialogue in either case. -/
def attempt (d : Dialogue A ε α) : Dialogue A ε (Except Trouble α) :=
  match d with
  | .done a => .done (.ok a)
  | .fail t => .done (.error t)
  | .ask q next => .ask q fun r => (next r).attempt
  | .pause t next => .pause t next.attempt
  | .clock next => .clock fun t => (next t).attempt
  | .note e next => .note e next.attempt

instance : Monad (Dialogue A ε) where
  pure := .done
  bind := bind

/-- A question whose trouble is the trouble of the dialogue. -/
def question (q : Q) : Dialogue A ε (A q) :=
  .ask q fun
    | .ok a => .done a
    | .error t => .fail t

/-- A question in either case. -/
def tried (q : Q) : Dialogue A ε (Except Trouble (A q)) := .ask q .done

/-- Time passes. -/
def rest (d : Duration) : Dialogue A ε Unit := .pause d (.done ())

/-- An entry into the log. -/
def enter (e : ε) : Dialogue A ε Unit := .note e (.done ())

@[simp] theorem bind_done (a : α) (k : α → Dialogue A ε β) :
    (Dialogue.done a : Dialogue A ε α).bind k = k a := rfl

@[simp] theorem bind_fail (t : Trouble) (k : α → Dialogue A ε β) :
    (Dialogue.fail t : Dialogue A ε α).bind k = .fail t := rfl

theorem bind_assoc {γ : Type} (d : Dialogue A ε α) (k : α → Dialogue A ε β)
    (m : β → Dialogue A ε γ) : (d.bind k).bind m = d.bind fun a =>
      (k a).bind m := by
  induction d with
  | done a => rfl
  | fail t => rfl
  | ask q next ih => simp only [bind, ih]
  | pause t next ih => simp only [bind, ih]
  | clock next ih => simp only [bind, ih]
  | note e next ih => simp only [bind, ih]

end Dialogue

/-! ### Playing a dialogue -/

/-- How a dialogue ended. -/
inductive Ending (α : Type) where
  | done (a : α)
  | failed (t : Trouble)
  /-- The deadline would have been passed. -/
  | cutOff
  /-- The partner broke down. -/
  | breakdown
deriving DecidableEq, Repr

/-- Something that happened in the course of a dialogue. -/
inductive Happening (Q ε : Type) where
  | asked (at_ : Time) (q : Q)
  | noted (e : ε)
deriving DecidableEq, Repr

/-- The course of a dialogue. -/
structure Run (Q σ ε α : Type) where
  ending : Ending α
  now : Time
  state : σ
  trace : List (Happening Q ε)

namespace Run

variable {Q σ ε α : Type}

/-- The run with something that happened before it. -/
def after (h : Happening Q ε) (r : Run Q σ ε α) : Run Q σ ε α :=
  { r with trace := h :: r.trace }

/-- The entries of the run, in order. -/
def entries (r : Run Q σ ε α) : List ε :=
  r.trace.filterMap fun
    | .noted e => some e
    | .asked _ _ => none

/-- The questions of the run, in order, each with its time. -/
def questions (r : Run Q σ ε α) : List (Time × Q) :=
  r.trace.filterMap fun
    | .asked t q => some (t, q)
    | .noted _ => none

/-- The reply that the run amounts to. -/
def reply (r : Run Q σ ε α) : Reply α :=
  match r.ending with
  | .done a => .answer (.ok a)
  | .failed t => .answer (.error t)
  | .cutOff | .breakdown => .breakdown

/-- The run, begun at `start`, as one act. -/
def act (start : Time) (r : Run Q σ ε α) : Act σ α :=
  .wait r.state (r.now - start) (.finish r.reply r.state)

end Run

/-- The dialogue carried out with a partner, up to a deadline if there is
one. -/
def Dialogue.play {Q σ ε α : Type} {A : Q → Type} (p : Partner A σ)
    (deadline : Option Time) :
    Dialogue A ε α → Time → σ → Run Q σ ε α
  | .done a, now, s => ⟨.done a, now, s, []⟩
  | .fail t, now, s => ⟨.failed t, now, s, []⟩
  | .ask q next, now, s =>
    match (p.perform q now s).settle deadline now with
    | ⟨none, now', s'⟩ => ⟨.cutOff, now', s', [.asked now q]⟩
    | ⟨some .breakdown, now', s'⟩ => ⟨.breakdown, now', s', [.asked now q]⟩
    | ⟨some (.answer r), now', s'⟩ =>
      ((next r).play p deadline now' s').after (.asked now q)
  | .pause d next, now, s =>
    if isPast deadline (now + d) then ⟨.cutOff, deadline.getD now, s, []⟩
    else next.play p deadline (now + d) s
  | .clock next, now, s => (next now).play p deadline now s
  | .note e next, now, s => (next.play p deadline now s).after (.noted e)

namespace Partner

variable {Q R σ τ ε : Type} {A : Q → Type} {B : R → Type}

/-- The partner that answers every question by a dialogue with another one. -/
def through (p : Partner B σ) (answer : (q : Q) → Dialogue B ε (A q)) :
    Partner A σ where
  perform q now s := ((answer q).play p none now s).act now

/-- The partner as a part of a larger state. -/
def within (p : Partner A σ) (get : τ → σ) (set : σ → τ → τ) : Partner A τ where
  perform q now t := (p.perform q now (get t)).mapState fun s => set s t

/-- The partner together with a list of the questions it was asked, each with
its time. -/
def recorded (p : Partner A σ) : Partner A (σ × List (Time × Q)) where
  perform q now s := (p.perform q now s.1).mapState fun s' =>
    (s', s.2 ++ [(now, q)])

end Partner

end Errand
