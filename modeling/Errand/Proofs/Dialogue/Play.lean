import Errand.Dialogue

/-!
# Playing dialogues that are put together

`Dialogue.play` carries out a whole dialogue. This file says how it carries out
one that was put together from parts, so that a long dialogue can be reasoned
about part by part and is never played call by call.

`Run.andThen` is the run that goes on after another one: with the value of the
first, from the time and the state in which it ended, and under the same
deadline. A run that ended in any other way has nothing after it.

A dialogue is `Confined` to some questions and some entries if it can put no
other question and make no other entry, whatever it is answered. It `Yields` a
property if every value that it can end with has it, as long as the answers
keep what they promise.

## Main results

* `play_bind`, `play_attempt`: the run of a sequence is the sequence of the
  runs, and trouble that is caught is a value.
* `Confined.play`: nothing but what a dialogue is confined to stands in the
  trace of its run.
* `Yields.play`: the value at the end of a run has the property that the
  dialogue yields.
-/

namespace Errand

/-! ## What stands in a trace -/

namespace Happening

variable {Q ε : Type}

/-- The entry that was made, if it was one. -/
def entry? : Happening Q ε → Option ε
  | .noted e => some e
  | .asked _ _ => none

/-- It is one of these questions or one of these entries. -/
def Within (asks : Q → Prop) (notes : ε → Prop) : Happening Q ε → Prop
  | .asked _ q => asks q
  | .noted e => notes e

end Happening

/-- The value that a reply brings, if it brings one. -/
def Reply.value? {α : Type} : Reply α → Option α
  | .answer (.ok a) => some a
  | .answer (.error _) | .breakdown => none

namespace Run

variable {Q σ ε α β : Type}

theorem entries_eq (r : Run Q σ ε α) :
    r.entries = r.trace.filterMap Happening.entry? := by
  refine congrArg (fun f => List.filterMap f r.trace) (funext fun h => ?_)
  cases h <;> rfl

/-! ## Runs one after the other -/

/-- The run with a part of a trace in front. -/
def preceded (earlier : List (Happening Q ε)) (r : Run Q σ ε α) : Run Q σ ε α :=
  { r with trace := earlier ++ r.trace }

/-- The run that goes on after the value of another one. -/
def andThen (r : Run Q σ ε α) (k : α → Time → σ → Run Q σ ε β) : Run Q σ ε β :=
  match r.ending with
  | .done a => (k a r.now r.state).preceded r.trace
  | .failed t => ⟨.failed t, r.now, r.state, r.trace⟩
  | .cutOff => ⟨.cutOff, r.now, r.state, r.trace⟩
  | .breakdown => ⟨.breakdown, r.now, r.state, r.trace⟩

/-- The run with its trouble turned into a value. -/
def caught (r : Run Q σ ε α) : Run Q σ ε (Except Trouble α) where
  ending :=
    match r.ending with
    | .done a => .done (.ok a)
    | .failed t => .done (.error t)
    | .cutOff => .cutOff
    | .breakdown => .breakdown
  now := r.now
  state := r.state
  trace := r.trace

@[simp] theorem preceded_preceded (xs ys : List (Happening Q ε))
    (r : Run Q σ ε α) :
    (r.preceded ys).preceded xs = r.preceded (xs ++ ys) := by
  simp only [preceded, List.append_assoc]

@[simp] theorem trace_preceded (xs : List (Happening Q ε)) (r : Run Q σ ε α) :
    (r.preceded xs).trace = xs ++ r.trace := rfl

@[simp] theorem ending_preceded (xs : List (Happening Q ε)) (r : Run Q σ ε α) :
    (r.preceded xs).ending = r.ending := rfl

theorem andThen_preceded (xs : List (Happening Q ε)) (r : Run Q σ ε α)
    (k : α → Time → σ → Run Q σ ε β) :
    (r.preceded xs).andThen k = (r.andThen k).preceded xs := by
  obtain ⟨ending, now, state, trace⟩ := r
  cases ending with
  | done a => exact (preceded_preceded xs trace (k a now state)).symm
  | failed t => rfl
  | cutOff => rfl
  | breakdown => rfl

theorem andThen_of_done {r : Run Q σ ε α} {a : α} (h : r.ending = .done a)
    (k : α → Time → σ → Run Q σ ε β) :
    r.andThen k = (k a r.now r.state).preceded r.trace := by
  simp only [andThen, h]

/-- A run that did not end with a value has nothing after it. -/
theorem trace_andThen_of_not_done {r : Run Q σ ε α}
    (h : ∀ a, r.ending ≠ .done a) (k : α → Time → σ → Run Q σ ε β) :
    (r.andThen k).trace = r.trace := by
  unfold andThen
  cases hEnd : r.ending with
  | done a => exact absurd hEnd (h a)
  | failed t => rfl
  | cutOff => rfl
  | breakdown => rfl

end Run

namespace Dialogue

variable {Q : Type} {A : Q → Type} {σ ε α β : Type}

@[simp] theorem bind_eq (d : Dialogue A ε α) (k : α → Dialogue A ε β) :
    d >>= k = d.bind k :=
  rfl

@[simp] theorem pure_eq (a : α) : (pure a : Dialogue A ε α) = .done a := rfl

/-! ## Playing a sequence -/

/-- The run of a question and of what follows it, told by how the partner
settled the question. -/
theorem play_ask (p : Partner A σ) (deadline : Option Time) (q : Q)
    (next : Except Trouble (A q) → Dialogue A ε α) (now : Time) (s : σ) :
    (Dialogue.ask q next).play p deadline now s =
      match (p.perform q now s).settle deadline now with
      | ⟨none, now', s'⟩ => ⟨.cutOff, now', s', [.asked now q]⟩
      | ⟨some .breakdown, now', s'⟩ => ⟨.breakdown, now', s', [.asked now q]⟩
      | ⟨some (.answer r), now', s'⟩ =>
        ((next r).play p deadline now' s').preceded [.asked now q] := by
  rw [play]
  rcases (p.perform q now s).settle deadline now with ⟨reply, now', s'⟩
  rcases reply with _ | _ | _ <;> rfl

/-- After an answer the dialogue goes on with it. -/
theorem play_ask_of_answer {p : Partner A σ} {deadline : Option Time} {q : Q}
    {now now' : Time} {s s' : σ} {r : Except Trouble (A q)}
    (h : (p.perform q now s).settle deadline now = ⟨some (.answer r), now', s'⟩)
    (next : Except Trouble (A q) → Dialogue A ε α) :
    (Dialogue.ask q next).play p deadline now s =
      ((next r).play p deadline now' s').preceded [.asked now q] := by
  rw [play_ask, h]

/-- A breakdown is the end. -/
theorem play_ask_of_breakdown {p : Partner A σ} {deadline : Option Time} {q : Q}
    {now now' : Time} {s s' : σ}
    (h : (p.perform q now s).settle deadline now = ⟨some .breakdown, now', s'⟩)
    (next : Except Trouble (A q) → Dialogue A ε α) :
    (Dialogue.ask q next).play p deadline now s =
      ⟨.breakdown, now', s', [.asked now q]⟩ := by
  rw [play_ask, h]

/-- **Sequencing.** A bound dialogue is played by playing the first part and
then, from where that ended, what goes on after its value. -/
theorem play_bind (p : Partner A σ) (deadline : Option Time)
    (d : Dialogue A ε α) (k : α → Dialogue A ε β) (now : Time) (s : σ) :
    (d.bind k).play p deadline now s =
      (d.play p deadline now s).andThen fun a now s =>
        (k a).play p deadline now s := by
  induction d generalizing now s with
  | done a => rfl
  | fail t => rfl
  | ask q next ih =>
      rw [Dialogue.bind, play_ask, play_ask]
      rcases (p.perform q now s).settle deadline now with ⟨reply, now', s'⟩
      cases reply with
      | none => rfl
      | some reply =>
          cases reply with
          | breakdown => rfl
          | answer r =>
              show (((next r).bind k).play p deadline now' s').preceded _ = _
              rw [ih r now' s']
              exact (Run.andThen_preceded _ _ _).symm
  | pause d next ih =>
      show (if isPast deadline (now + d) then _ else _) = _
      by_cases hPast : isPast deadline (now + d) = true
      · simp only [play, hPast, if_true, Run.andThen]
      · simp only [play, hPast, if_false, Bool.false_eq_true]
        exact ih (now + d) s
  | clock next ih => exact ih now now s
  | note e next ih =>
      show ((next.bind k).play p deadline now s).preceded [.noted e] = _
      rw [ih now s]
      exact (Run.andThen_preceded _ _ _).symm

/-- Trouble that is caught is a value of the run. -/
theorem play_attempt (p : Partner A σ) (deadline : Option Time)
    (d : Dialogue A ε α) (now : Time) (s : σ) :
    d.attempt.play p deadline now s = (d.play p deadline now s).caught := by
  induction d generalizing now s with
  | done a => rfl
  | fail t => rfl
  | ask q next ih =>
      rw [attempt, play_ask, play_ask]
      rcases (p.perform q now s).settle deadline now with ⟨reply, now', s'⟩
      cases reply with
      | none => rfl
      | some reply =>
          cases reply with
          | breakdown => rfl
          | answer r =>
              show (((next r).attempt).play p deadline now' s').preceded _ = _
              rw [ih r now' s']
              rfl
  | pause d next ih =>
      show (if isPast deadline (now + d) then _ else _) = _
      by_cases hPast : isPast deadline (now + d) = true
      · simp only [play, hPast, if_true, Run.caught]
      · simp only [play, hPast, if_false, Bool.false_eq_true]
        exact ih (now + d) s
  | clock next ih => exact ih now now s
  | note e next ih =>
      show ((next.attempt).play p deadline now s).preceded [.noted e] = _
      rw [ih now s]
      rfl

/-! ## What a dialogue can ask and note -/

/-- The dialogue puts only such questions and makes only such entries, whatever
it is answered. -/
def Confined (asks : Q → Prop) (notes : ε → Prop) : Dialogue A ε α → Prop
  | .done _ => True
  | .fail _ => True
  | .ask q next => asks q ∧ ∀ r, (next r).Confined asks notes
  | .pause _ next => next.Confined asks notes
  | .clock next => ∀ t, (next t).Confined asks notes
  | .note e next => notes e ∧ next.Confined asks notes

namespace Confined

variable {asks : Q → Prop} {notes : ε → Prop}

theorem bind {d : Dialogue A ε α} {k : α → Dialogue A ε β}
    (hd : d.Confined asks notes) (hk : ∀ a, (k a).Confined asks notes) :
    (d.bind k).Confined asks notes := by
  induction d with
  | done a => exact hk a
  | fail t => trivial
  | ask q next ih => exact ⟨hd.1, fun r => ih r (hd.2 r)⟩
  | pause d next ih => exact ih hd
  | clock next ih => exact fun t => ih t (hd t)
  | note e next ih => exact ⟨hd.1, ih hd.2⟩

theorem attempt {d : Dialogue A ε α} (hd : d.Confined asks notes) :
    d.attempt.Confined asks notes := by
  induction d with
  | done a => trivial
  | fail t => trivial
  | ask q next ih => exact ⟨hd.1, fun r => ih r (hd.2 r)⟩
  | pause d next ih => exact ih hd
  | clock next ih => exact fun t => ih t (hd t)
  | note e next ih => exact ⟨hd.1, ih hd.2⟩

theorem question {q : Q} (hq : asks q) :
    (Dialogue.question q : Dialogue A ε (A q)).Confined asks notes := by
  refine ⟨hq, fun r => ?_⟩
  cases r with
  | ok a => trivial
  | error t => trivial

theorem tried {q : Q} (hq : asks q) :
    (Dialogue.tried q : Dialogue A ε (Except Trouble (A q))).Confined
      asks notes :=
  ⟨hq, fun _ => trivial⟩

theorem weaken {asks' : Q → Prop} {notes' : ε → Prop} {d : Dialogue A ε α}
    (h : d.Confined asks notes) (hAsks : ∀ q, asks q → asks' q)
    (hNotes : ∀ e, notes e → notes' e) : d.Confined asks' notes' := by
  induction d with
  | done a => trivial
  | fail t => trivial
  | ask q next ih => exact ⟨hAsks q h.1, fun r => ih r (h.2 r)⟩
  | pause d next ih => exact ih h
  | clock next ih => exact fun t => ih t (h t)
  | note e next ih => exact ⟨hNotes e h.1, ih h.2⟩

/-- Nothing but what a dialogue is confined to stands in the trace of its
run. -/
theorem play {d : Dialogue A ε α} (hd : d.Confined asks notes) (p : Partner A σ)
    (deadline : Option Time) (now : Time) (s : σ) :
    ∀ h ∈ (d.play p deadline now s).trace, h.Within asks notes := by
  induction d generalizing now s with
  | done a => intro h hMem; cases hMem
  | fail t => intro h hMem; cases hMem
  | ask q next ih =>
      intro h hMem
      have hAsked : (Happening.asked now q : Happening Q ε).Within asks notes :=
        hd.1
      rcases hSettled : (p.perform q now s).settle deadline now
        with ⟨reply, now', s'⟩
      rw [play_ask, hSettled] at hMem
      rcases reply with _ | r | _
      · obtain rfl := List.mem_singleton.mp hMem
        exact hAsked
      · rcases List.mem_cons.mp hMem with rfl | hLater
        · exact hAsked
        · exact ih r (hd.2 r) now' s' h hLater
      · obtain rfl := List.mem_singleton.mp hMem
        exact hAsked
  | pause d next ih =>
      intro h hMem
      by_cases hPast : isPast deadline (now + d) = true
      · simp only [Dialogue.play, hPast, if_true, List.not_mem_nil] at hMem
      · simp only [Dialogue.play, hPast, if_false, Bool.false_eq_true] at hMem
        exact ih hd (now + d) s h hMem
  | clock next ih => exact ih now (hd now) now s
  | note e next ih =>
      intro h hMem
      rcases List.mem_cons.mp hMem with rfl | hLater
      · exact hd.1
      · exact ih hd.2 now s h hLater

end Confined

/-! ## What a dialogue ends with -/

/-- Every value that the dialogue can end with has the property, as long as the
answers keep a promise. -/
def Yields (promise : (q : Q) → A q → Prop) (P : α → Prop) :
    Dialogue A ε α → Prop
  | .done a => P a
  | .fail _ => True
  | .ask q next => ∀ r, (∀ a, r = .ok a → promise q a) →
  (next r).Yields promise P
  | .pause _ next => next.Yields promise P
  | .clock next => ∀ t, (next t).Yields promise P
  | .note _ next => next.Yields promise P

end Dialogue

/-- If the act ends with an answer that is a value, the value has the
property. -/
def Act.Keeps {σ α : Type} (P : α → Prop) : Act σ α → Prop
  | .finish (.answer (.ok a)) _ => P a
  | .finish _ _ => True
  | .wait _ _ next => next.Keeps P

/-- The partner's answers keep a promise. -/
def Partner.Keeps {Q σ : Type} {A : Q → Type} (p : Partner A σ)
    (promise : (q : Q) → A q → Prop) : Prop :=
  ∀ q now s, (p.perform q now s).Keeps (promise q)

theorem Act.Keeps.settle {σ α : Type} {P : α → Prop} {act : Act σ α}
    (h : act.Keeps P) (deadline : Option Time) (now : Time) {a : α}
    (hReply : (act.settle deadline now).reply = some (.answer (.ok a))) :
    P a := by
  induction act generalizing now with
  | finish reply s =>
      have hEq : reply = .answer (.ok a) := Option.some.inj hReply
      subst hEq
      exact h
  | wait s d next ih =>
      by_cases hPast : isPast deadline (now + d) = true
      · simp only [Act.settle, hPast, if_true] at hReply
        cases hReply
      · simp only [Act.settle, hPast, if_false, Bool.false_eq_true] at hReply
        exact ih h (now + d) hReply

/-- A run under a partner that keeps its promise ends, if it ends with a value,
with one that the dialogue yields. -/
theorem Dialogue.Yields.play {Q σ ε α : Type} {A : Q → Type}
    {promise : (q : Q) → A q → Prop} {P : α → Prop} {d : Dialogue A ε α}
    (hd : d.Yields promise P) {p : Partner A σ} (hp : p.Keeps promise)
    (deadline : Option Time) (now : Time) (s : σ) {a : α}
    (hEnd : (d.play p deadline now s).ending = .done a) : P a := by
  induction d generalizing now s with
  | done b => cases hEnd; exact hd
  | fail t => cases hEnd
  | ask q next ih =>
      rcases hSettled : (p.perform q now s).settle deadline now
        with ⟨reply, now', s'⟩
      rw [Dialogue.play_ask, hSettled] at hEnd
      rcases reply with _ | r | _
      · cases hEnd
      · refine ih r (hd r fun b hb => ?_) now' s' hEnd
        refine (hp q now s).settle deadline now ?_
        rw [hSettled, hb]
      · cases hEnd
  | pause d next ih =>
      by_cases hPast : isPast deadline (now + d) = true
      · simp only [Dialogue.play, hPast, if_true] at hEnd
        cases hEnd
      · simp only [Dialogue.play, hPast, if_false, Bool.false_eq_true] at hEnd
        exact ih hd (now + d) s hEnd
  | clock next ih => exact ih now (hd now) now s hEnd
  | note e next ih => exact ih hd now s hEnd

end Errand
