import Errand.Proofs.Session.Polling

/-!
# Looking again and again

A wait puts one question over and over until a reply satisfies it or its time
is up. What it comes to depends on nothing but the replies and their times, so
a wait is told here by its looks: when each was made, what the partner replied,
and when. A `verdict` says of a reply whether it ends the wait and how; `Looks`
says that the looks are those of a partner that is asked again a pause after
each reply; and `Polled` says how the run of a wait follows from its looks.

The window of a wait reaches from its first look to the first one that is
answered when the deadline has come. A reply that satisfies the wait counts
throughout the window, so also the last one does.

## Main results

* `Looks.unique`: there is one course of looks from a time and a state.
* `play_pollUntil`: a run of looking until a deadline, told by its looks.
* `play_awaitFound`: the same for a wait with a time limit.
* `play_awaitState`, `play_awaitUrl`, `play_awaitScript`: the three waits of a
  session, with what their replies mean.
-/

namespace Errand

variable {Q : Type} {A : Q → Type} {σ ε α μ : Type}

/-- The run was neither cut off nor ended by a breakdown. -/
def Run.Concluded (r : Run Q σ ε α) : Prop :=
  r.ending ≠ .cutOff ∧ r.ending ≠ .breakdown

instance (r : Run Q σ ε α) : Decidable r.Concluded :=
  match h : r.ending with
  | .done _ | .failed _ =>
    isTrue ⟨by rw [h]; exact nofun, by rw [h]; exact nofun⟩
  | .cutOff => isFalse fun hEnd => hEnd.1 h
  | .breakdown => isFalse fun hEnd => hEnd.2 h

/-! ## Looks -/

/-- A look: a question that was put at a time, what was replied, and when. -/
structure Look (α : Type) where
  asked : Time
  reply : Except Trouble α
  answered : Time

/-- These are the looks of a partner that is asked `q` at a time and again a
pause after each reply; it goes from the one state to the other. -/
inductive Looks (p : Partner A σ) (q : Q) (poll : Duration) :
    Time → σ → List (Look (A q)) → σ → Prop where
  | once {now now' : Time} {s s' : σ} {r : Except Trouble (A q)}
      (hReply : (p.perform q now s).settle none now =
        ⟨some (.answer r), now', s'⟩) :
      Looks p q poll now s [⟨now, r, now'⟩] s'
  | again {now now' : Time} {s s' s'' : σ} {r : Except Trouble (A q)}
      {looks : List (Look (A q))}
      (hReply : (p.perform q now s).settle none now =
        ⟨some (.answer r), now', s'⟩)
      (hRest : Looks p q poll (now' + poll) s' looks s'') :
      Looks p q poll now s (⟨now, r, now'⟩ :: looks) s''

/-- The first look is the partner's answer to the first question, and the
others follow it. -/
theorem Looks.head {p : Partner A σ} {q : Q} {poll : Duration} {now : Time}
    {s s' : σ} {l : Look (A q)} {rest : List (Look (A q))}
    (h : Looks p q poll now s (l :: rest) s') :
    ∃ between, l.asked = now ∧
      (p.perform q now s).settle none now =
        ⟨some (.answer l.reply), l.answered, between⟩ ∧
      (rest = [] ∧ s' = between ∨
        Looks p q poll (l.answered + poll) between rest s') := by
  cases h with
  | once hReply => exact ⟨_, rfl, hReply, .inl ⟨rfl, rfl⟩⟩
  | again hReply hRest => exact ⟨_, rfl, hReply, .inr hRest⟩

/-- All courses of looks from one time and state have the same first look. -/
theorem Looks.heads_eq {p : Partner A σ} {q : Q} {poll : Duration} {now : Time}
    {s s' s₂' : σ} {l l₂ : Look (A q)} {rest rest₂ : List (Look (A q))}
    (h : Looks p q poll now s (l :: rest) s')
    (h₂ : Looks p q poll now s (l₂ :: rest₂) s₂') :
    l = l₂ ∧ ∃ between,
      (rest = [] ∧ s' = between ∨
        Looks p q poll (l.answered + poll) between rest s') ∧
        (rest₂ = [] ∧ s₂' = between ∨
          Looks p q poll (l.answered + poll) between rest₂ s₂') := by
  obtain ⟨between, hAsked, hReply, hRest⟩ := h.head
  obtain ⟨between₂, hAsked₂, hReply₂, hRest₂⟩ := h₂.head
  obtain ⟨asked, reply, answered⟩ := l
  obtain ⟨asked₂, reply₂, answered₂⟩ := l₂
  dsimp only at hAsked hAsked₂ hReply hReply₂ hRest₂
  cases hReply.symm.trans hReply₂
  exact ⟨by rw [hAsked, hAsked₂], between, hRest, hRest₂⟩

/-- **Looks go one way only.** If two courses of looks from a time and a state
both stop with the first look that does not make them go on, they stop with the
same look and in the same state. -/
theorem Looks.unique {p : Partner A σ} {q : Q} {poll : Duration} {now : Time}
    {s s' s₂' : σ} {earlier earlier₂ : List (Look (A q))}
    {last last₂ : Look (A q)} {GoesOn : Look (A q) → Prop}
    (h : Looks p q poll now s (earlier ++ [last]) s')
    (h₂ : Looks p q poll now s (earlier₂ ++ [last₂]) s₂')
    (hEarlier : ∀ l ∈ earlier, GoesOn l) (hEarlier₂ : ∀ l ∈ earlier₂, GoesOn l)
    (hLast : ¬ GoesOn last) (hLast₂ : ¬ GoesOn last₂) :
    last = last₂ ∧ s' = s₂' := by
  induction earlier generalizing earlier₂ now s with
  | nil =>
      cases earlier₂ with
      | nil =>
          obtain ⟨rfl, between, ⟨-, rfl⟩ | hNone, ⟨-, rfl⟩ | hNone₂⟩ :=
            h.heads_eq h₂
          · exact ⟨rfl, rfl⟩
          · cases hNone₂
          · cases hNone
          · cases hNone
      | cons l₂ rest₂ =>
          obtain ⟨rfl, -⟩ := h.heads_eq h₂
          exact absurd (hEarlier₂ _ List.mem_cons_self) hLast
  | cons l rest ih =>
      cases earlier₂ with
      | nil =>
          obtain ⟨rfl, -⟩ := h.heads_eq h₂
          exact absurd (hEarlier _ List.mem_cons_self) hLast₂
      | cons l₂ rest₂ =>
          obtain ⟨-, between, hRest, hRest₂⟩ := h.heads_eq h₂
          have hMore : ∀ (xs : List (Look (A q))) (x : Look (A q)),
              xs ++ [x] ≠ [] :=
            fun xs x =>
              List.append_ne_nil_of_right_ne_nil xs (List.cons_ne_nil x [])
          exact ih (hRest.resolve_left fun hEnd => hMore _ _ hEnd.1)
            (hRest₂.resolve_left fun hEnd => hMore _ _ hEnd.1)
            (fun l hl => hEarlier l (List.mem_cons_of_mem _ hl))
            (fun l hl => hEarlier₂ l (List.mem_cons_of_mem _ hl))

/-- What a reply means to a wait: nothing, so that it looks again, or its
end. -/
abbrev Verdict (α : Type) := Option (Except Trouble α)

/-- How a wait ends whose last look was judged so; `late` is its trouble if
nothing was found. -/
def Verdict.ending (late : Trouble) : Verdict α → Ending α
  | some (.ok a) => .done a
  | some (.error t) => .failed t
  | none => .failed late

/-- The run of a wait follows from its looks, the last of which ends it. -/
structure Polled (p : Partner A σ) (q : Q)
    (verdict : Except Trouble (A q) → Verdict α)
    (late : List (Except Trouble (A q)) → Trouble) (poll : Duration)
    (deadline start : Time) (s : σ) (earlier : List (Look (A q)))
    (last : Look (A q)) (run : Run Q σ ε α) : Prop where
  looks : Looks p q poll start s (earlier ++ [last]) run.state
  trace : run.trace = (earlier ++ [last]).map fun l => .asked l.asked q
  now : run.now = last.answered
  /-- Every look but the last found nothing and was answered before the
  deadline. -/
  passed : ∀ l ∈ earlier, verdict l.reply = none ∧ l.answered < deadline
  ending : run.ending = (verdict last.reply).ending
    (late ((earlier ++ [last]).map Look.reply))
  /-- If the last one found nothing either, the deadline has come. -/
  due : verdict last.reply = none → deadline ≤ last.answered

/-! ## Looking until a deadline -/

namespace Dialogue

/-- The look that puts a question and judges the reply. `remember` says what a
look that found nothing leaves behind. -/
def looking (q : Q) (verdict : Except Trouble (A q) → Verdict α)
    (remember : μ → Except Trouble (A q) → μ) (m : μ) : Dialogue A ε (α ⊕ μ) :=
  .ask q fun r =>
    match verdict r with
    | some (.ok a) => .done (.inl a)
    | some (.error t) => .fail t
    | none => .done (.inr (remember m r))

variable (p : Partner A σ) {q : Q} {verdict : Except Trouble (A q) → Verdict α}
  {remember : μ → Except Trouble (A q) → μ} (timedOut : μ → Trouble)
  {poll : Duration} {deadline : Time}

/-- The run of one look and of what follows it: if it found nothing and there
is time, `again`. -/
theorem play_looking {again : μ → Dialogue A ε α} {m : μ} {now : Time} {s : σ}
    {run : Run Q σ ε α}
    (hRun : ((looking q verdict remember m).bind
        (unlessPast deadline timedOut again)).play p none now
      s = run) (hEnd : run.Concluded) :
    ∃ r now' s', (p.perform q now s).settle none now =
      ⟨some (.answer r), now', s'⟩ ∧
      ((verdict r = none → deadline ≤ now') ∧
          run = ⟨(verdict r).ending (timedOut (remember m r)), now', s',
            [.asked now q]⟩ ∨
        (verdict r = none ∧ now' < deadline) ∧
          run = ((again (remember m r)).play p none now' s').preceded
            [.asked now q]) := by
  subst hRun
  rw [looking, Dialogue.bind, play_ask] at hEnd ⊢
  obtain ⟨reply, now', s', hSettled⟩ :=
    (p.perform q now s).exists_settle_none now
  rw [hSettled] at hEnd ⊢
  rcases reply with r | _
  · refine ⟨r, now', s', rfl, ?_⟩
    dsimp only
    rcases verdict r with _ | t | a
    · by_cases hDue : deadline ≤ now'
      · refine .inl ⟨fun _ => hDue, ?_⟩
        simp only [bind_done, unlessPast, play, hDue, if_true]
        rfl
      · refine .inr ⟨⟨rfl, Nat.lt_of_not_le hDue⟩, ?_⟩
        simp only [bind_done, unlessPast, play, hDue, if_false]
    · exact .inl ⟨fun hNothing => absurd hNothing (Option.some_ne_none _), rfl⟩
    · exact .inl ⟨fun hNothing => absurd hNothing (Option.some_ne_none _), rfl⟩
  · exact absurd rfl hEnd.2

/-- **Looking until a deadline is told by its looks.** The induction is on the
rounds. They do not run out before the deadline: each pause brings it nearer by
as much as it takes from what is left. -/
theorem play_pollUntil (rounds : Nat) {m : μ} {now : Time} {s : σ}
    (hReach : deadline ≤ now + rounds * poll) {run : Run Q σ ε α}
    (hRun : (pollUntil (looking q verdict remember) timedOut poll deadline
        rounds m).play p none now
      s = run) (hEnd : run.Concluded) :
    ∃ earlier last, Polled p q verdict
      (fun rs => timedOut (rs.foldl remember m)) poll deadline now s
      earlier last run := by
  induction rounds generalizing m now s run with
  | zero =>
      rw [pollUntil] at hRun
      obtain ⟨r, now', s', hReply, ⟨hDue, rfl⟩ | ⟨⟨-, hEarly⟩, -⟩⟩ :=
        play_looking p timedOut hRun hEnd
      · exact ⟨[], ⟨now, r, now'⟩, .once hReply, rfl, rfl,
          List.forall_mem_nil _, rfl, hDue⟩
      · have hLater := ((p.perform q now s).settle_within (not_past_none now)).1
        rw [hReply] at hLater
        rw [Nat.zero_mul, Nat.add_zero] at hReach
        exact absurd (Nat.le_trans hReach hLater) (Nat.not_le_of_lt hEarly)
  | succ rounds ih =>
      rw [pollUntil] at hRun
      obtain ⟨r, now', s', hReply, ⟨hDue, rfl⟩ | ⟨⟨hNothing, hEarly⟩, rfl⟩⟩ :=
        play_looking p timedOut hRun hEnd
      · exact ⟨[], ⟨now, r, now'⟩, .once hReply, rfl, rfl,
          List.forall_mem_nil _, rfl, hDue⟩
      · have hLater := ((p.perform q now s).settle_within (not_past_none now)).1
        rw [hReply] at hLater
        have hLeft : deadline ≤ now' + poll + rounds * poll :=
          calc deadline ≤ now + (rounds + 1) * poll := hReach
            _ ≤ now' + (rounds + 1) * poll := Nat.add_le_add_right hLater _
            _ = now' + poll + rounds * poll := by
              rw [Nat.succ_mul, Nat.add_comm (rounds * poll), Nat.add_assoc]
        obtain ⟨earlier, last, hRest⟩ := ih hLeft rfl hEnd
        refine ⟨⟨now, r, now'⟩ :: earlier, last, .again hReply hRest.looks, ?_,
          hRest.now, List.forall_mem_cons.mpr ⟨⟨hNothing, hEarly⟩,
            hRest.passed⟩, hRest.ending, hRest.due⟩
        exact congrArg (Happening.asked now q :: ·) hRest.trace

variable (remember) in
/-- **A wait is told by its looks.** -/
theorem play_awaitFound {look : μ → Dialogue A ε (α ⊕ μ)}
    (hLook : ∀ m, look m = looking q verdict remember m) (hPoll : 0 < poll)
    (limit : Duration) {m : μ} {now : Time} {s : σ} {run : Run Q σ ε α}
    (hRun : (awaitFound look timedOut limit poll m).play p none now s = run)
    (hEnd : run.Concluded) :
    ∃ earlier last, Polled p q verdict
      (fun rs => timedOut (rs.foldl remember m)) poll (now + limit)
      now s earlier last run := by
  obtain rfl := funext hLook
  exact play_pollUntil p timedOut _
    (Nat.add_le_add_left (le_rounds_mul hPoll limit) now) hRun hEnd

end Dialogue

/-! ## The waits of a session -/

/-- An element in the state that is wanted ends the wait. Trouble does not, nor
does any other state. -/
def WaitState.verdict (wanted : WaitState) : Except Trouble ElementState →
    Verdict Unit
  | .ok state => if wanted.holds state then some (.ok ()) else none
  | .error _ => none

/-- An address that contains the text ends the wait. Trouble does not, nor does
any other address. -/
def addressVerdict (includes : String) : Except Trouble String → Verdict String
  | .ok url => if Text.contains includes url then some (.ok url) else none
  | .error _ => none

/-- A script that says yes ends the wait, and so does trouble with it. -/
def scriptVerdict : Except Trouble Json → Verdict Unit
  | .ok j => if Json.bool? j = some true then some (.ok ()) else none
  | .error t => some (.error t)

/-- The trouble among the replies that came last. -/
def lastTrouble (replies : List (Except Trouble α)) : Option Trouble :=
  (replies.filterMap fun
    | .ok _ => none
    | .error t => some t).getLast?

/-- What is said of an element that did not come into the state: how long it
was waited for, and the last trouble if there was any. -/
def stateLate (selector : String) (wanted : WaitState) (limit : Duration)
    (replies : List (Except Trouble ElementState)) : Trouble :=
  .plain ("'" ++ selector ++ "' not " ++ wanted.name ++ " within " ++
      Duration.text limit ++
    (((lastTrouble replies).map fun t => ": " ++ t.message).getD ""))

/-- What is said of an address that never contained the text. -/
def addressLate (includes : String) (limit : Duration) : Trouble :=
  .plain ("url never contained '" ++ includes ++ "' within " ++
      Duration.text limit)

/-- The trouble that is known once a reply has come in. -/
def latest (known : Option Trouble) : Except Trouble α → Option Trouble
  | .ok _ => known
  | .error t => some t

theorem foldl_latest (known : Option Trouble)
    (replies : List (Except Trouble α)) :
    replies.foldl latest known = (lastTrouble replies).or known := by
  induction replies generalizing known with
  | nil => rfl
  | cons r rest ih =>
      rw [List.foldl_cons, ih]
      cases r with
      | ok a => rfl
      | error t =>
          simp only [lastTrouble, latest, List.filterMap_cons,
            List.getLast?_cons]
          cases (rest.filterMap fun
            | .ok _ => none
            | .error t => some t).getLast? <;> rfl

namespace Dialogue

variable {b : Browser σ} {limit poll : Duration} (hPoll : 0 < poll)
  {now : Time} {s : σ}

include hPoll

theorem play_awaitState (selector : String) (wanted : WaitState)
    {run : Run Call σ ε Unit}
    (hRun : (awaitState selector wanted limit poll).play b none now s = run)
    (hEnd : run.Concluded) :
    ∃ earlier last, Polled b (.probe selector) wanted.verdict
      (stateLate selector wanted limit) poll
      (now + limit) now s earlier last run := by
  have hLate : stateLate selector wanted limit = fun replies =>
      Trouble.plain ("'" ++ selector ++ "' not " ++ wanted.name ++ " within " ++
          Duration.text limit ++
        (((replies.foldl latest none).map fun t => ": " ++ t.message).getD
          "")) := by
    funext replies
    rw [foldl_latest, Option.or_none]
    rfl
  rw [hLate]
  refine play_awaitFound b latest _ (fun known => ?_) hPoll limit hRun hEnd
  refine congrArg (Dialogue.ask (Call.probe selector)) (funext fun r => ?_)
  rcases r with t | state
  · rfl
  · unfold WaitState.verdict
    cases hHolds : wanted.holds state <;> simp [hHolds, latest]

theorem play_awaitUrl (includes : String) {run : Run Call σ ε String}
    (hRun : (awaitUrl includes limit poll).play b none now s = run)
    (hEnd : run.Concluded) :
    ∃ earlier last, Polled b .currentUrl (addressVerdict includes)
      (fun _ => addressLate includes limit) poll
        (now + limit) now s earlier last run := by
  refine play_awaitFound b (fun u _ => u) _ (fun u => ?_) hPoll limit hRun hEnd
  refine congrArg (Dialogue.ask Call.currentUrl) (funext fun r => ?_)
  rcases r with t | url
  · rfl
  · unfold addressVerdict
    cases hContains : Text.contains includes url <;> simp [hContains]

theorem play_awaitScript (script : String) (timedOut : Trouble)
    {run : Run Call σ ε Unit}
    (hRun : (awaitScript script timedOut limit poll).play b none now s = run)
    (hEnd : run.Concluded) :
    ∃ earlier last, Polled b (.evaluate script) scriptVerdict
      (fun _ => timedOut) poll (now + limit)
      now s earlier last run := by
  refine play_awaitFound b (fun u _ => u) _ (fun u => ?_) hPoll limit hRun hEnd
  refine congrArg (Dialogue.ask (Call.evaluate script)) (funext fun r => ?_)
  rcases r with t | j
  · rfl
  · unfold scriptVerdict
    by_cases hYes : Json.bool? j = some true <;> simp [hYes]

end Dialogue

end Errand
