import Errand.Proofs.Session.Looks
import Mathlib.Algebra.Order.Floor.Div

/-!
# The schedule of a wait

With a partner that answers at once a wait looks at fixed times: when it
begins, and then once every poll interval. It ends with the first reply that
satisfies it. If there is none, it ends with the first look that is made when
its time limit is over, and no later; for a limit of zero that is the first
look of all. So a wait in vain looks exactly once more often than the poll
interval goes into the limit, rounded up, and it overruns the limit by less
than one interval.

The three waits of a session differ in the question and in what their replies
mean. Trouble is nothing to the waits for a state and for an address, which
look again; it ends the wait for a script.

## Main results

* `Looks.onTime`: the times of looks that are answered at once.
* `Polled.onSchedule`: a wait that is told by such looks keeps to the schedule.
* `waits_keep_schedule`: the three waits of a session.
-/

namespace Errand

variable {Q : Type} {A : Q → Type} {σ ε α μ : Type}

/-- Looks that are answered at once, the first at `start` and the others every
poll interval. -/
def onTime (poll : Duration) (start : Time)
    (replies : List (Except Trouble α)) : List (Look α) :=
  replies.mapIdx fun k r => ⟨start + k * poll, r, start + k * poll⟩

/-- Ends of a wait that come from a reply. -/
def endingOf : Except Trouble α → Ending α
  | .ok a => .done a
  | .error t => .failed t

/-- The run is that of a wait which began at `start`, looked on schedule, and
got these replies. -/
structure OnSchedule (p : Partner A σ) (q : Q)
    (verdict : Except Trouble (A q) → Verdict α)
    (late : List (Except Trouble (A q)) → Trouble) (limit poll : Duration)
    (start : Time) (s : σ) (replies : List (Except Trouble (A q)))
    (run : Run Q σ ε α) : Prop where
  /-- The partner was asked at `start`, an interval later, and so on, and it
  gave the replies. -/
  looks : Looks p q poll start s (onTime poll start replies) run.state
  /-- Nothing else was asked. -/
  trace : run.trace = (List.range replies.length).map fun k =>
    .asked (start + k * poll) q
  /-- The wait ended with the last look. -/
  now : run.now = start + (replies.length - 1) * poll
  /-- It ended in time. -/
  prompt : run.now < start + limit + poll
  /-- The first reply that meant anything ended it; if none did, it ended with
  the first look at which the limit was over. -/
  ending :
    (∃ earlier last outcome, replies = earlier ++ [last] ∧
      (∀ r ∈ earlier, verdict r = none) ∧
        verdict last = some outcome ∧ run.ending = endingOf outcome ∧
        replies.length ≤ limit ⌈/⌉ poll + 1) ∨
      (∀ r ∈ replies, verdict r = none) ∧ replies.length = limit ⌈/⌉ poll + 1 ∧
        start + limit ≤ run.now ∧ run.ending = .failed (late replies)

/-- **Looks that are answered at once are on time.** -/
theorem Looks.onTime {p : Partner A σ} (hp : p.AtOnce) {q : Q} {poll : Duration}
    {start : Time} {s s' : σ} {looks : List (Look (A q))}
    (h : Looks p q poll start s looks s') :
    looks = Errand.onTime poll start (looks.map Look.reply) := by
  -- the partner's reply comes at the time of the question
  have hAt : ∀ {now now' : Time} {s s' : σ} {r : Except Trouble (A q)},
      (p.perform q now s).settle none now = ⟨some (.answer r), now', s'⟩ →
      now' = now := by
    intro now now' s s' r hReply
    obtain ⟨r₀, s₀, hAtOnce⟩ := hp.settle q (not_past_none now) s
    rw [hAtOnce] at hReply
    cases hReply
    rfl
  induction h with
  | @once now now' s s' r hReply =>
      obtain rfl := hAt hReply
      simp [Errand.onTime]
  | @again now now' s s' s'' r looks hReply hRest ih =>
      obtain rfl := hAt hReply
      rw [List.map_cons, Errand.onTime, List.mapIdx_cons]
      refine congrArg₂ List.cons (by simp) (ih.trans ?_)
      unfold Errand.onTime
      refine congrArg (fun f => List.mapIdx f _)
        (funext fun k => funext fun r => ?_)
      rw [Nat.succ_mul, Nat.add_comm (k * poll), ← Nat.add_assoc]

section

variable {p : Partner A σ} {q : Q} {verdict : Except Trouble (A q) → Verdict α}
  {late : List (Except Trouble (A q)) → Trouble} {limit poll : Duration}
  {start : Time} {s : σ}
  {earlier : List (Look (A q))} {last : Look (A q)} {run : Run Q σ ε α}

/-- The looks of a wait begin before its limit is over, but for the last. -/
theorem Polled.length_earlier (hPoll : 0 < poll)
    (h : Polled p q verdict late poll (start + limit) start s earlier last run)
    (hTimes : ∀ k (hk : k < earlier.length),
      earlier[k].answered = start + k * poll) :
    earlier.length ≤ limit ⌈/⌉ poll ∧ earlier.length * poll < limit + poll := by
  rcases Nat.eq_zero_or_eq_sub_one_add_one (n := earlier.length)
    with hNone | hSome
  · rw [hNone, Nat.zero_mul]
    exact ⟨Nat.zero_le _, Nat.lt_of_lt_of_le hPoll (Nat.le_add_left poll limit)⟩
  · have hk : earlier.length - 1 < earlier.length := by omega
    have hBefore :=
      (h.passed earlier[earlier.length - 1] (List.getElem_mem hk)).2
    rw [hTimes _ hk, Nat.add_lt_add_iff_left] at hBefore
    rw [hSome, Nat.succ_mul]
    refine ⟨Nat.lt_of_not_le fun hLe => ?_, Nat.add_lt_add_right hBefore poll⟩
    rw [ceilDiv_le_iff_le_mul hPoll, Nat.mul_comm] at hLe
    exact Nat.not_le_of_lt hBefore hLe

/-- **With a partner that answers at once a wait keeps to the schedule.** -/
theorem Polled.onSchedule (hp : p.AtOnce) (hPoll : 0 < poll)
    (h : Polled p q verdict late poll (start + limit) start s earlier
      last run) :
    OnSchedule p q verdict late limit poll start s
      ((earlier ++ [last]).map Look.reply) run := by
  have hLooks := h.looks.onTime hp
  have hTimes : ∀ k (hk : k < (earlier ++ [last]).length),
      (earlier ++ [last])[k].asked = start + k * poll ∧
        (earlier ++ [last])[k].answered = start + k * poll := by
    intro k hk
    simp only [List.getElem_of_eq hLooks hk, onTime,
      List.getElem_mapIdx, and_self]
  have hEarlier : ∀ k (hk : k < earlier.length),
      earlier[k].answered = start + k * poll := by
    intro k hk
    have hAt := (hTimes k (by rw [List.length_append]; omega)).2
    rwa [List.getElem_append_left hk] at hAt
  have hLast : last.answered = start + earlier.length * poll := by
    simpa using (hTimes earlier.length (by simp)).2
  obtain ⟨hFew, hPrompt⟩ := h.length_earlier hPoll hEarlier
  refine ⟨hLooks ▸ h.looks, ?_, ?_, ?_, ?_⟩
  · rw [h.trace]
    refine List.ext_getElem (by simp) fun k hk _ => ?_
    rw [List.length_map] at hk
    simp only [List.getElem_map, List.getElem_range, (hTimes k hk).1]
  · simp [h.now, hLast]
  · rw [h.now, hLast, Nat.add_assoc]
    exact Nat.add_lt_add_left hPrompt start
  · cases hVerdict : verdict last.reply with
    | some outcome =>
        refine .inl ⟨earlier.map Look.reply, last.reply, outcome, by simp, ?_,
          hVerdict, ?_, by simpa⟩
        · exact List.forall_mem_map.mpr fun l hl => (h.passed l hl).1
        · rw [h.ending, hVerdict]
          cases outcome <;> rfl
    | none =>
        have hDue := h.due hVerdict
        have hMany : limit ⌈/⌉ poll ≤ earlier.length := by
          rw [ceilDiv_le_iff_le_mul hPoll, Nat.mul_comm]
          rwa [hLast, Nat.add_le_add_iff_left] at hDue
        have hLength : earlier.length = limit ⌈/⌉ poll :=
          Nat.le_antisymm hFew hMany
        refine .inr ⟨?_, by simp [hLength], h.now ▸ hDue, ?_⟩
        · simp only [List.map_append, List.forall_mem_append,
            List.forall_mem_map]
          exact ⟨fun l hl => (h.passed l hl).1, by simpa using hVerdict⟩
        · rw [h.ending, hVerdict]
          rfl

end

/-! ## The waits of a session -/

theorem Partner.AtOnce.concluded {p : Partner A σ} (hp : p.AtOnce)
    (d : Dialogue A ε α) (now : Time) (s : σ) :
    (d.play p none now s).Concluded := by
  rcases d.concludes_of_answers hp.answers now s with ⟨a, hEnd⟩ | ⟨t, hEnd⟩ <;>
    simp [Run.Concluded, hEnd]

open Dialogue in
/-- **The waits of a session keep to the schedule.** With a browser that
answers at once, each of the three looks when it begins and once every poll
interval. It ends with the first look that finds what is waited for; the wait
for a script also ends with trouble. In vain it looks exactly as often as the
interval goes into the limit, rounded up, and once more, and it ends within an
interval after the limit. What is then said of an element includes the last
trouble that there was. -/
theorem waits_keep_schedule {b : Browser σ} (hb : b.AtOnce) {poll : Duration}
    (hPoll : 0 < poll) (limit : Duration) (now : Time) (s : σ) :
    (∀ (selector : String) (wanted : WaitState), ∃ replies,
      OnSchedule b (.probe selector) wanted.verdict
        (stateLate selector wanted limit) limit poll now s
        replies
          ((awaitState selector wanted limit poll :
            Dialogue Call.Answer ε Unit).play b none now s)) ∧
    (∀ includes : String, ∃ replies,
      OnSchedule b .currentUrl (addressVerdict includes)
        (fun _ => addressLate includes limit) limit
        poll now s replies
        ((awaitUrl includes limit poll : Dialogue Call.Answer ε String).play b
          none now s)) ∧
    ∀ (script : String) (timedOut : Trouble), ∃ replies,
      OnSchedule b (.evaluate script) scriptVerdict
        (fun _ => timedOut) limit poll now s replies
        ((awaitScript script timedOut limit poll :
            Dialogue Call.Answer ε Unit).play b none now s) := by
  refine ⟨fun selector wanted => ?_, fun includes => ?_,
    fun script timedOut => ?_⟩
  · obtain ⟨earlier, last, hPolled⟩ :=
      play_awaitState hPoll selector wanted rfl (hb.concluded _ now s)
    exact ⟨_, hPolled.onSchedule hb hPoll⟩
  · obtain ⟨earlier, last, hPolled⟩ :=
      play_awaitUrl hPoll includes rfl (hb.concluded _ now s)
    exact ⟨_, hPolled.onSchedule hb hPoll⟩
  · obtain ⟨earlier, last, hPolled⟩ :=
      play_awaitScript hPoll script timedOut rfl (hb.concluded _ now s)
    exact ⟨_, hPolled.onSchedule hb hPoll⟩

/-- A page that is loading: the first probe of it fails, and later there is a
hidden element. It has no address. Two scripts that run in it say no, and the
third fails. -/
def loading : Browser Nat where
  perform
    | .probe _, _, 0 => .finish (.answer (.error (.plain "busy"))) 1
    | .probe _, _, n + 1 => .finish (.answer (.ok .hidden)) (n + 2)
    | .evaluate _, _, 2 => .finish (.answer (.error (.plain "gone"))) 3
    | .evaluate _, _, n => .finish (.answer (.ok (Json.bool false))) (n + 1)
    | _, _, n => .finish (.answer (.error (.plain "gone"))) n

theorem loading_atOnce : loading.AtOnce := by
  intro c _ n
  rcases c with _ | _ | _ | _ | _ | _ | _ | _ | _ | _ | _ <;>
    rcases n with _ | _ | _ | n <;> trivial

open Dialogue Duration in
/-- With a limit of 250 ms and an interval of 100 ms, an element is looked at
four times in vain, and what is said of it ends with the trouble of the first
look. A script that fails at its third look ends the wait before its time. -/
theorem waits_keep_schedule_loading :
    let limit := ofMillis 250
    let poll := ofMillis 100
    let element := (awaitState "#a" .visible limit poll :
      Dialogue Call.Answer Unit Unit).play loading none 0 0
    let script := (awaitScript "ready" (.plain "late") limit poll :
      Dialogue Call.Answer Unit Unit).play loading none 0 0
    (loading.AtOnce ∧ 0 < poll) ∧
      ((∃ replies, OnSchedule loading (.probe "#a") WaitState.visible.verdict
          (stateLate "#a" .visible limit) limit poll 0 0 replies element) ∧
        element.questions =
          [0, 100, 200, 300].map (fun ms => (ofMillis ms, Call.probe "#a")) ∧
        ∃ t, element.ending = .failed t ∧
          t.message = "'#a' not Visible within 250ms: busy") ∧
      (∃ replies, OnSchedule loading (.evaluate "ready") scriptVerdict
          (fun _ => .plain "late") limit poll 0 0 replies script) ∧
        script.questions =
          [0, 100, 200].map (fun ms => (ofMillis ms, Call.evaluate "ready")) ∧
        script.ending = .failed (.plain "gone") := by
  intro limit poll element script
  have hPoll : 0 < poll := by decide
  obtain ⟨hStates, -, hScripts⟩ :=
    @waits_keep_schedule Nat Unit loading loading_atOnce poll hPoll limit 0 0
  exact ⟨⟨loading_atOnce, hPoll⟩,
    ⟨hStates "#a" .visible, by decide +kernel,
      .plain "'#a' not Visible within 250ms: busy", by decide +kernel, rfl⟩,
    hScripts "ready" (.plain "late"), by decide +kernel, by decide +kernel⟩

end Errand
