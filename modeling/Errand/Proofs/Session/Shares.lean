import Errand.Proofs.Session.Candidates
import Errand.Proofs.Session.Schedule

/-!
# What candidates cost

A step with several candidates divides its time limit among them. The shares
are equal, and each is at least the floor, so together they can come to more
than the limit, though only as far as the floors do.

A candidate that does not resolve uses up its share, and the last look at it
comes when the share is over: with a browser that answers at once that is after
the first whole number of poll intervals that reaches the share. The next
candidate begins there. So a step that finds none of its candidates takes that
much for each of them, and overruns what the shares come to by less than one
interval for each.

That none of them resolves is said of the browser and not of the search: the
one course that the trials can take from a time and a state ends without one
that finds its candidate.

## Main results

* `mul_candidateShare_le`: what the shares come to.
* `Rejections.now_eq`: how long candidates take that are all rejected.
* `unresolved_iff`: the search comes to nothing exactly if none of the
  candidates resolves.
* `gives_up_on_schedule`: how long a step takes that finds none of its
  candidates.
-/

namespace Errand

/-- A whole number of intervals that just reaches a limit overruns it by less
than one of them. -/
theorem ceilDiv_mul_lt (limit : Duration) {poll : Duration} (hPoll : 0 < poll) :
    limit ⌈/⌉ poll * poll < limit + poll :=
  calc limit ⌈/⌉ poll * poll = (limit + poll - 1) / poll * poll := by
        rw [Nat.ceilDiv_eq_add_pred_div]
    _ ≤ limit + poll - 1 := Nat.div_mul_le_self _ poll
    _ < limit + poll :=
        Nat.sub_one_lt (Nat.ne_of_gt (Nat.add_pos_right limit hPoll))

namespace Session

/-! ## Shares -/

section

variable (o : Options) (limit : Duration) (n : Nat)

theorem candidateShare_le : candidateShare o limit n ≤ limit := by
  unfold candidateShare
  split
  · exact Nat.le_refl limit
  · exact Nat.max_le.mpr ⟨Nat.div_le_self limit n, Nat.min_le_right _ _⟩

theorem floor_le_candidateShare :
    min o.minCandidate limit ≤ candidateShare o limit n := by
  unfold candidateShare
  split
  · exact Nat.min_le_right _ _
  · exact Nat.le_max_right _ _

/-- **The shares come to no more than the limit**, unless the floors do. -/
theorem mul_candidateShare_le :
    n * candidateShare o limit n ≤
      max limit (n * min o.minCandidate limit) := by
  unfold candidateShare
  split
  · next hFew =>
      calc n * limit ≤ 1 * limit := Nat.mul_le_mul_right limit hFew
        _ = limit := Nat.one_mul limit
        _ ≤ _ := Nat.le_max_left _ _
  · rw [← Nat.mul_max_mul_left]
    exact max_le_max (Nat.mul_div_le limit n) (Nat.le_refl _)

variable {n} in
/-- The number by which the limit is divided may be held in a word of 32 bits,
and it is not zero. -/
theorem candidateShare_eq_word (hMany : 1 < n) (hWord : n < 2 ^ 32) :
    UInt32.ofNat n ≠ 0 ∧
      candidateShare o limit n =
        max (limit / (UInt32.ofNat n).toNat) (min o.minCandidate limit) := by
  have hToNat : (UInt32.ofNat n).toNat = n := UInt32.toNat_ofNat_of_lt' hWord
  refine ⟨fun hZero => ?_, ?_⟩
  · rw [hZero, UInt32.toNat_zero] at hToNat
    omega
  · rw [hToNat, candidateShare, if_neg (Nat.not_le_of_lt hMany)]

end

/-! ## Candidates that are rejected -/

section

variable {σ : Type} {b : Browser σ} {wanted : WaitState} {share poll : Duration}

/-- A candidate that is rejected takes the first whole number of intervals that
reaches its share. -/
theorem Trial.Failed.answered_eq (hb : b.AtOnce) (hPoll : 0 < poll) {t : Trial}
    {s s' : σ} (h : t.Failed b wanted share poll s s') :
    t.last.answered = t.began + share ⌈/⌉ poll * poll := by
  have hPolled : Polled b (.probe t.candidate) wanted.verdict
        (stateLate t.candidate wanted share) poll
      (t.began + share) t.began s t.earlier t.last
      (⟨.failed (stateLate t.candidate wanted share (t.looks.map Look.reply)),
          t.last.answered, s', t.trace⟩ : Run Call σ Entry Unit) :=
    { looks := h.looks
      trace := rfl
      now := rfl
      passed := h.missed
      ending := by rw [h.unmet]; rfl
      due := fun _ => h.due }
  have hSchedule := hPolled.onSchedule hb hPoll
  have hNow := hSchedule.now
  rcases hSchedule.ending with
      ⟨_, _, _, -, -, hMet, hEnding, -⟩ | ⟨-, hLength, -⟩
  · -- a reply that ends a wait for a state ends it well, and this one failed
    obtain ⟨rfl, -⟩ := WaitState.verdict_eq_some hMet
    cases hEnding
  · rwa [hLength, Nat.add_sub_cancel] at hNow

/-- **How long candidates take that are all rejected.** The induction is on the
trials, each of which begins when the one before it has ended. -/
theorem Rejections.now_eq (hb : b.AtOnce) (hPoll : 0 < poll) {now now' : Time}
    {s s' : σ} {rejected : List Trial}
    (h : Rejections b wanted share poll now s rejected now' s') :
    now' = now + rejected.length * (share ⌈/⌉ poll) * poll := by
  induction h with
  | nil => rw [List.length_nil, Nat.zero_mul, Nat.zero_mul, Nat.add_zero]
  | @cons s s' s'' t rest now'' hFailed hRest ih =>
      rw [ih, hFailed.answered_eq hb hPoll, List.length_cons, Nat.succ_mul,
        Nat.add_mul, Nat.add_assoc, Nat.add_comm (share ⌈/⌉ poll * poll)]

/-! ## One course of trials -/

/-- The trial is over with its last look: if that did not find the candidate,
the share is used up. -/
def Trial.Over (wanted : WaitState) (share : Duration) (t : Trial) : Prop :=
  wanted.verdict t.last.reply = none → t.began + share ≤ t.last.answered

theorem Trial.Failed.over {t : Trial} {s s' : σ}
    (h : t.Failed b wanted share poll s s') :
    t.Over wanted share := fun _ => h.due

theorem Trial.Succeeded.verdict_ne_none {t : Trial} {s s' : σ}
    (h : t.Succeeded b wanted share poll s s') :
    wanted.verdict t.last.reply ≠ none := by
  obtain ⟨state, hSeen, hHolds⟩ := h.met
  simp [hSeen, WaitState.verdict, hHolds]

theorem Trial.Succeeded.over {t : Trial} {s s' : σ}
    (h : t.Succeeded b wanted share poll s s') :
    t.Over wanted share := fun hNone => absurd hNone h.verdict_ne_none

/-- Two trials of a candidate that begin at one time and in one state end with
the same look, and leave the same state behind. -/
theorem Trial.Ran.unique {t t₂ : Trial} {s s' s₂' : σ}
    (h : t.Ran b wanted share poll s s') (h₂ : t₂.Ran b wanted share poll s s₂')
    (hOver : t.Over wanted share) (hOver₂ : t₂.Over wanted share)
    (hCandidate : t.candidate = t₂.candidate) (hBegan : t.began = t₂.began) :
    t.last = t₂.last ∧ s' = s₂' := by
  obtain ⟨candidate, began, earlier, last⟩ := t
  obtain ⟨_, _, earlier₂, last₂⟩ := t₂
  obtain rfl : candidate = _ := hCandidate
  obtain rfl : began = _ := hBegan
  exact h.looks.unique h₂.looks h.missed h₂.missed
    (fun hGoesOn => Nat.not_le_of_lt hGoesOn.2 (hOver hGoesOn.1))
    (fun hGoesOn => Nat.not_le_of_lt hGoesOn.2 (hOver₂ hGoesOn.1))

theorem Rejections.head {t : Trial} {rest : List Trial} {now now' : Time}
    {s s' : σ} (h : Rejections b wanted share poll now s (t :: rest) now' s') :
    ∃ between, t.began = now ∧ t.Failed b wanted share poll s between ∧
      Rejections b wanted share poll t.last.answered between rest now' s' := by
  cases h with
  | cons hFailed hRest => exact ⟨_, rfl, hFailed, hRest⟩

/-- **If a candidate is chosen, the candidates are not all rejected.** The
induction is on the trials before the chosen one. Up to it both courses are the
same, and there the one finds what the other does not. -/
theorem Chosen.not_rejections {candidates : List String} {now now' : Time}
    {s s' s'' : σ} {rejected all : List Trial} {chosen : Trial}
    (h : Chosen b wanted share poll candidates now s rejected chosen s')
    (hAll : Rejections b wanted share poll now s all now' s'') :
    candidates ≠ all.map Trial.candidate := by
  rintro rfl
  obtain ⟨hListed, between, hRejected, hChosen⟩ := h
  induction rejected generalizing all now s with
  | nil =>
      cases hRejected
      cases all with
      | nil => simp at hListed
      | cons t rest =>
          obtain ⟨_, hBegan, hFailed, -⟩ := hAll.head
          have hCandidate : chosen.candidate = t.candidate := by
            simpa using hListed
          obtain ⟨hLast, -⟩ :=
            hChosen.toRan.unique hFailed.toRan hChosen.over hFailed.over
              hCandidate hBegan.symm
          exact hChosen.verdict_ne_none (hLast ▸ hFailed.unmet)
  | cons t rest ih =>
      obtain ⟨after, hBegan, hFailed, hRest⟩ := hRejected.head
      cases all with
      | nil => simp at hListed
      | cons t₂ rest₂ =>
          obtain ⟨_, hBegan₂, hFailed₂, hRest₂⟩ := hAll.head
          obtain ⟨hCandidate, hLater⟩ : t.candidate = t₂.candidate ∧
              rest.map Trial.candidate ++ [chosen.candidate] <+:
                rest₂.map Trial.candidate := by
            simpa using hListed
          obtain ⟨hLast, rfl⟩ :=
            hFailed.toRan.unique hFailed₂.toRan hFailed.over hFailed₂.over
              hCandidate
            (hBegan.trans hBegan₂.symm)
          exact ih (hLast ▸ hRest₂) hLater hRest

end

/-! ## Steps that find none of their candidates -/

section

variable {σ : Type} {b : Browser σ} {o : Options}

/-- None of the candidates of a step resolves if the step begins at this time:
there is none that the browser shows in the wanted state in its own window,
which opens when those before it were rejected. -/
def Unresolved (b : Browser σ) (o : Options) (step : Step) (choice : Choice)
    (now : Time) (s : σ) : Prop :=
  ∀ rejected chosen s', ¬ Chosen b choice.wanted
    (candidateShare o (step.limit o) choice.candidates.length) o.poll
      choice.candidates now s rejected
    chosen s'

/-- **The search for a candidate comes to nothing exactly if none resolves.** -/
theorem unresolved_iff (hb : b.AtOnce) (hPoll : 0 < o.poll) (step : Step)
    (choice : Choice) (now : Time) (s : σ) :
    Unresolved b o step choice now s ↔
      ((step.resolve o choice.candidates choice.wanted).play b none now
        s).reply.value? = none := by
  rcases play_resolve hPoll step choice.candidates choice.wanted now s
    (hb.concluded _ now s) with
    ⟨rejected, chosen, s', hChosen, hResolve⟩ | ⟨all, now', s', hAll,
      hCandidates, hResolve⟩
  · rw [hResolve]
    exact ⟨fun hNone => absurd hChosen (hNone rejected chosen s'), nofun⟩
  · rw [hResolve]
    exact ⟨fun _ => rfl, fun _ rejected chosen s' hChosen =>
      hChosen.not_rejections hAll hCandidates⟩

/-- A step that finds none of its candidates fails when the last of them is
rejected. -/
theorem play_perform_of_unresolved (hb : b.AtOnce) (hPoll : 0 < o.poll)
    {step : Step} {choice : Choice} (hChoice : step.choice? = some choice)
    {now : Time} {s : σ} (hNone : Unresolved b o step choice now s) :
    ∃ t s' trace, (step.perform o).play b none now s =
      ⟨.failed t, now + choice.candidates.length *
        (candidateShare o (step.limit o) choice.candidates.length ⌈/⌉ o.poll) *
          o.poll, s', trace⟩ := by
  obtain ⟨note, hPerform⟩ := Step.perform_of_choice (o := o) hChoice
  rcases play_resolve hPoll step choice.candidates choice.wanted now s
    (hb.concluded _ now s) with
    ⟨rejected, chosen, s', hChosen, -⟩ | ⟨rejected, now', s', hRejections,
      hAll, hResolve⟩
  · exact absurd hChosen (hNone rejected chosen s')
  · have hLength : choice.candidates.length = rejected.length := by
      rw [hAll, List.length_map]
    rw [hPerform, Dialogue.play_bind, hResolve, hRejections.now_eq hb hPoll,
      ← hLength]
    exact ⟨_, s', _, rfl⟩

end

/-- **A step that finds none of its candidates gives up on schedule.** The
share of each candidate lies between the floor and the limit of the step; a
single one has the whole limit; and together the shares come to no more than
the limit or, where that is more, the floors. The number of candidates fits a
word of 32 bits without becoming zero, so the limit can be divided by that
word. If none of the candidates resolves, and the browser answers at once, the
step takes as many poll intervals for each of them as reach its share, which is
less than an interval for each beyond what the shares come to, and then it
fails. Only a session whose time is over before that cuts it off. -/
theorem gives_up_on_schedule {σ : Type} (o : Options) (hPoll : 0 < o.poll)
    (limit : Duration) {n : Nat} (hSome : 1 ≤ n) (hWord : n < 2 ^ 32) :
    let least := min o.minCandidate limit
    let share := candidateShare o limit n
    let taken := n * (share ⌈/⌉ o.poll) * o.poll
    (least ≤ share ∧ share ≤ limit ∧ (n = 1 → share = limit) ∧
        n * share ≤ max limit (n * least)) ∧
      (1 < n → UInt32.ofNat n ≠ 0 ∧
        share = max (limit / (UInt32.ofNat n).toNat) least) ∧
      taken < max limit (n * least) + n * o.poll ∧
      ∀ (b : Browser σ) (step : Step) (choice : Choice) (deadline : Option Time)
      (now : Time) (s : σ),
        b.AtOnce → step.choice? = some choice → step.limit o = limit →
        choice.candidates.length = n → Unresolved b o step choice now s →
        let run := (step.perform o).play b deadline now s
        (isPast deadline (now + taken) = false → run.ending ≠ .cutOff) ∧
          (run.ending ≠ .cutOff → run.now = now + taken ∧
            ∃ t, run.ending = .failed t) := by
  intro least share taken
  have hTogether := mul_candidateShare_le o limit n
  refine ⟨⟨floor_le_candidateShare o limit n, candidateShare_le o limit n, ?_,
      hTogether⟩, fun hMany => candidateShare_eq_word o limit hMany hWord, ?_,
    ?_⟩
  · rintro rfl
    rfl
  · calc taken = n * (share ⌈/⌉ o.poll * o.poll) := Nat.mul_assoc _ _ _
      _ < n * (share + o.poll) :=
      Nat.mul_lt_mul_of_pos_left (ceilDiv_mul_lt share hPoll) hSome
      _ = n * share + n * o.poll := Nat.mul_add _ _ _
      _ ≤ max limit (n * least) + n * o.poll := Nat.add_le_add_right hTogether _
  · rintro b step choice deadline now s hb hChoice rfl rfl hNone run
    obtain ⟨t, s', trace, hWhole⟩ :=
      play_perform_of_unresolved hb hPoll hChoice hNone
    refine ⟨fun hInTime => ?_, fun hEnd => ?_⟩
    · have hRun : run = (step.perform o).play b none now s :=
        Dialogue.play_of_inTime b _ (by rw [hWhole]; exact hInTime)
      rw [hRun, hWhole]
      exact nofun
    · have hRun : run = (step.perform o).play b none now s :=
        Dialogue.play_of_ne_cutOff b _ hEnd
      rw [hRun, hWhole]
      exact ⟨rfl, t, rfl⟩

open Duration in
/-- A page with three buttons, none of which is there when it is looked for:
the first comes up too late, the second has gone by then, and the third is
covered when its time comes. -/
def elusive : Browser Unit where
  perform
    | .probe "#a", now, s =>
      .finish (.answer (.ok (if ofMillis 300 ≤ now then .visible else .hidden)))
        s
    | .probe "#b", now, s =>
      .finish
        (.answer (.ok (if now < ofMillis 200 then .visible else .detached))) s
    | .probe "#c", now, s =>
      .finish
        (.answer (if now < ofMillis 400 then .ok .visible
            else .error (.plain "covered"))) s
    | _, _, s => .finish (.answer (.error (.plain "gone"))) s

theorem elusive_atOnce : elusive.AtOnce := by
  intro c now s
  unfold elusive
  dsimp only
  split <;> trivial

open Duration in
/-- A step that may click any of the three has 400 ms. The floor of 150 ms is
more than a third of that, so the shares come to 450 ms; and each button is
given up at the second pause of 100 ms, so the step takes 600 ms. A session
that ends at that very moment does not cut it off. -/
theorem gives_up_on_schedule_elusive :
    let step := Step.ofInstruction
      (Instruction.make "click_any"
          [("selectors", Json.ofTexts ["#a", "#b", "#c"])])
    let choice : Choice := ⟨["#a", "#b", "#c"], .visible, true⟩
    let limit := ofMillis 400
    let taken := ofMillis 600
    let o : Options := ⟨limit, taken, 0, ofMillis 1, ofMillis 100, ofMillis 150⟩
    let run := (step.perform o).play elusive (some taken) 0 ()
    let looks := fun selector => List.map fun ms =>
      (ofMillis ms, Call.probe selector)
    (0 < o.poll ∧ 1 ≤ 3 ∧ 3 < 2 ^ 32 ∧ elusive.AtOnce ∧
        step.choice? = some choice ∧
        step.limit o = limit ∧ choice.candidates.length = 3 ∧
        Unresolved elusive o step choice 0 ()) ∧
      (ofMillis 150 ≤ candidateShare o limit 3 ∧
        candidateShare o limit 3 ≤ limit ∧
        3 * candidateShare o limit 3 ≤ ofMillis 450) ∧
      (run.now = taken ∧ (∃ t, run.ending = .failed t) ∧
        taken < ofMillis 450 + 3 * o.poll) ∧
      run.questions = looks "#a" [0, 100, 200] ++ looks "#b" [200, 300, 400] ++
        looks "#c" [400, 500, 600] := by
  intro step choice limit taken o run looks
  have hPoll : 0 < o.poll := by decide
  have hChoice : step.choice? = some choice := by decide +kernel
  have hLimit : step.limit o = limit := by decide +kernel
  have hNone : Unresolved elusive o step choice 0 () :=
    (unresolved_iff elusive_atOnce hPoll step choice 0 ()).mpr
      (by decide +kernel)
  have hLeast : min o.minCandidate limit = ofMillis 150 := by decide +kernel
  have hMost : max limit (3 * ofMillis 150) = ofMillis 450 := by decide +kernel
  have hTaken : 3 * (candidateShare o limit 3 ⌈/⌉ o.poll) * o.poll = taken := by
    decide +kernel
  obtain ⟨⟨hFloor, hShare, -, hTogether⟩, -, hBound, hSteps⟩ :=
    @gives_up_on_schedule Unit o hPoll limit 3 (by decide) (by decide)
  obtain ⟨hInTime, hEnd⟩ :=
    hSteps elusive step choice (some taken) 0
      () elusive_atOnce hChoice hLimit rfl hNone
  rw [hLeast] at hFloor hTogether hBound
  rw [hMost] at hTogether hBound
  rw [hTaken, Nat.zero_add] at hInTime hEnd
  rw [hTaken] at hBound
  obtain ⟨hNow, hFailed⟩ := hEnd (hInTime (by decide +kernel))
  exact ⟨⟨hPoll, by decide, by decide, elusive_atOnce, hChoice, hLimit, rfl,
      hNone⟩, ⟨hFloor, hShare, hTogether⟩, ⟨hNow, hFailed, hBound⟩,
    by decide +kernel⟩

end Session

end Errand
