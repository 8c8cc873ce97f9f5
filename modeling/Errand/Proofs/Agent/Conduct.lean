import Errand.Proofs.Agent.Traffic

/-!
# The gate keeps overlapping calls apart

What is true of calls that overlap is shown here by one invariant of their
traffic. It ties the gate to the calls: at most one call has the permit, the
gate is taken exactly while one has it, and every call has come as far as its
marks in the history say.

## Main results

* `Reached.orderly`: every traffic keeps the invariant.
* `Reached.unique`, `Reached.without`: where the calls stand is settled by
  their moves, and a call that was turned away can be deleted from them.
* `Reached.conduct_of_calls`: what can be said of the calls, whatever the order
  of their moves.
-/

namespace Errand.Agent

/-! ## The invariant -/

/-- A call stands where its marks say: it was turned away without a mark, or it
has the permit and this much of its run is done, or it has returned from a run
that was gone through or broke down. -/
inductive Stands (a : Agent) (past : List Event) (call : Nat) :
    Option Standing → Prop where
  | absent (hMarks : marks call past = []) : Stands a past call none
  | turnedAway {r : Response} (hAway : r.outcome? = none)
      (hMarks : marks call past = []) :
      Stands a past call (some (.returned r))
  | working {q : Query} {n : Nat} {left : Work Response}
      (hAsked : Asked a past call q) (hRemains : Remains q.text n left)
      (hMarks : marks call past = exchanges n) :
      Stands a past call (some (.working q (signature q.text) left))
  | asking {q : Query} {n : Nat} {c : Consultation}
      {next : Except Trouble c.Answer → Work Response}
      (hAsked : Asked a past call q) (hRemains : Remains q.text n (.ask c next))
      (hMarks : marks call past = exchanges n ++ [.asked c.stage]) :
      Stands a past call (some (.asking q (signature q.text) c next))
  | broken {q : Query} {n : Nat} {stage : Stage} (hAsked : Asked a past call q)
      (hStage : stages[n]? = some stage)
      (hMarks : marks call past = exchanges n ++ [.asked stage, .brokeDown]) :
      Stands a past call (some (.broken q (signature q.text)))
  | returned {r : Response} (hDone : r.status = "completed")
      (hMarks : Complete (marks call past)) :
      Stands a past call (some (.returned r))

/-- A call does not come to stand elsewhere by what others do. -/
theorem Stands.other {a : Agent} {past : List Event} {call : Nat}
    {x : Option Standing} (h : Stands a past call x) {e : Event}
    (hOther : e.call ≠ call) : Stands a (e :: past) call x := by
  have hSame := marks_of_ne hOther past
  cases h with
  | absent hMarks => exact .absent (hSame.trans hMarks)
  | turnedAway hAway hMarks => exact .turnedAway hAway (hSame.trans hMarks)
  | working hAsked hRemains hMarks =>
      exact .working (hAsked.cons e) hRemains (hSame.trans hMarks)
  | asking hAsked hRemains hMarks =>
      exact .asking (hAsked.cons e) hRemains (hSame.trans hMarks)
  | broken hAsked hStage hMarks =>
      exact .broken (hAsked.cons e) hStage (hSame.trans hMarks)
  | returned hDone hMarks => exact .returned hDone (hSame ▸ hMarks)

/-- The marks of a call are in order wherever it stands. -/
theorem Stands.inOrder {a : Agent} {past : List Event} {call : Nat}
    {x : Option Standing} (h : Stands a past call x) :
    InOrder (marks call past) := by
  cases h with
  | absent hMarks => exact ⟨0, by omega, .inl hMarks⟩
  | turnedAway hAway hMarks => exact ⟨0, by omega, .inl hMarks⟩
  | @working q n left hAsked hRemains hMarks =>
      refine ⟨n, ?_, .inl hMarks⟩
      cases hRemains <;> omega
  | @asking q n c next hAsked hRemains hMarks =>
      have hStage := hRemains.ask.1
      exact ⟨n, Nat.le_of_lt (lt_of_stages hStage),
        .inr ⟨_, hStage, .inl hMarks⟩⟩
  | @broken q n stage hAsked hStage hMarks =>
      exact ⟨n, Nat.le_of_lt (lt_of_stages hStage),
        .inr ⟨_, hStage, .inr hMarks⟩⟩
  | returned hDone hMarks =>
      rcases hMarks with hAll | ⟨n, stage, hStage, hMarks⟩
      · exact ⟨3, Nat.le_refl 3, .inl hAll⟩
      · exact ⟨n, Nat.le_of_lt (lt_of_stages hStage),
          .inr ⟨_, hStage, .inr hMarks⟩⟩

/-- What the gate remembers is the signature of the call that left last, and
when it left. -/
def Remembers (a : Agent) (last : Option (String × Time)) (past : List Event)
    (g : Gate) : Prop :=
  match lastLeft past with
  | none => g.last = last
  | some (call, at_) =>
    ∃ q, Asked a past call q ∧ g.last = some (signature q.text, at_)

/-- **The invariant of the traffic.** -/
structure Orderly (a : Agent) (last : Option (String × Time))
    (past : List Event) (st : Traffic) : Prop where
  stands : ∀ i, Stands a past i (st.calls i)
  single : ∀ i j, st.Inside i → st.Inside j → i = j
  running : st.gate.running = true ↔ ∃ i, st.Inside i
  remembers : Remembers a last past st.gate

namespace Traffic

theorem calls_set (st : Traffic) (call : Nat) (x : Standing) :
    (st.set call x).calls call = some x :=
  if_pos rfl

theorem calls_set_of_ne (st : Traffic) {call i : Nat} (x : Standing)
    (h : i ≠ call) :
    (st.set call x).calls i = st.calls i := if_neg h

theorem inside_set (st : Traffic) (call : Nat) (x : Standing) :
    (st.set call x).Inside call ↔ x.isInside = true := by
  unfold Inside
  rw [calls_set, Option.any_some]

theorem inside_set_of_ne (st : Traffic) {call i : Nat} (x : Standing)
    (h : i ≠ call) : (st.set call x).Inside i ↔ st.Inside i := by
  unfold Inside
  rw [calls_set_of_ne st x h]

theorem inside_of_calls {st : Traffic} {call : Nat} {x : Standing}
    (h : st.calls call = some x) : st.Inside call ↔ x.isInside = true := by
  unfold Inside
  rw [h, Option.any_some]

end Traffic

/-- A move that is not a return leaves it as it is which call left last. -/
theorem Remembers.cons {a : Agent} {last : Option (String × Time)}
    {past : List Event} {g : Gate} (h : Remembers a last past g) {e : Event}
    (hLeft : lastLeft (e :: past) = lastLeft past) :
    Remembers a last (e :: past) g := by
  unfold Remembers at h ⊢
  rw [hLeft]
  cases hLast : lastLeft past with
  | none => rw [hLast] at h; exact h
  | some l =>
      rw [hLast] at h
      obtain ⟨q, hAsked, hEq⟩ := h
      exact ⟨q, hAsked.cons e, hEq⟩

namespace Orderly

variable {a : Agent} {last : Option (String × Time)} {past : List Event}
  {st : Traffic}

theorem start : Orderly a last [] ⟨⟨false, last⟩, fun _ => none⟩ where
  stands _ := .absent rfl
  single _ _ hi := nomatch hi
  running := ⟨nofun, fun ⟨_, hi⟩ => nomatch hi⟩
  remembers := rfl

/-- Where the calls stand after one of them moved. -/
theorem stands_set (h : Orderly a last past st) (g : Gate) {e : Event}
    {x : Standing} (hx : Stands a (e :: past) e.call (some x)) :
    ∀ i, Stands a (e :: past) i
      (((⟨g, st.calls⟩ : Traffic).set e.call x).calls i) := by
  intro i
  by_cases hEq : i = e.call
  · subst hEq
    rw [Traffic.calls_set]
    exact hx
  · rw [Traffic.calls_set_of_ne _ _ hEq]
    exact (h.stands i).other (Ne.symm hEq)

/-- **A move between the gate and the return.** The call had the permit before
and has it still. -/
theorem moved (h : Orderly a last past st) {e : Event} {x : Standing}
    (hBefore : st.Inside e.call) (hInside : x.isInside = true)
    (hx : Stands a (e :: past) e.call (some x))
    (hLeft : lastLeft (e :: past) = lastLeft past) :
    Orderly a last (e :: past) (st.set e.call x) := by
  have hSame : ∀ i, (st.set e.call x).Inside i ↔ st.Inside i := by
    intro i
    by_cases hEq : i = e.call
    · subst hEq
      exact (Traffic.inside_set st e.call x).trans ⟨fun _ => hBefore,
        fun _ => hInside⟩
    · exact Traffic.inside_set_of_ne st x hEq
  exact
    { stands := h.stands_set st.gate hx
      single := fun i j hi hj =>
        h.single i j ((hSame i).mp hi) ((hSame j).mp hj)
      running := h.running.trans (exists_congr fun i => (hSame i).symm)
      remembers := h.remembers.cons hLeft }

/-- **A return.** The call that returns was the only one to have the permit, so
nobody has it then.
-/
theorem left (h : Orderly a last past st) {call : Nat} {q : Query}
    {x : Standing} {r : Response} {at_ : Time} (hCall : st.calls call = some x)
    (hInside : x.isInside = true) (hAsked : Asked a past call q)
    (hr : Stands a (.left call at_ :: past) call (some (.returned r))) :
    Orderly a last (.left call at_ :: past)
      (st.leave call (signature q.text) at_ r) := by
  have hNobody : ∀ i, ¬(st.leave call (signature q.text) at_ r).Inside i := by
    intro i hi
    unfold Traffic.leave at hi
    by_cases hEq : i = call
    · subst hEq
      exact Bool.false_ne_true ((Traffic.inside_set _ i _).mp hi)
    · have hStill : st.Inside i := (Traffic.inside_set_of_ne _ _ hEq).mp hi
      exact hEq (h.single i call hStill
          ((Traffic.inside_of_calls hCall).mpr hInside))
  exact
    { stands := h.stands_set _ hr
      single := fun i j hi => absurd hi (hNobody i)
      running := ⟨nofun, fun ⟨i, hi⟩ => absurd hi (hNobody i)⟩
      remembers := ⟨q, hAsked.cons _, rfl⟩ }

/-- **An arrival.** A call that is turned away has no permit; one that is let
through finds that nobody has. -/
theorem arrived (h : Orderly a last past st) {call : Nat}
    (hNew : st.calls call = none) (raw : String) (at_ : Time) :
    Orderly a last (.arrived call raw at_ :: past)
      (st.arrive a call raw at_) := by
  have hMarks : marks call (.arrived call raw at_ :: past) = [] := by
    rw [marks_cons]
    have hStands := h.stands call
    rw [hNew] at hStands
    cases hStands with
    | absent hMarks => rw [hMarks]; rfl
  have hOutside : ¬st.Inside call := by
    unfold Traffic.Inside
    rw [hNew]
    exact Bool.false_ne_true
  rcases st.arrive_eq a call raw at_ with ⟨r, hAway, -, hArrive⟩ | ⟨q, hClean,
    hFree, -, hArrive⟩
  · rw [hArrive]
    have hSame : ∀ i, (st.set call (.returned r)).Inside i ↔ st.Inside i := by
      intro i
      by_cases hEq : i = call
      · subst hEq
        rw [Traffic.inside_set]
        exact ⟨nofun, fun hi => absurd hi hOutside⟩
      · exact Traffic.inside_set_of_ne st _ hEq
    exact
      { stands := h.stands_set st.gate (.turnedAway hAway hMarks)
        single := fun i j hi hj =>
          h.single i j ((hSame i).mp hi) ((hSame j).mp hj)
        running := h.running.trans (exists_congr fun i => (hSame i).symm)
        remembers := h.remembers.cons rfl }
  · rw [hArrive]
    have hNobody : ∀ i, ¬st.Inside i := by
      intro i hi
      rw [h.running.mpr ⟨i, hi⟩] at hFree
      cases hFree
    have hOnly :
        ∀ i, (Traffic.set ⟨{ st.gate with running := true }, st.calls⟩ call
          (.working q (signature q.text) (run q.text))).Inside i →
            i = call := by
      intro i hi
      by_cases hEq : i = call
      · exact hEq
      · exact absurd ((Traffic.inside_set_of_ne _ _ hEq).mp hi) (hNobody i)
    exact
      { stands := h.stands_set _
          (.working ⟨raw, at_, List.mem_cons_self, hClean⟩ .planning hMarks)
        single := fun i j hi hj => (hOnly i hi).trans (hOnly j hj).symm
        running :=
          ⟨fun _ => ⟨call, (Traffic.inside_set _ call _).mpr rfl⟩, fun _ => rfl⟩
        remembers := h.remembers.cons rfl }

end Orderly

/-- **Every traffic is orderly.** The induction is on the moves. -/
theorem Reached.orderly {a : Agent} {last : Option (String × Time)}
    {past : List Event} {st : Traffic} (h : Reached a last past st) :
    Orderly a last past st := by
  induction h with
  | start => exact .start
  | arrived _ hNew raw at_ ih => exact ih.arrived hNew raw at_
  | @asked past st call q s c next _ hCall ih =>
      have hStands := ih.stands call
      rw [hCall] at hStands
      cases hStands with
      | @working _ n _ hAsked hRemains hMarks =>
          refine ih.moved ((Traffic.inside_of_calls hCall).mpr rfl) rfl ?_ rfl
          refine .asking (hAsked.cons _) hRemains
            ((marks_asked call c past).trans ?_)
          rw [hMarks]
  | @answered past st call q s c next _ hCall r ih =>
      have hStands := ih.stands call
      rw [hCall] at hStands
      cases hStands with
      | @asking _ n _ _ hAsked hRemains hMarks =>
          obtain ⟨hStage, hNext⟩ := hRemains.ask
          refine ih.moved ((Traffic.inside_of_calls hCall).mpr rfl) rfl ?_ rfl
          refine .working (hAsked.cons _) (hNext r)
            ((marks_answered call c r past).trans ?_)
          rw [hMarks, exchanges_succ hStage, List.append_assoc]
          rfl
  | @brokeDown past st call q s c next _ hCall ih =>
      have hStands := ih.stands call
      rw [hCall] at hStands
      cases hStands with
      | @asking _ n _ _ hAsked hRemains hMarks =>
          refine ih.moved ((Traffic.inside_of_calls hCall).mpr rfl) rfl ?_ rfl
          refine .broken (hAsked.cons _) hRemains.ask.1
            ((marks_brokeDown call past).trans ?_)
          rw [hMarks, List.append_assoc]
          rfl
  | @finished past st call q s r _ hCall at_ ih =>
      have hStands := ih.stands call
      rw [hCall] at hStands
      cases hStands with
      | @working _ n _ hAsked hRemains hMarks =>
          obtain ⟨rfl, kind, o, text, rfl⟩ := hRemains.of_done
          refine ih.left hCall rfl hAsked (.returned rfl ?_)
          rw [marks_left, hMarks]
          exact .inl rfl
  | @interrupted past st call q s _ hCall at_ ih =>
      have hStands := ih.stands call
      rw [hCall] at hStands
      cases hStands with
      | @broken _ n stage hAsked hStage hMarks =>
          refine ih.left hCall rfl hAsked
            (.returned (status_interrupted q.text) ?_)
          rw [marks_left, hMarks]
          exact .inr ⟨n, stage, hStage, rfl⟩

/-! ## Calls that were turned away -/

/-- The moves of the other calls. -/
def others (call : Nat) (past : List Event) : List Event := past.filter fun e =>
    e.call ≠ call

theorem others_own {call : Nat} (e : Event) (past : List Event)
    (h : e.call = call) : others call (e :: past) = others call past := by
  refine List.filter_cons_of_neg ?_
  rw [h]
  simp only [ne_eq, not_true_eq_false, decide_false, Bool.false_eq_true,
    not_false_eq_true]

theorem others_cons {call : Nat} (e : Event) (past : List Event)
    (h : e.call ≠ call) :
    others call (e :: past) = e :: others call past :=
  List.filter_cons_of_pos (decide_eq_true h)

namespace Traffic

/-- The call was not made, or it was turned away. -/
def Away (st : Traffic) (call : Nat) : Prop :=
  ∀ x, st.calls call = some x → ∃ r, x = .returned r ∧ r.outcome? = none

theorem calls_without (st : Traffic) {call i : Nat} (h : i ≠ call) :
    (st.without call).calls i = st.calls i := if_neg h

theorem without_set (st : Traffic) (call : Nat) (x : Standing) :
    (st.set call x).without call = st.without call := by
  unfold without set
  refine congrArg _ (funext fun i => ?_)
  by_cases hEq : i = call
  · rw [if_pos hEq, if_pos hEq]
  · rw [if_neg hEq, if_neg hEq]
    exact if_neg hEq

theorem without_set_of_ne (st : Traffic) {call i : Nat} (x : Standing)
    (h : i ≠ call) : (st.set i x).without call = (st.without call).set i x := by
  unfold without set
  refine congrArg _ (funext fun j => ?_)
  by_cases hEq : j = call
  · simp only [hEq, if_true, if_neg (Ne.symm h)]
  · simp only [hEq, if_false]

theorem without_arrive_of_ne (st : Traffic) (a : Agent) {call i : Nat}
    (raw : String) (at_ : Time) (h : i ≠ call) :
    (st.arrive a i raw at_).without call =
      (st.without call).arrive a i raw at_ := by
  have hGate : (st.without call).gate = st.gate := rfl
  unfold arrive
  rw [hGate]
  cases a.arrive st.gate raw at_ with
  | mk arrival g => cases arrival <;> exact without_set_of_ne _ _ h

theorem away_of_set {st : Traffic} {call i : Nat} {x : Standing}
    (h : (st.set i x).Away call) (hNe : i ≠ call) : st.Away call := by
  intro y hy
  rw [← calls_set_of_ne st x (Ne.symm hNe)] at hy
  exact h y hy

theorem away_of_arrive {st : Traffic} {a : Agent} {call i : Nat} {raw : String}
    {at_ : Time} (h : (st.arrive a i raw at_).Away call) (hNe : i ≠ call) :
    st.Away call := by
  rcases st.arrive_eq a i raw at_ with ⟨r, -, -, hArrive⟩ | ⟨q, -, -,
    -, hArrive⟩
  · rw [hArrive] at h
    exact away_of_set h hNe
  · rw [hArrive] at h
    exact away_of_set h hNe

/-- A call that has the permit was not turned away. -/
theorem not_away_of_inside {st : Traffic} {call : Nat} {x : Standing}
    (hInside : x.isInside = true) : ¬(st.set call x).Away call := by
  intro hAway
  obtain ⟨r, rfl, -⟩ := hAway x (calls_set st call x)
  cases hInside

end Traffic

/-- Where the calls stand is settled by their moves. -/
theorem Reached.unique {a : Agent} {last : Option (String × Time)}
    {past : List Event} {st st' : Traffic} (h : Reached a last past st)
    (h' : Reached a last past st') : st' = st := by
  induction h generalizing st' with
  | start => cases h' with | start => rfl
  | arrived _ hNew raw at_ ih =>
      cases h' with
      | arrived hBefore _ _ _ => rw [ih hBefore]
  | asked _ hCall ih =>
      cases h' with
      | asked hBefore hCall' =>
          obtain rfl := ih hBefore
          rw [hCall] at hCall'
          cases hCall'
          rfl
  | answered _ hCall r ih =>
      cases h' with
      | answered hBefore hCall' =>
          obtain rfl := ih hBefore
          rw [hCall] at hCall'
          cases hCall'
          rfl
  | brokeDown _ hCall ih =>
      cases h' with
      | brokeDown hBefore hCall' =>
          obtain rfl := ih hBefore
          rw [hCall] at hCall'
          cases hCall'
          rfl
  | finished _ hCall at_ ih =>
      cases h' with
      | finished hBefore hCall' =>
          obtain rfl := ih hBefore
          rw [hCall] at hCall'
          cases hCall'
          rfl
      | interrupted hBefore hCall' =>
          obtain rfl := ih hBefore
          rw [hCall] at hCall'
          cases hCall'
  | interrupted _ hCall at_ ih =>
      cases h' with
      | finished hBefore hCall' =>
          obtain rfl := ih hBefore
          rw [hCall] at hCall'
          cases hCall'
      | interrupted hBefore hCall' =>
          obtain rfl := ih hBefore
          rw [hCall] at hCall'
          cases hCall'
          rfl

/-- A run that has ended has an outcome. -/
theorem Reached.outcome_of_done {a : Agent} {last : Option (String × Time)}
    {past : List Event} {st : Traffic} (h : Reached a last past st) {call : Nat}
    {q : Query} {s : String} {r : Response}
    (hCall : st.calls call = some (.working q s (.done r))) :
    r.outcome? ≠ none := by
  have hStands := h.orderly.stands call
  rw [hCall] at hStands
  cases hStands with
  | working hAsked hRemains hMarks =>
      obtain ⟨-, kind, o, text, rfl⟩ := hRemains.of_done
      exact nofun

/-- **A call that was turned away can be deleted.** Without its moves the
history is one of the other calls, which stand as they do with them, at the
same gate. -/
theorem Reached.without {a : Agent} {last : Option (String × Time)}
    {past : List Event} {st : Traffic} (h : Reached a last past st) {call : Nat}
    (hAway : st.Away call) :
    Reached a last (others call past) (st.without call) := by
  induction h with
  | start =>
      have hEmpty : (Traffic.without ⟨⟨false, last⟩, fun _ => none⟩ call) =
          ⟨⟨false, last⟩, fun _ => none⟩ := by
        unfold Traffic.without
        exact congrArg _ (funext fun i => ite_self none)
      rw [hEmpty]
      exact .start
  | @arrived past st i _ hNew raw at_ ih =>
      by_cases hEq : i = call
      · subst hEq
        rw [@others_own i (.arrived i raw at_) past rfl]
        rcases st.arrive_eq a i raw at_ with ⟨r, -, -, hArrive⟩ | ⟨q, -, -,
          -, hArrive⟩
        · rw [hArrive, Traffic.without_set]
          exact ih fun x hx => by rw [hNew] at hx; cases hx
        · rw [hArrive] at hAway
          exact absurd hAway (Traffic.not_away_of_inside rfl)
      · rw [others_cons (.arrived i raw at_) past hEq,
          Traffic.without_arrive_of_ne st a raw at_ hEq]
        exact (ih (Traffic.away_of_arrive hAway hEq)).arrived
          ((Traffic.calls_without st hEq).trans hNew) raw at_
  | @asked past st i q s c next _ hCall ih =>
      by_cases hEq : i = call
      · subst hEq
        exact absurd hAway (Traffic.not_away_of_inside rfl)
      · rw [others_cons (.asked i c) past hEq,
          Traffic.without_set_of_ne st _ hEq]
        exact (ih (Traffic.away_of_set hAway hEq)).asked
          ((Traffic.calls_without st hEq).trans hCall)
  | @answered past st i q s c next _ hCall r ih =>
      by_cases hEq : i = call
      · subst hEq
        exact absurd hAway (Traffic.not_away_of_inside rfl)
      · rw [others_cons (.answered i c r) past hEq,
          Traffic.without_set_of_ne st _ hEq]
        exact (ih (Traffic.away_of_set hAway hEq)).answered
          ((Traffic.calls_without st hEq).trans hCall) r
  | @brokeDown past st i q s c next _ hCall ih =>
      by_cases hEq : i = call
      · subst hEq
        exact absurd hAway (Traffic.not_away_of_inside rfl)
      · rw [others_cons (.brokeDown i) past hEq,
          Traffic.without_set_of_ne st _ hEq]
        exact (ih (Traffic.away_of_set hAway hEq)).brokeDown
          ((Traffic.calls_without st hEq).trans hCall)
  | @finished past st i q s r h hCall at_ ih =>
      by_cases hEq : i = call
      · subst hEq
        obtain ⟨r', hr, hNone⟩ := hAway _ (Traffic.calls_set _ i _)
        cases hr
        exact absurd hNone (h.outcome_of_done hCall)
      · unfold Traffic.leave at hAway ⊢
        rw [others_cons (.left i at_) past hEq,
          Traffic.without_set_of_ne _ _ hEq]
        exact (ih (Traffic.away_of_set hAway hEq)).finished
          ((Traffic.calls_without st hEq).trans hCall) at_
  | @interrupted past st i q s _ hCall at_ ih =>
      by_cases hEq : i = call
      · subst hEq
        obtain ⟨r', hr, hNone⟩ := hAway _ (Traffic.calls_set _ i _)
        cases hr
        cases hNone
      · unfold Traffic.leave at hAway ⊢
        rw [others_cons (.left i at_) past hEq,
          Traffic.without_set_of_ne _ _ hEq]
        exact (ih (Traffic.away_of_set hAway hEq)).interrupted
          ((Traffic.calls_without st hEq).trans hCall) at_

/-! ## The conduct of the calls -/

/-- **The conduct of the calls.** Whatever the order of their moves and
whatever they are answered:

* at most one call has the permit, and only such a call waits for the model or
  the executor;
* a call consults for a plan, its execution and an answer, once each and in
  this order, and returns when it has done so, or when a consultation broke
  down;
* a call that was turned away consults nobody and leaves the gate as it was,
  and without it the other moves lead to where the other calls stand now;
* when all calls have returned the gate is free, and remembers the call that
  left last. -/
theorem Reached.conduct_of_calls {a : Agent} {last : Option (String × Time)}
    {past : List Event} {st : Traffic} (h : Reached a last past st) :
    ((∀ i j, st.Inside i → st.Inside j → i = j) ∧
      ∀ i q s c next, st.calls i = some (.asking q s c next) → st.Inside i) ∧
    ((∀ i, InOrder (marks i past)) ∧
      ∀ i r, st.calls i = some (.returned r) → r.status = "completed" →
      Complete (marks i past)) ∧
    ((∀ i r, st.calls i = some (.returned r) →
        r.status ∈ ["rejected", "skipped", "busy"] →
        marks i past = [] ∧ ∀ st', Reached a last (others i past) st' ↔
        st' = st.without i) ∧
      ∀ raw at_ r g, a.arrive st.gate raw at_ = (.answered r, g) →
      g = st.gate) ∧
    ((∀ i x, st.calls i = some x → ∃ r, x = .returned r) →
      st.gate.running = false ∧ Remembers a last past st.gate) := by
  have hOrderly := h.orderly
  refine ⟨⟨hOrderly.single, ?_⟩, ⟨fun i => (hOrderly.stands i).inOrder, ?_⟩,
    ⟨?_, ?_⟩, ?_⟩
  · intro i q s c next hCall
    exact (Traffic.inside_of_calls hCall).mpr rfl
  · intro i r hCall hDone
    have hStands := hOrderly.stands i
    rw [hCall] at hStands
    cases hStands with
    | turnedAway hAway hMarks => exact absurd hDone (status_of_none hAway)
    | returned _ hMarks => exact hMarks
  · intro i r hCall hTurned
    have hStands := hOrderly.stands i
    rw [hCall] at hStands
    cases hStands with
    | turnedAway hAway hMarks =>
        refine ⟨hMarks, fun st' => ⟨fun h' => (h.without ?_).unique h', ?_⟩⟩
        · intro x hx
          rw [hCall] at hx
          exact ⟨r, (Option.some.inj hx).symm, hAway⟩
        · rintro rfl
          refine h.without fun x hx => ?_
          rw [hCall] at hx
          exact ⟨r, (Option.some.inj hx).symm, hAway⟩
    | returned hDone hMarks =>
        rw [hDone] at hTurned
        exact absurd hTurned (by decide)
  · intro raw at_ r g hArrive
    rcases arrive_cases a st.gate raw at_ with ⟨r', -, hAnswered⟩ | ⟨q, -, -,
      hAdmitted⟩
    · rw [hAnswered] at hArrive
      exact (Prod.mk.inj hArrive).2.symm
    · rw [hAdmitted] at hArrive
      cases hArrive
  · intro hAll
    refine ⟨?_, hOrderly.remembers⟩
    refine Bool.eq_false_iff.mpr fun hRunning => ?_
    obtain ⟨i, hi⟩ := hOrderly.running.mp hRunning
    cases hCall : st.calls i with
    | none =>
        unfold Traffic.Inside at hi
        rw [hCall] at hi
        cases hi
    | some x =>
        obtain ⟨r, rfl⟩ := hAll i x hCall
        cases (Traffic.inside_of_calls hCall).mp hi

/-- One call is let through, another one finds the gate busy, and the first one
returns after its plan call broke down. -/
theorem conduct_of_two_calls :
    ∃ (past : List Event) (st : Traffic), Reached ⟨4, 10⟩ none past st ∧
      (st.calls 1 = some (.returned (.turnedAway .busy)) ∧ marks 1 past = []) ∧
      (∃ r, st.calls 0 = some (.returned r) ∧ r.status = "completed" ∧
        Complete (marks 0 past)) ∧
      st.gate.running = false ∧ Remembers ⟨4, 10⟩ none past st.gate := by
  let first : Traffic :=
    Traffic.set ⟨⟨true, none⟩, fun _ => none⟩ 0
      (.working ⟨"go"⟩ (signature "go") (run "go"))
  let second : Traffic := first.set 1 (.returned (.turnedAway .busy))
  have hFirst : Reached ⟨4, 10⟩ none [.arrived 0 "go" 1] first :=
    .arrived .start rfl "go" 1
  have hSecond : Reached ⟨4, 10⟩ none [.arrived 1 "stop" 2,
      .arrived 0 "go" 1] second :=
    .arrived hFirst rfl "stop" 2
  have hCall : second.calls 0 =
        some (.working ⟨"go"⟩ (signature "go") (run "go")) := rfl
  have hAsked := hSecond.asked hCall
  have hBroken := hAsked.brokeDown (Traffic.calls_set _ 0 _)
  have hLeft := hBroken.interrupted (Traffic.calls_set _ 0 _) 3
  obtain ⟨-, ⟨-, hComplete⟩, ⟨hTurned, -⟩, hEnd⟩ := hLeft.conduct_of_calls
  refine ⟨_, _, hLeft, ⟨rfl, (hTurned 1 _ rfl (by decide)).1⟩,
    ⟨_, rfl, rfl, hComplete 0 _ rfl rfl⟩, ?_⟩
  refine hEnd fun i x hx => ?_
  by_cases hZero : i = 0
  · subst hZero
    cases hx
    exact ⟨_, rfl⟩
  · by_cases hOne : i = 1
    · subst hOne
      cases hx
      exact ⟨_, rfl⟩
    · simp only [second, first, Traffic.leave, Traffic.set, hZero, hOne,
        if_false] at hx
      cases hx

end Errand.Agent
