import Errand.Gate

/-!
# The gate decides by its history

The state of a gate is a flag, a signature and a time. This file shows that it
stands for the whole history of the gate: whatever handles there are, whoever
asks and in whatever order the permits come back, a decision depends on two
things alone, on the permit that came back last and on the permits that are
out.

A gate is shared. Every handle to it is a copy of another one, with a window of
its own, and every permit finds its way back to the gate by which it was given
out. A permit that comes back because its run broke down comes back like any
other, so the history does not tell these apart.

## Main results

* `Reached.settled`: in every state that a gate can be in, the flag and the
  last release are those of the history, and at most one permit is out.
* `Reached.decided_by_history`: what the gate decides about a request, in terms
  of the history alone.
-/

namespace Errand.Gate

/-- What happens at a gate. -/
inductive Event where
  /-- A request was made at a time, and this was decided about it. -/
  | asked (request : String) (decision : Decision) (at_ : Nat)
  /-- The permit that is known by this signature came back at a time. -/
  | dropped (signature : String) (at_ : Nat)
deriving DecidableEq, Repr

/-! ## What a history says

A history has the latest event first. -/

/-- The permits that are out: those given out that have not come back. -/
def outstanding : List Event → List String
  | [] => []
  | .asked _ (.proceed s) _ :: past => s :: outstanding past
  | .asked _ (.skip _) _ :: past => outstanding past
  | .dropped s _ :: past => (outstanding past).erase s

/-- The permit that came back last, and when. -/
def lastDrop : List Event → Option (String × Nat)
  | [] => none
  | .asked _ _ _ :: past => lastDrop past
  | .dropped s at_ :: _ => some (s, at_)

/-- The request repeats the one that finished last, less than a window ago. -/
def Repeats (past : List Event) (window : Nat) (request : String)
    (now : Nat) : Prop :=
  ∃ at_, lastDrop past = some (signature request, at_) ∧ now < at_ + window

/-! ## The gate as it is shared -/

/-- A gate with those who use it. -/
structure Shared where
  gate : Gate
  /-- The handles to the gate, each with its window. -/
  handles : List Nat
  /-- The permits that are out. -/
  held : List String
deriving DecidableEq, Repr

namespace Shared

/-- A new gate with its first handle. -/
def opened (window : Nat) : Shared := ⟨.fresh, [window], []⟩

/-- A handle is copied. -/
def clone (st : Shared) (handle : Nat) : Shared :=
  { st with handles := handle :: st.handles }

/-- Somebody asks for the permit by a handle. -/
def ask (st : Shared) (handle : Nat) (request : String) (now : Nat) : Shared :=
  match st.gate.acquire handle request now with
  | (.proceed s, g) => { st with gate := g, held := s :: st.held }
  | (.skip _, g) => { st with gate := g }

/-- A permit comes back. -/
def drop (st : Shared) (permit : String) (now : Nat) : Shared :=
  { st with gate := st.gate.release permit now, held := st.held.erase permit }

end Shared

/-- A gate can have this past at a time, and be in this state then. Time does
not run backwards. -/
inductive Reached (window : Nat) : List Event → Nat → Shared → Prop where
  | opened (now : Nat) : Reached window [] now (.opened window)
  | cloned {past : List Event} {now handle : Nat} {st : Shared}
      (h : Reached window past now st) (hHandle : handle ∈ st.handles) :
      Reached window past now (st.clone handle)
  | asked {past : List Event} {now handle : Nat} {st : Shared}
      (h : Reached window past now st) (hHandle : handle ∈ st.handles)
      (request : String) (later : Nat) (hLater : now ≤ later) :
      Reached window (.asked request (st.gate.acquire handle request later).1
        later :: past) later
        (st.ask handle request later)
  | dropped {past : List Event} {now : Nat} {permit : String} {st : Shared}
      (h : Reached window past now st) (hHeld : permit ∈ st.held) (later : Nat)
      (hLater : now ≤ later) :
      Reached window (.dropped permit later :: past) later
        (st.drop permit later)

/-! ## The state stands for the history -/

/-- The state is that of a gate with this past. -/
structure Settled (window : Nat) (past : List Event) (now : Nat) (st : Shared) :
    Prop where
  handles : ∀ handle ∈ st.handles, handle = window
  held : st.held = outstanding past
  single : (outstanding past).length ≤ 1
  running : st.gate.running = true ↔ outstanding past ≠ []
  last : st.gate.last = lastDrop past
  earlier : ∀ s at_, lastDrop past = some (s, at_) → at_ ≤ now

/-- What the gate looks at first is whether the request repeats the last one of
the history. -/
theorem repeats_iff {g : Gate} {past : List Event} {window now : Nat}
    {request : String} (hLast : g.last = lastDrop past)
    (hEarlier : ∀ s at_, lastDrop past = some (s, at_) → at_ ≤ now) :
    g.repeats window (signature request) now = true ↔
    Repeats past window request now := by
  unfold repeats Repeats
  rw [hLast]
  cases hDrop : lastDrop past with
  | none => exact ⟨nofun, nofun⟩
  | some drop =>
      obtain ⟨s, at_⟩ := drop
      have hAt := hEarlier s at_ hDrop
      simp only [Bool.and_eq_true, beq_iff_eq, decide_eq_true_eq,
        Option.some.injEq, Prod.mk.injEq]
      constructor
      · rintro ⟨hSame, hRecent⟩
        exact ⟨at_, ⟨hSame, rfl⟩, by omega⟩
      · rintro ⟨_, ⟨hSame, rfl⟩, hRecent⟩
        exact ⟨hSame, by omega⟩

/-- What `acquire` answers and leaves behind, case by case. -/
theorem acquire_eq (g : Gate) (window : Nat) (request : String) (now : Nat) :
    g.acquire window request now =
      if g.repeats window (signature request) now = true then
        (.skip .duplicate, g)
      else if g.running = true then (.skip .busy, g)
      else (.proceed (signature request), { g with running := true }) := by
  unfold acquire decide
  by_cases hRepeats : g.repeats window (signature request) now = true
  · simp only [hRepeats, if_true]
  · by_cases hRunning : g.running = true
    · simp only [hRepeats, hRunning, if_true, if_false, Bool.false_eq_true]
    · simp only [hRepeats, hRunning, if_false, Bool.false_eq_true]

namespace Settled

variable {window now : Nat} {past : List Event} {st : Shared}

theorem opened (now : Nat) : Settled window [] now (.opened window) where
  handles _ hHandle := List.mem_singleton.mp hHandle
  held := rfl
  single := Nat.zero_le 1
  running := ⟨nofun, fun h => absurd rfl h⟩
  last := rfl
  earlier := nofun

theorem outstanding_eq_nil (h : Settled window past now st)
    (hFree : ¬st.gate.running = true) : outstanding past = [] :=
  Decidable.byContradiction fun hSome => hFree (h.running.mpr hSome)

theorem cloned (h : Settled window past now st) {handle : Nat}
    (hHandle : handle ∈ st.handles) :
    Settled window past now (st.clone handle) :=
  { h with
    handles := List.forall_mem_cons.mpr ⟨h.handles handle hHandle, h.handles⟩ }

/-- A request that is turned away changes nothing; one that is let through
finds no permit out. -/
theorem asked (h : Settled window past now st) (handle : Nat) (request : String)
    {later : Nat} (hLater : now ≤ later) :
    Settled window (.asked request (st.gate.acquire handle request later).1
      later :: past) later
      (st.ask handle request later) := by
  have hEarlier : ∀ s at_, lastDrop past = some (s, at_) → at_ ≤ later :=
    fun s at_ hDrop => Nat.le_trans (h.earlier s at_ hDrop) hLater
  unfold Shared.ask
  rw [acquire_eq]
  by_cases hRepeats : st.gate.repeats handle (signature request) later = true
  · rw [if_pos hRepeats]
    exact ⟨h.handles, h.held, h.single, h.running, h.last, hEarlier⟩
  · rw [if_neg hRepeats]
    by_cases hRunning : st.gate.running = true
    · rw [if_pos hRunning]
      exact ⟨h.handles, h.held, h.single, h.running, h.last, hEarlier⟩
    · rw [if_neg hRunning]
      have hNone := h.outstanding_eq_nil hRunning
      refine ⟨h.handles, congrArg _ h.held, ?_, ?_, h.last, hEarlier⟩
      · show (signature request :: outstanding past).length ≤ 1
        rw [hNone]
        exact Nat.le_refl 1
      · exact ⟨fun _ => List.cons_ne_nil _ _, fun _ => rfl⟩

/-- The permit that comes back was the only one. -/
theorem dropped (h : Settled window past now st) {permit : String}
    (hHeld : permit ∈ st.held) (later : Nat) :
    Settled window (.dropped permit later :: past) later
      (st.drop permit later) := by
  rw [h.held] at hHeld
  have hSingle : outstanding past = [permit] := by
    obtain ⟨s, hs⟩ := List.length_eq_one_iff.mp
      (Nat.le_antisymm h.single (List.length_pos_of_mem hHeld))
    rw [hs] at hHeld ⊢
    rw [List.mem_singleton.mp hHeld]
  have hNone : outstanding (.dropped permit later :: past) = [] := by
    show (outstanding past).erase permit = []
    rw [hSingle, List.erase_cons_head]
  refine ⟨h.handles, congrArg (List.erase · permit) h.held, ?_, ?_, rfl, ?_⟩
  · rw [hNone]
    exact Nat.zero_le 1
  · rw [hNone]
    exact ⟨nofun, fun hSome => absurd rfl hSome⟩
  · intro s at_ hDrop
    cases hDrop
    exact Nat.le_refl later

end Settled

/-- **In every state that a gate can be in, its flag and its last release are
those of its history.** The induction is on the history; each step keeps the
state settled. -/
theorem Reached.settled {window now : Nat} {past : List Event} {st : Shared}
    (h : Reached window past now st) : Settled window past now st := by
  induction h with
  | opened now => exact .opened now
  | cloned _ hHandle ih => exact ih.cloned hHandle
  | asked _ _ request later hLater ih => exact ih.asked _ request hLater
  | dropped _ hHeld later _ ih => exact ih.dropped hHeld later

/-- **The gate decides by its history.** Whoever asks at a gate, by whatever
handle, the request is a duplicate exactly if it repeats the permit that came
back last within the window; otherwise the gate is busy exactly if a permit is
out, and lets the request through exactly if none is. A request that is turned
away leaves the gate as it was. At most one permit is out, and the gate is
taken exactly then. -/
theorem Reached.decided_by_history {window now : Nat} {past : List Event}
    {st : Shared} (h : Reached window past now st) :
    (∀ handle ∈ st.handles, ∀ (request : String) (later : Nat), now ≤ later →
      let answer := st.gate.acquire handle request later
      (answer.1 = .skip .duplicate ↔ Repeats past window request later) ∧
      (answer.1 = .skip .busy ↔ ¬Repeats past window request later ∧
        outstanding past ≠ []) ∧
      (∀ s, answer.1 = .proceed s ↔
        s = signature request ∧ ¬Repeats past window request later ∧
        outstanding past = []) ∧
      ∀ reason, answer.1 = .skip reason → answer.2 = st.gate) ∧
    st.held = outstanding past ∧ (outstanding past).length ≤ 1 ∧
    (st.gate.running = true ↔ outstanding past ≠ []) := by
  have hSettled := h.settled
  refine ⟨?_, hSettled.held, hSettled.single, hSettled.running⟩
  intro handle hHandle request later hLater
  have hRepeats : st.gate.repeats handle (signature request) later = true ↔
      Repeats past window request later := by
    rw [hSettled.handles handle hHandle]
    exact repeats_iff hSettled.last
      fun s at_ hDrop => Nat.le_trans (hSettled.earlier s at_ hDrop) hLater
  dsimp only
  rw [acquire_eq, ← hRepeats]
  by_cases hSame : st.gate.repeats handle (signature request) later = true
  · rw [if_pos hSame]
    simp [hSame]
  · rw [if_neg hSame]
    by_cases hRunning : st.gate.running = true
    · rw [if_pos hRunning]
      simp [hSame, hSettled.running.mp hRunning]
    · have hNone := hSettled.outstanding_eq_nil hRunning
      rw [if_neg hRunning]
      simp [hSame, hNone, eq_comm]

/-- A request is let through, another one finds the gate busy, the permit comes
back, and then the first request is made again. -/
theorem decision_on_repetition :
    ∃ (past : List Event) (st : Shared),
      Reached 4 past 3 st ∧ lastDrop past = some (signature "open mail", 3) ∧
        (∃ asked, past =
          [.dropped (signature "open mail") 3,
            .asked "read news" (.skip .busy) 2, asked]) ∧
        (st.gate.acquire 4 "open mail" 6).1 = .skip .duplicate ∧
        (st.gate.acquire 4 "open mail" 7).1 =
          .proceed (signature "open mail") := by
  have hOpened : Reached 4 [] 0 ((Shared.opened 4).clone 4) :=
    .cloned (.opened 0) (List.mem_singleton.mpr rfl)
  have hAdmitted := hOpened.asked List.mem_cons_self "open mail" 1 (by decide)
  have hBusy := hAdmitted.asked List.mem_cons_self "read news" 2 (by decide)
  have hDropped :=
    @Reached.dropped 4 _ _ (signature "open mail") _ hBusy List.mem_cons_self 3
      (by decide)
  refine ⟨_, _, hDropped, rfl, ⟨_, rfl⟩, ?_, ?_⟩
  · have hDecision :=
      hDropped.decided_by_history.1 4 List.mem_cons_self "open mail" 6
        (by decide)
    exact hDecision.1.mpr ⟨3, rfl, by decide⟩
  · have hDecision :=
      hDropped.decided_by_history.1 4 List.mem_cons_self "open mail" 7
        (by decide)
    refine (hDecision.2.2.1 _).mpr ?_
    refine ⟨rfl, ?_, List.erase_cons_head _ _⟩
    rintro ⟨at_, hDrop, hRecent⟩
    cases hDrop
    exact absurd hRecent (by decide)

end Errand.Gate
