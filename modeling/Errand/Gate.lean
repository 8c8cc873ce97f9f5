import Errand.Query

/-!
# The request gate

One gate guards the whole process: at most one request runs at a time, and a
request that repeats the one that finished last is turned away while a window
of time after its end is open.

A gate is a value. `acquire` asks for the permit at a time; `release` gives one
back, which happens on every way out of a run, a failure included. Handles to
the gate share this one value, so copies of a handle make no difference.

* `acquire` decides from the last release and from whether a permit is out, and
  nothing else; a request that is turned away leaves the gate as it was
  (`acquire_skip`).
* `release` frees the gate and remembers whose permit came back and when.
-/

namespace Errand

/-- The state of the gate: whether a permit is out, and the signature and time
of the last release. -/
structure Gate where
  running : Bool
  last : Option (String × Nat)
deriving DecidableEq, Repr

namespace Gate

/-- A gate that nothing has passed yet. -/
def fresh : Gate := ⟨false, none⟩

/-- Why a request is turned away. -/
inductive Skip where
  /-- The last request to finish was the same, and its window is still open. -/
  | duplicate
  /-- Another request is running. -/
  | busy
deriving DecidableEq, Repr

/-- The reason as a word. -/
def Skip.name : Skip → String
  | .duplicate => "duplicate"
  | .busy => "busy"

/-- The answer of the gate to a request: the permit, known by its signature, or
the reason for none. -/
inductive Decision where
  | proceed (signature : String)
  | skip (reason : Skip)
deriving DecidableEq, Repr

/-- The decision as a note. -/
def Decision.note : Decision → String
  | .proceed signature => "Proceed(" ++ signature ++ ")"
  | .skip reason => "Skip(" ++ reason.name ++ ")"

/-- The last release was of this signature and less than `window` ago. -/
def repeats (g : Gate) (window : Nat) (signature : String) (now : Nat) : Bool :=
  match g.last with
  | some (last, at_) => last == signature && now - at_ < window
  | none => false

/-- The decision on a request at a time. A repetition is told apart first, even
while another request runs. -/
def decide (g : Gate) (window : Nat) (request : String) (now : Nat) :
    Decision :=
  let s := signature request
  if g.repeats window s now then .skip .duplicate
  else if g.running then .skip .busy
  else .proceed s

/-- Asks for the permit. -/
def acquire (g : Gate) (window : Nat) (request : String) (now : Nat) :
    Decision × Gate :=
  match g.decide window request now with
  | .proceed s => (.proceed s, { g with running := true })
  | .skip reason => (.skip reason, g)

/-- Gives a permit back. -/
def release (_ : Gate) (signature : String) (now : Nat) : Gate :=
  ⟨false, some (signature, now)⟩

/-- A request that is turned away leaves the gate as it was. -/
theorem acquire_skip {g g' : Gate} {window now : Nat} {request : String}
    {reason : Skip} (h : g.acquire window request now = (.skip reason, g')) :
    g' = g := by
  unfold acquire at h
  split at h <;> simp_all

/-- A request that is let through finds the gate free and leaves it taken. -/
theorem acquire_proceed {g g' : Gate} {window now : Nat} {request s : String}
    (h : g.acquire window request now = (.proceed s, g')) :
    g.running = false ∧ s = signature request ∧
    g' = { g with running := true } := by
  unfold acquire at h
  split at h
  · next s' hs =>
    simp only [Prod.mk.injEq, Decision.proceed.injEq] at h
    unfold decide at hs
    simp only at hs
    split at hs
    · simp at hs
    · split at hs
      · simp at hs
      · next hr =>
        simp only [Decision.proceed.injEq] at hs
        exact ⟨by simpa using hr, by rw [← h.1, ← hs], h.2.symm⟩
  · simp at h

@[simp] theorem running_release (g : Gate) (s : String) (now : Nat) :
    (g.release s now).running = false := rfl

@[simp] theorem last_release (g : Gate) (s : String) (now : Nat) :
    (g.release s now).last = some (s, now) := rfl

end Gate

end Errand
