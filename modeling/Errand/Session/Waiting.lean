import Errand.Plan.Step
import Errand.Session.Browser
import Errand.Text.Search

/-!
# Waiting for a page

Pages change while a session looks at them, so a session looks again and again.
`awaitState`, `awaitUrl` and `awaitScript` look at once and then after every
pause of the poll interval, until what they wait for is there or their time has
run out; so even a time limit of zero leaves one probe. A probe that fails
counts as one that does not find what is waited for, because pages fail probes
while they load.

All three are `pollUntil`, which counts its rounds: since every round pauses,
time runs out before the rounds do.

`firstSuccess` tries candidates in their order and settles for the first that
works.
-/

namespace Errand

/-- The element is in the state that is waited for. -/
def WaitState.holds : WaitState → ElementState → Bool
  | .attached, s => s ≠ .detached
  | .visible, s => s = .visible
  | .hidden, s => s ≠ .visible
  | .detached, s => s = .detached

namespace Dialogue

variable {Q : Type} {A : Q → Type} {ε α : Type}

/-- What a look that found nothing leads to: trouble once the deadline has
come, and else what `again` does. -/
def unlessPast {μ : Type} (deadline : Time) (timedOut : μ → Trouble)
    (again : μ → Dialogue A ε α) :
    α ⊕ μ → Dialogue A ε α
  | .inl a => .done a
  | .inr m => .clock fun now =>
    if deadline ≤ now then .fail (timedOut m)
    else again m

/-- Looks, and looks again after every pause, until something is found or the
deadline has come. A look is told what the one before it left behind. Pauses at
most `rounds` times. -/
def pollUntil {μ : Type} (look : μ → Dialogue A ε (α ⊕ μ))
    (timedOut : μ → Trouble) (poll : Duration) (deadline : Time) :
    (rounds : Nat) → μ → Dialogue A ε α
  | 0, m =>
  (look m).bind (unlessPast deadline timedOut fun m => .fail (timedOut m))
  | rounds + 1, m =>
    (look m).bind (unlessPast deadline timedOut fun m =>
      .pause poll (pollUntil look timedOut poll deadline rounds m))

/-- The number of pauses within which a time limit runs out. Where pauses take
no time, looks have to. -/
def rounds (limit poll : Duration) : Nat := limit / max poll 1 + 1

/-- Looks until something is found or the time limit has run out. -/
def awaitFound {μ : Type} (look : μ → Dialogue A ε (α ⊕ μ))
    (timedOut : μ → Trouble) (limit poll : Duration) (m : μ) : Dialogue A ε α :=
  .clock fun start =>
    pollUntil look timedOut poll (start + limit) (rounds limit poll) m

/-- Waits until the element is in the state. What is left behind by a look is
the trouble of the last probe that failed. -/
def awaitState (selector : String) (wanted : WaitState)
    (limit poll : Duration) : Dialogue Call.Answer ε Unit :=
  awaitFound
    (fun last => .ask (.probe selector) fun
      | .ok s => .done (if wanted.holds s then .inl () else .inr last)
      | .error t => .done (.inr (some t)))
    (fun (last : Option Trouble) =>
      .plain ("'" ++ selector ++ "' not " ++ wanted.name ++ " within " ++
          Duration.text limit ++
        ((last.map fun t => ": " ++ t.message).getD "")))
    limit poll none

/-- Waits until the address contains a text. -/
def awaitUrl (includes : String) (limit poll : Duration) :
    Dialogue Call.Answer ε String :=
  awaitFound
    (fun () => .ask .currentUrl fun
      | .ok url =>
        .done (if Text.contains includes url then .inl url else .inr ())
      | .error _ => .done (.inr ()))
    (fun () =>
      .plain ("url never contained '" ++ includes ++ "' within " ++
          Duration.text limit))
    limit poll ()

/-- Waits until a script that runs in the page says yes. Trouble with the
script ends the wait. -/
def awaitScript (script : String) (timedOut : Trouble) (limit poll : Duration) :
    Dialogue Call.Answer ε Unit :=
  awaitFound
    (fun () => .ask (.evaluate script) fun
      | .ok j => .done (if Json.bool? j = some true then .inl () else .inr ())
      | .error t => .fail t)
    (fun () => timedOut) limit poll ()

/-- Tries the candidates from number `index` on, with the rejections of those
before, the latest first. -/
def firstSuccessFrom (probe : String → Dialogue A ε α) :
    (index : Nat) → (rejected : List String) → List String →
    Dialogue A ε (Nat × α)
  | _, rejected, [] =>
    .fail
      (.plain ("no candidate resolved [" ++
          "; ".intercalate rejected.reverse ++ "]"))
  | index, rejected, c :: rest =>
    (probe c).attempt.bind fun
      | .ok a => .done (index, a)
      | .error t =>
        firstSuccessFrom probe (index + 1)
          ((c ++ ": " ++ t.message) :: rejected) rest

/-- The number and value of the first candidate that works. -/
def firstSuccess (candidates : List String) (probe : String → Dialogue A ε α) :
    Dialogue A ε (Nat × α) :=
  firstSuccessFrom probe 0 [] candidates

end Dialogue

end Errand
