import Errand.Execution.Target
import Errand.Proofs.Dialogue.Play
import Errand.Session.Performance

/-!
# What a single step can do

A step works on the page of a session that is there already. Whatever its kind
and whatever the browser answers, it neither launches nor closes a browser, and
the only entries that it makes are those of screenshots. So the record of a
step is never made by the step itself: it stands behind everything that the
step did.

Another address is loaded only by a step that navigates to it, by one call, and
a screenshot is taken only by a step that is one. All that can come before or
behind such a call, and all that any other step does, leaves the page where it
is, takes no picture and enters nothing.

## Main results

* `StaysSilent.performKind`: a step that navigates nowhere and is no screenshot
  enters nothing.
* `StaysPut.performKind`: a step that navigates nowhere loads no address.
* `StaysOnPage.perform`: every step stays on the page.
* `StaysOnPage.stepTalk`: so does a step that finds its address loaded already.
-/

namespace Errand.Session

open Dialogue

/-- The call is about the page, and not about the browser as such. -/
def OnPage (c : Call) : Prop := c ≠ .launch ∧ c ≠ .close

/-- The call is about the page, and does not load an address. -/
def InPlace (c : Call) : Prop := OnPage c ∧ ∀ url, c ≠ .goto url

/-- The call is about the page, loads no address and takes no picture. -/
def Handles : Call → Prop
  | .launch | .close | .goto _ | .screenshot => False
  | _ => True

theorem Handles.inPlace {c : Call} (h : Handles c) : InPlace c := by
  cases c with
  | launch => exact h.elim
  | close => exact h.elim
  | goto url => exact h.elim
  | _ => exact ⟨⟨nofun, nofun⟩, fun _ => nofun⟩

/-- The entry is that of a screenshot. -/
def IsCapture (e : Entry) : Prop := ∃ path, e = .captured path

/-- The dialogue stays on the page, and all that it notes are screenshots. -/
def StaysOnPage {α : Type} (d : Talk α) : Prop := d.Confined OnPage IsCapture

/-- The dialogue loads no address, and all that it notes are screenshots. -/
def StaysPut {α : Type} (d : Talk α) : Prop := d.Confined InPlace IsCapture

/-- The dialogue loads no address, takes no picture and notes nothing. -/
def StaysSilent {α : Type} (d : Talk α) : Prop :=
  d.Confined Handles (fun _ => False)

theorem StaysPut.onPage {α : Type} {d : Talk α} (h : StaysPut d) :
    StaysOnPage d :=
  h.weaken (fun _ hCall => hCall.1) fun _ hNote => hNote

theorem StaysSilent.put {α : Type} {d : Talk α} (h : StaysSilent d) :
    StaysPut d :=
  h.weaken (fun _ hCall => hCall.inPlace) fun _ hNote => hNote.elim

theorem StaysPut.bind {α β : Type} {d : Talk α} {k : α → Talk β}
    (hd : StaysPut d) (hk : ∀ a, StaysPut (k a)) : StaysPut (d.bind k) :=
  Confined.bind hd hk

namespace StaysSilent

variable {α β : Type}

theorem bind {d : Talk α} {k : α → Talk β} (hd : StaysSilent d)
    (hk : ∀ a, StaysSilent (k a)) :
    StaysSilent (d.bind k) := Confined.bind hd hk

theorem call {c : Call} (hc : Handles c) : StaysSilent (Session.call c) :=
  Confined.question hc

theorem tryCall {c : Call} (hc : Handles c) : StaysSilent (Session.tryCall c) :=
  Confined.tried hc

/-! ## Waiting -/

/-- What follows a look stays put if looking again does. -/
theorem unlessPast {μ : Type} {deadline : Time} {timedOut : μ → Trouble}
    {again : μ → Talk α} (hAgain : ∀ m, StaysSilent (again m)) (found : α ⊕ μ) :
    StaysSilent (Dialogue.unlessPast deadline timedOut again found) := by
  cases found with
  | inl a => trivial
  | inr m =>
      intro now
      by_cases hPast : deadline ≤ now
      · simp only [hPast, if_true]; trivial
      · simp only [hPast, if_false]; exact hAgain m

theorem pollUntil {μ : Type} {look : μ → Talk (α ⊕ μ)}
    (hLook : ∀ m, StaysSilent (look m)) (timedOut : μ → Trouble)
    (poll : Duration) (deadline : Time) (rounds : Nat) (m : μ) :
    StaysSilent (Dialogue.pollUntil look timedOut poll deadline rounds m) := by
  induction rounds generalizing m with
  | zero => exact bind (hLook m) (unlessPast fun _ => trivial)
  | succ rounds ih => exact bind (hLook m) (unlessPast fun m => ih m)

theorem awaitFound {μ : Type} {look : μ → Talk (α ⊕ μ)}
    (hLook : ∀ m, StaysSilent (look m)) (timedOut : μ → Trouble)
    (limit poll : Duration) (m : μ) :
    StaysSilent (Dialogue.awaitFound look timedOut limit poll m) :=
  fun _ => pollUntil hLook timedOut poll _ _ m

theorem awaitState (selector : String) (wanted : WaitState)
    (limit poll : Duration) :
    StaysSilent (Dialogue.awaitState selector wanted limit poll) := by
  refine awaitFound (fun last => ?_) _ limit poll none
  refine ⟨trivial, fun r => ?_⟩
  cases r with
  | ok s => trivial
  | error t => trivial

theorem awaitUrl (includes : String) (limit poll : Duration) :
    StaysSilent (Dialogue.awaitUrl includes limit poll) := by
  refine awaitFound (fun _ => ?_) _ limit poll ()
  refine ⟨trivial, fun r => ?_⟩
  cases r with
  | ok url => trivial
  | error t => trivial

theorem awaitScript (script : String) (timedOut : Trouble)
    (limit poll : Duration) :
    StaysSilent (Dialogue.awaitScript script timedOut limit poll) := by
  refine awaitFound (fun _ => ?_) _ limit poll ()
  refine ⟨trivial, fun r => ?_⟩
  cases r with
  | ok j => trivial
  | error t => trivial

theorem firstSuccessFrom {probe : String → Talk α}
    (hProbe : ∀ c, StaysSilent (probe c)) (candidates : List String)
    (index : Nat) (rejected : List String) :
    StaysSilent (Dialogue.firstSuccessFrom probe index rejected
      candidates) := by
  induction candidates generalizing index rejected with
  | nil => trivial
  | cons c rest ih =>
      refine bind (Confined.attempt (hProbe c)) fun r => ?_
      cases r with
      | ok a => trivial
      | error t => exact ih (index + 1) _

theorem resolve (o : Options) (s : Step) (selectors : List String)
    (wanted : WaitState) : StaysSilent (s.resolve o selectors wanted) :=
  bind (firstSuccessFrom (fun sel => awaitState sel wanted _ _) selectors 0 [])
    fun _ => trivial

/-! ## Steps -/

/-- Waiting for the element that a step names, if it names one, before what
follows. -/
theorem afterElement (selector : Option String) (wanted : WaitState)
    (limit poll : Duration) {d : Talk α} (hd : StaysSilent d) :
    StaysSilent (match selector with
      | some sel => (Dialogue.awaitState sel wanted limit poll).bind fun _ => d
      | _ => d) := by
  cases selector with
  | none => exact hd
  | some sel => exact bind (awaitState sel wanted limit poll) fun _ => hd

theorem performVideo (o : Options) (s : Step) (action : VideoAction) :
    StaysSilent (s.performVideo o action) := by
  have hStart : ∀ script, StaysSilent
        (Step.performVideo.startVideo script) := by
    intro script
    refine bind (call trivial) fun j => ?_
    by_cases hOk : Json.text? j = some "ok"
    · simp only [hOk, if_true]; trivial
    · simp only [hOk, if_false]; trivial
  cases action with
  | play => exact hStart _
  | forcePlay => exact hStart _
  | clickPlay =>
      exact bind (resolve o s playControls .visible) fun chosen =>
        bind (call trivial) fun _ => trivial
  | keyboardPlay => exact bind (call trivial) fun _ => trivial
  | waitReady => exact bind (awaitScript _ _ _ _) fun _ => trivial

/-- A step that navigates nowhere and is no screenshot enters nothing. -/
theorem performKind (o : Options) {s : Step} (h : s.address? = none)
    (hNoPicture : s.kind ≠ .screenshot) : StaysSilent (s.performKind o) := by
  unfold Step.address? at h
  unfold Step.performKind
  cases hKind : s.kind with
  | navigate url => rw [hKind] at h; cases h
  | click selectors =>
      exact bind (resolve o s selectors .visible) fun chosen =>
        bind (call trivial) fun _ => trivial
  | type selector text clear =>
      exact afterElement selector .visible _ _
        (bind (call trivial) fun _ => trivial)
  | press selector key =>
      exact afterElement selector .attached _ _
        (bind (call trivial) fun _ => trivial)
  | wait selectors state =>
      exact bind (resolve o s selectors state) fun _ => trivial
  | waitUrl includes => exact bind (awaitUrl includes _ _) fun _ => trivial
  | sleep ms => trivial
  | evaluate script => exact bind (call trivial) fun _ => trivial
  | screenshot => exact absurd hKind hNoPicture
  | video action => exact performVideo o s action
  | invalid tag reason => trivial
  | unknown tag => trivial

theorem followNewPage (o : Options) (did : String) :
    StaysSilent (Step.followNewPage o did) := by
  refine bind (call trivial) fun adopted => ?_
  cases adopted with
  | false => trivial
  | true => exact bind (tryCall trivial) fun _ => trivial

end StaysSilent

/-! ## Whole steps -/

/-- What there is to do for a step: nothing if it loads the address that has
just been loaded. -/
def stepTalk (o : Options) (loaded : Option String) (s : Step) : Talk String :=
  if isLoaded loaded s then .done "already loaded" else s.perform o

theorem isLoaded_none (s : Step) : isLoaded none s = false := by
  unfold isLoaded
  cases s.kind <;> rfl

/-- What comes behind what a step itself does: it goes on in the page that it
opened, if it is to open one. -/
def behindKind (o : Options) (s : Step) (did : String) : Talk String :=
  if s.newPage then Step.followNewPage o did else .done did

theorem StaysSilent.behindKind (o : Options) (s : Step) (did : String) :
    StaysSilent (Session.behindKind o s did) := by
  unfold Session.behindKind
  cases s.newPage with
  | false => trivial
  | true => exact followNewPage o did

theorem StaysPut.behindKind (o : Options) (s : Step) (did : String) :
    StaysPut (Session.behindKind o s did) :=
  (StaysSilent.behindKind o s did).put

/-- A screenshot enters the path that it is answered with, at once. -/
theorem performKind_screenshot (o : Options) {s : Step}
    (h : s.kind = .screenshot) :
    s.performKind o = .ask .screenshot fun
      | .ok (path : String) => .note (.captured path) (.done ("saved " ++ path))
      | .error t => .fail t := by
  unfold Step.performKind
  rw [h]
  refine congrArg (Dialogue.ask Call.screenshot) (funext fun r => ?_)
  cases r <;> rfl

/-- A step that navigates nowhere loads no address. -/
theorem StaysPut.performKind (o : Options) {s : Step} (h : s.address? = none) :
    StaysPut (s.performKind o) := by
  by_cases hPicture : s.kind = .screenshot
  · rw [performKind_screenshot o hPicture]
    refine ⟨⟨⟨by simp, by simp⟩, by simp⟩, fun r => ?_⟩
    cases r with
    | ok path => exact ⟨⟨path, rfl⟩, trivial⟩
    | error t => trivial
  · exact (StaysSilent.performKind o h hPicture).put

theorem perform_eq (o : Options) (s : Step) :
    s.perform o = (s.performKind o).bind (behindKind o s) :=
  rfl

/-- A step that navigates somewhere loads the address, and goes on from
there. -/
theorem perform_navigate (o : Options) {s : Step} {url : String}
    (h : s.address? = some url) :
    s.perform o = .ask (.goto url) fun
      | .ok _ => behindKind o s ("loaded " ++ url)
      | .error t => .fail t := by
  unfold Step.address? at h
  have hKind : s.kind = .navigate url := by
    cases hKind : s.kind with
    | navigate url' =>
        rw [hKind] at h
        obtain rfl := Option.some.inj h
        rfl
    | _ => rw [hKind] at h; cases h
  rw [perform_eq]
  unfold Step.performKind
  rw [hKind]
  refine congrArg (Dialogue.ask (Call.goto url)) (funext fun r => ?_)
  cases r <;> rfl

namespace StaysOnPage

/-- Every step stays on the page, whatever its kind and whatever the browser
answers. -/
theorem perform (o : Options) (s : Step) : StaysOnPage (s.perform o) := by
  cases hAddress : s.address? with
  | none =>
      exact ((StaysPut.performKind o hAddress).bind
          (StaysPut.behindKind o s)).onPage
  | some url =>
      rw [perform_navigate o hAddress]
      refine ⟨⟨by simp, by simp⟩, fun r => ?_⟩
      cases r with
      | ok _ => exact (StaysPut.behindKind o s _).onPage
      | error t => trivial

theorem stepTalk (o : Options) (loaded : Option String) (s : Step) :
    StaysOnPage (Session.stepTalk o loaded s) := by
  unfold Session.stepTalk
  by_cases hLoaded : isLoaded loaded s = true
  · simp only [hLoaded, if_true]; trivial
  · simp only [hLoaded, if_false, Bool.false_eq_true]; exact perform o s

end StaysOnPage

end Errand.Session
