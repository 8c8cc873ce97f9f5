import Errand.Proofs.Dialogue.Collecting
import Errand.Proofs.Session.Account

/-!
# The pictures of a session

A browser saves a picture when it is asked for a screenshot, and the picture
counts as saved once the browser has answered with its path. This file watches
a browser in that: its **album** holds the paths that it has answered with, in
order. The report of a session names exactly these pictures. A step that takes
one enters it before it goes on, so a picture stays in the report whatever
becomes of the step behind it: whether its new page cannot be adopted, it is
skipped, the time limit strikes, or the browser breaks down. The conclusion of
a session takes no pictures.

## Main results

* `enters_stepTalk`, `enters_drive`: every picture that is handed over is
  entered at once.
* `course_album`: being watched changes nothing in the course of a session.
* `album_course`: the album is the list of screenshots of the report.
-/

namespace Errand.Session

open Dialogue

variable {σ : Type}

/-- A screenshot hands over the path under which it was saved. -/
def pictureOf : (c : Call) → c.Answer → Option String
  | .screenshot, path => some path
  | _, _ => none

/-- The path of an entry of a screenshot. -/
def Entry.picture? : Entry → Option String
  | .captured path => some path
  | _ => none

/-- The browser together with the pictures that it has saved, in order. -/
def album (b : Browser σ) : Browser (σ × List String) := b.collecting pictureOf

theorem screenshotsOf_eq (entries : List Entry) :
    screenshotsOf entries = entries.filterMap Entry.picture? := by
  refine congrArg (fun f => List.filterMap f entries) (funext fun e => ?_)
  cases e <;> rfl

/-! ## Every picture is entered at once -/

/-- The dialogue enters the pictures that it is handed, each at once, and
nothing else as a picture. -/
def EntersPictures {α : Type} (d : Talk α) : Prop :=
  d.Enters pictureOf Entry.picture? none

/-- Calls that hand over no picture and entries that are none do not matter. -/
theorem entersPictures_of_confined {α : Type} {d : Talk α} {asks : Call → Prop}
    {notes : Entry → Prop} (h : d.Confined asks notes)
    (hAsks : ∀ c, asks c → c ≠ .screenshot)
    (hNotes : ∀ e, notes e → e.picture? = none) : EntersPictures d := by
  refine Enters.of_confined (h.weaken (fun c hc a => ?_) hNotes)
  cases c with
  | screenshot => exact absurd rfl (hAsks _ hc)
  | _ => rfl

theorem StaysSilent.entersPictures {α : Type} {d : Talk α} (h : StaysSilent d) :
    EntersPictures d := by
  apply entersPictures_of_confined h
  · rintro c hc rfl
    exact hc
  · intro e he
    exact he.elim

/-- **A step enters the picture that it takes before it goes on.** -/
theorem enters_stepTalk (o : Options) (loaded : Option String) (s : Step) :
    EntersPictures (stepTalk o loaded s) := by
  have hBehind : ∀ did, EntersPictures (behindKind o s did) := fun did =>
    (StaysSilent.behindKind o s did).entersPictures
  unfold stepTalk
  by_cases hLoaded : isLoaded loaded s = true
  · rw [if_pos hLoaded]
    rfl
  · rw [if_neg hLoaded]
    cases hAddress : s.address? with
    | some url =>
        rw [perform_navigate o hAddress]
        refine ⟨rfl, fun r => ?_⟩
        cases r with
        | ok _ => exact hBehind _
        | error t => rfl
    | none =>
        rw [perform_eq]
        apply Enters.bind _ hBehind
        by_cases hPicture : s.kind = .screenshot
        · rw [performKind_screenshot o hPicture]
          refine ⟨rfl, fun r => ?_⟩
          cases r with
          | ok path => exact ⟨rfl, rfl⟩
          | error t => rfl
        · exact (StaysSilent.performKind o hAddress hPicture).entersPictures

theorem enters_driveFrom (o : Options) (steps : List Step) (index : Nat)
    (loaded : Option String) :
    EntersPictures (driveFrom o index loaded steps) := by
  induction steps generalizing index loaded with
  | nil => rfl
  | cons step rest ih =>
      unfold driveFrom
      apply Enters.bind (enters_stepTalk o loaded step).attempt
      intro r
      -- only the record of the step stands between it and the next one
      cases r with
      | ok did => exact ⟨rfl, ih (index + 1) none⟩
      | error t =>
          cases hOptional : step.optional with
          | true =>
              simpa only [hOptional, if_true] using ⟨rfl, ih (index + 1) none⟩
          | false =>
              simpa only [hOptional, if_false, Bool.false_eq_true]
                using ⟨rfl, rfl⟩

/-- **The dialogue of a session enters every picture at once.** -/
theorem enters_drive (o : Options) (target : Option String)
    (steps : List Step) : EntersPictures (drive o target steps) := by
  have hOpening : EntersPictures (opening target) := by
    apply entersPictures_of_confined (opening_confined target)
    · rintro c (rfl | hc)
      · exact nofun
      · cases target with
        | none => cases hc
        | some url =>
            obtain rfl := Option.some.inj hc
            exact nofun
    · rintro e rfl
      rfl
  rw [drive_eq]
  exact hOpening.bind fun _ => enters_driveFrom o steps 0 target

/-- The conclusion of a session takes no picture. -/
theorem enters_conclude (o : Options) : EntersPictures (conclude o) := by
  apply entersPictures_of_confined (conclude_confined o)
  · rintro c (rfl | rfl)
    · exact nofun
    · exact nofun
  · intro e he
    exact he.elim

theorem screenshotsOf_conclude (b : Browser σ) (o : Options)
    (now : Time) (s : σ) :
    screenshotsOf ((conclude o).play b none now s).entries = [] := by
  rw [screenshotsOf_eq, Run.entries_eq, List.filterMap_filterMap,
    List.filterMap_eq_nil_iff]
  intro x hx
  have hWithin := (conclude_confined o).play b none now s x hx
  cases x with
  | asked t c => rfl
  | noted e => exact hWithin.elim

/-! ## The album of a session -/

/-- The course with the browser's state seen as a part of another one. -/
def Course.mapState {τ : Type} (f : σ → τ) (c : Course σ) : Course τ :=
  ⟨c.steps.mapState f, c.conclusion.map (Run.mapState f)⟩

section

variable (b : Browser σ) (o : Options) (target : Option String)
  (steps : List Step) (start : Time) (s : σ) (saved : List String)

/-- A session has a conclusion if its browser was there and did not break
down. -/
theorem course_cases :
    let driven :=
      (drive o target steps).play b (some (start + o.sessionTimeout)) start s
    course b o target steps start s = ⟨driven, none⟩ ∨
      course b o target steps start s =
        ⟨driven, some ((conclude o).play b none driven.now driven.state)⟩ := by
  intro driven
  unfold course
  dsimp only
  split
  · exact .inl rfl
  · split
    · exact .inr rfl
    · exact .inl rfl

/-- **Being watched changes nothing in a session.** -/
theorem course_album :
    (course (album b) o target steps start (s, saved)).mapState Prod.fst =
    course b o target steps start s := by
  have hDriven :=
    play_collecting b pictureOf (some (start + o.sessionTimeout))
      (drive o target steps) start s saved
  unfold course album
  rw [← hDriven]
  generalize (drive o target steps).play (b.collecting pictureOf)
    (some (start + o.sessionTimeout)) start
    (s, saved) = watched
  obtain ⟨ending, now, ⟨s', saved'⟩, trace⟩ := watched
  have hConclusion :=
    play_collecting b pictureOf none (conclude o) now s' saved'
  simp only [Run.mapState, Run.entries_eq]
  by_cases hThere : Entry.opened ∈ trace.filterMap Happening.entry?
  · simp only [hThere, if_true, ← hConclusion]
    cases ending <;> rfl
  · simp only [hThere, if_false]
    cases ending <;> rfl

/-- **The album of a session is the list of screenshots that its report
names.** -/
theorem album_course :
    (course (album b) o target steps start (s, saved)).state.2 =
    saved ++ screenshotsOf (course b o target steps start s).steps.entries := by
  have hDriven :=
    (enters_drive o target steps).play b (some (start + o.sessionTimeout))
      start s saved
  rw [Option.toList_none, List.append_nil] at hDriven
  rw [steps_course, screenshotsOf_eq]
  rcases course_cases (album b) o target steps start (s, saved)
    with hCourse | hCourse
  · rw [hCourse]
    exact hDriven
  · let watched :=
      (drive o target steps).play (album b) (some (start + o.sessionTimeout))
        start (s, saved)
    have hClosing :=
      (enters_conclude o).play b none watched.now watched.state.1
        watched.state.2
    rw [Option.toList_none, List.append_nil, ← screenshotsOf_eq,
      screenshotsOf_conclude, List.append_nil] at hClosing
    rw [hCourse]
    exact hClosing.trans hDriven

end

end Errand.Session
