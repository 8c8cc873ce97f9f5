import Errand.Proofs.Execution.Agreement
import Errand.Proofs.Execution.Automation

/-!
# Addresses that are completed

A plan spells an address with or without a scheme, and the tools are to get one
with a scheme. Whether a text has one is a matter of how it begins
(`BeginsWithScheme`). What is asked is whether the mark of a scheme occurs
anywhere in it (`HasScheme`). So an address that has one is handed over as it
is, and one that has none is completed, unless the mark occurs further behind,
as in a host whose parameters hold another address: this one is handed over as
it is, without a scheme.

## Main results

* `withScheme_eq`: what becomes of an address.
* `beginsWithScheme_withScheme_iff`: when it begins with a scheme afterwards.
* `Local.asked_addresses`: the addresses that the tools get for a plan.
* `Local.asked_without_scheme`: an address that is handed over without a scheme.
-/

namespace Errand

/-! ## Schemes at the beginning -/

/-- The characters of the name of a scheme behind its first letter. -/
def inSchemeName (c : Char) : Bool :=
  c.isAlphanum || c == '+' || c == '-' || c == '.'

/-- The text begins with the name of a scheme and the mark behind it. -/
def namesScheme : List Char → Bool
  | [] => false
  | c :: cs =>
  c.isAlpha && Chars.startsWith "://".toList (cs.dropWhile inSchemeName)

/-- The address begins with a scheme, one of two that need no mark included. -/
def BeginsWithScheme (url : String) : Prop :=
  namesScheme url.toList = true ∨ Text.startsWith "about:" url = true ∨
    Text.startsWith "data:" url = true

instance (url : String) : Decidable (BeginsWithScheme url) :=
  inferInstanceAs (Decidable (_ ∨ _ ∨ _))

/-- **A scheme at the beginning is a letter, then letters, digits and the signs
that are allowed, and the mark.** -/
theorem namesScheme_iff {cs : List Char} : namesScheme cs = true ↔
    ∃ first name rest, cs = first :: (name ++ "://".toList ++ rest) ∧
    first.isAlpha = true ∧
      ∀ c ∈ name, inSchemeName c = true := by
  cases cs with
  | nil => exact ⟨nofun, nofun⟩
  | cons first cs =>
      rw [namesScheme, Bool.and_eq_true, Chars.startsWith,
        Chars.isSome_dropLead?]
      constructor
      · rintro ⟨hFirst, rest, hRest⟩
        refine ⟨first, cs.takeWhile inSchemeName, rest, ?_, hFirst,
          List.all_eq_true.mp List.all_takeWhile⟩
        rw [List.append_assoc, hRest, List.takeWhile_append_dropWhile]
      · rintro ⟨_, name, rest, hText, hFirst, hName⟩
        obtain ⟨rfl, rfl⟩ := List.cons.inj hText
        refine ⟨hFirst, rest, ?_⟩
        rw [List.append_assoc, List.dropWhile_append_of_pos hName]
        rfl

/-- An address that begins with a scheme has one. -/
theorem BeginsWithScheme.hasScheme {url : String} (h : BeginsWithScheme url) :
    HasScheme url := by
  refine h.imp_left fun hNamed => ?_
  obtain ⟨first, name, rest, hText, -, -⟩ := namesScheme_iff.mp hNamed
  refine Chars.contains_iff.mpr ⟨first :: name, rest, ?_⟩
  rw [hText]
  rfl

theorem beginsWithScheme_https (rest : String) :
    BeginsWithScheme ("https://" ++ rest) := by
  refine .inl (namesScheme_iff.mpr ⟨'h', "ttps".toList, rest.toList, ?_,
      by decide, List.all_eq_true.mp (by decide)⟩)
  rw [String.toList_append]
  rfl

/-- **What becomes of an address**, once the blanks at its ends are gone. -/
theorem withScheme_eq (url : String) : withScheme url =
    if HasScheme (Text.trim url) then Text.trim url
    else "https://" ++ String.ofList
      (Chars.dropLeads ['/', '/'] (Text.trim url).toList) := by
  have hTrim : (Text.trim url).toList = Chars.trim url.toList :=
    String.toList_ofList
  have hHas : HasScheme (Text.trim url) ↔
      (Chars.contains "://".toList (Chars.trim url.toList) ||
        Chars.startsWith "about:".toList (Chars.trim url.toList) ||
        Chars.startsWith "data:".toList (Chars.trim url.toList)) = true := by
    rw [← hTrim, Bool.or_eq_true, Bool.or_eq_true, or_assoc]
    rfl
  unfold withScheme
  dsimp only
  split
  · next h => rw [if_pos (hHas.mpr h)]; rfl
  · next h => rw [if_neg (mt hHas.mp h), String.ofList_append, hTrim]; rfl

/-- An address has a scheme if it begins with one, and also if the mark of one
occurs in it. -/
theorem hasScheme_iff (url : String) :
    HasScheme url ↔ BeginsWithScheme url ∨ Text.contains "://" url = true :=
  ⟨fun h => h.elim .inr fun h => .inl (.inr h),
    fun h => h.elim BeginsWithScheme.hasScheme .inl⟩

/-- What becomes of an address as it is spelled in a plan. -/
structure Completes (spelled handed : String) : Prop where
  /-- One that begins with a scheme stays as it is, but for the blanks at its
  ends. -/
  kept : BeginsWithScheme (Text.trim spelled) → handed = Text.trim spelled
  /-- One without a scheme and without the mark of one is taken as that of a
  host. -/
  completed : ¬ BeginsWithScheme (Text.trim spelled) →
    Text.contains "://" (Text.trim spelled) = false →
    handed = "https://" ++ String.ofList
      (Chars.dropLeads ['/', '/'] (Text.trim spelled).toList)
  /-- One without a scheme that has the mark of one somewhere else stays as it
  is, too. -/
  missed : ¬ BeginsWithScheme (Text.trim spelled) →
    Text.contains "://" (Text.trim spelled) = true →
    handed = Text.trim spelled
  /-- So an address gets a scheme unless it has the mark of one somewhere
  else. -/
  begins_iff : BeginsWithScheme handed ↔
    BeginsWithScheme (Text.trim spelled) ∨
    Text.contains "://" (Text.trim spelled) = false

theorem completes_withScheme (url : String) :
    Completes url (withScheme url) := by
  have hKept : ∀ h : HasScheme (Text.trim url),
      withScheme url = Text.trim url := fun h => by
    rw [withScheme_eq, if_pos h]
  have hCompleted : ∀ h : ¬ HasScheme (Text.trim url), withScheme url =
      "https://" ++ String.ofList
        (Chars.dropLeads ['/', '/'] (Text.trim url).toList) := fun h => by
    rw [withScheme_eq, if_neg h]
  have hNot : ¬ BeginsWithScheme (Text.trim url) →
      Text.contains "://" (Text.trim url) = false →
      ¬ HasScheme (Text.trim url) := fun hBegins hMark h =>
    ((hasScheme_iff _).mp h).elim hBegins fun hFound => by
      rw [hMark] at hFound
      cases hFound
  refine ⟨fun h => hKept h.hasScheme,
    fun hBegins hMark => hCompleted (hNot hBegins hMark),
    fun _ hMark => hKept ((hasScheme_iff _).mpr (.inr hMark)), ?_⟩
  by_cases hBegins : BeginsWithScheme (Text.trim url)
  · rw [hKept hBegins.hasScheme]
    exact iff_of_true hBegins (.inl hBegins)
  · cases hMark : Text.contains "://" (Text.trim url) with
    | true =>
        rw [hKept ((hasScheme_iff _).mpr (.inr hMark))]
        exact iff_of_false hBegins (not_or.mpr ⟨hBegins, nofun⟩)
    | false =>
        rw [hCompleted (hNot hBegins hMark)]
        exact iff_of_true (beginsWithScheme_https _) (.inr rfl)

/-! ## The addresses that the tools get -/

/-- The address that a list of steps navigates to first, as it is spelled. -/
def firstAddress? (steps : List Instruction) : Option String :=
  steps.findSome? fun i => (Step.ofInstruction i).address?

/-- Steps start from the address they navigate to first or else from the
platform, and only in the plain browser from none. -/
theorem automationTarget_completes (p : Plan) (steps : List Instruction) :
    (automationTarget p steps = none ↔ firstAddress? steps = none ∧
      p.isBrowser = true) ∧
      ∀ handed ∈ automationTarget p steps,
      Completes ((firstAddress? steps).getD p.platform) handed := by
  unfold automationTarget firstAddress?
  split
  · next url hUrl =>
      rw [hUrl]
      refine ⟨iff_of_false nofun (fun h => nomatch h.1),
        fun handed hHanded => ?_⟩
      obtain rfl := Option.some.inj hHanded
      exact completes_withScheme url
  · next hNone =>
      rw [hNone]
      cases hBrowser : p.isBrowser with
      | true => exact ⟨iff_of_true rfl ⟨rfl, rfl⟩, nofun⟩
      | false =>
          refine ⟨iff_of_false nofun (fun h => nomatch h.2),
            fun handed hHanded => ?_⟩
          obtain rfl := Option.some.inj hHanded
          obtain ⟨hKept, hCompleted, hMissed, hBegins⟩ :=
            completes_withScheme (Text.trim p.platform)
          rw [Text.trim_trim] at hKept hCompleted hMissed hBegins
          exact ⟨hKept, hCompleted, hMissed, hBegins⟩

namespace Local

open Dialogue

variable {σ : Type} (d : Directory) (results : Nat) {t : Partner Tool.Answer σ}
  (p : Plan) (request : String) (now : Time) (s : σ)

/-- **The addresses that the tools get for a plan.** For a page the same one is
opened and fetched, and for steps the session is to start from one. Each is
what becomes of the address as the plan spells it. -/
theorem asked_addresses (ht : t.Answers) :
    (∀ spelled, p.operation = .browse (some spelled) →
        ∃ handed, asked (toolsRun d results t p request now s) =
          [.openTarget handed, .fetch handed] ∧
          Completes spelled handed) ∧
      ∀ own, p.operation = .automate own →
        let driven := ServiceCall.stepsOf d p request own
        ∃ target, asked (toolsRun d results t p request now s) =
          [.drive target driven] ∧
          (target = none ↔ firstAddress? driven = none ∧ p.isBrowser = true) ∧
          ∀ handed ∈ target, Completes ((firstAddress? driven).getD p.platform)
            handed := by
  rw [asked_toolsRun d results p request now s ht]
  refine ⟨fun spelled hPage => ?_, fun own hSteps => ?_⟩
  · refine ⟨withScheme spelled, ?_, completes_withScheme spelled⟩
    rw [subjects, hPage]
  · intro driven
    refine ⟨automationTarget p driven, ?_, automationTarget_completes p driven⟩
    rw [subjects, hSteps]

/-- Tools that are all offline. -/
def offlineTools : Partner Tool.Answer Nat :=
  ⟨fun _ _ n => .finish (.answer (.error (.plain "offline"))) (n + 1)⟩

/-- A page whose address leaves the scheme to the reader, and a step to a page
without one. -/
theorem asked_addresses_relative :
    let page : Plan := ⟨.browse (some " //cdn.test/x "), "browser", ""⟩
    let first := Directory.navigateTo "shop.test:8080/cart"
    let steps : Plan := ⟨.automate [first], "shop.test", ""⟩
    offlineTools.Answers ∧ page.operation = .browse (some " //cdn.test/x ") ∧
      steps.operation = .automate [first] ∧
      asked (toolsRun [] 5 offlineTools page "open it" 0 0) =
        [.openTarget "https://cdn.test/x", .fetch "https://cdn.test/x"] ∧
      asked (toolsRun [] 5 offlineTools steps "open it" 0 0) =
        [.drive (some "https://shop.test:8080/cart") [first]] := by
  intro page first steps
  have hAnswers : offlineTools.Answers := fun _ _ _ => trivial
  obtain ⟨hPage, -⟩ := asked_addresses [] 5 page "open it" 0 0 hAnswers
  obtain ⟨-, hSteps⟩ := asked_addresses [] 5 steps "open it" 0 0 hAnswers
  refine ⟨hAnswers, rfl, rfl, ?_, ?_⟩
  · obtain ⟨handed, hAsked, hCompletes⟩ := hPage _ rfl
    have hHanded : handed = "https://cdn.test/x" :=
      (hCompletes.completed (by decide +kernel) (by decide +kernel)).trans
        (by decide +kernel)
    rw [hAsked, hHanded]
  · obtain ⟨target, hAsked, hNone, hCompletes⟩ := hSteps _ rfl
    have hFirst : (firstAddress? [first]).getD "shop.test" =
          "shop.test:8080/cart" := by decide +kernel
    cases target with
    | none => exact absurd (hNone.mp rfl).2 (by decide +kernel)
    | some handed =>
        have hOf : Completes ((firstAddress? [first]).getD "shop.test")
              handed := hCompletes handed rfl
        rw [hFirst] at hOf
        have hHanded : handed = "https://shop.test:8080/cart" :=
          (hOf.completed (by decide +kernel) (by decide +kernel)).trans
            (by decide +kernel)
        rw [hAsked, hHanded]
        rfl

/-- The mark of a scheme in a parameter keeps an address without a scheme from
being completed, on a page and in a step. -/
theorem asked_without_scheme :
    let url := "shop.test/go?to=https://other.test"
    let page : Plan := ⟨.browse (some url), "browser", ""⟩
    let first := Directory.navigateTo url
    let steps : Plan := ⟨.automate [first], "shop.test", ""⟩
    ¬ BeginsWithScheme url ∧ offlineTools.Answers ∧
      asked (toolsRun [] 5 offlineTools page "open it" 0 0) =
        [.openTarget url, .fetch url] ∧
      firstAddress? [first] = some url ∧
      asked (toolsRun [] 5 offlineTools steps "open it" 0 0) =
        [.drive (some url) [first]] := by
  intro url page first steps
  have hAnswers : offlineTools.Answers := fun _ _ _ => trivial
  have hKept : withScheme url = url := by decide +kernel
  have hTarget : automationTarget steps [first] = some url := by decide +kernel
  refine ⟨by decide +kernel, hAnswers, ?_, by decide +kernel, ?_⟩
  · rw [asked_toolsRun [] 5 page "open it" 0 0 hAnswers]
    show [Tool.openTarget (withScheme url), Tool.fetch (withScheme url)] = _
    rw [hKept]
  · rw [asked_toolsRun [] 5 steps "open it" 0 0 hAnswers]
    show [Tool.drive (automationTarget steps [first]) [first]] = _
    rw [hTarget]

end Local

end Errand
