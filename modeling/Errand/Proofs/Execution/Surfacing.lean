import Errand.Proofs.Execution.Automation
import Errand.Proofs.Session.Album

/-!
# What comes of a plan is put on record

The outcome of a plan is what the user hears of what was done. This file says
that nothing of it is lost on the way, told twice or told in another order,
whatever the tools and the browser come to.

A search in the plain browser makes two calls, and the second one whatever
became of the first. Each has its place in the evidence: one record of the
opening, and behind it what was found, or one record that says why there is
nothing. Only trouble with both of them makes the search fail.

An automation is one session. Its evidence is the transcript, with one line for
each step that came to an end, in order, and then the pictures that the browser
saved, in the order in which it saved them. So a picture that was saved is told
of even if its step failed behind it, or if nothing else came to an end.

## Main results

* `toolsRun_browserSearch`: the calls of a search in the plain browser, and
  what its outcome tells of them.
* `automation_told`: what the outcome of an automation tells of the session.
* `outcomes_surface`: both, for every plan.
-/

namespace Errand.Local

variable {σ : Type}

/-! ## Searches in the plain browser -/

/-- The record tells of both calls of a search in the plain browser: of the
opening, which worked or not, and behind it of what the search found or came
to. -/
structure SearchTold (request : String) (limit : Nat) (opened : Bool)
    (found : Except Trouble (List Hit)) (o : Outcome) : Prop where
  /-- The first record is of the opening. -/
  opening : o.evidence.head? =
    some ⟨"Opened browser search", Target.url request,
      (if opened then "Opened a browser window for '"
        else "Could not open a browser window for '") ++ request ++ "'"⟩
  /-- Hits are told one by one, the first ones up to the limit. -/
  hits : ∀ hits, found = .ok hits → hits ≠ [] →
    o.evidence.tail = (hits.take limit).map fun h => ⟨h.title, h.href, h.body⟩
  nothing : found = .ok [] → o.evidence.tail =
    [⟨"Web search", Target.url request, "Search returned no results"⟩]
  trouble : ∀ t, found = .error t →
    o.evidence.tail = [⟨"Web search failed", Target.url request, t.full⟩]
  /-- Only trouble with both makes the search fail. -/
  fails : o.success = false ↔ opened = false ∧ ∃ t, found = .error t
  steps : o.steps = 2

theorem searchTold (p : Plan) (request : String) (limit : Nat) (opened : Bool)
    (found : Except Trouble (List Hit)) :
    SearchTold request limit opened found
      (searchRecord p request limit opened found) where
  opening := rfl
  hits := by
    rintro hits rfl hSome
    obtain ⟨h, more, rfl⟩ := List.exists_cons_of_ne_nil hSome
    rfl
  nothing := by
    rintro rfl
    rfl
  trouble := by
    rintro t rfl
    rfl
  fails := by
    show (opened || worked found) = false ↔ _
    rw [Bool.or_eq_false_iff]
    cases found with
    | ok hits => simp [worked]
    | error t => simp [worked]
  steps := rfl

section

variable (d : Directory) (results : Nat) (t : Toolbox σ) (p : Plan)
  (request : String) (now : Time) (s : σ)

/-- How a search in the plain browser goes: the opening is settled first, and
the search is made whether the opening worked or not. Unless a tool breaks down
there is an outcome, and it tells of both. -/
def SearchSurfaces : Prop :=
  let limit := max results 1
  let opened := (t.openTarget request now s).settle none now
  let searched :=
    (t.search request limit opened.now opened.state).settle none opened.now
  let r := toolsRun d results t.partner p request now s
  ∃ reply, opened.reply = some reply ∧
    match reply with
    | .breakdown =>
      r.ending = .breakdown ∧ r.trace = [.asked now (.openTarget request)]
    | .answer worked =>
      r.trace = [.asked now (.openTarget request),
        .asked opened.now (.search request limit)] ∧
        ∃ reply, searched.reply = some reply ∧
          match reply with
          | .breakdown => r.ending = .breakdown
          | .answer found =>
            ∃ o, r.ending = .done o ∧
              SearchTold request limit (worked.toOption.getD false) found o

/-- **A search in the plain browser makes both calls and tells of both.** -/
theorem toolsRun_browserSearch (hSearch : p.operation = .search)
    (hBrowser : p.isBrowser = true) :
    SearchSurfaces d results t p request now s := by
  unfold SearchSurfaces
  intro limit opened searched r
  let search : Bool → Work Outcome := fun worked =>
    .ask (.search request limit) fun found =>
      .done (searchRecord p request limit worked found)
  have hRun : r = (opening request search).play t.partner none now s := by
    unfold r toolsRun carryOut
    rw [hSearch]
    show (if p.isBrowser = true then _ else _ : Work Outcome).play t.partner
          none now s = _
    rw [if_pos hBrowser]
  obtain ⟨reply, now₁, s₁, hOpened⟩ :=
    (t.openTarget request now s).exists_settle_none now
  have hPerform : (t.partner.perform (.openTarget request) now s).settle
        none now = ⟨some reply, now₁, s₁⟩ :=
    hOpened
  refine ⟨reply, congrArg Settled.reply hOpened, ?_⟩
  cases reply with
  | breakdown =>
      rw [hRun, opening, Dialogue.play_ask_of_breakdown hPerform]
      exact ⟨rfl, rfl⟩
  | answer worked =>
      have hOn :
          r =
            ((search (worked.toOption.getD false)).play t.partner none now₁
              s₁).preceded [.asked now (.openTarget request)] := by
        rw [hRun, opening, Dialogue.play_ask_of_answer hPerform]
        cases worked <;> rfl
      -- the search is made from where the opening was settled
      have hFrom : opened.now = now₁ ∧ opened.state = s₁ :=
        ⟨congrArg Settled.now hOpened, congrArg Settled.state hOpened⟩
      obtain ⟨reply, now₂, s₂, hSearched⟩ :=
        (t.search request limit now₁ s₁).exists_settle_none now₁
      have hPerform' :
          (t.partner.perform (.search request limit) now₁ s₁).settle none now₁ =
          ⟨some reply, now₂, s₂⟩ := hSearched
      have hReply : searched.reply = some reply := by
        unfold searched
        rw [hFrom.1, hFrom.2, hSearched]
      cases reply with
      | breakdown =>
          have hLost : r = ⟨.breakdown, now₂, s₂,
              [.asked now (.openTarget request),
                .asked now₁ (.search request limit)]⟩ := by
            rw [hOn, Dialogue.play_ask_of_breakdown hPerform']
            rfl
          rw [hLost, hFrom.1]
          exact ⟨rfl, _, hReply, rfl⟩
      | answer found =>
          have hTold :
              r =
                ⟨.done (searchRecord p request limit
                    (worked.toOption.getD false) found), now₂, s₂,
                  [.asked now (.openTarget request),
                    .asked now₁ (.search request limit)]⟩ := by
            rw [hOn, Dialogue.play_ask_of_answer hPerform']
            rfl
          rw [hTold, hFrom.1]
          exact ⟨rfl, _, hReply, _, rfl, searchTold p request limit _ found⟩

end

/-! ## Automations -/

/-- The record tells of a session: of its steps in the transcript, and then of
each picture that was saved. -/
structure AutomationTold (p : Plan) (target : Option String) (steps : List Step)
    (legs : List (Session.Leg σ)) (report : Session.Report)
    (saved : List String) (o : Outcome) : Prop where
  evidence : o.evidence =
    ⟨"Automation on " ++ p.platform ++ ": " ++
      Decimal.text report.stepsExecuted ++ "/" ++
      Decimal.text report.totalSteps ++ " steps",
      (report.finalUrl.or target).getD "",
      "\n".intercalate (report.records.map Session.Record.line)⟩ ::
      saved.map fun path => ⟨"Screenshot", "file://" ++ path, "Captured page"⟩
  /-- Each step that was begun and came to an end has its record, in order. -/
  records : report.records = legs.filterMap Session.Leg.record?
  begun : ∀ (k : Nat) (l : Session.Leg σ), legs[k]? = some l → l.index = k ∧
    steps[k]? = some l.step
  /-- The records carry the numbers 0, 1, 2 and so on, and describe the steps
  with these numbers. -/
  numbered : ∀ (k : Nat) (record : Session.Record),
    report.records[k]? = some record →
    record.index = k ∧ steps[k]?.map Step.describe = some record.description

section

variable (d : Directory) (results : Nat) (t : Toolbox σ) (p : Plan)
  (own : List Instruction) (request : String) (now : Time) (s : σ)

/-- How an automation goes: it is one session, and watching what the browser
saves makes no other session of it. Unless the browser breaks down there is an
outcome, and it tells of the steps and of all that was saved. -/
def AutomationSurfaces : Prop :=
  let driven := ServiceCall.stepsOf d p request own
  let target := automationTarget p driven
  let steps := driven.map Step.ofInstruction
  let c := Session.run t.browser t.limits target driven now s
  let watched :=
    Session.run (Session.album t.browser) t.limits target driven now (s, [])
  let r := toolsRun d results t.partner p request now s
  r.trace = [.asked now (.drive target driven)] ∧
    watched.mapState Prod.fst = c ∧
    (c.brokeDown = true → r.ending = .breakdown) ∧
    (c.brokeDown = false → ∃ o, r.ending = .done o ∧
      AutomationTold p target steps
        (Session.legs t.browser t.limits target steps now s)
        (c.report t.limits driven.length) watched.state.2 o)

/-- **An automation tells of its steps and of every picture that was saved.** -/
theorem automation_told (hPlan : p.operation = .automate own) :
    AutomationSurfaces d results t p own request now s := by
  unfold AutomationSurfaces
  intro driven target steps c watched r
  have hRun : r = _ := toolsRun_automate_eq d results t hPlan request now s
  have hCourse : watched.mapState Prod.fst = c :=
    Session.course_album t.browser t.limits target steps now s []
  have hSaved : watched.state.2 =
        (c.report t.limits driven.length).screenshots :=
    Session.album_course t.browser t.limits target steps now s []
  have hRecords : (c.report t.limits driven.length).records =
      (Session.legs t.browser t.limits target steps now s).filterMap
        Session.Leg.record? := by
    rw [← Session.recordsOf_legs, ← Session.steps_course]
    rfl
  have hBegun := Session.legs_getElem? t.browser t.limits target steps now s
  rw [hRun]
  refine ⟨rfl, hCourse, fun hBroke => ?_, fun hBroke => ?_⟩
  · exact if_pos hBroke
  · refine ⟨_, if_neg (Bool.eq_false_iff.mp hBroke), ?_, hRecords, hBegun, ?_⟩
    · rw [hSaved]
      rfl
    · intro k record hk
      rw [hRecords] at hk
      obtain ⟨l, hl, hRecord⟩ :=
        (Session.legs_shape t.browser t.limits target steps now s).exists_leg hk
      obtain ⟨hIndex, hDescription, -, -⟩ := Session.Leg.record?_eq_some hRecord
      obtain ⟨hNumber, hStep⟩ := hBegun k l hl
      rw [hIndex, hDescription, hStep]
      exact ⟨hNumber, rfl⟩

end

/-! ## What the user hears -/

/-- **Nothing is lost, told twice or told in another order.** For every plan
and every behaviour of the tools and the browser, a search in the plain browser
makes its two calls and tells of both, and an automation tells of its steps and
of every picture that the browser saved. -/
theorem outcomes_surface (d : Directory) (results : Nat) (t : Toolbox σ)
    (p : Plan) (request : String) (now : Time) (s : σ) :
    (p.operation = .search → p.isBrowser = true →
      SearchSurfaces d results t p request now s) ∧
      ∀ own, p.operation = .automate own →
      AutomationSurfaces d results t p own request now s :=
  ⟨toolsRun_browserSearch d results t p request now s,
    fun own => automation_told d results t p own request now s⟩

/-- A browser that takes pictures and counts them; it loads every address, and
fails in everything else. -/
def camera : Browser Nat where
  perform
    | .launch, _, n | .goto _, _, n => .finish (.answer (.ok ())) n
    | .screenshot, _, n =>
      .finish (.answer (.ok ("/shots/" ++ Decimal.text (n + 1) ++ ".png")))
        (n + 1)
    | _, _, n => .finish (.answer (.error (.plain "gone"))) n

/-- The pages that tools without a browser window find. -/
def threeHits : List Hit :=
  [⟨"A", "a.test", "a"⟩, ⟨"B", "b.test", "b"⟩, ⟨"C", "c.test", "c"⟩]

/-- Tools that open nothing and find three pages. -/
def windowless : Toolbox Nat where
  openTarget _ _ n := .finish (.answer (.ok false)) n
  search _ _ _ n := .finish (.answer (.ok threeHits)) n
  fetch _ _ n := .finish (.answer (.error (.plain "offline"))) n
  browser := camera
  limits := Session.brief

/-- Two pictures are told of, although the step of the first is skipped behind
it and the session is cut off behind the second. Of three pages the first two
are told of. -/
theorem outcomes_surface_cut :
    let steps : List Instruction :=
      [.make "screenshot" [("new_page", .bool true), ("optional", .bool true)],
        .make "screenshot" [], .make "sleep" [], .make "screenshot" []]
    let p : Plan := ⟨.automate steps, "shop.test", ""⟩
    let q : Plan := ⟨.search, "browser", ""⟩
    (∃ o, (toolsRun [] 2 windowless.partner p "go" 0 0).ending = .done o ∧
        o.evidence.tail =
      [⟨"Screenshot", "file:///shots/1.png", "Captured page"⟩,
        ⟨"Screenshot", "file:///shots/2.png", "Captured page"⟩]) ∧
    q.isBrowser = true ∧
    ∃ o, (toolsRun [] 2 windowless.partner q "tea" 0 0).ending = .done o ∧
      o.evidence.tail = [⟨"A", "a.test", "a"⟩, ⟨"B", "b.test", "b"⟩] := by
  intro steps p q
  have hBrowser : q.isBrowser = true := by decide +kernel
  obtain ⟨-, -, -, hDone⟩ :=
    (outcomes_surface [] 2 windowless p "go" 0 0).2 steps rfl
  obtain ⟨o, hEnd, hTold⟩ := hDone (by decide +kernel)
  obtain ⟨reply, hReply, hSearched⟩ :=
    (outcomes_surface [] 2 windowless q "tea" 0 0).1 rfl hBrowser
  obtain rfl : .answer (.ok false) = reply := Option.some.inj hReply
  obtain ⟨-, reply, hReply', hFound⟩ := hSearched
  obtain rfl : .answer (.ok threeHits) = reply := Option.some.inj hReply'
  obtain ⟨o', hEnd', hTold'⟩ := hFound
  refine ⟨⟨o, hEnd, ?_⟩, hBrowser, o', hEnd', ?_⟩
  · rw [hTold.evidence]
    decide +kernel
  · exact hTold'.hits threeHits rfl (List.cons_ne_nil _ _)

end Errand.Local
