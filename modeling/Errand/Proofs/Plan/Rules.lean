import Errand.Platform.Builtin
import Errand.Proofs.Json.Reading
import Errand.Proofs.Plan.Travel
import Errand.Proofs.Text.Occurrence

/-!
# The rules in place of a planning model

The rules that plan without a model answer the same messages as a model does,
with the same kind of text: the request is put into a message, cut out of it
again, planned, and the plan is written as text and read again. This file
proves that nothing is lost on the way, so that planning by message is
planning.

The request is what stands between the label at the beginning and the first
blank line, and it is trimmed. So a request gets through if it is trimmed
itself and has no blank line in it, whatever else it holds. The plan gets
through if it is settled and its steps are simple values. That depends on the
table of platforms in one point only: the platforms have to have domains, and
these have to be trimmed.

## Main results

* `requestIn_planMessage`: the request is cut out of its message as it was put
  in.
* `plan_cases`: the four forms of the plans that the rules make.
* `settled_plan`, `simple_steps_plan`: what the rules plan can be written and
  read again.
* `planOf_complete_planMessage`: planning by message is planning.
-/

namespace Errand

/-! ## Simple values -/

namespace Json

/-- The value can be read back after it was written, and its arrays and objects
are nested no deeper than `n`. -/
structure Simple (n : Nat) (j : Json) : Prop where
  regular : j.all isRegular = true
  whole : j.all isWhole = true
  depth_le : j.depth ≤ n

theorem simple_str (s : String) (n : Nat) : Simple n (.str s) :=
  ⟨rfl, rfl, Nat.zero_le n⟩

theorem simple_bool (b : Bool) (n : Nat) : Simple n (.bool b) :=
  ⟨rfl, rfl, Nat.zero_le n⟩

theorem simple_ofTexts (ss : List String) (n : Nat) :
    Simple (n + 1) (ofTexts ss) where
  regular :=
    all_arr.mpr ⟨rfl, allItems_iff.mpr (List.forall_mem_map.mpr fun _ _ => rfl)⟩
  whole :=
    all_arr.mpr ⟨rfl, allItems_iff.mpr (List.forall_mem_map.mpr fun _ _ => rfl)⟩
  depth_le :=
    Nat.succ_le_succ (itemsDepth_le_iff.mpr
        (List.forall_mem_map.mpr fun _ _ => Nat.zero_le n))

namespace Fields

theorem depth_insert_le {n : Nat} {key : String} {value : Json}
    {fields : Fields} (hValue : value.depth ≤ n) (h : fieldsDepth fields ≤ n) :
    fieldsDepth (insert key value fields) ≤ n := by
  induction fields with
  | nil => exact Nat.max_le.mpr ⟨hValue, h⟩
  | cons field rest ih =>
      obtain ⟨k, v⟩ := field
      obtain ⟨hFirst, hRest⟩ := Nat.max_le.mp h
      rw [insert]
      split
      · exact Nat.max_le.mpr ⟨hValue, h⟩
      · split
        · exact Nat.max_le.mpr ⟨hValue, hRest⟩
        · exact Nat.max_le.mpr ⟨hFirst, ih hRest⟩

/-- What holds without fields and of fields with one more inserted holds of
sorted fields. -/
theorem sorted_induction {motive : Fields → Prop} {fields : Fields}
    (nil : motive [])
    (insert : ∀ field ∈ fields, ∀ done, motive done →
      motive (Fields.insert field.1 field.2 done)) :
    motive (sorted fields) := by
  have hFrom : ∀ done, motive done →
      motive (fields.foldl (fun acc field => Fields.insert field.1 field.2 acc)
        done) := by
    induction fields with
    | nil => exact fun done hDone => hDone
    | cons field rest ih =>
        intro done hDone
        exact ih (fun later hLater =>
            insert later (List.mem_cons_of_mem field hLater)) _
          (insert field List.mem_cons_self done hDone)
  exact hFrom [] nil

theorem pairwise_sorted (fields : Fields) :
    ((sorted fields).map Prod.fst).Pairwise (· < ·) :=
  sorted_induction (motive := fun done => (done.map Prod.fst).Pairwise (· < ·))
    .nil
    fun _ _ _ => pairwise_insert

theorem all_sorted {p : Json → Bool} {fields : Fields}
    (h : ∀ field ∈ fields, all p field.2 = true) :
    allFields p (sorted fields) = true :=
  sorted_induction (motive := fun done => allFields p done = true) rfl
    fun field hMem _ => all_insert (h field hMem)

theorem depth_sorted_le {n : Nat} {fields : Fields}
    (h : ∀ field ∈ fields, depth field.2 ≤ n) :
    fieldsDepth (sorted fields) ≤ n :=
  sorted_induction (motive := fun done => fieldsDepth done ≤ n) (Nat.zero_le n)
    fun field hMem _ => depth_insert_le (h field hMem)

end Fields

/-- An object of simple values is simple, if its fields are sorted. -/
theorem simple_sorted {n : Nat} {fields : Fields}
    (h : ∀ field ∈ fields, Simple n field.2) :
    Simple (n + 1) (.obj (Fields.sorted fields)) where
  regular := all_obj.mpr ⟨decide_eq_true (Fields.pairwise_sorted fields),
    Fields.all_sorted fun field hMem => (h field hMem).regular⟩
  whole :=
    all_obj.mpr ⟨rfl, Fields.all_sorted fun field hMem => (h field hMem).whole⟩
  depth_le :=
    Nat.succ_le_succ (Fields.depth_sorted_le fun field hMem =>
        (h field hMem).depth_le)

end Json

open Json

theorem Instruction.simple_make {n : Nat} (tag : String)
    {params : List (String × Json)} (h : ∀ param ∈ params, Simple n param.2) :
    Simple (n + 1) (make tag params).toJson :=
  simple_sorted (List.forall_mem_cons.mpr ⟨simple_str tag n, h⟩)

/-! ## The steps that the table has for a request -/

namespace Directory

theorem simple_navigateTo (url : String) : Simple 2 (navigateTo url).toJson :=
  Instruction.simple_make "navigate"
    (List.forall_mem_singleton.mpr (simple_str url 1))

theorem simple_resultSteps (p : Platform) :
    ∀ step ∈ p.resultSteps, Simple 2 step.toJson := by
  have hSelectors : Simple 1 (ofTexts p.resultSelectors) := simple_ofTexts _ 0
  have hFlag : ∀ tag, Simple 2
        (Instruction.make tag [("optional", .bool true)]).toJson :=
    fun tag =>
      Instruction.simple_make tag
      (List.forall_mem_singleton.mpr (simple_bool true 1))
  have hWait : ∀ tag key, Simple 2 (Instruction.make tag
      [("selectors", ofTexts p.resultSelectors), (key, .bool true)]).toJson :=
    fun tag key => Instruction.simple_make tag
      (List.forall_mem_cons.mpr ⟨hSelectors,
          List.forall_mem_singleton.mpr (simple_bool true 1)⟩)
  unfold Platform.resultSteps
  cases p.recipe with
  | page => exact List.forall_mem_nil _
  | shop =>
      refine List.forall_mem_append.mpr
        ⟨?_, List.forall_mem_singleton.mpr (hFlag _)⟩
      split
      · exact List.forall_mem_nil _
      · exact List.forall_mem_singleton.mpr (hWait _ _)
  | video =>
      refine List.forall_mem_append.mpr ⟨?_, ?_⟩
      · split
        · exact List.forall_mem_nil _
        · exact List.forall_mem_cons.mpr ⟨hWait _ _,
            List.forall_mem_singleton.mpr (hWait _ _)⟩
      · exact List.forall_mem_cons.mpr ⟨hFlag _, List.forall_mem_cons.mpr
          ⟨hFlag _, List.forall_mem_singleton.mpr (hFlag _)⟩⟩

/-- The steps that the table has for a request are simple, whatever the
request. -/
theorem simple_cannedSteps (d : Directory) (platform request : String) :
    ∀ step ∈ d.cannedSteps platform request, Simple 2 step.toJson := by
  unfold cannedSteps
  split
  · exact List.forall_mem_singleton.mpr (simple_navigateTo _)
  · exact List.forall_mem_cons.mpr ⟨simple_navigateTo _, simple_resultSteps _⟩

end Directory

namespace Rules

/-! ## What the rules plan -/

/-- An address to browse to is not blank. -/
theorem isBlank_browseUrl {d : Directory} {target : List Char} {url : String}
    (h : browseUrl? d target = some url) : Text.isBlank url = false := by
  have hLead : ∀ lead : String, Text.isBlank lead = false →
      Chars.startsWith lead.toList target = true →
      Text.isBlank (String.ofList target) = false := by
    intro lead hBlank hStart
    obtain ⟨rest, rfl⟩ := Chars.isSome_dropLead?.mp hStart
    rw [String.ofList_append, String.ofList_toList]
    exact Text.isBlank_append_of_left hBlank _
  unfold browseUrl? at h
  split at h
  · next hScheme =>
    obtain rfl := Option.some.inj h
    rcases Bool.or_eq_true_iff.mp hScheme with hHttp | hHttps
    · exact hLead "http://" (by decide) hHttp
    · exact hLead "https://" (by decide) hHttps
  · split at h
    · obtain rfl := Option.some.inj h
      exact Text.isBlank_append_of_left (by decide) _
    · obtain ⟨p, -, rfl⟩ := Option.map_eq_some_iff.mp h
      exact Text.isBlank_append_of_left (by decide) _

/-- **The four forms of plans by rules**: something to browse to, the steps of
a platform in the table, a search in the browser, and an answer. -/
theorem plan_cases (d : Directory) (request : String) :
    (∃ target url, browseUrl? d target = some url ∧
        plan d request = ⟨.browse (some url), browserPlatform, request⟩) ∨
      (∃ p ∈ d, plan d request =
        ⟨.automate (d.cannedSteps p.domain request), p.domain, request⟩) ∨
      plan d request = .fallback request ∨
      plan d request = ⟨.answer, browserPlatform, request⟩ := by
  unfold plan
  dsimp only
  split
  · next url hUrl =>
    obtain ⟨target, -, hBrowse⟩ := Option.bind_eq_some_iff.mp hUrl
    exact .inl ⟨target, url, hBrowse, rfl⟩
  · split
    · next p hPlatform =>
      obtain ⟨hDetect, -⟩ := Option.filter_eq_some_iff.mp hPlatform
      exact .inr (.inl ⟨p, List.mem_of_find?_eq_some hDetect, rfl⟩)
    · split
      · exact .inr (.inr (.inl rfl))
      · exact .inr (.inr (.inr rfl))

theorem context_plan (d : Directory) (request : String) :
    (plan d request).context = request := by
  rcases plan_cases d request with ⟨_, _, -, h⟩ | ⟨_, -, h⟩ | h | h
  all_goals exact congrArg Plan.context h

/-- **What the rules plan is settled**, if every platform has a trimmed
domain. -/
theorem settled_plan {d : Directory}
    (hDomains : ∀ p ∈ d, Text.trim p.domain = p.domain ∧ p.domain ≠ "")
    (request : String) : (plan d request).Settled := by
  have hBrowser : Text.trim browserPlatform = browserPlatform ∧
      browserPlatform ≠ "" := by decide
  rcases plan_cases d request with ⟨target, url, hUrl, h⟩ | ⟨p, hp, h⟩ | h | h
  · rw [h]
    refine ⟨hBrowser.1, hBrowser.2, ?_⟩
    rintro _ ⟨rfl⟩
    exact isBlank_browseUrl hUrl
  · rw [h]
    exact ⟨(hDomains p hp).1, (hDomains p hp).2, nofun⟩
  · rw [h]
    exact ⟨hBrowser.1, hBrowser.2, nofun⟩
  · rw [h]
    exact ⟨hBrowser.1, hBrowser.2, nofun⟩

/-- The steps that the rules plan are simple values. -/
theorem simple_steps_plan (d : Directory) (request : String) :
    ∀ step ∈ (plan d request).toWire.steps, Simple 2 step := by
  rcases plan_cases d request with ⟨_, _, -, h⟩ | ⟨p, -, h⟩ | h | h
  · rw [h]
    exact List.forall_mem_nil _
  · rw [h]
    exact List.forall_mem_map.mpr (d.simple_cannedSteps p.domain request)
  · rw [h]
    exact List.forall_mem_nil _
  · rw [h]
    exact List.forall_mem_nil _

/-! ## The way of the request -/

/-- **The request is cut out of its message as it was put in**, if it is
trimmed and has no blank line. -/
theorem requestIn_planMessage {request : String}
    (hTrimmed : Text.trim request = request)
    (hBlank : Text.isBlank request = false)
    (hLine : Text.contains "\n\n" request = false) :
    requestIn (Prompt.planMessage request) = request := by
  have hChars : Chars.trim request.toList = request.toList := by
    have hLists := congrArg String.toList hTrimmed
    rwa [Text.trim, String.toList_ofList] at hLists
  have hNonempty : request.toList ≠ [] := fun hNil => by
    rw [Text.isBlank, hNil] at hBlank
    cases hBlank
  -- the last character is no line break, so it separates the request from the
  -- blank line behind it
  obtain ⟨front, last, hLast⟩ : ∃ front last,
      request.toList = front ++ [last] :=
    ⟨_, _, (List.dropLast_concat_getLast hNonempty).symm⟩
  have hSolid : Chars.isBlank last = false :=
    Chars.isBlank_of_trimEnd (hChars.trans hLast)
  have hFront : Chars.contains ['\n', '\n'] (' ' :: front) = false := by
    rw [Bool.eq_false_iff, ne_eq, Chars.contains_iff, List.infix_cons_iff]
    rintro (hHere | hLater)
    · cases (List.cons_prefix_cons.mp hHere).1
    · have hFound : Text.contains "\n\n" request = true :=
        Chars.contains_iff.mpr (hLast ▸ hLater.trans
            (List.prefix_append front [last]).isInfix)
      rw [hLine] at hFound
      cases hFound
  have hBreak : last ∉ ['\n', '\n'] := fun hMem => by
    obtain rfl : last = '\n' := by simpa using hMem
    exact absurd hSolid (by decide)
  have hMessage : (Prompt.planMessage request).toList =
        Prompt.requestLabel.toList ++
      ((' ' :: front) ++ last ::
        (['\n', '\n'] ++ "Return the plan JSON.".toList)) := by
    simp only [Prompt.planMessage, String.toList_append, hLast,
      List.append_assoc]
    rfl
  have hUpTo : upTo "\n\n"
      ((' ' :: front) ++ last ::
        (['\n', '\n'] ++ "Return the plan JSON.".toList)) =
        ' ' :: request.toList := by
    have hCut := Chars.breakAt?_of_separator hFront hBreak
      (['\n', '\n'] ++ "Return the plan JSON.".toList)
    have hSeparator : "\n\n".toList = ['\n', '\n'] := by decide
    rw [Chars.breakAt?_self] at hCut
    rw [upTo, hSeparator, hCut, hLast]
    simp
  unfold requestIn after?
  dsimp only
  rw [hMessage, Chars.breakAt?_self]
  show String.ofList (Chars.trim (upTo "\n\n" _)) = request
  rw [hUpTo, Chars.trim_cons_of_isBlank (by decide), hChars,
    String.ofList_toList]

/-! ## The whole way -/

/-- The request and the plan both get through, whatever the table of platforms,
as long as their domains are trimmed. -/
theorem readPlan_completePlan {d : Directory}
    (hDomains : ∀ p ∈ d, Text.trim p.domain = p.domain ∧ p.domain ≠ "")
    (message : String) :
    Planner.readPlan (completePlan d message) =
      .ok (plan d (requestIn message)) :=
  Planner.readPlan_toJson (settled_plan hDomains _) fun step hStep =>
    have hSimple := simple_steps_plan d _ step hStep
    ⟨hSimple.regular, hSimple.whole,
      Nat.le_trans (Nat.add_le_add_right hSimple.depth_le 2) (by decide)⟩

/-- **Planning by message is planning.** With the built-in table, the rules
answer the message that asks for a plan, and from the answer the plan is read
that the rules make for the request itself: for every request that is trimmed,
not blank, and without a blank line, whatever else is in it. -/
theorem planOf_complete_planMessage {request : String}
    (hTrimmed : Text.trim request = request)
    (hBlank : Text.isBlank request = false)
    (hLine : Text.contains "\n\n" request = false) :
    (complete .builtin Prompt.planning (Prompt.planMessage request)).map
      (Planner.planOf · request) =
      .ok (plan .builtin request) := by
  have hDomains : ∀ p ∈ Directory.builtin, Text.trim p.domain = p.domain ∧
      p.domain ≠ "" := by
    decide +kernel
  have hRead := readPlan_completePlan hDomains (Prompt.planMessage request)
  rw [requestIn_planMessage hTrimmed hBlank hLine] at hRead
  have hContext : Text.isBlank (plan .builtin request).context = false := by
    rw [context_plan]
    exact hBlank
  have hPlan :
      Planner.planOf (completePlan .builtin (Prompt.planMessage request))
        request =
      plan .builtin request := by
    unfold Planner.planOf
    rw [hRead]
    dsimp only
    rw [hContext]
    rfl
  rw [complete, if_pos rfl, Except.map, hPlan]

/-- Requests for all four operations, with a label, quotes, braces, a fence and
a backslash in them. -/
theorem planOf_complete_planMessage_kinds :
    let requests :=
      ["open \x7bgithub\x7d.com", "search REQUEST: \"tea\" ``` on bilibili",
        "find REQUEST:\nC:\\ or \x7d", "a \"joke\" \x7b"]
    (∀ q ∈ requests,
        Text.trim q = q ∧ Text.isBlank q = false ∧
        Text.contains "\n\n" q = false) ∧
      (∀ q ∈ requests,
        (complete .builtin Prompt.planning (Prompt.planMessage q)).map
          (Planner.planOf · q) =
          .ok (plan .builtin q)) ∧
      requests.map (fun q => (plan .builtin q).kind) =
        [.browse, .automate, .search, .answer] := by
  intro requests
  have hRequests : ∀ q ∈ requests,
      Text.trim q = q ∧ Text.isBlank q = false ∧
      Text.contains "\n\n" q = false := by
    decide +kernel
  refine ⟨hRequests, fun q hq => ?_, by decide +kernel⟩
  obtain ⟨hTrimmed, hBlank, hLine⟩ := hRequests q hq
  exact planOf_complete_planMessage hTrimmed hBlank hLine

end Rules

end Errand
