import Errand.Execution.ServiceCall
import Errand.Proofs.Platform.Mention

/-!
# Playing the first result

Playing the first result of a search is what the action service is asked for on
a platform with videos. Two lookups take part in that. Whether there are videos
is asked of the platform that the plan is about, be it named by the plan,
mentioned in what the plan names, or mentioned in the request. The platform
that the service is told, though, is looked up among those that the plan names.
Where the plan names one, it is the same. Otherwise the service is told what
the plan says, and that need not be a platform.

## Main results

* `wantsPlayback_of_name`: when a plan is carried out by playing the first
  result.
* `playback_platform`: what the service is asked then, and which platform it is
  told.
-/

namespace Errand

namespace Directory

variable {d : Directory} {e : Platform} {platform request : String}

theorem isVideo_iff : d.isVideo platform request = true ↔
    ∃ e, d.resolve platform request = some e ∧ e.recipe = .video := by
  simp only [isVideo, Option.any_eq_true, decide_eq_true_eq]

end Directory

namespace ServiceCall

variable {d : Directory} {results : Nat} {p : Plan} {request : String}
  {call : ServiceCall}

/-- Only a plan that wants something played is carried out by playing the first
result. -/
theorem wantsPlayback_of_name (h : ofPlan d results p request = .ok call)
    (hName : call.name = "play_first_result") :
    wantsPlayback d p request = true := by
  cases hPlay : wantsPlayback d p request with
  | true => rfl
  | false =>
      simp only [ofPlan, hPlay, Bool.false_eq_true, if_false] at h
      have hOther : call.name ∈ ["search_web", "automate_page",
          "fetch_page"] := by
        cases hOperation : p.operation with
        | search =>
            simp only [hOperation] at h
            split at h <;> cases h <;> simp [searchWeb, automatePage]
        | browse url =>
            simp only [hOperation] at h
            cases url with
            | none => cases h
            | some url =>
                cases h
                simp [fetchPage]
        | automate steps =>
            simp only [hOperation] at h
            cases h
            simp [automatePage]
        | answer =>
            simp only [hOperation] at h
            cases h
      rw [hName] at hOther
      exact absurd hOther (by decide)

/-- The platform that the service is told when the plan is about `e`. -/
def toldPlatform (d : Directory) (p : Plan) (e : Platform) : String :=
  if (d.find p.platform).isSome then e.name else p.platform

/-- **What the service is asked when it is to play the first result.** The plan
is about a platform of the table that has videos, and the service is told its
name if the plan names it, and otherwise what the plan says. -/
theorem playback_platform (h : ofPlan d results p request = .ok call)
    (hName : call.name = "play_first_result") :
    ∃ e ∈ d, d.resolve p.platform request = some e ∧ e.recipe = .video ∧
      call.params = [("keyword", .str (d.searchWords request)),
        ("platform", .str (toldPlatform d p e))] := by
  have hPlay := wantsPlayback_of_name h hName
  have hCall : call = playFirst d p request := by
    simp only [ofPlan, hPlay, if_true] at h
    exact (Except.ok.inj h).symm
  obtain ⟨e, hResolve, hVideo⟩ : ∃ e, d.resolve p.platform request = some e ∧
      e.recipe = .video := by
    simp only [wantsPlayback, Bool.and_eq_true] at hPlay
    exact Directory.isVideo_iff.mp hPlay.1.2
  refine ⟨e, Directory.mem_of_resolve hResolve, hResolve, hVideo, ?_⟩
  have hTold : ((d.find p.platform).map Platform.name).getD p.platform =
        toldPlatform d p e := by
    unfold toldPlatform
    cases hFind : d.find p.platform with
    | none => rfl
    | some e' =>
        obtain rfl : e' = e :=
          Option.some.inj
            ((Directory.resolve_of_find hFind request).symm.trans hResolve)
        rfl
  rw [hCall, playFirst, hTold]

/-- A table with a single platform, which has videos. -/
def videoSites : Directory :=
  [⟨"bilibili", "bilibili.com", ["bilibili", "b站"],
      "https://search.bilibili.com/all?keyword=\x7bquery\x7d", .video,
      [".bili-video-card a[href*='/video/']"]⟩]

/-- A plan that names the platform by an address on it. -/
theorem playback_platform_address :
    ∃ call, ofPlan videoSites 5 ⟨.automate [], "https://www.bilibili.com/v",
      ""⟩ "watch lofi" = .ok call ∧
      call.name = "play_first_result" ∧
      ∃ e ∈ videoSites, e.name = "bilibili" ∧ e.recipe = .video ∧
        call.params = [("keyword", .str "lofi"),
          ("platform", .str "bilibili")] := by
  let p : Plan := ⟨.automate [], "https://www.bilibili.com/v", ""⟩
  have hPlay : wantsPlayback videoSites p "watch lofi" = true := by
    decide +kernel
  have hCall : ofPlan videoSites 5 p "watch lofi" =
      .ok (playFirst videoSites p "watch lofi") := by
    simp only [ofPlan, hPlay, if_true]
  obtain ⟨e, hMem, hResolve, hVideo, hParams⟩ := playback_platform hCall rfl
  have hName : (videoSites.resolve p.platform "watch lofi").map Platform.name =
        some "bilibili" := by
    decide +kernel
  rw [hResolve] at hName
  have hWords : videoSites.searchWords "watch lofi" = "lofi" := by
    decide +kernel
  have hTold : toldPlatform videoSites p e = "bilibili" := by
    have hFind : (videoSites.find p.platform).isSome = true := by decide +kernel
    rw [toldPlatform, if_pos hFind]
    exact Option.some.inj hName
  rw [hWords, hTold] at hParams
  exact ⟨_, hCall, rfl, e, hMem, Option.some.inj hName, hVideo, hParams⟩

/-- **The service is told what is no platform** where the plan names none and
the request mentions one. -/
theorem playback_tells_no_platform :
    ¬ ∀ (d : Directory) (results : Nat) (p : Plan) (request : String)
    (call : ServiceCall),
      ofPlan d results p request = .ok call → call.name = "play_first_result" →
      ∃ e ∈ d, d.resolve p.platform request = some e ∧ e.recipe = .video ∧
        call.params.get? "platform" = some (.str e.name) := by
  intro hTold
  let p : Plan := ⟨.search, "my videos", ""⟩
  have hPlay : wantsPlayback videoSites p "play lofi on bilibili" = true := by
    decide +kernel
  have hCall : ofPlan videoSites 5 p "play lofi on bilibili" =
      .ok (playFirst videoSites p "play lofi on bilibili") := by
    simp only [ofPlan, hPlay, if_true]
  obtain ⟨e, hMem, -, -, hPlatform⟩ := hTold _ _ _ _ _ hCall rfl
  have hFind : videoSites.find "my videos" = none := by decide +kernel
  have hSaid : (playFirst videoSites p "play lofi on bilibili").params.get?
        "platform" =
      some (.str "my videos") := by
    rw [playFirst, hFind]
    rfl
  have hName : e.name = "my videos" :=
    (Json.str.inj (Option.some.inj (hSaid.symm.trans hPlatform))).symm
  have hNames : ∀ e ∈ videoSites, e.name ≠ "my videos" := by decide
  exact hNames e hMem hName

end ServiceCall

end Errand
