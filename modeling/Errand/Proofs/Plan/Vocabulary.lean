import Errand.Plan.Step

/-!
# The vocabulary of steps

An instruction is understood if its tag, after folding case and other names, is
one of a fixed list of words. This file gives the list, and says that the words
on it are those for which there is a kind of step: every other tag gives an
unknown step, whatever else is in the instruction.

## Main results

* `kindOf?_eq_none_iff`: the words for which there is no kind are those outside
  the vocabulary.
* `kind_ofInstruction_unknown`: a step of another tag is unknown, and keeps the
  tag.
-/

namespace Errand.Step

/-- The tags for which there is a kind of step. -/
def vocabulary : List String :=
  ["navigate", "click", "click_any", "type", "keyboard_type", "press",
    "press_global", "wait", "wait_any", "wait_url", "sleep", "evaluate",
    "screenshot", "video_play", "video_force_play", "video_click_play",
    "video_keyboard_play", "wait_video_ready"]

/-- **There is a kind of step for the words of the vocabulary and for no
others**, whatever else is in the instruction. -/
theorem kindOf?_eq_none_iff {tag : String} {i : Instruction} :
    kindOf? tag i = none ↔ tag ∉ vocabulary := by
  have hWord : ∀ {word : String} {kind : StepKind}, word ∈ vocabulary →
      (some kind = none ↔ word ∉ vocabulary) :=
    fun hMem => iff_of_false nofun (not_not_intro hMem)
  unfold kindOf?
  split
  -- the two waits are told apart from sleeps by their selectors, and the last
  -- case is any other tag
  case h_8 | h_9 =>
    dsimp only
    split
    · exact hWord (by decide)
    · exact hWord (by decide)
  case h_19 => simp_all [vocabulary]
  all_goals exact hWord (by decide)

/-- A step whose tag is not in the vocabulary is unknown, and keeps the tag. -/
theorem kind_ofInstruction_unknown {i : Instruction}
    (h : normalTag i.tag ∉ vocabulary) :
    (ofInstruction i).kind = .unknown (normalTag i.tag) := by
  unfold ofInstruction
  simp only [kindOf?_eq_none_iff.mpr h, Option.getD_none]

end Errand.Step
