import Errand.Proofs.Platform.Filler
import Errand.Proofs.Platform.Segments

/-!
# What the edges of a segment lose

The words of a segment are peeled from the front and then from the end. An edge
loses whole filler words, and Chinese fillers off the word that stands at it; a
word that comes to nothing goes with its fillers. The peeling stops at the
first word of which something is left.

`Peels` describes this for one edge by what is lost, one loss after the other,
whichever edge it is. From it follows what becomes of a segment: its words are
some that are gone, a run that is kept, and some that are gone; of the run,
only the first word has lost something at its front and only the last at its
end. Only the very first loss of an edge that touches a mention can be a
Chinese filler of a single character.

The words of a search are the words that are kept of all segments, so they are
made of characters of the request, in their order, and there are none only if
nothing is kept at all; then the request itself is searched for.

## Main results

* `Filler.exists_peels`: what an edge loses.
* `Segment.peeledAs`: what becomes of a segment.
* `Directory.searchWords_peeled`: what becomes of a request.
-/

namespace Errand

open Chars

namespace Filler

/-! ## One edge -/

/-- Where `attach` puts fillers on the edge of a word, `strip` takes them
off. -/
structure Edge (attach : List Char → List Char → List Char)
    (strip : Bool → List Char → Option (List Char)) : Prop where
  length_attach : ∀ f w, (attach f w).length = f.length + w.length
  subset_attach : ∀ f w, w ⊆ attach f w
  strips : ∀ {touching w rest}, strip touching w = some rest →
    ∃ f ∈ chineseAt touching, w = attach f rest
  weaken : ∀ {touching w}, strip touching w = none → strip false w = none

/-- A filler off an edge is one of all Chinese fillers, and a single character
only if the edge touches a mention. -/
theorem mem_chineseAt {touching : Bool} {f : List Char} :
    f ∈ chineseAt touching ↔ f ∈ chineseAt true ∧
    (touching = true ∨ 1 < f.length) := by
  simp [chineseAt]

theorem chineseAt_subset (touching : Bool) :
    chineseAt touching ⊆ chineseAt true :=
  fun _ h => (mem_chineseAt.mp h).1

theorem ne_nil_of_mem_chineseAt {touching : Bool} {f : List Char}
    (h : f ∈ chineseAt touching) : f ≠ [] := by
  have hAll : ∀ f ∈ chineseAt true, f ≠ [] := by decide
  exact hAll f (chineseAt_subset touching h)

/-- No Chinese filler is a filler word. -/
theorem isWord_of_mem_chineseAt :
    ∀ f ∈ chineseAt true, isWord f = false := by decide

theorem edge_front : Edge (· ++ ·) stripOne? where
  length_attach f w := List.length_append
  subset_attach f w := List.subset_append_right f w
  strips := by
    intro touching w rest h
    obtain ⟨f, hf, hDrop⟩ := List.exists_of_findSome?_eq_some h
    exact ⟨f, hf, eq_append_of_dropLead? hDrop⟩
  weaken := by
    intro touching w h
    rw [stripOne?, List.findSome?_eq_none_iff] at h ⊢
    intro f hf
    exact h f (mem_chineseAt.mpr ⟨(mem_chineseAt.mp hf).1,
        .inr (by simpa using (mem_chineseAt.mp hf).2)⟩)

theorem edge_end : Edge (fun f w => w ++ f) stripOneEnd? where
  length_attach f w := by simp [Nat.add_comm]
  subset_attach f w := List.subset_append_left w f
  strips := by
    intro touching w rest h
    obtain ⟨f, hf, hDrop⟩ := List.exists_of_findSome?_eq_some h
    obtain ⟨back, hBack, rfl⟩ := Option.map_eq_some_iff.mp hDrop
    refine ⟨f, hf, ?_⟩
    have hWord := congrArg List.reverse (eq_append_of_dropLead? hBack)
    simpa using hWord
  weaken := by
    intro touching w h
    rw [stripOneEnd?, List.findSome?_eq_none_iff] at h ⊢
    intro f hf
    exact h f (mem_chineseAt.mpr ⟨(mem_chineseAt.mp hf).1,
        .inr (by simpa using (mem_chineseAt.mp hf).2)⟩)

/-- What an edge loses, one loss after the other, and the words that are left:
a filler word goes as a whole, a Chinese filler goes off the word at the edge,
and a word of which nothing is left goes without a loss. -/
inductive Peels (attach : List Char → List Char → List Char) :
    List (List Char) → List (List Char) → List (List Char) → Prop where
  | stop (ws : List (List Char)) : Peels attach ws [] ws
  | word {w : List Char} {ws lost left : List (List Char)}
      (hWord : isWord w = true) (hRest : Peels attach ws lost left) :
      Peels attach (w :: ws) (w :: lost) left
  | filler {f w : List Char} {ws lost left : List (List Char)}
      (hFiller : f ∈ chineseAt true)
      (hRest : Peels attach (w :: ws) lost left) :
      Peels attach (attach f w :: ws) (f :: lost) left
  | spent {ws lost left : List (List Char)}
      (hRest : Peels attach ws lost left) : Peels attach ([] :: ws) lost left

/-- No loss is a Chinese filler of a single character, but the first one may be
if the edge touches a mention. -/
def SingleFirst (touching : Bool) (lost : List (List Char)) : Prop :=
  ∀ (i : Nat) (f : List Char), lost[i]? = some f → f ∈ chineseAt true →
    f.length = 1 → touching = true ∧ i = 0

namespace SingleFirst

variable {touching : Bool} {f : List Char} {lost more : List (List Char)}

theorem nil : SingleFirst touching [] := nofun

theorem cons (hFirst : f ∈ chineseAt true → f.length = 1 → touching = true)
    (h : SingleFirst false lost) : SingleFirst touching (f :: lost) := by
  intro i g hi hFiller hSingle
  cases i with
  | zero =>
      obtain rfl := Option.some.inj hi
      exact ⟨hFirst hFiller hSingle, rfl⟩
  | succ i =>
      obtain ⟨hNot, -⟩ := h i g hi hFiller hSingle
      cases hNot

/-- Behind other losses, nothing is a first loss. -/
theorem append (h : SingleFirst touching lost)
    (hMore : SingleFirst false more) : SingleFirst touching (lost ++ more) := by
  intro i g hi hFiller hSingle
  by_cases hHere : i < lost.length
  · rw [List.getElem?_append_left hHere] at hi
    exact h i g hi hFiller hSingle
  · rw [List.getElem?_append_right (Nat.not_lt.mp hHere)] at hi
    obtain ⟨hNot, -⟩ := hMore _ g hi hFiller hSingle
    cases hNot

end SingleFirst

/-- Fillers that go off one word are lost one after the other. -/
theorem Peels.fillers {attach : List Char → List Char → List Char}
    {w : List Char} {ws lost left : List (List Char)}
    (h : Peels attach (w :: ws) lost left) {fs : List (List Char)}
    (hFillers : ∀ f ∈ fs, f ∈ chineseAt true) :
    Peels attach (fs.foldr attach w :: ws) (fs ++ lost) left := by
  induction fs with
  | nil => exact h
  | cons f fs ih =>
      obtain ⟨hf, hRest⟩ := List.forall_mem_cons.mp hFillers
      exact .filler hf (ih hRest)

section Edge

variable {attach : List Char → List Char → List Char}
  {strip : Bool → List Char → Option (List Char)} (he : Edge attach strip)

include he

theorem length_lt_of_strip {touching : Bool} {w rest : List Char}
    (h : strip touching w = some rest) : rest.length < w.length := by
  obtain ⟨f, hf, rfl⟩ := he.strips h
  have hPositive := List.length_pos_iff.mpr (ne_nil_of_mem_chineseAt hf)
  rw [he.length_attach]
  omega

theorem subset_foldr_attach (fs : List (List Char)) (w : List Char) :
    w ⊆ fs.foldr attach w := by
  induction fs with
  | nil => exact List.Subset.refl w
  | cons f fs ih => exact List.Subset.trans ih (he.subset_attach f _)

/-- What is stripped off a word, one filler after the other. -/
theorem exists_fillers (rounds : Nat) (touching : Bool) (w : List Char) :
    ∃ fs : List (List Char), (∀ f ∈ fs, f ∈ chineseAt true) ∧
    SingleFirst touching fs ∧
      w = fs.foldr attach (stripAll strip rounds touching w).1 := by
  induction rounds generalizing touching w with
  | zero => exact ⟨[], nofun, .nil, rfl⟩
  | succ rounds ih =>
      rw [stripAll]
      cases hStrip : strip touching w with
      | none => exact ⟨[], nofun, .nil, rfl⟩
      | some rest =>
          obtain ⟨f, hf, hWord⟩ := he.strips hStrip
          obtain ⟨hFiller, hSize⟩ := mem_chineseAt.mp hf
          obtain ⟨fs, hFillers, hFirst, hRest⟩ := ih false rest
          refine ⟨f :: fs, List.forall_mem_cons.mpr ⟨hFiller, hFillers⟩,
            .cons (fun _ hSingle => ?_) hFirst, ?_⟩
          · exact hSize.resolve_right (by omega)
          · rw [List.foldr_cons, ← hRest, hWord]

/-- No filler of more than one character is left at the edge of a word that is
stripped. -/
theorem strip_stripAll {rounds : Nat} {w : List Char}
    (hRounds : w.length ≤ rounds) (touching : Bool) :
    strip false (stripAll strip rounds touching w).1 = none := by
  induction rounds generalizing touching w with
  | zero =>
      cases hStrip : strip false w with
      | none => exact hStrip
      | some rest =>
          have hLess := length_lt_of_strip he hStrip
          omega
  | succ rounds ih =>
      rw [stripAll]
      cases hStrip : strip touching w with
      | none => exact he.weaken hStrip
      | some rest =>
          have hLess := length_lt_of_strip he hStrip
          exact ih (by omega) false

omit he in
/-- What becomes of the word at the edge: it is a filler word and goes, or it
is stripped to nothing and goes, or it stays and stops the peeling. -/
theorem peel_cases (touching : Bool) (w : List Char) (ws : List (List Char)) :
    (isWord w = true ∧ peel strip touching (w :: ws) = peel strip false ws) ∨
      ((stripAll strip w.length touching w).1 = [] ∧
        peel strip touching (w :: ws) = peel strip false ws) ∨
      ((stripAll strip w.length touching w).1 ≠ [] ∧
        peel strip touching (w :: ws) =
          (stripAll strip w.length touching w).1 :: ws) := by
  cases hWord : isWord w with
  | true => exact .inl ⟨rfl, peel_of_isWord hWord⟩
  | false =>
      right
      by_cases hNone : (stripAll strip w.length touching w).1 = []
      · left
        refine ⟨hNone, ?_⟩
        rw [peel, hWord]
        simp [hNone]
      · exact .inr ⟨hNone, peel_of_stripAll hWord rfl hNone⟩

/-- **What an edge loses.** The induction is on the words; behind the first of
them the edge touches no mention. -/
theorem exists_peels (touching : Bool) (ws : List (List Char)) :
    ∃ lost, Peels attach ws lost (peel strip touching ws) ∧
    SingleFirst touching lost := by
  induction ws generalizing touching with
  | nil => exact ⟨[], .stop [], .nil⟩
  | cons w ws ih =>
      obtain ⟨lost, hPeels, hFirst⟩ := ih false
      obtain ⟨fs, hFillers, hFsFirst, hStripped⟩ :=
        exists_fillers he w.length touching w
      rcases peel_cases touching w ws with
          ⟨hWord, hPeel⟩ | ⟨hNone, hPeel⟩ | ⟨-, hPeel⟩
      · rw [hPeel]
        refine ⟨w :: lost, .word hWord hPeels,
          .cons (fun hFiller _ => ?_) hFirst⟩
        rw [isWord_of_mem_chineseAt w hFiller] at hWord
        cases hWord
      · rw [hNone] at hStripped
        have hSpent := Peels.fillers (.spent hPeels) hFillers
        rw [← hStripped] at hSpent
        rw [hPeel]
        exact ⟨fs ++ lost, hSpent, hFsFirst.append hFirst⟩
      · have hStop : Peels attach
              (fs.foldr attach (stripAll strip w.length touching w).1 :: ws)
              (fs ++ [])
            ((stripAll strip w.length touching w).1 :: ws) :=
          (Peels.stop _).fillers hFillers
        rw [← hStripped] at hStop
        rw [hPeel]
        exact ⟨fs ++ [], hStop, hFsFirst.append .nil⟩

/-- What is left are words. -/
theorem isWord_of_mem_peel {ws : List (List Char)} (hWords : ∀ w ∈ ws, IsWord w)
    (touching : Bool) : ∀ w ∈ peel strip touching ws, IsWord w := by
  induction ws generalizing touching with
  | nil => exact hWords
  | cons w ws ih =>
      obtain ⟨hFirst, hRest⟩ := List.forall_mem_cons.mp hWords
      rcases peel_cases touching w ws with
          ⟨-, hPeel⟩ | ⟨-, hPeel⟩ | ⟨hSome, hPeel⟩
      · rw [hPeel]
        exact ih hRest false
      · rw [hPeel]
        exact ih hRest false
      · obtain ⟨fs, -, -, hStripped⟩ := exists_fillers he w.length touching w
        have hPart :=
          subset_foldr_attach he fs (stripAll strip w.length touching w).1
        rw [← hStripped] at hPart
        rw [hPeel]
        exact List.forall_mem_cons.mpr
          ⟨⟨hSome, fun c hc => hFirst.2 c (hPart hc)⟩, hRest⟩

/-- No filler of more than one character is left at the edge. -/
theorem strip_head_peel (touching : Bool) (ws : List (List Char)) :
    ∀ w ∈ (peel strip touching ws).head?, strip false w = none := by
  induction ws generalizing touching with
  | nil => exact nofun
  | cons w ws ih =>
      rcases peel_cases touching w ws with ⟨-, hPeel⟩ | ⟨-, hPeel⟩ | ⟨-, hPeel⟩
      · rw [hPeel]
        exact ih false
      · rw [hPeel]
        exact ih false
      · rw [hPeel]
        intro v hv
        obtain rfl := Option.some.inj hv
        exact strip_stripAll he (Nat.le_refl _) touching

end Edge

/-- Once fillers are taken off one edge of the word, it is empty or a filler
word. -/
def GoneAt (attach : List Char → List Char → List Char)
    (w : List Char) : Prop :=
  ∃ (fs : List (List Char)) (core : List Char), (∀ f ∈ fs, f ∈ chineseAt true) ∧
    (core = [] ∨ isWord core = true) ∧ w = fs.foldr attach core

/-- **What becomes of the words at one edge.** Some are gone, and the first of
those that are left has lost the last of all losses. -/
theorem Peels.exists_gone {attach : List Char → List Char → List Char}
    {ws lost left : List (List Char)} (h : Peels attach ws lost left) :
    ∃ (gone before fs : List (List Char)), lost = before ++ fs ∧
      (gone = [] → before = []) ∧ (∀ f ∈ fs, f ∈ chineseAt true) ∧
      (∀ w ∈ gone, GoneAt attach w) ∧
      ws = gone ++ left.modifyHead fun w => fs.foldr attach w := by
  induction h with
  | stop ws =>
      refine ⟨[], [], [], rfl, fun _ => rfl, nofun, nofun, ?_⟩
      cases ws <;> rfl
  | @word w ws lost left hWord hRest ih =>
      obtain ⟨gone, before, fs, rfl, -, hFillers, hGone, rfl⟩ := ih
      refine ⟨w :: gone, w :: before, fs, rfl, nofun, hFillers, ?_, rfl⟩
      exact List.forall_mem_cons.mpr ⟨⟨[], w, nofun, .inr hWord, rfl⟩, hGone⟩
  | @filler f w ws lost left hFiller hRest ih =>
      obtain ⟨gone, before, fs, rfl, hBefore, hFillers, hGone, hWords⟩ := ih
      cases gone with
      | nil =>
          -- the word at the edge is left, and this is one more of its fillers
          obtain rfl := hBefore rfl
          cases left with
          | nil => cases hWords
          | cons u left =>
              obtain ⟨rfl, rfl⟩ := List.cons.inj hWords
              exact ⟨[], [], f :: fs, rfl, fun _ => rfl,
                List.forall_mem_cons.mpr ⟨hFiller, hFillers⟩, nofun, rfl⟩
      | cons v gone =>
          obtain ⟨rfl, rfl⟩ := List.cons.inj hWords
          obtain ⟨⟨gs, core, hGs, hCore, hWord⟩, hOthers⟩ :=
            List.forall_mem_cons.mp hGone
          refine ⟨attach f w :: gone, f :: before, fs, rfl, nofun,
            hFillers, ?_, rfl⟩
          refine List.forall_mem_cons.mpr
            ⟨⟨f :: gs, core, ?_, hCore, ?_⟩, hOthers⟩
          · exact List.forall_mem_cons.mpr ⟨hFiller, hGs⟩
          · rw [hWord, List.foldr_cons]
  | @spent ws lost left hRest ih =>
      obtain ⟨gone, before, fs, rfl, -, hFillers, hGone, rfl⟩ := ih
      refine ⟨[] :: gone, before, fs, rfl, nofun, hFillers, ?_, rfl⟩
      exact List.forall_mem_cons.mpr ⟨⟨[], [], nofun, .inl rfl, rfl⟩, hGone⟩

end Filler

/-! ## A segment -/

namespace Segment

open Filler

/-- The front of the segment touches a mention. -/
def touchesFront (s : Segment) : Bool :=
  s.afterMention && !s.text.head?.any isBlank

/-- The end of the segment touches a mention. -/
def touchesEnd (s : Segment) : Bool :=
  s.beforeMention && !s.text.getLast?.any isBlank

/-- The words that are left behind the front. -/
def innerWords (s : Segment) : List (List Char) :=
  peel stripOne? s.touchesFront (words s.text)

/-- The words that are kept. -/
def keptWords (s : Segment) : List (List Char) :=
  (peel stripOneEnd? s.touchesEnd s.innerWords.reverse).reverse

theorem kept_eq (s : Segment) : s.kept = unwords s.keptWords := rfl

/-- Once Chinese fillers are taken off its two ends, the word is empty or a
filler word. -/
def Gone (w : List Char) : Prop :=
  ∃ (lead tail : List (List Char)) (core : List Char),
    (∀ f ∈ lead ++ tail, f ∈ chineseAt true) ∧
    (core = [] ∨ isWord core = true) ∧
    w = lead.flatten ++ (core ++ tail.flatten)

/-- Words with something in front of the first of them and something behind the
last. -/
def withEnds (lead tail : List Char) (ws : List (List Char)) :
    List (List Char) :=
  (ws.reverse.modifyHead (· ++ tail)).reverse.modifyHead (lead ++ ·)

theorem foldr_lead (fs : List (List Char)) (w : List Char) :
    fs.foldr (· ++ ·) w = fs.flatten ++ w := by
  induction fs with
  | nil => rfl
  | cons f fs ih => simp [ih]

theorem foldr_tail (fs : List (List Char)) (w : List Char) :
    fs.foldr (fun f w => w ++ f) w = w ++ fs.reverse.flatten := by
  induction fs with
  | nil => simp
  | cons f fs ih => simp [ih]

theorem gone_of_front {w : List Char} (h : GoneAt (· ++ ·) w) : Gone w := by
  obtain ⟨fs, core, hFillers, hCore, rfl⟩ := h
  refine ⟨fs, [], core, by simpa using hFillers, hCore, ?_⟩
  simp [foldr_lead]

/-- A word that is gone at the end is so with fillers in front of it as well. -/
theorem gone_of_end {w : List Char} (h : GoneAt (fun f w => w ++ f) w)
    {lead : List (List Char)} (hLead : ∀ f ∈ lead, f ∈ chineseAt true) :
    Gone (lead.flatten ++ w) := by
  obtain ⟨fs, core, hFillers, hCore, rfl⟩ := h
  refine ⟨lead, fs.reverse, core, ?_, hCore, ?_⟩
  · exact List.forall_mem_append.mpr ⟨hLead, by simpa using hFillers⟩
  · rw [foldr_tail]

/-- What becomes of a segment: what its two ends lose, one loss after the
other, and the words that are kept. -/
structure PeeledAs (s : Segment) (atFront atEnd kept : List (List Char)) :
    Prop where
  text : s.kept = unwords kept
  isWord : ∀ w ∈ kept, IsWord w
  /-- The front is peeled first, and the end after it. -/
  losses : ∃ inner, Peels (· ++ ·) (words s.text) atFront inner ∧
    Peels (fun f w => w ++ f) inner.reverse atEnd kept.reverse
  /-- Only as the first loss, and only next to a mention, a Chinese filler of
  one character is lost. -/
  single : SingleFirst s.touchesFront atFront ∧ SingleFirst s.touchesEnd atEnd
  /-- What is kept is a run of the words. Its first word has lost Chinese
  fillers at its front, the last losses there, and its last word at its end;
  all other words are gone, and of each of them nothing is left but a filler
  word once Chinese fillers are taken off its ends. -/
  run : ∃ front middle back lead tail,
    words s.text = front ++ (middle ++ back) ∧
    middle = withEnds lead.flatten tail.reverse.flatten kept ∧
    lead <:+ atFront ∧ tail <:+ atEnd ∧
    (∀ f ∈ lead ++ tail, f ∈ chineseAt true) ∧ ∀ w ∈ front ++ back, Gone w
  /-- The peeling does not stop at a Chinese filler of more than one
  character. -/
  stops : (∀ w ∈ kept.head?, stripOne? false w = none) ∧ ∀ w ∈ kept.getLast?,
    stripOneEnd? false w = none

/-- **The run of words that is kept.** What is gone at the front stands in
front of the run. What is gone at the end stands behind it, and the first word
there can have lost fillers at the front before. -/
theorem exists_run {ws atFront inner atEnd kept : List (List Char)}
    (hFront : Peels (· ++ ·) ws atFront inner)
    (hEnd : Peels (fun f w => w ++ f) inner.reverse atEnd kept.reverse) :
    ∃ front middle back lead tail, ws = front ++ (middle ++ back) ∧
      middle = withEnds lead.flatten tail.reverse.flatten kept ∧
      lead <:+ atFront ∧ tail <:+ atEnd ∧
      (∀ f ∈ lead ++ tail, f ∈ chineseAt true) ∧ ∀ w ∈ front ++ back,
      Gone w := by
  obtain ⟨front, before, lead, rfl, -, hLead, hGoneFront, rfl⟩ :=
    hFront.exists_gone
  obtain ⟨gone, after, tail, rfl, -, hTail, hGoneEnd, hInner⟩ :=
    hEnd.exists_gone
  have hFillers : ∀ f ∈ lead ++ tail, f ∈ chineseAt true :=
    List.forall_mem_append.mpr ⟨hLead, hTail⟩
  have hFrontGone : ∀ w ∈ front, Gone w := fun w hw =>
    gone_of_front (hGoneFront w hw)
  have hBackGone : ∀ w ∈ gone.reverse, Gone w := by
    intro w hw
    have hWord := hGoneEnd w (List.mem_reverse.mp hw)
    have hNone : ∀ f ∈ ([] : List (List Char)), f ∈ chineseAt true := nofun
    exact gone_of_end hWord hNone
  -- the inner words are what is kept, with its end, and what is gone at the end
  have hParts :
      inner = (kept.reverse.modifyHead (· ++ tail.reverse.flatten)).reverse ++
        gone.reverse := by
    have hReversed := congrArg List.reverse hInner
    simpa only [List.reverse_reverse, List.reverse_append, foldr_tail]
      using hReversed
  simp only [foldr_lead]
  refine ⟨front, withEnds lead.flatten tail.reverse.flatten kept, ?_⟩
  by_cases hKept : kept = []
  · -- nothing is kept, so the fillers in front are those of a word that is gone
    subst hKept
    simp only [List.reverse_nil, List.modifyHead_nil, List.nil_append] at hParts
    refine ⟨inner.modifyHead (lead.flatten ++ ·), lead, tail, rfl, rfl,
      List.suffix_append _ _, List.suffix_append _ _, hFillers,
      List.forall_mem_append.mpr ⟨hFrontGone, ?_⟩⟩
    rw [hParts]
    cases hGone : gone.reverse with
    | nil => exact nofun
    | cons w rest =>
        rw [hGone] at hBackGone
        have hWord : GoneAt (fun f w => w ++ f) w :=
          hGoneEnd w (List.mem_reverse.mp
              (by rw [hGone]; exact List.mem_cons_self))
        exact List.forall_mem_cons.mpr ⟨gone_of_end hWord hLead,
          (List.forall_mem_cons.mp hBackGone).2⟩
  · have hSome : (kept.reverse.modifyHead (· ++ tail.reverse.flatten)).reverse ≠
          [] := by simpa using hKept
    refine ⟨gone.reverse, lead, tail, ?_, rfl, List.suffix_append _ _,
      List.suffix_append _ _, hFillers,
      List.forall_mem_append.mpr ⟨hFrontGone, hBackGone⟩⟩
    obtain ⟨w, rest, hWords⟩ := List.exists_cons_of_ne_nil hSome
    rw [hParts, withEnds, hWords]
    rfl

/-- Behind a word that no filler begins, nothing changes when its end is cut
off. -/
theorem stripOne?_of_append {w tail : List Char}
    (h : stripOne? false (w ++ tail) = none) : stripOne? false w = none := by
  rw [stripOne?, List.findSome?_eq_none_iff] at h ⊢
  intro f hf
  have hNot := h f hf
  cases hDrop : dropLead? f w with
  | none => rfl
  | some rest =>
      rw [eq_append_of_dropLead? hDrop, List.append_assoc,
        dropLead?_append] at hNot
      cases hNot

/-- The first word that is kept begins the inner words, up to what is cut off
its end. -/
theorem exists_head_inner {inner atEnd kept : List (List Char)}
    (hEnd : Peels (fun f w => w ++ f) inner.reverse atEnd kept.reverse) :
    ∀ w ∈ kept.head?, ∃ tail, w ++ tail ∈ inner.head? := by
  obtain ⟨gone, -, tail, -, -, -, -, hParts⟩ := hEnd.exists_gone
  have hInner := congrArg List.reverse hParts
  rw [List.reverse_reverse, List.reverse_append] at hInner
  intro w hw
  obtain ⟨rest, rfl⟩ := List.head?_eq_some_iff.mp hw
  rcases List.eq_nil_or_concat rest with rfl | ⟨more, last, rfl⟩
  · -- the only word that is kept is the one whose end is cut
    refine ⟨tail.reverse.flatten, ?_⟩
    rw [hInner]
    simp only [foldr_tail, List.reverse_singleton, List.modifyHead_cons,
      List.singleton_append]
    rfl
  · refine ⟨[], ?_⟩
    rw [hInner]
    simp

/-- **What becomes of a segment.** -/
theorem peeledAs (s : Segment) :
    ∃ atFront atEnd, s.PeeledAs atFront atEnd s.keptWords := by
  have hWords : ∀ w ∈ words s.text, IsWord w := fun w hw => (of_mem_words hw).1
  obtain ⟨atFront, hFront, hFrontFirst⟩ :=
    exists_peels edge_front s.touchesFront (words s.text)
  obtain ⟨atEnd, hEnd, hEndFirst⟩ :=
    exists_peels edge_end s.touchesEnd s.innerWords.reverse
  have hInner : ∀ w ∈ s.innerWords, IsWord w :=
    isWord_of_mem_peel edge_front hWords s.touchesFront
  have hKept : ∀ w ∈ s.keptWords.reverse, IsWord w := by
    rw [keptWords, List.reverse_reverse]
    exact isWord_of_mem_peel edge_end
      (fun w hw => hInner w (List.mem_reverse.mp hw)) s.touchesEnd
  have hEnd : Peels (fun f w => w ++ f) s.innerWords.reverse atEnd
        s.keptWords.reverse := by
    rwa [keptWords, List.reverse_reverse]
  refine ⟨atFront, atEnd,
    { text := s.kept_eq
      isWord := fun w hw => hKept w (List.mem_reverse.mpr hw)
      losses := ⟨s.innerWords, hFront, hEnd⟩
      single := ⟨hFrontFirst, hEndFirst⟩
      run := exists_run hFront hEnd
      stops := ⟨?_, ?_⟩ }⟩
  · have hHead := strip_head_peel edge_front s.touchesFront (words s.text)
    intro w hw
    obtain ⟨tail, hInnerHead⟩ := exists_head_inner hEnd w hw
    exact stripOne?_of_append (hHead _ hInnerHead)
  · have hLast := strip_head_peel edge_end s.touchesEnd s.innerWords.reverse
    intro w hw
    refine hLast w ?_
    rwa [← List.getLast?_reverse]

end Segment

/-! ## A request -/

/-- Words joined in groups are all the words joined. -/
theorem unwords_map_unwords {wss : List (List (List Char))}
    (h : ∀ ws ∈ wss, ws ≠ []) :
    unwords (wss.map unwords) = unwords wss.flatten := by
  induction wss with
  | nil => rfl
  | cons ws wss ih =>
      obtain ⟨hFirst, hRest⟩ := List.forall_mem_cons.mp h
      by_cases hMore : wss = []
      · simp [hMore, Query.unwords_singleton]
      · have hBehind : wss.flatten ≠ [] := by
          obtain ⟨ws', hws⟩ := List.exists_mem_of_ne_nil _ hMore
          intro hNothing
          exact hRest ws' hws (List.flatten_eq_nil_iff.mp hNothing ws' hws)
        rw [List.map_cons, Query.unwords_cons _ (by simpa using hMore),
          ih hRest, List.flatten_cons, unwords_append hFirst hBehind]

/-- Words that are joined to nothing are none. -/
theorem unwords_eq_nil_iff {ws : List (List Char)} (h : ∀ w ∈ ws, IsWord w) :
    unwords ws = [] ↔ ws = [] := by
  constructor
  · intro hEmpty
    cases ws with
    | nil => rfl
    | cons w ws =>
        exact absurd hEmpty (unwords_ne_nil (h w List.mem_cons_self).1 ws)
  · rintro rfl
    rfl

namespace Segment

theorem isWord_of_mem_keptWords (s : Segment) :
    ∀ w ∈ s.keptWords, IsWord w := by
  obtain ⟨atFront, atEnd, hPeeled⟩ := s.peeledAs
  exact hPeeled.isWord

/-- Something in front of the first word and something behind the last are all
that is added. -/
theorem flatten_sublist_withEnds (lead tail : List Char)
    (ws : List (List Char)) :
    ws.flatten.Sublist (withEnds lead tail ws).flatten := by
  have hFront : ∀ ws : List (List Char),
      ws.flatten.Sublist (ws.modifyHead (lead ++ ·)).flatten := by
    intro ws
    cases ws with
    | nil => exact List.Sublist.refl _
    | cons w ws => simp
  have hEnd : ws.flatten.Sublist
        (ws.reverse.modifyHead (· ++ tail)).reverse.flatten := by
    rcases List.eq_nil_or_concat ws with rfl | ⟨front, last, rfl⟩
    · exact List.Sublist.refl _
    · simp
  exact hEnd.trans (hFront _)

/-- **The characters that are kept of a segment are characters of it**, in
their order. -/
theorem flatten_keptWords (s : Segment) :
    s.keptWords.flatten.Sublist (Pattern.solids s.text) := by
  obtain ⟨atFront, atEnd, hPeeled⟩ := s.peeledAs
  obtain ⟨front, middle, back, lead, tail, hWords, rfl, -⟩ := hPeeled.run
  have hAll : (words s.text).flatten = Pattern.solids s.text :=
    flatten_wordsFrom [] s.text
  rw [← hAll, hWords, List.flatten_append, List.flatten_append]
  refine (flatten_sublist_withEnds lead.flatten tail.reverse.flatten
      s.keptWords).trans ?_
  exact (List.sublist_append_left _ _).trans (List.sublist_append_right _ _)

end Segment

theorem sublist_trim (cs : List Char) : (trim cs).Sublist cs :=
  (isPrefix_trimEnd (trimStart cs)).sublist.trans
    (List.dropWhile_suffix isBlank).sublist

theorem allBlank_iff {cs : List Char} : allBlank cs = true ↔
    Pattern.solids cs = [] := by
  simp [allBlank, Pattern.solids, List.filter_eq_nil_iff]

namespace Directory

variable (d : Directory) (request : String)

/-- The words that are kept of all segments of a request. -/
def keptWords : List (List Char) :=
  (d.segments request.toList).flatMap Segment.keptWords

theorem isWord_of_mem_keptWords : ∀ w ∈ d.keptWords request, IsWord w := by
  intro w hw
  obtain ⟨s, -, hMem⟩ := List.mem_flatMap.mp hw
  exact s.isWord_of_mem_keptWords w hMem

/-- **What is searched for**: the words that are kept, and the request itself
if none is. -/
theorem searchWords_eq : d.searchWords request =
    if d.keptWords request = [] then Text.trim request
    else String.ofList (unwords (d.keptWords request)) := by
  let wss := (d.segments request.toList).map Segment.keptWords
  have hSome : ((d.segments request.toList).map Segment.kept).filter
        (fun k => !k.isEmpty) =
      (wss.filter fun ws => !ws.isEmpty).map unwords := by
    have hEmpty : ∀ ws ∈ wss, (!(unwords ws).isEmpty) = !ws.isEmpty := by
      intro ws hws
      obtain ⟨s, -, rfl⟩ := List.mem_map.mp hws
      rw [Bool.eq_iff_iff]
      simpa using not_congr (unwords_eq_nil_iff s.isWord_of_mem_keptWords)
    have hKept : (d.segments request.toList).map Segment.kept =
          wss.map unwords := by
      rw [List.map_map]
      rfl
    rw [hKept, List.filter_map]
    exact congrArg (List.map unwords) (List.filter_congr hEmpty)
  have hJoined : unwords ((wss.filter fun ws => !ws.isEmpty).map unwords) =
        unwords (d.keptWords request) := by
    rw [unwords_map_unwords (by simp), List.flatten_filter_not_isEmpty]
    rfl
  unfold searchWords
  dsimp only
  rw [hSome, hJoined]
  simp only [List.isEmpty_iff,
    unwords_eq_nil_iff (d.isWord_of_mem_keptWords request)]

/-- **The characters that are searched for are characters of the request**, in
their order, blanks left aside. -/
theorem solids_searchWords :
    (Pattern.solids (d.searchWords request).toList).Sublist
      (Pattern.solids request.toList) := by
  rw [searchWords_eq]
  split
  · rw [Text.trim, String.toList_ofList]
    exact (sublist_trim request.toList).filter _
  · rw [String.toList_ofList, solids_unwords
      (d.isWord_of_mem_keptWords request)]
    have hSegments : ∀ ss : List Segment,
        (ss.flatMap Segment.keptWords).flatten.Sublist
          (Pattern.solids (ss.map Segment.text).flatten) := by
      intro ss
      induction ss with
      | nil => exact List.Sublist.refl _
      | cons s ss ih =>
          rw [List.flatMap_cons, List.flatten_append, List.map_cons,
            List.flatten_cons, Pattern.solids_append]
          exact s.flatten_keptWords.append ih
    have hTexts :=
      flatten_sublist_weave ((d.segments request.toList).map Segment.text)
      ((d.mentionSpans request.toList).map (slice request.toList))
    rw [weave_segments] at hTexts
    exact (hSegments _).trans (hTexts.filter _)

/-- **What is searched for is never empty and has no blanks at its ends**,
unless the request is blank. -/
theorem isBlank_searchWords :
    Text.isBlank (d.searchWords request) = Text.isBlank request ∧
    Text.trim (d.searchWords request) = d.searchWords request := by
  have hWords := d.isWord_of_mem_keptWords request
  have hSolids := d.solids_searchWords request
  rw [searchWords_eq] at hSolids ⊢
  split at hSolids
  · next hNone =>
    rw [if_pos hNone]
    exact ⟨Text.isBlank_trim request, Text.trim_trim request⟩
  · next hSome =>
    rw [if_neg hSome, Text.trim, String.toList_ofList, trim_unwords hWords]
    refine ⟨?_, rfl⟩
    rw [String.toList_ofList, solids_unwords hWords] at hSolids
    -- a word that is kept has a character that is not blank
    have hFlat : (d.keptWords request).flatten ≠ [] := by
      obtain ⟨w, hw⟩ := List.exists_mem_of_ne_nil _ hSome
      intro hNothing
      exact (hWords w hw).1 (List.flatten_eq_nil_iff.mp hNothing w hw)
    have hKept : allBlank (unwords (d.keptWords request)) = false := by
      rw [Bool.eq_false_iff, ne_eq, allBlank_iff, solids_unwords hWords]
      exact hFlat
    have hRequest : allBlank request.toList = false := by
      rw [Bool.eq_false_iff, ne_eq, allBlank_iff]
      intro hNothing
      rw [hNothing] at hSolids
      exact hFlat (List.sublist_nil.mp hSolids)
    rw [Text.isBlank, Text.isBlank, String.toList_ofList, hKept, hRequest]

/-- **Looking for what to search for only peels the edges.** For every table
and every request, each segment loses what `Segment.PeeledAs` allows and
nothing else; the words that are kept make up what is searched for, and if
there are none the request itself does; nothing is invented; and what is
searched for is a text without blanks at its ends, which is blank only if the
request is. -/
theorem searchWords_peeled :
    (∀ s ∈ d.segments request.toList, ∃ atFront atEnd,
      s.PeeledAs atFront atEnd s.keptWords) ∧
      (d.searchWords request =
        if d.keptWords request = [] then Text.trim request
        else String.ofList (unwords (d.keptWords request))) ∧
      (Pattern.solids (d.searchWords request).toList).Sublist
        (Pattern.solids request.toList) ∧
      Text.isBlank (d.searchWords request) = Text.isBlank request ∧
      Text.trim (d.searchWords request) = d.searchWords request :=
  ⟨fun s _ => s.peeledAs, d.searchWords_eq request,
    d.solids_searchWords request, d.isBlank_searchWords request⟩

end Directory

end Errand
