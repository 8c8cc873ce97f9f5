import Errand.Proofs.Platform.Mention
import Errand.Proofs.Text.Bytes

/-!
# A request cut at its mentions

The names of platforms are looked for one by one, each from the left and
without overlap. Places of different names can still lie in each other, overlap
or touch, and so can the places that a search from the left passes over. The
spans that are found are put in order and joined where they meet, and what is
left between the joined spans are the segments of the request.

This file says that the cut loses nothing and misses nothing. The segments and
the spans between them, put back together, are the request. Every character of
a span belongs to a name that lies in the span. And no name is left in a
segment: a search from the left may pass over a place, but then the place found
just before reaches over its first character, so that this character is in a
span.

Positions count characters. A search over bytes finds the same places, and a
place that is found in a copy of the request in lower case has as many bytes in
front of it in the request itself, so every cut is between characters.

## Main results

* `exists_place_reaching`: the first character of every occurrence of a needle
  is in a span of the needle.
* `joins_joinOnto`: what joining spans keeps.
* `weave_between`, `not_holds_of_mem_between`: what a text is cut into, and
  that no span reaches into a segment.
* `Directory.segments_complete`: the account of the segments of a request.
-/

namespace Errand

namespace Chars

/-! ## Positions -/

/-- What stands in a text at a span. -/
def slice (cs : List Char) (span : Nat × Nat) : List Char :=
  (cs.drop span.1).take (span.2 - span.1)

theorem slice_append_drop {a b : Nat} (h : a ≤ b) (cs : List Char) :
    slice cs (a, b) ++ cs.drop b = cs.drop a := by
  have hDrop : cs.drop b = (cs.drop a).drop (b - a) := by
    rw [List.drop_drop]
    congr 1
    omega
  rw [hDrop, slice]
  exact List.take_append_drop ..

theorem slice_length (cs : List Char) (a : Nat) :
    slice cs (a, cs.length) = cs.drop a := by
  apply List.take_of_length_le
  simp

/-- An occurrence in a slice begins in the text where it begins in the slice. -/
theorem exists_of_infix_slice {needle cs : List Char} {a b : Nat}
    (hNeedle : needle ≠ []) (h : needle <:+: asciiLower (slice cs (a, b))) :
    ∃ k, a ≤ k ∧ k < b ∧ needle <+: (asciiLower cs).drop k := by
  obtain ⟨front, rest, hText⟩ := h
  have hSlice : asciiLower (slice cs (a, b)) =
        ((asciiLower cs).drop a).take (b - a) := by
    simp [asciiLower, slice, List.map_drop, List.map_take]
  have hLength : front.length + needle.length + rest.length ≤ b - a := by
    have hTake := congrArg List.length (hText.trans hSlice)
    simp only [List.length_append, List.length_take] at hTake
    omega
  have hPositive := List.length_pos_iff.mpr hNeedle
  refine ⟨a + front.length, by omega, by omega, ?_⟩
  have hBehind : ∀ text : List Char,
      text.take (b - a) = front ++ needle ++ rest →
      text.drop front.length = needle ++ (rest ++ text.drop (b - a)) := by
    intro text hTaken
    have hSplit := List.take_append_drop (b - a) text
    rw [hTaken, List.append_assoc, List.append_assoc] at hSplit
    have hDropped := congrArg (List.drop front.length) hSplit
    rw [List.drop_left] at hDropped
    exact hDropped.symm
  rw [← List.drop_drop, hBehind _ (hSlice.symm.trans hText.symm)]
  exact List.prefix_append needle _

end Chars

/-! ## Places of a needle -/

section Places

variable {needle text : List Char}

/-- The needle occurs at every place that is found. -/
theorem prefix_of_mem_placesFrom {skip at_ n : Nat}
    (h : n ∈ placesFrom needle skip at_ text) :
    at_ ≤ n ∧ needle <+: text.drop (n - at_) := by
  induction text generalizing skip at_ with
  | nil => simp [placesFrom] at h
  | cons c text ih =>
      -- a place behind the first character is one in the rest of the text
      have hLater : ∀ skip, n ∈ placesFrom needle skip (at_ + 1) text →
          at_ ≤ n ∧ needle <+: (c :: text).drop (n - at_) := by
        intro skip hMem
        obtain ⟨hLe, hPrefix⟩ := ih hMem
        have hSucc : n - at_ = (n - (at_ + 1)) + 1 := by omega
        rw [hSucc, List.drop_succ_cons]
        exact ⟨by omega, hPrefix⟩
      cases skip with
      | succ skip => exact hLater skip h
      | zero =>
          rw [placesFrom] at h
          split at h
          · next hStart =>
            rcases List.mem_cons.mp h with rfl | hMem
            · rw [Nat.sub_self]
              exact ⟨Nat.le_refl n, Chars.isSome_dropLead?.mp hStart⟩
            · exact hLater _ hMem
          · exact hLater 0 h

/-- **The first character of every occurrence is reached by a place that is
found**, unless it is to be passed. The induction is on the text; an occurrence
that is passed over lies behind the place that made the search pass. -/
theorem exists_place_reaching (hNeedle : needle ≠ []) (at_ : Nat) {skip i : Nat}
    (hSkip : skip ≤ i) (h : needle <+: text.drop i) :
    ∃ n ∈ placesFrom needle skip at_ text, n ≤ at_ + i ∧
    at_ + i < n + needle.length := by
  have hPositive := List.length_pos_iff.mpr hNeedle
  induction text generalizing skip at_ i with
  | nil => simp [hNeedle] at h
  | cons c text ih =>
      -- an occurrence behind the first character, looked for with what is left
      -- to pass
      have hLater : ∀ skip, 0 < i → skip ≤ i - 1 →
          ∃ n ∈ placesFrom needle skip (at_ + 1) text, n ≤ at_ + i ∧
          at_ + i < n + needle.length := by
        intro skip hBehind hLe
        obtain ⟨j, rfl⟩ : ∃ j, i = j + 1 := ⟨i - 1, by omega⟩
        obtain ⟨n, hMem, hReach⟩ := ih (at_ + 1) hLe (by simpa using h)
        exact ⟨n, hMem, by omega, by omega⟩
      cases skip with
      | succ skip => exact hLater skip (by omega) (by omega)
      | zero =>
          rw [placesFrom]
          split
          · next hStart =>
            by_cases hHere : i < needle.length
            · exact ⟨at_, List.mem_cons_self, by omega, by omega⟩
            · obtain ⟨n, hMem, hReach⟩ :=
                hLater (needle.length - 1) (by omega) (by omega)
              exact ⟨n, List.mem_cons_of_mem _ hMem, hReach⟩
          · next hStart =>
            have hBehind : 0 < i := by
              apply Nat.pos_of_ne_zero
              intro hZero
              rw [hZero] at h
              exact hStart (Chars.isSome_dropLead?.mpr h)
            exact hLater 0 hBehind (by omega)

end Places

/-! ## Spans -/

/-- The position lies in the span. -/
def Holds (span : Nat × Nat) (k : Nat) : Prop := span.1 ≤ k ∧ k < span.2

/-- The first span lies in the second. -/
def Inside (inner outer : Nat × Nat) : Prop :=
  outer.1 ≤ inner.1 ∧ inner.2 ≤ outer.2

theorem Holds.inside {inner outer : Nat × Nat} {k : Nat} (h : Holds inner k)
    (hInside : Inside inner outer) : Holds outer k :=
  ⟨Nat.le_trans hInside.1 h.1, Nat.lt_of_lt_of_le h.2 hInside.2⟩

/-- A span of a needle is where the needle occurs. -/
theorem of_mem_spansOf {needle text : List Char} {span : Nat × Nat}
    (h : span ∈ spansOf needle text) :
    needle ≠ [] ∧ span.2 = span.1 + needle.length ∧
    needle <+: text.drop span.1 := by
  unfold spansOf at h
  split at h
  · cases h
  · next hNeedle =>
    obtain ⟨n, hMem, rfl⟩ := List.mem_map.mp h
    exact ⟨mt List.isEmpty_iff.mpr hNeedle, rfl,
      by simpa using (prefix_of_mem_placesFrom hMem).2⟩

/-- The first character of every occurrence is in a span. -/
theorem exists_span_holding {needle text : List Char} {k : Nat}
    (hNeedle : needle ≠ []) (h : needle <+: text.drop k) :
    ∃ span ∈ spansOf needle text, Holds span k := by
  obtain ⟨n, hMem, hLe, hLt⟩ :=
    exists_place_reaching hNeedle 0 (Nat.zero_le k) h
  unfold spansOf
  rw [if_neg (mt List.isEmpty_iff.mp hNeedle)]
  exact ⟨_, List.mem_map_of_mem hMem, by simpa using hLe, by simpa using hLt⟩

/-- The second list is the first with spans joined that overlap or touch: its
spans are not empty and lie apart in their order, every span of the first list
lies in one of them, and they hold no other positions. -/
structure Joins (spans joined : List (Nat × Nat)) : Prop where
  nonempty : ∀ s ∈ joined, s.1 < s.2
  apart : joined.Pairwise fun a b => a.2 < b.1
  kept : ∀ x ∈ spans, ∃ s ∈ joined, Inside x s
  held : ∀ s ∈ joined, ∀ k, Holds s k → ∃ x ∈ spans, Holds x k ∧ Inside x s

namespace Joins

variable {first second : Nat × Nat} {spans joined : List (Nat × Nat)}

theorem single (h : first.1 < first.2) : Joins [first] [first] where
  nonempty := by simpa using h
  apart := List.pairwise_singleton _ _
  kept := by simp [Inside]
  held := by simp +contextual [Inside]

/-- Two spans that overlap or touch are joined into one. -/
theorem merge (hOrder : first.1 ≤ second.1) (hMeet : second.1 ≤ first.2)
    (h : Joins ((first.1, max first.2 second.2) :: spans) joined) :
    Joins (first :: second :: spans) joined where
  nonempty := h.nonempty
  apart := h.apart
  kept := by
    intro x hx
    obtain ⟨s, hs, hBoth⟩ := h.kept _ List.mem_cons_self
    have hFirst : Inside first s ∧ Inside second s := by
      simp only [Inside] at hBoth ⊢
      omega
    rcases List.mem_cons.mp hx with rfl | hx
    · exact ⟨s, hs, hFirst.1⟩
    · rcases List.mem_cons.mp hx with rfl | hx
      · exact ⟨s, hs, hFirst.2⟩
      · exact h.kept x (List.mem_cons_of_mem _ hx)
  held := by
    intro s hs k hk
    obtain ⟨x, hx, hHolds, hInside⟩ := h.held s hs k hk
    rcases List.mem_cons.mp hx with rfl | hx
    · -- a position of the joined span is one of the first span or of the second
      simp only [Holds, Inside] at hHolds hInside
      by_cases hHere : k < first.2
      · exact ⟨first, List.mem_cons_self, ⟨by omega, hHere⟩, by omega, by omega⟩
      · exact ⟨second, by simp, ⟨by omega, by omega⟩, by omega, by omega⟩
    · exact ⟨x, List.mem_cons_of_mem _ (List.mem_cons_of_mem _ hx),
        hHolds, hInside⟩

/-- A span that ends in front of all others stays by itself. -/
theorem cons (hFirst : first.1 < first.2) (hApart : ∀ x ∈ spans, first.2 < x.1)
    (h : Joins spans joined) : Joins (first :: spans) (first :: joined) where
  nonempty := List.forall_mem_cons.mpr ⟨hFirst, h.nonempty⟩
  apart := by
    refine List.pairwise_cons.mpr ⟨fun s hs => ?_, h.apart⟩
    -- what a joined span begins with is held by one of the spans
    obtain ⟨x, hx, hHolds, hInside⟩ :=
      h.held s hs s.1 ⟨Nat.le_refl _, h.nonempty s hs⟩
    have hBehind := hApart x hx
    simp only [Holds, Inside] at hHolds hInside
    omega
  kept := by
    intro x hx
    rcases List.mem_cons.mp hx with rfl | hx
    · exact ⟨x, List.mem_cons_self, Nat.le_refl _, Nat.le_refl _⟩
    · obtain ⟨s, hs, hInside⟩ := h.kept x hx
      exact ⟨s, List.mem_cons_of_mem _ hs, hInside⟩
  held := by
    intro s hs k hk
    rcases List.mem_cons.mp hs with rfl | hs
    · exact ⟨s, List.mem_cons_self, hk, Nat.le_refl _, Nat.le_refl _⟩
    · obtain ⟨x, hx, hBoth⟩ := h.held s hs k hk
      exact ⟨x, List.mem_cons_of_mem _ hx, hBoth⟩

end Joins

/-- **Spans in order are joined where they meet.** -/
theorem joins_joinOnto (last : Nat × Nat) (spans : List (Nat × Nat))
    (hOrder : (last :: spans).Pairwise fun a b => a.1 ≤ b.1)
    (hSome : ∀ s ∈ last :: spans, s.1 < s.2) :
    Joins (last :: spans) (joinOnto last spans) := by
  induction spans generalizing last with
  | nil => exact Joins.single (hSome last List.mem_cons_self)
  | cons s rest ih =>
      obtain ⟨hLast, hRest⟩ := List.pairwise_cons.mp hOrder
      obtain ⟨hHere, hOthers⟩ := List.forall_mem_cons.mp hSome
      rw [joinOnto]
      by_cases hMeet : s.1 ≤ last.2
      · rw [if_pos hMeet]
        apply Joins.merge (hLast s List.mem_cons_self) hMeet
        apply ih
        · exact List.pairwise_cons.mpr
            ⟨fun t ht => hLast t (List.mem_cons_of_mem s ht),
              (List.pairwise_cons.mp hRest).2⟩
        · refine List.forall_mem_cons.mpr
            ⟨?_, (List.forall_mem_cons.mp hOthers).2⟩
          show last.1 < max last.2 s.2
          omega
      · rw [if_neg hMeet]
        refine Joins.cons hHere (fun t ht => ?_) (ih s hRest hOthers)
        have hFrom : s.1 ≤ t.1 := by
          rcases List.mem_cons.mp ht with rfl | ht
          · exact Nat.le_refl _
          · exact (List.pairwise_cons.mp hRest).1 t ht
        omega

/-- Which spans are joined does not depend on their order. -/
theorem Joins.of_mem {spans spans' joined : List (Nat × Nat)}
    (hMem : ∀ x, x ∈ spans ↔ x ∈ spans') (h : Joins spans joined) :
    Joins spans' joined where
  nonempty := h.nonempty
  apart := h.apart
  kept x hx := h.kept x ((hMem x).mpr hx)
  held := by
    intro s hs k hk
    obtain ⟨x, hx, hBoth⟩ := h.held s hs k hk
    exact ⟨x, (hMem x).mp hx, hBoth⟩

theorem joins_joinSpans {spans : List (Nat × Nat)}
    (hOrder : spans.Pairwise fun a b => a.1 ≤ b.1)
    (hSome : ∀ s ∈ spans, s.1 < s.2) : Joins spans (joinSpans spans) := by
  cases spans with
  | nil => exact ⟨nofun, .nil, nofun, nofun⟩
  | cons s rest => exact joins_joinOnto s rest hOrder hSome

/-- Sorting puts spans in the order of their starts. -/
theorem pairwise_mergeSort_spanLe (spans : List (Nat × Nat)) :
    (spans.mergeSort spanLe).Pairwise fun a b => a.1 ≤ b.1 := by
  have hSorted : (spans.mergeSort spanLe).Pairwise fun a b =>
      spanLe a b = true := by
    apply List.pairwise_mergeSort
    · intro a b c
      simp only [spanLe, Bool.or_eq_true, Bool.and_eq_true, decide_eq_true_eq,
        beq_iff_eq]
      omega
    · intro a b
      simp only [spanLe, Bool.or_eq_true, Bool.and_eq_true, decide_eq_true_eq,
        beq_iff_eq]
      omega
  refine hSorted.imp fun {a b} h => ?_
  simp only [spanLe, Bool.or_eq_true, Bool.and_eq_true, decide_eq_true_eq,
    beq_iff_eq] at h
  omega

/-! ## Cutting -/

/-- What stands between spans, from a position on, in a text of this length. -/
def between (length : Nat) (at_ : Nat) : List (Nat × Nat) → List (Nat × Nat)
  | [] => [(at_, length)]
  | s :: spans => (at_, s.1) :: between length s.2 spans

/-- Texts of two lists in turn, beginning with the first list. -/
def weave : List (List Char) → List (List Char) → List Char
  | outer :: outers, inner :: inners => outer ++ (inner ++ weave outers inners)
  | outers, _ => outers.flatten

/-- The texts of the first list stand in their order in the texts in turn. -/
theorem flatten_sublist_weave (outers inners : List (List Char)) :
    outers.flatten.Sublist (weave outers inners) := by
  induction outers generalizing inners with
  | nil => exact List.nil_sublist _
  | cons outer outers ih =>
      cases inners with
      | nil => exact List.Sublist.refl _
      | cons inner inners =>
          rw [weave, List.flatten_cons]
          exact (List.Sublist.refl outer).append
            ((ih inners).trans (List.sublist_append_right inner _))

/-- The spans begin behind a position and come one behind the other, with
something in between. -/
structure Ahead (at_ : Nat) (spans : List (Nat × Nat)) : Prop where
  behind : ∀ s ∈ spans, at_ ≤ s.1
  nonempty : ∀ s ∈ spans, s.1 < s.2
  apart : spans.Pairwise fun a b => a.2 < b.1

/-- Behind the first of such spans come the others. -/
theorem Ahead.tail {at_ : Nat} {s : Nat × Nat} {spans : List (Nat × Nat)}
    (h : Ahead at_ (s :: spans)) : at_ ≤ s.1 ∧ s.1 < s.2 ∧ Ahead s.2 spans := by
  obtain ⟨hFirst, hRest⟩ := List.pairwise_cons.mp h.apart
  refine ⟨h.behind s List.mem_cons_self, h.nonempty s List.mem_cons_self, ?_⟩
  exact ⟨fun t ht => Nat.le_of_lt (hFirst t ht),
    (List.forall_mem_cons.mp h.nonempty).2, hRest⟩

section Cut

variable {request : List Char} {at_ : Nat} {spans : List (Nat × Nat)}

theorem length_cutAt (at_ : Nat) (text : List Char) (spans : List (Nat × Nat)) :
    (cutAt at_ text spans).length = spans.length + 1 := by
  induction spans generalizing at_ text with
  | nil => rfl
  | cons s spans ih => simp [cutAt, ih]

/-- The segments are what stands between the spans. -/
theorem text_cutAt (h : Ahead at_ spans) :
    (cutAt at_ (request.drop at_) spans).map Segment.text =
    (between request.length at_ spans).map (Chars.slice request) := by
  induction spans generalizing at_ with
  | nil => simp [cutAt, between, Chars.slice_length]
  | cons s spans ih =>
      obtain ⟨hFirst, hSome, hRest⟩ := h.tail
      have hDrop : (request.drop at_).drop (s.2 - at_) = request.drop s.2 := by
        rw [List.drop_drop]
        congr 1
        omega
      rw [cutAt, between, hDrop, List.map_cons, List.map_cons, ih hRest]
      rfl

/-- **Put back together with the spans, the segments are the text.** -/
theorem weave_between (h : Ahead at_ spans) :
    weave ((between request.length at_ spans).map (Chars.slice request))
    (spans.map (Chars.slice request)) = request.drop at_ := by
  induction spans generalizing at_ with
  | nil => simp [between, weave, Chars.slice_length]
  | cons s spans ih =>
      obtain ⟨hFirst, hSome, hRest⟩ := h.tail
      rw [between, List.map_cons, List.map_cons, weave, ih hRest,
        Chars.slice_append_drop (Nat.le_of_lt hSome),
        Chars.slice_append_drop hFirst]

/-- What stands between such spans begins behind the position. -/
theorem le_of_mem_between (h : Ahead at_ spans) {length : Nat} {gap : Nat × Nat}
    (hGap : gap ∈ between length at_ spans) : at_ ≤ gap.1 := by
  induction spans generalizing at_ with
  | nil =>
      obtain rfl := List.mem_singleton.mp hGap
      exact Nat.le_refl _
  | cons s spans ih =>
      obtain ⟨hFirst, hSome, hRest⟩ := h.tail
      rcases List.mem_cons.mp hGap with rfl | hGap
      · exact Nat.le_refl _
      · have hBehind := ih hRest hGap
        omega

/-- **No span reaches into a segment.** -/
theorem not_holds_of_mem_between (h : Ahead at_ spans) {length k : Nat}
    {gap : Nat × Nat} (hGap : gap ∈ between length at_ spans)
    (hk : Holds gap k) : ∀ s ∈ spans, ¬ Holds s k := by
  induction spans generalizing at_ with
  | nil => exact nofun
  | cons s spans ih =>
      obtain ⟨hFirst, hSome, hRest⟩ := h.tail
      have hLater := (List.pairwise_cons.mp h.apart).1
      intro t ht hHolds
      rcases List.mem_cons.mp hGap with rfl | hGap
      · -- the gap in front of the first span
        rcases List.mem_cons.mp ht with rfl | ht
        · simp only [Holds] at hk hHolds
          omega
        · have hBehind := hLater t ht
          simp only [Holds] at hk hHolds
          omega
      · rcases List.mem_cons.mp ht with rfl | ht
        · have hBehind := le_of_mem_between hRest hGap
          simp only [Holds] at hk hHolds
          omega
        · exact ih hRest hGap t ht hHolds

/-- A segment is behind a span unless it is the first, and in front of one
unless it is the last. -/
theorem flags_cutAt (h : Ahead at_ spans) {text : List Char} {i : Nat}
    {segment : Segment} (hi : (cutAt at_ text spans)[i]? = some segment) :
    (segment.afterMention = true ↔ 0 < at_ ∨ 0 < i) ∧
    (segment.beforeMention = true ↔ i < spans.length) := by
  induction spans generalizing at_ text i with
  | nil =>
      cases i with
      | zero =>
          obtain rfl := Option.some.inj hi
          simp
      | succ i => simp [cutAt] at hi
  | cons s spans ih =>
      obtain ⟨hFirst, hSome, hRest⟩ := h.tail
      cases i with
      | zero =>
          obtain rfl := Option.some.inj hi
          simp
      | succ i =>
          rw [cutAt, List.getElem?_cons_succ] at hi
          obtain ⟨hAfter, hBefore⟩ := ih hRest hi
          rw [hAfter, hBefore]
          simp only [List.length_cons]
          omega

end Cut

/-! ## The segments of a request -/

namespace Directory

open Platform

/-- The spans of all names in a request, before they are joined. -/
def nameSpans (d : Directory) (request : List Char) : List (Nat × Nat) :=
  (d.flatMap names).flatMap fun name =>
    spansOf (needle name) (Chars.asciiLower request)

/-- What is promised of a request that is cut at the mentions of platforms. -/
structure CutAtMentions (d : Directory) (request : List Char)
    (spans : List (Nat × Nat)) (segments : List Segment) : Prop where
  /-- Every span has a character, and lies in the request. -/
  nonempty : ∀ s ∈ spans, s.1 < s.2 ∧ s.2 ≤ request.length
  /-- The spans come in order, and two of them neither overlap nor touch. -/
  apart : spans.Pairwise fun a b => a.2 < b.1
  /-- Whatever is found of a name lies in a span. -/
  kept : ∀ p ∈ d, ∀ name ∈ p.names, ∀ x ∈ spansOf (needle name)
    (Chars.asciiLower request),
    ∃ s ∈ spans, Inside x s
  /-- Every character of a span belongs to a name that occurs in the span. -/
  held : ∀ s ∈ spans, ∀ k, Holds s k → ∃ p ∈ d, ∃ name ∈ p.names, ∃ at_,
    needle name <+: (Chars.asciiLower request).drop at_ ∧
    Holds (at_, at_ + (needle name).length) k ∧
      Inside (at_, at_ + (needle name).length) s
  /-- The segments are what stands between the spans. -/
  texts : segments.map Segment.text =
    (between request.length 0 spans).map (Chars.slice request)
  count : segments.length = spans.length + 1
  /-- Put back together with the spans, the segments are the request. -/
  whole : weave (segments.map Segment.text) (spans.map (Chars.slice request)) =
    request
  /-- The bytes of a name occur in those of the copy in lower case only where
  the name does, from the beginning of a character of the request on. -/
  bytewise : ∀ p ∈ d, ∀ name ∈ p.names, needle name ≠ [] → ∀ b,
    Percent.bytesOf (needle name) <+:
      (Percent.bytesOf (Chars.asciiLower request)).drop b ↔
      ∃ at_, b = Chars.byteOffset request at_ ∧
      needle name <+: (Chars.asciiLower request).drop at_
  /-- Either end of a span, told in bytes of the copy in lower case, stands
  between characters of the request. -/
  boundaries : ∀ s ∈ spans, ∀ at_ ∈ [s.1, s.2],
    Chars.byteOffset (Chars.asciiLower request) at_ =
      Chars.byteOffset request at_ ∧
      String.Pos.Raw.IsValid (String.ofList request)
        ⟨Chars.byteOffset (Chars.asciiLower request) at_⟩
  /-- No name is left in a segment. -/
  free : ∀ segment ∈ segments, ∀ p ∈ d, ∀ name ∈ p.names, needle name ≠ [] →
    ¬ needle name <:+: Chars.asciiLower segment.text
  /-- A segment knows whether a span stands in front of it and behind it. -/
  flags : ∀ (i : Nat) (segment : Segment), segments[i]? = some segment →
    (segment.afterMention = true ↔ 0 < i) ∧
    (segment.beforeMention = true ↔ i < spans.length)

section Request

variable (d : Directory) (request : List Char)

theorem mem_nameSpans {x : Nat × Nat} : x ∈ d.nameSpans request ↔
    ∃ p ∈ d, ∃ name ∈ p.names, x ∈
      spansOf (needle name) (Chars.asciiLower request) := by
  simp only [nameSpans, List.mem_flatMap]
  constructor
  · rintro ⟨name, ⟨p, hp, hName⟩, hx⟩
    exact ⟨p, hp, name, hName, hx⟩
  · rintro ⟨p, hp, name, hName, hx⟩
    exact ⟨name, ⟨p, hp, hName⟩, hx⟩

/-- The spans of mentions are those of all names, joined where they meet. -/
theorem joins_mentionSpans :
    Joins (d.nameSpans request) (d.mentionSpans request) := by
  have hSome : ∀ x ∈ (d.nameSpans request).mergeSort spanLe, x.1 < x.2 := by
    intro x hx
    obtain ⟨p, hp, name, hName, hSpan⟩ :=
      (d.mem_nameSpans request).mp (List.mem_mergeSort.mp hx)
    obtain ⟨hNeedle, hEnd, -⟩ := of_mem_spansOf hSpan
    have hPositive := List.length_pos_iff.mpr hNeedle
    omega
  apply Joins.of_mem (fun x => List.mem_mergeSort)
  exact joins_joinSpans (pairwise_mergeSort_spanLe _) hSome

theorem ahead_mentionSpans : Ahead 0 (d.mentionSpans request) where
  behind _ _ := Nat.zero_le _
  nonempty := (d.joins_mentionSpans request).nonempty
  apart := (d.joins_mentionSpans request).apart

theorem text_segments : (d.segments request).map Segment.text =
    (between request.length 0 (d.mentionSpans request)).map
      (Chars.slice request) :=
  text_cutAt (d.ahead_mentionSpans request)

/-- **Put back together with its mentions, the segments of a request are the
request.** -/
theorem weave_segments : weave ((d.segments request).map Segment.text)
    ((d.mentionSpans request).map (Chars.slice request)) = request := by
  rw [text_segments]
  exact weave_between (d.ahead_mentionSpans request)

/-- **No name is left in a segment**, because the first character of every
occurrence is in a span. -/
theorem not_infix_of_mem_between {gap : Nat × Nat}
    (hGap : gap ∈ between request.length 0 (d.mentionSpans request))
    {p : Platform} (hp : p ∈ d) {name : String} (hName : name ∈ p.names)
    (hNeedle : needle name ≠ []) :
    ¬ needle name <:+: Chars.asciiLower (Chars.slice request gap) := by
  intro hOccurs
  obtain ⟨k, hFrom, hTo, hPrefix⟩ := Chars.exists_of_infix_slice hNeedle hOccurs
  obtain ⟨x, hx, hHolds⟩ := exists_span_holding hNeedle hPrefix
  have hMem : x ∈ d.nameSpans request :=
    (d.mem_nameSpans request).mpr ⟨p, hp, name, hName, hx⟩
  obtain ⟨s, hs, hInside⟩ := (d.joins_mentionSpans request).kept x hMem
  exact not_holds_of_mem_between (d.ahead_mentionSpans request) hGap
    ⟨hFrom, hTo⟩ s hs (hHolds.inside hInside)

/-- Every character of a span belongs to a name that occurs in the span. -/
theorem exists_name_of_holds {s : Nat × Nat} (hs : s ∈ d.mentionSpans request)
    {k : Nat} (hk : Holds s k) :
    ∃ p ∈ d, ∃ name ∈ p.names, ∃ at_,
      needle name <+: (Chars.asciiLower request).drop at_ ∧
      Holds (at_, at_ + (needle name).length) k ∧
      Inside (at_, at_ + (needle name).length) s := by
  obtain ⟨⟨at_, stop⟩, hx, hHolds, hInside⟩ :=
    (d.joins_mentionSpans request).held s hs k hk
  obtain ⟨p, hp, name, hName, hSpan⟩ := (d.mem_nameSpans request).mp hx
  obtain ⟨-, hStop, hPrefix⟩ := of_mem_spansOf hSpan
  dsimp only at hStop hPrefix
  rw [hStop] at hHolds hInside
  exact ⟨p, hp, name, hName, at_, hPrefix, hHolds, hInside⟩

/-- A span lies in the request, because its last character belongs to a name
that occurs there. -/
theorem le_length_of_mem_mentionSpans {s : Nat × Nat}
    (hs : s ∈ d.mentionSpans request) : s.1 < s.2 ∧ s.2 ≤ request.length := by
  have hSome := (d.joins_mentionSpans request).nonempty s hs
  have hLast : Holds s (s.2 - 1) := ⟨by omega, by omega⟩
  obtain ⟨p, -, name, -, at_, hPrefix, hHolds, -⟩ :=
    d.exists_name_of_holds request hs hLast
  have hLength := hPrefix.length_le
  simp only [List.length_drop, Chars.length_asciiLower] at hLength
  simp only [Holds] at hHolds
  omega

/-- **The segments of a request are all that is left of it without its
mentions.** For every table and every request, the segments and the spans of
the mentions put back together are the request; the spans are made of names,
joined where they meet; the cuts are between characters; and no name is left in
any segment. -/
theorem segments_complete :
    d.CutAtMentions request (d.mentionSpans request) (d.segments request) := by
  have hJoins := d.joins_mentionSpans request
  refine
    { nonempty := fun s hs => d.le_length_of_mem_mentionSpans request hs
      apart := hJoins.apart
      kept := fun p hp name hName x hx =>
        hJoins.kept x ((d.mem_nameSpans request).mpr ⟨p, hp, name, hName, hx⟩)
      held := fun s hs k hk => d.exists_name_of_holds request hs hk
      texts := d.text_segments request
      count := length_cutAt 0 request _
      whole := d.weave_segments request
      bytewise := fun p _ name _ hNeedle b => ?_
      boundaries := fun s _ at_ _ =>
        ⟨Chars.byteOffset_asciiLower request at_, ?_⟩
      free := ?_
      flags := ?_ }
  · rw [Chars.bytesOf_prefix_drop_iff hNeedle]
    simp only [Chars.byteOffset_asciiLower]
  · rw [Chars.byteOffset_asciiLower]
    exact Chars.isValid_byteOffset request at_
  · intro segment hSegment p hp name hName hNeedle
    have hText : segment.text ∈ (d.segments request).map Segment.text :=
      List.mem_map_of_mem hSegment
    rw [text_segments] at hText
    obtain ⟨gap, hGap, hSlice⟩ := List.mem_map.mp hText
    rw [← hSlice]
    exact d.not_infix_of_mem_between request hGap hp hName hNeedle
  · intro i segment hi
    obtain ⟨hAfter, hBefore⟩ := flags_cutAt (d.ahead_mentionSpans request) hi
    exact ⟨by simpa using hAfter, hBefore⟩

end Request

/-- Names that overlap and a name inside of a longer word, in a request in two
scripts. -/
example :
    codeHosts.mentionSpans "看 GitHubber 代码github.com 里".toList =
      [(2, 8), (12, 24)] := by cbv

end Directory

end Errand
