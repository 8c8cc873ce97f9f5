import Errand.Proofs.Text.Occurrence
import Errand.Proofs.Text.Pattern

/-!
# What a pattern finds first

`Pattern.Matches` says what a pattern may cover; which of several ways is
taken, and so where a match ends and what its groups hold, depends on the order
of trying. This file says so for the pieces that patterns are built of. A very
text covers itself, and a text in any case all texts that are equal to it up to
the case of the letters. A run that has to be followed by something that it
cannot hold itself covers all that it can, greedy or not. A lazy run ends where
what follows it is found first, and a greedy one where it is found last.

Going through a text, a part in which no match begins is passed over, and
behind a match the search goes on with what is left.

## Main results

* `Chars.exists_of_append_eq`, `Chars.not_prefix_of_part`: where a text can be
  cut, and where none begins.
* `matches_exactly`, `matches_anyCase`, `matches_oneOf`: what the pieces cover.
* `go_exactly`: where a very text is found.
* `runFrom_of_stop`, `runFrom_lazy`, `runFrom_greedy`: where a run ends.
* `go_upTo`, `go_upTo_last`, `go_anything`: how the runs of a sequence are
  passed over.
* `go_quoted`, `go_group_anything`: and what is remembered of them.
* `matchAt_of_go`: what the match that reaches a place covers.
* `replaceFrom_pass`, `replaceFrom_take`, `findFrom_pass`, `findFrom_take`:
  going through a text.
-/

namespace Errand.Chars

/-! ## Cuts -/

/-- A character that is not in a text lies behind it. -/
theorem exists_of_append_eq {front rest before behind : List Char} {c : Char}
    (hFront : c ∉ front) (h : front ++ rest = before ++ c :: behind) :
    ∃ before', before = front ++ before' ∧ rest = before' ++ c :: behind := by
  rcases List.append_eq_append_iff.mp h with ⟨before', rfl, hRest⟩ | ⟨front',
    rfl, hBehind⟩
  · exact ⟨before', rfl, hRest⟩
  · cases front' with
    | nil => exact ⟨[], by rw [List.append_nil, List.append_nil], hBehind.symm⟩
    | cons d front' =>
        obtain ⟨rfl, -⟩ := List.cons.inj hBehind
        exact absurd (List.mem_append_right before List.mem_cons_self) hFront

/-- Two texts are cut at the first place of a character in the same way. -/
theorem eq_of_append_cons {front front' rest rest' : List Char} {c : Char}
    (hFront : c ∉ front) (hFront' : c ∉ front')
    (h : front ++ c :: rest = front' ++ c :: rest') :
    front = front' ∧ rest = rest' := by
  obtain ⟨before, rfl, hRest⟩ := exists_of_append_eq hFront h
  cases before with
  | nil => exact ⟨(List.append_nil front).symm, (List.cons.inj hRest).2⟩
  | cons d before =>
      obtain ⟨rfl, -⟩ := List.cons.inj hRest
      exact absurd (List.mem_append_right front List.mem_cons_self) hFront'

/-- In a part in which a text does not occur no occurrence begins, if the part
is not followed by a character that the text has behind its first one. -/
theorem not_prefix_of_part {a : Char} {needle passed rest : List Char}
    (hNot : ¬ (a :: needle) <:+: passed) (hEnd : ∀ c ∈ rest.head?, c ∉ needle) :
    ∀ back, back <:+ passed → back ≠ [] → ¬ (a :: needle) <+: back ++ rest := by
  rintro back hBack hSome hLead
  obtain ⟨b, back, rfl⟩ := List.exists_cons_of_ne_nil hSome
  obtain ⟨rfl, more, hMore⟩ := List.cons_prefix_cons.mp hLead
  refine hNot (List.IsInfix.trans ?_ hBack.isInfix)
  refine (List.cons_prefix_cons.mpr ⟨rfl, ?_⟩).isInfix
  cases rest with
  | nil => exact ⟨more, hMore.trans (List.append_nil back)⟩
  | cons c rest =>
      obtain ⟨back', hSplit, -⟩ := exists_of_append_eq (hEnd c rfl) hMore
      exact ⟨back', hSplit.symm⟩

end Errand.Chars

namespace Errand.Pattern

variable {α : Type}

/-! ## Covered texts -/

section Covered

variable {before after : Option Char} {cs : List Char}

/-- A sequence covers what its sides cover one after the other. -/
theorem exists_of_matches_seq {x y : Pattern}
    (h : Matches (.seq x y) before cs after) :
    ∃ front back, cs = front ++ back ∧
    Matches x before front (back.head?.or after) ∧
      Matches y (lastOf before front) back after := by
  cases h with
  | seq hx hy => exact ⟨_, _, rfl, hx, hy⟩

theorem matches_of_group {x : Pattern}
    (h : Matches (.group x) before cs after) : Matches x before cs after := by
  cases h with
  | group h => exact h

/-- Single characters that are told by what they are mapped to cover the texts
that are mapped to the same. -/
theorem matches_characters (kind : Char → Char → Bool) (f : Char → Char)
    (hKind : ∀ a c, kind a c = true ↔ f c = f a) {as : List Char} :
    Matches (inOrder (as.map fun a => .one (kind a))) before cs after ↔
    cs.map f = as.map f := by
  have hOne : ∀ {a : Char} {before after : Option Char} {cs : List Char},
      Matches (.one (kind a)) before cs after ↔ cs.map f = [f a] := by
    intro a before after cs
    constructor
    · intro h
      cases h with
      | one hc => exact congrArg (· :: []) ((hKind a _).mp hc)
    · intro h
      obtain ⟨c, rfl, hc⟩ := List.map_eq_singleton_iff.mp h
      exact .one ((hKind a c).mpr hc)
  induction as generalizing before cs with
  | nil =>
      constructor
      · intro h
        cases h
        rfl
      · intro h
        obtain rfl := List.map_eq_nil_iff.mp h
        exact .nothing
  | cons a as ih =>
      cases as with
      | nil => exact hOne
      | cons b as =>
          constructor
          · intro h
            cases h with
            | seq hFirst hRest =>
                rw [List.map_append, hOne.mp hFirst, ih.mp hRest]
                rfl
          · intro h
            obtain ⟨c, cs, rfl, hc, hcs⟩ := List.map_eq_cons_iff.mp h
            have hFirst : [c].map f = [f a] := congrArg (· :: []) hc
            exact Matches.seq (hOne.mpr hFirst) (ih.mpr hcs)

/-- A very text covers itself. -/
theorem matches_exactly {s : String} : Matches (exactly s) before cs after ↔
    cs = s.toList := by
  have h : Matches (exactly s) before cs after ↔ cs.map id = s.toList.map id :=
    matches_characters (fun a c => c == a) id fun _ _ => beq_iff_eq
  rwa [List.map_id, List.map_id] at h

/-- The letter that stands for a character and the other case of it. -/
def foldCase (c : Char) : Char :=
  if c = '\u017f' then 's'
  else if c = '\u212a' then 'k' else c.toLower

theorem sameLetter_iff {a c : Char} : sameLetter a c = true ↔
    foldCase c = foldCase a :=
  beq_iff_eq.trans eq_comm

theorem matches_anyCase {s : String} :
    Matches (anyCase s) before cs after ↔
    cs.map foldCase = s.toList.map foldCase :=
  matches_characters sameLetter foldCase fun _ _ => sameLetter_iff

/-- A choice covers what one of its sides covers. -/
theorem matches_oneOf {ps : List Pattern} :
    Matches (oneOf ps) before cs after ↔
    ∃ p ∈ ps, Matches p before cs after := by
  induction ps with
  | nil =>
      constructor
      · intro h
        cases h with
        | one hc => cases hc
      · rintro ⟨p, hMem, -⟩
        cases hMem
  | cons p ps ih =>
      cases ps with
      | nil => simp only [oneOf, List.mem_singleton, exists_eq_left]
      | cons q ps =>
          constructor
          · intro h
            cases h with
            | left hp => exact ⟨p, List.mem_cons_self, hp⟩
            | right hRest =>
                obtain ⟨q', hMem, hq⟩ := ih.mp hRest
                exact ⟨q', List.mem_cons_of_mem p hMem, hq⟩
          · rintro ⟨q', hMem, hq⟩
            rcases List.mem_cons.mp hMem with rfl | hMem
            · exact .left hq
            · exact .right (ih.mpr ⟨q', hMem, hq⟩)

end Covered

/-! ## Very texts -/

theorem go_seq (x y : Pattern) (place : Place) (groups : List (List Char))
    (k : Place → List (List Char) → Option α) :
    go (.seq x y) place groups k = go x place groups fun place groups =>
      go y place groups k := rfl

theorem go_alt (x y : Pattern) (place : Place) (groups : List (List Char))
    (k : Place → List (List Char) → Option α) :
    go (.alt x y) place groups k =
      (go x place groups k).or (go y place groups k) := by
  rw [go]
  cases go x place groups k <;> rfl

theorem go_characters (cs : List Char) (place : Place)
    (groups : List (List Char)) (k : Place → List (List Char) → Option α) :
    go (inOrder (cs.map fun c => .one (· == c))) place groups k =
      (Chars.dropLead? cs place.rest).bind fun rest =>
        k ⟨lastOf place.before cs, rest⟩ groups := by
  have hOne : ∀ (c : Char) (place : Place)
      (k : Place → List (List Char) → Option α),
      go (.one (· == c)) place groups k =
        (Chars.dropLead? [c] place.rest).bind fun rest =>
          k ⟨some c, rest⟩ groups := by
    rintro c ⟨before, rest⟩ k
    cases rest with
    | nil => rfl
    | cons d rest =>
        simp only [go, Chars.dropLead?, beq_iff_eq, eq_comm (a := d)]
        split
        · next hEq => rw [hEq, Option.bind_some]
        · rfl
  induction cs generalizing place with
  | nil => rfl
  | cons c cs ih =>
      cases cs with
      | nil => exact hOne c place k
      | cons d cs =>
          show go (.seq (.one (· == c))
                (inOrder ((d :: cs).map fun c => .one (· == c)))) place
                groups k = _
          rw [go_seq, hOne]
          obtain ⟨before, rest⟩ := place
          cases rest with
          | nil => rfl
          | cons e rest =>
              by_cases hEq : c = e
              · simp only [Chars.dropLead?, hEq, if_true, Option.bind_some, ih,
                  lastOf_cons]
              · simp only [Chars.dropLead?, hEq, if_false, Option.bind_none]

/-- **A very text is found where it stands.** -/
theorem go_exactly (s : String) (place : Place) (groups : List (List Char))
    (k : Place → List (List Char) → Option α) :
    go (exactly s) place groups k =
      (Chars.dropLead? s.toList place.rest).bind fun rest =>
        k ⟨lastOf place.before s.toList, rest⟩ groups :=
  go_characters s.toList place groups k

theorem go_exactly_append (s : String) (before : Option Char) (rest : List Char)
    (groups : List (List Char)) (k : Place → List (List Char) → Option α) :
    go (exactly s) ⟨before, s.toList ++ rest⟩ groups k =
      k ⟨lastOf before s.toList, rest⟩ groups := by
  rw [go_exactly, Chars.dropLead?_append]
  rfl

theorem exists_of_go_exactly {s : String} {place : Place}
    {groups : List (List Char)} {k : Place → List (List Char) → Option α}
    {r : α} (h : go (exactly s) place groups k = some r) :
    ∃ rest, place.rest = s.toList ++ rest ∧
    k ⟨lastOf place.before s.toList, rest⟩ groups = some r := by
  rw [go_exactly] at h
  obtain ⟨rest, hRest, hk⟩ := Option.bind_eq_some_iff.mp h
  exact ⟨rest, Chars.eq_append_of_dropLead? hRest, hk⟩

/-! ## Ends of runs -/

section Runs

variable {greedy : Bool} {p : Char → Bool} {k : Place → Option α}
  {before : Option Char} {run tl : List Char}

/-- A run that has to be followed by something that it cannot hold itself
covers all that it can. -/
theorem runFrom_of_stop (hRun : ∀ c ∈ run, p c = true)
    (hEnd : ∀ c ∈ tl.head?, p c = false)
    (hk : ∀ before c rest, p c = true → k ⟨before, c :: rest⟩ = none) :
    runFrom greedy p k before (run ++ tl) = k ⟨lastOf before run, tl⟩ := by
  induction run generalizing before with
  | nil =>
      cases tl with
      | nil => rfl
      | cons c tl =>
          have hc : ¬ p c = true := by simp [hEnd c rfl]
          rw [List.nil_append, runFrom, if_neg hc]
          rfl
  | cons c run ih =>
      obtain ⟨hc, hRun⟩ := List.forall_mem_cons.mp hRun
      rw [List.cons_append, runFrom, if_pos hc, hk before c _ hc, ih hRun,
        lastOf_cons]
      cases greedy with
      | true => exact Option.or_none
      | false => rfl

/-- **A lazy run ends where what follows it is found first.** -/
theorem runFrom_lazy (hRun : ∀ c ∈ run, p c = true)
    (hFirst : ∀ before back, back <:+ run → back ≠ [] →
      k ⟨before, back ++ tl⟩ = none) (hk : (k ⟨lastOf before run, tl⟩).isSome) :
    runFrom false p k before (run ++ tl) = k ⟨lastOf before run, tl⟩ := by
  induction run generalizing before with
  | nil =>
      obtain ⟨r, hr⟩ := Option.isSome_iff_exists.mp hk
      rw [lastOf_nil] at hr ⊢
      rw [List.nil_append, hr]
      cases tl with
      | nil => exact hr
      | cons c tl =>
          simp only [runFrom, hr, Bool.false_eq_true, if_false, ite_self]
  | cons c run ih =>
      obtain ⟨hc, hRun⟩ := List.forall_mem_cons.mp hRun
      have hHere :=
        hFirst before (c :: run) List.suffix_rfl (List.cons_ne_nil c run)
      rw [List.cons_append] at hHere
      rw [lastOf_cons] at hk ⊢
      rw [List.cons_append, runFrom, if_pos hc,
        if_neg Bool.false_ne_true, hHere]
      exact ih hRun (fun before back hBack =>
          hFirst before back (hBack.trans (List.suffix_cons c run))) hk

/-- **A greedy run ends where what follows it is found last.** -/
theorem runFrom_greedy (hRun : ∀ c ∈ run, p c = true)
    (hLast : ∀ before front back, tl = front ++ back → front ≠ [] →
      (∀ c ∈ front, p c = true) →
      k ⟨before, back⟩ = none)
    (hk : (k ⟨lastOf before run, tl⟩).isSome) :
    runFrom true p k before (run ++ tl) = k ⟨lastOf before run, tl⟩ := by
  induction run generalizing before with
  | nil =>
      rw [lastOf_nil, List.nil_append]
      cases tl with
      | nil => rfl
      | cons c tl =>
          by_cases hc : p c = true
          · have hLater : runFrom true p k (some c) tl = none := by
              rw [Option.eq_none_iff_forall_ne_some]
              intro r hr
              obtain ⟨cs, back, rfl, hCs, hBack⟩ := exists_of_runFrom hr
              rw [hLast _ (c :: cs) back rfl (List.cons_ne_nil c cs)
                (List.forall_mem_cons.mpr ⟨hc, hCs⟩)] at hBack
              cases hBack
            rw [runFrom, if_pos hc, if_pos rfl, hLater, Option.none_or]
          · rw [runFrom, if_neg hc]
  | cons c run ih =>
      obtain ⟨hc, hRun⟩ := List.forall_mem_cons.mp hRun
      rw [lastOf_cons] at hk ⊢
      rw [List.cons_append, runFrom, if_pos hc, if_pos rfl, ih hRun hk,
        Option.or_of_isSome hk]

end Runs

section Sequences

variable {q : Pattern} {before : Option Char} {rest : List Char}
  {groups : List (List Char)} {k : Place → List (List Char) → Option α}

theorem go_exactly_seq (s : String) :
    go (.seq (exactly s) q) ⟨before, s.toList ++ rest⟩ groups k =
      go q ⟨lastOf before s.toList, rest⟩ groups k :=
  go_exactly_append s before rest groups _

theorem go_exactly_eq_none {s : String} {text : List Char}
    (h : ¬ s.toList <+: text) :
    go (exactly s) ⟨before, text⟩ groups k = none := by
  rw [go_exactly, Chars.dropLead?_eq_none h, Option.bind_none]

theorem not_contains_iff {c d : Char} : (!([c].contains d)) = true ↔ d ≠ c := by
  rw [List.contains_cons, List.contains_nil, Bool.or_false, Bool.not_eq_true',
    beq_eq_false_iff_ne]

theorem not_contains_of_not_mem {c : Char} {inside : List Char}
    (h : c ∉ inside) :
    ∀ d ∈ inside, (!([c].contains d)) = true := fun _ hd =>
  not_contains_iff.mpr fun hEq => h (hEq ▸ hd)

/-- The character that ends a run is not part of it. -/
theorem runFrom_upTo {s : String} {c : Char} (hs : s.toList = [c])
    {inside : List Char} (hInside : c ∉ inside)
    {groups : Place → List (List Char)} :
    runFrom true (fun d => !([c].contains d))
      (fun place => go (.seq (exactly s) q) place (groups place) k) before
      (inside ++ c :: rest) = go q ⟨some c, rest⟩
        (groups ⟨lastOf before inside, c :: rest⟩) k := by
  rw [runFrom_of_stop (not_contains_of_not_mem hInside)]
  · have hEnd : c :: rest = s.toList ++ rest := by
      rw [hs, List.singleton_append]
    rw [hEnd, go_exactly_seq, hs]
    rfl
  · rintro d hd
    obtain rfl := Option.some.inj hd
    exact Bool.eq_false_iff.mpr fun h => not_contains_iff.mp h rfl
  · intro before d rest hd
    refine go_exactly_eq_none fun hLead => ?_
    rw [hs] at hLead
    exact not_contains_iff.mp hd (List.cons_prefix_cons.mp hLead).1.symm

/-- A part without a character is passed over up to the character. -/
theorem go_upTo {s : String} {c : Char} (hs : s.toList = [c])
    {inside : List Char} (hInside : c ∉ inside) :
    go (.seq (upTo [c]) (.seq (exactly s) q))
        ⟨before, inside ++ c :: rest⟩ groups k =
      go q ⟨some c, rest⟩ groups k :=
  runFrom_upTo hs hInside

/-- What is remembered of a text is the part in front of the place that is
reached. -/
theorem take_length_sub (front back : List Char) :
    (front ++ back).take ((front ++ back).length - back.length) = front := by
  rw [List.length_append, Nat.add_sub_cancel, List.take_left]

/-- Such a part is remembered, if it is not empty. -/
theorem go_quoted {s : String} {c : Char} (hs : s.toList = [c])
    {inside : List Char} (hSome : inside ≠ []) (hInside : c ∉ inside) :
    go (.seq (.group (.seq (.one (· != c)) (upTo [c]))) (.seq (exactly s) q))
      ⟨before, inside ++ c :: rest⟩ groups k =
      go q ⟨some c, rest⟩ (inside :: groups) k := by
  obtain ⟨d, inside, rfl⟩ := List.exists_cons_of_ne_nil hSome
  rw [List.mem_cons, not_or] at hInside
  refine (if_pos (bne_iff_ne.mpr (Ne.symm hInside.1))).trans
    ((runFrom_upTo hs hInside.2).trans ?_)
  exact congrArg (fun group => go q ⟨some c, rest⟩ (group :: groups) k)
    (take_length_sub (d :: inside) (c :: rest))

/-- Of the places of a text in front of a character, a run up to this character
goes to the last one. -/
theorem go_upTo_last {s : String} {a c : Char} {needle inside inner : List Char}
    (hs : s.toList = a :: needle) (ha : a ∉ needle) (hc : c ∉ a :: needle)
    (hInside : c ∉ inside) (hInner : ¬ (a :: needle) <:+: inner)
    (hk : (go q ⟨lastOf (lastOf before inside) s.toList, inner ++ c :: rest⟩
        groups k).isSome) :
    go (.seq (upTo [c]) (.seq (exactly s) q))
        ⟨before, inside ++ (s.toList ++ (inner ++ c :: rest))⟩ groups k =
      go q ⟨lastOf (lastOf before inside) s.toList,
        inner ++ c :: rest⟩ groups k := by
  have hRun : go (.seq (upTo [c]) (.seq (exactly s) q))
      ⟨before, inside ++ (s.toList ++ (inner ++ c :: rest))⟩ groups k =
        go (.seq (exactly s) q) ⟨lastOf before inside,
          s.toList ++ (inner ++ c :: rest)⟩ groups k := by
    refine runFrom_greedy (not_contains_of_not_mem hInside)
      (fun before front back hSplit hSome hFront => ?_) ?_
    · refine go_exactly_eq_none fun hLead => ?_
      rw [hs] at hSplit hLead
      obtain ⟨behind, rfl⟩ := hLead
      -- The place would be in front of the character, and so behind the text
      -- that the run leads to.
      have hPlace : c ∉ front ++ a :: needle := fun hMem =>
        (List.mem_append.mp hMem).elim
          (fun hFound => not_contains_iff.mp (hFront c hFound) rfl) hc
      rw [← List.append_assoc, ← List.append_assoc] at hSplit
      obtain ⟨behind', hInner', -⟩ :=
        Chars.exists_of_append_eq hPlace hSplit.symm
      obtain ⟨b, front, rfl⟩ := List.exists_cons_of_ne_nil hSome
      simp only [List.cons_append, List.append_assoc, List.cons.injEq]
        at hInner'
      obtain ⟨front', -, hBehind⟩ := Chars.exists_of_append_eq ha hInner'.2
      exact hInner ⟨front', behind',
        by rw [hBehind]; simp only [List.append_assoc, List.cons_append]⟩
    · exact (congrArg Option.isSome (go_exactly_seq s)).trans hk
  rw [hRun, go_exactly_seq]

/-- As little as possible is passed over. -/
theorem go_anything {content : List Char}
    (hFirst : ∀ before back, back <:+ content → back ≠ [] →
      go q ⟨before, back ++ rest⟩ groups k = none)
    (hk : (go q ⟨lastOf before content, rest⟩ groups k).isSome) :
    go (.seq anything q) ⟨before, content ++ rest⟩ groups k =
      go q ⟨lastOf before content, rest⟩ groups k :=
  runFrom_lazy (fun _ _ => rfl) hFirst hk

/-- As little as possible is passed over and remembered. -/
theorem go_group_anything {content : List Char}
    (hFirst : ∀ before groups back, back <:+ content → back ≠ [] →
      go q ⟨before, back ++ rest⟩ groups k = none)
    (hk : (go q ⟨lastOf before content, rest⟩ (content :: groups) k).isSome) :
    go (.seq (.group anything) q) ⟨before, content ++ rest⟩ groups k =
      go q ⟨lastOf before content, rest⟩ (content :: groups) k := by
  have hRun : go (.seq (.group anything) q) ⟨before, content ++ rest⟩ groups k =
      go q ⟨lastOf before content, rest⟩
        ((content ++ rest).take ((content ++ rest).length - rest.length) ::
          groups) k := by
    refine runFrom_lazy (fun _ _ => rfl)
      (fun before back => hFirst before _ back) ?_
    dsimp only
    rw [take_length_sub]
    exact hk
  rw [hRun, take_length_sub]

end Sequences

/-! ## Going through a text -/

section Going

variable {p : Pattern} {new : List Char} {m : Match}

/-- The match that ends at a place of a text. -/
def reached (cs : List Char) (place : Place) (groups : List (List Char)) :
    Option Match :=
  some ⟨cs.length - place.rest.length, groups.reverse⟩

theorem isSome_reached (cs : List Char) (place : Place)
    (groups : List (List Char)) :
    (reached cs place groups).isSome := rfl

/-- A match covers what is in front of the place that is reached. -/
theorem matchAt_of_go {before before' : Option Char} {covered rest : List Char}
    {groups : List (List Char)}
    (h : go p ⟨before, covered ++ rest⟩ [] (reached (covered ++ rest)) =
      reached (covered ++ rest) ⟨before', rest⟩ groups) :
    matchAt p before (covered ++ rest) =
      some ⟨covered.length, groups.reverse⟩ := by
  rw [reached, List.length_append, Nat.add_sub_cancel] at h
  exact h

theorem properMatchAt_eq_none {before : Option Char} {cs : List Char}
    (h : matchAt p before cs = none) : properMatchAt p before cs = none := by
  rw [properMatchAt, h]
  rfl

theorem properMatchAt_eq_some {before : Option Char} {cs : List Char}
    (h : matchAt p before cs = some m) (hProper : 0 < m.length) :
    properMatchAt p before cs = some m := by
  rw [properMatchAt, h, Option.filter_some, if_pos (decide_eq_true hProper)]

/-- A part in which no match begins stays. -/
theorem replaceFrom_pass {passed rest : List Char}
    (h : ∀ before back, back <:+ passed → back ≠ [] →
      matchAt p before (back ++ rest) = none) (before : Option Char) :
    replaceFrom p new 0 before (passed ++ rest) =
      passed ++ replaceFrom p new 0 (lastOf before passed) rest := by
  induction passed generalizing before with
  | nil => rfl
  | cons c passed ih =>
      have hHere :=
        properMatchAt_eq_none (h before (c :: passed) List.suffix_rfl
            (List.cons_ne_nil c passed))
      rw [List.cons_append] at hHere
      rw [List.cons_append, replaceFrom, hHere, lastOf_cons]
      exact congrArg (c :: ·) (ih (fun before back hBack =>
        h before back (hBack.trans (List.suffix_cons c passed))) (some c))

/-- A match is replaced, and the search goes on behind it. -/
theorem replaceFrom_take {before : Option Char} {covered rest : List Char}
    (h : matchAt p before (covered ++ rest) = some m)
    (hLength : m.length = covered.length) (hSome : covered ≠ []) :
    replaceFrom p new 0 before (covered ++ rest) =
      new ++ replaceFrom p new 0 (lastOf before covered) rest := by
  obtain ⟨c, covered, rfl⟩ := List.exists_cons_of_ne_nil hSome
  have hProper : 0 < m.length := hLength ▸ Nat.succ_pos _
  have hHere := properMatchAt_eq_some h hProper
  rw [List.cons_append] at hHere
  rw [List.cons_append, replaceFrom, hHere, lastOf_cons]
  dsimp only
  rw [hLength, List.length_cons, Nat.add_sub_cancel, replaceFrom_skip]

theorem findFrom_skip (before : Option Char) (passed rest : List Char) :
    findFrom p passed.length before (passed ++ rest) =
      findFrom p 0 (lastOf before passed) rest := by
  induction passed generalizing before with
  | nil => rfl
  | cons c passed ih =>
      rw [lastOf_cons]
      exact ih (some c)

/-- Nothing is found in a part in which no match begins. -/
theorem findFrom_pass {passed rest : List Char}
    (h : ∀ before back, back <:+ passed → back ≠ [] →
      matchAt p before (back ++ rest) = none) (before : Option Char) :
    findFrom p 0 before (passed ++ rest) =
      findFrom p 0 (lastOf before passed) rest := by
  induction passed generalizing before with
  | nil => rfl
  | cons c passed ih =>
      have hHere :=
        properMatchAt_eq_none (h before (c :: passed) List.suffix_rfl
            (List.cons_ne_nil c passed))
      rw [List.cons_append] at hHere
      rw [List.cons_append, findFrom, hHere, lastOf_cons]
      exact ih (fun before back hBack =>
          h before back (hBack.trans (List.suffix_cons c passed))) (some c)

/-- A match is found, and the search goes on behind it. -/
theorem findFrom_take {before : Option Char} {covered rest : List Char}
    (h : matchAt p before (covered ++ rest) = some m)
    (hLength : m.length = covered.length) (hSome : covered ≠ []) :
    findFrom p 0 before (covered ++ rest) =
      m :: findFrom p 0 (lastOf before covered) rest := by
  obtain ⟨c, covered, rfl⟩ := List.exists_cons_of_ne_nil hSome
  have hProper : 0 < m.length := hLength ▸ Nat.succ_pos _
  have hHere := properMatchAt_eq_some h hProper
  rw [List.cons_append] at hHere
  rw [List.cons_append, findFrom, hHere, lastOf_cons]
  dsimp only
  rw [hLength, List.length_cons, Nat.add_sub_cancel, findFrom_skip]

end Going

end Errand.Pattern
