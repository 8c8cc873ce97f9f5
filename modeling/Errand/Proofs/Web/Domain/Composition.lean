import Mathlib.Data.List.Chain
import Errand.Proofs.Text.Pieces
import Errand.Proofs.Web.Domain.Tables

/-!
# Composing twice is composing once

Taking apart undoes composing: what `joined` makes of characters that are taken
apart and in order is, taken apart and put in order again, what it was made of.
A mark that joins its letter goes past the marks between them, and it may,
since all of these have other classes (`place_comm`).

A point is neither joined with anything nor moved, so the composed form of a
name is that of its labels.

## Main results

* `ordered_flatMap_joined`: what a composed text is taken apart into.
* `composed_composed`: the composed form of a composed form is the form itself.
* `composed_append_point`: composing goes label by label.
* `composed_inert`, `composed_ascii`: which texts are composed as they stand.
-/

namespace Errand.Domain

variable {a b c d : Char}

/-! ## Taking apart -/

theorem partsWithin_of_none {depth : Nat} (h : split? c = none) :
    partsWithin depth c = [c] := by
  cases depth with
  | zero => rfl
  | succ depth => rw [partsWithin, h]

theorem parts_of_none (h : split? c = none) : parts c = [c] :=
  partsWithin_of_none h

/-- A composed character is taken apart into the parts of its first part, and
its second part. -/
theorem parts_of_split? (h : split? c = some (a, b)) :
    parts c = parts a ++ [b] := by
  have hDepth : partsWithin 2 a = partsWithin 3 a := by
    cases hFirst : split? a with
    | none => rw [partsWithin_of_none hFirst, partsWithin_of_none hFirst]
    | some p =>
        obtain ⟨a', b'⟩ := p
        have hLast := split?_first h hFirst
        rw [partsWithin, partsWithin, hFirst]
        dsimp only
        rw [partsWithin_of_none hLast, partsWithin_of_none hLast]
  rw [parts, partsWithin, h]
  dsimp only
  rw [hDepth]
  rfl

/-- The parts of a character are not taken apart further. -/
theorem split?_of_mem_parts (h : d ∈ parts c) : split? d = none := by
  cases hSplit : split? c with
  | none =>
      rw [parts_of_none hSplit] at h
      obtain rfl := List.mem_singleton.mp h
      exact hSplit
  | some p =>
      obtain ⟨a, b⟩ := p
      rw [parts_of_split? hSplit] at h
      obtain hFirst | hSecond := List.mem_append.mp h
      · cases hInner : split? a with
        | none =>
            rw [parts_of_none hInner] at hFirst
            obtain rfl := List.mem_singleton.mp hFirst
            exact hInner
        | some p =>
            obtain ⟨a', b'⟩ := p
            have hLast := split?_first hSplit hInner
            rw [parts_of_split? hInner, parts_of_none hLast] at hFirst
            obtain rfl | hb := List.mem_cons.mp hFirst
            · exact hLast
            · obtain rfl := List.mem_singleton.mp hb
              exact split?_second hInner
      · obtain rfl := List.mem_singleton.mp hSecond
        exact split?_second hSplit

theorem flatMap_parts_of_none {cs : List Char} (h : ∀ c ∈ cs, split? c = none) :
    cs.flatMap parts = cs := by
  induction cs with
  | nil => rfl
  | cons c cs ih =>
      obtain ⟨hFirst, hRest⟩ := List.forall_mem_cons.mp h
      rw [List.flatMap_cons, parts_of_none hFirst, ih hRest]
      rfl

/-! ## The order of marks -/

/-- One character may stand before another: the other is no mark or is of no
lower class. -/
def Keeps (c d : Char) : Prop := markClass d = 0 ∨ markClass c ≤ markClass d

/-- Marks are in the order of their classes. -/
def InOrder (cs : List Char) : Prop := cs.IsChain Keeps

/-- A character that is no mark stays in front. -/
theorem place_letter (h : markClass c = 0) (cs : List Char) :
    place c cs = c :: cs := by
  cases cs with
  | nil => rfl
  | cons d cs => rw [place, h, if_neg fun ⟨_, hLess⟩ => Nat.not_lt_zero _ hLess]

/-- A mark goes past another of a lower class. -/
theorem place_past (hMark : markClass d ≠ 0) (hLess : markClass d < markClass c)
    (cs : List Char) : place c (d :: cs) = d :: place c cs := by
  rw [place, if_pos ⟨hMark, hLess⟩]

theorem place_front (h : Keeps c d) (cs : List Char) :
    place c (d :: cs) = c :: d :: cs := by
  rw [place, if_neg]
  rintro ⟨hMark, hLess⟩
  obtain hLetter | hLe := h
  · exact hMark hLetter
  · exact Nat.not_le_of_lt hLess hLe

theorem keeps_or_past (c d : Char) : Keeps c d ∨ markClass d ≠ 0 ∧
    markClass d < markClass c := by
  unfold Keeps
  omega

theorem mem_place {cs : List Char} : d ∈ place c cs ↔ d = c ∨ d ∈ cs := by
  induction cs with
  | nil => exact List.mem_cons
  | cons e cs ih =>
      obtain hKeeps | ⟨hMark, hLess⟩ := keeps_or_past c e
      · rw [place_front hKeeps, List.mem_cons]
      · rw [place_past hMark hLess, List.mem_cons, ih, List.mem_cons,
          or_left_comm]

theorem mem_ordered {cs : List Char} : d ∈ ordered cs ↔ d ∈ cs := by
  induction cs with
  | nil => rfl
  | cons c cs ih =>
      show d ∈ place c (ordered cs) ↔ _
      rw [mem_place, ih, List.mem_cons]

/-- What stands first after a character is placed is that character or what
stood first. -/
theorem head?_place (c : Char) (cs : List Char) :
    ∀ e ∈ (place c cs).head?, e = c ∨ e ∈ cs.head? := by
  intro e he
  cases cs with
  | nil => exact .inl (Option.some.inj he).symm
  | cons d cs =>
      obtain hKeeps | ⟨hMark, hLess⟩ := keeps_or_past c d
      · rw [place_front hKeeps] at he
        exact .inl (Option.some.inj he).symm
      · rw [place_past hMark hLess] at he
        exact .inr he

theorem inOrder_place {cs : List Char} (h : InOrder cs) :
    InOrder (place c cs) := by
  induction cs with
  | nil => exact .singleton c
  | cons d cs ih =>
      obtain hKeeps | ⟨hMark, hLess⟩ := keeps_or_past c d
      · rw [place_front hKeeps]
        exact .cons_cons hKeeps h
      · rw [place_past hMark hLess]
        obtain ⟨hFirst, hRest⟩ := List.isChain_cons.mp h
        refine List.isChain_cons.mpr ⟨fun e he => ?_, ih hRest⟩
        obtain rfl | hOld := head?_place c cs e he
        · exact .inr (Nat.le_of_lt hLess)
        · exact hFirst e hOld

theorem inOrder_ordered (cs : List Char) : InOrder (ordered cs) := by
  induction cs with
  | nil => exact .nil
  | cons c cs ih => exact inOrder_place ih

/-- Text whose marks are in order stays as it is. -/
theorem ordered_eq_self {cs : List Char} (h : InOrder cs) :
    ordered cs = cs := by
  induction cs with
  | nil => rfl
  | cons c cs ih =>
      obtain ⟨hFirst, hRest⟩ := List.isChain_cons.mp h
      show place c (ordered cs) = _
      rw [ih hRest]
      cases cs with
      | nil => rfl
      | cons d cs => exact place_front (hFirst d rfl) cs

/-- **Marks of different classes can be placed in either order.** -/
theorem place_comm (ha : markClass a ≠ 0) (hLess : markClass a < markClass b)
    (cs : List Char) : place a (place b cs) = place b (place a cs) := by
  have hKeeps : Keeps a b := .inr (Nat.le_of_lt hLess)
  induction cs with
  | nil =>
      show place a [b] = place b [a]
      rw [place_front hKeeps, place_past ha hLess]
      rfl
  | cons d cs ih =>
      obtain hFront | ⟨hMark, hPast⟩ := keeps_or_past a d
      · rw [place_front hFront, place_past ha hLess]
        obtain hb | ⟨hMark, hPast⟩ := keeps_or_past b d
        · rw [place_front hb, place_front hKeeps]
        · rw [place_past hMark hPast, place_front hFront]
      · have hPast' := Nat.lt_trans hPast hLess
        rw [place_past hMark hPast, place_past hMark hPast',
          place_past hMark hPast, place_past hMark hPast', ih]

theorem ordered_append (cs ds : List Char) :
    ordered (cs ++ ds) = cs.foldr place (ordered ds) :=
  List.foldr_append

/-- What stands behind a text may be put in order first. -/
theorem ordered_append_congr {ds ds' : List Char} (cs : List Char)
    (h : ordered ds = ordered ds') :
    ordered (cs ++ ds) = ordered (cs ++ ds') := by
  rw [ordered_append, ordered_append, h]

/-- A mark may stand before others of lower classes as well as behind them. -/
theorem ordered_past {marks : List Char}
    (h : ∀ mark ∈ marks, markClass mark ≠ 0 ∧ markClass mark < markClass c)
    (cs : List Char) :
    ordered (c :: (marks ++ cs)) = ordered (marks ++ c :: cs) := by
  induction marks with
  | nil => rfl
  | cons mark marks ih =>
      obtain ⟨⟨hMark, hLess⟩, hRest⟩ := List.forall_mem_cons.mp h
      show place c (place mark (ordered (marks ++ cs))) =
            place mark (ordered (marks ++ c :: cs))
      rw [← place_comm hMark hLess, ← ih hRest]
      rfl

/-! ## Composing -/

/-- What becomes of a character that does not join the letter: it begins anew,
or it is one more mark. -/
def unjoined (letter : Char) (marks : List Char) (c : Char) (rest : List Char) :
    List Char :=
  if markClass c = 0 then letter :: marks.reverse ++ joined c [] rest
  else joined letter (c :: marks) rest

theorem joined_free {marks : List Char}
    (h : ∀ mark ∈ marks.head?, markClass mark < markClass c) (letter : Char)
    (rest : List Char) : joined letter marks (c :: rest) =
      match join? letter c with
      | some d => joined d marks rest
      | none => unjoined letter marks c rest := by
  cases marks with
  | nil => rfl
  | cons mark marks =>
      have hFree : decide (markClass c ≤ markClass mark) = false :=
        decide_eq_false (Nat.not_le_of_lt (h mark rfl))
      show (match if decide (markClass c ≤ markClass mark) = true then none
            else join? letter c with
        | some d => joined d (mark :: marks) rest
        | none => unjoined letter (mark :: marks) c rest) = _
      rw [hFree]
      rfl

theorem joined_apart {mark : Char} (h : markClass c ≤ markClass mark)
    (letter : Char) (marks rest : List Char) :
    joined letter (mark :: marks) (c :: rest) =
      unjoined letter (mark :: marks) c rest := by
  have hApart : decide (markClass c ≤ markClass mark) = true := decide_eq_true h
  show (match if decide (markClass c ≤ markClass mark) = true then none
        else join? letter c with
    | some d => joined d (mark :: marks) rest
    | none => unjoined letter (mark :: marks) c rest) = _
  rw [hApart]
  rfl

/-- What happens to the character behind a letter: it joins the letter past all
marks between, or it does not. -/
theorem joined_cons (letter : Char) (marks : List Char) (c : Char) :
    (∃ d, join? letter c = some d ∧
      (∀ mark ∈ marks.head?, markClass mark < markClass c) ∧
      ∀ rest, joined letter marks (c :: rest) = joined d marks rest) ∨
    ∀ rest, joined letter marks (c :: rest) = unjoined letter marks c rest := by
  by_cases hFree : ∀ mark ∈ marks.head?, markClass mark < markClass c
  · cases hJoin : join? letter c with
    | none => exact .inr fun rest => by rw [joined_free hFree, hJoin]
    | some d =>
        exact .inl ⟨d, rfl, hFree, fun rest => by rw [joined_free hFree, hJoin]⟩
  · cases marks with
    | nil => exact absurd nofun hFree
    | cons mark marks =>
        refine .inr (joined_apart (Nat.le_of_not_lt fun hLess => hFree ?_)
            letter marks)
        rintro _ ⟨⟩
        exact hLess

/-- The marks between a letter and what follows: none of them is a letter, they
are not taken apart, and, reversed, they are in the order of their classes. -/
structure Marks (marks : List Char) : Prop where
  class_ne_zero : ∀ mark ∈ marks, markClass mark ≠ 0
  atomic : ∀ mark ∈ marks, split? mark = none
  descending : marks.Pairwise fun mark mark' => markClass mark' ≤ markClass mark

theorem Marks.nil : Marks [] := ⟨nofun, nofun, .nil⟩

theorem Marks.cons {marks : List Char} (h : Marks marks)
    (hMark : markClass c ≠ 0) (hAtomic : split? c = none)
    (hKeeps : ∀ mark ∈ marks.head?, Keeps mark c) : Marks (c :: marks) := by
  refine ⟨List.forall_mem_cons.mpr ⟨hMark, h.class_ne_zero⟩,
    List.forall_mem_cons.mpr ⟨hAtomic, h.atomic⟩,
    List.pairwise_cons.mpr ⟨fun mark hMem => ?_, h.descending⟩⟩
  cases marks with
  | nil => cases hMem
  | cons last marks =>
      have hLast : markClass last ≤ markClass c :=
        (hKeeps last rfl).resolve_left hMark
      obtain rfl | hEarlier := List.mem_cons.mp hMem
      · exact hLast
      · exact Nat.le_trans ((List.pairwise_cons.mp h.descending).1 mark
            hEarlier) hLast

/-- A mark of a higher class than the last is of a higher class than all. -/
theorem Marks.lt {marks : List Char} (h : Marks marks)
    (hFree : ∀ mark ∈ marks.head?, markClass mark < markClass c) :
    ∀ mark ∈ marks.reverse, markClass mark ≠ 0 ∧
    markClass mark < markClass c := by
  intro mark hMem
  have hMem := List.mem_reverse.mp hMem
  refine ⟨h.class_ne_zero mark hMem, ?_⟩
  cases marks with
  | nil => cases hMem
  | cons last marks =>
      have hLast := hFree last rfl
      obtain rfl | hEarlier := List.mem_cons.mp hMem
      · exact hLast
      · exact Nat.lt_of_le_of_lt
          ((List.pairwise_cons.mp h.descending).1 mark hEarlier) hLast

theorem Marks.flatMap_parts {marks : List Char} (h : Marks marks)
    (letter : Char) :
    (letter :: marks.reverse).flatMap parts =
      parts letter ++ marks.reverse := by
  rw [List.flatMap_cons, flatMap_parts_of_none fun mark hMem =>
    h.atomic mark (List.mem_reverse.mp hMem)]

/-- **What is composed of a letter, its marks and the rest is taken apart into
these**, up to the order of marks. -/
theorem ordered_flatMap_joined {letter : Char} {marks rest : List Char}
    (hMarks : Marks marks) (hAtomic : ∀ c ∈ rest, split? c = none)
    (hOrder : InOrder rest)
    (hNext : ∀ mark ∈ marks.head?, ∀ c ∈ rest.head?, Keeps mark c) :
    ordered ((joined letter marks rest).flatMap parts) =
      ordered (parts letter ++ marks.reverse ++ rest) := by
  induction rest generalizing letter marks with
  | nil =>
      show ordered ((letter :: marks.reverse).flatMap parts) = _
      rw [List.append_nil, hMarks.flatMap_parts]
  | cons c rest ih =>
      obtain ⟨hc, hRest⟩ := List.forall_mem_cons.mp hAtomic
      obtain ⟨hAfter, hRestOrder⟩ := List.isChain_cons.mp hOrder
      obtain ⟨d, hJoin, hFree, hJoined⟩ | hUnjoined :=
        joined_cons letter marks c
      · -- the mark that joined stands behind all the others in the text, and
        -- before them in the letter
        have hSkip : ∀ mark ∈ marks.head?, ∀ e ∈ rest.head?, Keeps mark e := by
          intro mark hMark e he
          exact (hAfter e he).imp id
            (Nat.le_trans (Nat.le_of_lt (hFree mark hMark)))
        rw [hJoined, ih hMarks hRest hRestOrder hSkip,
          parts_of_split? (split?_of_join? hJoin)]
        rw [List.append_assoc, List.append_assoc, List.append_assoc]
        exact ordered_append_congr (parts letter)
          (ordered_past (hMarks.lt hFree) rest)
      · rw [hUnjoined]
        unfold unjoined
        split
        · have hInner : ordered ((joined c [] rest).flatMap parts) =
                ordered (parts c ++ [] ++ rest) :=
            ih Marks.nil hRest hRestOrder nofun
          rw [List.flatMap_append, hMarks.flatMap_parts]
          refine ordered_append_congr _ (hInner.trans ?_)
          rw [parts_of_none hc]
          rfl
        · next hMark =>
          have hKeeps : ∀ mark ∈ marks.head?, Keeps mark c := fun mark hMem =>
            hNext mark hMem c rfl
          have hFollows : ∀ mark ∈ (c :: marks).head?, ∀ e ∈ rest.head?,
              Keeps mark e := by
            rintro _ ⟨⟩
            exact hAfter
          rw [ih (hMarks.cons hMark hc hKeeps) hRest hRestOrder hFollows,
            List.reverse_cons, List.append_assoc, List.append_assoc,
            List.append_assoc]
          rfl

/-- A text in order is composed from its start. -/
def compose (cs : List Char) : List Char :=
  match cs with
  | [] => []
  | c :: rest => joined c [] rest

theorem composed_eq (cs : List Char) :
    composed cs = compose (ordered (cs.flatMap parts)) :=
  rfl

/-- The parts of the characters of a text, in order, are what its composed form
is taken apart into. -/
theorem ordered_flatMap_composed (cs : List Char) :
    ordered ((composed cs).flatMap parts) = ordered (cs.flatMap parts) := by
  have hOrder := inOrder_ordered (cs.flatMap parts)
  have hAtomic : ∀ c ∈ ordered (cs.flatMap parts), split? c = none := by
    intro c hc
    obtain ⟨d, -, hPart⟩ := List.mem_flatMap.mp (mem_ordered.mp hc)
    exact split?_of_mem_parts hPart
  rw [composed_eq]
  generalize ordered (cs.flatMap parts) = text at *
  cases text with
  | nil => rfl
  | cons c rest =>
      obtain ⟨hc, hRest⟩ := List.forall_mem_cons.mp hAtomic
      have hParts : ordered ((joined c [] rest).flatMap parts) =
            ordered (parts c ++ [] ++ rest) :=
        ordered_flatMap_joined Marks.nil hRest
          (List.isChain_cons.mp hOrder).2 nofun
      rw [parts_of_none hc] at hParts
      exact hParts.trans (ordered_eq_self hOrder)

/-- **The composed form of a composed form is the form itself.** -/
theorem composed_composed (cs : List Char) :
    composed (composed cs) = composed cs := by
  rw [composed_eq (composed cs), ordered_flatMap_composed, composed_eq]

/-! ## What is in a composed text -/

/-- What holds of the parts of a character that it holds of, and of what is
composed of two that it holds of, holds of a composed text if it holds of the
text. -/
theorem forall_mem_composed {P : Char → Prop}
    (hParts : ∀ {c a b}, Composed c a b → P c → P a ∧ P b)
    (hWhole : ∀ {c a b}, Composed c a b → P a → P b → P c) {cs : List Char}
    (h : ∀ c ∈ cs, P c) : ∀ c ∈ composed cs, P c := by
  have hDeep : ∀ depth c, P c → ∀ d ∈ partsWithin depth c, P d := by
    intro depth
    induction depth with
    | zero => exact fun c hc => List.forall_mem_singleton.mpr hc
    | succ depth ih =>
        intro c hc
        rw [partsWithin]
        split
        · next a b hSplit =>
          obtain ⟨ha, hb⟩ := hParts (composed_of_split? hSplit) hc
          exact List.forall_mem_append.mpr ⟨ih a ha,
            List.forall_mem_singleton.mpr hb⟩
        · exact List.forall_mem_singleton.mpr hc
  have hJoined : ∀ rest letter marks, P letter → (∀ mark ∈ marks, P mark) →
      (∀ c ∈ rest, P c) →
      ∀ c ∈ joined letter marks rest, P c := by
    intro rest
    induction rest with
    | nil =>
        intro letter marks hLetter hMarks _
        exact List.forall_mem_cons.mpr
          ⟨hLetter, fun c hc => hMarks c (List.mem_reverse.mp hc)⟩
    | cons c rest ih =>
        intro letter marks hLetter hMarks hRest
        obtain ⟨hc, hRest⟩ := List.forall_mem_cons.mp hRest
        obtain ⟨d, hJoin, -, hSame⟩ | hSame := joined_cons letter marks c
        · rw [hSame]
          exact ih d marks (hWhole (composed_of_join? hJoin) hLetter hc)
            hMarks hRest
        · rw [hSame]
          unfold unjoined
          split
          · refine List.forall_mem_append.mpr ⟨?_, ih c [] hc nofun hRest⟩
            exact List.forall_mem_cons.mpr
              ⟨hLetter, fun c hc => hMarks c (List.mem_reverse.mp hc)⟩
          · exact ih letter (c :: marks) hLetter
              (List.forall_mem_cons.mpr ⟨hc, hMarks⟩) hRest
  have hOrdered : ∀ c ∈ ordered (cs.flatMap parts), P c := by
    intro c hc
    obtain ⟨d, hd, hPart⟩ := List.mem_flatMap.mp (mem_ordered.mp hc)
    exact hDeep 3 d (h d hd) c hPart
  rw [composed_eq]
  generalize ordered (cs.flatMap parts) = text at hOrdered
  cases text with
  | nil => exact nofun
  | cons c rest =>
      obtain ⟨hc, hRest⟩ := List.forall_mem_cons.mp hOrdered
      exact hJoined rest c [] hc nofun hRest

/-- A composed text is of characters that stay, if the text is. -/
theorem stays_composed {cs : List Char} (h : ∀ c ∈ cs, stays c = true) :
    ∀ c ∈ composed cs, stays c = true :=
  forall_mem_composed (fun hComposed _ => (stays_of_composed hComposed).2)
    (fun hComposed _ _ => (stays_of_composed hComposed).1) h

/-- Composing makes no points. -/
theorem no_point_composed {cs : List Char} (h : '.' ∉ cs) :
    '.' ∉ composed cs := by
  refine fun hMem => forall_mem_composed (P := (· ≠ '.')) ?_ ?_ ?_ '.' hMem rfl
  · rintro c a b hComposed -
    obtain ⟨-, hb, ha⟩ := beyond_of_composed hComposed
    refine ⟨ha, ?_⟩
    rintro rfl
    exact absurd hb (by decide)
  · rintro c a b hComposed - -
    obtain ⟨hc, -⟩ := beyond_of_composed hComposed
    rintro rfl
    exact absurd hc (by decide)
  · rintro c hc rfl
    exact h hc

/-! ## Points -/

/-- The composed form of what follows a letter that nothing joins. -/
def composeRest : List Char → List Char
  | [] => []
  | c :: rest =>
    if markClass c = 0 then joined c [] rest
    else c :: composeRest rest

/-- A letter that nothing joins stays, and so do the marks behind it. -/
theorem joined_of_none {letter : Char} (h : ∀ c, join? letter c = none)
    (marks rest : List Char) :
    joined letter marks rest = letter :: marks.reverse ++ composeRest rest := by
  induction rest generalizing marks with
  | nil => exact (List.append_nil _).symm
  | cons c rest ih =>
      obtain ⟨d, hJoin, -⟩ | hUnjoined := joined_cons letter marks c
      · rw [h c] at hJoin
        cases hJoin
      · rw [hUnjoined, composeRest]
        unfold unjoined
        split
        · rfl
        · rw [ih, List.reverse_cons, List.cons_append, List.cons_append,
            List.append_assoc]
          rfl

theorem join?_eq_none (h : ∀ c, ¬ Composed c a b) : join? a b = none := by
  cases hJoin : join? a b with
  | none => rfl
  | some c => exact absurd (composed_of_join? hJoin) (h c)

/-- Nothing joins a mark. -/
theorem join?_mark (h : markClass a ≠ 0) (b : Char) : join? a b = none :=
  join?_eq_none fun _ hComposed => h (markClass_first hComposed)

/-- Nothing joins a point. -/
theorem join?_point (b : Char) : join? '.' b = none :=
  join?_eq_none fun _ hComposed => (beyond_of_composed hComposed).2.2 rfl

/-- The character is taken apart into nothing, joins nothing and is no mark. -/
structure Inert (c : Char) : Prop where
  atomic : split? c = none
  letter : markClass c = 0
  alone : ∀ a, join? a c = none

/-- ASCII characters are inert. -/
theorem inert_ascii (h : c.toNat < 0x80) : Inert c where
  atomic := by
    cases hSplit : split? c with
    | none => rfl
    | some p =>
        exact absurd (beyond_of_composed (composed_of_split? hSplit)).1
          (Nat.not_le_of_lt h)
  letter := markClass_ascii h
  alone _ := join?_eq_none fun _ hComposed =>
    Nat.not_le_of_lt h (beyond_of_composed hComposed).2.1

theorem inert_point : Inert '.' := inert_ascii (by decide)

theorem composeRest_eq (cs : List Char) : composeRest cs = compose cs := by
  cases cs with
  | nil => rfl
  | cons c rest =>
      rw [composeRest]
      split
      · rfl
      · next hMark => exact (joined_of_none (join?_mark hMark) [] rest).symm

/-- An inert character is put behind a letter and its marks. -/
theorem joined_inert (h : Inert c) (letter : Char) (marks rest : List Char) :
    joined letter marks (c :: rest) =
      letter :: marks.reverse ++ joined c [] rest := by
  obtain ⟨d, hJoin, -⟩ | hUnjoined := joined_cons letter marks c
  · rw [h.alone] at hJoin
    cases hJoin
  · rw [hUnjoined, unjoined, if_pos h.letter]

theorem joined_append_point (letter : Char) (marks cs ds : List Char) :
    joined letter marks (cs ++ '.' :: ds) = joined letter marks cs ++ '.' ::
      compose ds := by
  induction cs generalizing letter marks with
  | nil =>
      rw [List.nil_append, joined_inert inert_point, joined_of_none join?_point,
        composeRest_eq]
      rfl
  | cons c cs ih =>
      obtain ⟨d, -, -, hJoined⟩ | hUnjoined := joined_cons letter marks c
      · rw [List.cons_append, hJoined, hJoined, ih]
      · rw [List.cons_append, hUnjoined, hUnjoined]
        unfold unjoined
        split
        · rw [ih, List.append_assoc]
        · rw [ih]

theorem compose_append_point (cs ds : List Char) :
    compose (cs ++ '.' :: ds) = compose cs ++ '.' :: compose ds := by
  cases cs with
  | nil =>
      show joined '.' [] ds = _
      rw [joined_of_none join?_point, composeRest_eq]
      rfl
  | cons c cs => exact joined_append_point c [] cs ds

theorem place_append_point (c : Char) (cs ds : List Char) :
    place c (cs ++ '.' :: ds) = place c cs ++ '.' :: ds := by
  induction cs with
  | nil => exact place_front (.inl inert_point.letter) ds
  | cons d cs ih =>
      obtain hKeeps | ⟨hMark, hLess⟩ := keeps_or_past c d
      · rw [List.cons_append, place_front hKeeps, place_front hKeeps]
        rfl
      · rw [List.cons_append, place_past hMark hLess,
          place_past hMark hLess, ih]
        rfl

theorem ordered_append_point (cs ds : List Char) :
    ordered (cs ++ '.' :: ds) = ordered cs ++ '.' :: ordered ds := by
  induction cs with
  | nil => exact place_letter inert_point.letter (ordered ds)
  | cons c cs ih =>
      show place c (ordered (cs ++ '.' :: ds)) = _
      rw [ih, place_append_point]
      rfl

/-- **Composing goes label by label.** -/
theorem composed_append_point (cs ds : List Char) :
    composed (cs ++ '.' :: ds) = composed cs ++ '.' :: composed ds := by
  rw [composed_eq, List.flatMap_append, List.flatMap_cons,
    parts_of_none inert_point.atomic, List.singleton_append,
    ordered_append_point, compose_append_point]
  rfl

theorem composed_intercalate (labels : List (List Char)) :
    composed (['.'].intercalate labels) =
      ['.'].intercalate (labels.map composed) := by
  induction labels with
  | nil => rfl
  | cons label labels ih =>
      cases labels with
      | nil =>
          rw [List.intercalate_singleton, List.map_singleton,
            List.intercalate_singleton]
      | cons next labels =>
          rw [List.intercalate_cons_cons, List.append_assoc,
            List.singleton_append, composed_append_point, ih]
          simp only [List.map_cons, List.intercalate_cons_cons,
            List.append_assoc, List.singleton_append]

/-- **The labels of a composed text are composed.** -/
theorem composed_label {cs label : List Char} (h : composed cs = cs)
    (hLabel : label ∈ Chars.splitOn ['.'] cs) : composed label = label := by
  have hLabels : (Chars.splitOn ['.'] cs).map composed =
        Chars.splitOn ['.'] cs := by
    have hJoined := composed_intercalate (Chars.splitOn ['.'] cs)
    rw [Chars.intercalate_splitOn, h] at hJoined
    have hPlain : ∀ label ∈ (Chars.splitOn ['.'] cs).map composed,
        '.' ∉ label :=
      List.forall_mem_map.mpr fun label hLabel =>
        no_point_composed (Chars.separator_not_mem hLabel)
    have hSplit :=
      Chars.splitOn_intercalate hPlain
        (mt List.map_eq_nil_iff.mp (Chars.splitOn_ne_nil '.' cs))
    rwa [← hJoined, eq_comm] at hSplit
  exact List.map_inj_left.mp (hLabels.trans (List.map_id _).symm) label hLabel

/-- **Text of inert characters is composed.** -/
theorem composed_inert {cs : List Char} (h : ∀ c ∈ cs, Inert c) :
    composed cs = cs := by
  have hOrder : InOrder cs := by
    induction cs with
    | nil => exact .nil
    | cons c cs ih =>
        obtain ⟨hc, hRest⟩ := List.forall_mem_cons.mp h
        exact List.isChain_cons.mpr
          ⟨fun d hd => .inl (hRest d (List.mem_of_mem_head? hd)).letter,
            ih hRest⟩
  have hJoined : ∀ rest : List Char, (∀ c ∈ rest, Inert c) →
      ∀ letter, joined letter [] rest = letter :: rest := by
    intro rest hRest
    induction rest with
    | nil => exact fun _ => rfl
    | cons c rest ih =>
        intro letter
        obtain ⟨hc, hRest⟩ := List.forall_mem_cons.mp hRest
        rw [joined_inert hc, ih hRest]
        rfl
  rw [composed_eq, flatMap_parts_of_none fun c hc => (h c hc).atomic,
    ordered_eq_self hOrder]
  cases cs with
  | nil => rfl
  | cons c rest => exact hJoined rest (List.forall_mem_cons.mp h).2 c

/-- **ASCII text is composed.** -/
theorem composed_ascii {cs : List Char} (h : ∀ c ∈ cs, c.toNat < 0x80) :
    composed cs = cs :=
  composed_inert fun c hc => inert_ascii (h c hc)

end Errand.Domain
