import Errand.Text.Pattern

/-!
# Matching does what patterns mean

`Pattern.Matches` says which texts a pattern covers, without an order of
trying; `Pattern.matchAt` tries. This file proves that the two agree: what is
found is covered, and where something is covered, something is found. So
`replaceAll` leaves a text alone exactly if the pattern does not occur in it.

For that a pattern has to be **solid**: whatever it covers begins with a
character that is not blank. Then no match is empty, and a replacement by a
blank takes something away.

## Main results

* `exists_of_go`, `isSome_go`: matching is sound and complete.
* `Replaced`: what a text with its matches replaced is made of.
* `replaceAll_eq_self`: a text in which the pattern does not occur is left
  alone.
* `weight_replaceAll_lt`: a text in which it occurs loses characters that are
  not blank.
* `foldl_replaceAll_eq_self_iff`: so a text is left alone by several patterns
  exactly if none occurs in it.
-/

namespace Errand.Pattern

/-! ## Places -/

@[simp] theorem lastOf_nil (before : Option Char) :
    lastOf before [] = before :=
  rfl

@[simp] theorem lastOf_cons (before : Option Char) (c : Char) (cs : List Char) :
    lastOf before (c :: cs) = lastOf (some c) cs := by
  unfold lastOf
  cases cs with
  | nil => rfl
  | cons d ds =>
      rw [List.getLast?_cons_cons]
      cases hLast : (d :: ds).getLast? <;> simp_all

theorem lastOf_append (before : Option Char) (cs ds : List Char) :
    lastOf before (cs ++ ds) = lastOf (lastOf before cs) ds := by
  induction cs generalizing before with
  | nil => rfl
  | cons c cs ih => rw [List.cons_append, lastOf_cons, lastOf_cons, ih]

theorem lastOf_none (cs : List Char) : lastOf none cs = cs.getLast? := by
  unfold lastOf
  cases cs.getLast? <;> rfl

/-! ## Soundness and completeness -/

section Runs

variable {α : Type} {greedy : Bool} {p : Char → Bool} {k : Place → Option α}

theorem exists_of_runFrom {before : Option Char} {rest : List Char} {r : α}
    (h : runFrom greedy p k before rest = some r) :
    ∃ cs tl, rest = cs ++ tl ∧ (∀ c ∈ cs, p c = true) ∧
    k ⟨lastOf before cs, tl⟩ = some r := by
  induction rest generalizing before with
  | nil => exact ⟨[], [], rfl, nofun, h⟩
  | cons c rest ih =>
      by_cases hc : p c = true
      · have hCase : runFrom greedy p k (some c) rest = some r ∨
            k ⟨before, c :: rest⟩ = some r := by
          simp only [runFrom, hc, if_true] at h
          cases greedy with
          | true => exact (Option.or_eq_some_iff.mp h).imp id And.right
          | false =>
              simp only [Bool.false_eq_true, if_false] at h
              split at h
              · next a hHere => exact .inr (hHere.trans h)
              · exact .inl h
        rcases hCase with hLater | hHere
        · obtain ⟨cs, tl, rfl, hCs, hk⟩ := ih hLater
          refine ⟨c :: cs, tl, rfl, List.forall_mem_cons.mpr ⟨hc, hCs⟩, ?_⟩
          rw [lastOf_cons]
          exact hk
        · exact ⟨[], c :: rest, rfl, nofun, hHere⟩
      · simp only [runFrom, hc, if_false, Bool.false_eq_true] at h
        exact ⟨[], c :: rest, rfl, nofun, h⟩

theorem isSome_runFrom {before : Option Char} {cs tl : List Char}
    (hCs : ∀ c ∈ cs, p c = true) (hk : (k ⟨lastOf before cs, tl⟩).isSome) :
    (runFrom greedy p k before (cs ++ tl)).isSome := by
  induction cs generalizing before with
  | nil =>
      cases tl with
      | nil => exact hk
      | cons c tl =>
          rw [lastOf_nil] at hk
          simp only [List.nil_append, runFrom]
          cases greedy <;> grind
  | cons c cs ih =>
      obtain ⟨hc, hCs⟩ := List.forall_mem_cons.mp hCs
      rw [lastOf_cons] at hk
      have hLater := ih hCs hk
      simp only [List.cons_append, runFrom, hc, if_true]
      cases greedy <;> grind

end Runs

/-- What matching finds is covered, and is what the continuation accepted. -/
theorem exists_of_go {α : Type} (x : Pattern) {place : Place}
    {groups : List (List Char)} {k : Place → List (List Char) → Option α}
    {r : α} (h : go x place groups k = some r) :
    ∃ cs tl groups', place.rest = cs ++ tl ∧
    Matches x place.before cs tl.head? ∧
      k ⟨lastOf place.before cs, tl⟩ groups' = some r := by
  induction x generalizing place groups k with
  | nothing => exact ⟨[], place.rest, groups, rfl, .nothing, h⟩
  | one p =>
      unfold go at h
      split at h
      · cases h
      · next c cs hRest =>
          split at h
          · next hc => exact ⟨[c], cs, groups, hRest, .one hc, h⟩
          · cases h
  | run greedy p =>
      obtain ⟨cs, tl, hRest, hCs, hk⟩ := exists_of_runFrom h
      exact ⟨cs, tl, groups, hRest, .run hCs, hk⟩
  | boundary =>
      unfold go at h
      split at h
      · next hBoundary =>
          exact ⟨[], place.rest, groups, rfl, .boundary hBoundary, h⟩
      · cases h
  | seq x y ihx ihy =>
      obtain ⟨cs, tl, groups₁, hRest, hx, hGo⟩ := ihx h
      obtain ⟨ds, tl', groups₂, rfl, hy, hk⟩ := ihy hGo
      rw [List.head?_append] at hx
      refine ⟨cs ++ ds, tl', groups₂, by rw [hRest, List.append_assoc],
        .seq hx hy, ?_⟩
      rw [lastOf_append]
      exact hk
  | alt x y ihx ihy =>
      unfold go at h
      split at h
      · next r' hFirst =>
          obtain rfl := Option.some.inj h
          obtain ⟨cs, tl, groups', hRest, hx, hk⟩ := ihx hFirst
          exact ⟨cs, tl, groups', hRest, .left hx, hk⟩
      · obtain ⟨cs, tl, groups', hRest, hy, hk⟩ := ihy h
        exact ⟨cs, tl, groups', hRest, .right hy, hk⟩
  | group x ih =>
      obtain ⟨cs, tl, groups', hRest, hx, hk⟩ := ih h
      exact ⟨cs, tl, _, hRest, .group hx, hk⟩

/-- Where a pattern covers something that the continuation accepts, matching
finds something. -/
theorem isSome_go {α : Type} (x : Pattern) {before : Option Char}
    {cs tl : List Char} (h : Matches x before cs tl.head?)
    (groups : List (List Char)) {k : Place → List (List Char) → Option α}
    (hk : ∀ groups', (k ⟨lastOf before cs, tl⟩ groups').isSome) :
    (go x ⟨before, cs ++ tl⟩ groups k).isSome := by
  induction x generalizing before cs tl groups k with
  | nothing =>
      cases h
      exact hk groups
  | one p =>
      cases h with
      | one hc =>
          simp only [List.cons_append, List.nil_append, go, hc, if_true]
          exact hk groups
  | run greedy p =>
      cases h with
      | run hCs => exact isSome_runFrom hCs (hk groups)
  | boundary =>
      cases h with
      | boundary hBoundary =>
          simp only [List.nil_append, go, hBoundary, if_true]
          exact hk groups
  | seq x y ihx ihy =>
      cases h with
      | seq hx hy =>
          rename_i cs ds
          rw [← List.head?_append] at hx
          rw [List.append_assoc]
          refine ihx hx groups fun groups' => ihy hy groups' fun groups'' => ?_
          rw [← lastOf_append]
          exact hk groups''
  | alt x y ihx ihy =>
      simp only [go]
      cases h with
      | left hx =>
          obtain ⟨r, hr⟩ := Option.isSome_iff_exists.mp (ihx hx groups hk)
          rw [hr]
          rfl
      | right hy =>
          split
          · rfl
          · exact ihy hy groups hk
  | group x ih =>
      cases h with
      | group hx => exact ih hx groups fun groups' => hk _

/-! ## Solid patterns -/

/-- Whatever the pattern covers begins with a character that is not blank. -/
def Solid (p : Pattern) : Prop :=
  ∀ before cs after, Matches p before cs after → ∃ c rest, cs = c :: rest ∧
    Chars.isBlank c = false

namespace Solid

theorem one {p : Char → Bool} (h : ∀ c, p c = true → Chars.isBlank c = false) :
    Solid (.one p) := by
  intro before cs after hMatch
  cases hMatch with
  | one hc => exact ⟨_, [], rfl, h _ hc⟩

theorem seq {x : Pattern} (h : Solid x) (y : Pattern) : Solid (.seq x y) := by
  intro before cs after hMatch
  cases hMatch with
  | seq hx hy =>
      obtain ⟨c, rest, rfl, hc⟩ := h _ _ _ hx
      exact ⟨c, _, rfl, hc⟩

theorem inOrder {p : Pattern} (h : Solid p) (ps : List Pattern) :
    Solid (Pattern.inOrder (p :: ps)) := by
  cases ps with
  | nil => exact h
  | cons q ps => exact h.seq _

/-- Single characters of which the first is not blank. -/
theorem characters {α : Type} (kind : α → Char → Bool) {as : List α}
    (hNonempty : as ≠ [])
    (h : ∀ a ∈ as, ∀ c, kind a c = true → Chars.isBlank c = false) :
    Solid (Pattern.inOrder (as.map fun a => .one (kind a))) := by
  obtain ⟨a, as, rfl⟩ := List.exists_cons_of_ne_nil hNonempty
  exact (one (h a List.mem_cons_self)).inOrder _

/-- A boundary covers nothing, so a pattern that begins with one begins with
what comes behind it. -/
theorem boundary_seq {y : Pattern} (h : Solid y) :
    Solid (.seq .boundary y) := by
  intro before cs after hMatch
  cases hMatch with
  | seq hx hy =>
      cases hx
      exact h _ _ _ hy

end Solid

section Replacing

variable {p : Pattern} {new : List Char}

/-- The match that is found at a place covers so many characters. -/
theorem exists_of_matchAt {before : Option Char} {cs : List Char} {m : Match}
    (h : matchAt p before cs = some m) :
    ∃ ds tl, cs = ds ++ tl ∧ Matches p before ds tl.head? ∧
    m.length = ds.length := by
  obtain ⟨ds, tl, groups, hRest, hMatch, hk⟩ := exists_of_go p h
  obtain rfl := Option.some.inj hk
  refine ⟨ds, tl, hRest, hMatch, ?_⟩
  show cs.length - tl.length = ds.length
  rw [show cs = ds ++ tl from hRest, List.length_append, Nat.add_sub_cancel]

theorem isSome_properMatchAt (hSolid : Solid p) {before : Option Char}
    {ds tl : List Char} (h : Matches p before ds tl.head?) :
    (properMatchAt p before (ds ++ tl)).isSome := by
  obtain ⟨m, hFound⟩ := Option.isSome_iff_exists.mp
    (isSome_go p h [] (k := fun place groups =>
      some (⟨(ds ++ tl).length - place.rest.length, groups.reverse⟩ : Match))
        fun _ => rfl)
  obtain ⟨ds', tl', -, hMatch, hLength⟩ := exists_of_matchAt (p := p) hFound
  obtain ⟨c, rest, rfl, -⟩ := hSolid _ _ _ hMatch
  have hProper : 0 < m.length := hLength ▸ Nat.succ_pos _
  show ((matchAt p before (ds ++ tl)).filter _).isSome
  rw [show matchAt p before (ds ++ tl) = some m from hFound, Option.filter_some,
    if_pos (by simpa using hProper)]
  rfl

theorem replaceFrom_skip (before : Option Char) (ds tl : List Char) :
    replaceFrom p new ds.length before (ds ++ tl) =
      replaceFrom p new 0 (lastOf before ds) tl := by
  induction ds generalizing before with
  | nil => rfl
  | cons d ds ih =>
      rw [lastOf_cons]
      exact ih (some d)

/-- What a text with its matches replaced is made of: from the left, the
characters where no match begins, and the replacement for every match that is
found. -/
inductive Replaced (p : Pattern) (new : List Char) : Option Char → List Char →
    List Char → Prop where
  | done {before} : Replaced p new before [] []
  | keep {before c cs out}
      (hNone : ∀ ds tl, c :: cs = ds ++ tl → ¬ Matches p before ds tl.head?)
      (hRest : Replaced p new (some c) cs out) :
      Replaced p new before (c :: cs) (c :: out)
  | take {before ds tl out} (hMatch : Matches p before ds tl.head?)
      (hRest : Replaced p new (lastOf before ds) tl out) :
      Replaced p new before (ds ++ tl) (new ++ out)

theorem replaced_replaceFrom (hSolid : Solid p) (before : Option Char)
    (cs : List Char) :
    Replaced p new before cs (replaceFrom p new 0 before cs) := by
  -- A match takes several characters at once, so the induction is on the
  -- length of what is left.
  induction hLength : cs.length using Nat.strongRecOn
    generalizing before cs with
  | ind n ih =>
      cases cs with
      | nil => exact .done
      | cons c cs =>
          unfold replaceFrom
          split
          · next m hFound =>
              have hMatchAt := (Option.filter_eq_some_iff.mp hFound).1
              obtain ⟨ds, tl, hSplit, hMatch, hCovered⟩ :=
                exists_of_matchAt hMatchAt
              obtain ⟨d, ds, rfl, -⟩ := hSolid _ _ _ hMatch
              rw [List.cons_append] at hSplit
              obtain ⟨rfl, rfl⟩ := List.cons.inj hSplit
              rw [hCovered, List.length_cons, Nat.add_sub_cancel,
                replaceFrom_skip, ← lastOf_cons before]
              refine .take hMatch (ih tl.length ?_ _ tl rfl)
              rw [← hLength, List.length_cons, List.length_append]
              omega
          · next hNone =>
              refine .keep (fun ds tl hSplit hMatch => ?_)
                (ih cs.length ?_ _ cs rfl)
              · have hSome := isSome_properMatchAt hSolid hMatch
                rw [← hSplit, hNone] at hSome
                cases hSome
              · rw [← hLength, List.length_cons]
                exact Nat.lt_succ_self _

/-- The pattern covers some part of the text that stands behind `before`. -/
def OccursFrom (p : Pattern) (before : Option Char) (text : List Char) : Prop :=
  ∃ pre cs post, text = pre ++ cs ++ post ∧
    Matches p (lastOf before pre) cs post.head?

theorem occurs_iff_occursFrom (text : List Char) : Occurs p text ↔
    OccursFrom p none text := by
  simp only [Occurs, OccursFrom, lastOf_none]

theorem occursFrom_cons {before : Option Char} {c : Char} {cs : List Char}
    (h : OccursFrom p before (c :: cs)) :
    (∃ ds tl, c :: cs = ds ++ tl ∧ Matches p before ds tl.head?) ∨
    OccursFrom p (some c) cs := by
  obtain ⟨pre, ds, post, hText, hMatch⟩ := h
  cases pre with
  | nil => exact .inl ⟨ds, post, hText, hMatch⟩
  | cons d pre =>
      obtain ⟨rfl, rfl⟩ := List.cons.inj hText
      rw [lastOf_cons] at hMatch
      exact .inr ⟨pre, ds, post, rfl, hMatch⟩

theorem OccursFrom.later {before : Option Char} {c : Char} {cs : List Char}
    (h : OccursFrom p (some c) cs) : OccursFrom p before (c :: cs) := by
  obtain ⟨pre, ds, post, rfl, hMatch⟩ := h
  refine ⟨c :: pre, ds, post, rfl, ?_⟩
  rw [lastOf_cons]
  exact hMatch

/-- How many characters of a text are not blank. -/
def weight (cs : List Char) : Nat := cs.countP fun c => !Chars.isBlank c

/-- The characters of a text that are not blank, in order. -/
def solids (cs : List Char) : List Char := cs.filter fun c => !Chars.isBlank c

theorem solids_append (cs ds : List Char) :
    solids (cs ++ ds) = solids cs ++ solids ds :=
  List.filter_append ..

theorem length_solids (cs : List Char) : (solids cs).length = weight cs :=
  List.countP_eq_length_filter.symm

theorem solids_of_weight {cs : List Char} (h : weight cs = 0) :
    solids cs = [] :=
  List.eq_nil_of_length_eq_zero ((length_solids cs).trans h)

namespace Replaced

variable {before : Option Char} {cs out : List Char}

theorem eq_self (h : Replaced p new before cs out)
    (hNot : ¬ OccursFrom p before cs) : out = cs := by
  induction h with
  | done => rfl
  | keep hNone hRest ih => rw [ih fun hLater => hNot hLater.later]
  | @take before ds tl out hMatch hRest ih =>
      exact absurd ⟨[], ds, tl, rfl, hMatch⟩ hNot

/-- Nothing comes in but by the replacement. -/
theorem mem (h : Replaced p new before cs out) {c : Char} (hc : c ∈ out) :
    c ∈ new ∨ c ∈ cs := by
  induction h with
  | done => exact .inr hc
  | keep hNone hRest ih =>
      rcases List.mem_cons.mp hc with rfl | hc
      · exact .inr List.mem_cons_self
      · exact (ih hc).imp_right (List.mem_cons_of_mem _)
  | take hMatch hRest ih =>
      rcases List.mem_append.mp hc with hc | hc
      · exact .inl hc
      · exact (ih hc).imp_right (List.mem_append_right _)

/-- A replacement by blanks takes characters away and keeps the order of the
others. -/
theorem solids_sublist (h : Replaced p new before cs out)
    (hNew : weight new = 0) : (solids out).Sublist (solids cs) := by
  induction h with
  | done => exact List.Sublist.refl _
  | @keep before c cs out hNone hRest ih =>
      rw [← List.singleton_append, ← List.singleton_append (l := cs),
        solids_append, solids_append]
      exact ih.append_left (solids [c])
  | @take before ds tl out hMatch hRest ih =>
      rw [solids_append, solids_append, solids_of_weight hNew, List.nil_append]
      exact ih.trans (List.sublist_append_right (solids ds) (solids tl))

theorem weight_le (h : Replaced p new before cs out) (hNew : weight new = 0) :
    weight out ≤ weight cs := by
  rw [← length_solids, ← length_solids]
  exact (h.solids_sublist hNew).length_le

theorem weight_lt (hSolid : Solid p) (h : Replaced p new before cs out)
    (hNew : weight new = 0) (hOccurs : OccursFrom p before cs) :
    weight out < weight cs := by
  induction h with
  | done =>
      obtain ⟨pre, ds, post, hText, hMatch⟩ := hOccurs
      obtain ⟨c, rest, rfl, -⟩ := hSolid _ _ _ hMatch
      simp at hText
  | keep hNone hRest ih =>
      rcases occursFrom_cons hOccurs with ⟨ds, tl, hSplit, hMatch⟩ | hLater
      · exact absurd hMatch (hNone ds tl hSplit)
      · unfold weight at *
        rw [List.countP_cons, List.countP_cons]
        exact Nat.add_lt_add_right (ih hLater) _
  | take hMatch hRest ih =>
      obtain ⟨c, rest, rfl, hc⟩ := hSolid _ _ _ hMatch
      have hLe := hRest.weight_le hNew
      unfold weight at *
      rw [List.countP_append, List.countP_append, hNew,
        List.countP_cons_of_pos (by simp [hc])]
      omega

end Replaced

/-! ## Replacing by blanks -/

theorem replaceAll_eq_self (hSolid : Solid p) {cs : List Char}
    (h : ¬ Occurs p cs) : replaceAll p new cs = cs :=
  (replaced_replaceFrom hSolid none cs).eq_self fun hOccurs =>
    h ((occurs_iff_occursFrom cs).mpr hOccurs)

theorem weight_replaceAll_lt (hSolid : Solid p) (hNew : weight new = 0)
    {cs : List Char} (h : Occurs p cs) :
    weight (replaceAll p new cs) < weight cs :=
  (replaced_replaceFrom hSolid none cs).weight_lt hSolid hNew
    ((occurs_iff_occursFrom cs).mp h)

theorem mem_foldl_replaceAll {ps : List Pattern} (hSolid : ∀ p ∈ ps, Solid p)
    {cs : List Char} {c : Char}
    (hc : c ∈ ps.foldl (fun cs p => p.replaceAll new cs) cs) :
    c ∈ new ∨ c ∈ cs := by
  induction ps generalizing cs with
  | nil => exact .inr hc
  | cons p ps ih =>
      obtain ⟨hp, hps⟩ := List.forall_mem_cons.mp hSolid
      exact (ih hps hc).elim .inl fun hMem =>
        (replaced_replaceFrom hp none cs).mem hMem

/-- Solid patterns that are replaced by blanks take characters away and keep
the order of the others. -/
theorem solids_foldl_replaceAll {ps : List Pattern} (hSolid : ∀ p ∈ ps, Solid p)
    (hNew : weight new = 0) (cs : List Char) :
    (solids (ps.foldl (fun cs p => p.replaceAll new cs) cs)).Sublist
      (solids cs) := by
  induction ps generalizing cs with
  | nil => exact List.Sublist.refl _
  | cons p ps ih =>
      obtain ⟨hp, hps⟩ := List.forall_mem_cons.mp hSolid
      exact (ih hps _).trans
        ((replaced_replaceFrom hp none cs).solids_sublist hNew)

theorem weight_foldl_replaceAll_le {ps : List Pattern}
    (hSolid : ∀ p ∈ ps, Solid p) (hNew : weight new = 0) (cs : List Char) :
    weight (ps.foldl (fun cs p => p.replaceAll new cs) cs) ≤ weight cs := by
  rw [← length_solids, ← length_solids]
  exact (solids_foldl_replaceAll hSolid hNew cs).length_le

/-- Solid patterns that are replaced by blanks, one after the other, leave a
text alone exactly if none of them occurs in it. -/
theorem foldl_replaceAll_eq_self_iff {ps : List Pattern}
    (hSolid : ∀ p ∈ ps, Solid p) (hNew : weight new = 0) (cs : List Char) :
    ps.foldl (fun cs p => p.replaceAll new cs) cs = cs ↔
    ∀ p ∈ ps, ¬ Occurs p cs := by
  induction ps with
  | nil => exact ⟨fun _ => nofun, fun _ => rfl⟩
  | cons p ps ih =>
      obtain ⟨hp, hps⟩ := List.forall_mem_cons.mp hSolid
      rw [List.foldl_cons, List.forall_mem_cons]
      by_cases hOccurs : Occurs p cs
      · refine ⟨fun hSame => ?_, fun h => absurd hOccurs h.1⟩
        have hLess := Nat.lt_of_le_of_lt
          (weight_foldl_replaceAll_le hps hNew (replaceAll p new cs))
            (weight_replaceAll_lt hp hNew hOccurs)
        rw [hSame] at hLess
        exact absurd hLess (Nat.lt_irrefl _)
      · rw [replaceAll_eq_self hp hOccurs, ih hps]
        exact ⟨fun h => ⟨hOccurs, h⟩, And.right⟩

end Replacing

end Errand.Pattern
