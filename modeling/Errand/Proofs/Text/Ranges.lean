import Errand.Text.Table.Ranges

/-!
# Search trees for ranges

A table of characters is a list that is gone through from its start. That is
slow where something is to be decided for every entry of another table. A
`RangeTree` holds the same ranges in a tree. An `Index` is a tree for ranges
that are increasing: what is found in it is in one of the ranges, and what is
not found is in none.

## Main results

* `inRanges_iff`: a code point is in increasing ranges exactly if one of them
  holds it.
* `RangeTree.toRanges_build`: a tree that was built holds the ranges that it
  was built from.
* `Index.within_of_covers`, `Index.covers_iff`: what is found in an index is in
  one of its ranges.
-/

namespace Errand.Text.Table

/-! ## Lists of ranges -/

theorem Increasing.tail {r : Nat × Nat} {rs : List (Nat × Nat)}
    (h : Increasing (r :: rs)) : Increasing rs := by
  cases rs with
  | nil => trivial
  | cons _ _ => exact h.2.2

theorem Increasing.le {lo hi : Nat} {rs : List (Nat × Nat)}
    (h : Increasing ((lo, hi) :: rs)) : lo ≤ hi := by
  cases rs with
  | nil => exact h
  | cons _ _ => exact h.1

/-- All later ranges begin behind the end of the first. -/
theorem Increasing.lt {lo hi : Nat} {rs : List (Nat × Nat)}
    (h : Increasing ((lo, hi) :: rs)) : ∀ r ∈ rs, hi < r.1 := by
  induction rs generalizing lo hi with
  | nil => exact nofun
  | cons next rs ih =>
      obtain ⟨-, hNext, hRest⟩ := h
      refine List.forall_mem_cons.mpr ⟨hNext, fun r hr => ?_⟩
      have hLater := ih hRest r hr
      have hLe := hRest.le
      omega

theorem Increasing.pairwise {rs : List (Nat × Nat)} (h : Increasing rs) :
    rs.Pairwise fun r r' => r.2 < r'.1 := by
  induction rs with
  | nil => exact .nil
  | cons r rs ih => exact List.pairwise_cons.mpr ⟨h.lt, ih h.tail⟩

theorem Increasing.forall_le {rs : List (Nat × Nat)} (h : Increasing rs) :
    ∀ r ∈ rs, r.1 ≤ r.2 := by
  induction rs with
  | nil => exact nofun
  | cons r rs ih => exact List.forall_mem_cons.mpr ⟨h.le, ih h.tail⟩

/-- The code point is in one of the ranges. -/
def Within (n : Nat) (rs : List (Nat × Nat)) : Prop :=
  ∃ r ∈ rs, r.1 ≤ n ∧ n ≤ r.2

theorem within_cons {n : Nat} {r : Nat × Nat} {rs : List (Nat × Nat)} :
    Within n (r :: rs) ↔ (r.1 ≤ n ∧ n ≤ r.2) ∨ Within n rs := by
  simp only [Within, List.mem_cons, or_and_right, exists_or, exists_eq_left]

theorem within_append {n : Nat} {rs rs' : List (Nat × Nat)} :
    Within n (rs ++ rs') ↔ Within n rs ∨ Within n rs' := by
  constructor
  · rintro ⟨r, hr, hIn⟩
    obtain hLeft | hRight := List.mem_append.mp hr
    · exact .inl ⟨r, hLeft, hIn⟩
    · exact .inr ⟨r, hRight, hIn⟩
  · rintro (⟨r, hr, hIn⟩ | ⟨r, hr, hIn⟩)
    · exact ⟨r, List.mem_append_left rs' hr, hIn⟩
    · exact ⟨r, List.mem_append_right rs hr, hIn⟩

/-- **A code point is in increasing ranges exactly if one of them holds it.** -/
theorem inRanges_iff {n : Nat} {rs : List (Nat × Nat)} (h : Increasing rs) :
    inRanges n rs = true ↔ Within n rs := by
  induction rs with
  | nil => exact ⟨nofun, fun ⟨_, hr, _⟩ => nomatch hr⟩
  | cons r rs ih =>
      obtain ⟨lo, hi⟩ := r
      have hLe := h.le
      have hLater := h.lt
      rw [inRanges, within_cons, ← ih h.tail]
      split
      · next hBelow =>
        refine ⟨nofun, ?_⟩
        rintro (⟨hLow, -⟩ | hRest)
        · omega
        · obtain ⟨r, hr, hFrom, -⟩ := (ih h.tail).mp hRest
          have hBehind := hLater r hr
          omega
      · next hFrom =>
        rw [Bool.or_eq_true, decide_eq_true_eq]
        exact or_congr_left ⟨fun hTo => ⟨Nat.le_of_not_lt hFrom, hTo⟩,
          And.right⟩

/-! ## Trees of ranges -/

/-- Ranges in a tree. -/
inductive RangeTree where
  | leaf
  | node (left : RangeTree) (lo hi : Nat) (right : RangeTree)

namespace RangeTree

/-- All code points from `lo` to `hi` are found in one of the ranges. -/
def covers (lo hi : Nat) : RangeTree → Bool
  | leaf => false
  | node left lo' hi' right =>
    bif Nat.ble lo' lo then bif Nat.ble lo hi' then Nat.ble hi hi'
    else right.covers lo hi else left.covers lo hi

/-- The ranges from the left to the right. -/
def toRanges : RangeTree → List (Nat × Nat)
  | leaf => []
  | node left lo hi right => left.toRanges ++ (lo, hi) :: right.toRanges

/-- A tree of at most the given depth, filled from the start of a list, and
what is left of the list. -/
def build : (depth : Nat) → List (Nat × Nat) → RangeTree × List (Nat × Nat)
  | 0, rs => (leaf, rs)
  | depth + 1, rs =>
    match build depth rs with
    | (left, []) => (left, [])
    | (left, (lo, hi) :: rest) =>
      match build depth rest with
      | (right, rest) => (node left lo hi right, rest)

/-- **A tree that was built holds the ranges that it was built from.** -/
theorem toRanges_build (depth : Nat) (rs : List (Nat × Nat)) :
    (build depth rs).1.toRanges ++ (build depth rs).2 = rs := by
  induction depth generalizing rs with
  | zero => rfl
  | succ depth ih =>
      have hLeft := ih rs
      rw [build]
      split
      · next left hBuild =>
        rw [hBuild] at hLeft
        exact hLeft
      · next left lo hi rest hBuild =>
        have hRight := ih rest
        rw [hBuild] at hLeft
        rw [← hRight] at hLeft
        simpa [toRanges] using hLeft

theorem toRanges_of_build {depth : Nat} {rs : List (Nat × Nat)}
    (h : (build depth rs).2 = []) : (build depth rs).1.toRanges = rs := by
  have hAll := toRanges_build depth rs
  rwa [h, List.append_nil] at hAll

/-- What is found in a tree is in one of its ranges. -/
theorem within_of_covers {t : RangeTree} {lo hi n : Nat}
    (h : t.covers lo hi = true) (hFrom : lo ≤ n) (hTo : n ≤ hi) :
    Within n t.toRanges := by
  induction t with
  | leaf => cases h
  | node left lo' hi' right ihLeft ihRight =>
      rw [toRanges, within_append, within_cons]
      unfold covers at h
      cases hLow : Nat.ble lo' lo with
      | false =>
          rw [hLow] at h
          exact .inl (ihLeft h)
      | true =>
          rw [hLow] at h
          cases hHigh : Nat.ble lo hi' with
          | false =>
              rw [hHigh] at h
              exact .inr (.inr (ihRight h))
          | true =>
              rw [hHigh] at h
              have hFrom' := Nat.le_of_ble_eq_true hLow
              have hTo' := Nat.le_of_ble_eq_true h
              exact .inr (.inl (by dsimp only; omega))

theorem covers_of_pairwise {t : RangeTree}
    (hOrder : t.toRanges.Pairwise fun r r' => r.2 < r'.1)
    (hSome : ∀ r ∈ t.toRanges, r.1 ≤ r.2) {n : Nat} (h : Within n t.toRanges) :
    t.covers n n = true := by
  induction t with
  | leaf =>
      obtain ⟨r, hr, -⟩ := h
      cases hr
  | node left lo hi right ihLeft ihRight =>
      obtain ⟨hLeft, hMiddle, hAcross⟩ := List.pairwise_append.mp hOrder
      obtain ⟨hBehind, hRight⟩ := List.pairwise_cons.mp hMiddle
      obtain ⟨hSomeLeft, hSomeMiddle⟩ := List.forall_mem_append.mp hSome
      obtain ⟨hLoHi, hSomeRight⟩ := List.forall_mem_cons.mp hSomeMiddle
      dsimp only at hLoHi
      rw [toRanges, within_append, within_cons] at h
      unfold covers
      cases hLow : Nat.ble lo n with
      | false =>
          have hBelow : ¬ lo ≤ n :=
            Nat.not_le_of_not_ble_eq_true
              (by rw [hLow]; exact Bool.false_ne_true)
          obtain hIn | ⟨hFrom, -⟩ | ⟨r, hr, hFrom, -⟩ := h
          · exact ihLeft hLeft hSomeLeft hIn
          · exact absurd hFrom hBelow
          · have hLater := hBehind r hr
            dsimp only at hLater
            omega
      | true =>
          have hFrom := Nat.le_of_ble_eq_true hLow
          cases hHigh : Nat.ble n hi with
          | true => rfl
          | false =>
              have hAbove : ¬ n ≤ hi :=
                Nat.not_le_of_not_ble_eq_true
                  (by rw [hHigh]; exact Bool.false_ne_true)
              obtain ⟨r, hr, -, hTo⟩ | ⟨-, hTo⟩ | hIn := h
              · have hEarlier := hAcross r hr (lo, hi) List.mem_cons_self
                dsimp only at hEarlier
                omega
              · exact absurd hTo hAbove
              · exact ihRight hRight hSomeRight hIn

end RangeTree

/-! ## Indexes -/

/-- Increasing ranges in a tree. -/
structure Index (rs : List (Nat × Nat)) where
  tree : RangeTree
  increasing : Increasing rs
  toRanges : tree.toRanges = rs

namespace Index

variable {rs : List (Nat × Nat)} {n : Nat}

/-- The index of increasing ranges that a tree of the given depth has room
for. -/
def build (depth : Nat) (hOrder : Increasing rs)
    (hRoom : (RangeTree.build depth rs).2 = []) : Index rs where
  tree := (RangeTree.build depth rs).1
  increasing := hOrder
  toRanges := RangeTree.toRanges_of_build hRoom

/-- All code points from `lo` to `hi` are found in one of the ranges. -/
def covers (t : Index rs) (lo hi : Nat) : Bool := t.tree.covers lo hi

theorem within_of_covers {t : Index rs} {lo hi : Nat}
    (h : t.covers lo hi = true) (hFrom : lo ≤ n) (hTo : n ≤ hi) :
    Within n rs := by
  have hWithin := RangeTree.within_of_covers h hFrom hTo
  rwa [t.toRanges] at hWithin

/-- **A code point is found in an index exactly if one of the ranges holds
it.** -/
theorem covers_iff {t : Index rs} : t.covers n n = true ↔ Within n rs := by
  refine ⟨fun h => within_of_covers h (Nat.le_refl n) (Nat.le_refl n),
    fun h => ?_⟩
  have hOrder := t.increasing
  rw [← t.toRanges] at h hOrder
  exact RangeTree.covers_of_pairwise hOrder.pairwise hOrder.forall_le h

theorem covers_eq_false_iff {t : Index rs} : t.covers n n = false ↔
    ¬ Within n rs := by
  rw [← covers_iff (t := t), Bool.not_eq_true]

end Index

end Errand.Text.Table
