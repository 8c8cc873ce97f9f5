import Mathlib.Algebra.Group.Nat.Defs
import Errand.Proofs.Text.Lowering
import Errand.Proofs.Text.Occurrence
import Errand.Web.Domain.Punycode

/-!
# Labels in ASCII are read back

The code of a text says, one after the other, where each character beyond ASCII
goes. Reading it back puts the characters in again in the same order, so after
each step the text holds the characters of the original that come no later: in
the order of code points, and from the left among equals (`upTo`). Numbers are
read back digit by digit, and what is read for each digit does not depend on
how large the number is.

## Main results

* `readFrom?_digitsFrom`: a number is read back.
* `decode?_encode`: a text is read back.
-/

namespace Errand.Punycode

/-! ## Digits -/

theorem digitValue?_digitChar :
    ∀ d < 36, digitValue? (digitChar d) = some d := by decide

/-- No digit is a hyphen, and all are ASCII. -/
theorem digitChar_plain : ∀ d < 36, digitChar d ≠ '-' ∧
    (digitChar d).toNat < 0x80 := by decide

/-- What is left of a number after its first digit. -/
theorem div_lt_of_threshold_le {bias k n : Nat} (h : ¬ n < threshold bias k) :
    (n - threshold bias k) / (36 - threshold bias k) < n := by
  have hLow := one_le_threshold bias k
  have hLess : (n - threshold bias k) / (36 - threshold bias k) ≤
        n - threshold bias k := Nat.div_le_self _ _
  omega

/-- Every digit of a number is one of the digits. -/
theorem exists_of_mem_digitsFrom {bias k n : Nat} {c : Char}
    (h : c ∈ digitsFrom bias k n) : ∃ d < 36, c = digitChar d := by
  have hHigh := threshold_le bias k
  induction n using Nat.strongRecOn generalizing k with
  | _ n ih =>
      rw [digitsFrom] at h
      split at h
      · next hLast => exact ⟨n, by omega, List.mem_singleton.mp h⟩
      · next hMore =>
        obtain rfl | hLater := List.mem_cons.mp h
        · have hMod : (n - threshold bias k) % (36 - threshold bias k) <
                36 - threshold bias k :=
            Nat.mod_lt _ (by omega)
          exact ⟨_, by omega, rfl⟩
        · exact ih _ (div_lt_of_threshold_le hMore) hLater (threshold_le bias _)

theorem digitsFrom_ne_nil (bias k n : Nat) : digitsFrom bias k n ≠ [] := by
  rw [digitsFrom]
  split <;> exact List.cons_ne_nil _ _

/-- **A number is read back**, in front of anything. -/
theorem readFrom?_digitsFrom {bias k weight n sum : Nat} (rest : List Char) :
    readFrom? bias k weight sum (digitsFrom bias k n ++ rest) =
      some (sum + n * weight, rest) := by
  induction n using Nat.strongRecOn generalizing k weight sum with
  | _ n ih =>
      have hHigh := threshold_le bias k
      rw [digitsFrom]
      split
      · next hLast =>
        rw [List.singleton_append, readFrom?,
          digitValue?_digitChar n (by omega)]
        show (if n < threshold bias k then some (sum + n * weight, rest)
              else _) = _
        rw [if_pos hLast]
      · next hMore =>
        have hLess := div_lt_of_threshold_le hMore
        have hMod : (n - threshold bias k) % (36 - threshold bias k) <
            36 - threshold bias k := Nat.mod_lt _ (by omega)
        have hDivMod :=
          Nat.mod_add_div (n - threshold bias k) (36 - threshold bias k)
        rw [List.cons_append, readFrom?, digitValue?_digitChar _ (by omega)]
        show (if threshold bias k +
              (n - threshold bias k) % (36 - threshold bias k) <
            threshold bias k then _ else
          readFrom? bias (k + 36) (weight * (36 - threshold bias k)) _ _) = _
        generalize threshold bias k = t at *
        generalize (n - t) / (36 - t) = later at *
        generalize hDigit : t + (n - t) % (36 - t) = digit at *
        have hParts : n = digit + (36 - t) * later := by omega
        have hWhole : n * weight =
              digit * weight + later * (weight * (36 - t)) := by
          rw [hParts, Nat.add_mul, Nat.mul_comm (36 - t) later, Nat.mul_assoc,
            Nat.mul_comm (36 - t) weight]
        rw [if_neg (by omega), ih later hLess, hWhole, Nat.add_assoc]

/-! ## The order of insertions -/

/-- A character of a text, with the number of those in front of it. -/
abbrev Spot := Char × Nat

/-- One character is inserted before another: it has the smaller code point, or
the same and stands farther left. -/
def Before (p q : Spot) : Prop :=
  p.1.toNat < q.1.toNat ∨ p.1.toNat = q.1.toNat ∧ p.2 < q.2

instance (p q : Spot) : Decidable (Before p q) :=
  inferInstanceAs (Decidable (_ ∨ _ ∧ _))

theorem Before.trans {p q r : Spot} (h : Before p q) (h' : Before q r) :
    Before p r := by
  unfold Before at *
  omega

theorem Before.asymm {p q : Spot} (h : Before p q) : ¬ Before q p := by
  unfold Before at *
  omega

/-- The characters beyond ASCII, in the order in which they are inserted. -/
def inOrder (cs : List Char) : List Spot :=
  (cs.zipIdx.filter fun p => 0x80 ≤ p.1.toNat).mergeSort fun p q =>
    p.1.toNat ≤ q.1.toNat

/-- The place of an insertion: the number of characters before it that are
there already. -/
def placeOf (cs : List Char) (q : Spot) : Nat := (cs.take q.2).countP fun d =>
    d.toNat ≤ q.1.toNat

theorem insertions_eq (cs : List Char) :
    insertions cs = (inOrder cs).map fun q => (q.1.toNat, placeOf cs q) := rfl

theorem pairwise_zipIdx (cs : List Char) (n : Nat) :
    (cs.zipIdx n).Pairwise fun p q => p.2 < q.2 := by
  have hIndices : ((cs.zipIdx n).map Prod.snd).Pairwise (· < ·) := by
    rw [List.zipIdx_map_snd]
    exact List.pairwise_lt_range'
  exact List.pairwise_map.mp hIndices

/-- Two characters of a text stand in it in the order of their places. -/
theorem sublist_of_lt {l : List Spot} (h : l.Pairwise fun p q => p.2 < q.2)
    {p q : Spot} (hp : p ∈ l) (hq : q ∈ l) (hLess : p.2 < q.2) :
    [p, q].Sublist l := by
  induction l with
  | nil => cases hp
  | cons r l ih =>
      obtain ⟨hFirst, hRest⟩ := List.pairwise_cons.mp h
      obtain rfl | hpLater := List.mem_cons.mp hp
      · obtain rfl | hqLater := List.mem_cons.mp hq
        · exact absurd hLess (Nat.lt_irrefl _)
        · exact (List.singleton_sublist.mpr hqLater).cons_cons _
      · obtain rfl | hqLater := List.mem_cons.mp hq
        · exact absurd (hFirst p hpLater) (Nat.lt_asymm hLess)
        · exact (ih hRest hpLater hqLater).cons r

/-- Two entries of a list without repetitions come in one order only. -/
theorem not_sublist_of_nodup {l : List Spot} (h : l.Nodup) {p q : Spot}
    (hSub : [p, q].Sublist l) : ¬ [q, p].Sublist l := by
  intro hOther
  induction l with
  | nil => cases hSub
  | cons r l ih =>
      obtain ⟨hNew, hNodup⟩ := List.nodup_cons.mp h
      cases hSub with
      | cons _ hSub =>
          cases hOther with
          | cons _ hOther => exact ih hNodup hSub hOther
          | cons_cons _ hOther =>
              exact hNew
                (hSub.subset (List.mem_cons_of_mem _ List.mem_cons_self))
      | cons_cons _ hSub =>
          cases hOther with
          | cons _ hOther =>
              exact hNew (hOther.subset
                  (List.mem_cons_of_mem _ List.mem_cons_self))
          | cons_cons _ hOther => exact hNew (List.singleton_sublist.mp hOther)

/-- **The insertions come in their order**: sorting keeps the order of equal
code points. -/
theorem pairwise_inOrder (cs : List Char) : (inOrder cs).Pairwise Before := by
  have hTrans : ∀ p q r : Spot, decide (p.1.toNat ≤ q.1.toNat) →
      decide (q.1.toNat ≤ r.1.toNat) →
      decide (p.1.toNat ≤ r.1.toNat) := by
    simp only [decide_eq_true_eq]
    omega
  have hTotal : ∀ p q : Spot, decide (p.1.toNat ≤ q.1.toNat) ||
        decide (q.1.toNat ≤ p.1.toNat) := by
    intro p q
    simp only [Bool.or_eq_true, decide_eq_true_eq]
    omega
  let beyond := cs.zipIdx.filter fun p : Spot => 0x80 ≤ p.1.toNat
  have hPlaces : beyond.Pairwise fun p q => p.2 < q.2 :=
    (pairwise_zipIdx cs 0).filter _
  have hPerm : (inOrder cs).Perm beyond := List.mergeSort_perm _ _
  have hDistinct : beyond.Nodup := by
    refine hPlaces.imp ?_
    rintro p q hLess rfl
    exact Nat.lt_irrefl _ hLess
  have hNodup : (inOrder cs).Nodup := hPerm.nodup_iff.mpr hDistinct
  refine List.pairwise_iff_forall_sublist.mpr fun {p q} hSub => ?_
  have hLe : p.1.toNat ≤ q.1.toNat :=
    of_decide_eq_true (List.pairwise_iff_forall_sublist.mp
        (List.pairwise_mergeSort hTrans hTotal beyond) hSub)
  have hp : p ∈ beyond := hPerm.subset (hSub.subset List.mem_cons_self)
  have hq : q ∈ beyond :=
    hPerm.subset (hSub.subset (List.mem_cons_of_mem p List.mem_cons_self))
  obtain hLess | hSame := Nat.lt_or_eq_of_le hLe
  · exact .inl hLess
  · refine .inr ⟨hSame, Nat.lt_of_not_le fun hBack => ?_⟩
    obtain hBack | hEqual := Nat.lt_or_eq_of_le hBack
    · have hSwapped : [q, p].Sublist (inOrder cs) :=
        List.pair_sublist_mergeSort hTrans hTotal
        (decide_eq_true (Nat.le_of_eq hSame.symm))
          (sublist_of_lt hPlaces hq hp hBack)
      exact not_sublist_of_nodup hNodup hSub hSwapped
    · have hChar : q.1 = p.1 := Char.toNat_inj.mp hSame.symm
      obtain rfl : q = p := Prod.ext hChar hEqual
      exact not_sublist_of_nodup hNodup hSub hSub

theorem mem_inOrder {cs : List Char} {p : Spot} : p ∈ inOrder cs ↔
    p ∈ cs.zipIdx ∧ 0x80 ≤ p.1.toNat := by
  rw [inOrder, (List.mergeSort_perm _ _).mem_iff, List.mem_filter,
    decide_eq_true_eq]

/-! ## The text between insertions -/

/-- The characters that are there before the one at a spot is inserted. -/
def upTo (cs : List Char) (q : Spot) : List Char :=
  (cs.zipIdx.filter fun p => Before p q).map Prod.fst

/-- The characters that are there after the one at a spot is inserted. -/
def through (cs : List Char) (q : Spot) : List Char :=
  (cs.zipIdx.filter fun p => Before p q ∨ p = q).map Prod.fst

/-- The characters that are there when the insertions of a list are still to
come. -/
def present (cs : List Char) : (rest : List Spot) → List Char
  | [] => cs
  | q :: _ => upTo cs q

theorem map_fst_filter_zipIdx (cs : List Char) (n : Nat) {P : Spot → Bool}
    {f : Char → Bool} (h : ∀ p ∈ cs.zipIdx n, P p = f p.1) :
    ((cs.zipIdx n).filter P).map Prod.fst = cs.filter f := by
  have hSame : (cs.zipIdx n).filter P = (cs.zipIdx n).filter (f ∘ Prod.fst) :=
    List.filter_congr h
  rw [hSame, ← List.filter_map, List.zipIdx_map_fst]

/-- A character of a text, with what is before and behind it. -/
theorem exists_split {cs : List Char} {q : Spot} (h : q ∈ cs.zipIdx) :
    ∃ back, cs = cs.take q.2 ++ q.1 :: back ∧ (cs.take q.2).length = q.2 := by
  obtain ⟨hLess, hChar⟩ := List.mem_zipIdx' h
  refine ⟨cs.drop (q.2 + 1), ?_, List.length_take_of_le (Nat.le_of_lt hLess)⟩
  rw [hChar, ← List.drop_eq_getElem_cons hLess, List.take_append_drop]

/-- **An insertion puts the character behind as many others as its place
says.** -/
theorem exists_insertion {cs : List Char} {q : Spot} (h : q ∈ cs.zipIdx) :
    ∃ front back, upTo cs q = front ++ back ∧
    through cs q = front ++ q.1 :: back ∧ front.length = placeOf cs q := by
  obtain ⟨back, hSplit, hLength⟩ := exists_split h
  obtain ⟨c, n⟩ := q
  have hSpots : cs.zipIdx = (cs.take n).zipIdx ++ (c, n) ::
        back.zipIdx (n + 1) := by
    conv =>
      lhs
      rw [hSplit, List.zipIdx_append, hLength, List.zipIdx_cons, Nat.zero_add]
  have hFront : ∀ p ∈ (cs.take n).zipIdx, p.2 < n := by
    intro p hp
    have hLess := List.snd_lt_of_mem_zipIdx hp
    rwa [hLength, Nat.add_zero] at hLess
  have hBack : ∀ p ∈ back.zipIdx (n + 1), n < p.2 := fun p hp =>
    List.le_snd_of_mem_zipIdx hp
  refine ⟨(cs.take n).filter (·.toNat ≤ c.toNat),
    back.filter (·.toNat < c.toNat), ?_, ?_, ?_⟩
  · rw [upTo, hSpots, List.filter_append, List.map_append,
      List.filter_cons_of_neg (by simp [Before])]
    congr 1
    · refine map_fst_filter_zipIdx _ _ fun p hp => decide_eq_decide.mpr ?_
      have hLess := hFront p hp
      simp only [Before]
      omega
    · refine map_fst_filter_zipIdx _ _ fun p hp => decide_eq_decide.mpr ?_
      have hLess := hBack p hp
      simp only [Before]
      omega
  · rw [through, hSpots, List.filter_append, List.map_append,
      List.filter_cons_of_pos (by simp), List.map_cons]
    congr 2
    · refine map_fst_filter_zipIdx _ _ fun p hp => decide_eq_decide.mpr ?_
      have hLess := hFront p hp
      have hNe : p ≠ (c, n) := by
        rintro rfl
        exact Nat.lt_irrefl n hLess
      simp only [Before, hNe, or_false]
      omega
    · refine map_fst_filter_zipIdx _ _ fun p hp => decide_eq_decide.mpr ?_
      have hLess := hBack p hp
      have hNe : p ≠ (c, n) := by
        rintro rfl
        exact Nat.lt_irrefl n hLess
      simp only [Before, hNe, or_false]
      omega
  · exact List.countP_eq_length_filter.symm

/-- Between two insertions nothing is inserted. -/
theorem through_eq_present {cs : List Char} {done rest : List Spot} {q : Spot}
    (h : inOrder cs = done ++ q :: rest) : through cs q = present cs rest := by
  have hOrder := pairwise_inOrder cs
  rw [h] at hOrder
  obtain ⟨-, hRest, hDone⟩ := List.pairwise_append.mp hOrder
  obtain ⟨hLater, hRest⟩ := List.pairwise_cons.mp hRest
  have hBeyond : 0x80 ≤ q.1.toNat :=
    (mem_inOrder.mp (h ▸ List.mem_append_right done List.mem_cons_self)).2
  -- a character is there already, is the one at the spot, or comes later
  have hCases : ∀ p ∈ cs.zipIdx, Before p q ∨ p = q ∨ p ∈ rest := by
    intro p hp
    by_cases hAscii : p.1.toNat < 0x80
    · exact .inl (.inl (Nat.lt_of_lt_of_le hAscii hBeyond))
    · have hMem : p ∈ done ++ q :: rest :=
        h ▸ mem_inOrder.mpr ⟨hp, Nat.le_of_not_lt hAscii⟩
      obtain hMem | hMem := List.mem_append.mp hMem
      · exact .inl (hDone p hMem q List.mem_cons_self)
      · exact .inr (List.mem_cons.mp hMem)
  cases rest with
  | nil =>
      have hAll : (cs.zipIdx.filter fun p => decide (Before p q ∨ p = q)) =
            cs.zipIdx := by
        refine List.filter_eq_self.mpr fun p hp => decide_eq_true ?_
        obtain hBefore | hSame | hNone := hCases p hp
        · exact .inl hBefore
        · exact .inr hSame
        · cases hNone
      rw [through, hAll, List.zipIdx_map_fst]
      rfl
  | cons next rest =>
      have hNext : Before q next := hLater next List.mem_cons_self
      have hSame : (cs.zipIdx.filter fun p => decide (Before p q ∨ p = q)) =
          cs.zipIdx.filter fun p => decide (Before p next) := by
        refine List.filter_congr fun p hp =>
          decide_eq_decide.mpr ⟨?_, fun hBefore => ?_⟩
        · rintro (hBefore | rfl)
          · exact hBefore.trans hNext
          · exact hNext
        · obtain hBefore' | hSame | hMem := hCases p hp
          · exact .inl hBefore'
          · exact .inr hSame
          · obtain rfl | hMem := List.mem_cons.mp hMem
            · exact absurd hBefore hBefore.asymm
            · exact absurd hBefore ((List.pairwise_cons.mp hRest).1 p
                  hMem).asymm
      rw [through, hSame]
      rfl

/-! ## Whole texts -/

/-- The number of (code point, place) pairs that are passed over on the way to
an insertion. -/
def deltaTo (p : Progress) (codePoint place : Nat) : Nat :=
  (codePoint - p.codePoint) * (p.length + 1) + place - p.place

/-- The insertion comes next in order. -/
structure Reachable (p : Progress) (code at_ : Nat) : Prop where
  notBefore : p.codePoint ≤ code
  ahead : p.codePoint = code → p.place ≤ at_
  inside : p.place ≤ p.length ∧ at_ ≤ p.length

theorem Reachable.place_add_deltaTo {p : Progress} {code at_ : Nat}
    (h : Reachable p code at_) :
    p.place + deltaTo p code at_ =
      (p.length + 1) * (code - p.codePoint) + at_ := by
  obtain ⟨hCode, hAhead, hInside⟩ := h
  unfold deltaTo
  rw [Nat.mul_comm (code - p.codePoint)]
  obtain hLess | hSame := Nat.lt_or_eq_of_le hCode
  · have hOne : (p.length + 1) * 1 ≤ (p.length + 1) * (code - p.codePoint) :=
      Nat.mul_le_mul_left _ (by omega)
    omega
  · have hPlace := hAhead hSame
    omega

/-- **An insertion that was written is made.** -/
theorem read?_insertion {p : Progress} {c : Char} {front back : List Char}
    (h : Reachable p c.toNat front.length) (later : List Char) :
    read? p (front ++ back) (digitsFrom p.bias 36
      (deltaTo p c.toNat front.length) ++ later) =
      read? (p.after c.toNat front.length (deltaTo p c.toNat front.length))
        (front ++ c :: back) later := by
  have hDelta := h.place_add_deltaTo
  generalize deltaTo p c.toNat front.length = delta at *
  have hRead : readFrom? p.bias 36 1 0 (digitsFrom p.bias 36 delta ++ later) =
    some (delta, later) := by
    rw [readFrom?_digitsFrom later, Nat.mul_one, Nat.zero_add]
  have hSome : (digitsFrom p.bias 36 delta ++ later).isEmpty = false := by
    rw [List.isEmpty_eq_false_iff]
    exact fun hNil => digitsFrom_ne_nil _ _ _ (List.append_eq_nil_iff.mp hNil).1
  have hPlace : front.length < p.length + 1 := Nat.lt_succ_of_le h.inside.2
  have hDiv : (p.place + delta) / (p.length + 1) = c.toNat - p.codePoint := by
    rw [hDelta, Nat.mul_add_div (Nat.succ_pos _), Nat.div_eq_of_lt hPlace,
      Nat.add_zero]
  have hMod : (p.place + delta) % (p.length + 1) = front.length := by
    rw [hDelta, Nat.mul_add_mod, Nat.mod_eq_of_lt hPlace]
  have hCode : p.codePoint + (c.toNat - p.codePoint) = c.toNat :=
    Nat.add_sub_of_le h.notBefore
  rw [read?, hSome, if_neg Bool.false_ne_true]
  split
  · next hNone => cases hNone.symm.trans hRead
  · next delta' later' hSome' =>
    cases hSome'.symm.trans hRead
    have hValid : c.toNat.isValidChar := c.valid
    simp only [hDiv, hMod, hCode]
    rw [if_pos hValid, List.take_left, List.drop_left, Char.ofNat_toNat]

/-- Of two equal characters, the one farther to the right has the larger
place. -/
theorem placeOf_lt {cs : List Char} {q next : Spot} (hq : q ∈ cs.zipIdx)
    (hSame : q.1.toNat = next.1.toNat) (hLess : q.2 < next.2) :
    placeOf cs q < placeOf cs next := by
  obtain ⟨hIndex, hChar⟩ := List.mem_zipIdx' hq
  have hTake : cs.take (q.2 + 1) = cs.take q.2 ++ [q.1] := by
    rw [hChar, List.take_append_getElem hIndex]
  have hSub : (cs.take (q.2 + 1)).Sublist (cs.take next.2) :=
    (List.take_prefix_take_left hLess).sublist
  have hCount : (cs.take (q.2 + 1)).countP (·.toNat ≤ next.1.toNat) ≤
        (cs.take next.2).countP (·.toNat ≤ next.1.toNat) :=
    hSub.countP_le
  rw [hTake, List.countP_append, List.countP_singleton,
    if_pos (decide_eq_true (Nat.le_of_eq hSame))] at hCount
  unfold placeOf
  rw [hSame]
  omega

/-- The progress is that in front of the insertions that are left. -/
structure Ready (cs : List Char) (p : Progress) (q : Spot) : Prop where
  length : p.length = (upTo cs q).length
  notBefore : p.codePoint ≤ q.1.toNat
  ahead : p.codePoint = q.1.toNat → p.place ≤ placeOf cs q
  inside : p.place ≤ p.length

/-- **The insertions that are left are made.** The induction is on these. -/
theorem read?_write {cs : List Char} {done rest : List Spot}
    (h : inOrder cs = done ++ rest) {p : Progress}
    (hReady : ∀ q ∈ rest.head?, Ready cs p q) :
    read? p (present cs rest) (write p
      (rest.map fun q => (q.1.toNat, placeOf cs q))) = some cs := by
  induction rest generalizing done p with
  | nil =>
      rw [read?]
      rfl
  | cons q rest ih =>
      have hq : q ∈ cs.zipIdx :=
        (mem_inOrder.mp (h ▸ List.mem_append_right done List.mem_cons_self)).1
      obtain ⟨hPresent, hNotBefore, hAhead, hInside⟩ := hReady q rfl
      obtain ⟨front, back, hUpTo, hThrough, hPlace⟩ := exists_insertion hq
      rw [hUpTo, List.length_append] at hPresent
      have hReachable : Reachable p q.1.toNat front.length :=
        ⟨hNotBefore, hPlace ▸ hAhead, hInside, by omega⟩
      have hNext : present cs rest = front ++ q.1 :: back := by
        rw [← through_eq_present h, hThrough]
      show read? p (upTo cs q) (digitsFrom p.bias 36
            (deltaTo p q.1.toNat (placeOf cs q)) ++ write _ _) = _
      rw [hUpTo, ← hPlace, read?_insertion hReachable, ← hNext]
      have hSplit : inOrder cs = (done ++ [q]) ++ rest := by
        rw [h, List.append_assoc, List.singleton_append]
      refine ih hSplit fun next hHead => ?_
      obtain ⟨rest', rfl⟩ := List.head?_eq_some_iff.mp hHead
      have hOrder := pairwise_inOrder cs
      rw [h] at hOrder
      have hLater : Before q next :=
        (List.pairwise_cons.mp (List.pairwise_append.mp hOrder).2.1).1
          next List.mem_cons_self
      constructor
      case length =>
        show p.length + 1 = (present cs (next :: rest')).length
        rw [hNext, List.length_append, List.length_cons]
        omega
      case notBefore =>
        show q.1.toNat ≤ next.1.toNat
        unfold Before at hLater
        omega
      case ahead =>
        intro hSame
        show front.length + 1 ≤ placeOf cs next
        rw [hPlace]
        refine placeOf_lt hq hSame ?_
        have hCode : q.1.toNat = next.1.toNat := hSame
        unfold Before at hLater
        omega
      case inside =>
        show front.length + 1 ≤ p.length + 1
        omega

/-- Everything written for insertions is a digit. -/
theorem exists_of_mem_write {p : Progress} {insertions : List (Nat × Nat)}
    {c : Char} (h : c ∈ write p insertions) : ∃ d < 36, c = digitChar d := by
  induction insertions generalizing p with
  | nil => cases h
  | cons insertion rest ih =>
      obtain hDigit | hLater := List.mem_append.mp h
      · exact exists_of_mem_digitsFrom hDigit
      · exact ih hLater

/-- The digits of a list of insertions hold no hyphen, and they are ASCII. -/
theorem plain_write {p : Progress} {insertions : List (Nat × Nat)} {c : Char}
    (h : c ∈ write p insertions) : c ≠ '-' ∧ c.toNat < 0x80 := by
  obtain ⟨d, hSmall, rfl⟩ := exists_of_mem_write h
  exact digitChar_plain d hSmall

/-- The characters of a text that are ASCII, which stand in front. -/
def basic (cs : List Char) : List Char := cs.filter fun c => c.toNat < 0x80

theorem encode_eq (cs : List Char) : encode cs =
    basic cs ++ (if (basic cs).isEmpty then [] else ['-']) ++
      write (.start (basic cs).length) (insertions cs) := rfl

/-- A code is written in the ASCII characters of the text, hyphens and
digits. -/
theorem mem_encode {cs : List Char} {c : Char} (h : c ∈ encode cs) :
    (c ∈ cs ∧ c.toNat < 0x80) ∨ c = '-' ∨ ∃ d < 36, c = digitChar d := by
  rw [encode_eq] at h
  obtain hFront | hDigit := List.mem_append.mp h
  · obtain hBasic | hHyphen := List.mem_append.mp hFront
    · obtain ⟨hMem, hAscii⟩ := List.mem_filter.mp hBasic
      exact .inl ⟨hMem, of_decide_eq_true hAscii⟩
    · split at hHyphen
      · cases hHyphen
      · exact .inr (.inl (List.mem_singleton.mp hHyphen))
  · exact .inr (.inr (exists_of_mem_write hDigit))

/-- The text before the first insertion is that of the ASCII characters. -/
theorem present_inOrder (cs : List Char) :
    present cs (inOrder cs) = basic cs := by
  cases hOrder : inOrder cs with
  | nil =>
      refine (List.filter_eq_self.mpr fun c hc =>
          decide_eq_true (Nat.lt_of_not_le fun hBeyond => ?_)).symm
      obtain ⟨n, hn⟩ := List.getElem?_of_mem hc
      have hMem : (c, n) ∈ inOrder cs :=
        mem_inOrder.mpr ⟨List.mk_mem_zipIdx_iff_getElem?.mpr hn, hBeyond⟩
      rw [hOrder] at hMem
      cases hMem
  | cons q rest =>
      have hPairwise := pairwise_inOrder cs
      rw [hOrder] at hPairwise
      have hq : q ∈ inOrder cs := hOrder ▸ List.mem_cons_self
      have hBeyond := (mem_inOrder.mp hq).2
      refine map_fst_filter_zipIdx cs 0 fun p hp =>
        decide_eq_decide.mpr ⟨fun hBefore => ?_, fun hAscii => ?_⟩
      · refine Nat.lt_of_not_le fun hBeyond => ?_
        have hMem : p ∈ inOrder cs := mem_inOrder.mpr ⟨hp, hBeyond⟩
        rw [hOrder] at hMem
        obtain rfl | hLater := List.mem_cons.mp hMem
        · exact hBefore.asymm hBefore
        · exact hBefore.asymm ((List.pairwise_cons.mp hPairwise).1 p hLater)
      · exact .inl (Nat.lt_of_lt_of_le hAscii hBeyond)

/-- In front of the first insertion nothing has been made. -/
theorem ready_start (cs : List Char) :
    ∀ q ∈ (inOrder cs).head?, Ready cs (.start (basic cs).length) q := by
  intro q hHead
  obtain ⟨rest, hOrder⟩ := List.head?_eq_some_iff.mp hHead
  have hPresent := present_inOrder cs
  rw [hOrder] at hPresent
  exact {
    length := congrArg List.length hPresent.symm
    notBefore := (mem_inOrder.mp (hOrder ▸ List.mem_cons_self)).2
    ahead := fun _ => Nat.zero_le _
    inside := Nat.zero_le _ }

/-- The code is cut at the last hyphen, and where there is none, nothing in it
is ASCII. -/
theorem cut_encode (cs : List Char) :
    ((Chars.breakAt? ['-'] (encode cs).reverse).getD
        ((encode cs).reverse, [])) =
    ((write (.start (basic cs).length) (insertions cs)).reverse,
      (basic cs).reverse) := by
  have hNone :
      '-' ∉ (write (.start (basic cs).length) (insertions cs)).reverse :=
    fun hMem => (plain_write (List.mem_reverse.mp hMem)).1 rfl
  rw [encode_eq]
  cases hBasic : basic cs with
  | nil =>
      rw [hBasic] at hNone
      have hBreak := Chars.breakAt?_of_head_not_mem hNone [] []
      rw [List.append_nil] at hBreak
      show (Chars.breakAt? ['-'] (write _ _).reverse).getD _ = _
      rw [hBreak]
      rfl
  | cons c front =>
      rw [hBasic] at hNone
      have hBreak :=
        Chars.breakAt?_of_head_not_mem hNone [] ('-' :: (c :: front).reverse)
      rw [show Chars.breakAt? ['-'] ('-' :: (c :: front).reverse) =
        some ([], (c :: front).reverse) from
        Chars.breakAt?_self ['-'] _] at hBreak
      show (Chars.breakAt? ['-']
            ((c :: front) ++ ['-'] ++ write _ _).reverse).getD _ = _
      rw [List.reverse_append, List.reverse_append, List.reverse_singleton,
        List.singleton_append, hBreak]
      simp

/-- **A text is read back.** -/
theorem decode?_encode (cs : List Char) : decode? (encode cs) = some cs := by
  have hHyphen : ¬ ((encode cs).head? = some '-' ∧
        (basic cs).isEmpty = true) := by
    rintro ⟨hHead, hEmpty⟩
    obtain ⟨rest, hEncode⟩ := List.head?_eq_some_iff.mp hHead
    rw [encode_eq, List.isEmpty_iff.mp hEmpty] at hEncode
    have hDigits : write (.start 0) (insertions cs) = '-' :: rest := hEncode
    exact (plain_write (hDigits ▸ List.mem_cons_self)).1 rfl
  have hAscii : (basic cs).any (fun c => decide (0x80 ≤ c.toNat)) = false := by
    refine List.any_eq_false.mpr fun c hc => ?_
    have hSmall : c.toNat < 0x80 := of_decide_eq_true (List.mem_filter.mp hc).2
    simpa using hSmall
  unfold decode?
  simp only [cut_encode, List.reverse_reverse, hAscii, hHyphen,
    Bool.false_eq_true, or_false, if_false]
  have hSplit : inOrder cs = [] ++ inOrder cs := rfl
  have hRead := read?_write hSplit (ready_start cs)
  rwa [present_inOrder, ← insertions_eq] at hRead

/-! ## What is read -/

/-- Reading insertions puts no ASCII characters in. -/
theorem mem_of_read? {p : Progress} {text digits cs : List Char}
    (h : read? p text digits = some cs) (hBeyond : 0x80 ≤ p.codePoint) :
    ∀ c ∈ cs, c.toNat < 0x80 → c ∈ text := by
  induction hLength : digits.length using Nat.strongRecOn
    generalizing p text digits with
  | _ n ih =>
      rw [read?] at h
      split at h
      · obtain rfl := Option.some.inj h
        exact fun c hc _ => hc
      · split at h
        · cases h
        · next delta rest hRead =>
          dsimp only at h
          split at h
          · next hValid =>
            have hLess := length_lt_of_readFrom? hRead
            have hLater : 0x80 ≤ p.codePoint +
                  (p.place + delta) / (p.length + 1) :=
              Nat.le_trans hBeyond (Nat.le_add_right _ _)
            intro c hc hAscii
            have hMem :=
              ih rest.length (hLength ▸ hLess) h hLater rfl c hc hAscii
            obtain hFront | hBack := List.mem_append.mp hMem
            · exact List.mem_of_mem_take hFront
            · obtain rfl | hBack := List.mem_cons.mp hBack
              · rw [Chars.toNat_ofNat hValid] at hAscii
                omega
              · exact List.mem_of_mem_drop hBack
          · cases h

/-- **The ASCII characters of a text stand in its code.** -/
theorem mem_of_decode? {code cs : List Char} (h : decode? code = some cs) :
    ∀ c ∈ cs, c.toNat < 0x80 → c ∈ code := by
  unfold decode? at h
  dsimp only at h
  split at h
  · cases h
  · intro c hc hAscii
    have hBasic := mem_of_read? h (Nat.le_refl _) c hc hAscii
    cases hBreak : Chars.breakAt? ['-'] code.reverse with
    | none =>
        rw [hBreak] at hBasic
        cases hBasic
    | some p =>
        obtain ⟨tail, front⟩ := p
        rw [hBreak] at hBasic
        have hText := Chars.eq_of_breakAt? hBreak
        have hMem : c ∈ code.reverse :=
          hText ▸ List.mem_append_right _ (List.mem_reverse.mp hBasic)
        exact List.mem_reverse.mp hMem

end Errand.Punycode
