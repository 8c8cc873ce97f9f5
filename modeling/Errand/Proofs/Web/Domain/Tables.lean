import Errand.Proofs.Text.Lowering
import Errand.Proofs.Text.Ranges
import Errand.Web.Domain.Label

/-!
# What the tables of domain characters promise

The form of a domain name is stable because its tables fit together: what
stands for a character stays as it is, what a character is taken apart into
stays, the second part of a character is never taken apart, and so on. Each
such promise is decided for all entries of its table, with indexes in place of
the lists, and is then stated for characters; the Korean syllables, which are
in no table, keep the same promises by arithmetic.

## Main results

* `stays_of_mapChar?`: what stands for a character stays.
* `split?_of_join?`: a composed character is taken apart into what it was
  composed of.
* `split?_second`, `split?_first`: how far a character can be taken apart.
* `stays_of_composed`: taking apart and composing lead to characters that stay.
* `markClass_first`: nothing joins a mark.
-/

namespace Errand.Domain

open Text.Table

/-! ## Runs with values -/

/-- The code points of runs that have a value. -/
def rangesOfRuns {α : Type} (runs : List (Nat × Nat × α)) : List (Nat × Nat) :=
  runs.map fun e => (e.1, e.1 + e.2.1 - 1)

/-- A code point that is in no run has no value. -/
theorem valueAt?_entriesOf {α : Type} {runs : List (Nat × Nat × α)} {n : Nat}
    (h : ¬ Within n (rangesOfRuns runs)) :
    Table.valueAt? (Table.entriesOf runs) n = none := by
  refine List.findSome?_eq_none_iff.mpr fun e he => ?_
  obtain ⟨⟨first, count, value⟩, hRun, rfl⟩ := List.mem_map.mp he
  unfold Table.Entry.offset?
  rw [if_neg, Option.map_none]
  rintro ⟨hFrom, hTo, -⟩
  refine h ⟨_, List.mem_map_of_mem hRun, hFrom, ?_⟩
  dsimp only at hFrom hTo ⊢
  omega

/-! ## Characters that stay -/

/-- The characters that stay. -/
def stayingIndex : Index stayingRanges :=
  .build 11 (by decide +kernel) (by decide +kernel)

theorem stayingRanges_valid : ∀ r ∈ stayingRanges, 0x80 ≤ r.1 ∧
    (r.2 < 0xD800 ∨ 0xDFFF < r.1 ∧ r.2 < 0x110000) := by
  decide +kernel

/-- All code points from `lo` to `hi` are those of characters that stay. -/
def remain (lo hi : Nat) : Bool :=
  bif Nat.ble hi 0x7F then Nat.ble hi 0x40 || Nat.ble 0x5B lo
  else stayingIndex.covers lo hi

theorem stays_of_remain {lo hi n : Nat} (h : remain lo hi = true)
    (hFrom : lo ≤ n) (hTo : n ≤ hi) :
    n.isValidChar ∧ stays (Char.ofNat n) = true := by
  unfold remain at h
  cases hAscii : Nat.ble hi 0x7F with
  | true =>
      rw [hAscii, cond_true, Bool.or_eq_true] at h
      have hSmall := Nat.le_of_ble_eq_true hAscii
      have hLower : ∀ n < 0x80, n ≤ 0x40 ∨ 0x5B ≤ n → n.isValidChar ∧
          stays (Char.ofNat n) = true := by decide
      refine hLower n (by omega) (h.imp (fun hLow => ?_) fun hHigh => ?_)
      · exact Nat.le_trans hTo (Nat.le_of_ble_eq_true hLow)
      · exact Nat.le_trans (Nat.le_of_ble_eq_true hHigh) hFrom
  | false =>
      rw [hAscii, cond_false] at h
      obtain ⟨r, hr, hIn⟩ := Index.within_of_covers h hFrom hTo
      have hRange := stayingRanges_valid r hr
      have hValid : n.isValidChar := by
        unfold Nat.isValidChar
        omega
      refine ⟨hValid, ?_⟩
      unfold stays
      rw [Chars.toNat_ofNat hValid, if_neg (by omega)]
      exact (inRanges_iff stayingIndex.increasing).mpr ⟨r, hr, hIn⟩

/-! ## Characters that are replaced -/

/-- Whatever the code points of a run are replaced by stays. -/
def lands (count step : Nat) (targets : List Nat) : Bool :=
  bif Nat.beq step 1 then targets.all fun n => remain n (n + (count - 1))
  else (List.range count).all fun k => targets.all fun n =>
    remain (n + k * step) (n + k * step)

theorem lands_replacements :
    ∀ e ∈ replacements, lands e.count e.step e.value = true := by
  have hSingle : (Table.mapped.all fun e => e.2.all fun n => remain n n) =
        true := by decide +kernel
  have hRuns : (Table.mappedRuns.all fun e => lands e.2.1 e.2.2.1 e.2.2.2) =
        true := by decide +kernel
  refine List.forall_mem_append.mpr ⟨List.forall_mem_map.mpr fun e he => ?_,
    List.forall_mem_map.mpr fun e he => ?_⟩
  · exact List.all_eq_true.mp hSingle e he
  · exact List.all_eq_true.mp hRuns e he

/-- **What stands for a character stays.** -/
theorem stays_of_mapChar? {c : Char} {cs : List Char}
    (h : mapChar? c = some cs) : ∀ d ∈ cs, stays d = true := by
  unfold mapChar? at h
  split at h
  · next hStays =>
    obtain rfl := Option.some.inj h
    exact List.forall_mem_singleton.mpr hStays
  · split at h
    · next hAscii =>
      obtain rfl := Option.some.inj h
      have hAll : ∀ n < 0x80, stays (Char.ofNat n).toLower = true := by decide
      exact List.forall_mem_singleton.mpr
        (Chars.of_ascii (P := fun c => stays c.toLower = true) hAll hAscii)
    · obtain ⟨⟨targets, offset⟩, hValue, rfl⟩ := Option.map_eq_some_iff.mp h
      obtain ⟨e, he, hEntry⟩ := List.exists_of_findSome?_eq_some hValue
      obtain ⟨offset', hOffset, hSame⟩ := Option.map_eq_some_iff.mp hEntry
      cases hSame
      refine List.forall_mem_map.mpr fun n hn => ?_
      have hLands := lands_replacements e he
      unfold Table.Entry.offset? at hOffset
      split at hOffset
      · next hIn =>
        obtain rfl := Option.some.inj hOffset
        obtain ⟨hFrom, hTo, hStep⟩ := hIn
        unfold lands at hLands
        cases hOne : Nat.beq e.step 1 with
        | true =>
            rw [hOne, cond_true] at hLands
            have hOne := Nat.eq_of_beq_eq_true hOne
            rw [hOne, Nat.mul_one] at hTo
            exact (stays_of_remain (List.all_eq_true.mp hLands n hn)
                (Nat.le_add_right n _) (by omega)).2
        | false =>
            rw [hOne, cond_false] at hLands
            have hWhole : c.toNat - e.first =
                  (c.toNat - e.first) / e.step * e.step :=
              (Nat.div_mul_cancel (Nat.dvd_of_mod_eq_zero hStep)).symm
            have hCount : (c.toNat - e.first) / e.step < e.count :=
              Nat.div_lt_of_lt_mul (Nat.mul_comm _ _ ▸ hTo)
            have hOffset :=
              List.all_eq_true.mp hLands _ (List.mem_range.mpr hCount)
            have hRemain := List.all_eq_true.mp hOffset n hn
            rw [← hWhole] at hRemain
            exact (stays_of_remain hRemain (Nat.le_refl _) (Nat.le_refl _)).2
      · cases hOffset

/-! ## Composed characters -/

/-- The code points of composed characters, as ranges of one. -/
def composites : List (Nat × Nat) := Table.compositions.map fun e => (e.1, e.1)

def compositesIndex : Index composites :=
  .build 10 (by decide +kernel) (by decide +kernel)

/-- The composed characters whose first part is composed as well. -/
def composedTwice : List (Nat × Nat) :=
  (Table.compositions.filter fun e => compositesIndex.covers e.2.1 e.2.1).map
    fun e => (e.1, e.1)

def composedTwiceIndex : Index composedTwice :=
  .build 7 (by decide +kernel) (by decide +kernel)

/-- The code point is that of a consonant, a vowel, a last consonant or a
syllable of the Korean script, which are composed by their rule. -/
def Korean (n : Nat) : Prop :=
  0x1100 ≤ n ∧ n ≤ 0x1112 ∨ 0x1161 ≤ n ∧ n ≤ 0x1175 ∨ 0x11A8 ≤ n ∧ n ≤ 0x11C2 ∨
    0xAC00 ≤ n ∧ n ≤ 0xD7A3

/-- The same, decided. -/
def isKorean (n : Nat) : Bool :=
  Nat.ble 0x1100 n && Nat.ble n 0x1112 || Nat.ble 0x1161 n &&
    Nat.ble n 0x1175 ||
    Nat.ble 0x11A8 n && Nat.ble n 0x11C2 || Nat.ble 0xAC00 n && Nat.ble n 0xD7A3

theorem isKorean_iff {n : Nat} : isKorean n = true ↔ Korean n := by
  unfold isKorean Korean
  simp only [Bool.or_eq_true, Bool.and_eq_true, Nat.ble_eq, or_assoc]

/-- What is required of an entry of the table of composed characters. -/
structure FitsTable (e : Nat × Nat × Nat) : Prop where
  /-- Neither the composed character nor one of its parts is Korean, and the
  first part is no point. -/
  foreign : ¬ Korean e.1 ∧ ¬ Korean e.2.1 ∧ ¬ Korean e.2.2 ∧ e.2.1 ≠ 0x2E
  /-- Only the first part may be ASCII. -/
  beyond : 0x80 ≤ e.1 ∧ 0x80 ≤ e.2.2
  /-- All of them stay. -/
  remain : remain e.1 e.1 = true ∧ remain e.2.1 e.2.1 = true ∧
    remain e.2.2 e.2.2 = true
  /-- The second part is not composed, and neither is the first part of the
  first part. -/
  depth : compositesIndex.covers e.2.2 e.2.2 = false ∧
    composedTwiceIndex.covers e.2.1 e.2.1 = false

/-- The same, decided for a composed character and its parts. -/
def fits (n m k : Nat) : Bool :=
  (!isKorean n && !isKorean m && !isKorean k && !Nat.beq m 0x2E) &&
    (Nat.ble 0x80 n && Nat.ble 0x80 k) &&
    (remain n n && remain m m && remain k k) &&
      (!compositesIndex.covers k k && !composedTwiceIndex.covers m m)

/-- **Every composed character fits into the table.** -/
theorem fitsTable : ∀ e ∈ Table.compositions, FitsTable e := by
  have hAll : (Table.compositions.all fun e => fits e.1 e.2.1 e.2.2) =
        true := by decide +kernel
  intro e he
  have hFits : fits e.1 e.2.1 e.2.2 = true := List.all_eq_true.mp hAll e he
  unfold fits at hFits
  simp only [Bool.and_eq_true, Bool.not_eq_true', Nat.ble_eq] at hFits
  obtain ⟨⟨⟨⟨⟨⟨hn, hm⟩, hk⟩, hPoint⟩, hBeyond⟩, ⟨hnStays, hmStays⟩, hkStays⟩,
      hDepth⟩ := hFits
  have hForeign : ∀ {n : Nat}, isKorean n = false → ¬ Korean n :=
    fun h hKorean => Bool.eq_false_iff.mp h (isKorean_iff.mpr hKorean)
  exact ⟨⟨hForeign hn, hForeign hm, hForeign hk, Nat.ne_of_beq_eq_false hPoint⟩,
    hBeyond, ⟨hnStays, hmStays, hkStays⟩, hDepth⟩

/-! ### Entries as characters -/

variable {a b c : Char}

/-- An entry of the table, from its characters. -/
theorem exists_of_mem_pairs (h : (c, a, b) ∈ pairs) :
    ∃ e ∈ Table.compositions, FitsTable e ∧ c.toNat = e.1 ∧ a.toNat = e.2.1 ∧
    b.toNat = e.2.2 := by
  obtain ⟨⟨n, m, k⟩, he, hSame⟩ := List.mem_map.mp h
  have hFits := fitsTable _ he
  cases hSame
  obtain ⟨hn, hm, hk⟩ := hFits.remain
  refine ⟨_, he, hFits, ?_, ?_, ?_⟩
  · exact Chars.toNat_ofNat (stays_of_remain hn (Nat.le_refl _)
        (Nat.le_refl _)).1
  · exact Chars.toNat_ofNat (stays_of_remain hm (Nat.le_refl _)
        (Nat.le_refl _)).1
  · exact Chars.toNat_ofNat (stays_of_remain hk (Nat.le_refl _)
        (Nat.le_refl _)).1

theorem pairwise_compositions : Table.compositions.Pairwise fun e e' =>
    e.1 < e'.1 :=
  (List.pairwise_map (f := fun e : Nat × Nat × Nat => (e.1, e.1))
      (R := fun r r' : Nat × Nat => r.2 < r'.1)).mp
    compositesIndex.increasing.pairwise

/-- A character is composed in one way. -/
theorem pair_unique {p p' : Char × Char × Char} (h : p ∈ pairs)
    (h' : p' ∈ pairs) (hSame : p.1 = p'.1) : p = p' := by
  obtain ⟨e, he, rfl⟩ := List.mem_map.mp h
  obtain ⟨e', he', rfl⟩ := List.mem_map.mp h'
  have hCode : e.1 = e'.1 := by
    have hn :=
      Chars.toNat_ofNat (stays_of_remain (fitsTable e he).remain.1
          (Nat.le_refl _) (Nat.le_refl _)).1
    have hn' :=
      Chars.toNat_ofNat (stays_of_remain (fitsTable e' he').remain.1
          (Nat.le_refl _) (Nat.le_refl _)).1
    exact hn.symm.trans ((congrArg Char.toNat hSame).trans hn')
  have hUnique : ∀ e ∈ Table.compositions, ∀ e' ∈ Table.compositions,
      e.1 = e'.1 → e = e' :=
    List.Pairwise.forall_of_forall_of_flip (fun _ _ _ => rfl)
      (pairwise_compositions.imp fun hLess hSame =>
        absurd hSame (Nat.ne_of_lt hLess))
      (pairwise_compositions.imp fun hLess hSame =>
        absurd hSame.symm (Nat.ne_of_lt hLess))
  rw [hUnique e he e' he' hCode]

/-- A code point that is not found in the index is that of no composed
character. -/
theorem fst_ne_of_covers {n : Nat} (h : compositesIndex.covers n n = false) :
    ∀ e ∈ Table.compositions, e.1 ≠ n := by
  rintro e he rfl
  exact Index.covers_eq_false_iff.mp h ⟨(e.1, e.1), List.mem_map_of_mem he,
    Nat.le_refl _, Nat.le_refl _⟩

/-! ### Korean syllables -/

theorem stays_of_korean {n : Nat} (h : Korean n) :
    n.isValidChar ∧ stays (Char.ofNat n) = true := by
  have hRemain : remain 0x1100 0x1112 = true ∧ remain 0x1161 0x1175 = true ∧
      remain 0x11A8 0x11C2 = true ∧
      remain 0xAC00 0xD7A3 = true := by decide +kernel
  obtain ⟨hFirst, hVowel, hLast, hSyllable⟩ := hRemain
  obtain ⟨hFrom, hTo⟩ | ⟨hFrom, hTo⟩ | ⟨hFrom, hTo⟩ | ⟨hFrom, hTo⟩ := h
  · exact stays_of_remain hFirst hFrom hTo
  · exact stays_of_remain hVowel hFrom hTo
  · exact stays_of_remain hLast hFrom hTo
  · exact stays_of_remain hSyllable hFrom hTo

theorem splitSyllable?_eq_none {n : Nat} (h : ¬ Korean n) :
    splitSyllable? n = none := by
  unfold splitSyllable? Korean at *
  rw [if_neg (by omega)]

/-- What a syllable is taken apart into: a letter that is taken apart no
further behind a letter or a syllable that is taken apart into letters. -/
structure Syllable (n m k : Nat) : Prop where
  whole : Korean n ∧ 0xAC00 ≤ n
  first : Korean m
  second : Korean k ∧ k < 0xAC00
  depth : ∀ m' k', splitSyllable? m = some (m', k') → m' < 0xAC00

theorem syllable_of_split? {n m k : Nat} (h : splitSyllable? n = some (m, k)) :
    Syllable n m k := by
  unfold splitSyllable? at h
  dsimp only at h
  split at h
  · next hIn =>
    have hBound : n < 0xD7A4 := hIn.2
    split at h
    · obtain ⟨rfl, rfl⟩ := Prod.mk.inj (Option.some.inj h)
      constructor
      case whole => unfold Korean; omega
      case first => unfold Korean; omega
      case second => unfold Korean; omega
      case depth =>
        intro m' k' hSplit
        unfold splitSyllable? at hSplit
        rw [if_neg (by omega)] at hSplit
        cases hSplit
    · next hLast =>
      obtain ⟨rfl, rfl⟩ := Prod.mk.inj (Option.some.inj h)
      constructor
      case whole => unfold Korean; omega
      case first => unfold Korean; omega
      case second => unfold Korean; omega
      case depth =>
        intro m' k' hSplit
        unfold splitSyllable? at hSplit
        have hSyllable : 0xAC00 ≤ n - (n - 0xAC00) % 28 ∧
            n - (n - 0xAC00) % 28 < 0xAC00 + 19 * 21 * 28 := by omega
        have hNoLast : (n - (n - 0xAC00) % 28 - 0xAC00) % 28 = 0 := by omega
        simp only [hSyllable, hNoLast, and_self, if_true] at hSplit
        obtain ⟨rfl, -⟩ := Prod.mk.inj (Option.some.inj hSplit)
        omega
  · cases h

/-- The syllable of two parts is taken apart into them. -/
theorem splitSyllable?_of_join? {n m k : Nat} (h : joinSyllable? m k = some n) :
    splitSyllable? n = some (m, k) := by
  unfold joinSyllable? at h
  unfold splitSyllable?
  split at h
  · next hIn =>
    have hSyllable := Option.some.inj h
    have hRange : 0xAC00 ≤ n ∧ n < 0xAC00 + 19 * 21 * 28 := by omega
    have hNoLast : (n - 0xAC00) % 28 = 0 := by omega
    have hFirst : 0x1100 + (n - 0xAC00) / (21 * 28) = m := by omega
    have hVowel : 0x1161 + (n - 0xAC00) / 28 % 21 = k := by omega
    simp only [hRange, hNoLast, hFirst, hVowel, and_self, if_true]
  · split at h
    · next hIn =>
      have hSyllable := Option.some.inj h
      have hRange : 0xAC00 ≤ n ∧ n < 0xAC00 + 19 * 21 * 28 := by omega
      have hLast : (n - 0xAC00) % 28 ≠ 0 := by omega
      have hFirst : n - (n - 0xAC00) % 28 = m := by omega
      have hConsonant : 0x11A7 + (n - 0xAC00) % 28 = k := by omega
      simp only [hRange, hLast, hFirst, hConsonant, and_self, if_true, if_false]
    · cases h

/-! ## Taking apart and composing -/

/-- The character is composed of the two, by the rule or by the table. -/
def Composed (c a b : Char) : Prop :=
  splitSyllable? c.toNat = some (a.toNat, b.toNat) ∨ (c, a, b) ∈ pairs

theorem composed_of_split? (h : split? c = some (a, b)) : Composed c a b := by
  unfold split? at h
  split at h
  · next m k hSyllable =>
    obtain ⟨rfl, rfl⟩ := Prod.mk.inj (Option.some.inj h)
    have hParts := syllable_of_split? hSyllable
    refine .inl ?_
    rw [Chars.toNat_ofNat (stays_of_korean hParts.first).1,
      Chars.toNat_ofNat (stays_of_korean hParts.second.1).1]
    exact hSyllable
  · obtain ⟨p, hFind, hSnd⟩ := Option.map_eq_some_iff.mp h
    have hFound := List.find?_some hFind
    have hSame : p.1 = c := beq_iff_eq.mp hFound
    have hPair : p = (c, a, b) := Prod.ext hSame hSnd
    exact .inr (hPair ▸ List.mem_of_find?_eq_some hFind)

theorem composed_of_join? (h : join? a b = some c) : Composed c a b := by
  unfold join? at h
  split at h
  · next n hSyllable =>
    obtain rfl := Option.some.inj h
    have hSplit := splitSyllable?_of_join? hSyllable
    refine .inl ?_
    rw [Chars.toNat_ofNat (stays_of_korean
        (syllable_of_split? hSplit).whole.1).1]
    exact hSplit
  · obtain ⟨p, hFind, hFst⟩ := Option.map_eq_some_iff.mp h
    have hFound := List.find?_some hFind
    have hSame : p.2 = (a, b) := beq_iff_eq.mp hFound
    have hPair : p = (c, a, b) := Prod.ext hFst hSame
    exact .inr (hPair ▸ List.mem_of_find?_eq_some hFind)

/-- A composed character is taken apart into what it is composed of. -/
theorem Composed.split? (h : Composed c a b) : split? c = some (a, b) := by
  unfold Domain.split?
  obtain hSyllable | hPair := h
  · rw [hSyllable]
    dsimp only
    rw [Char.ofNat_toNat, Char.ofNat_toNat]
  · obtain ⟨e, -, hFits, hCode, -⟩ := exists_of_mem_pairs hPair
    have hForeign : splitSyllable? c.toNat = none :=
      splitSyllable?_eq_none (hCode ▸ hFits.foreign.1)
    rw [hForeign]
    dsimp only
    cases hFind : pairs.find? fun p => p.1 == c with
    | none => exact absurd BEq.rfl (List.find?_eq_none.mp hFind _ hPair)
    | some p =>
        have hFound := List.find?_some hFind
        have hSame : p.1 = c := beq_iff_eq.mp hFound
        rw [pair_unique (List.mem_of_find?_eq_some hFind) hPair hSame]
        rfl

/-- **A composed character is taken apart into what it was composed of.** -/
theorem split?_of_join? (h : join? a b = some c) : split? c = some (a, b) :=
  (composed_of_join? h).split?

/-- A character that is neither Korean nor in the table is not taken apart. -/
theorem split?_eq_none (hForeign : ¬ Korean c.toNat)
    (hTable : compositesIndex.covers c.toNat c.toNat = false) :
    split? c = none := by
  cases hSplit : split? c with
  | none => rfl
  | some p =>
      obtain ⟨a, b⟩ := p
      obtain hSyllable | hPair := composed_of_split? hSplit
      · rw [splitSyllable?_eq_none hForeign] at hSyllable
        cases hSyllable
      · obtain ⟨e, he, -, hCode, -⟩ := exists_of_mem_pairs hPair
        exact absurd hCode.symm (fst_ne_of_covers hTable e he)

/-- A Korean letter is not taken apart. -/
theorem split?_letter (hKorean : Korean c.toNat) (hLetter : c.toNat < 0xAC00) :
    split? c = none := by
  cases hSplit : split? c with
  | none => rfl
  | some p =>
      obtain ⟨a, b⟩ := p
      obtain hSyllable | hPair := composed_of_split? hSplit
      · exact absurd (syllable_of_split? hSyllable).whole.2
          (Nat.not_le_of_lt hLetter)
      · obtain ⟨e, -, hFits, hCode, -⟩ := exists_of_mem_pairs hPair
        exact absurd (hCode ▸ hKorean) hFits.foreign.1

/-- **The second part of a character is not taken apart.** -/
theorem split?_second (h : split? c = some (a, b)) : split? b = none := by
  obtain hSyllable | hPair := composed_of_split? h
  · have hSecond := (syllable_of_split? hSyllable).second
    exact split?_letter hSecond.1 hSecond.2
  · obtain ⟨e, -, hFits, -, -, hSecond⟩ := exists_of_mem_pairs hPair
    refine split?_eq_none ?_ ?_
    · rw [hSecond]
      exact hFits.foreign.2.2.1
    · rw [hSecond]
      exact hFits.depth.1

/-- A character of the table that is composed of a composed one is found in the
index of these. -/
theorem covers_composedTwice {e e' : Nat × Nat × Nat}
    (he : e ∈ Table.compositions) (he' : e' ∈ Table.compositions)
    (hFirst : e'.1 = e.2.1) : composedTwiceIndex.covers e.1 e.1 = true := by
  have hComposed : compositesIndex.covers e.2.1 e.2.1 = true :=
    Index.covers_iff.mpr ⟨(e'.1, e'.1), List.mem_map_of_mem he',
      Nat.le_of_eq hFirst, Nat.le_of_eq hFirst.symm⟩
  have hTwice : (e.1, e.1) ∈ composedTwice :=
    List.mem_map_of_mem (List.mem_filter.mpr ⟨he, hComposed⟩)
  exact Index.covers_iff.mpr ⟨_, hTwice, Nat.le_refl _, Nat.le_refl _⟩

/-- **The first part of the first part of a character is not taken apart.** -/
theorem split?_first {a' b' : Char} (h : split? c = some (a, b))
    (h' : split? a = some (a', b')) : split? a' = none := by
  obtain hSyllable | hPair := composed_of_split? h
  · obtain hInner | hPair' := composed_of_split? h'
    · exact split?_letter (syllable_of_split? hInner).first
        ((syllable_of_split? hSyllable).depth _ _ hInner)
    · obtain ⟨e, -, hFits, hCode, -⟩ := exists_of_mem_pairs hPair'
      exact absurd (hCode ▸ (syllable_of_split? hSyllable).first)
        hFits.foreign.1
  · obtain ⟨e, -, hFits, -, hFirst, -⟩ := exists_of_mem_pairs hPair
    obtain hInner | hPair' := composed_of_split? h'
    · exact absurd (hFirst ▸ (syllable_of_split? hInner).whole.1)
        hFits.foreign.2.1
    · obtain ⟨e', he', hFits', hCode', hFirst', -⟩ := exists_of_mem_pairs hPair'
      refine split?_eq_none (hFirst' ▸ hFits'.foreign.2.1) ?_
      rw [hFirst']
      cases hCovers : compositesIndex.covers e'.2.1 e'.2.1 with
      | false => rfl
      | true =>
          obtain ⟨r, hr, hLow, hHigh⟩ := Index.covers_iff.mp hCovers
          obtain ⟨e'', he'', rfl⟩ := List.mem_map.mp hr
          have hTwice :=
            covers_composedTwice he' he'' (Nat.le_antisymm hLow hHigh)
          have hNot := hFits.depth.2
          rw [← hFirst, hCode', hTwice] at hNot
          cases hNot

/-! ### What the parts are like -/

/-- Taking apart leads to characters that stay, and only composed characters
beyond ASCII are taken apart. -/
theorem stays_of_composed (h : Composed c a b) :
    stays c = true ∧ stays a = true ∧ stays b = true := by
  obtain hSyllable | hPair := h
  · have hParts := syllable_of_split? hSyllable
    have hc := (stays_of_korean hParts.whole.1).2
    have ha := (stays_of_korean hParts.first).2
    have hb := (stays_of_korean hParts.second.1).2
    rw [Char.ofNat_toNat] at hc ha hb
    exact ⟨hc, ha, hb⟩
  · obtain ⟨e, -, hFits, hc, ha, hb⟩ := exists_of_mem_pairs hPair
    have hcStays :=
      (stays_of_remain hFits.remain.1 (Nat.le_refl _) (Nat.le_refl _)).2
    have haStays :=
      (stays_of_remain hFits.remain.2.1 (Nat.le_refl _) (Nat.le_refl _)).2
    have hbStays :=
      (stays_of_remain hFits.remain.2.2 (Nat.le_refl _) (Nat.le_refl _)).2
    rw [← hc, Char.ofNat_toNat] at hcStays
    rw [← ha, Char.ofNat_toNat] at haStays
    rw [← hb, Char.ofNat_toNat] at hbStays
    exact ⟨hcStays, haStays, hbStays⟩

/-- A composed character and its second part are not ASCII, and its first part
is no point. -/
theorem beyond_of_composed (h : Composed c a b) :
    0x80 ≤ c.toNat ∧ 0x80 ≤ b.toNat ∧ a ≠ '.' := by
  obtain hSyllable | hPair := h
  · obtain ⟨hc, ha, hb, -⟩ := syllable_of_split? hSyllable
    unfold Korean at ha hb
    refine ⟨by omega, by omega, ?_⟩
    rintro rfl
    have hPoint : '.'.toNat = 0x2E := rfl
    omega
  · obtain ⟨e, -, hFits, hc, ha, hb⟩ := exists_of_mem_pairs hPair
    refine ⟨hc ▸ hFits.beyond.1, hb ▸ hFits.beyond.2, ?_⟩
    rintro rfl
    exact hFits.foreign.2.2.2 ha.symm

/-! ### Marks -/

/-- The code points of characters that have a class. -/
def classRanges : List (Nat × Nat) := rangesOfRuns Table.combiningClasses

def classIndex : Index classRanges :=
  .build 9 (by decide +kernel) (by decide +kernel)

/-- No character with a class is ASCII or Korean. -/
theorem classRanges_foreign : ∀ r ∈ classRanges, 0x300 ≤ r.1 ∧
    (r.2 < 0x1100 ∨ 0x1200 ≤ r.1) ∧
    (r.2 < 0xAC00 ∨ 0xD7A4 ≤ r.1) := by decide +kernel

/-- Nothing in the table is composed of a mark and something behind it. -/
theorem compositions_letter :
    ∀ e ∈ Table.compositions, classIndex.covers e.2.1 e.2.1 = false := by
  decide +kernel

/-- A character has a class only if its code point is in a range of marks. -/
theorem markClass_eq_zero (h : ¬ Within c.toNat classRanges) :
    markClass c = 0 := by
  unfold markClass markClasses
  rw [valueAt?_entriesOf h]
  rfl

/-- ASCII characters are no marks. -/
theorem markClass_ascii (h : c.toNat < 0x80) : markClass c = 0 := by
  refine markClass_eq_zero fun ⟨r, hr, hFrom, _⟩ => ?_
  have hRange := (classRanges_foreign r hr).1
  omega

/-- **The first part of a character is no mark.** -/
theorem markClass_first (h : Composed c a b) : markClass a = 0 := by
  refine markClass_eq_zero ?_
  obtain hSyllable | hPair := h
  · rintro ⟨r, hr, hFrom, hTo⟩
    obtain ⟨-, hLetters, hSyllables⟩ := classRanges_foreign r hr
    have ha := (syllable_of_split? hSyllable).first
    unfold Korean at ha
    omega
  · obtain ⟨e, he, -, -, ha, -⟩ := exists_of_mem_pairs hPair
    rw [ha]
    exact Index.covers_eq_false_iff.mp (compositions_letter e he)

/-- The ranges of marks can be searched, and none of them reaches down to
ASCII. -/
theorem markRanges_valid : Increasing markRanges ∧ ∀ r ∈ markRanges,
    0x300 ≤ r.1 := by decide +kernel

/-- No label is kept from beginning with an ASCII character. -/
theorem isMark_ascii (h : c.toNat < 0x80) : isMark c = false := by
  refine Bool.eq_false_iff.mpr fun hMark => ?_
  obtain ⟨r, hr, hFrom, -⟩ := (inRanges_iff markRanges_valid.1).mp hMark
  have hRange := markRanges_valid.2 r hr
  omega

end Errand.Domain
