import Mathlib.Data.List.Induction
import Errand.Proofs.Json.Spelling
import Errand.Proofs.Web.Domain.Name
import Errand.Web.Host

/-!
# Hosts are read back

The normal form of a host is read as that host. The bytes of an IPv4 address
and the groups of an IPv6 address are numerals that are read back one by one;
the zeros that an IPv6 address leaves out are those that its double colon
stands for. A domain name is read back because its ASCII form is its own ASCII
form (`Domain.IsName.toAscii?_asciiOf`).

## Main results

* `wellFormed_of_read?`: what is so of every host that is read.
* `WellFormed.read?_render`: the normal form of a host is read as the host.
* `WellFormed.render_shape`: which characters stand in the normal form of a
  host.
-/

namespace Errand.Host

/-! ## Hexadecimal groups -/

theorem hexOnto_eq_append (n : Nat) (tail : List Char) :
    Chars.hexOnto n tail = Chars.hexOnto n [] ++ tail := by
  induction n using Nat.strongRecOn generalizing tail with
  | _ n ih =>
      by_cases hn : n < 16
      · rw [Chars.hexOnto, if_pos hn, Chars.hexOnto, if_pos hn,
          List.singleton_append]
      · have hLess : n / 16 < n := by omega
        rw [Chars.hexOnto, Chars.hexOnto.eq_def n [], if_neg hn, if_neg hn,
          ih _ hLess, ih _ hLess [_], List.append_assoc, List.singleton_append]

theorem hexOnto_of_lt {n : Nat} (h : n < 16) :
    Chars.hexOnto n [] = [Chars.hexDigit n] := by
  rw [Chars.hexOnto, if_pos h]

theorem hexOnto_of_le {n : Nat} (h : 16 ≤ n) :
    Chars.hexOnto n [] = Chars.hexOnto (n / 16) [] ++
      [Chars.hexDigit (n % 16)] := by
  rw [Chars.hexOnto, if_neg (Nat.not_lt_of_le h), hexOnto_eq_append]

/-- A hexadecimal digit is read back, and it is no colon. -/
theorem digitIn?_hexDigit :
    ∀ d < 16, digitIn? 16 (Chars.hexDigit d) = some d := by decide

theorem hexOnto_ne_nil (n : Nat) : Chars.hexOnto n [] ≠ [] := by
  by_cases hn : n < 16
  · rw [hexOnto_of_lt hn]
    exact List.cons_ne_nil _ _
  · rw [hexOnto_of_le (Nat.le_of_not_lt hn)]
    exact List.append_ne_nil_of_right_ne_nil _ (List.cons_ne_nil _ _)

theorem exists_of_mem_hexOnto {n : Nat} {c : Char}
    (h : c ∈ Chars.hexOnto n []) : ∃ d < 16, c = Chars.hexDigit d := by
  induction n using Nat.strongRecOn with
  | _ n ih =>
      by_cases hn : n < 16
      · rw [hexOnto_of_lt hn] at h
        exact ⟨n, hn, List.mem_singleton.mp h⟩
      · rw [hexOnto_of_le (Nat.le_of_not_lt hn)] at h
        obtain hFront | hLast := List.mem_append.mp h
        · exact ih _ (by omega) hFront
        · exact ⟨n % 16, Nat.mod_lt n (by decide), List.mem_singleton.mp hLast⟩

theorem colon_not_mem_hexOnto (n : Nat) : ':' ∉ Chars.hexOnto n [] := by
  intro hColon
  obtain ⟨d, hd, hSame⟩ := exists_of_mem_hexOnto hColon
  have hAll : ∀ d < 16, ':' ≠ Chars.hexDigit d := by decide
  exact hAll d hd hSame

theorem length_hexOnto_le {n : Nat} (k : Nat) (h : n < 16 ^ (k + 1)) :
    (Chars.hexOnto n []).length ≤ k + 1 := by
  induction k generalizing n with
  | zero =>
      rw [hexOnto_of_lt h]
      exact Nat.le_refl 1
  | succ k ih =>
      by_cases hn : n < 16
      · rw [hexOnto_of_lt hn]
        exact Nat.succ_le_succ (Nat.zero_le _)
      · have hRest : n / 16 < 16 ^ (k + 1) :=
          Nat.div_lt_of_lt_mul (by rwa [Nat.mul_comm, ← Nat.pow_succ])
        rw [hexOnto_of_le (Nat.le_of_not_lt hn), List.length_append]
        exact Nat.succ_le_succ (ih hRest)

theorem readDigits_append (base : Nat) (cs : List Char) (c : Char) :
    readDigits base (cs ++ [c]) = (readDigits base cs).bind fun n =>
      (digitIn? base c).map fun d => n * base + d := by
  unfold readDigits
  rw [List.foldlM_append]
  refine Option.bind_congr fun n _ => ?_
  rw [List.foldlM_cons]
  exact bind_pure _

theorem readDigits_hexOnto (n : Nat) :
    readDigits 16 (Chars.hexOnto n []) = some n := by
  induction n using Nat.strongRecOn with
  | _ n ih =>
      by_cases hn : n < 16
      · rw [hexOnto_of_lt hn]
        show readDigits 16 ([] ++ [Chars.hexDigit n]) = _
        rw [readDigits_append, digitIn?_hexDigit n hn]
        exact congrArg some (Nat.zero_add n)
      · have hLast : n / 16 * 16 + n % 16 = n := by omega
        rw [hexOnto_of_le (Nat.le_of_not_lt hn), readDigits_append,
          ih _ (by omega), Option.bind_some,
          digitIn?_hexDigit _ (Nat.mod_lt n (by decide)),
          Option.map_some, hLast]

/-- **A group is read back.** -/
theorem group?_hexOnto {g : Nat} (h : g < 0x10000) :
    group? (Chars.hexOnto g []) = some g := by
  have hLength := length_hexOnto_le 3 h
  unfold group?
  rw [if_neg, readDigits_hexOnto]
  rintro (hEmpty | hLong)
  · exact hexOnto_ne_nil g (List.isEmpty_iff.mp hEmpty)
  · omega

/-! ## Lists of groups -/

/-- The groups are eight of 16 bits. -/
def AreGroups (gs : List Nat) : Prop := gs.length = 8 ∧ ∀ g ∈ gs, g < 0x10000

variable {gs : List Nat}

theorem renderGroups_cons (g g' : Nat) (gs : List Nat) :
    renderGroups (g :: g' :: gs) = Chars.hexOnto g [] ++ ':' ::
      renderGroups (g' :: gs) := by
  unfold renderGroups
  rw [List.map_cons, List.map_cons, List.intercalate_cons_cons,
    List.append_assoc]
  rfl

theorem renderGroups_singleton (g : Nat) :
    renderGroups [g] = Chars.hexOnto g [] :=
  List.intercalate_singleton

/-- Groups begin with a digit. -/
theorem renderGroups_eq_cons (g : Nat) (gs : List Nat) :
    ∃ c cs, renderGroups (g :: gs) = c :: cs ∧ c ≠ ':' := by
  obtain ⟨c, cs, hDigits⟩ := List.exists_cons_of_ne_nil (hexOnto_ne_nil g)
  have hColon : c ≠ ':' := by
    rintro rfl
    exact colon_not_mem_hexOnto g (hDigits ▸ List.mem_cons_self)
  cases gs with
  | nil => exact ⟨c, cs, (renderGroups_singleton g).trans hDigits, hColon⟩
  | cons g' gs =>
      exact ⟨c, _, by rw [renderGroups_cons, hDigits, List.cons_append], hColon⟩

/-- The fields of groups in hexadecimal are the groups. -/
theorem fields_renderGroups (gs : List Nat) :
    fields (renderGroups gs) = gs.map fun g => Chars.hexOnto g [] := by
  by_cases hSome : gs = []
  · rw [hSome]
    rfl
  · have hText : ¬ (renderGroups gs).isEmpty = true := by
      obtain ⟨g, gs, rfl⟩ := List.exists_cons_of_ne_nil hSome
      obtain ⟨c, cs, hText, -⟩ := renderGroups_eq_cons g gs
      rw [hText]
      exact Bool.false_ne_true
    unfold fields
    rw [if_neg hText]
    exact Chars.splitOn_intercalate
      (List.forall_mem_map.mpr fun g _ => colon_not_mem_hexOnto g)
      (mt List.map_eq_nil_iff.mp hSome)

/-- **Groups are read back.** -/
theorem groupsOf?_map (v4Last : Bool) (h : ∀ g ∈ gs, g < 0x10000) :
    groupsOf? v4Last (gs.map fun g => Chars.hexOnto g []) = some gs := by
  induction gs with
  | nil => rfl
  | cons g gs ih =>
      obtain ⟨hg, hRest⟩ := List.forall_mem_cons.mp h
      cases gs with
      | nil => rw [List.map_singleton, groupsOf?, group?_hexOnto hg]
      | cons g' gs =>
          have hLater := ih hRest
          rw [List.map_cons] at hLater ⊢
          rw [List.map_cons, groupsOf?, group?_hexOnto hg, Option.bind_some,
            hLater, Option.map_some]
          exact List.cons_ne_nil _ _

/-- No double colon begins in groups. -/
theorem breakAt?_renderGroups (gs : List Nat) (tail : List Char) :
    Chars.breakAt? [':', ':'] (renderGroups gs ++ tail) =
    (Chars.breakAt? [':', ':'] tail).map
      (Prod.map (renderGroups gs ++ ·) id) := by
  induction gs with
  | nil =>
      show Chars.breakAt? _ tail = (Chars.breakAt? _ tail).map id
      rw [Option.map_id]
      rfl
  | cons g gs ih =>
      cases gs with
      | nil =>
          rw [renderGroups_singleton]
          exact Chars.breakAt?_of_head_not_mem (colon_not_mem_hexOnto g) _ _
      | cons g' gs =>
          have hSingle : ¬ [':', ':'] <+:
                ':' :: (renderGroups (g' :: gs) ++ tail) := by
            obtain ⟨c, cs, hText, hColon⟩ := renderGroups_eq_cons g' gs
            rw [hText, List.cons_append, List.cons_prefix_cons,
              List.cons_prefix_cons]
            exact fun ⟨_, hSame, _⟩ => hColon hSame.symm
          rw [renderGroups_cons, List.append_assoc,
            Chars.breakAt?_of_head_not_mem (colon_not_mem_hexOnto g),
            List.cons_append, Chars.breakAt?_cons hSingle, ih, Option.map_map,
            Option.map_map]
          refine congrArg (Option.map · _)
            (funext fun (front, rest) => congrArg (·, rest) ?_)
          exact (List.append_assoc (Chars.hexOnto g [])
              (':' :: renderGroups (g' :: gs)) front).symm

/-! ## The zeros that are left out -/

/-- There are zeros from a start on, as many as a length says. -/
def ZerosAt (gs : List Nat) (run : Nat × Nat) : Prop :=
  ∀ i, run.1 ≤ i → i < run.1 + run.2 → gs[i]? = some 0

/-- **The run of zeros that is found is one.** The groups before the place that
is reached are `passed`. -/
theorem zerosAt_longestZeros {gs passed : List Nat} {best : Nat × Nat}
    {length : Nat} (hBest : ZerosAt (passed ++ gs) best)
    (hRun : length ≤ passed.length)
    (hZeros : ZerosAt (passed ++ gs) (passed.length - length, length)) :
    ZerosAt (passed ++ gs) (longestZeros best length passed.length gs) := by
  induction gs generalizing passed best length with
  | nil => exact hBest
  | cons g gs ih =>
      have hPassed : passed.length + 1 = (passed ++ [g]).length := by
        rw [List.length_append]
        rfl
      have hText : passed ++ g :: gs = (passed ++ [g]) ++ gs :=
        List.append_cons passed g gs
      rw [longestZeros]
      dsimp only
      rw [hPassed]
      rw [hText] at hBest hZeros ⊢
      split
      · next hZero =>
        have hHere : ((passed ++ [g]) ++ gs)[passed.length]? = some 0 := by
          rw [← hText, List.getElem?_append_right (Nat.le_refl _),
            Nat.sub_self, hZero]
          rfl
        have hLonger : ZerosAt ((passed ++ [g]) ++ gs)
              ((passed ++ [g]).length - (length + 1), length + 1) := by
          intro i hFrom hTo
          dsimp only at hFrom hTo
          by_cases hLast : i = passed.length
          · rw [hLast]
            exact hHere
          · exact hZeros i (by dsimp only; omega) (by dsimp only; omega)
        refine ih ?_ (by omega) hLonger
        split
        · exact hLonger
        · exact hBest
      · exact ih hBest (Nat.zero_le _) fun i hFrom hTo =>
          absurd hTo (by dsimp only at hFrom ⊢; omega)

/-- The groups around zeros, with the zeros between, are all groups. -/
theorem ZerosAt.take_append {start length : Nat}
    (h : ZerosAt gs (start, length)) (hSome : 0 < length) :
    start + length ≤ gs.length ∧
    gs.take start ++ List.replicate length 0 ++
      gs.drop (start + length) = gs := by
  have hLast : gs[start + length - 1]? = some 0 :=
    h _ (by dsimp only; omega) (by dsimp only; omega)
  have hBound : start + length - 1 < gs.length :=
    (List.getElem?_eq_some_iff.mp hLast).1
  have hZeros : (gs.drop start).take length = List.replicate length 0 := by
    refine List.eq_replicate_iff.mpr ⟨?_, fun g hg => ?_⟩
    · rw [List.length_take, List.length_drop]
      omega
    · obtain ⟨i, hi, rfl⟩ := List.getElem_of_mem hg
      rw [List.length_take] at hi
      have hZero : gs[start + i]? = some 0 :=
        h _ (Nat.le_add_right start i) (by dsimp only; omega)
      rw [List.getElem_take, List.getElem_drop]
      exact Option.some.inj ((List.getElem?_eq_getElem _).symm.trans hZero)
  refine ⟨by omega, ?_⟩
  rw [← hZeros, List.append_assoc, ← List.drop_drop, List.take_append_drop,
    List.take_append_drop]

/-- **An IPv6 address is read back.** -/
theorem v6?_renderV6 (h : AreGroups gs) : v6? (renderV6 gs) = some gs := by
  obtain ⟨hEight, hSmall⟩ := h
  have hZeros : ZerosAt gs (longestZeros (0, 0) 0 0 gs) :=
    have hNone : ZerosAt ([] ++ gs) (0, 0) := fun i _ hTo =>
      absurd hTo (Nat.not_lt_zero i)
    zerosAt_longestZeros hNone (Nat.le_refl 0) hNone
  unfold renderV6
  generalize longestZeros (0, 0) 0 0 gs = run at hZeros
  obtain ⟨start, length⟩ := run
  dsimp only
  split
  · have hBreak := breakAt?_renderGroups gs []
    rw [List.append_nil] at hBreak
    unfold v6?
    rw [hBreak]
    show (groupsOf? true (fields (renderGroups gs))).filter _ = _
    rw [fields_renderGroups, groupsOf?_map true hSmall]
    exact Option.filter_eq_some_iff.mpr ⟨rfl, decide_eq_true hEight⟩
  · next hLong =>
    obtain ⟨hBound, hAll⟩ := hZeros.take_append (by omega)
    have hBreak :=
      breakAt?_renderGroups (gs.take start)
        (':' :: ':' :: renderGroups (gs.drop (start + length)))
    have hFront : ∀ g ∈ gs.take start, g < 0x10000 := fun g hg =>
      hSmall g (List.mem_of_mem_take hg)
    have hBack : ∀ g ∈ gs.drop (start + length), g < 0x10000 := fun g hg =>
      hSmall g (List.mem_of_mem_drop hg)
    have hLeft := groupsOf?_map false hFront
    have hRight := groupsOf?_map true hBack
    rw [show Chars.breakAt? [':', ':']
      (':' :: ':' :: renderGroups (gs.drop (start + length))) =
      some ([], renderGroups (gs.drop (start + length)))
      from Chars.breakAt?_self [':', ':'] _] at hBreak
    unfold v6?
    rw [hBreak, Option.map_some, Prod.map_apply, List.append_nil]
    simp only [id, fields_renderGroups, hLeft, hRight, Option.bind_eq_bind,
      Option.bind_some]
    have hCount :
        8 - (gs.take start).length - (gs.drop (start + length)).length =
          length := by
      rw [List.length_take, List.length_drop]
      omega
    rw [if_pos, hCount, hAll]
    rw [List.length_take, List.length_drop]
    omega

/-! ## What is read as a group -/

theorem digitIn?_lt {base d : Nat} {c : Char} (h : digitIn? base c = some d) :
    d < base :=
  of_decide_eq_true (Option.filter_eq_some_iff.mp h).2

theorem readDigits_lt {base n : Nat} {cs : List Char}
    (h : readDigits base cs = some n) : n < base ^ cs.length := by
  induction cs using List.reverseRecOn generalizing n with
  | nil =>
      obtain rfl := Option.some.inj h
      exact Nat.one_pos
  | append_singleton cs c ih =>
      rw [readDigits_append] at h
      obtain ⟨m, hm, hLast⟩ := Option.bind_eq_some_iff.mp h
      obtain ⟨d, hd, rfl⟩ := Option.map_eq_some_iff.mp hLast
      have hFront : (m + 1) * base ≤ base ^ cs.length * base :=
        Nat.mul_le_mul_right base (ih hm)
      have hDigit := digitIn?_lt hd
      rw [List.length_append, List.length_singleton, Nat.pow_succ]
      rw [Nat.add_mul, Nat.one_mul] at hFront
      omega

theorem group?_lt {cs : List Char} {g : Nat} (h : group? cs = some g) :
    g < 0x10000 := by
  unfold group? at h
  split at h
  · cases h
  · next hShort =>
    have hLength : cs.length ≤ 4 := Nat.le_of_not_lt fun hLong =>
      hShort (.inr hLong)
    exact Nat.lt_of_lt_of_le (readDigits_lt h)
      (Nat.pow_le_pow_right (by decide) hLength)

theorem v4Groups?_lt {cs : List Char} {groups : List Nat}
    (h : v4Groups? cs = some groups) : ∀ g ∈ groups, g < 0x10000 := by
  have hByte : ∀ {cs : List Char} {b : Nat}, byte? cs = some b → b ≤ 255 := by
    intro cs b hb
    unfold byte? at hb
    split at hb
    · cases hb
    · exact of_decide_eq_true (Option.filter_eq_some_iff.mp hb).2
  unfold v4Groups? at h
  split at h
  · next a b c d hBytes =>
    obtain rfl := Option.some.inj h
    have hAll : ∀ e, some e ∈ (Chars.splitOn ['.'] cs).map byte? → e ≤ 255 := by
      intro e he
      obtain ⟨field, -, hField⟩ := List.mem_map.mp he
      exact hByte hField
    rw [hBytes] at hAll
    have ha := hAll a (by simp)
    have hb := hAll b (by simp)
    have hc := hAll c (by simp)
    have hd := hAll d (by simp)
    simp only [List.forall_mem_cons]
    exact ⟨by omega, by omega, nofun⟩
  · cases h

theorem groupsOf?_lt {v4Last : Bool} {texts : List (List Char)}
    {groups : List Nat} (h : groupsOf? v4Last texts = some groups) :
    ∀ g ∈ groups, g < 0x10000 := by
  induction texts generalizing groups with
  | nil =>
      obtain rfl := Option.some.inj h
      exact nofun
  | cons field texts ih =>
      cases texts with
      | nil =>
          rw [groupsOf?] at h
          split at h
          · next n hGroup =>
            obtain rfl := Option.some.inj h
            exact List.forall_mem_singleton.mpr (group?_lt hGroup)
          · split at h
            · exact v4Groups?_lt h
            · cases h
      | cons next texts =>
          rw [groupsOf?] at h
          · obtain ⟨n, hGroup, hMap⟩ := Option.bind_eq_some_iff.mp h
            obtain ⟨later, hLater, rfl⟩ := Option.map_eq_some_iff.mp hMap
            exact List.forall_mem_cons.mpr ⟨group?_lt hGroup, ih hLater⟩
          · exact List.cons_ne_nil next texts

/-- An IPv6 address has eight groups. -/
theorem areGroups_of_v6? {cs : List Char} (h : v6? cs = some gs) :
    AreGroups gs := by
  unfold v6? at h
  split at h
  · obtain ⟨hGroups, hEight⟩ := Option.filter_eq_some_iff.mp h
    exact ⟨of_decide_eq_true hEight, groupsOf?_lt hGroups⟩
  · simp only [Option.bind_eq_bind, Option.bind_eq_some_iff] at h
    obtain ⟨before, hBefore, after, hAfter, hAll⟩ := h
    split at hAll
    · obtain rfl := Option.some.inj hAll
      refine ⟨?_, fun g hg => ?_⟩
      · rw [List.length_append, List.length_append, List.length_replicate]
        omega
      · obtain hFront | hg := List.mem_append.mp hg
        · obtain hg | hg := List.mem_append.mp hFront
          · exact groupsOf?_lt hBefore g hg
          · rw [List.eq_of_mem_replicate hg]
            decide
        · exact groupsOf?_lt hAfter g hg
    · cases hAll

/-! ## IPv4 -/

/-- Bytes fill the places from one of them on. -/
theorem foldl_places_le {firsts : List Nat} (hBytes : ∀ n ∈ firsts, n ≤ 255)
    (place value : Nat) (hPlaces : place + firsts.length ≤ 4) :
    (firsts.zipIdx place).foldl
      (fun acc (n, i) => acc + n * Nat.pow 256 (3 - i)) value +
      256 ^ (4 - (place + firsts.length)) ≤ value + 256 ^ (4 - place) := by
  induction firsts generalizing place value with
  | nil => exact Nat.le_refl _
  | cons n rest ih =>
      obtain ⟨hn, hRest⟩ := List.forall_mem_cons.mp hBytes
      rw [List.length_cons] at hPlaces
      have hLater :=
        ih hRest (place + 1) (value + n * Nat.pow 256 (3 - place)) (by omega)
      have hPlace : 4 - place = 3 - place + 1 := by omega
      have hByte : n * 256 ^ (3 - place) + 256 ^ (4 - (place + 1)) ≤
            256 ^ (4 - place) := by
        rw [show 4 - (place + 1) = 3 - place by omega, hPlace, Nat.pow_succ,
          ← Nat.succ_mul, Nat.mul_comm]
        exact Nat.mul_le_mul_left _ (Nat.succ_le_succ hn)
      rw [List.length_cons, List.zipIdx_cons, List.foldl_cons,
        Nat.add_comm rest.length 1, ← Nat.add_assoc]
      refine Nat.le_trans hLater ?_
      rw [Nat.add_assoc]
      exact Nat.add_le_add_left hByte value

/-- The numbers of an IPv4 address have 32 bits together. -/
theorem lt_of_v4OfNumbers? {numbers : List Nat} {address : Nat}
    (h : v4OfNumbers? numbers = some address) : address < 256 ^ 4 := by
  unfold v4OfNumbers? at h
  split at h
  · cases h
  · next last firsts _ =>
    dsimp only at h
    generalize firsts.reverse = firsts at h
    split at h
    · cases h
    · next hFits =>
      have hLast : last < 256 ^ (4 - firsts.length) :=
        Nat.lt_of_not_le fun hLe => hFits (.inr (.inr hLe))
      have hBytes : ∀ n ∈ firsts, n ≤ 255 := fun n hn =>
        Nat.le_of_not_lt fun hLess =>
          hFits (.inr (.inl
            (List.any_eq_true.mpr ⟨n, hn, decide_eq_true hLess⟩)))
      have hCount : 0 + firsts.length ≤ 4 := by omega
      have hSum := foldl_places_le hBytes 0 last hCount
      rw [Nat.zero_add, Nat.sub_zero] at hSum
      obtain rfl := Option.some.inj h
      refine Nat.lt_of_add_lt_add_right (Nat.lt_of_le_of_lt hSum ?_)
      rw [Nat.add_comm]
      exact Nat.add_lt_add_left hLast _

/-- The bytes of an address, the highest first. -/
def bytesOf (address : Nat) : List Nat := [3, 2, 1, 0].map fun i =>
    address / Nat.pow 256 i % 256

theorem bytesOf_lt (address : Nat) : ∀ b ∈ bytesOf address, b < 256 :=
  List.forall_mem_map.mpr fun _ _ => Nat.mod_lt _ (by decide)

theorem renderV4_eq (address : Nat) :
    renderV4 address = ['.'].intercalate
      ((bytesOf address).map Decimal.ofNat) := by
  rw [renderV4, bytesOf, List.map_map]
  rfl

/-- The bytes of an address make up the address. -/
theorem v4OfNumbers?_bytesOf {address : Nat} (h : address < 256 ^ 4) :
    v4OfNumbers? (bytesOf address) = some address := by
  have hLow := bytesOf_lt address
  have h3 : Nat.pow 256 3 = 0x1000000 := rfl
  have h2 : Nat.pow 256 2 = 0x10000 := rfl
  have h1 : Nat.pow 256 1 = 0x100 := rfl
  have h0 : Nat.pow 256 0 = 1 := rfl
  have hBytes : bytesOf address =
      [address / 0x1000000 % 256, address / 0x10000 % 256,
        address / 0x100 % 256, address / 1 % 256] := by
    rw [bytesOf, List.map_cons, List.map_cons, List.map_cons,
      List.map_singleton, h3, h2, h1, h0]
  have hValue : address / 1 % 256 + address / 0x1000000 % 256 * 0x1000000 +
        address / 0x10000 % 256 * 0x10000 +
      address / 0x100 % 256 * 0x100 = address := by omega
  rw [hBytes] at hLow ⊢
  generalize address / 0x1000000 % 256 = a at *
  generalize address / 0x10000 % 256 = b at *
  generalize address / 0x100 % 256 = c at *
  generalize address / 1 % 256 = d at *
  simp only [List.forall_mem_cons] at hLow
  have hFits : ¬ (3 < [a, b, c].length ∨ [a, b, c].any (255 < ·) ∨
        Nat.pow 256 (4 - [a, b, c].length) ≤ d) := by
    have hRoom : 4 - [a, b, c].length = 1 := rfl
    rw [hRoom, h1]
    simp
    omega
  show (if _ then none else some (([a, b, c].zipIdx).foldl _ d)) = some address
  refine (if_neg hFits).trans ?_
  simp only [List.zipIdx_cons, List.zipIdx_nil, List.foldl_cons, List.foldl_nil,
    Nat.zero_add, Nat.reduceAdd, Nat.reduceSub, h3, h2, h1, hValue]

/-- A byte is read back. -/
theorem v4Number?_ofNat : ∀ b < 256, v4Number? (Decimal.ofNat b) = some b := by
  decide +kernel

theorem digit_of_mem_ofNat {n : Nat} {c : Char} (h : c ∈ Decimal.ofNat n) :
    '0' ≤ c ∧ c ≤ '9' := by
  have hDigit :=
    Decimal.isSome_digit?_of_readFrom (Decimal.readFrom_ofNat n) c h
  unfold Decimal.digit? at hDigit
  split at hDigit
  · next hRange => exact hRange
  · cases hDigit

theorem ofNat_ne_nil (n : Nat) : Decimal.ofNat n ≠ [] := by
  obtain ⟨d, ds, hDigits, -⟩ := Decimal.exists_ofNat_eq_cons n
  rw [hDigits]
  exact List.cons_ne_nil d ds

/-- What is so of a digit in a name. -/
structure PlainDigit (c : Char) : Prop where
  ascii : c.toNat < 0x80
  stays : Domain.stays c = true
  unmarked : c ≠ 'x' ∧ c ≠ '.'
  direction : Domain.turnsName c = false
  allowed : Domain.isForbidden c = false

theorem plainDigit {c : Char} (h : '0' ≤ c ∧ c ≤ '9') : PlainDigit c := by
  have hAll : ∀ n < 0x80, '0' ≤ Char.ofNat n ∧ Char.ofNat n ≤ '9' →
      (Char.ofNat n).toNat < 0x80 ∧
      Domain.stays (Char.ofNat n) = true ∧
      (Char.ofNat n ≠ 'x' ∧ Char.ofNat n ≠ '.') ∧
      Domain.turnsName (Char.ofNat n) = false ∧
      Domain.isForbidden (Char.ofNat n) = false := by decide
  have hAscii : c.toNat < 0x80 :=
    Nat.lt_of_le_of_lt (m := '9'.toNat) h.2 (by decide)
  have hc := hAll c.toNat hAscii
  rw [Char.ofNat_toNat] at hc
  obtain ⟨hSmall, hStays, hUnmarked, hDirection, hAllowed⟩ := hc h
  exact ⟨hSmall, hStays, hUnmarked, hDirection, hAllowed⟩

/-- Numerals are the same in ASCII. -/
theorem asciiOf_numerals (numbers : List Nat) :
    Domain.asciiOf (numbers.map Decimal.ofNat) =
    ['.'].intercalate (numbers.map Decimal.ofNat) := by
  have hSame : ∀ text ∈ numbers.map Decimal.ofNat,
      Domain.Label.toAscii text = text :=
    List.forall_mem_map.mpr fun n _ => if_pos (List.all_eq_true.mpr fun c hc =>
      decide_eq_true (plainDigit (digit_of_mem_ofNat hc)).ascii)
  rw [Domain.asciiOf, List.map_congr_left hSame, List.map_id']

/-- Numerals are the labels of a name. -/
theorem isName_numerals {numbers : List Nat} (h : numbers ≠ []) :
    Domain.IsName (numbers.map Decimal.ofNat) := by
  have hDigits : ∀ text ∈ numbers.map Decimal.ofNat, ∀ c ∈ text, PlainDigit c :=
    List.forall_mem_map.mpr fun n _ c hc => plainDigit (digit_of_mem_ofNat hc)
  constructor
  case nonempty => exact mt List.map_eq_nil_iff.mp h
  case labels =>
    intro text hText
    refine Domain.isLabel_of_free (fun c hc => ?_) ?_
    · have hc := hDigits text hText c hc
      exact ⟨Domain.free_ascii hc.ascii, hc.stays, hc.unmarked.2⟩
    · cases text with
      | nil => rfl
      | cons c cs =>
          have hc := hDigits _ hText c List.mem_cons_self
          exact if_neg hc.unmarked.1.symm
  case oneWay =>
    have hNone : (numbers.map Decimal.ofNat).any (·.any Domain.turnsName) =
          false := by
      refine List.any_eq_false.mpr fun text hText =>
        Bool.eq_false_iff.mp (List.any_eq_false.mpr fun c hc => ?_)
      exact Bool.eq_false_iff.mp (hDigits text hText c hc).direction
    rw [hNone, Bool.false_and]
  case allowed =>
    rw [asciiOf_numerals]
    refine List.any_eq_false.mpr fun c hc => Bool.eq_false_iff.mp ?_
    obtain hPoint | ⟨text, hText, hMem⟩ := Chars.mem_intercalate hc
    · obtain rfl := List.mem_singleton.mp hPoint
      decide
    · exact (hDigits text hText c hMem).allowed

theorem asciiOf_bytes (address : Nat) :
    Domain.asciiOf ((bytesOf address).map Decimal.ofNat) =
      renderV4 address := by
  rw [asciiOf_numerals, renderV4_eq]

/-- The labels of an IPv4 address are its numerals. -/
theorem labels_renderV4 (address : Nat) :
    labels (renderV4 address) = (bytesOf address).map Decimal.ofNat := by
  have hSplit : Chars.splitOn ['.'] (renderV4 address) =
        (bytesOf address).map Decimal.ofNat := by
    rw [renderV4_eq]
    refine Chars.splitOn_intercalate
      (List.forall_mem_map.mpr fun n _ hPoint => ?_) (List.cons_ne_nil _ _)
    exact (plainDigit (digit_of_mem_ofNat hPoint)).unmarked.2 rfl
  unfold labels
  rw [hSplit]
  refine if_neg fun hLast => ofNat_ne_nil _ (Option.some.inj hLast)

theorem renderV4_ne_nil (address : Nat) : renderV4 address ≠ [] := by
  intro hEmpty
  have hLabels := labels_renderV4 address
  rw [hEmpty] at hLabels
  cases hLabels

/-- **An IPv4 address is read back.** -/
theorem v4?_renderV4 {address : Nat} (h : address < 256 ^ 4) :
    v4? (renderV4 address) = some address := by
  have hRead : ((bytesOf address).map Decimal.ofNat).mapM v4Number? =
        some (bytesOf address) := by
    refine Domain.mapM_eq_some_iff.mpr
      (List.forall₂_map_left_iff.mpr (List.forall₂_same.mpr fun b hb => ?_))
    exact v4Number?_ofNat b (bytesOf_lt address b hb)
  unfold v4?
  rw [labels_renderV4, hRead]
  exact v4OfNumbers?_bytesOf h

theorem endsInNumber_renderV4 (address : Nat) :
    endsInNumber (renderV4 address) = true := by
  have hLast : (labels (renderV4 address)).getLast? =
        some (Decimal.ofNat (address / Nat.pow 256 0 % 256)) := by
    rw [labels_renderV4]
    rfl
  have hByte :=
    v4Number?_ofNat (address / Nat.pow 256 0 % 256) (Nat.mod_lt _ (by decide))
  unfold endsInNumber
  rw [hLast]
  dsimp only
  rw [hByte]
  exact Bool.or_true _

/-! ## Any host -/

/-- What is so of every host that is read. -/
inductive WellFormed : Host → Prop
  | domain {texts : List (List Char)} (h : Domain.IsName texts)
      (hSome : Domain.asciiOf texts ≠ [])
      (hNumber : endsInNumber (Domain.asciiOf texts) = false) :
      WellFormed (.domain (Domain.asciiOf texts))
  | v4 {address : Nat} (h : address < 256 ^ 4) : WellFormed (.v4 address)
  | v6 {groups : List Nat} (h : AreGroups groups) : WellFormed (.v6 groups)

/-- **Every host that is read is well-formed.** -/
theorem wellFormed_of_read? {cs : List Char} {host : Host}
    (h : read? cs = some host) : host.WellFormed := by
  unfold read? at h
  split at h
  · split at h
    · obtain ⟨groups, hGroups, rfl⟩ := Option.map_eq_some_iff.mp h
      exact .v6 (areGroups_of_v6? hGroups)
    · cases h
  · obtain ⟨name, hName, hHost⟩ := Option.bind_eq_some_iff.mp h
    split at hHost
    · cases hHost
    · next hSome =>
      split at hHost
      · obtain ⟨address, hAddress, rfl⟩ := Option.map_eq_some_iff.mp hHost
        obtain ⟨numbers, -, hNumbers⟩ := Option.bind_eq_some_iff.mp hAddress
        exact .v4 (lt_of_v4OfNumbers? hNumbers)
      · next hNumber =>
        obtain rfl := Option.some.inj hHost
        obtain ⟨texts, hIsName, rfl⟩ := Domain.exists_isName hName
        exact .domain hIsName (mt List.isEmpty_iff.mpr hSome)
          (Bool.eq_false_iff.mpr hNumber)

/-- A host that does not begin with a bracket is read as a domain. -/
theorem read?_of_head {cs : List Char} (h : ∀ rest, cs ≠ '[' :: rest) :
    read? cs =
    (Domain.toAscii? cs).bind fun name =>
      if name.isEmpty then none
      else if endsInNumber name then (v4? name).map .v4
      else some (.domain name) := by
  unfold read?
  split
  · next rest => exact absurd rfl (h rest)
  · rfl

/-- A name in ASCII does not begin with a bracket. -/
theorem ne_bracket {texts : List (List Char)} (h : Domain.IsName texts)
    (rest : List Char) : Domain.asciiOf texts ≠ '[' :: rest := by
  intro hSame
  have hAllowed := (h.mem_ascii '[' (hSame ▸ List.mem_cons_self)).2.2
  exact absurd hAllowed (by decide)

/-- **The normal form of a host is read as the host.** -/
theorem WellFormed.read?_render {host : Host} (h : host.WellFormed) :
    read? host.render = some host := by
  cases h with
  | domain h hSome hNumber =>
      rename_i texts
      show read? (Domain.asciiOf texts) = some (.domain (Domain.asciiOf texts))
      rw [read?_of_head (ne_bracket h), h.toAscii?_asciiOf, Option.bind_some,
        if_neg (mt List.isEmpty_iff.mp hSome), hNumber,
        if_neg Bool.false_ne_true]
  | v4 h =>
      rename_i address
      have hBytes : bytesOf address ≠ [] := List.cons_ne_nil _ _
      have hName := isName_numerals hBytes
      have hSome : ¬ (renderV4 address).isEmpty = true :=
        mt List.isEmpty_iff.mp (renderV4_ne_nil address)
      have hAscii := hName.toAscii?_asciiOf
      rw [asciiOf_bytes] at hAscii
      show read? (renderV4 address) = some (.v4 address)
      rw [read?_of_head (asciiOf_bytes address ▸ ne_bracket hName), hAscii,
        Option.bind_some, if_neg hSome, if_pos (endsInNumber_renderV4 address),
        v4?_renderV4 h, Option.map_some]
  | v6 h =>
      rename_i groups
      show read? ('[' :: (renderV6 groups ++ [']'])) = some (.v6 groups)
      show (if (renderV6 groups ++ [']']).getLast? = some ']' then
          (v6? (renderV6 groups ++ [']']).dropLast).map Host.v6
        else none) = _
      rw [List.getLast?_concat, if_pos rfl, List.dropLast_concat,
        v6?_renderV6 h, Option.map_some]

/-- The character is ASCII and may stand in a name. -/
def IsPlain (c : Char) : Prop := c.toNat < 0x80 ∧ Domain.isForbidden c = false

theorem mem_renderGroups {c : Char} (h : c ∈ renderGroups gs) :
    c = ':' ∨ IsPlain c := by
  obtain hColon | ⟨group, hGroup, hMem⟩ := Chars.mem_intercalate h
  · exact .inl (List.mem_singleton.mp hColon)
  · obtain ⟨g, -, rfl⟩ := List.mem_map.mp hGroup
    obtain ⟨d, hd, rfl⟩ := exists_of_mem_hexOnto hMem
    have hAll : ∀ d < 16, (Chars.hexDigit d).toNat < 0x80 ∧
        Domain.isForbidden (Chars.hexDigit d) = false := by decide
    exact .inr (hAll d hd)

theorem mem_renderV6 {c : Char} (h : c ∈ renderV6 gs) :
    c = ':' ∨ IsPlain c := by
  unfold renderV6 at h
  dsimp only at h
  split at h
  · exact mem_renderGroups h
  · obtain hLeft | hRest := List.mem_append.mp h
    · exact mem_renderGroups hLeft
    · obtain rfl | hRest := List.mem_cons.mp hRest
      · exact .inl rfl
      · obtain rfl | hRight := List.mem_cons.mp hRest
        · exact .inl rfl
        · exact mem_renderGroups hRight

/-- **The characters of a host** are ASCII characters that may stand in a name,
and where the host is an IPv6 address also colons, with brackets around
them. -/
theorem WellFormed.render_shape {host : Host} (h : host.WellFormed) :
    (∀ c ∈ host.render, IsPlain c) ∨
    ∃ inner, host.render = '[' :: (inner ++ [']']) ∧ ∀ c ∈ inner, c = ':' ∨
    IsPlain c := by
  cases h with
  | domain h =>
      exact .inl fun c hc => ⟨(h.mem_ascii c hc).1, (h.mem_ascii c hc).2.2⟩
  | v4 h =>
      rename_i address
      have hBytes : bytesOf address ≠ [] := List.cons_ne_nil _ _
      have hName := isName_numerals hBytes
      refine .inl fun c hc => ?_
      have hc := hName.mem_ascii c (asciiOf_bytes address ▸ hc)
      exact ⟨hc.1, hc.2.2⟩
  | v6 h => exact .inr ⟨_, rfl, fun c hc => mem_renderV6 hc⟩

theorem WellFormed.render_ne_nil {host : Host} (h : host.WellFormed) :
    host.render ≠ [] := by
  cases h with
  | domain _ hSome _ => exact hSome
  | v4 _ => exact renderV4_ne_nil _
  | v6 h => exact List.cons_ne_nil _ _

theorem isPlain_of_mem_ofNat {n : Nat} {c : Char} (h : c ∈ Decimal.ofNat n) :
    IsPlain c :=
  have hDigit := plainDigit (digit_of_mem_ofNat h)
  ⟨hDigit.ascii, hDigit.allowed⟩

end Errand.Host
