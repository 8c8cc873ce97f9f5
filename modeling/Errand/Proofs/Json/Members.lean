import Errand.Proofs.Json.Records
import Errand.Proofs.Json.Tree

/-!
# What records are read from

A text comes from outside and may spell anything. This file goes back from a
record that was read to what the text holds. An object is gone through member
by member: those with a name of the record are read, each at most once, and all
others are passed over, whatever they are. An array is read like an object
whose members have the names of the record in their order (`Tree.members?`).

A member is found where the one before it ends, so every reader has to end
where its value ends. That is `Decoder.ReadsOne`, with a lemma for each of the
readers that fields are read with.

## Main results

* `Decoder.ReadsOne.record`: a reader for records reads one value if the
  readers of its slots do.
* `Decoder.membersRead_of_record`: a record comes from members of a tree.
* `Decoder.MembersRead.field_cases`: a field of the record comes from the one
  member with its name, or it has the value from before.
* `Decoder.exists_of_ofText`: a text that is read spells a tree.
-/

namespace Errand.Json

/-! ## Where a value ends -/

/-- What is left after a value in a place with `depth` arrays and objects
around it. -/
def leave (depth : Nat) (es : List Event) : Except Fault (List Event) :=
  if depth = 0 then .ok es else skip depth es

theorem leave_of_resume {room : Nat} {v j : Json} {opened : List Unfinished}
    {es rest : List Event}
    (hTake : ∀ opened', take room opened' es = .ok (j, rest) →
      skip opened'.length es = .ok rest)
    (h : resume room v opened es = .ok (j, rest)) :
    leave opened.length es = .ok rest := by
  cases opened with
  | nil =>
      cases h
      rfl
  | cons u outer =>
      cases u with
      | items done => exact hTake (.items (v :: done) :: outer) h
      | fields done key =>
          exact hTake (.fields (Fields.insert key v done) key :: outer) h

theorem skip_of_value {e : Event} {v : Json} (h : e.value? = some v)
    (depth : Nat) (es : List Event) :
    skip depth (e :: es) = leave depth es := by
  cases e with
  | null => rfl
  | bool b => rfl
  | num n => rfl
  | str s => rfl
  | _ => cases h

/-- **Reading a value ends where passing over it ends.** -/
theorem skip_of_take {room : Nat} {opened : List Unfinished}
    {es rest : List Event} {j : Json}
    (h : take room opened es = .ok (j, rest)) :
    skip opened.length es = .ok rest := by
  induction es generalizing opened with
  | nil => cases h
  | cons e es ih =>
      have hResume : ∀ {v : Json} {outer : List Unfinished},
          resume room v outer es = .ok (j, rest) →
          leave outer.length es = .ok rest :=
        leave_of_resume fun _ hTake => ih hTake
      have hClose : ∀ {depth : Nat}, leave depth es = .ok rest →
          (if depth + 1 ≤ 1 then Except.ok es else skip depth es) =
            .ok rest := by
        intro depth hLeave
        cases depth with
        | zero => exact hLeave
        | succ depth => exact hLeave
      cases advances_of_take h with
      | value hValue hRest =>
          exact (skip_of_value hValue _ es).trans (hResume hRest)
      | openArr hRoom hRest => exact ih hRest
      | openObj hRoom hRest => exact ih hRest
      | @key done last name outer hRest =>
          have hNext : skip (Unfinished.fields done name :: outer).length es =
                .ok rest := ih hRest
          exact hNext
      | closeArr hRest => exact hClose (hResume hRest)
      | closeObj hRest => exact hClose (hResume hRest)

namespace Decoder

variable {α β : Type} {at_ : Depth} {es rest tail : List Event} {a : α}

/-! ## One step of a reader -/

theorem exists_of_bind {d : Decoder β} {k : β → Decoder α}
    (h : (d >>= k) at_ es = .ok (a, rest)) :
    ∃ b mid, d at_ es = .ok (b, mid) ∧ k b at_ mid = .ok (a, rest) := by
  change Decoder.bind d k at_ es = _ at h
  unfold Decoder.bind at h
  split at h
  · cases h
  · next b mid hd => exact ⟨b, mid, hd, h⟩

theorem exists_of_event {k : Event → Decoder α}
    (h : (event >>= k) at_ es = .ok (a, rest)) :
    ∃ e mid, es = e :: mid ∧ k e at_ mid = .ok (a, rest) := by
  obtain ⟨e, mid, hEvent, hNext⟩ := exists_of_bind h
  cases es with
  | nil => cases hEvent
  | cons e' es =>
      cases hEvent
      exact ⟨e, mid, rfl, hNext⟩

theorem exists_of_peek {k : Event → Decoder α}
    (h : (peek >>= k) at_ es = .ok (a, rest)) :
    ∃ e mid, es = e :: mid ∧ k e at_ es = .ok (a, rest) := by
  obtain ⟨e, mid, hPeek, hNext⟩ := exists_of_bind h
  cases es with
  | nil => cases hPeek
  | cons e' es =>
      cases hPeek
      exact ⟨e, es, rfl, hNext⟩

theorem exists_of_deeper {d : Decoder α} (h : deeper d at_ es = .ok (a, rest)) :
    ∃ room, d { at_ with room } es = .ok (a, rest) := by
  unfold deeper at h
  split at h
  · cases h
  · next room _ => exact ⟨room, h⟩

/-! ## Readers of one value -/

/-- The reader ends where the tree ends that it reads. -/
def ReadsOne (d : Decoder α) : Prop :=
  ∀ at_ (t : Tree) tail a rest, d at_ (t.eventsOnto tail) = .ok (a, rest) →
    rest = tail

/-- The reader reads `a` from the tree, with something behind it. -/
def Yields (d : Decoder α) (at_ : Depth) (t : Tree) (a : α) : Prop :=
  ∃ tail, d at_ (t.eventsOnto tail) = .ok (a, tail)

theorem Careful.value : Careful value := by
  intro at_ es j rest h hFaulty
  unfold Decoder.value at h
  split at h
  · cases h
  · next r hTake =>
      cases h
      exact faulty_of_skip (skip_of_take hTake) hFaulty

namespace ReadsOne

theorem yields {d : Decoder α} (hd : ReadsOne d) {t : Tree}
    (h : d at_ (t.eventsOnto tail) = .ok (a, rest)) :
    rest = tail ∧ d.Yields at_ t a := by
  have hRest := hd at_ t tail a rest h
  subst hRest
  exact ⟨rfl, rest, h⟩

theorem int (low high : Int) (expected : String) :
    ReadsOne (int low high expected) := by
  intro at_ t tail i rest h
  obtain ⟨e, mid, hEvents, hNext⟩ := exists_of_event h
  split at hNext
  · split at hNext
    · cases hNext
      cases t <;> cases hEvents
      rfl
    · cases hNext
  · cases hNext

theorem text : ReadsOne text := by
  intro at_ t tail s rest h
  obtain ⟨e, mid, hEvents, hNext⟩ := exists_of_event h
  split at hNext
  · cases hNext
    cases t <;> cases hEvents
    rfl
  · cases hNext

theorem value : ReadsOne value := by
  intro at_ t tail j rest h
  unfold Decoder.value at h
  split at h
  · cases h
  · next r hTake =>
      cases h
      have hSkip := skip_of_take hTake
      rw [List.length_nil, t.skip_eventsOnto] at hSkip
      exact (Except.ok.inj hSkip).symm

theorem skipped : ReadsOne skipped := by
  intro at_ t tail u rest h
  unfold Decoder.skipped at h
  rw [t.skip_eventsOnto] at h
  cases h
  rfl

/-- What is made of the value does not matter. -/
theorem map {d : Decoder β} (hd : ReadsOne d) (f : β → α) :
    ReadsOne (d >>= fun b => done (f b)) := by
  intro at_ t tail a rest h
  obtain ⟨b, mid, hRead, hDone⟩ := exists_of_bind h
  cases hDone
  exact hd at_ t tail b rest hRead

theorem count (expected : String) : ReadsOne (count expected) :=
  (int _ _ expected).map Int.toNat

theorem nullable {d : Decoder α} (hd : ReadsOne d) : ReadsOne (nullable d) := by
  intro at_ t tail a? rest h
  obtain ⟨e, mid, hEvents, hNext⟩ := exists_of_peek h
  split at hNext
  · rw [hEvents] at hNext
    cases hNext
    cases t <;> cases hEvents
    rfl
  · exact hd.map some at_ t tail a? rest hNext

theorem slot {d : Decoder β} (hd : ReadsOne d) (name : String)
    (presence : Presence) (set : β → α → α) :
    ReadsOne (slot name presence d set).read :=
  hd.map set

end ReadsOne

/-! ## What is read from a tree -/

namespace Yields

variable {t : Tree}

theorem of_count {expected : String} {n : Nat}
    (h : (count expected).Yields at_ t n) : t = .num (some (.int n)) := by
  obtain ⟨tail, hRead⟩ := h
  obtain ⟨i, mid, hInt, hDone⟩ := exists_of_bind hRead
  obtain ⟨e, mid', hEvents, hNext⟩ := exists_of_event hInt
  split at hNext
  · split at hNext
    · next hRange =>
        cases hNext
        cases hDone
        rw [Int.toNat_of_nonneg hRange.1]
        cases t <;> cases hEvents
        rfl
    · cases hNext
  · cases hNext

/-- Null is read as none, and anything else as what it is. -/
theorem of_nullable {d : Decoder α} (hd : ReadsOne d) {a? : Option α}
    (h : (nullable d).Yields at_ t a?) :
    t = .null ∧ a? = none ∨ ∃ a, d.Yields at_ t a ∧ a? = some a := by
  obtain ⟨tail, hRead⟩ := h
  obtain ⟨e, mid, hEvents, hNext⟩ := exists_of_peek hRead
  split at hNext
  · rw [hEvents] at hNext
    cases hNext
    cases t <;> cases hEvents
    exact .inl ⟨rfl, rfl⟩
  · obtain ⟨a, mid', hSome, hDone⟩ := exists_of_bind hNext
    cases hDone
    exact .inr ⟨a, (hd.yields hSome).2, rfl⟩

theorem of_slot {d : Decoder β} (hd : ReadsOne d) {name : String}
    {presence : Presence} {set : β → α → α} {f : α → α}
    (h : (slot name presence d set).read.Yields at_ t f) :
    ∃ b, d.Yields at_ t b ∧ f = set b := by
  obtain ⟨tail, hRead⟩ := h
  obtain ⟨b, mid, hSome, hDone⟩ := exists_of_bind hRead
  cases hDone
  exact ⟨b, (hd.yields hSome).2, rfl⟩

end Yields

end Decoder

/-! ## Records -/

/-- The members of an object, or those that an array stands for in place of a
record whose fields have these names. -/
def Tree.members? (names : List String) :
    Tree → Option (List (Option String × Tree))
  | .obj members => some members
  | .arr items =>
    if items.length ≤ names.length then some ((names.map some).zip items)
    else none
  | _ => none

/-- What the members with a name hold. -/
def Tree.heldBy (key : String) (members : List (Option String × Tree)) :
    List Tree :=
  (members.filter fun m => m.1 = some key).map Prod.snd

theorem Tree.heldBy_cons_self (key : String) (t : Tree)
    (members : List (Option String × Tree)) :
    heldBy key ((some key, t) :: members) = t :: heldBy key members := by
  simp [heldBy]

theorem Tree.heldBy_cons_of_ne {key other : String} (h : other ≠ key) (t : Tree)
    (members : List (Option String × Tree)) :
    heldBy key ((some other, t) :: members) = heldBy key members := by
  simp [heldBy, h]

namespace Decoder

/-- What the slots make of a record by reading the members of an object, where
`seen` names those that were read before. A member with another name is passed
over. -/
inductive MembersRead (slots : List (Slot α)) (at_ : Depth) :
    List String → List (Option String × Tree) → α → α → Prop where
  | nil {seen : List String} {a : α}
      (hDone : ∀ s ∈ slots, s.presence = .required → s.name ∈ seen) :
      MembersRead slots at_ seen [] a a
  | field {seen : List String} {key : String} {t : Tree}
      {members : List (Option String × Tree)} {s : Slot α} {set : α → α}
      {a b : α} (hSlot : slots.find? (fun s => s.name = key) = some s)
      (hNew : key ∉ seen) (hRead : s.read.Yields at_ t set)
      (hRest : MembersRead slots at_ (key :: seen) members (set a) b) :
      MembersRead slots at_ seen ((some key, t) :: members) a b
  | other {seen : List String} {key : String} {t : Tree}
      {members : List (Option String × Tree)} {a b : α}
      (hOther : slots.find? (fun s => s.name = key) = none)
      (hRest : MembersRead slots at_ seen members a b) :
      MembersRead slots at_ seen ((some key, t) :: members) a b

/-- A record whose object ends has all the fields that it requires. -/
theorem fieldsUpTo_of_closeObj {slots : List (Slot α)} {fuel : Nat}
    {seen : List String} {start : α}
    (h : fieldsUpTo slots fuel seen start at_ (.closeObj :: tail) =
      .ok (a, rest)) :
    rest = tail ∧ a = start ∧ ∀ s ∈ slots, s.presence = .required →
    s.name ∈ seen := by
  cases fuel with
  | zero => cases h
  | succ fuel =>
      obtain ⟨e, mid, hEvents, hNext⟩ := exists_of_event h
      cases hEvents
      cases hMissing : slots.find? fun s =>
        s.presence = .required ∧ s.name ∉ seen with
      | some s =>
          simp only [hMissing] at hNext
          cases hNext
      | none =>
          simp only [hMissing] at hNext
          cases hNext
          refine ⟨rfl, rfl, fun s hs hRequired => ?_⟩
          have hSeen := List.find?_eq_none.mp hMissing s hs
          simpa [hRequired] using hSeen

/-- Members are read up to the end of their object. -/
theorem membersRead_of_fieldsUpTo {slots : List (Slot α)}
    (hSlots : ∀ s ∈ slots, ReadsOne s.read)
    {members : List (Option String × Tree)} {fuel : Nat} {seen : List String}
    {start : α}
    (h : fieldsUpTo slots fuel seen start at_
      (Tree.membersOnto members (.closeObj :: tail)) =
      .ok (a, rest)) :
      rest = tail ∧ MembersRead slots at_ seen members start a := by
  induction members generalizing fuel seen start with
  | nil =>
      obtain ⟨hRest, rfl, hDone⟩ := fieldsUpTo_of_closeObj h
      exact ⟨hRest, .nil hDone⟩
  | cons member members ih =>
      obtain ⟨key, t⟩ := member
      cases fuel with
      | zero => cases h
      | succ fuel =>
          obtain ⟨e, mid, hEvents, hNext⟩ := exists_of_event h
          split at hNext
          · cases hEvents
          · next name =>
            cases hEvents
            cases hFind : slots.find? fun s => s.name = name with
            | some s =>
                simp only [hFind] at hNext
                by_cases hSeen : name ∈ seen
                · rw [if_pos hSeen] at hNext
                  cases hNext
                · rw [if_neg hSeen] at hNext
                  obtain ⟨set, mid, hRead, hLater⟩ := exists_of_bind hNext
                  have hSlot := hSlots s (List.mem_of_find?_eq_some hFind)
                  obtain ⟨rfl, hYields⟩ := hSlot.yields hRead
                  obtain ⟨hRest, hMembers⟩ := ih hLater
                  exact ⟨hRest, .field hFind hSeen hYields hMembers⟩
            | none =>
                simp only [hFind] at hNext
                obtain ⟨_, mid, hSkipped, hLater⟩ := exists_of_bind hNext
                obtain ⟨rfl, -⟩ := ReadsOne.skipped.yields hSkipped
                obtain ⟨hRest, hMembers⟩ := ih hLater
                exact ⟨hRest, .other hFind hMembers⟩
          · cases hNext

/-- A row that has no more items ends where its array ends. -/
theorem row_of_closeArr {slots : List (Slot α)} {name : String}
    {total read : Nat} {start : α}
    (h : row name total slots read start at_ (.closeArr :: tail) =
      .ok (a, rest)) :
    rest = tail ∧ a = start ∧ ∀ s ∈ slots, s.presence = .defaulted := by
  induction slots with
  | nil =>
      cases h
      exact ⟨rfl, rfl, nofun⟩
  | cons s slots ih =>
      obtain ⟨e, mid, hEvents, hNext⟩ := exists_of_peek h
      cases hEvents
      by_cases hDefaulted : s.presence = .defaulted
      · simp only [hDefaulted, if_true] at hNext
        obtain ⟨hRest, hSame, hSlots⟩ := ih hNext
        exact ⟨hRest, hSame, List.forall_mem_cons.mpr ⟨hDefaulted, hSlots⟩⟩
      · simp only [hDefaulted, if_false] at hNext
        cases hNext

theorem ne_closeArr_of_eventsOnto {t : Tree} {e : Event} {mid : List Event}
    (h : t.eventsOnto tail = e :: mid) : e ≠ .closeArr := by
  cases t <;> cases h <;> exact nofun

/-- A slot behind others is found by its name. -/
theorem find?_slot {before slots : List (Slot α)} {s : Slot α}
    (h : ((before ++ s :: slots).map Slot.name).Nodup) :
    s.name ∉ before.map Slot.name ∧
      (before ++ s :: slots).find? (fun s' => s'.name = s.name) = some s := by
  have hNew : s.name ∉ before.map Slot.name := by
    rw [List.map_append, List.map_cons] at h
    exact fun hMem =>
      (List.nodup_append.mp h).2.2 _ hMem _ List.mem_cons_self rfl
  refine ⟨hNew, ?_⟩
  rw [List.find?_append, List.find?_eq_none.mpr, Option.none_or,
    List.find?_cons_of_pos]
  · exact decide_eq_true rfl
  · intro s' hs'
    rw [decide_eq_true_eq]
    exact fun hSame => hNew (hSame ▸ List.mem_map_of_mem hs')

/-- Items are read up to the end of their array, like members with the names of
the slots. The slots `before` have had their items already. -/
theorem membersRead_of_row {slots before : List (Slot α)}
    (hSlots : ∀ s ∈ slots, ReadsOne s.read)
    (hNames : ((before ++ slots).map Slot.name).Nodup) {items : List Tree}
    {name : String} {total read : Nat} {start : α}
    (h : row name total slots read start at_
      (Tree.itemsOnto items (.closeArr :: tail)) =
      .ok (a, rest)) :
    rest = tail ∧ items.length ≤ slots.length ∧
      MembersRead (before ++ slots) at_ (before.map Slot.name).reverse
        (((slots.map Slot.name).map some).zip items) start a := by
  induction slots generalizing before items read start with
  | nil =>
      cases items with
      | nil =>
          obtain ⟨rfl, rfl, -⟩ := row_of_closeArr h
          refine ⟨rfl, Nat.le_refl 0, .nil fun s hs _ => ?_⟩
          rw [List.append_nil] at hs
          exact List.mem_reverse.mpr (List.mem_map_of_mem hs)
      | cons t items =>
          obtain ⟨e, mid, hEvents, hNext⟩ := exists_of_peek h
          split at hNext
          · exact absurd rfl (ne_closeArr_of_eventsOnto hEvents)
          · cases hNext
          · dsimp only at hNext
            split at hNext <;> cases hNext
  | cons s slots ih =>
      obtain ⟨hFirst, hRest⟩ := List.forall_mem_cons.mp hSlots
      cases items with
      | nil =>
          obtain ⟨rfl, rfl, hDefaulted⟩ := row_of_closeArr h
          refine ⟨rfl, Nat.zero_le _, .nil fun s' hs' hRequired => ?_⟩
          rcases List.mem_append.mp hs' with hBefore | hLater
          · exact List.mem_reverse.mpr (List.mem_map_of_mem hBefore)
          · cases hRequired.symm.trans (hDefaulted s' hLater)
      | cons t items =>
          obtain ⟨e, mid, hEvents, hNext⟩ := exists_of_peek h
          split at hNext
          · exact absurd rfl (ne_closeArr_of_eventsOnto hEvents)
          · obtain ⟨set, mid, hRead, hLater⟩ := exists_of_bind hNext
            obtain ⟨rfl, hYields⟩ := hFirst.yields hRead
            have hNames' :
                (((before ++ [s]) ++ slots).map Slot.name).Nodup := by
              rwa [List.append_assoc, List.singleton_append]
            obtain ⟨hTail, hLength, hMembers⟩ := ih hRest hNames' hLater
            obtain ⟨hNew, hFind⟩ := find?_slot hNames
            rw [List.append_assoc, List.singleton_append, List.map_append,
              List.reverse_append] at hMembers
            exact ⟨hTail, Nat.succ_le_succ hLength,
              .field hFind (fun hMem => hNew (List.mem_reverse.mp hMem))
                hYields hMembers⟩

/-- **A record comes from members of a tree**: from those of an object, or from
the items of an array that stand for them. -/
theorem membersRead_of_record {slots : List (Slot α)}
    (hSlots : ∀ s ∈ slots, ReadsOne s.read)
    (hNames : (slots.map Slot.name).Nodup) {name : String} {start : α}
    {t : Tree}
    (h : record name slots start at_ (t.eventsOnto tail) = .ok (a, rest)) :
    rest = tail ∧ ∃ room members,
      t.members? (slots.map Slot.name) = some members ∧
      MembersRead slots { at_ with room } [] members start a := by
  obtain ⟨e, mid, hEvents, hNext⟩ := exists_of_event h
  split at hNext
  · obtain ⟨room, hFields⟩ := exists_of_deeper hNext
    cases t with
    | obj members =>
        cases hEvents
        obtain ⟨hRest, hMembers⟩ := membersRead_of_fieldsUpTo hSlots hFields
        exact ⟨hRest, room, members, rfl, hMembers⟩
    | _ => cases hEvents
  · obtain ⟨room, hRow⟩ := exists_of_deeper hNext
    cases t with
    | arr items =>
        cases hEvents
        have hNone : (([] ++ slots).map Slot.name).Nodup := hNames
        obtain ⟨hRest, hLength, hMembers⟩ :=
          membersRead_of_row hSlots hNone hRow
        rw [← List.length_map Slot.name] at hLength
        exact ⟨hRest, room, _, if_pos hLength, hMembers⟩
    | _ => cases hEvents
  · cases hNext

theorem ReadsOne.record {slots : List (Slot α)}
    (hSlots : ∀ s ∈ slots, ReadsOne s.read)
    (hNames : (slots.map Slot.name).Nodup) (name : String) (start : α) :
    ReadsOne (record name slots start) := by
  intro at_ t tail a rest h
  exact (membersRead_of_record hSlots hNames h).1

/-! ## Fields -/

section

variable {slots : List (Slot α)} {get : α → β} {s : Slot α} {seen : List String}
  {members : List (Option String × Tree)} {a b : α}
  (hSlot : slots.find? (fun s' => s'.name = s.name) = some s)
  (hOthers : ∀ s' ∈ slots, s'.name ≠ s.name →
    ∀ at_ t set, s'.read.Yields at_ t set →
    ∀ a, get (set a) = get a)

include hSlot hOthers

/-- A field that was read before is not read again. -/
theorem MembersRead.field_of_seen (h : MembersRead slots at_ seen members a b)
    (hSeen : s.name ∈ seen) :
    Tree.heldBy s.name members = [] ∧ get b = get a := by
  induction h with
  | nil hDone => exact ⟨rfl, rfl⟩
  | @field seen key t members s' set a b hFind hNew hRead hRest ih =>
      have hKey : s'.name = key := by simpa using List.find?_some hFind
      have hNe : key ≠ s.name := fun hSame => hNew (hSame ▸ hSeen)
      obtain ⟨hHeld, hGet⟩ := ih (List.mem_cons_of_mem key hSeen)
      rw [Tree.heldBy_cons_of_ne hNe]
      refine ⟨hHeld, hGet.trans ?_⟩
      exact hOthers s' (List.mem_of_find?_eq_some hFind)
        (hKey ▸ hNe) at_ t set hRead a
  | @other seen key t members a b hOther hRest ih =>
      have hNe : key ≠ s.name := by
        rintro rfl
        cases hOther.symm.trans hSlot
      rw [Tree.heldBy_cons_of_ne hNe]
      exact ih hSeen

/-- **A field comes from the one member with its name**, or it has the value
from before. -/
theorem MembersRead.field_cases (h : MembersRead slots at_ seen members a b) :
    Tree.heldBy s.name members = [] ∧ get b = get a ∨
      ∃ t set a', Tree.heldBy s.name members = [t] ∧ s.read.Yields at_ t set ∧
        get b = get (set a') := by
  induction h with
  | nil hDone => exact .inl ⟨rfl, rfl⟩
  | @field seen key t members s' set a b hFind hNew hRead hRest ih =>
      have hKey : s'.name = key := by simpa using List.find?_some hFind
      by_cases hSame : key = s.name
      · subst hSame
        obtain rfl := Option.some.inj (hFind.symm.trans hSlot)
        obtain ⟨hHeld, hGet⟩ :=
          hRest.field_of_seen hSlot hOthers List.mem_cons_self
        refine .inr ⟨t, set, a, ?_, hRead, hGet⟩
        rw [Tree.heldBy_cons_self, hHeld]
      · have hSet :=
          hOthers s' (List.mem_of_find?_eq_some hFind)
            (hKey ▸ hSame) at_ t set hRead a
        rw [Tree.heldBy_cons_of_ne hSame, ← hSet]
        exact ih
  | @other seen key t members a b hOther hRest ih =>
      have hNe : key ≠ s.name := by
        rintro rfl
        cases hOther.symm.trans hSlot
      rw [Tree.heldBy_cons_of_ne hNe]
      exact ih

end

/-- A slot for another field leaves this one alone. -/
theorem Yields.keeps {γ : Type} {get : α → β} {d : Decoder γ} (hd : ReadsOne d)
    {set : γ → α → α} (hKeeps : ∀ v a, get (set v a) = get a) {name : String}
    {presence : Presence} {t : Tree} {f : α → α}
    (h : (slot name presence d set).read.Yields at_ t f) (a : α) :
    get (f a) = get a := by
  obtain ⟨v, -, rfl⟩ := h.of_slot hd
  exact hKeeps v a

/-- What a field is read from that may be missing or null: there is one member
with its name, or none. -/
def FieldRead (key : String) (members : List (Option String × Tree))
    (d : Decoder β) (b? : Option β) : Prop :=
  (Tree.heldBy key members = [] ∨ Tree.heldBy key members = [.null]) ∧
    b? = none ∨
    ∃ at_ t b, Tree.heldBy key members = [t] ∧ d.Yields at_ t b ∧ b? = some b

/-- **A field that may be missing or null, from the members of its record.** -/
theorem MembersRead.fieldRead {slots : List (Slot α)} {get : α → Option β}
    {d : Decoder β} {key : String} {set : Option β → α → α}
    {members : List (Option String × Tree)} {a b : α} (hd : ReadsOne d)
    (hGet : ∀ v a, get (set v a) = v)
    (hSlot : slots.find? (fun s => s.name = key) =
      some (slot key .defaulted (nullable d) set))
    (hOthers : ∀ s ∈ slots, s.name ≠ key → ∀ at_ t f, s.read.Yields at_ t f →
      ∀ a, get (f a) = get a)
    (hStart : get a = none) (h : MembersRead slots at_ [] members a b) :
    FieldRead key members d (get b) := by
  have hCases :=
    h.field_cases (s := slot key .defaulted (nullable d) set) hSlot hOthers
  rcases hCases with ⟨hNone, hSame⟩ | ⟨t, f, a', hOne, hRead, hField⟩
  · exact .inl ⟨.inl hNone, hSame.trans hStart⟩
  · obtain ⟨v, hValue, rfl⟩ := hRead.of_slot hd.nullable
    rw [hGet] at hField
    rcases hValue.of_nullable hd with ⟨rfl, rfl⟩ | ⟨b', hYields, rfl⟩
    · exact .inl ⟨.inr hOne, hField⟩
    · exact .inr ⟨at_, t, b', hOne, hYields, hField⟩

/-- Members with other names are passed over, each with a round of its own. -/
theorem fieldsUpTo_others {slots : List (Slot α)}
    {members : List (Option String × Tree)}
    (h : ∀ m ∈ members, ∃ key, m.1 = some key ∧
      slots.find? (fun s => s.name = key) = none)
    (fuel : Nat) (seen : List String) (start : α) (es : List Event) :
    fieldsUpTo slots (fuel + members.length) seen start at_
      (Tree.membersOnto members es) =
      fieldsUpTo slots fuel seen start at_ es := by
  induction members with
  | nil => rfl
  | cons member members ih =>
      obtain ⟨⟨key, hKey, hFind⟩, hMembers⟩ := List.forall_mem_cons.mp h
      obtain ⟨name, t⟩ := member
      obtain rfl : name = some key := hKey
      let later := Tree.membersOnto members es
      have hEvent : event at_ (.key (some key) :: t.eventsOnto later) =
          .ok (.key (some key), t.eventsOnto later) := rfl
      have hSkipped : skipped at_ (t.eventsOnto later) = .ok ((), later) := by
        unfold skipped
        rw [t.skip_eventsOnto]
      show fieldsUpTo slots (fuel + members.length + 1) seen start at_
        (.key (some key) :: t.eventsOnto later) = _
      rw [fieldsUpTo, bind_of_ok _ hEvent]
      simp only [hFind]
      rw [bind_of_ok _ hSkipped]
      exact ih hMembers

/-- A member with the name of a slot is read by it. -/
theorem fieldsUpTo_field {slots : List (Slot α)} {key : String} {s : Slot α}
    (hSlot : slots.find? (fun s => s.name = key) = some s) {seen : List String}
    (hNew : key ∉ seen) {set : α → α} (hRead : s.read at_ es = .ok (set, rest))
    (fuel : Nat) (start : α) :
    fieldsUpTo slots (fuel + 1) seen start at_ (.key (some key) :: es) =
      fieldsUpTo slots fuel (key :: seen) (set start) at_ rest := by
  have hEvent : event at_ (.key (some key) :: es) = .ok (.key (some key), es) :=
    rfl
  rw [fieldsUpTo, bind_of_ok _ hEvent]
  simp only [hSlot, hNew, if_false]
  exact bind_of_ok _ hRead

/-- A record that was read from a text was read from a tree. -/
theorem exists_of_ofText {d : Decoder α} (hd : Careful d) {s : String}
    (h : ofText d s = .ok a) :
    ∃ t : Tree, t.SpelledBy s ∧
    d ⟨maxDepth, true⟩ (t.eventsOnto []) = .ok (a, []) := by
  have hSound : ¬ Faulty (events s.toList) := by
    intro hFaulty
    obtain ⟨e, hError⟩ := hd.ofText_of_faulty hFaulty
    cases h.symm.trans hError
  obtain ⟨t, hSpelled⟩ := exists_spelledBy hSound
  refine ⟨t, hSpelled, ?_⟩
  unfold ofText at h
  rw [show events s.toList = t.eventsOnto [] from hSpelled] at h
  split at h
  · cases h
  · next r hRead =>
      obtain ⟨a', rest⟩ := r
      cases rest with
      | nil =>
          cases h
          exact hRead
      | cons e rest => cases e <;> cases h

end Decoder

end Errand.Json
