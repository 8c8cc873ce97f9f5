import Errand.Proofs.Json.Members
import Mathlib.Data.List.Forall2

/-!
# What records can be read from

`Errand.Proofs.Json.Members` goes back from a record to the members it was read
from. This file goes the other way: members that the slots can read, each of
them once and none missing, are a record, in whatever order they stand and
whatever stands between them. Where both ways are known, it is settled which
trees a decoder accepts and what it makes of them; for a list or a name out of
a fixed list they stand side by side here.

## Main results

* `Decoder.Takes.list`, `Decoder.Yields.of_list`: a list is read from an array,
  item by item.
* `Decoder.Takes.choice`, `Decoder.Yields.of_choice`: a name is read from its
  word, or from an object around it.
* `Decoder.Readable.record`: members that the slots can read are a record.
-/

namespace Errand.Json

namespace Decoder

variable {α β : Type} {at_ : Depth} {d : Decoder α} {t : Tree} {a : α}
  {room : Nat} {inText : Bool}

/-- The reader reads `a` from the tree, whatever follows it. -/
def Takes (d : Decoder α) (at_ : Depth) (t : Tree) (a : α) : Prop :=
  ∀ tail, d at_ (t.eventsOnto tail) = .ok (a, tail)

theorem Takes.yields (h : d.Takes at_ t a) : d.Yields at_ t a := ⟨[], h []⟩

theorem Takes.text (s : String) : text.Takes at_ (.str (some s)) s :=
  fun _ => rfl

theorem Yields.of_text {s : String} (h : text.Yields at_ t s) :
    t = .str (some s) := by
  obtain ⟨tail, hRead⟩ := h
  obtain ⟨e, mid, hEvents, hNext⟩ := exists_of_event hRead
  split at hNext
  · cases hNext
    cases t <;> cases hEvents
    rfl
  · cases hNext

theorem Takes.slot {d : Decoder β} {b : β} (h : d.Takes at_ t b) (name : String)
    (presence : Presence) (set : β → α → α) :
    (slot name presence d set).read.Takes at_ t (set b) := by
  intro tail
  exact bind_of_ok (fun b => done (set b)) (h tail)

/-! ## Lists -/

/-- Items are read up to the end of their array, each from a tree of its own. -/
theorem forall₂_of_itemsUpTo (hd : ReadsOne d) {items : List Tree} {as : List α}
    {fuel : Nat} {tail rest : List Event}
    (h : itemsUpTo fuel d at_ (Tree.itemsOnto items (.closeArr :: tail)) =
      .ok (as, rest)) : rest = tail ∧ List.Forall₂ (d.Yields at_) items as := by
  induction items generalizing fuel as with
  | nil =>
      cases fuel with
      | zero => cases h
      | succ fuel =>
          cases h
          exact ⟨rfl, .nil⟩
  | cons t items ih =>
      cases fuel with
      | zero => cases h
      | succ fuel =>
          obtain ⟨e, mid, hEvents, hNext⟩ := exists_of_peek h
          split at hNext
          · exact absurd rfl (ne_closeArr_of_eventsOnto hEvents)
          · obtain ⟨b, mid, hFirst, hNext⟩ := exists_of_bind hNext
            obtain ⟨rfl, hYields⟩ := hd.yields hFirst
            obtain ⟨bs, mid, hItems, hDone⟩ := exists_of_bind hNext
            cases hDone
            obtain ⟨hRest, hAll⟩ := ih hItems
            exact ⟨hRest, .cons hYields hAll⟩

theorem forall₂_of_list (hd : ReadsOne d) {as : List α} {tail rest : List Event}
    (h : list d at_ (t.eventsOnto tail) = .ok (as, rest)) :
    rest = tail ∧ ∃ room items, t = .arr items ∧
    List.Forall₂ (d.Yields { at_ with room }) items as := by
  obtain ⟨e, mid, hEvents, hNext⟩ := exists_of_event h
  split at hNext
  · obtain ⟨room, hItems⟩ := exists_of_deeper hNext
    cases t with
    | arr items =>
        cases hEvents
        obtain ⟨hRest, hAll⟩ := forall₂_of_itemsUpTo hd hItems
        exact ⟨hRest, room, items, rfl, hAll⟩
    | _ => cases hEvents
  · cases hNext

theorem ReadsOne.list (hd : ReadsOne d) : ReadsOne (list d) := by
  intro at_ t tail as rest h
  exact (forall₂_of_list hd h).1

theorem Yields.of_list (hd : ReadsOne d) {as : List α}
    (h : (list d).Yields at_ t as) :
    ∃ room items, t = .arr items ∧
    List.Forall₂ (d.Yields { at_ with room }) items as := by
  obtain ⟨tail, hRead⟩ := h
  exact (forall₂_of_list hd hRead).2

theorem itemsUpTo_of_forall₂ {items : List Tree} {as : List α}
    (h : List.Forall₂ (d.Takes at_) items as) {fuel : Nat}
    (hFuel : items.length < fuel) (tail : List Event) :
    itemsUpTo fuel d at_ (Tree.itemsOnto items (.closeArr :: tail)) =
      .ok (as, tail) := by
  obtain ⟨fuel, rfl⟩ :=
    Nat.exists_eq_add_one_of_ne_zero (Nat.ne_of_gt (Nat.zero_lt_of_lt hFuel))
  induction h generalizing fuel with
  | nil => rfl
  | @cons t a items as hTakes hAll ih =>
      obtain ⟨fuel, rfl⟩ := Nat.exists_eq_add_one_of_ne_zero
        (Nat.ne_of_gt (Nat.zero_lt_of_lt (Nat.lt_of_succ_lt_succ hFuel)))
      let later := Tree.itemsOnto items (.closeArr :: tail)
      cases hEvents : t.eventsOnto later with
      | nil =>
          have hLength := Tree.length_lt_eventsOnto t later
          rw [hEvents] at hLength
          exact absurd hLength (Nat.not_lt_zero _)
      | cons e rest =>
          have hPeek : peek at_ (t.eventsOnto later) =
                .ok (e, t.eventsOnto later) := by
            rw [hEvents]
            rfl
          show itemsUpTo (fuel + 1 + 1) d at_ (t.eventsOnto later) = _
          rw [itemsUpTo, bind_of_ok _ hPeek]
          split
          · exact absurd rfl (ne_closeArr_of_eventsOnto hEvents)
          · rw [bind_of_ok _ (hTakes later),
              bind_of_ok _ (ih fuel (Nat.lt_of_succ_lt_succ hFuel))]
            rfl

/-- Every item has at least one event. -/
theorem length_add_le_itemsOnto (items : List Tree) (tail : List Event) :
    items.length + tail.length ≤ (Tree.itemsOnto items tail).length := by
  induction items with
  | nil => exact Nat.le_of_eq (Nat.zero_add tail.length)
  | cons t items ih =>
      have hFirst := Tree.length_lt_eventsOnto t (Tree.itemsOnto items tail)
      simp only [Tree.itemsOnto, List.length_cons]
      omega

theorem Takes.list {items : List Tree} {as : List α}
    (h : List.Forall₂ (d.Takes ⟨room, inText⟩) items as) :
    (list d).Takes ⟨room + 1, inText⟩ (.arr items) as := by
  intro tail
  have hLength := length_add_le_itemsOnto items (.closeArr :: tail)
  exact itemsUpTo_of_forall₂ h (by omega) tail

/-! ## Names -/

section

variable {alternatives : List (String × α)} {name : String}

theorem named_eq_ok_iff : named alternatives name = .ok a ↔
    alternatives.lookup name = some a := by
  unfold named
  cases alternatives.lookup name with
  | none => exact ⟨nofun, nofun⟩
  | some b => exact ⟨fun h => by cases h; rfl, fun h => by cases h; rfl⟩

/-- What a name out of a fixed list is read from: its word, or an object with
the word as its one key and with null under it. -/
def Names (alternatives : List (String × α)) (t : Tree) (a : α) : Prop :=
  ∃ name, alternatives.lookup name = some a ∧
    (t = .str (some name) ∨ t = .obj [(some name, .null)])

/-- The object around a name has no second member. -/
theorem eq_of_longName {members : List (Option String × Tree)}
    {tail rest : List Event}
    (h : longName alternatives at_
      (Tree.membersOnto members (.closeObj :: tail)) = .ok (a, rest)) :
    rest = tail ∧ ∃ name, alternatives.lookup name = some a ∧
    members = [(some name, .null)] := by
  obtain ⟨e, mid, hKey, hNext⟩ := exists_of_event h
  dsimp only at hNext
  split at hNext
  · next name =>
    obtain ⟨b, mid', hNamed, hNext⟩ := exists_of_bind hNext
    cases hFind : named alternatives name with
    | error e =>
        rw [hFind] at hNamed
        cases hNamed
    | ok b' =>
        rw [hFind] at hNamed
        cases hNamed
        cases members with
        | nil => cases hKey
        | cons member members =>
            obtain ⟨key, t⟩ := member
            cases hKey
            obtain ⟨e, mid, hUnit, hNext⟩ := exists_of_event hNext
            split at hNext
            · obtain ⟨e, mid, hEnd, hNext⟩ := exists_of_event hNext
              split at hNext
              · cases hNext
                cases t <;> cases hUnit
                cases members with
                | nil =>
                    cases hEnd
                    exact ⟨rfl, name, named_eq_ok_iff.mp hFind, rfl⟩
                | cons _ _ => cases hEnd
              · cases hNext
              · cases hNext
            · cases hNext
  · obtain ⟨b, mid', hNamed, hNext⟩ := exists_of_bind hNext
    cases hNamed

theorem names_of_choice {tail rest : List Event}
    (h : choice alternatives at_ (t.eventsOnto tail) = .ok (a, rest)) :
    rest = tail ∧ Names alternatives t a := by
  have hLong : ∀ {at_ members}, t = .obj members →
      longName alternatives at_ (Tree.membersOnto members (.closeObj :: tail)) =
        .ok (a, rest) →
        rest = tail ∧ Names alternatives t a := by
    rintro at_ members rfl hRead
    obtain ⟨hRest, name, hName, rfl⟩ := eq_of_longName hRead
    exact ⟨hRest, name, hName, .inr rfl⟩
  unfold choice at h
  split at h
  · next name mid hEvents =>
    cases t <;> cases hEvents
    cases hFind : named alternatives name with
    | error e =>
        rw [hFind] at h
        cases h
    | ok b =>
        rw [hFind] at h
        cases h
        exact ⟨rfl, name, named_eq_ok_iff.mp hFind, .inl rfl⟩
  · next mid hEvents =>
    cases t with
    | obj members =>
        cases hEvents
        split at h
        · obtain ⟨room, hRead⟩ := exists_of_deeper h
          exact hLong rfl hRead
        · split at h
          · exact hLong rfl h
          · cases h
    | _ => cases hEvents
  · split at h
    · cases h
    · cases h
  · cases h

theorem ReadsOne.choice (alternatives : List (String × α)) :
    ReadsOne (choice alternatives) := by
  intro at_ t tail a rest h
  exact (names_of_choice h).1

theorem Yields.of_choice (h : (choice alternatives).Yields at_ t a) :
    Names alternatives t a := by
  obtain ⟨tail, hRead⟩ := h
  exact (names_of_choice hRead).2

theorem Takes.choice (h : Names alternatives t a) :
    (choice alternatives).Takes ⟨room + 1, true⟩ t a := by
  obtain ⟨name, hName, rfl | rfl⟩ := h
  · intro tail
    show (named alternatives name).map (·, tail) = _
    rw [named_eq_ok_iff.mpr hName]
    rfl
  · intro tail
    have hKey :
        ((fun _ es => (named alternatives name).map (·, es)) : Decoder α)
          ⟨room, true⟩
        (.null :: .closeObj :: tail) = .ok (a, .null :: .closeObj :: tail) := by
      show (named alternatives name).map (·, _) = _
      rw [named_eq_ok_iff.mpr hName]
      rfl
    show longName alternatives ⟨room, true⟩
          (.key (some name) :: .null :: .closeObj :: tail) = _
    unfold longName
    have hEvent : event ⟨room, true⟩
          (.key (some name) :: .null :: .closeObj :: tail) =
        .ok (.key (some name), .null :: .closeObj :: tail) := rfl
    rw [bind_of_ok _ hEvent]
    dsimp only
    rw [bind_of_ok _ hKey]
    rfl

end

/-! ## Records -/

section

variable {slots : List (Slot α)} {seen : List String}
  {members : List (Option String × Tree)} {b : α}

/-- Every key of a record is a text. -/
theorem MembersRead.keys (h : MembersRead slots at_ seen members a b) :
    ∀ m ∈ members, ∃ key, m.1 = some key := by
  induction h with
  | nil _ => exact nofun
  | field _ _ _ _ ih => exact List.forall_mem_cons.mpr ⟨⟨_, rfl⟩, ih⟩
  | other _ _ ih => exact List.forall_mem_cons.mpr ⟨⟨_, rfl⟩, ih⟩

/-- A field that is required is there. -/
theorem MembersRead.held_of_required
    (h : MembersRead slots at_ seen members a b) {s : Slot α} (hs : s ∈ slots)
    (hRequired : s.presence = .required) :
    s.name ∈ seen ∨ Tree.heldBy s.name members ≠ [] := by
  induction h with
  | nil hDone => exact .inl (hDone s hs hRequired)
  | @field seen key t members s' set a b _ _ _ _ ih =>
      by_cases hSame : key = s.name
      · rw [← hSame, Tree.heldBy_cons_self]
        exact .inr (List.cons_ne_nil t _)
      · rw [Tree.heldBy_cons_of_ne hSame]
        exact ih.imp_left fun hSeen =>
          (List.mem_cons.mp hSeen).resolve_left (Ne.symm hSame)
  | @other seen key t members a b _ _ ih =>
      by_cases hSame : key = s.name
      · rw [← hSame, Tree.heldBy_cons_self]
        exact .inr (List.cons_ne_nil t _)
      · rwa [Tree.heldBy_cons_of_ne hSame]

/-- **A field is read from the one member with its name**; one that is not
required may also be absent. -/
theorem MembersRead.slot_cases {key : String} {presence : Presence}
    {d : Decoder β} {set : β → α → α} {g : α → β}
    (h : MembersRead slots at_ [] members a b) (hd : ReadsOne d)
    (hGet : ∀ v a, g (set v a) = v)
    (hSlot : slots.find? (fun s => s.name = key) =
      some (slot key presence d set))
    (hOthers : ∀ s ∈ slots, s.name ≠ key → ∀ at_ t f, s.read.Yields at_ t f →
      ∀ a, g (f a) = g a) :
    presence ≠ .required ∧ Tree.heldBy key members = [] ∧ g b = g a ∨
      ∃ t, Tree.heldBy key members = [t] ∧ d.Yields at_ t (g b) := by
  obtain ⟨hNone, hSame⟩ | ⟨t, f, a', hOne, hRead, hField⟩ :=
    h.field_cases (s := slot key presence d set) hSlot hOthers
  · refine .inl ⟨fun hRequired => ?_, hNone, hSame⟩
    obtain hSeen | hHeld :=
      h.held_of_required (List.mem_of_find?_eq_some hSlot) hRequired
    · cases hSeen
    · exact hHeld hNone
  · obtain ⟨v, hValue, rfl⟩ := hRead.of_slot hd
    rw [hGet] at hField
    exact .inr ⟨t, hOne, hField ▸ hValue⟩

end

/-- Members that slots can read, where `seen` names those that were read
before: their keys are texts, none of the fields is there twice, each is of a
form that its slot reads, and all that are required are there. -/
structure Readable (slots : List (Slot α)) (at_ : Depth) (seen : List String)
    (members : List (Option String × Tree)) : Prop where
  keys : ∀ m ∈ members, ∃ key, m.1 = some key
  once : ∀ s ∈ slots, (Tree.heldBy s.name members).length ≤ 1
  fresh : ∀ key ∈ seen, Tree.heldBy key members = []
  each : ∀ s ∈ slots, ∀ t ∈ Tree.heldBy s.name members, ∃ set,
    s.read.Takes at_ t set
  all : ∀ s ∈ slots, s.presence = .required → s.name ∈ seen ∨
    Tree.heldBy s.name members ≠ []

/-- The members let one slot read what they hold for it: at most one of them is
for it, it can be read, and it is there if it has to be. -/
structure Ready (members : List (Option String × Tree)) (at_ : Depth)
    (s : Slot α) : Prop where
  once : (Tree.heldBy s.name members).length ≤ 1
  each : ∀ t ∈ Tree.heldBy s.name members, ∃ set, s.read.Takes at_ t set
  all : s.presence = .required → Tree.heldBy s.name members ≠ []

section

variable {members : List (Option String × Tree)} {s : Slot α}

theorem Ready.of_held {set : α → α} (hHeld : Tree.heldBy s.name members = [t])
    (hRead : s.read.Takes at_ t set) : Ready members at_ s where
  once := by
    rw [hHeld]
    exact Nat.le_refl 1
  each := by
    rw [hHeld]
    exact List.forall_mem_singleton.mpr ⟨set, hRead⟩
  all _ := by
    rw [hHeld]
    exact List.cons_ne_nil t []

theorem Ready.of_absent (hPresence : s.presence ≠ .required)
    (hHeld : Tree.heldBy s.name members = []) : Ready members at_ s where
  once := by
    rw [hHeld]
    exact Nat.zero_le 1
  each := by
    rw [hHeld]
    exact nofun
  all hRequired := absurd hRequired hPresence

end

namespace Readable

variable {slots : List (Slot α)} {seen : List String} {key : String}
  {members : List (Option String × Tree)} {s : Slot α}

theorem of_ready (hKeys : ∀ m ∈ members, ∃ key, m.1 = some key)
    (h : ∀ s ∈ slots, Ready members at_ s) : Readable slots at_ [] members where
  keys := hKeys
  once s hs := (h s hs).once
  fresh := nofun
  each s hs := (h s hs).each
  all s hs hRequired := .inr ((h s hs).all hRequired)

/-- A member with the name of a slot is read by it, and the others can be read
after it. -/
theorem field (h : Readable slots at_ seen ((some key, t) :: members))
    (hSlot : slots.find? (fun s => s.name = key) = some s) :
    key ∉ seen ∧ (∃ set, s.read.Takes at_ t set) ∧
    Readable slots at_ (key :: seen) members := by
  obtain rfl : s.name = key := by simpa using List.find?_some hSlot
  have hMem := List.mem_of_find?_eq_some hSlot
  have hHeld := Tree.heldBy_cons_self s.name t members
  have hLater : ∀ {name t'}, t' ∈ Tree.heldBy name members →
      t' ∈ Tree.heldBy name ((some s.name, t) :: members) := by
    intro name t' ht'
    by_cases hSame : s.name = name
    · rw [← hSame, hHeld]
      exact List.mem_cons_of_mem t (hSame ▸ ht')
    · rwa [Tree.heldBy_cons_of_ne hSame]
  have hNone : Tree.heldBy s.name members = [] := by
    have hOnce := h.once s hMem
    rw [hHeld, List.length_cons] at hOnce
    exact List.eq_nil_of_length_eq_zero
      (Nat.le_zero.mp (Nat.le_of_succ_le_succ hOnce))
  refine ⟨fun hSeen => ?_, h.each s hMem t (hHeld ▸ List.mem_cons_self), ?_⟩
  · have hFresh := h.fresh _ hSeen
    rw [hHeld] at hFresh
    cases hFresh
  · constructor
    case keys => exact fun m hm => h.keys m (List.mem_cons_of_mem _ hm)
    case once =>
      intro s' hs'
      by_cases hSame : s.name = s'.name
      · rw [← hSame, hNone]
        exact Nat.zero_le 1
      · have hOnce := h.once s' hs'
        rwa [Tree.heldBy_cons_of_ne hSame] at hOnce
    case fresh =>
      refine List.forall_mem_cons.mpr ⟨hNone, fun name hSeen => ?_⟩
      refine List.eq_nil_iff_forall_not_mem.mpr fun t' ht' => ?_
      have hFresh := hLater ht'
      rw [h.fresh name hSeen] at hFresh
      cases hFresh
    case each => exact fun s' hs' t' ht' => h.each s' hs' t' (hLater ht')
    case all =>
      intro s' hs' hRequired
      by_cases hSame : s.name = s'.name
      · exact .inl (hSame ▸ List.mem_cons_self)
      · have hAll := h.all s' hs' hRequired
        rw [Tree.heldBy_cons_of_ne hSame] at hAll
        exact hAll.imp_left (List.mem_cons_of_mem _)

/-- A member with another name may be left out. -/
theorem other (h : Readable slots at_ seen ((some key, t) :: members))
    (hSlot : slots.find? (fun s => s.name = key) = none) :
    Readable slots at_ seen members := by
  have hNe : ∀ s ∈ slots, key ≠ s.name := by
    intro s hs hSame
    have hNot := List.find?_eq_none.mp hSlot s hs
    rw [decide_eq_true_eq] at hNot
    exact hNot hSame.symm
  constructor
  case keys => exact fun m hm => h.keys m (List.mem_cons_of_mem _ hm)
  case once =>
    intro s hs
    have hOnce := h.once s hs
    rwa [Tree.heldBy_cons_of_ne (hNe s hs)] at hOnce
  case fresh =>
    intro name hSeen
    have hFresh := h.fresh name hSeen
    by_cases hSame : key = name
    · rw [hSame, Tree.heldBy_cons_self] at hFresh
      cases hFresh
    · rwa [Tree.heldBy_cons_of_ne hSame] at hFresh
  case each =>
    intro s hs t' ht'
    rw [← Tree.heldBy_cons_of_ne (hNe s hs) t] at ht'
    exact h.each s hs t' ht'
  case all =>
    intro s hs hRequired
    have hAll := h.all s hs hRequired
    rwa [Tree.heldBy_cons_of_ne (hNe s hs)] at hAll

/-- Members are read up to the end of their object. The induction is on the
members; what has been read is in `seen`. -/
theorem fieldsUpTo (h : Readable slots at_ seen members) (start : α) :
    ∃ a, ∀ fuel, members.length < fuel → ∀ tail,
      fieldsUpTo slots fuel seen start at_
        (Tree.membersOnto members (.closeObj :: tail)) = .ok (a, tail) := by
  induction members generalizing seen start with
  | nil =>
      refine ⟨start, fun fuel hFuel tail => ?_⟩
      obtain ⟨fuel, rfl⟩ :=
        Nat.exists_eq_add_one_of_ne_zero (Nat.ne_of_gt hFuel)
      have hNone : slots.find? (fun s => s.presence = .required ∧
            s.name ∉ seen) = none := by
        refine List.find?_eq_none.mpr fun s hs => ?_
        rw [decide_eq_true_eq]
        rintro ⟨hRequired, hNew⟩
        exact (h.all s hs hRequired).elim hNew (absurd rfl)
      have hEvent : event at_ (.closeObj :: tail) = .ok (.closeObj, tail) := rfl
      unfold Decoder.fieldsUpTo
      rw [Tree.membersOnto, bind_of_ok _ hEvent]
      simp only [hNone]
      rfl
  | cons member members ih =>
      obtain ⟨key?, t⟩ := member
      obtain ⟨key, rfl⟩ : ∃ key, key? = some key := h.keys _ List.mem_cons_self
      cases hSlot : slots.find? fun s => s.name = key with
      | some s =>
          obtain ⟨hNew, ⟨set, hRead⟩, hLater⟩ := h.field hSlot
          obtain ⟨a, hAll⟩ := ih hLater (set start)
          refine ⟨a, fun fuel hFuel tail => ?_⟩
          obtain ⟨fuel, rfl⟩ :=
            Nat.exists_eq_add_one_of_ne_zero
              (Nat.ne_of_gt (Nat.zero_lt_of_lt hFuel))
          exact (fieldsUpTo_field hSlot hNew (hRead _) fuel start).trans
            (hAll fuel (Nat.lt_of_succ_lt_succ hFuel) tail)
      | none =>
          obtain ⟨a, hAll⟩ := ih (h.other hSlot) start
          refine ⟨a, fun fuel hFuel tail => ?_⟩
          obtain ⟨fuel, rfl⟩ :=
            Nat.exists_eq_add_one_of_ne_zero
              (Nat.ne_of_gt (Nat.zero_lt_of_lt hFuel))
          have hOther : ∀ m ∈ [(some key, t)], ∃ key, m.1 = some key ∧
              slots.find? (fun s => s.name = key) = none :=
            List.forall_mem_singleton.mpr ⟨key, rfl, hSlot⟩
          exact (fieldsUpTo_others hOther fuel seen start _).trans
            (hAll fuel (Nat.lt_of_succ_lt_succ hFuel) tail)

/-- An array may end before its row if the rest of the row is defaulted. -/
theorem row_of_defaulted {slots : List (Slot α)}
    (h : ∀ s ∈ slots, s.presence = .defaulted) (name : String)
    (total read : Nat) (start : α) (tail : List Event) :
    Decoder.row name total slots read start at_ (.closeArr :: tail) =
      .ok (start, tail) := by
  induction slots with
  | nil => rfl
  | cons s slots ih =>
      obtain ⟨hFirst, hRest⟩ := List.forall_mem_cons.mp h
      have hPeek : peek at_ (.closeArr :: tail) =
            .ok (.closeArr, .closeArr :: tail) := rfl
      rw [Decoder.row, bind_of_ok _ hPeek]
      dsimp only
      rw [if_pos hFirst]
      exact ih hRest

/-- Items are read up to the end of their array, like members with the names of
the slots. The slots `before` have had their items already. -/
theorem row {slots before : List (Slot α)}
    (hNames : ((before ++ slots).map Slot.name).Nodup)
    (hPresence : ∀ s ∈ slots, s.presence ≠ .optional) {items : List Tree}
    (hLength : items.length ≤ slots.length)
    (h : Readable (before ++ slots) at_ (before.map Slot.name).reverse
      (((slots.map Slot.name).map some).zip items))
    (name : String) (total read : Nat) (start : α) :
    ∃ a, ∀ tail, row name total slots read start at_
      (Tree.itemsOnto items (.closeArr :: tail)) = .ok (a, tail) := by
  induction slots generalizing before items read start with
  | nil =>
      obtain rfl := List.eq_nil_of_length_eq_zero (Nat.le_zero.mp hLength)
      exact ⟨start, fun tail => rfl⟩
  | cons s slots ih =>
      cases items with
      | nil =>
          refine ⟨start, row_of_defaulted (fun s' hs' => ?_) name total
            read start⟩
          have hNotBefore : s'.name ∉ (before.map Slot.name).reverse := by
            rw [List.map_append] at hNames
            intro hBefore
            exact (List.nodup_append.mp hNames).2.2 _
              (List.mem_reverse.mp hBefore) _ (List.mem_map_of_mem hs') rfl
          cases hCase : s'.presence with
          | required =>
              have hAll := h.all s' (List.mem_append_right before hs') hCase
              rw [List.zip_nil_right] at hAll
              exact hAll.elim (absurd · hNotBefore) (absurd rfl)
          | optional => exact absurd hCase (hPresence s' hs')
          | defaulted => rfl
      | cons t items =>
          have hNames' : (((before ++ [s]) ++ slots).map Slot.name).Nodup := by
            rwa [List.append_assoc, List.singleton_append]
          obtain ⟨-, ⟨set, hRead⟩, hLater⟩ := h.field (find?_slot hNames).2
          have hLater' : Readable ((before ++ [s]) ++ slots) at_
                ((before ++ [s]).map Slot.name).reverse
              (((slots.map Slot.name).map some).zip items) := by
            rwa [List.append_assoc, List.singleton_append, List.map_append,
              List.reverse_append]
          obtain ⟨a, hAll⟩ :=
            ih hNames' (fun s' hs' => hPresence s' (List.mem_cons_of_mem s hs'))
            (Nat.le_of_succ_le_succ hLength) hLater' (read + 1) (set start)
          refine ⟨a, fun tail => ?_⟩
          let later := Tree.itemsOnto items (.closeArr :: tail)
          obtain ⟨e, rest, hEvents⟩ :=
            List.exists_cons_of_length_pos
              (Nat.zero_lt_of_lt (t.length_lt_eventsOnto later))
          have hPeek : peek at_ (t.eventsOnto later) =
                .ok (e, t.eventsOnto later) := by
            rw [hEvents]
            rfl
          show Decoder.row name total (s :: slots) read start at_
                (t.eventsOnto later) = _
          rw [Decoder.row, bind_of_ok _ hPeek]
          split
          · exact absurd rfl (ne_closeArr_of_eventsOnto hEvents)
          · rw [bind_of_ok _ (hRead later)]
            exact hAll tail

/-- **Members that the slots can read are a record**, those of an object and
those that an array stands for. -/
theorem record (hNames : (slots.map Slot.name).Nodup)
    (hPresence : ∀ s ∈ slots, s.presence ≠ .optional)
    (hMembers : t.members? (slots.map Slot.name) = some members)
    (h : Readable slots ⟨room, inText⟩ [] members) (name : String) (start : α) :
    ∃ a, (record name slots start).Takes ⟨room + 1, inText⟩ t a := by
  cases t with
  | obj members' =>
      obtain rfl := Option.some.inj hMembers
      obtain ⟨a, hAll⟩ := h.fieldsUpTo start
      refine ⟨a, fun tail => ?_⟩
      have hLength := Tree.length_le_membersOnto members' (.closeObj :: tail)
      exact hAll _ (by omega) tail
  | arr items =>
      by_cases hLength : items.length ≤ (slots.map Slot.name).length
      · obtain rfl := Option.some.inj ((if_pos hLength).symm.trans hMembers)
        rw [List.length_map] at hLength
        have hNone : (([] ++ slots).map Slot.name).Nodup := hNames
        obtain ⟨a, hAll⟩ :=
          row hNone hPresence hLength h name slots.length 0 start
        exact ⟨a, fun tail => hAll tail⟩
      · cases (if_neg hLength).symm.trans hMembers
  | _ => cases hMembers

end Readable

end Decoder

end Errand.Json
