import Errand.Json.Record
import Errand.Proofs.Json.Reading

/-!
# Reading records from values

A decoder works on events, and what follows a value in the events must not
matter to it. `Decoder.Reads` says so: the decoder reads this from the value
and leaves whatever follows. There is one lemma for each way to build a
decoder, so what a decoder for a record reads from an object is put together
from what its slots read from the fields.

The decoders for lists and objects count down the events that are left. There
are always enough of them, as every value has at least one (`depth_lt_length`).

## Main results

* `Decoder.Reads.listOf`, `Decoder.Reads.record`: lists from arrays, records
  from objects.
* `Decoder.Reads.ofValue`, `Decoder.Reads.ofText`: what is read from the events
  of a value is read from the value, and from a text with these events.
-/

namespace Errand.Json

/-! ## Events of a value -/

/-- The first event of a value ends no array, and it is null only for null. -/
theorem exists_toEventsOnto_eq_cons (j : Json) (tail : List Event) :
    ∃ e rest, toEventsOnto j tail = e :: rest ∧ e ≠ .closeArr ∧
    (e = .null → j = .null) := by
  cases j with
  | null => exact ⟨_, _, rfl, nofun, fun _ => rfl⟩
  | bool b => exact ⟨_, _, rfl, nofun, nofun⟩
  | num n => exact ⟨_, _, rfl, nofun, nofun⟩
  | str s => exact ⟨_, _, rfl, nofun, nofun⟩
  | arr items => exact ⟨_, _, rfl, nofun, nofun⟩
  | obj fields => exact ⟨_, _, rfl, nofun, nofun⟩

mutual

/-- A value has more events than levels. -/
theorem depth_lt_length : ∀ (j : Json) (tail : List Event),
    j.depth + tail.length < (toEventsOnto j tail).length
  | .null, tail | .bool _, tail | .num _, tail | .str _, tail => by
      simp [toEventsOnto, depth]
  | .arr items, tail => by
      have hItems := length_itemEventsOnto items (.closeArr :: tail)
      simp only [toEventsOnto, depth, List.length_cons] at hItems ⊢
      omega
  | .obj fields, tail => by
      have hFields := length_fieldEventsOnto fields (.closeObj :: tail)
      simp only [toEventsOnto, depth, List.length_cons] at hFields ⊢
      omega

theorem length_itemEventsOnto : ∀ (items : List Json) (tail : List Event),
    max items.length (itemsDepth items) + tail.length ≤
      (itemEventsOnto items tail).length
  | [], tail => by simp [itemEventsOnto, itemsDepth]
  | item :: items, tail => by
      have hItem := depth_lt_length item (itemEventsOnto items tail)
      have hItems := length_itemEventsOnto items tail
      simp only [itemEventsOnto, itemsDepth, List.length_cons] at hItem hItems ⊢
      omega

theorem length_fieldEventsOnto :
    ∀ (fields : List (String × Json)) (tail : List Event),
    max fields.length (fieldsDepth fields) + tail.length ≤
      (fieldEventsOnto fields tail).length
  | [], tail => by simp [fieldEventsOnto, fieldsDepth]
  | (_, value) :: fields, tail => by
      have hValue := depth_lt_length value (fieldEventsOnto fields tail)
      have hFields := length_fieldEventsOnto fields tail
      simp only [fieldEventsOnto, fieldsDepth, List.length_cons]
        at hValue hFields ⊢
      omega

end

namespace Decoder

variable {α β : Type} {d : Decoder α} {at_ : Depth}

theorem bind_of_ok {es rest : List Event} {a : α} (k : α → Decoder β)
    (h : d at_ es = .ok (a, rest)) : (d >>= k) at_ es = k a at_ rest := by
  show Decoder.bind d k at_ es = _
  unfold Decoder.bind
  rw [h]

/-- The decoder reads `a` from the value, whatever follows it. -/
def Reads (d : Decoder α) (at_ : Depth) (j : Json) (a : α) : Prop :=
  ∀ tail, d at_ (toEventsOnto j tail) = .ok (a, tail)

namespace Reads

theorem text (s : String) : text.Reads at_ (.str s) s := fun _ => rfl

theorem bool (b : Bool) : bool.Reads at_ (.bool b) b := fun _ => rfl

theorem count {n : Nat} (hn : n ≤ maxCount) (expected : String) :
    (count expected).Reads at_ (Json.ofNat n) n := by
  intro tail
  have hInt : int 0 maxCount expected at_ (toEventsOnto (Json.ofNat n) tail) =
        .ok (↑n, tail) := by
    show (if (0 : Int) ≤ n ∧ (n : Int) ≤ maxCount then Decoder.done (n : Int)
          else _) at_ tail = _
    rw [if_pos ⟨Int.natCast_nonneg n, Int.ofNat_le.mpr hn⟩]
    rfl
  unfold Decoder.count
  rw [bind_of_ok _ hInt]
  rfl

/-- A name of the list is read as what it stands for. -/
theorem choice {alternatives : List (String × α)} {name : String} {a : α}
    (h : alternatives.lookup name = some a) :
    (choice alternatives).Reads at_ (.str name) a := by
  intro tail
  show (named alternatives name).map (·, tail) = _
  rw [named, h]
  rfl

theorem value {j : Json} (hOrdered : j.all isOrdered = true)
    (hDepth : j.depth ≤ at_.room) : value.Reads at_ j j := by
  intro tail
  have hRoom : ([] : List Unfinished).length + j.depth ≤ at_.room := by
    rwa [List.length_nil, Nat.zero_add]
  unfold Decoder.value
  rw [take_toEventsOnto hOrdered hRoom]
  rfl

theorem nullable {j : Json} {a : α} (hNull : j ≠ .null) (h : d.Reads at_ j a) :
    (nullable d).Reads at_ j (some a) := by
  intro tail
  obtain ⟨e, rest, hEvents, -, hFirst⟩ := exists_toEventsOnto_eq_cons j tail
  have hPeek : peek at_ (toEventsOnto j tail) =
        .ok (e, toEventsOnto j tail) := by
    rw [hEvents]
    rfl
  unfold Decoder.nullable
  rw [bind_of_ok _ hPeek]
  split
  · exact absurd (hFirst rfl) hNull
  · rw [bind_of_ok _ (h tail)]
    rfl

theorem orDefault {j : Json} {a : α} (default : α) (hNull : j ≠ .null)
    (h : d.Reads at_ j a) : (orDefault default d).Reads at_ j a := by
  intro tail
  unfold Decoder.orDefault
  rw [bind_of_ok _ (nullable hNull h tail)]
  rfl

/-- Items are read up to the end of their array. -/
theorem itemsUpTo {xs : List β} {g : β → Json} {f : β → α}
    (h : ∀ x ∈ xs, d.Reads at_ (g x) (f x)) {fuel : Nat}
    (hFuel : xs.length < fuel) (tail : List Event) :
    itemsUpTo fuel d at_ (itemEventsOnto (xs.map g) (.closeArr :: tail)) =
      .ok (xs.map f, tail) := by
  induction xs generalizing fuel with
  | nil =>
      obtain ⟨fuel, rfl⟩ :=
        Nat.exists_eq_add_one_of_ne_zero (Nat.ne_of_gt hFuel)
      rfl
  | cons x xs ih =>
      obtain ⟨fuel, rfl⟩ :=
        Nat.exists_eq_add_one_of_ne_zero
          (Nat.ne_of_gt (Nat.zero_lt_of_lt hFuel))
      let after := itemEventsOnto (xs.map g) (.closeArr :: tail)
      obtain ⟨e, rest, hEvents, hFirst, -⟩ :=
        exists_toEventsOnto_eq_cons (g x) after
      have hPeek : peek at_ (toEventsOnto (g x) after) =
            .ok (e, toEventsOnto (g x) after) := by
        rw [hEvents]
        rfl
      have hItem := h x List.mem_cons_self after
      have hItems :=
        ih (fun other hOther => h other (List.mem_cons_of_mem x hOther))
        (Nat.lt_of_succ_lt_succ hFuel)
      show Decoder.itemsUpTo (fuel + 1) d at_ (toEventsOnto (g x) after) = _
      unfold Decoder.itemsUpTo
      rw [bind_of_ok _ hPeek]
      split
      · exact absurd rfl hFirst
      · rw [bind_of_ok _ hItem, bind_of_ok _ hItems]
        rfl

/-- A list is read from the array of its written items. -/
theorem listOf {xs : List β} {g : β → Json} {f : β → α} {room : Nat}
    {inText : Bool} (h : ∀ x ∈ xs, d.Reads ⟨room, inText⟩ (g x) (f x)) :
    (list d).Reads ⟨room + 1, inText⟩ (.arr (xs.map g)) (xs.map f) := by
  intro tail
  have hLength := length_itemEventsOnto (xs.map g) (.closeArr :: tail)
  rw [List.length_map] at hLength
  exact itemsUpTo h (by omega) tail

/-- A list is read from an array, item by item. -/
theorem list {items : List Json} {f : Json → α} {room : Nat} {inText : Bool}
    (h : ∀ item ∈ items, d.Reads ⟨room, inText⟩ item (f item)) :
    (list d).Reads ⟨room + 1, inText⟩ (.arr items) (items.map f) := by
  have hItems : (Decoder.list d).Reads ⟨room + 1, inText⟩ (.arr (items.map id))
        (items.map f) :=
    listOf h
  rwa [List.map_id] at hItems

end Reads

/-! ## Records -/

/-- What the slots make of a record by reading the fields of an object, where
`seen` names those that were read before. -/
inductive FieldsRead (slots : List (Slot α)) (at_ : Depth) :
    List String → Fields → α → α → Prop where
  | nil {seen : List String} {a : α}
      (hDone : ∀ s ∈ slots, s.presence = .required → s.name ∈ seen) :
      FieldsRead slots at_ seen [] a a
  | cons {seen : List String} {key : String} {j : Json} {fields : Fields}
      {s : Slot α} {set : α → α} {a b : α}
      (hSlot : slots.find? (fun s => s.name = key) = some s) (hNew : key ∉ seen)
      (hRead : s.read.Reads at_ j set)
      (hRest : FieldsRead slots at_ (key :: seen) fields (set a) b) :
      FieldsRead slots at_ seen ((key, j) :: fields) a b

namespace Reads

theorem slot {e : Decoder β} {j : Json} {b : β} (h : e.Reads at_ j b)
    (name : String) (presence : Presence) (set : β → α → α) :
    (slot name presence e set).read.Reads at_ j (set b) := by
  intro tail
  exact bind_of_ok (fun b => done (set b)) (h tail)

/-- Fields are read up to the end of their object. -/
theorem fieldsUpTo {slots : List (Slot α)} {seen : List String}
    {fields : Fields} {a b : α} (h : FieldsRead slots at_ seen fields a b)
    {fuel : Nat} (hFuel : fields.length < fuel) (tail : List Event) :
    fieldsUpTo slots fuel seen a at_
      (fieldEventsOnto fields (.closeObj :: tail)) = .ok (b, tail) := by
  induction h generalizing fuel with
  | @nil seen a hDone =>
      obtain ⟨fuel, rfl⟩ :=
        Nat.exists_eq_add_one_of_ne_zero (Nat.ne_of_gt hFuel)
      have hNone : slots.find? (fun s => s.presence = .required ∧
            s.name ∉ seen) = none := by
        refine List.find?_eq_none.mpr fun s hs => ?_
        rw [decide_eq_true_eq]
        exact fun hMissing => hMissing.2 (hDone s hs hMissing.1)
      have hEvent : event at_ (.closeObj :: tail) = .ok (.closeObj, tail) := rfl
      unfold Decoder.fieldsUpTo
      rw [fieldEventsOnto, bind_of_ok _ hEvent]
      simp only [hNone]
      rfl
  | @cons seen key j fields s set a b hSlot hNew hRead hRest ih =>
      obtain ⟨fuel, rfl⟩ :=
        Nat.exists_eq_add_one_of_ne_zero
          (Nat.ne_of_gt (Nat.zero_lt_of_lt hFuel))
      let after := fieldEventsOnto fields (.closeObj :: tail)
      have hEvent : event at_ (.key (some key) :: toEventsOnto j after) =
          .ok (.key (some key), toEventsOnto j after) := rfl
      show Decoder.fieldsUpTo slots (fuel + 1) seen a at_
            (.key (some key) :: toEventsOnto j after) = _
      unfold Decoder.fieldsUpTo
      rw [bind_of_ok _ hEvent]
      simp only [hSlot, hNew, if_false]
      rw [bind_of_ok _ (hRead after)]
      exact ih (Nat.lt_of_succ_lt_succ hFuel)

/-- A record is read from an object, field by field. -/
theorem record {slots : List (Slot α)} {fields : Fields} {start a : α}
    {room : Nat} {inText : Bool} (name : String)
    (h : FieldsRead slots ⟨room, inText⟩ [] fields start a) :
    (record name slots start).Reads ⟨room + 1, inText⟩ (.obj fields) a := by
  intro tail
  have hLength := length_fieldEventsOnto fields (.closeObj :: tail)
  exact fieldsUpTo h (by omega) tail

/-- What is read from the events of a value is read from the value. -/
theorem ofValue {j : Json} {a : α}
    (h : d.Reads ⟨j.toEvents.length, false⟩ j a) : ofValue d j = .ok a := by
  unfold Decoder.ofValue
  rw [toEvents] at h ⊢
  rw [h []]
  rfl

/-- What is read from the events of a value is read from a text with these
events. -/
theorem ofText {j : Json} {a : α} {s : String}
    (h : d.Reads ⟨maxDepth, true⟩ j a)
    (hEvents : events s.toList = j.toEvents) : ofText d s = .ok a := by
  unfold Decoder.ofText
  rw [hEvents, toEvents, h []]
  rfl

end Reads

end Decoder

end Errand.Json
