import Errand.Json.Reader
import Errand.Proofs.Json.Spelling

/-!
# Written values are read back

A value is read from its events by a stack of what is open around the place
reached. Reading the events of a value from any such place comes to putting the
value there (`resume`), provided that there is room for the depth of the value
and that its objects have increasing keys: the reader inserts each field at its
place, and for increasing keys that is the end.

## Main results

* `advances_of_take`: all that one event can do to a reading that succeeds.
* `take_toEventsOnto`: reading the events of a value puts the value in place.
* `read_render_obj`: a written object, its fields in any order, is read back
  with its fields sorted.
-/

namespace Errand.Json

/-! ## Fields in order -/

theorem Fields.insert_of_lt {key : String} {fields : Fields} (value : Json)
    (h : ∀ k ∈ fields.map Prod.fst, k < key) :
    Fields.insert key value fields = fields ++ [(key, value)] := by
  induction fields with
  | nil => rfl
  | cons field rest ih =>
      obtain ⟨k, v⟩ := field
      have hk : k < key := h k List.mem_cons_self
      rw [Fields.insert, if_neg (String.lt_asymm hk),
        if_neg (String.ne_of_lt hk).symm,
        ih fun k' hk' => h k' (List.mem_cons_of_mem _ hk'), List.cons_append]

theorem Fields.mem_keys_insert {key k : String} {value : Json} {fields : Fields}
    (h : k ∈ (Fields.insert key value fields).map Prod.fst) :
    k = key ∨ k ∈ fields.map Prod.fst := by
  induction fields with
  | nil => exact .inl (List.mem_singleton.mp h)
  | cons field rest ih =>
      obtain ⟨k', v'⟩ := field
      rw [Fields.insert] at h
      split at h
      · exact List.mem_cons.mp h
      · split at h
        · next hSame =>
          subst hSame
          exact .inr h
        · rcases List.mem_cons.mp h with rfl | hRest
          · exact .inr List.mem_cons_self
          · exact (ih hRest).imp id (List.mem_cons_of_mem _)

/-- A field is inserted at its place. -/
theorem Fields.pairwise_insert {key : String} {value : Json} {fields : Fields}
    (h : (fields.map Prod.fst).Pairwise (· < ·)) :
    ((Fields.insert key value fields).map Prod.fst).Pairwise (· < ·) := by
  induction fields with
  | nil => exact List.pairwise_singleton _ _
  | cons field rest ih =>
      obtain ⟨k, v⟩ := field
      obtain ⟨hFirst, hRest⟩ := List.pairwise_cons.mp h
      rw [Fields.insert]
      split
      · next hLess =>
        refine List.pairwise_cons.mpr ⟨fun k' hk' => ?_, h⟩
        rcases List.mem_cons.mp hk' with rfl | hk'
        · exact hLess
        · exact String.lt_trans hLess (hFirst k' hk')
      · split
        · next hSame =>
          subst hSame
          exact h
        · next hNotLess hNe =>
          have hGreater : k < key :=
            Std.lt_of_le_of_ne (String.not_lt.mp hNotLess) (Ne.symm hNe)
          refine List.pairwise_cons.mpr ⟨fun k' hk' => ?_, ih hRest⟩
          rcases Fields.mem_keys_insert hk' with rfl | hk'
          · exact hGreater
          · exact hFirst k' hk'

theorem Fields.all_insert {p : Json → Bool} {key : String} {value : Json}
    {fields : Fields} (hValue : all p value = true)
    (h : allFields p fields = true) :
    allFields p (Fields.insert key value fields) = true := by
  induction fields with
  | nil => exact allFields_cons.mpr ⟨hValue, rfl⟩
  | cons field rest ih =>
      obtain ⟨k, v⟩ := field
      obtain ⟨hFirst, hRest⟩ := allFields_cons.mp h
      rw [Fields.insert]
      split
      · exact allFields_cons.mpr ⟨hValue, h⟩
      · split
        · exact allFields_cons.mpr ⟨hValue, hRest⟩
        · exact allFields_cons.mpr ⟨hFirst, ih hRest⟩

/-- The fields put in one after the other. -/
def Fields.insertAll (done fields : Fields) : Fields :=
  fields.foldl (fun acc (k, v) => Fields.insert k v acc) done

theorem Fields.insertAll_of_pairwise (done : Fields) {fields : Fields}
    (h : ((done ++ fields).map Prod.fst).Pairwise (· < ·)) :
    Fields.insertAll done fields = done ++ fields := by
  induction fields generalizing done with
  | nil => exact (List.append_nil done).symm
  | cons field rest ih =>
      obtain ⟨key, value⟩ := field
      have hSplit : done ++ (key, value) :: rest =
            done ++ [(key, value)] ++ rest := by simp
      have hLast : ∀ k ∈ done.map Prod.fst, k < key := by
        rw [List.map_append, List.pairwise_append] at h
        exact fun k hk => h.2.2 k hk key List.mem_cons_self
      show Fields.insertAll (Fields.insert key value done) rest = _
      rw [Fields.insert_of_lt value hLast, hSplit]
      exact ih _ (hSplit ▸ h)

/-! ## Values from their events -/

/-- The reading after a value has been read in a place. -/
def resume (room : Nat) (j : Json) (opened : List Unfinished)
    (tail : List Event) : Except Fault (Json × List Event) :=
  match place j opened with
  | .inl whole => .ok (whole, tail)
  | .inr outer => take room outer tail

/-- The value that an event is the whole of. -/
def Event.value? : Event → Option Json
  | .null => some .null
  | .bool b => some (.bool b)
  | .num n => n.map .num
  | .str s => s.map .str
  | _ => none

/-- What an event does to a reading that comes to this result: it puts a value
in place, it opens an array or an object if there is room, it names the next
field, or it closes what is open on the inside. The reading goes on from there
with the events behind it. -/
inductive Advances (room : Nat) (es : List Event) (result : Json × List Event) :
    List Unfinished → Event → Prop where
  | value {opened : List Unfinished} {e : Event} {v : Json}
      (hValue : e.value? = some v)
      (hRest : resume room v opened es = .ok result) :
      Advances room es result opened e
  | openArr {opened : List Unfinished} (hRoom : opened.length < room)
      (hRest : take room (.items [] :: opened) es = .ok result) :
      Advances room es result opened .openArr
  | openObj {opened : List Unfinished} (hRoom : opened.length < room)
      (hRest : take room (.fields [] "" :: opened) es = .ok result) :
      Advances room es result opened .openObj
  | key {done : Fields} {last name : String} {outer : List Unfinished}
      (hRest : take room (.fields done name :: outer) es = .ok result) :
      Advances room es result (.fields done last :: outer) (.key (some name))
  | closeArr {done : List Json} {outer : List Unfinished}
      (hRest : resume room (.arr done.reverse) outer es = .ok result) :
      Advances room es result (.items done :: outer) .closeArr
  | closeObj {done : Fields} {last : String} {outer : List Unfinished}
      (hRest : resume room (.obj done) outer es = .ok result) :
      Advances room es result (.fields done last :: outer) .closeObj

/-- **A reading that succeeds advances with every event.** -/
theorem advances_of_take {room : Nat} {opened : List Unfinished} {e : Event}
    {es : List Event} {result : Json × List Event}
    (h : take room opened (e :: es) = .ok result) :
    Advances room es result opened e := by
  have hEnter : ∀ {new : Unfinished},
      (if opened.length < room then take room (new :: opened) es
        else .error .malformed) = .ok result →
        opened.length < room ∧ take room (new :: opened) es = .ok result := by
    intro new hNew
    by_cases hRoom : opened.length < room
    · exact ⟨hRoom, (if_pos hRoom).symm.trans hNew⟩
    · rw [if_neg hRoom] at hNew
      cases hNew
  cases e with
  | null => exact .value rfl h
  | bool b => exact .value rfl h
  | num n =>
      cases n with
      | none => cases opened <;> cases h
      | some n => exact .value rfl h
  | str s =>
      cases s with
      | none => cases opened <;> cases h
      | some s => exact .value rfl h
  | openArr => exact .openArr (hEnter h).1 (hEnter h).2
  | openObj => exact .openObj (hEnter h).1 (hEnter h).2
  | key name =>
      rcases opened with _ | ⟨_ | _, outer⟩
      · cases name <;> cases h
      · cases name <;> cases h
      · cases name with
        | none => cases h
        | some name => exact .key h
  | closeArr =>
      rcases opened with _ | ⟨_ | _, outer⟩
      · cases h
      · exact .closeArr h
      · cases h
  | closeObj =>
      rcases opened with _ | ⟨_ | _, outer⟩
      · cases h
      · cases h
      · exact .closeObj h
  | fault f => cases opened <;> cases h

mutual

/-- Reading the events of a value puts the value in place. -/
theorem take_toEventsOnto : ∀ {j : Json}, j.all isOrdered = true →
    ∀ {room : Nat} {opened : List Unfinished}, opened.length + j.depth ≤ room →
      ∀ tail, take room opened (toEventsOnto j tail) = resume room j opened tail
  | .null, _, room, opened, _, tail => rfl
  | .bool b, _, room, opened, _, tail => rfl
  | .num n, _, room, opened, _, tail => rfl
  | .str s, _, room, opened, _, tail => rfl
  | .arr items, hOrdered, room, opened, hRoom, tail => by
      have hEnter : opened.length < room := by
        simp only [depth] at hRoom
        omega
      have hInside : opened.length + 1 + itemsDepth items ≤ room := by
        simp only [depth] at hRoom
        omega
      show (if opened.length < room then take room (.items [] :: opened) _
            else _) = _
      rw [if_pos hEnter, take_itemEventsOnto (all_arr.mp hOrdered).2 hInside]
      show resume room (.arr (items.reverse ++ []).reverse) opened tail = _
      rw [List.append_nil, List.reverse_reverse]
  | .obj fields, hOrdered, room, opened, hRoom, tail => by
      obtain ⟨hKeys, hFields⟩ := all_obj.mp hOrdered
      have hEnter : opened.length < room := by
        simp only [depth] at hRoom
        omega
      have hInside : opened.length + 1 + fieldsDepth fields ≤ room := by
        simp only [depth] at hRoom
        omega
      obtain ⟨last, hTake⟩ :=
        take_fieldEventsOnto hFields hInside [] "" (.closeObj :: tail)
      show (if opened.length < room then take room (.fields [] "" :: opened) _
            else _) = _
      rw [if_pos hEnter, hTake, Fields.insertAll_of_pairwise []
        (of_decide_eq_true hKeys)]
      rfl

theorem take_itemEventsOnto :
    ∀ {items : List Json}, allItems isOrdered items = true →
    ∀ {room : Nat} {outer : List Unfinished},
    outer.length + 1 + itemsDepth items ≤ room →
      ∀ {done : List Json} {tail : List Event},
        take room (.items done :: outer) (itemEventsOnto items tail) =
          take room (.items (items.reverse ++ done) :: outer) tail
  | [], _, room, outer, _, done, tail => rfl
  | item :: items, hOrdered, room, outer, hRoom, done, tail => by
      obtain ⟨hItem, hItems⟩ := allItems_cons.mp hOrdered
      simp only [itemsDepth] at hRoom
      show take room (.items done :: outer)
            (toEventsOnto item (itemEventsOnto items tail)) = _
      have hInside : (Unfinished.items done :: outer).length + item.depth ≤
            room := by
        simp only [List.length_cons]
        omega
      rw [take_toEventsOnto hItem hInside]
      show take room (.items (item :: done) :: outer)
            (itemEventsOnto items tail) = _
      rw [take_itemEventsOnto hItems (by omega), List.reverse_cons,
        List.append_assoc, List.singleton_append]

theorem take_fieldEventsOnto :
    ∀ {fields : Fields}, allFields isOrdered fields = true →
    ∀ {room : Nat} {outer : List Unfinished},
    outer.length + 1 + fieldsDepth fields ≤ room →
      ∀ (done : Fields) (key : String) (tail : List Event),
        ∃ last, take room (.fields done key :: outer)
          (fieldEventsOnto fields tail) =
          take room (.fields (Fields.insertAll done fields) last :: outer) tail
  | [], _, room, outer, _, done, key, tail => ⟨key, rfl⟩
  | (name, value) :: fields, hOrdered, room, outer, hRoom, done, key, tail => by
      obtain ⟨hValue, hFields⟩ := allFields_cons.mp hOrdered
      simp only [fieldsDepth] at hRoom
      show ∃ last, take room (.fields done name :: outer)
        (toEventsOnto value (fieldEventsOnto fields tail)) = _
      have hInside : (Unfinished.fields done name :: outer).length +
            value.depth ≤ room := by
        simp only [List.length_cons]
        omega
      rw [take_toEventsOnto hValue hInside]
      exact take_fieldEventsOnto hFields (by omega)
        (Fields.insert name value done) name tail

end

/-! ## Whole texts -/

/-- **A written object is read back with its fields sorted**, in whatever order
they were written. -/
theorem read_render_obj {fields : Fields}
    (hWhole : allFields isWhole fields = true)
    (hRegular : allFields isRegular fields = true)
    (hDepth : (obj fields).depth ≤ maxDepth) :
    read (render (.obj fields)) = .ok (.obj (Fields.sorted fields)) := by
  obtain ⟨hBounded, hOrdered⟩ :=
    Bool.and_eq_true_iff.mp ((allFields_and fields).symm.trans hRegular)
  have hRoom : ([] : List Unfinished).length + 1 + fieldsDepth fields ≤
        maxDepth := by
    rw [depth] at hDepth
    rwa [List.length_nil, Nat.zero_add, Nat.add_comm]
  obtain ⟨last, hTake⟩ := take_fieldEventsOnto hOrdered hRoom [] "" [.closeObj]
  unfold read
  rw [events_render (all_obj.mpr ⟨rfl, hWhole⟩) (all_obj.mpr ⟨rfl, hBounded⟩)]
  show (take maxDepth [.fields [] ""] (fieldEventsOnto fields [.closeObj])).bind
        _ = _
  rw [hTake]
  rfl

end Errand.Json
