import Errand.Proofs.Json.Faults

/-!
# What a JSON text spells

A text that keeps to the grammar spells a `Tree`. A tree is more than a value:
the members of an object stand in the order of the text, repeated ones too, and
there are numbers and strings in it that have no value, because the number is
too large or an escape in the string stands for no character. Whoever passes
over a part of a text does not mind those, so the tree, and not the value, says
what a reader can come across.

That every text without a fault spells a tree is shown along the grammar. What
is open around a place tells how the events go on from there: `Closes` says it
of what is open, `Continues` of the place.

## Main results

* `Tree.skip_eventsOnto`: passing over a value takes the events of one tree.
* `exists_spelledBy`, `Tree.SpelledBy.not_faulty`: a text spells a tree if
  there is no fault among its events, and only then.
-/

namespace Errand.Json

/-- What a JSON text spells. -/
inductive Tree where
  | null
  | bool (value : Bool)
  /-- A number; none if it is too large. -/
  | num (value : Option Number)
  /-- A string; none if one of its escapes stands for no character. -/
  | str (value : Option String)
  | arr (items : List Tree)
  /-- The members in the order of the text, each with its key. -/
  | obj (members : List (Option String × Tree))

namespace Tree

mutual

/-- The events of a tree, in front of what follows it. -/
def eventsOnto : Tree → List Event → List Event
  | .null, tail => .null :: tail
  | .bool b, tail => .bool b :: tail
  | .num n, tail => .num n :: tail
  | .str s, tail => .str s :: tail
  | .arr items, tail => .openArr :: itemsOnto items (.closeArr :: tail)
  | .obj members, tail => .openObj :: membersOnto members (.closeObj :: tail)

/-- The events of a list of items. -/
def itemsOnto : List Tree → List Event → List Event
  | [], tail => tail
  | item :: items, tail => eventsOnto item (itemsOnto items tail)

/-- The events of a list of members, each its key and its value. -/
def membersOnto : List (Option String × Tree) → List Event → List Event
  | [], tail => tail
  | (key, value) :: members, tail =>
  .key key :: eventsOnto value (membersOnto members tail)

end

/-- The text spells the tree. -/
def SpelledBy (t : Tree) (s : String) : Prop :=
  events s.toList = t.eventsOnto []

mutual

theorem length_lt_eventsOnto : ∀ (t : Tree) (tail : List Event),
    tail.length < (t.eventsOnto tail).length
  | .null, tail | .bool _, tail | .num _, tail | .str _, tail =>
  Nat.lt_succ_self tail.length
  | .arr items, tail => by
      have hItems := length_le_itemsOnto items (.closeArr :: tail)
      simp only [eventsOnto, List.length_cons] at hItems ⊢
      omega
  | .obj members, tail => by
      have hMembers := length_le_membersOnto members (.closeObj :: tail)
      simp only [eventsOnto, List.length_cons] at hMembers ⊢
      omega

theorem length_le_itemsOnto : ∀ (items : List Tree) (tail : List Event),
    tail.length ≤ (itemsOnto items tail).length
  | [], tail => Nat.le_refl tail.length
  | item :: items, tail => by
      have hItem := length_lt_eventsOnto item (itemsOnto items tail)
      have hItems := length_le_itemsOnto items tail
      simp only [itemsOnto]
      omega

/-- Every member has at least one event. -/
theorem length_le_membersOnto :
    ∀ (members : List (Option String × Tree)) (tail : List Event),
    members.length + tail.length ≤ (membersOnto members tail).length
  | [], tail => Nat.le_of_eq (Nat.zero_add tail.length)
  | (_, value) :: members, tail => by
      have hValue := length_lt_eventsOnto value (membersOnto members tail)
      have hMembers := length_le_membersOnto members tail
      simp only [membersOnto, List.length_cons]
      omega

end

/-! ## No fault in a tree -/

mutual

theorem faulty_of_eventsOnto : ∀ {t : Tree} {tail : List Event},
    Faulty (t.eventsOnto tail) → Faulty tail
  | .null, _, h | .bool _, _, h | .num _, _, h | .str _, _, h => h.later nofun
  | .arr items, tail, h => by
      have hItems := faulty_of_itemsOnto (h.later nofun)
      exact hItems.later nofun
  | .obj members, tail, h => by
      have hMembers := faulty_of_membersOnto (h.later nofun)
      exact hMembers.later nofun

theorem faulty_of_itemsOnto : ∀ {items : List Tree} {tail : List Event},
    Faulty (itemsOnto items tail) → Faulty tail
  | [], _, h => h
  | _ :: _, _, h => faulty_of_itemsOnto (faulty_of_eventsOnto h)

theorem faulty_of_membersOnto :
    ∀ {members : List (Option String × Tree)} {tail : List Event},
    Faulty (membersOnto members tail) → Faulty tail
  | [], _, h => h
  | _ :: _, _, h => faulty_of_membersOnto (faulty_of_eventsOnto (h.later nofun))

end

/-! ## Trees are passed over -/

mutual

/-- Inside of an array or object a tree is passed over. -/
theorem skip_succ_eventsOnto : ∀ (t : Tree) (depth : Nat) (tail : List Event),
    skip (depth + 1) (t.eventsOnto tail) = skip (depth + 1) tail
  | .null, _, _ | .bool _, _, _ | .num _, _, _ | .str _, _, _ => rfl
  | .arr items, depth, tail =>
  skip_succ_itemsOnto items (depth + 1) (.closeArr :: tail)
  | .obj members, depth, tail =>
  skip_succ_membersOnto members (depth + 1) (.closeObj :: tail)

theorem skip_succ_itemsOnto :
    ∀ (items : List Tree) (depth : Nat) (tail : List Event),
    skip (depth + 1) (itemsOnto items tail) = skip (depth + 1) tail
  | [], _, _ => rfl
  | item :: items, depth, tail => by
      have hItem := skip_succ_eventsOnto item depth (itemsOnto items tail)
      have hItems := skip_succ_itemsOnto items depth tail
      exact hItem.trans hItems

theorem skip_succ_membersOnto :
    ∀ (members : List (Option String × Tree)) (depth : Nat)
    (tail : List Event), skip (depth + 1) (membersOnto members tail) =
      skip (depth + 1) tail
  | [], _, _ => rfl
  | (_, value) :: members, depth, tail => by
      have hValue := skip_succ_eventsOnto value depth (membersOnto members tail)
      have hMembers := skip_succ_membersOnto members depth tail
      exact hValue.trans hMembers

end

/-- **Passing over a value takes the events of one tree.** -/
theorem skip_eventsOnto (t : Tree) (tail : List Event) :
    skip 0 (t.eventsOnto tail) = .ok tail := by
  cases t with
  | null | bool | num | str => rfl
  | arr items => exact skip_succ_itemsOnto items 0 (.closeArr :: tail)
  | obj members => exact skip_succ_membersOnto members 0 (.closeObj :: tail)

end Tree

open Errand.Json.Tree

/-! ## A tree in every text without a fault -/

/-- The events close what is open around the place, from the inside to the
outside. -/
def Closes : List Enclosing → List Event → Prop
  | [], es => es = []
  | .array :: outer, es =>
  ∃ items rest, es = itemsOnto items (.closeArr :: rest) ∧ Closes outer rest
  | .object :: outer, es =>
      ∃ members rest, es = membersOnto members (.closeObj :: rest) ∧
        Closes outer rest

/-- The events are those of a tree and then close what is open around it. -/
def Begins (around : List Enclosing) (es : List Event) : Prop :=
  ∃ (t : Tree) (rest : List Event), es = t.eventsOnto rest ∧ Closes around rest

/-- How the events go on from a place. -/
def Continues (place : Place) (around : List Enclosing)
    (es : List Event) : Prop :=
  match place with
  | .value | .colon => Begins around es
  | .next => Closes around es
  | .firstItem => around.head? = some .array → Closes around es
  | .firstKey | .key => around.head? = some .object → Closes around es

section

variable {around outer : List Enclosing} {es : List Event}

/-- A tree is followed by what closes the places around it. -/
theorem Closes.tree (h : Closes around es) (t : Tree) :
    Begins around (t.eventsOnto es) :=
  ⟨t, es, rfl, h⟩

theorem Closes.array (h : Closes (.array :: around) es) :
    Begins around (.openArr :: es) := by
  obtain ⟨items, rest, rfl, hRest⟩ := h
  exact ⟨.arr items, rest, rfl, hRest⟩

theorem Closes.object (h : Closes (.object :: around) es) :
    Begins around (.openObj :: es) := by
  obtain ⟨members, rest, rfl, hRest⟩ := h
  exact ⟨.obj members, rest, rfl, hRest⟩

/-- A tree inside of an array is one more item. -/
theorem Begins.item (h : Begins (.array :: outer) es) :
    Closes (.array :: outer) es := by
  obtain ⟨t, rest, rfl, items, rest', rfl, hRest⟩ := h
  exact ⟨t :: items, rest', rfl, hRest⟩

theorem Begins.firstItem (h : Begins around es) :
    Continues .firstItem around es := by
  intro hArray
  obtain ⟨outer, rfl⟩ := List.head?_eq_some_iff.mp hArray
  exact h.item

/-- A tree behind a key of an object is one more member. -/
theorem Begins.member (h : Begins around es) (key : Option String) :
    around.head? = some .object → Closes around (.key key :: es) := by
  intro hObject
  obtain ⟨outer, rfl⟩ := List.head?_eq_some_iff.mp hObject
  obtain ⟨t, rest, rfl, members, rest', rfl, hRest⟩ := h
  exact ⟨(key, t) :: members, rest', rfl, hRest⟩

end

/-- **The events from a place on close what is open there, unless there is a
fault.** The induction is along the grammar. -/
theorem continues_parse {place : Place} {around : List Enclosing}
    {ts : List Token} (h : ¬ Faulty (parse place around ts)) :
    Continues place around (parse place around ts) := by
  have hBehind : ∀ {e : Event} {es : List Event}, ¬ Faulty (e :: es) →
      ¬ Faulty es :=
    fun hNot ⟨f, hFault⟩ => hNot ⟨f, List.mem_cons_of_mem _ hFault⟩
  fun_induction parse place around ts
  case case1 => rfl
  -- values, which may be the first item of an array as well
  case case4 ih => exact (ih (hBehind h)).tree .null
  case case5 ih => exact (ih (hBehind h)).tree (.bool _)
  case case6 ih => exact (ih (hBehind h)).tree (.num _)
  case case7 ih => exact (ih (hBehind h)).tree (.str _)
  case case13 ih => exact ((ih (hBehind h)).tree .null).firstItem
  case case14 ih => exact ((ih (hBehind h)).tree (.bool _)).firstItem
  case case15 ih => exact ((ih (hBehind h)).tree (.num _)).firstItem
  case case16 ih => exact ((ih (hBehind h)).tree (.str _)).firstItem
  case case8 ih => exact (ih (hBehind h) rfl).array
  case case17 ih => exact (ih (hBehind h) rfl).array.firstItem
  case case9 ih => exact (ih (hBehind h) rfl).object
  case case18 ih => exact (ih (hBehind h) rfl).object.firstItem
  -- keys
  case case23 ih | case26 ih => exact (ih (hBehind h)).member _
  case case29 ih => exact ih h
  -- the ends of arrays and objects
  case case3 ih => exact fun _ => ⟨[], _, rfl, ih (hBehind h)⟩
  case case31 ih | case34 ih => exact ⟨[], _, rfl, ih (hBehind h)⟩
  case case22 ih => exact fun _ => ⟨[], _, rfl, ih (hBehind h)⟩
  -- commas
  case case30 ih => exact (ih h).item
  case case33 ih => exact ih h rfl
  -- faults
  case case10 | case19 | case24 | case27 =>
    exact absurd ⟨_, fault_mem_brokenEvents _ _ _⟩ h
  all_goals exact absurd ⟨_, List.mem_singleton_self _⟩ h

/-- **A text spells a tree, unless there is a fault among its events.** -/
theorem exists_spelledBy {s : String} (h : ¬ Faulty (events s.toList)) :
    ∃ t : Tree, t.SpelledBy s := by
  obtain ⟨t, rest, hEvents, rfl⟩ := continues_parse h
  exact ⟨t, hEvents⟩

theorem Tree.SpelledBy.not_faulty {t : Tree} {s : String} (h : t.SpelledBy s) :
    ¬ Faulty (events s.toList) := by
  intro hFaulty
  rw [show events s.toList = t.eventsOnto [] from h] at hFaulty
  obtain ⟨f, hFault⟩ := faulty_of_eventsOnto hFaulty
  cases hFault

end Errand.Json
