import Errand.Json.Basic
import Errand.Number.Decimal

/-!
# The shape of a value

What can be said of a value node by node: `Json.all p` says that `p` holds of
the value and of every value in it, and `Json.depth` is how deep its arrays and
objects are nested.

The type of values is wider than what is ever read. An integer that is read has
no more than 64 bits (`isBounded`), and an object that is read has its keys in
increasing order, no key twice (`isOrdered`); a value is *regular* if it has no
node that is otherwise. Besides, a value may be free of fractions (`isWhole`).
-/

namespace Errand.Json

mutual

/-- `p` holds of the value and of every value in it. -/
def all (p : Json → Bool) : Json → Bool
  | .arr items => p (.arr items) && allItems p items
  | .obj fields => p (.obj fields) && allFields p fields
  | j => p j

/-- `p` holds of the items and of every value in them. -/
def allItems (p : Json → Bool) : List Json → Bool
  | [] => true
  | item :: items => all p item && allItems p items

/-- `p` holds of the values of the fields and of every value in them. -/
def allFields (p : Json → Bool) : List (String × Json) → Bool
  | [] => true
  | (_, value) :: fields => all p value && allFields p fields

end

mutual

/-- How deep arrays and objects are nested in the value. -/
def depth : Json → Nat
  | .arr items => itemsDepth items + 1
  | .obj fields => fieldsDepth fields + 1
  | _ => 0

/-- The greatest depth of the items. -/
def itemsDepth : List Json → Nat
  | [] => 0
  | item :: items => max (depth item) (itemsDepth items)

/-- The greatest depth of the values of the fields. -/
def fieldsDepth : List (String × Json) → Nat
  | [] => 0
  | (_, value) :: fields => max (depth value) (fieldsDepth fields)

end

/-- The value is not a fraction. -/
def isWhole : Json → Bool
  | .num (.float _) => false
  | _ => true

/-- An integer has at most 64 bits, with a sign or without one. -/
def isBounded : Json → Bool
  | .num (.int i) => -0x8000000000000000 ≤ i && i ≤ maxCount
  | _ => true

/-- The keys of an object increase. -/
def isOrdered : Json → Bool
  | .obj fields => (fields.map Prod.fst).Pairwise (· < ·)
  | _ => true

/-- What every value that was read is, node by node. -/
def isRegular (j : Json) : Bool := isBounded j && isOrdered j

section

variable {p q : Json → Bool}

theorem all_arr {items : List Json} :
    all p (.arr items) = true ↔ p (.arr items) = true ∧
    allItems p items = true :=
  Bool.and_eq_true_iff

theorem all_obj {fields : Fields} :
    all p (.obj fields) = true ↔ p (.obj fields) = true ∧
    allFields p fields = true :=
  Bool.and_eq_true_iff

theorem allItems_cons {item : Json} {items : List Json} :
    allItems p (item :: items) = true ↔ all p item = true ∧
    allItems p items = true :=
  Bool.and_eq_true_iff

theorem allFields_cons {key : String} {value : Json} {fields : Fields} :
    allFields p ((key, value) :: fields) = true ↔ all p value = true ∧
    allFields p fields = true :=
  Bool.and_eq_true_iff

theorem allItems_iff {items : List Json} :
    allItems p items = true ↔ ∀ item ∈ items, all p item = true := by
  induction items with
  | nil => exact ⟨nofun, fun _ => rfl⟩
  | cons item items ih => rw [allItems_cons, ih, List.forall_mem_cons]

theorem itemsDepth_le_iff {items : List Json} {n : Nat} :
    itemsDepth items ≤ n ↔ ∀ item ∈ items, depth item ≤ n := by
  induction items with
  | nil => exact ⟨nofun, fun _ => Nat.zero_le n⟩
  | cons item items ih => rw [itemsDepth, Nat.max_le, ih, List.forall_mem_cons]

mutual

/-- Two properties of all nodes are one. -/
theorem all_and : ∀ j : Json, all (fun j => p j && q j) j = (all p j && all q j)
  | .null | .bool _ | .num _ | .str _ => rfl
  | .arr items => by
      simp only [all, allItems_and items]
      ac_rfl
  | .obj fields => by
      simp only [all, allFields_and fields]
      ac_rfl

theorem allItems_and : ∀ items : List Json,
    allItems (fun j => p j && q j) items =
      (allItems p items && allItems q items)
  | [] => rfl
  | item :: items => by
      simp only [allItems, all_and item, allItems_and items]
      ac_rfl

theorem allFields_and : ∀ fields : List (String × Json),
    allFields (fun j => p j && q j) fields =
      (allFields p fields && allFields q fields)
  | [] => rfl
  | (_, value) :: fields => by
      simp only [allFields, all_and value, allFields_and fields]
      ac_rfl

end

theorem all_isRegular {j : Json} :
    all isRegular j = true ↔ all isBounded j = true ∧
    all isOrdered j = true := by
  rw [← Bool.and_eq_true_iff, ← all_and]
  rfl

end

end Errand.Json
