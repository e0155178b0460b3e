import RowSchema.Decimal.Binary64
import RowSchema.Dict

/-!
# JSON values

The tree of a JSON text. A tree keeps the members of an object as they are written; a *value* is a
tree in which the members of every object are in key order, each key once.

## Main definitions

* `Json`, `Json.Number` — trees
* `Json.value` — the value of a tree. Of several members under one key the last one counts.

## Implementation notes

Both roles share one type, because a value is a tree. What distinguishes them is the invariant
`Json.IsValue`, and `Json.value` establishes it.
-/

namespace RowSchema

open Decimal (Binary64)

/-- A number is an integer of the range from `-2 ^ 63` to `2 ^ 64 - 1`, or a finite float. -/
inductive Json.Number where
  | int (n : Int)
  | float (x : Binary64)
deriving DecidableEq, Repr

/-- The tree of a JSON text. -/
inductive Json where
  | null
  | bool (b : Bool)
  | number (n : Json.Number)
  | string (s : String)
  | array (items : List Json)
  | object (members : List (String × Json))
deriving Repr, Inhabited

namespace Json

/-- The number `n`. -/
abbrev int (n : Int) : Json := .number (.int n)

/-! ### Equality -/

mutual

/-- Whether two trees are the same. -/
def same : Json → Json → Bool
  | .null, .null => true
  | .bool a, .bool b => decide (a = b)
  | .number a, .number b => decide (a = b)
  | .string a, .string b => decide (a = b)
  | .array items, .array others => sameItems items others
  | .object members, .object others => sameMembers members others
  | _, _ => false

/-- Whether two lists hold the same trees. -/
def sameItems : List Json → List Json → Bool
  | [], [] => true
  | a :: items, b :: others => a.same b && sameItems items others
  | _, _ => false

/-- Whether two lists hold the same trees under the same keys. -/
def sameMembers : List (String × Json) → List (String × Json) → Bool
  | [], [] => true
  | (k, a) :: members, (l, b) :: others =>
    decide (k = l) && a.same b && sameMembers members others
  | _, _ => false

end

mutual

theorem same_iff : ∀ a b : Json, a.same b = true ↔ a = b
  | .null, b => by cases b <;> simp [same]
  | .bool _, b => by cases b <;> simp [same]
  | .number _, b => by cases b <;> simp [same]
  | .string _, b => by cases b <;> simp [same]
  | .array items, b => by
    cases b with
    | array others => simp [same, sameItems_iff items others]
    | _ => simp [same]
  | .object members, b => by
    cases b with
    | object others => simp [same, sameMembers_iff members others]
    | _ => simp [same]

theorem sameItems_iff : ∀ as bs : List Json, sameItems as bs = true ↔ as = bs
  | [], bs => by cases bs <;> simp [sameItems]
  | a :: as, bs => by
    cases bs with
    | nil => simp [sameItems]
    | cons b bs => simp [sameItems, same_iff a b, sameItems_iff as bs]

theorem sameMembers_iff : ∀ as bs : List (String × Json), sameMembers as bs = true ↔ as = bs
  | [], bs => by cases bs <;> simp [sameMembers]
  | (k, a) :: as, bs => by
    cases bs with
    | nil => simp [sameMembers]
    | cons b bs =>
      obtain ⟨l, b⟩ := b
      simp [sameMembers, same_iff a b, sameMembers_iff as bs, and_assoc]

end

instance : DecidableEq Json := fun a b => decidable_of_iff _ (same_iff a b)

/-! ### Values -/

mutual

/-- The tree with the members of every object in key order, each key once. -/
def value : Json → Json
  | .array items => .array (valueItems items)
  | .object members => .object (Dict.ofEntries (valueMembers members))
  | leaf => leaf

/-- The values of the items. -/
def valueItems : List Json → List Json
  | [] => []
  | item :: rest => item.value :: valueItems rest

/-- The members with their values, in the written order. -/
def valueMembers : List (String × Json) → List (String × Json)
  | [] => []
  | (key, item) :: rest => (key, item.value) :: valueMembers rest

end

theorem valueItems_eq_map (items : List Json) : valueItems items = items.map value := by
  induction items with
  | nil => rfl
  | cons item rest ih => rw [valueItems, ih, List.map_cons]

theorem valueMembers_eq_map (members : List (String × Json)) :
    valueMembers members = members.map fun (key, item) => (key, item.value) := by
  induction members with
  | nil => rfl
  | cons entry rest ih => rw [valueMembers, ih, List.map_cons]

mutual

/-- The members of every object are in key order, each key once. -/
def IsValue : Json → Prop
  | .array items => AreValues items
  | .object members => Dict.Ordered members ∧ HoldValues members
  | _ => True

/-- Each item is a value. -/
def AreValues : List Json → Prop
  | [] => True
  | item :: rest => item.IsValue ∧ AreValues rest

/-- Each member holds a value. -/
def HoldValues : List (String × Json) → Prop
  | [] => True
  | (_, item) :: rest => item.IsValue ∧ HoldValues rest

end

theorem areValues_iff {items : List Json} : AreValues items ↔ ∀ item ∈ items, item.IsValue := by
  induction items with
  | nil => simp [AreValues]
  | cons item rest ih => simp [AreValues, ih]

theorem holdValues_iff {members : List (String × Json)} :
    HoldValues members ↔ ∀ entry ∈ members, entry.2.IsValue := by
  induction members with
  | nil => simp [HoldValues]
  | cons entry rest ih => simp [HoldValues, ih]

mutual

/-- Whether a tree is a value. -/
def decideIsValue : (j : Json) → Decidable j.IsValue
  | .array items =>
    have := decideAreValues items
    decidable_of_iff (AreValues items) (by rw [IsValue])
  | .object members =>
    have := decideHoldValues members
    decidable_of_iff (Dict.Ordered members ∧ HoldValues members) (by rw [IsValue])
  | .null | .bool _ | .number _ | .string _ => isTrue trivial

/-- Whether all items are values. -/
def decideAreValues : (items : List Json) → Decidable (AreValues items)
  | [] => isTrue trivial
  | item :: rest =>
    have := decideIsValue item
    have := decideAreValues rest
    decidable_of_iff (item.IsValue ∧ AreValues rest) (by rw [AreValues])

/-- Whether all members hold values. -/
def decideHoldValues : (members : List (String × Json)) → Decidable (HoldValues members)
  | [] => isTrue trivial
  | (_, item) :: rest =>
    have := decideIsValue item
    have := decideHoldValues rest
    decidable_of_iff (item.IsValue ∧ HoldValues rest) (by rw [HoldValues])

end

instance (j : Json) : Decidable j.IsValue := decideIsValue j

/-! ### Views -/

/-- Whether the tree is `null`. -/
def isNull : Json → Bool
  | .null => true
  | _ => false

@[simp]
theorem isNull_iff {j : Json} : j.isNull = true ↔ j = .null := by
  cases j <;> simp [isNull]

/-- The text of a string. -/
def string? : Json → Option String
  | .string s => some s
  | _ => none

/-- The items of an array. -/
def array? : Json → Option (List Json)
  | .array items => some items
  | _ => none

/-- The members of an object. -/
def object? : Json → Option (List (String × Json))
  | .object members => some members
  | _ => none

/-- The integer of a number that is one. -/
def int? : Json → Option Int
  | .number (.int n) => some n
  | _ => none

/-- The value under `key`, if the tree is an object that has it. -/
def get? (j : Json) (key : String) : Option Json :=
  j.object?.bind (Dict.get? · key)

end Json

end RowSchema
