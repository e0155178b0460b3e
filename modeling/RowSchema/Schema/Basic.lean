import RowSchema.Json.Basic

/-!
# Schemas

A schema describes the JSON values of a row, of one column or of a part of a column. A column may
be described three times over, once for each thing that is done with it.

## Main definitions

* `Schema` — the tree of a schema; its leaves are of type `Schema.Atom`
* `Schema.Property` — a field of a record, with the key under which it is stored
* `Schema.induction` — induction over the tree, which `induction` uses

## Implementation notes

`Property` takes the type of schemas as a parameter, so that the record and the tree are not one
mutual block. Equality of schemas is decided by `Schema.same`.
-/

namespace RowSchema

/-- A schema that contains no other schema. -/
inductive Schema.Atom where
  /-- No value. -/
  | never
  /-- Any value. -/
  | unknown
  /-- An absent value, for which `null` stands in. -/
  | undefined
  | null
  | string
  | number
  /-- An integer, as a number or in decimal digits. -/
  | bigint
  | boolean
  /-- A timestamp as a string. -/
  | date
  | uuid
  /-- Bytes as a list of integers. -/
  | uint8Array
  /-- One of the given strings. -/
  | literal (values : List String)
deriving DecidableEq, Repr

/-- A field of a record. -/
structure Schema.Property (σ : Type) where
  /-- The name in memory. -/
  name : String
  /-- The key in the store, if it is not the name. -/
  key : Option String
  schema : σ
  /-- Whether the field may be left out. -/
  optional : Bool
deriving Repr, DecidableEq

/-- The tree of a schema. -/
inductive Schema where
  | atom (a : Schema.Atom)
  | array (item : Schema)
  | union (members : List Schema)
  | struct (properties : List (Schema.Property Schema))
  /-- One schema for what is read, one for what is inserted, one for what is changed. -/
  | column (select insert update : Schema)
deriving Repr

namespace Schema

instance : Inhabited Schema := ⟨.atom .never⟩

/-- No value. -/
@[match_pattern] abbrev never : Schema := .atom .never

/-- Any value. -/
@[match_pattern] abbrev unknown : Schema := .atom .unknown

/-- An absent value. -/
@[match_pattern] abbrev undefined : Schema := .atom .undefined

/-- One of the given strings. -/
abbrev literal (values : List String) : Schema := .atom (.literal values)

/-! ### Induction -/

/-- Induction over the tree. The statement may be assumed of every member of a union and of the
schema of every property of a record. -/
@[elab_as_elim, induction_eliminator]
theorem induction {motive : Schema → Prop} (atom : ∀ a, motive (.atom a))
    (array : ∀ item, motive item → motive (.array item))
    (union : ∀ members, (∀ m ∈ members, motive m) → motive (.union members))
    (struct : ∀ properties, (∀ p ∈ properties, motive p.schema) → motive (.struct properties))
    (column : ∀ select insert update, motive select → motive insert → motive update →
      motive (.column select insert update)) (s : Schema) : motive s :=
  @Schema.rec motive (fun members => ∀ m ∈ members, motive m)
    (fun properties => ∀ p ∈ properties, motive p.schema) (fun p => motive p.schema)
    atom array union struct column
    (fun _ h => nomatch h) (fun _ _ hm hms => List.forall_mem_cons.2 ⟨hm, hms⟩)
    (fun _ h => nomatch h) (fun _ _ hp hps => List.forall_mem_cons.2 ⟨hp, hps⟩)
    (fun _ _ _ _ h => h) s

/-! ### Equality -/

mutual

/-- Whether two schemas are the same tree. -/
def same : Schema → Schema → Bool
  | .atom a, .atom b => decide (a = b)
  | .array s, .array t => s.same t
  | .union ms, .union ns => sameMembers ms ns
  | .struct ps, .struct qs => sameProperties ps qs
  | .column s i u, .column s' i' u' => s.same s' && i.same i' && u.same u'
  | _, _ => false

/-- Whether two lists hold the same trees. -/
def sameMembers : List Schema → List Schema → Bool
  | [], [] => true
  | m :: ms, n :: ns => m.same n && sameMembers ms ns
  | _, _ => false

/-- Whether two lists hold the same properties. -/
def sameProperties : List (Property Schema) → List (Property Schema) → Bool
  | [], [] => true
  | p :: ps, q :: qs =>
    decide (p.name = q.name) && decide (p.key = q.key) && p.schema.same q.schema
      && decide (p.optional = q.optional) && sameProperties ps qs
  | _, _ => false

end

mutual

theorem same_iff : ∀ s t : Schema, s.same t = true ↔ s = t
  | .atom a, t => by cases t <;> simp [same]
  | .array s, t => by
    cases t with
    | array t => simp [same, same_iff s t]
    | _ => simp [same]
  | .union ms, t => by
    cases t with
    | union ns => simp [same, sameMembers_iff ms ns]
    | _ => simp [same]
  | .struct ps, t => by
    cases t with
    | struct qs => simp [same, sameProperties_iff ps qs]
    | _ => simp [same]
  | .column s i u, t => by
    cases t with
    | column s' i' u' => simp [same, same_iff s s', same_iff i i', same_iff u u', and_assoc]
    | _ => simp [same]

theorem sameMembers_iff : ∀ ms ns : List Schema, sameMembers ms ns = true ↔ ms = ns
  | [], ns => by cases ns <;> simp [sameMembers]
  | m :: ms, ns => by
    cases ns with
    | nil => simp [sameMembers]
    | cons n ns => simp [sameMembers, same_iff m n, sameMembers_iff ms ns]

theorem sameProperties_iff : ∀ ps qs : List (Property Schema), sameProperties ps qs = true ↔ ps = qs
  | [], qs => by cases qs <;> simp [sameProperties]
  | ⟨name, key, s, optional⟩ :: ps, qs => by
    cases qs with
    | nil => simp [sameProperties]
    | cons q qs =>
      obtain ⟨name', key', t, optional'⟩ := q
      simp [sameProperties, same_iff s t, sameProperties_iff ps qs, and_assoc]

end

instance : DecidableEq Schema := fun s t => decidable_of_iff _ (same_iff s t)

/-! ### Properties -/

namespace Property

variable {σ : Type}

/-- A field that has to be there. -/
def required (name : String) (schema : σ) : Property σ := ⟨name, none, schema, false⟩

/-- A field that may be left out. -/
def leftOut (name : String) (schema : σ) : Property σ := ⟨name, none, schema, true⟩

/-- The same field stored under `key`. A key that is the name is not recorded. -/
def storedAs (p : Property σ) (key : String) : Property σ :=
  { p with key := if key = p.name then none else some key }

/-- The key of the field in stored records. -/
def storedKey (p : Property σ) : String :=
  p.key.getD p.name

@[simp]
theorem storedKey_storedAs (p : Property σ) (key : String) : (p.storedAs key).storedKey = key := by
  by_cases h : key = p.name <;> simp [storedKey, storedAs, h]

end Property

/-! ### Views -/

/-- The properties of a record. -/
def properties? : Schema → Option (List (Property Schema))
  | .struct ps => some ps
  | _ => none

/-- The first property called `name`. -/
def property? (s : Schema) (name : String) : Option (Property Schema) :=
  s.properties?.bind (List.find? (·.name = name))

/-- Whether the schema is `never`. -/
def isNever : Schema → Bool
  | .atom .never => true
  | _ => false

/-- Whether the schema is a column with three sides. -/
def isColumn : Schema → Bool
  | .column .. => true
  | _ => false

@[simp]
theorem isNever_iff {s : Schema} : s.isNever = true ↔ s = .never := by
  unfold isNever
  split <;> simp_all

@[simp]
theorem isNever_eq_false_iff {s : Schema} : s.isNever = false ↔ s ≠ .never := by
  rw [← Bool.not_eq_true, isNever_iff]

end Schema

end RowSchema
