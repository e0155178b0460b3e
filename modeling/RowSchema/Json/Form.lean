import RowSchema.Json.Printer
import RowSchema.Text.Quoted

/-!
# Reading records from JSON

A record is read from an object by its keys, or from an array by the order of its fields. Members
under other keys are passed over. A form lists the fields of a record and says how each one is
read.

## Main definitions

* `Json.Mismatch` — why a tree does not have the shape of a record, and the wording
* `Json.Form` — the fields of a record and how to build it from them
* `Json.Form.read` — reads a record from a tree
* `Json.asString`, `Json.asBool`, `Json.asList`, `Json.asOptional` — readers of fields

## Implementation notes

A form builds the record by looking each field up, so the result does not depend on the order of
the members. Which fault is reported does: the first member in the written order that cannot be
read, and only if all of them can be read the first field in the declared order that is missing.
`Form.read` therefore goes through the members only after building has failed.
-/

namespace RowSchema.Json

/-- Why a tree does not have the expected shape. -/
inductive Mismatch where
  | type (found : Json) (expected : String)
  | value (found expected : String)
  | length (found : Nat) (expected : String)
  | missing (key : String)
  | duplicate (key : String)
  | variant (name : String) (expected : List String)
deriving DecidableEq, Repr

/-- What a tree is, in a message. Containers are not shown. -/
def describe : Json → String
  | .null => "null"
  | .bool b => "boolean `" ++ (if b then "true" else "false") ++ "`"
  | .number (.int n) => "integer `" ++ toString n ++ "`"
  | .number (.float x) => "floating point `" ++ (Number.float x).text ++ "`"
  | .string s => "string " ++ Text.quoted s
  | .array _ => "sequence"
  | .object _ => "map"

/-- The wording of a mismatch. -/
def Mismatch.message : Mismatch → String
  | .type found expected => "invalid type: " ++ found.describe ++ ", expected " ++ expected
  | .value found expected => "invalid value: " ++ found ++ ", expected " ++ expected
  | .length found expected => "invalid length " ++ toString found ++ ", expected " ++ expected
  | .missing key => "missing field `" ++ key ++ "`"
  | .duplicate key => "duplicate field `" ++ key ++ "`"
  | .variant name expected =>
    "unknown variant `" ++ name ++ "`, expected one of "
      ++ String.intercalate ", " (expected.map fun v => "`" ++ v ++ "`")

/-- A reader of trees. -/
abbrev Reader (α : Type) := Json → Except Mismatch α

/-! ### Leaves and lists -/

/-- The text of a string. -/
def asString : Reader String
  | .string s => .ok s
  | j => .error (.type j "a string")

/-- A truth value. -/
def asBool : Reader Bool
  | .bool b => .ok b
  | j => .error (.type j "a boolean")

/-- The items of an array, each read by `item`. The first that fails decides. -/
def asList {α : Type} (item : Reader α) : Reader (List α)
  | .array items => items.mapM item
  | j => .error (.type j "a sequence")

/-- `null` stands for nothing. -/
def asOptional {α : Type} (reader : Reader α) : Reader (Option α)
  | .null => .ok none
  | j => (reader j).map some

/-- Any tree, as a value. -/
def asValue : Reader Json := fun j => .ok j.value

/-! ### Forms -/

/-- Where the fields of a record come from. -/
structure Source where
  get? : String → Option Json
  absent : String → Mismatch

/-- One field: its key and what is wrong with a tree in its place. -/
structure Slot where
  key : String
  fault? : Json → Option Mismatch

/-- The fields of a record in their declared order, and how the record is built. -/
structure Form (α : Type) where
  slots : List Slot
  build : Source → Except Mismatch α

/-- What is wrong, if anything is. -/
def faultOf {α : Type} : Except Mismatch α → Option Mismatch
  | .error m => some m
  | .ok _ => none

namespace Form

variable {α β : Type}

/-- A field that has to be there. -/
def required (key : String) (reader : Reader α) : Form α where
  slots := [⟨key, fun j => faultOf (reader j)⟩]
  build source :=
    match source.get? key with
    | some j => reader j
    | none => .error (source.absent key)

/-- A field that has the value `default` if it is not there. -/
def optional (key : String) (reader : Reader α) (default : α) : Form α where
  slots := [⟨key, fun j => faultOf (reader j)⟩]
  build source :=
    match source.get? key with
    | some j => reader j
    | none => .ok default

/-- A field that may be missing or `null`. -/
def nullable (key : String) (reader : Reader α) : Form (Option α) :=
  optional key (asOptional reader) none

/-- The fields of two forms one after the other. -/
def both (f : Form (α → β)) (x : Form α) : Form β where
  slots := f.slots ++ x.slots
  build source := do
    let g ← f.build source
    let a ← x.build source
    return g a

instance : Functor Form where
  map g x := ⟨x.slots, fun source => (x.build source).map g⟩

instance : Seq Form where
  seq f x := both f (x ())

/-- The keys in the declared order. -/
def keys (form : Form α) : List String :=
  form.slots.map Slot.key

/-- The first field of `entries`, in their order, that cannot be read. -/
def firstFault (form : Form α) (entries : List (String × Json)) : Option Mismatch :=
  entries.findSome? fun (key, j) =>
    (form.slots.find? (·.key = key)).bind (·.fault? j)

/-- Builds the record from `source`. A failure is blamed on the first of `entries` that cannot be
read. -/
def buildFrom (form : Form α) (entries : List (String × Json)) (source : Source) :
    Except Mismatch α :=
  match form.build source with
  | .ok a => .ok a
  | .error m => .error ((form.firstFault entries).getD m)

/-- The first key of the form that occurs twice. -/
def duplicate? (form : Form α) : List (String × Json) → Option String
  | [] => none
  | (key, _) :: rest =>
    if key ∈ form.keys ∧ key ∈ rest.map Prod.fst then some key else form.duplicate? rest

/-- The record of an object. -/
def ofMembers (form : Form α) (members : List (String × Json)) : Except Mismatch α :=
  match form.duplicate? members with
  | some key => .error (.duplicate key)
  | none => form.buildFrom members ⟨Dict.get? members, .missing⟩

/-- A record and the number of its fields. -/
def size (title : String) (count : Nat) : String :=
  title ++ " with " ++ toString count ++ (if count = 1 then " element" else " elements")

/-- The record of an array. A field that is not there has its index for the length that was
found. -/
def ofItems (form : Form α) (title : String) (items : List Json) : Except Mismatch α := do
  let entries := form.keys.zip items
  let absent key := Mismatch.length (form.keys.idxOf key) (size title form.slots.length)
  let record ← form.buildFrom entries ⟨Dict.get? entries, absent⟩
  if form.slots.length < items.length then
    throw (.length items.length "fewer elements in array")
  return record

/-- Reads a record. `title` names its type in messages. -/
def read (form : Form α) (title : String) : Reader α
  | .object members => form.ofMembers members
  | .array items => form.ofItems title items
  | j => .error (.type j title)

/-- Reads a record that is always an object. -/
def readObject (form : Form α) (title : String) : Reader α
  | .object members => form.ofMembers members
  | j => .error (.type j title)

/-- Reads a record that is always an array. -/
def readTuple (form : Form α) (title : String) : Reader α
  | .array items => form.ofItems title items
  | j => .error (.type j title)

end Form

/-! ### Choices -/

/-- The variant whose name is `name`. -/
def variantOf {α : Type} (variants : List (String × α)) (name : String) : Except Mismatch α :=
  match Dict.get? variants name with
  | some a => .ok a
  | none => .error (.variant name (variants.map Prod.fst))

/-- Reads one of several names: a string, or an object with the name as its only key and `null`
under it. -/
def asVariant {α : Type} (variants : List (String × α)) : Reader α
  | .string name => variantOf variants name
  | .object [(name, j)] => do
    let a ← variantOf variants name
    if j.isNull then return a else throw (.type j "unit")
  | .object _ => .error (.value "map" "map with a single key")
  | j => .error (.type j "string or map")

end RowSchema.Json
