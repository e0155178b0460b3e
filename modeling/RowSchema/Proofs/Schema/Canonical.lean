import RowSchema.ModelSchema
import RowSchema.Proofs.Schema.Views

/-!
# Canonical unions

A schema is canonical if each of its unions has at least two members, no member twice, and neither
`never` nor a union among them. Nothing in the type of schemas enforces this, and what is built of
schemas relies on it: whether a type admits an absent value is decided by looking at the members of
a union and not further, and two types are compared as trees.

It need not be enforced, because the operations that build schemas keep it. They open one level of
unions only, and that is enough: a canonical union has no second level. The schemas they build are
even all the canonical ones, since a canonical union is built again from its own members.

## Main definitions

* `Schema.Canonical` — the condition
* `Schema.Built` — schemas made without writing down a union by hand

## Main results

* `Schema.canonical_unionOf` — building a union keeps the condition
* `Schema.built_iff_canonical` — the schemas that can be built
* `Schema.Canonical.viewed` — the views keep the condition
* `TypeExpr.built_toSchema`, `Datamodel.Model.built_base` — expressions and models build schemas
* `Schema.unions_canonical` — all of these, and how unions nest
-/

namespace RowSchema

open Datamodel (Registry)

namespace Schema

variable {s : Schema} {ms : List Schema}

/-! ### Canonical schemas -/

/-- Every union in the schema has at least two members, which are different and neither `never` nor
unions. -/
inductive Canonical : Schema → Prop where
  | atom {a : Atom} : Canonical (.atom a)
  | array {item : Schema} (hitem : Canonical item) : Canonical (.array item)
  | union {members : List Schema} (hlength : 2 ≤ members.length) (hdistinct : members.Nodup)
      (hplain : ∀ m ∈ members, m ≠ .never ∧ m.isUnion = false)
      (hmembers : ∀ m ∈ members, Canonical m) : Canonical (.union members)
  | struct {properties : List (Property Schema)}
      (hproperties : ∀ p ∈ properties, Canonical p.schema) : Canonical (.struct properties)
  | column {select insert update : Schema} (hselect : Canonical select)
      (hinsert : Canonical insert) (hupdate : Canonical update) :
      Canonical (.column select insert update)

/-- A canonical schema is opened to canonical schemas that are not unions. -/
theorem Canonical.of_mem_alternatives (h : s.Canonical) {m : Schema} (hm : m ∈ s.alternatives) :
    m.isUnion = false ∧ m.Canonical := by
  cases s with
  | union members =>
    cases h with
    | union hlength hdistinct hplain hmembers => exact ⟨(hplain m hm).2, hmembers m hm⟩
  | _ =>
    obtain rfl := List.mem_singleton.mp hm
    exact ⟨rfl, h⟩

theorem of_mem_flattened (h : ∀ s ∈ ms, s.Canonical) {m : Schema} (hm : m ∈ flattened ms) :
    m ≠ .never ∧ m.isUnion = false ∧ m.Canonical := by
  obtain ⟨s, hs, hm, hnever⟩ := mem_flattened.mp hm
  exact ⟨hnever, (h s hs).of_mem_alternatives hm⟩

theorem canonical_collapse (hdistinct : ms.Nodup)
    (h : ∀ m ∈ ms, m ≠ .never ∧ m.isUnion = false ∧ m.Canonical) : (collapse ms).Canonical := by
  match ms with
  | [] => exact .atom
  | [m] => exact (h m (List.mem_singleton_self m)).2.2
  | _ :: _ :: _ =>
    exact .union (by simp) hdistinct (fun m hm => ⟨(h m hm).1, (h m hm).2.1⟩)
      fun m hm => (h m hm).2.2

/-- **Building a union** of canonical schemas gives a canonical schema. -/
theorem canonical_unionOf (h : ∀ m ∈ ms, m.Canonical) : (unionOf ms).Canonical :=
  canonical_collapse (nodup_distinct _) fun _ hm => of_mem_flattened h (mem_distinct.mp hm)

theorem Canonical.orUndefined (h : s.Canonical) : s.orUndefined.Canonical := by
  refine canonical_unionOf fun m hm => ?_
  rcases List.mem_pair.mp hm with rfl | rfl
  · exact h
  · exact .atom

/-- A canonical union is built again from its own members. -/
theorem Canonical.unionOf_eq (h : (Schema.union ms).Canonical) : unionOf ms = .union ms := by
  cases h with
  | union hlength hdistinct hplain hmembers => exact unionOf_eq_union hlength hdistinct hplain

/-! ### Schemas that can be built -/

/-- Schemas made of atoms by arrays, records and columns and by building unions, but without writing
down a union by hand. -/
inductive Built : Schema → Prop where
  | atom (a : Atom) : Built (.atom a)
  | array {item : Schema} (hitem : Built item) : Built (.array item)
  | unionOf {members : List Schema} (hmembers : ∀ m ∈ members, Built m) :
      Built (Schema.unionOf members)
  | orUndefined {s : Schema} (h : Built s) : Built s.orUndefined
  | struct {properties : List (Property Schema)} (hproperties : ∀ p ∈ properties, Built p.schema) :
      Built (.struct properties)
  | column {select insert update : Schema} (hselect : Built select) (hinsert : Built insert)
      (hupdate : Built update) : Built (.column select insert update)
  | generated {s : Schema} (h : Built s) : Built s.generated

theorem Built.canonical (h : s.Built) : s.Canonical := by
  induction h with
  | atom a => exact .atom
  | array hitem ih => exact .array ih
  | unionOf hmembers ih => exact canonical_unionOf ih
  | orUndefined h ih => exact ih.orUndefined
  | struct hproperties ih => exact .struct ih
  | column hselect hinsert hupdate ihs ihi ihu => exact .column ihs ihi ihu
  | generated h ih => exact .column ih ih.orUndefined ih

/-- What can be built is what is canonical. -/
theorem built_iff_canonical : s.Built ↔ s.Canonical := by
  refine ⟨Built.canonical, fun h => ?_⟩
  induction h with
  | atom => exact .atom _
  | array hitem ih => exact .array ih
  | union hlength hdistinct hplain hmembers ih =>
    rw [← (Canonical.union hlength hdistinct hplain hmembers).unionOf_eq]
    exact .unionOf ih
  | struct hproperties ih => exact .struct ih
  | column hselect hinsert hupdate ihs ihi ihu => exact .column ihs ihi ihu

/-! ### Views -/

theorem Canonical.side (h : s.Canonical) (v : View) : (s.side v).Canonical := by
  cases s with
  | column select insert update =>
    cases h with
    | column hselect hinsert hupdate => cases v <;> assumption
  | _ => exact h

/-- **The views** of a canonical schema are canonical. -/
theorem Canonical.viewed (h : s.Canonical) (v : View) : (s.viewed v).Canonical := by
  cases s with
  | struct properties =>
    cases h with
    | struct hproperties =>
      rw [viewed_struct]
      refine .struct fun q hmem => ?_
      obtain ⟨q, hq, rfl⟩ := List.mem_map.mp hmem
      obtain ⟨p, hp, -, rfl⟩ := mem_projected_iff.mp hq
      have hside := (hproperties p hp).side v
      cases v with
      | select => exact hside
      | insert => exact hside
      | update => exact hside.orUndefined
  | _ => cases v <;> exact h

end Schema

/-! ### Expressions and models -/

/-- An expression never writes down a union by hand. -/
theorem TypeExpr.built_toSchema (enums : Registry) (e : TypeExpr) : (e.toSchema enums).Built := by
  induction e with
  | scalar s => cases s <;> exact .atom _
  | enum name =>
    rw [toSchema]
    split <;> exact .atom _
  | array item ih => exact .array ih
  | undefinedOr inner ih => exact .orUndefined ih
  | column select insert update ihs ihi ihu => exact .column ihs ihi ihu
  | generated inner ih => exact .generated ih
  | fromKey inner key ih => exact ih

theorem TypeExpr.schema_toProperty (enums : Registry) (name : String) (e : TypeExpr) :
    (e.toProperty enums name).schema = e.toSchema enums := by
  induction e with
  | fromKey inner key ih => exact ih
  | _ => rfl

theorem Datamodel.Model.built_base (m : Datamodel.Model) (enums : Registry) :
    (m.toSchema enums).base.Built := by
  refine .struct fun p hp => ?_
  obtain ⟨f, -, rfl⟩ := List.mem_map.mp hp
  rw [Datamodel.Field.toProperty, TypeExpr.schema_toProperty]
  exact TypeExpr.built_toSchema enums _

namespace Schema

/-- **Unions stay canonical.** The schemas that are built without writing down a union by hand are
the canonical ones. The views of a canonical schema are canonical, and so are the schema of every
expression and the record of every model with its views. Of canonical schemas some may be united
first, and to any schema `undefined` is added only once. -/
theorem unions_canonical :
    (∀ s : Schema, s.Built ↔ s.Canonical) ∧
      (∀ s : Schema, s.Canonical → ∀ v, (s.viewed v).Canonical) ∧
      (∀ (e : TypeExpr) (enums : Registry), (e.toSchema enums).Canonical) ∧
      (∀ (m : Datamodel.Model) (enums : Registry), (m.toSchema enums).base.Canonical ∧
        ∀ v, ((m.toSchema enums).base.viewed v).Canonical) ∧
      (∀ as bs cs : List Schema, (∀ m ∈ bs, m.Canonical) →
        unionOf (as ++ [unionOf bs] ++ cs) = unionOf (as ++ bs ++ cs)) ∧
      ∀ s : Schema, s.orUndefined.orUndefined = s.orUndefined := by
  refine ⟨fun s => built_iff_canonical, fun s h v => h.viewed v,
    fun e enums => (TypeExpr.built_toSchema enums e).canonical, fun m enums => ?_,
    fun as bs cs h => ?_, orUndefined_orUndefined⟩
  · have hbase := (m.built_base enums).canonical
    exact ⟨hbase, fun v => hbase.viewed v⟩
  · exact unionOf_nested fun m hm => (of_mem_flattened h hm).2.1

/-- A role, or nothing, or any of them twice over. -/
def roleUnion : Schema :=
  unionOf [(literal ["ADMIN", "USER"]).orUndefined, .never,
    (unionOf [.atom .null, literal ["ADMIN", "USER"]]).orUndefined]

theorem built_roleUnion : roleUnion.Built := by
  have hrole : (literal ["ADMIN", "USER"]).Built := .atom _
  refine .unionOf fun m hm => ?_
  simp only [List.mem_cons, List.not_mem_nil, or_false] at hm
  rcases hm with rfl | rfl | rfl
  · exact hrole.orUndefined
  · exact .atom _
  · refine .orUndefined (.unionOf fun m hm => ?_)
    rcases List.mem_pair.mp hm with rfl | rfl
    · exact .atom _
    · exact hrole

theorem unions_canonical_roleUnion :
    roleUnion.Built ∧ roleUnion.Canonical ∧
      (∀ v, ((Schema.struct [.required "role" roleUnion.generated]).viewed v).Canonical) ∧
      unionOf ([.atom .string] ++ [unionOf [roleUnion, .undefined]] ++ [.atom .null]) =
        unionOf ([.atom .string] ++ [roleUnion, .undefined] ++ [.atom .null]) ∧
      roleUnion.orUndefined.orUndefined = roleUnion.orUndefined := by
  obtain ⟨hbuilt, hviewed, -, -, hnested, honce⟩ := unions_canonical
  have hrole : roleUnion.Canonical := (hbuilt roleUnion).mp built_roleUnion
  have hrecord : (Schema.struct [.required "role" roleUnion.generated]).Built :=
    .struct fun p hp => by
      obtain rfl := List.mem_singleton.mp hp
      exact built_roleUnion.generated
  refine ⟨built_roleUnion, hrole, hviewed _ ((hbuilt _).mp hrecord), hnested _ _ _ fun m hm => ?_,
    honce roleUnion⟩
  rcases List.mem_pair.mp hm with rfl | rfl
  · exact hrole
  · exact .atom

/-- A union that was written down by hand may be opened twice, and then nesting matters. -/
example :
    let hand : Schema := .union [.union [.atom .string, .atom .null]]
    unionOf ([] ++ [unionOf [hand]] ++ [.undefined]) ≠ unionOf ([] ++ [hand] ++ [.undefined]) := by
  decide

end Schema

end RowSchema
