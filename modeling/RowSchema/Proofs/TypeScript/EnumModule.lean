import RowSchema.Proofs.Dict
import RowSchema.Proofs.Text.Readable
import RowSchema.TypeScript.EnumModule

/-!
# Reading the module of the enums

The module of the enums determines the names of the enums and their stored values, in the order of
their declaration. It says nothing about the names of the values that are stored under another
text.

## Main results

* `Datamodel.exists_enum_of_registered` — what is registered is an enum of the data model
* `TypeScript.readable_enumDeclaration` — what can be read off a declaration
* `TypeScript.enumModule_inj` — what can be read off the module
-/

namespace RowSchema

/-- The registry holds the values of enums and nothing else. -/
theorem Datamodel.exists_enum_of_registered {d : Datamodel} {name : String} {values : List String}
    (h : Dict.get? d.registry name = some values) :
    ∃ e ∈ d.enums, e.name = name ∧ values = e.values.map Datamodel.EnumValue.stored := by
  obtain ⟨e, he, heq⟩ := List.mem_map.mp (Dict.mem_of_get?_ofEntries h)
  obtain ⟨hname, hvalues⟩ := Prod.mk.inj heq
  exact ⟨e, he, hname, hvalues.symm⟩

namespace TypeScript

open Datamodel (EnumValue)
open Text (IsIdentifier Readable)

/-- An enum that can be told from its declaration: its name is an identifier, and no stored value
has a quote. -/
def IsPlainEnum (e : Datamodel.Enum) : Prop :=
  IsIdentifier e.name ∧ ∀ v ∈ e.values, '"' ∉ v.stored.toList

/-- What the registry holds of an enum. -/
def registered (e : Datamodel.Enum) : String × List String :=
  (e.name, e.values.map EnumValue.stored)

theorem head?_literalArgument (v : EnumValue) (r : String) :
    (literalArgument v ++ r).toList.head? = some '"' := by
  rw [literalArgument, String.append_assoc, String.append_assoc]
  exact Text.head?_append rfl _

theorem readable_literalArgument :
    Readable (fun v : EnumValue => '"' ∉ v.stored.toList) (fun _ => True) literalArgument
      EnumValue.stored := by
  intro v v' hv hv' r s _ _ h
  simp only [literalArgument, String.append_assoc, String.append_right_inj] at h
  exact Text.quoted_append_inj hv hv' h

/-- The stored values end at the closing parenthesis. -/
theorem readable_literalArguments :
    Readable (fun vs : List EnumValue => ∀ v ∈ vs, '"' ∉ v.stored.toList)
      (·.toList.head? = some ')')
      (fun vs => String.intercalate ", " (vs.map literalArgument)) (List.map EnumValue.stored) := by
  refine readable_literalArgument.intercalate (fun _ => trivial) (fun _ _ => trivial) ?_ ?_
  · intro v _ r hr
    rw [Text.head?_append (s := ", ") rfl] at hr
    cases hr
  · intro v _ r hr
    rw [head?_literalArgument] at hr
    cases hr

/-- A declaration ends by itself, and tells the name and the stored values. -/
theorem readable_enumDeclaration :
    Readable IsPlainEnum (fun _ => True) enumDeclaration registered := by
  rintro e e' ⟨hname, hvalues⟩ ⟨hname', hvalues'⟩ r s - - h
  unfold enumDeclaration at h
  simp only [String.append_assoc, String.append_right_inj] at h
  obtain ⟨hsame, hafter⟩ := Text.identifier_append_inj hname hname'
    (Text.startsOutside_append rfl rfl _) (Text.startsOutside_append rfl rfl _) h
  rw [String.append_right_inj] at hafter
  obtain ⟨hstored, hrest⟩ := readable_literalArguments hvalues hvalues'
    (Text.head?_append rfl _) (Text.head?_append rfl _) hafter
  rw [hsame] at hrest
  simp only [String.append_right_inj] at hrest
  exact ⟨Prod.ext hsame hstored, hrest⟩

/-- **The module of the enums** determines what the registry holds. -/
theorem enumModule_inj {header : String} {d d' : Datamodel} (hd : ∀ e ∈ d.enums, IsPlainEnum e)
    (hd' : ∀ e ∈ d'.enums, IsPlainEnum e) (h : enumModule header d = enumModule header d') :
    d.enums.map registered = d'.enums.map registered := by
  unfold enumModule at h
  simp only [String.append_assoc, String.append_right_inj] at h
  have hread : Readable (∀ e ∈ ·, IsPlainEnum e) (· = "")
      (fun es => String.intercalate "\n\n" (es.map enumDeclaration)) (List.map registered) := by
    refine readable_enumDeclaration.intercalate (fun _ => trivial) (fun _ _ => trivial) ?_ ?_
    · intro e _ r hr
      have hhead := Text.head?_append (s := "\n\n") rfl (enumDeclaration e ++ r)
      rw [hr] at hhead
      cases hhead
    · intro e _ r hr
      have hhead : (enumDeclaration e ++ r).toList.head? = some 'e' := by
        unfold enumDeclaration
        simp only [String.append_assoc]
        exact Text.head?_append rfl _
      rw [hr] at hhead
      cases hhead
  refine (hread hd hd' (r := "") (s := "") rfl rfl ?_).1
  rw [String.append_empty, String.append_empty]
  exact h

end TypeScript

end RowSchema
