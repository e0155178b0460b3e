import RowSchema.Proofs.TypeExpr.Text
import RowSchema.Proofs.TypeScript.EnumModule
import RowSchema.TypeScript.ModelModule

/-!
# Reading the module of the models

The module of the models determines, for each model with a schema, its name, its table, and the
name and type expression of each of its fields, all in the order of the module.

## Main definitions

* `TypeScript.IsPlainModel` — a model that can be told from its declaration
* `TypeScript.declared`, `tabled` — what the two places tell in which a model occurs

## Main results

* `TypeScript.readable_modelDeclaration`, `readable_tableLine` — what can be read off each place
* `TypeScript.modelModule_inj` — what can be read off the module

## Implementation notes

The declarations are separated by blank lines, and so is the interface behind the last one. That a
declaration is no interface is seen at the second word of its first line, since the first word may
be the name of a model.
-/

namespace RowSchema.TypeScript

open Datamodel (Field Model Registry)
open Text (IsIdentifier Readable isIdentifierChar)

variable {enums : Registry}

/-! ### Fields -/

/-- The name of a field is an identifier, and its expression can be read back. -/
def IsPlainField (enums : Registry) (f : Field) : Prop :=
  IsIdentifier f.name ∧ (f.typeExpr enums).IsPlain TypeExpr.isNameChar

/-- What a line tells of a field. -/
def lined (enums : Registry) (f : Field) : String × TypeExpr :=
  (f.name, f.typeExpr enums)

theorem head?_fieldLine (f : Field) (r : String) :
    (fieldLine enums f ++ r).toList.head? = some ' ' := by
  unfold fieldLine
  simp only [String.append_assoc]
  exact Text.head?_append rfl _

theorem readable_fieldLine :
    Readable (IsPlainField enums) (TypeExpr.Follows TypeExpr.isNameChar) (fieldLine enums)
      (lined enums) := by
  rintro f f' ⟨hname, hexpr⟩ ⟨hname', hexpr'⟩ r s hr hs h
  unfold fieldLine at h
  simp only [String.append_assoc, String.append_right_inj] at h
  obtain ⟨hsame, hafter⟩ := Text.identifier_append_inj hname hname'
    (Text.startsOutside_append rfl rfl _) (Text.startsOutside_append rfl rfl _) h
  rw [String.append_right_inj] at hafter
  obtain ⟨hexprs, hrest⟩ :=
    TypeExpr.text_append_inj TypeExpr.isNameClass_isNameChar hexpr hexpr' hr hs hafter
  exact ⟨Prod.ext hsame hexprs, hrest⟩

/-- The lines of the fields end at the line break before the closing brace. -/
theorem readable_fieldLines :
    Readable (∀ f ∈ ·, IsPlainField enums f) (·.toList.head? = some '\n')
      (fun fs => String.intercalate ",\n" (fs.map (fieldLine enums)))
      (List.map (lined enums)) := by
  refine readable_fieldLine.intercalate (TypeExpr.follows_append rfl (by decide)) ?_ ?_ ?_
  · intro r hr c hc
    rw [hr] at hc
    cases hc
    decide
  · intro f _ r hr
    rw [Text.head?_append (s := ",\n") rfl] at hr
    cases hr
  · intro f _ r hr
    rw [head?_fieldLine] at hr
    cases hr

/-! ### Declarations of models -/

/-- The name of a model is an identifier, and its fields can be told from their lines. -/
def IsPlainModel (enums : Registry) (m : Model) : Prop :=
  IsIdentifier m.name ∧ ∀ f ∈ m.schemaFields, IsPlainField enums f

/-- What a declaration tells of a model. -/
def declared (enums : Registry) (m : Model) : String × List (String × TypeExpr) :=
  (m.name, m.schemaFields.map (lined enums))

/-- The first line of a declaration, up to its second word. -/
theorem exists_modelDeclaration_eq (enums : Registry) (m : Model) (r : String) :
    ∃ rest, modelDeclaration enums m ++ r = "// " ++ (m.name ++ (" Base" ++ rest)) := by
  unfold modelDeclaration
  rw [show " Base Schema\nexport const _" = " Base" ++ " Schema\nexport const _" from rfl]
  simp only [String.append_assoc]
  exact ⟨_, rfl⟩

/-- A declaration ends by itself, and tells the name of the model and its fields. -/
theorem readable_modelDeclaration :
    Readable (IsPlainModel enums) (fun _ => True) (modelDeclaration enums) (declared enums) := by
  rintro m m' ⟨hname, hfields⟩ ⟨hname', hfields'⟩ r s - - h
  unfold modelDeclaration at h
  simp only [String.append_assoc, String.append_right_inj] at h
  obtain ⟨hsame, hafter⟩ := Text.identifier_append_inj hname hname'
    (Text.startsOutside_append rfl rfl _) (Text.startsOutside_append rfl rfl _) h
  rw [hsame] at hafter
  simp only [String.append_right_inj] at hafter
  obtain ⟨hlines, hrest⟩ := readable_fieldLines hfields hfields'
    (Text.head?_append rfl _) (Text.head?_append rfl _) hafter
  simp only [String.append_right_inj] at hrest
  exact ⟨Prod.ext hsame hlines, hrest⟩

/-! ### Lines of tables -/

/-- The names of a model and of its table are identifiers. -/
def IsPlainTable (m : Model) : Prop :=
  IsIdentifier m.tableName ∧ IsIdentifier m.name

/-- What a line tells of a table. -/
def tabled (m : Model) : String × String :=
  (m.tableName, m.name)

theorem readable_tableLine :
    Readable IsPlainTable (fun _ => True) tableLine tabled := by
  rintro m m' ⟨htable, hname⟩ ⟨htable', hname'⟩ r s - - h
  unfold tableLine at h
  simp only [String.append_assoc, String.append_right_inj] at h
  obtain ⟨hsame, hafter⟩ := Text.identifier_append_inj htable htable'
    (Text.startsOutside_append rfl rfl _) (Text.startsOutside_append rfl rfl _) h
  rw [String.append_right_inj] at hafter
  obtain ⟨hnames, hrest⟩ := Text.identifier_append_inj hname hname'
    (Text.startsOutside_append rfl rfl _) (Text.startsOutside_append rfl rfl _) hafter
  exact ⟨Prod.ext hsame hnames, (String.append_right_inj _).mp hrest⟩

/-- The interface tells the tables with their models. -/
theorem databaseInterface_inj {ms ms' : List Model} (hms : ∀ m ∈ ms, IsPlainTable m)
    (hms' : ∀ m ∈ ms', IsPlainTable m) (h : databaseInterface ms = databaseInterface ms') :
    ms.map tabled = ms'.map tabled := by
  have hline : ∀ (m : Model) (r : String), (tableLine m ++ r).toList.head? = some ' ' := by
    intro m r
    unfold tableLine
    simp only [String.append_assoc]
    exact Text.head?_append rfl _
  have hread : Readable (∀ m ∈ ·, IsPlainTable m) (· = "\n\x7d")
      (fun ms => String.intercalate "\n" (ms.map tableLine)) (List.map tabled) := by
    refine readable_tableLine.intercalate (fun _ => trivial) (fun _ _ => trivial) ?_ ?_
    · intro m _ r hr
      rw [show "\n\x7d" = "\n" ++ "\x7d" from rfl, String.append_right_inj] at hr
      have hhead := hline m r
      rw [hr] at hhead
      cases hhead
    · intro m _ r hr
      have hhead := hline m r
      rw [hr] at hhead
      cases hhead
  unfold databaseInterface at h
  simp only [String.append_assoc, String.append_right_inj] at h
  exact (hread hms hms' rfl rfl h).1

/-! ### The module -/

/-- The text between the last declaration and the first table. -/
def interfaceOpening : String :=
  "// Kysely Database Interface\nexport interface DB \x7b\n"

/-- A declaration is no interface: its second word is another one. -/
theorem modelDeclaration_ne_interface {m : Model} (hm : IsIdentifier m.name) (r s : String) :
    modelDeclaration enums m ++ r ≠ interfaceOpening ++ s := by
  intro h
  obtain ⟨rest, hrest⟩ := exists_modelDeclaration_eq enums m r
  have hopening : interfaceOpening =
      "// " ++ ("Kysely" ++ (" Data" ++ "base Interface\nexport interface DB \x7b\n")) := rfl
  rw [hrest, hopening] at h
  simp only [String.append_assoc, String.append_right_inj] at h
  obtain ⟨-, hword⟩ := Text.identifier_append_inj hm (by decide)
    (Text.startsOutside_append rfl rfl _) (Text.startsOutside_append rfl rfl _) h
  simpa [String.toList_append] using congrArg String.toList hword

/-- The declarations end where the interface begins. -/
theorem readable_modelDeclarations :
    Readable (∀ m ∈ ·, IsPlainModel enums m) (fun r => ∃ s, r = "\n\n" ++ (interfaceOpening ++ s))
      (fun ms => String.intercalate "\n\n" (ms.map (modelDeclaration enums)))
      (List.map (declared enums)) := by
  refine readable_modelDeclaration.intercalate (fun _ => trivial) (fun _ _ => trivial) ?_ ?_
  · rintro m hm r ⟨s, hs⟩
    exact modelDeclaration_ne_interface hm.1 r s ((String.append_right_inj _).mp hs)
  · rintro m - r ⟨s, hs⟩
    obtain ⟨rest, hrest⟩ := exists_modelDeclaration_eq enums m r
    have hhead := Text.head?_append (s := "// ") rfl (m.name ++ (" Base" ++ rest))
    rw [← hrest, hs, Text.head?_append (s := "\n\n") rfl] at hhead
    cases hhead

theorem imports_congr {d d' : Datamodel}
    (h : d.enums.map Datamodel.Enum.name = d'.enums.map Datamodel.Enum.name) :
    imports d = imports d' := by
  have hempty : d.enums.isEmpty = d'.enums.isEmpty := by
    rw [← List.isEmpty_map (f := Datamodel.Enum.name), h, List.isEmpty_map]
  unfold imports enumImport
  rw [hempty, h]

/-- **The module of the models**, if the names of the enums are known, determines the models with
their tables and fields. -/
theorem modelModule_inj {header : String} {d d' : Datamodel}
    (hregistry : d.registry = d'.registry)
    (henums : d.enums.map Datamodel.Enum.name = d'.enums.map Datamodel.Enum.name)
    (hd : ∀ m ∈ d.schemaModels, IsPlainModel d.registry m ∧ IsPlainTable m)
    (hd' : ∀ m ∈ d'.schemaModels, IsPlainModel d'.registry m ∧ IsPlainTable m)
    (h : modelModule header d = modelModule header d') :
    d.schemaModels.map (declared d.registry) = d'.schemaModels.map (declared d'.registry) ∧
      d.schemaModels.map tabled = d'.schemaModels.map tabled := by
  have hinterface : ∀ ms : List Model, ∃ s, databaseInterface ms = interfaceOpening ++ s := by
    intro ms
    unfold databaseInterface
    exact ⟨_, String.append_assoc⟩
  unfold modelModule at h
  rw [imports_congr henums, hregistry] at h
  simp only [String.append_assoc, String.append_right_inj] at h
  rw [hregistry] at hd ⊢
  obtain ⟨s, hs⟩ := hinterface d.schemaModels
  obtain ⟨s', hs'⟩ := hinterface d'.schemaModels
  obtain ⟨hdeclared, hrest⟩ := readable_modelDeclarations (fun m hm => (hd m hm).1)
    (fun m hm => (hd' m hm).1) ⟨s, by rw [hs]⟩ ⟨s', by rw [hs']⟩ h
  refine ⟨hdeclared, databaseInterface_inj (fun m hm => (hd m hm).2) (fun m hm => (hd' m hm).2) ?_⟩
  exact (String.append_right_inj _).mp hrest

end RowSchema.TypeScript
