import RowSchema.Proofs.Text.Occurs
import RowSchema.TypeScript.Package

/-!
# Where things stand in the generated files

A file is put together from declarations, and a declaration from lines. What is said of a single
line becomes a statement about a file once the place is known where the line stands. This module
names the places. A list is written with separators between its parts, so that each part stands
between the end of one separator and the start of another.

## Main results

* `Datamodel.occurs_enumDeclaration`, `occurs_enumConstant` — the enums, in the module of the enums
* `Datamodel.occurs_enumImport`, `occurs_field`, `occurs_table` — the lines of the module of the
  models
-/

namespace RowSchema.Datamodel

open Text (Occurs occurs_intercalate)
open TypeScript (databaseInterface enumDeclaration fieldLine imports modelDeclaration tableLine)

variable {d : Datamodel} {e : Enum} {m : Model} {f : Field}

/-! ### The module of the enums -/

/-- The declarations of an enum start on a new line. -/
theorem occurs_enumDeclaration (he : e ∈ d.enums) (time : Time.Instant) :
    Occurs ("\n" ++ enumDeclaration e) (d.package time).enums := by
  have hdeclaration := occurs_intercalate "\n\n" "\n" "" (s := "\n") rfl
    String.empty_append.symm (List.mem_map_of_mem (f := enumDeclaration) he)
  rw [String.append_empty, String.append_empty] at hdeclaration
  refine hdeclaration.trans
    ⟨TypeScript.header time ++ "\n\nimport \x7b Schema \x7d from \"effect\";\n", "", ?_⟩
  rw [String.append_empty]
  show TypeScript.enumModule _ d = _
  unfold TypeScript.enumModule
  rw [show "\n\nimport \x7b Schema \x7d from \"effect\";\n\n"
    = "\n\nimport \x7b Schema \x7d from \"effect\";\n" ++ "\n" from rfl]
  simp only [String.append_assoc]

/-- The constant of an enum, with its arguments. -/
theorem occurs_enumConstant (he : e ∈ d.enums) (time : Time.Instant) :
    Occurs ("\nexport const " ++ e.name ++ " = Schema.Literal("
      ++ String.intercalate ", " (e.values.map TypeScript.literalArgument) ++ ");")
      (d.package time).enums := by
  refine Occurs.trans ⟨"", "\n\nexport type " ++ e.name ++ " = Schema.Schema.Type<typeof " ++ e.name
    ++ ">;", ?_⟩ (occurs_enumDeclaration he time)
  unfold enumDeclaration
  rw [show ");\n\nexport type " = ");" ++ "\n\nexport type " from rfl,
    show "\nexport const " = "\n" ++ "export const " from rfl]
  simp only [String.append_assoc, String.empty_append]

/-! ### The module of the models -/

/-- The module is a head, the declarations of the models and the interface. -/
theorem types_eq (d : Datamodel) (time : Time.Instant) :
    (d.package time).types = TypeScript.header time ++ ("\n\n" ++ (imports d ++ ("\n\n"
      ++ (String.intercalate "\n\n" (d.schemaModels.map (modelDeclaration d.registry))
        ++ ("\n\n" ++ databaseInterface d.schemaModels))))) := by
  simp only [← String.append_assoc]
  rfl

/-- The enums are imported by one line. -/
theorem occurs_enumImport (h : d.enums ≠ []) (time : Time.Instant) :
    Occurs ("\nimport \x7b " ++ String.intercalate ", " (d.enums.map Enum.name)
      ++ " \x7d from \"./enums\";\n") (d.package time).types := by
  have himport : TypeScript.enumImport d = ["import \x7b "
      ++ String.intercalate ", " (d.enums.map Enum.name) ++ " \x7d from \"./enums\";"] :=
    if_neg (by simpa using h)
  have himports : ∃ others, imports d = others ++ "\nimport \x7b "
      ++ String.intercalate ", " (d.enums.map Enum.name) ++ " \x7d from \"./enums\";" := by
    unfold imports
    rw [himport, List.cons_append, List.cons_append, List.nil_append,
      String.intercalate_cons_cons, String.intercalate_cons_cons, String.intercalate_singleton,
      show "\nimport \x7b " = "\n" ++ "import \x7b " from rfl]
    simp only [← String.append_assoc]
    exact ⟨_, rfl⟩
  obtain ⟨others, hothers⟩ := himports
  rw [types_eq, hothers,
    show " \x7d from \"./enums\";\n" = " \x7d from \"./enums\";" ++ "\n" from rfl,
    show "\n\n" = "\n" ++ "\n" from rfl]
  refine ⟨TypeScript.header time ++ "\n" ++ "\n" ++ others, "\n"
    ++ (String.intercalate ("\n" ++ "\n") (d.schemaModels.map (modelDeclaration d.registry))
      ++ ("\n" ++ "\n" ++ databaseInterface d.schemaModels)), ?_⟩
  simp only [String.append_assoc]

theorem occurs_modelDeclaration (hm : m ∈ d.schemaModels) (time : Time.Instant) :
    Occurs (modelDeclaration d.registry m) (d.package time).types := by
  have hdeclaration := occurs_intercalate "\n\n" "" ""
    String.append_empty.symm String.empty_append.symm
    (List.mem_map_of_mem (f := modelDeclaration d.registry) hm)
  simp only [String.empty_append, String.append_empty] at hdeclaration
  rw [types_eq]
  refine hdeclaration.trans ⟨TypeScript.header time ++ "\n\n" ++ imports d ++ "\n\n",
    "\n\n" ++ databaseInterface d.schemaModels, ?_⟩
  simp only [String.append_assoc]

/-- A field has a line of its own in the declaration of its model. -/
theorem occurs_field (hm : m ∈ d.schemaModels) (hf : f ∈ m.schemaFields) (time : Time.Instant) :
    Occurs ("\n  " ++ f.name ++ ": " ++ (f.typeExpr d.registry).text) (d.package time).types := by
  have hline := occurs_intercalate ",\n" "\n" "" (s := ",")
    rfl String.empty_append.symm (List.mem_map_of_mem (f := fieldLine d.registry) hf)
  rw [String.append_empty, String.append_empty] at hline
  have hdeclaration : Occurs ("\n" ++ String.intercalate ",\n"
      (m.schemaFields.map (fieldLine d.registry))) (modelDeclaration d.registry m) := by
    unfold modelDeclaration
    rw [show " = Schema.Struct(\x7b\n" = " = Schema.Struct(\x7b" ++ "\n" from rfl]
    exact ⟨"// " ++ m.name ++ " Base Schema\nexport const _" ++ m.name ++ " = Schema.Struct(\x7b",
      "\n\x7d);\n\nexport const " ++ m.name ++ " = getSchemas(_" ++ m.name ++ ");\n\n"
        ++ TypeScript.viewType m.name "Select" "Selectable" ++ "\n"
        ++ TypeScript.viewType m.name "Insert" "Insertable" ++ "\n"
        ++ TypeScript.viewType m.name "Update" "Updateable",
      by simp only [String.append_assoc]⟩
  refine .of_eq ?_ ((hline.trans hdeclaration).trans (occurs_modelDeclaration hm time))
  unfold fieldLine
  rw [show "\n  " = "\n" ++ "  " from rfl]
  simp only [String.append_assoc]

/-- A table has a line of its own in the interface. -/
theorem occurs_table (hm : m ∈ d.schemaModels) (time : Time.Instant) :
    Occurs ("\n  " ++ m.tableName ++ ": Schema.Schema.Encoded<typeof _" ++ m.name ++ ">;\n")
      (d.package time).types := by
  have hline := occurs_intercalate "\n" "\n" "\n"
    String.empty_append.symm String.append_empty.symm (List.mem_map_of_mem (f := tableLine) hm)
  have hinterface : Occurs ("\n" ++ String.intercalate "\n" (d.schemaModels.map tableLine) ++ "\n")
      (databaseInterface d.schemaModels) := by
    unfold databaseInterface
    rw [show "// Kysely Database Interface\nexport interface DB \x7b\n"
        = "// Kysely Database Interface\nexport interface DB \x7b" ++ "\n" from rfl,
      show "\n\x7d" = "\n" ++ "\x7d" from rfl]
    exact ⟨"// Kysely Database Interface\nexport interface DB \x7b", "\x7d",
      by simp only [String.append_assoc]⟩
  have hmodule : Occurs (databaseInterface d.schemaModels) (d.package time).types := by
    rw [types_eq]
    refine ⟨TypeScript.header time ++ "\n\n" ++ imports d ++ "\n\n"
      ++ String.intercalate "\n\n" (d.schemaModels.map (modelDeclaration d.registry)) ++ "\n\n",
      "", ?_⟩
    simp only [String.append_assoc, String.append_empty]
  refine .of_eq ?_ ((hline.trans hinterface).trans hmodule)
  unfold tableLine
  rw [show "\n  " = "\n" ++ "  " from rfl, show ">;\n" = ">;" ++ "\n" from rfl]
  simp only [String.append_assoc]

end RowSchema.Datamodel
