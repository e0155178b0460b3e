import RowSchema.Datamodel.Document
import RowSchema.Store.Host
import RowSchema.TypeScript.Package

/-!
# Generating into a directory

## Main definitions

* `Generator` — a directory to generate into
* `Generator.Options` — what a request for generation says, and its reader
* `Generator.Error` — why generation fails, with message, code and advice
* `Generator.run` — generates

## Implementation notes

The program starts the writes of its three files together, reports the failure that is seen first,
and may report it before the other writes have finished. Here the files are written one after
another in their order: a file that cannot be written does not keep the others from being written,
the first failure in that order is reported, and all writes have been tried by then.
-/

namespace RowSchema

open Json (Reader Form asString)

/-- Generates into a directory whose name is not empty. -/
structure Generator where
  outputDir : String
deriving DecidableEq, Repr

namespace Generator

/-! ### Options -/

/-- What a request for generation says. -/
structure Options where
  /-- The directory as it is written in the request. -/
  output : Option String
  document : Document
deriving DecidableEq, Repr

/-- Reads a setting whose value may come from the environment. -/
def settingOfJson : Reader (Option String) :=
  Form.read (Form.nullable "value" asString) "struct EnvValue"

/-- Reads the block that configures the generator. -/
def blockOfJson : Reader (Option String) :=
  Form.read (Option.join <$> Form.nullable "output" settingOfJson) "struct GeneratorBlock"

/-- Reads the options. -/
def Options.ofJson : Reader Options :=
  Form.read (Options.mk <$> Form.required "generator" blockOfJson
    <*> Form.required "dmmf" Document.ofJson) "struct GeneratorOptions"

/-- The directory, unless it is empty. -/
def Options.outputPath (o : Options) : Option String :=
  nonEmpty? o.output

/-! ### Errors -/

/-- Why generation fails. -/
inductive Error where
  | missingOutput
  | writeFailed (path : String) (fault : FileFault)
  | invalidDocument (text : String) (fault : Document.Fault)
deriving DecidableEq, Repr

namespace Error

/-- The wording. -/
def message : Error → String
  | .missingOutput => "Prisma Effect Generator: output path not configured."
  | .writeFailed path fault => "Failed to write '" ++ path ++ "': " ++ fault.message
  | .invalidDocument text fault => "Invalid DMMF document: " ++ fault.message text.toList

/-- The code under which the error is documented. -/
def code : Error → String
  | .missingOutput => "prisma_effect_kysely::config::missing_output"
  | .writeFailed .. => "prisma_effect_kysely::io::write_error"
  | .invalidDocument .. => "prisma_effect_kysely::input::invalid_document"

/-- What to do about the error. -/
def help? : Error → Option String
  | .missingOutput => some "Add \"output\" to your generator block in schema.prisma"
  | .writeFailed .. => none
  | .invalidDocument .. => some
      "Expected the JSON DMMF produced by `prisma generate`, with a `datamodel` object"

end Error

/-- The generator for a directory, if one is configured. -/
def ofOutput (output : Option String) : Except Error Generator :=
  match nonEmpty? output with
  | some dir => .ok ⟨dir⟩
  | none => .error .missingOutput

/-- Reads the document of a file. -/
def readDocument (text : String) : Except Error Document :=
  (Document.ofText? text.toList).mapError (Error.invalidDocument text)

/-! ### Generation -/

/-- What has been generated. -/
structure Summary where
  models : Nat
  enums : Nat
  files : List String
deriving DecidableEq, Repr

variable {m : Type → Type} [Monad m]

/-- Writes files into the directory, in their order. Gives the first failure. -/
def writeAll (host : Host m) (g : Generator) : List (String × String) → m (Except Error Unit)
  | [] => return .ok ()
  | (name, content) :: rest => do
    let path := joinPath g.outputDir name
    let first ← host.write path content
    let others ← writeAll host g rest
    match first with
    | .error fault => return .error (.writeFailed path fault)
    | .ok () => return others

/-- Generates the files for a document. -/
def run (host : Host m) (g : Generator) (document : Document) : m (Except Error Summary) := do
  match ← host.makeDirs g.outputDir with
  | .error fault => return .error (.writeFailed g.outputDir fault)
  | .ok () =>
    let d := document.datamodel
    let package := d.package (← host.now)
    match ← writeAll host g package.files with
    | .error e => return .error e
    | .ok () => return .ok ⟨d.schemaModels.length, d.enums.length, TypeScript.Package.fileNames⟩

end Generator

end RowSchema
