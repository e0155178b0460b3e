import RowSchema.Datamodel.Reading
import RowSchema.Json.Reader

/-!
# Documents

A document carries a data model. In a file it stands alone or in an envelope.

## Main definitions

* `Document`, `Document.ofJson` — a document and its reader
* `Document.ofText?` — reads a file
* `Document.Fault` — why a file is refused, and the wording
-/

namespace RowSchema

open Json (Reader Form)

/-- A document with a data model. -/
structure Document where
  datamodel : Datamodel
deriving DecidableEq, Repr, Inhabited

namespace Document

/-- Reads a document. -/
def ofJson : Reader Document :=
  Form.read (Document.mk <$> Form.required "datamodel" Datamodel.ofJson) "struct Document"

/-- Reads an envelope around a document, which is always an object. -/
def ofEnvelope : Reader Document :=
  Form.readObject (Form.required "dmmf" ofJson) "struct variant DocumentFile::Wrapped"

/-- The document of a tree: the tree itself, or what its envelope holds. -/
def ofTree? (j : Json) : Option Document :=
  match ofJson j with
  | .ok document => some document
  | .error _ => (ofEnvelope j).toOption

/-- Why a file is refused. -/
inductive Fault where
  | malformed (fault : Json.Fault)
  | mismatch
deriving DecidableEq, Repr

/-- The wording for a fault of `text`. -/
def Fault.message (text : List Char) : Fault → String
  | .malformed fault => fault.message Json.Cause.message text
  | .mismatch => "data did not match any variant of untagged enum DocumentFile"

/-- Reads a file. Its first value has to be a document before the rest of the file is looked
at. -/
def ofText? (text : List Char) : Except Fault Document := do
  let (j, rest) ← (Json.readValue Json.maxDepth text).mapError Fault.malformed
  match ofTree? j with
  | none => throw .mismatch
  | some document =>
    (Json.checkEnd rest.1).mapError Fault.malformed
    return document

end Document

end RowSchema
