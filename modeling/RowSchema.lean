import RowSchema.Command.Inspect
import RowSchema.Main
import RowSchema.Query.Pipeline
import RowSchema.Store.FileTree
import RowSchema.Proofs.Except
import RowSchema.Proofs.Dict
import RowSchema.Proofs.Schema.Parse
import RowSchema.Proofs.Schema.Recordless
import RowSchema.Proofs.Schema.RoundTrip
import RowSchema.Proofs.Schema.WriteSafety
import RowSchema.Proofs.ModelSchema.ColumnType
import RowSchema.Proofs.ModelSchema.Views
import RowSchema.Proofs.ModelSchema.ColumnValue
import RowSchema.Proofs.ModelSchema.Rows
import RowSchema.Proofs.Text.Readable
import RowSchema.Proofs.TypeExpr.Text
import RowSchema.Proofs.Text.Occurs
import RowSchema.Proofs.TypeExpr.UuidHint
import RowSchema.Proofs.TypeScript.EnumModule
import RowSchema.Proofs.TypeScript.ModelModule
import RowSchema.Proofs.TypeScript.Package
import RowSchema.Proofs.Json.Printer
import RowSchema.Proofs.Json.Legible
import RowSchema.Proofs.Json.ReadBack
import RowSchema.Proofs.Protocol.Framing
import RowSchema.Proofs.Protocol.Replies
import RowSchema.Proofs.Store.Path
import RowSchema.Proofs.Generator
import RowSchema.Proofs.Protocol.Footprint
import RowSchema.Proofs.Json.Skip
import RowSchema.Proofs.Protocol.Request
import RowSchema.Proofs.Schema.Union
import RowSchema.Proofs.Schema.FirstFault
import RowSchema.Proofs.Query.Runs
import RowSchema.Proofs.Datamodel.Name
import RowSchema.Proofs.Datamodel.Arrangement
import RowSchema.Proofs.Schema.UnionMembers
import RowSchema.Proofs.Schema.Views
import RowSchema.Proofs.Schema.Canonical
import RowSchema.Proofs.Schema.PartialUpdate
import RowSchema.Proofs.Schema.Mirror
import RowSchema.Proofs.TypeScript.EmittedNames
import RowSchema.Proofs.TypeScript.EnumReferences
import RowSchema.Proofs.Json.Agreement
import RowSchema.Proofs.Datamodel.Envelope
