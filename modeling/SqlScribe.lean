import SqlScribe.Execution.Script
import SqlScribe.Main
import SqlScribe.Migration
import SqlScribe.Proofs.Catalog.ColumnRows
import SqlScribe.Proofs.Catalog.IndexOrder
import SqlScribe.Proofs.Catalog.Interleavings
import SqlScribe.Proofs.Catalog.ListedDefaults
import SqlScribe.Proofs.Catalog.ListedLengths
import SqlScribe.Proofs.Catalog.NarrowedCopies
import SqlScribe.Proofs.CommandLine.NameArguments
import SqlScribe.Proofs.CommandLine.ScriptComments
import SqlScribe.Proofs.Documents.Queries
import SqlScribe.Proofs.Evaluation.Counts
import SqlScribe.Proofs.Evaluation.Membership
import SqlScribe.Proofs.Evaluation.Searches
import SqlScribe.Proofs.Evaluation.SetOperations
import SqlScribe.Proofs.Evaluation.Substrings
import SqlScribe.Proofs.Execution.Calls
import SqlScribe.Proofs.Migration.Convergence
import SqlScribe.Proofs.Migration.PrimaryKey
import SqlScribe.Proofs.Migration.ReadBack
import SqlScribe.Proofs.Migration.Recasing
import SqlScribe.Proofs.Migration.RestoredClause
import SqlScribe.Proofs.Migration.Storage
import SqlScribe.Proofs.Reading.Conditions
import SqlScribe.Proofs.Reading.CopiedColumns
import SqlScribe.Proofs.Reading.DerivedColumns
import SqlScribe.Proofs.Reading.DistinctOrderings
import SqlScribe.Proofs.Reading.GuardedDrops
import SqlScribe.Proofs.Reading.Literals
import SqlScribe.Proofs.Reading.Orderings
import SqlScribe.Proofs.Reading.ResultShapes
import SqlScribe.Proofs.Reading.SoughtNames
import SqlScribe.Proofs.Reading.SourceTables
import SqlScribe.Proofs.Rendering.HeldValues
import SqlScribe.Proofs.Rendering.Independence
import SqlScribe.Proofs.Rendering.NestedTargets
import SqlScribe.Proofs.Rendering.QueryAcceptance
import SqlScribe.Proofs.Rendering.QueryPlaceholders
import SqlScribe.Proofs.Rendering.Refusals
import SqlScribe.Proofs.Rendering.ZeroLimits
import SqlScribe.Proofs.Schema.Creation
import SqlScribe.Proofs.Schema.DeclarationOrder
import SqlScribe.Proofs.Schema.SizeClauses
import SqlScribe.Proofs.Schema.StatementFrames
import SqlScribe.Proofs.Text.QuotedForms
