import RowFilter.CommandLine.Run
import RowFilter.Engine
import RowFilter.Main
import RowFilter.Proofs.Dialects
import RowFilter.Proofs.Engine.AllowList
import RowFilter.Proofs.Engine.Assembly
import RowFilter.Proofs.Engine.MigrationReport
import RowFilter.Proofs.Engine.Preparation
import RowFilter.Proofs.Engine.SecurityLog
import RowFilter.Proofs.LooserLimits
import RowFilter.Proofs.Migration.Convergence
import RowFilter.Proofs.Paging
import RowFilter.Proofs.Reading
import RowFilter.Proofs.SiblingOrder
import RowFilter.Proofs.Validation.Acceptance
import RowFilter.Proofs.Validation.Defence
import RowFilter.Proofs.BeyondLimits
import RowFilter.Proofs.Compilation.Provenance
import RowFilter.Proofs.Compilation.NormalForm
import RowFilter.Proofs.Compilation.Ceilings
import RowFilter.Proofs.Compilation.OutputSize
import RowFilter.Proofs.Compilation.Opposites
import RowFilter.Proofs.Compilation.UnknownHandlers
import RowFilter.Proofs.Engine.CompileErrors
import RowFilter.Proofs.Storage
import RowFilter.Proofs.Sanitizing.FormerTags
import RowFilter.Proofs.Sanitizing.Residue
import RowFilter.Proofs.Validation.Recursion
import RowFilter.Proofs.Nesting
import RowFilter.Proofs.Migration.Renaming
import RowFilter.Proofs.Migration.Accepted
import RowFilter.Proofs.Migration.Changes
import RowFilter.Proofs.Migration.Version1
import RowFilter.Proofs.Rows.Sorting
import RowFilter.Proofs.Search.Scope
import RowFilter.Proofs.Engine.SearchScope
import RowFilter.Proofs.Number.DecimalText
import RowFilter.Proofs.Number.Integers
import RowFilter.Proofs.Search.Numbers
import RowFilter.Proofs.Unicode.WhiteSpace
import RowFilter.Proofs.Security.Screening
import RowFilter.Proofs.Validation.LegalOperands
import RowFilter.Proofs.Validation.ShownValues
import RowFilter.Proofs.Rows.Columns
import RowFilter.Proofs.Criteria.Simplification
import RowFilter.Proofs.Condition.DocumentOrder
import RowFilter.Proofs.Handlers
import RowFilter.Proofs.Json.Texts
import RowFilter.Proofs.Migration.Stored
import RowFilter.Proofs.WriteBack
