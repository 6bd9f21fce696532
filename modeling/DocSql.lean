import DocSql.Main
import DocSql.Proofs.Outcome
import DocSql.Proofs.Sql.Placeholders
import DocSql.Statement.HelperFunction
import DocSql.Store.Classes
import DocSql.Store.Documents
import DocSql.Store.Indexes
import DocSql.Proofs.Sql.Alignment
import DocSql.Proofs.Sql.Binding
import DocSql.Proofs.Refusals
import DocSql.Proofs.Sql.Fragments
import DocSql.Proofs.Query.Conditions
import DocSql.Proofs.Query.Numbering
import DocSql.Proofs.Sql.Texts
import DocSql.Proofs.Update.Assignments
import DocSql.Proofs.Statement.Numbering
import DocSql.Proofs.Statement.Selection
import DocSql.Proofs.Statement.Pipeline
import DocSql.Proofs.Sql.Reading
import DocSql.Proofs.Sql.Precedence
import DocSql.Proofs.Sql.Words
import DocSql.Proofs.Sql.Operands
import DocSql.Proofs.Query.Connectives
import DocSql.Proofs.Entries
import DocSql.Proofs.Schema.Columns
import DocSql.Proofs.Query.Compiling
import DocSql.Proofs.Query.Skipping
import DocSql.Proofs.Query.Productions
import DocSql.Proofs.Storage.Values
import DocSql.Proofs.Statement.Row
import DocSql.Proofs.Query.Equality
import DocSql.Proofs.Update.Replacement
import DocSql.Proofs.Timestamp.Calendar
import DocSql.Proofs.Timestamp.Iso
import DocSql.Proofs.Geo
import DocSql.Proofs.Session.Runs
import DocSql.Proofs.Storage.RoundTrip
import DocSql.Proofs.Store.AddedField
import DocSql.Proofs.Store.Convergence
import DocSql.Proofs.Store.SchemaDocument
import DocSql.Proofs.Store.SchemaRow
import DocSql.Proofs.Store.Declarations
import DocSql.Proofs.Update.Paths
import DocSql.Proofs.Update.Reading
import DocSql.Proofs.Sql.Truth
import DocSql.Proofs.Sql.Evaluation
import DocSql.Proofs.Query.Evaluation
import DocSql.Proofs.Query.Answers
import DocSql.Proofs.Query.Complement
import DocSql.Proofs.Query.Membership
import DocSql.Proofs.Query.Inequality
import DocSql.Proofs.Statement.Composition
import DocSql.Proofs.Store.StoredSchema
import DocSql.Proofs.Query.TextBlindness
import DocSql.Proofs.Storage.ColumnTypes
import DocSql.Proofs.Store.Requests
import DocSql.Proofs.Number.DecimalText
import DocSql.Proofs.Sql.JsonObjects
import DocSql.Proofs.Update.Patches
import DocSql.Proofs.Update.ObjectKeys
import DocSql.Proofs.Update.NestedKeys
import DocSql.Proofs.Sql.Positions
import DocSql.Proofs.Update.Providers
import DocSql.Proofs.Update.ReplacedObjects
import DocSql.Proofs.Statement.Providers
import DocSql.Proofs.Statement.KeyCheck
import DocSql.Proofs.Query.BooleanOperands
import DocSql.Proofs.Query.Spellings
import DocSql.Proofs.Query.ListColumns
import DocSql.Proofs.Timestamp.Rereading
import DocSql.Proofs.Query.CaseFolding
import DocSql.Proofs.Query.DefaultDates
import DocSql.Proofs.Update.SuppliedColumns
import DocSql.Proofs.Number.Value
import DocSql.Proofs.Number.Rounding
import DocSql.Proofs.Storage.Numbers
import DocSql.Proofs.Geo.Rings
import DocSql.Proofs.Storage.Polygons
import DocSql.Proofs.Storage.Rows
import DocSql.Proofs.Pattern.Literals
import DocSql.Proofs.Pattern.Stripping
import DocSql.Proofs.Query.QuotedText
import DocSql.Proofs.Pattern.LiteralStarts
import DocSql.Proofs.Pattern.Prefixes
import DocSql.Proofs.Number.IntegerText
import DocSql.Proofs.Timestamp.Relative
import DocSql.Proofs.Sql.Identifiers
import DocSql.Proofs.Query.TextSearches
import DocSql.Proofs.Statement.Ranking
import DocSql.Proofs.Json
import DocSql.Proofs.Statement.OutputNames
import DocSql.Proofs.Statement.GroupKeys
import DocSql.Proofs.Statement.Counts
import DocSql.Proofs.Query.Operands
import DocSql.Proofs.Query.Reading
import DocSql.Proofs.Query.Modifiers
import DocSql.Proofs.Session.Successes
import DocSql.Proofs.Store.IndexChanges
import DocSql.Proofs.Store.MetadataPaths
import DocSql.Proofs.Statement.RenamedIds
import DocSql.Proofs.Schema.Views
import DocSql.Proofs.Session.DuplicatedFields
import DocSql.Proofs.Statement.TableColumns
import DocSql.Proofs.Joining
import DocSql.Proofs.Store.DerivedNames
import DocSql.Proofs.Store.Upgrades
import DocSql.Proofs.Store.Deletion
import DocSql.Proofs.CommandLine.ClassDefinition
import DocSql.Proofs.Sql.Building
import DocSql.Proofs.Sql.Quoting
