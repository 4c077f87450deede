import SchemaPlan.Command.Arguments
import SchemaPlan.Command.Flag
import SchemaPlan.Command.Report
import SchemaPlan.Digest
import SchemaPlan.Error
import SchemaPlan.Files.Path
import SchemaPlan.Files.Pattern
import SchemaPlan.Files.Search
import SchemaPlan.Files.Store
import SchemaPlan.Files.Tree
import SchemaPlan.Json.Basic
import SchemaPlan.Json.Parser
import SchemaPlan.Json.Printer
import SchemaPlan.Json.Token
import SchemaPlan.Main
import SchemaPlan.Model.Basic
import SchemaPlan.Model.Decode
import SchemaPlan.Model.Encode
import SchemaPlan.Model.Lookup
import SchemaPlan.Model.Read
import SchemaPlan.Model.Validate
import SchemaPlan.Op
import SchemaPlan.Order
import SchemaPlan.Plan.Basic
import SchemaPlan.Plan.Comparison
import SchemaPlan.Plan.Constraints
import SchemaPlan.Plan.Draft
import SchemaPlan.Plan.Elements
import SchemaPlan.Plan.Privileges
import SchemaPlan.Plan.Rows
import SchemaPlan.Plan.Schemas
import SchemaPlan.Plan.Tables
import SchemaPlan.Plan.Types
import SchemaPlan.Plan.Views
import SchemaPlan.Run
import SchemaPlan.Script
import SchemaPlan.ScriptWriter
import SchemaPlan.Source
import SchemaPlan.Sql.DollarQuote
import SchemaPlan.Sql.Expression
import SchemaPlan.Sql.Keyword
import SchemaPlan.Sql.Lexeme
import SchemaPlan.Sql.Literal
import SchemaPlan.Sql.Name
import SchemaPlan.Sql.Operator
import SchemaPlan.Sql.Query.Change
import SchemaPlan.Sql.Query.Expression
import SchemaPlan.Sql.Query.Reading
import SchemaPlan.Sql.Query.Selection
import SchemaPlan.Sql.Query.Statement
import SchemaPlan.Sql.Query.Table
import SchemaPlan.Sql.Query.Type
import SchemaPlan.Sql.Quotation
import SchemaPlan.Sql.Reference
import SchemaPlan.Sql.Relation
import SchemaPlan.Sql.Render
import SchemaPlan.Sql.TypeName
import SchemaPlan.Text.Alphabet
import SchemaPlan.Text.Blank
import SchemaPlan.Text.Case
import SchemaPlan.Proofs.Checks
import SchemaPlan.Proofs.Coherence
import SchemaPlan.Proofs.Correspondence
import SchemaPlan.Proofs.Kinds
import SchemaPlan.Proofs.Layout
import SchemaPlan.Proofs.TableConstraints
import SchemaPlan.Proofs.ConstraintMigration
import SchemaPlan.Proofs.ForeignKeys
import SchemaPlan.Proofs.RowState
import SchemaPlan.Proofs.StaticRows
import SchemaPlan.Proofs.RowMigration
import SchemaPlan.Proofs.Sameness
import SchemaPlan.Proofs.SelfComparison
import SchemaPlan.Proofs.Idempotence
import SchemaPlan.Proofs.Stages
import SchemaPlan.Proofs.Arrangement
import SchemaPlan.Proofs.DependencyOrder
import SchemaPlan.Proofs.JsonText
import SchemaPlan.Proofs.Reloading
import SchemaPlan.Proofs.Refusals
import SchemaPlan.Proofs.GivenOrders
import SchemaPlan.Proofs.FromNothing
import SchemaPlan.Proofs.TypeReferences
import SchemaPlan.Proofs.Resolution
import SchemaPlan.Proofs.Sufficiency
import SchemaPlan.Proofs.Parts
import SchemaPlan.Proofs.TablePlacement
import SchemaPlan.Proofs.Precedence
import SchemaPlan.Proofs.WorkOrder
import SchemaPlan.Proofs.SingleStage
import SchemaPlan.Proofs.ValueDemands
import SchemaPlan.Proofs.TableRun
import SchemaPlan.Proofs.Privileges
import SchemaPlan.Proofs.ViewRebuild
import SchemaPlan.Proofs.UnmanagedGrants
import SchemaPlan.Proofs.ColumnPairs
import SchemaPlan.Proofs.RowKeys
import SchemaPlan.Proofs.KeyLiterals
import SchemaPlan.Proofs.ColumnMigration
import SchemaPlan.Proofs.ReferenceRebuild
import SchemaPlan.Proofs.CommentText
import SchemaPlan.Proofs.DollarQuotes
import SchemaPlan.Proofs.Identifiers
import SchemaPlan.Proofs.Literals
import SchemaPlan.Proofs.Addresses
import SchemaPlan.Proofs.PrivilegeMigration
import SchemaPlan.Proofs.Inheritance
import SchemaPlan.Proofs.TypeRebuild
import SchemaPlan.Proofs.TypeChanges
import SchemaPlan.Proofs.TypeSpelling
import SchemaPlan.Proofs.ViewOrder
import SchemaPlan.Proofs.SequenceUpgrade
import SchemaPlan.Proofs.FunctionSignatures
import SchemaPlan.Proofs.Overloads
import SchemaPlan.Proofs.FunctionIdentity
import SchemaPlan.Proofs.Clustering
import SchemaPlan.Proofs.LiteralChanges
import SchemaPlan.Proofs.Merging
import SchemaPlan.Proofs.Ancestry
import SchemaPlan.Proofs.NormalForms
import SchemaPlan.Proofs.TypeNameForms
import SchemaPlan.Proofs.Demotion
import SchemaPlan.Proofs.WrittenFiles
import SchemaPlan.Proofs.ScriptFiles
