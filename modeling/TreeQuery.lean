import TreeQuery.Bindings
import TreeQuery.Catalog.Definition
import TreeQuery.Catalog.Entity
import TreeQuery.Catalog.Error
import TreeQuery.Catalog.Link
import TreeQuery.Catalog.Property
import TreeQuery.Catalog.Registry
import TreeQuery.Command
import TreeQuery.Compile.Context
import TreeQuery.Compile.Display
import TreeQuery.Compile.Error
import TreeQuery.Compile.Filter
import TreeQuery.Compile.Relation
import TreeQuery.ComputedField
import TreeQuery.Decimal.Shortest
import TreeQuery.Environment
import TreeQuery.Fragment.Basic
import TreeQuery.Fragment.Lowering
import TreeQuery.Json.Basic
import TreeQuery.Json.Fault
import TreeQuery.Json.Number
import TreeQuery.Json.Printer
import TreeQuery.Json.Reader
import TreeQuery.Json.Record
import TreeQuery.Main
import TreeQuery.Operator
import TreeQuery.Pagination
import TreeQuery.Placeholder
import TreeQuery.Predicate
import TreeQuery.Proofs.Aliases
import TreeQuery.Proofs.Bindings
import TreeQuery.Proofs.Database
import TreeQuery.Proofs.FilterRuns
import TreeQuery.Proofs.Fragments
import TreeQuery.Proofs.Lowering
import TreeQuery.Proofs.Operators
import TreeQuery.Proofs.Steps
import TreeQuery.Proofs.Tests
import TreeQuery.Request
import TreeQuery.Resolver
import TreeQuery.Selection
import TreeQuery.Session
import TreeQuery.Settings
import TreeQuery.Sql.Alias
import TreeQuery.Sql.Clause
import TreeQuery.Sql.Identifier
import TreeQuery.Sql.Render
import TreeQuery.Sql.Test
import TreeQuery.Sql.Tree
import TreeQuery.Statement
import TreeQuery.Text.Blank
import TreeQuery.Text.Digit
import TreeQuery.Text.LetterCase
import TreeQuery.Text.LetterCase.Table
import TreeQuery.Text.Quoted
import TreeQuery.Text.Visible
import TreeQuery.Written
import TreeQuery.Yaml.Node
import TreeQuery.Yaml.Token
import TreeQuery.Proofs.FilterMeaning
import TreeQuery.Proofs.Sample
import TreeQuery.Proofs.Scanning
import TreeQuery.Proofs.StatementText
import TreeQuery.Proofs.StatementParameters
import TreeQuery.Proofs.SelectionRuns
import TreeQuery.Proofs.FragmentParameters
import TreeQuery.Proofs.FragmentParts
import TreeQuery.Proofs.Accounts
import TreeQuery.Proofs.QueryAccounts
import TreeQuery.Proofs.QuietNames
import TreeQuery.Proofs.PlainFragments
import TreeQuery.Proofs.PlainStatements
import TreeQuery.Proofs.VanishingAlternatives
import TreeQuery.Proofs.PlaceholderBindings
import TreeQuery.Proofs.Redaction
import TreeQuery.Proofs.Noninterference
import TreeQuery.Proofs.FilterFailures
import TreeQuery.Proofs.SelectionFailures
import TreeQuery.Proofs.RegistryFaults
import TreeQuery.Proofs.Literals
import TreeQuery.Proofs.LiteralBindings
import TreeQuery.Proofs.ScopedFragments
import TreeQuery.Proofs.ScopedFilters
import TreeQuery.Proofs.ScopedStatements
import TreeQuery.Proofs.LexicalIntegrity
import TreeQuery.Proofs.Frames
import TreeQuery.Proofs.Blanks
import TreeQuery.Proofs.FragmentSides
import TreeQuery.Proofs.Records
import TreeQuery.Proofs.ComputedRecords
import TreeQuery.Proofs.Pieces
import TreeQuery.Proofs.RegularStatements
import TreeQuery.Proofs.Renaming
import TreeQuery.Proofs.Uniformity
import TreeQuery.Proofs.Templates
import TreeQuery.Proofs.ObjectKeys
import TreeQuery.Proofs.MirroredLinks
import TreeQuery.Proofs.ShownRelations
import TreeQuery.Proofs.DepthGuard
import TreeQuery.Proofs.RelationChains
import TreeQuery.Proofs.UnknownConditions
import TreeQuery.Proofs.AscendingNames
import TreeQuery.Proofs.Numbering
import TreeQuery.Proofs.Formulas
import TreeQuery.Proofs.FilterNotations
import TreeQuery.Proofs.ListMembership
import TreeQuery.Proofs.PairedColumns
import TreeQuery.Proofs.Predicates
import TreeQuery.Proofs.RowWidths
import TreeQuery.Proofs.RelationShapes
import TreeQuery.Proofs.NameSupply
import TreeQuery.Proofs.ObjectChunks
import TreeQuery.Proofs.ConsistentCatalogs
import TreeQuery.Proofs.ShownKeys
import TreeQuery.Proofs.MergedFragments
import TreeQuery.Proofs.ReadingBack
