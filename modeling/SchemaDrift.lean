import SchemaDrift.Catalog.Basic
import SchemaDrift.Catalog.Builtin
import SchemaDrift.Catalog.Compatibility
import SchemaDrift.Catalog.Document
import SchemaDrift.Catalog.Registry
import SchemaDrift.Config.Basic
import SchemaDrift.Config.File
import SchemaDrift.Ddl.Composer
import SchemaDrift.Ddl.Conventions
import SchemaDrift.Ddl.Statement
import SchemaDrift.Decimal.Double
import SchemaDrift.Decimal.Shortest
import SchemaDrift.Document.Base64
import SchemaDrift.Document.Calendar
import SchemaDrift.Document.Entries
import SchemaDrift.Document.Numeral
import SchemaDrift.Document.Reader
import SchemaDrift.Document.Toml.Basic
import SchemaDrift.Document.Toml.Scalar
import SchemaDrift.Document.Value
import SchemaDrift.Document.Yaml.Basic
import SchemaDrift.Document.Yaml.Cursor
import SchemaDrift.Document.Yaml.Kind
import SchemaDrift.Document.Yaml.Meaning
import SchemaDrift.Document.Yaml.Node
import SchemaDrift.Document.Yaml.Scalar
import SchemaDrift.Document.Yaml.Token
import SchemaDrift.Fault
import SchemaDrift.Identifier
import SchemaDrift.Log.Directive
import SchemaDrift.Log.Layout
import SchemaDrift.Log.Level
import SchemaDrift.Log.Tree
import SchemaDrift.Metadata.Database
import SchemaDrift.Metadata.Inventory
import SchemaDrift.Metadata.Session
import SchemaDrift.Model.Attribute
import SchemaDrift.Model.Entity
import SchemaDrift.Model.Form
import SchemaDrift.Model.Reading
import SchemaDrift.Model.Writing
import SchemaDrift.OrderedMap
import SchemaDrift.Plan.Basic
import SchemaDrift.Plan.Difference
import SchemaDrift.Plan.Document
import SchemaDrift.Planner
import SchemaDrift.Request.Arguments
import SchemaDrift.Request.Composition
import SchemaDrift.Request.Dialect
import SchemaDrift.Request.Logging
import SchemaDrift.Request.Lookup
import SchemaDrift.Request.Modelling
import SchemaDrift.Request.Planning
import SchemaDrift.Request.Settings
import SchemaDrift.Text.Blank
import SchemaDrift.Text.Case
import SchemaDrift.Text.CaseTable
import SchemaDrift.Text.DecimalDigit
import SchemaDrift.Text.Digits
import SchemaDrift.Text.PrintableTable
import SchemaDrift.Text.Quoted
import SchemaDrift.Text.Search
import SchemaDrift.Text.WordTable
import SchemaDrift.Proofs.Identifier.Token
import SchemaDrift.Proofs.Text.UpperCase
import SchemaDrift.Proofs.Session.Returns
import SchemaDrift.Proofs.Ddl.Effect
import SchemaDrift.Proofs.Ddl.Composition
import SchemaDrift.Proofs.Ddl.Category
import SchemaDrift.Proofs.Ddl.Definition
import SchemaDrift.Proofs.Ddl.Addition
import SchemaDrift.Proofs.Model.Declared
import SchemaDrift.Proofs.Model.Typed
import SchemaDrift.Proofs.Planner.Change
import SchemaDrift.Proofs.Planner.Entity
import SchemaDrift.Proofs.Planner.Alteration
import SchemaDrift.Proofs.Planner.Effects
import SchemaDrift.Proofs.Planner.Accounting
import SchemaDrift.Proofs.Planner.Destruction
import SchemaDrift.Proofs.Planner.Orphans
import SchemaDrift.Proofs.Metadata.Recorded
import SchemaDrift.Proofs.Planner.Repetition
import SchemaDrift.Proofs.Ddl.Clause
import SchemaDrift.Proofs.Planner.Created
import SchemaDrift.Proofs.Planner.Settling
import SchemaDrift.Proofs.Planner.FixedPoint
import SchemaDrift.Proofs.Planner.Rebuild
import SchemaDrift.Proofs.Planner.Stage
import SchemaDrift.Proofs.Planner.Staging
import SchemaDrift.Proofs.Planner.Backfill
import SchemaDrift.Proofs.Planner.Tightening
import SchemaDrift.Proofs.Session.Faults
import SchemaDrift.Proofs.Session.Reports
import SchemaDrift.Proofs.Session.Alike
import SchemaDrift.Proofs.Planner.Alike
import SchemaDrift.Proofs.Planner.Creation
import SchemaDrift.Proofs.Planner.Refusal
import SchemaDrift.Proofs.Request.Calls
import SchemaDrift.Proofs.Metadata.Scopes
import SchemaDrift.Proofs.Metadata.Connections
import SchemaDrift.Proofs.Planner.Summary
import SchemaDrift.Proofs.Planner.Reordering
import SchemaDrift.Proofs.Request.Reporting
import SchemaDrift.Proofs.Session.Listing
import SchemaDrift.Proofs.Planner.Listing
import SchemaDrift.Proofs.Text.LowerCase
import SchemaDrift.Proofs.Catalog.Construction
import SchemaDrift.Proofs.Catalog.Synonyms
import SchemaDrift.Proofs.Catalog.Overrides
import SchemaDrift.Proofs.Catalog.Spelling
import SchemaDrift.Proofs.Text.QuotedParts
import SchemaDrift.Proofs.Identifier.Reading
import SchemaDrift.Proofs.Ddl.Places
import SchemaDrift.Proofs.Ddl.Literals
import SchemaDrift.Proofs.Ddl.Naming
import SchemaDrift.Proofs.Config.Copying
import SchemaDrift.Proofs.Catalog.Registration
import SchemaDrift.Proofs.Plan.Merging
import SchemaDrift.Proofs.Planner.LengthDrift
import SchemaDrift.Proofs.Ddl.Parameters
import SchemaDrift.Proofs.Ddl.Required
import SchemaDrift.Proofs.Metadata.Dependents
import SchemaDrift.Proofs.Text.Words
import SchemaDrift.Proofs.Metadata.IndexRows
import SchemaDrift.Proofs.Model.Expansion
import SchemaDrift.Proofs.Catalog.Temporal
import SchemaDrift.Proofs.Planner.Embedding
import SchemaDrift.Proofs.Ddl.Stamping
import SchemaDrift.Proofs.Model.CamelCase
