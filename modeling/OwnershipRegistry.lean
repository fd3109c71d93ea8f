import OwnershipRegistry.Audit
import OwnershipRegistry.Calendar
import OwnershipRegistry.Decimal.Binary64
import OwnershipRegistry.Decimal.Places
import OwnershipRegistry.Decimal.Reading
import OwnershipRegistry.Decimal.Shortest
import OwnershipRegistry.Denial
import OwnershipRegistry.Denial.Arguments
import OwnershipRegistry.Documents
import OwnershipRegistry.Failure
import OwnershipRegistry.IntSet
import OwnershipRegistry.Journal.Basic
import OwnershipRegistry.Journal.Context
import OwnershipRegistry.Journal.Denials
import OwnershipRegistry.Journal.Exposition
import OwnershipRegistry.Journal.Filling
import OwnershipRegistry.Journal.Level
import OwnershipRegistry.Journal.Metrics
import OwnershipRegistry.Journal.Record
import OwnershipRegistry.Journal.Step
import OwnershipRegistry.Json
import OwnershipRegistry.Main
import OwnershipRegistry.Manifest.Basic
import OwnershipRegistry.Manifest.Plan
import OwnershipRegistry.Name
import OwnershipRegistry.Name.Check
import OwnershipRegistry.Numeral
import OwnershipRegistry.Proofs.IntSet
import OwnershipRegistry.Proofs.Name
import OwnershipRegistry.Proofs.Table
import OwnershipRegistry.Registry.Lookup
import OwnershipRegistry.Registry.Namespaces
import OwnershipRegistry.Registry.Notice
import OwnershipRegistry.Registry.Permissions
import OwnershipRegistry.Registry.Record
import OwnershipRegistry.Registry.Resources
import OwnershipRegistry.Registry.Store
import OwnershipRegistry.Schema.Address
import OwnershipRegistry.Schema.Issue
import OwnershipRegistry.Schema.Reading
import OwnershipRegistry.Security.Config
import OwnershipRegistry.Security.Directory
import OwnershipRegistry.Security.Inquiry
import OwnershipRegistry.Security.Validator
import OwnershipRegistry.Settings
import OwnershipRegistry.Sha256
import OwnershipRegistry.Table
import OwnershipRegistry.Text.Blank
import OwnershipRegistry.Text.Decoded
import OwnershipRegistry.Text.Digit
import OwnershipRegistry.Text.Lines
import OwnershipRegistry.Text.Lowercase
import OwnershipRegistry.Text.Printable
import OwnershipRegistry.Text.Quoted
import OwnershipRegistry.Text.Ranges
import OwnershipRegistry.Text.Uppercase
import OwnershipRegistry.Value
import OwnershipRegistry.Value.Text
import OwnershipRegistry.World.Answer
import OwnershipRegistry.World.Application
import OwnershipRegistry.World.Basic
import OwnershipRegistry.World.Flow
import OwnershipRegistry.World.Query
import OwnershipRegistry.World.Step
import OwnershipRegistry.World.Tables
import OwnershipRegistry.Yaml.Binary
import OwnershipRegistry.Yaml.Block
import OwnershipRegistry.Yaml.Collection
import OwnershipRegistry.Yaml.Cursor
import OwnershipRegistry.Yaml.Document
import OwnershipRegistry.Yaml.Lexer
import OwnershipRegistry.Yaml.Mark
import OwnershipRegistry.Yaml.Merge
import OwnershipRegistry.Yaml.Node
import OwnershipRegistry.Yaml.Plain
import OwnershipRegistry.Yaml.Quoted
import OwnershipRegistry.Yaml.Reading
import OwnershipRegistry.Yaml.Scalar
import OwnershipRegistry.Yaml.Timestamp
import OwnershipRegistry.Yaml.Token
import OwnershipRegistry.Proofs.Registry
import OwnershipRegistry.Proofs.Store
import OwnershipRegistry.Proofs.Commit
import OwnershipRegistry.Proofs.Application
import OwnershipRegistry.Proofs.Run
import OwnershipRegistry.Proofs.Invariant
import OwnershipRegistry.Proofs.Transaction
import OwnershipRegistry.Proofs.Access
import OwnershipRegistry.Proofs.Plan
import OwnershipRegistry.Proofs.Carrying
import OwnershipRegistry.Proofs.Convergence
import OwnershipRegistry.Proofs.Manifest
import OwnershipRegistry.Proofs.Books
import OwnershipRegistry.Proofs.Settled
import OwnershipRegistry.Proofs.Refusal
import OwnershipRegistry.Proofs.Persistence
import OwnershipRegistry.Proofs.Token
import OwnershipRegistry.Proofs.Confinement
import OwnershipRegistry.Proofs.Atomicity
import OwnershipRegistry.Proofs.WriteChecks
import OwnershipRegistry.Proofs.Decision
import OwnershipRegistry.Proofs.Accounting
import OwnershipRegistry.Proofs.Outcome
import OwnershipRegistry.Proofs.Entries
import OwnershipRegistry.Proofs.Feasibility
import OwnershipRegistry.Proofs.Reordering
import OwnershipRegistry.Proofs.FirstApplication
import OwnershipRegistry.Proofs.CommitCount
import OwnershipRegistry.Proofs.ReadBack
import OwnershipRegistry.Proofs.Acceptance
import OwnershipRegistry.Proofs.Registration
import OwnershipRegistry.Proofs.Amendments
import OwnershipRegistry.Proofs.Commuting
import OwnershipRegistry.Proofs.Lookups
import OwnershipRegistry.Proofs.SavedTables
import OwnershipRegistry.Proofs.Numeral
import OwnershipRegistry.Proofs.Directory
import OwnershipRegistry.Proofs.AccountFinding
import OwnershipRegistry.Proofs.Selector
import OwnershipRegistry.Proofs.Spelling
import OwnershipRegistry.Proofs.TagCheck
import OwnershipRegistry.Proofs.DenialRecords
import OwnershipRegistry.Proofs.PrintedPlan
import OwnershipRegistry.Proofs.Mirror
import OwnershipRegistry.Proofs.FlowScope
import OwnershipRegistry.Proofs.Shortest
import OwnershipRegistry.Proofs.JsonReader
import OwnershipRegistry.Proofs.JsonNumber
import OwnershipRegistry.Proofs.JsonString
import OwnershipRegistry.Proofs.JsonText
import OwnershipRegistry.Proofs.LogLine
