import KnowledgeSchema.Agent
import KnowledgeSchema.Artifact.Basic
import KnowledgeSchema.Artifact.Fingerprint
import KnowledgeSchema.Artifact.Navigation
import KnowledgeSchema.Blueprint.Basic
import KnowledgeSchema.Blueprint.Event
import KnowledgeSchema.Blueprint.Status
import KnowledgeSchema.Blueprint.Version
import KnowledgeSchema.Bundle.Basic
import KnowledgeSchema.Bundle.Resolve
import KnowledgeSchema.Cli.Command
import KnowledgeSchema.Cli.Desk
import KnowledgeSchema.Cli.Grammar
import KnowledgeSchema.Cli.Report
import KnowledgeSchema.Database.Address
import KnowledgeSchema.Database.Basic
import KnowledgeSchema.Database.Image
import KnowledgeSchema.Database.Migration
import KnowledgeSchema.Database.Opening
import KnowledgeSchema.Definition.DataType
import KnowledgeSchema.Definition.Entity
import KnowledgeSchema.Definition.Extraction
import KnowledgeSchema.Definition.Kind
import KnowledgeSchema.Definition.Relationship
import KnowledgeSchema.Definition.Set
import KnowledgeSchema.Definition.View
import KnowledgeSchema.Digest.Sha256
import KnowledgeSchema.Disk.Basic
import KnowledgeSchema.Disk.Path
import KnowledgeSchema.Failure
import KnowledgeSchema.Identifier
import KnowledgeSchema.Inheritance.Resolver
import KnowledgeSchema.Inheritance.Warning
import KnowledgeSchema.Json.Codec
import KnowledgeSchema.Json.Flaw
import KnowledgeSchema.Json.Record
import KnowledgeSchema.Json.Scan
import KnowledgeSchema.Json.Tagged
import KnowledgeSchema.Json.Value
import KnowledgeSchema.Json.Writer
import KnowledgeSchema.Main
import KnowledgeSchema.Number.Double
import KnowledgeSchema.Number.Shortest
import KnowledgeSchema.Number.Word
import KnowledgeSchema.Operation.Compile
import KnowledgeSchema.Operation.Content
import KnowledgeSchema.Operation.Service
import KnowledgeSchema.Operation.Versions
import KnowledgeSchema.Program
import KnowledgeSchema.Proofs.Concurrent.Logs
import KnowledgeSchema.Proofs.Concurrent.Pact
import KnowledgeSchema.Proofs.Concurrent.Ids
import KnowledgeSchema.Proofs.Concurrent.Requests
import KnowledgeSchema.Proofs.Concurrent.System
import KnowledgeSchema.Proofs.Freezing.Placement
import KnowledgeSchema.Proofs.Freezing.Safety
import KnowledgeSchema.Proofs.Freezing.Tending
import KnowledgeSchema.Proofs.Inheritance.Memo
import KnowledgeSchema.Proofs.Inheritance.Reference
import KnowledgeSchema.Proofs.Inheritance.Resolution
import KnowledgeSchema.Proofs.Lifecycle.Account
import KnowledgeSchema.Proofs.Lifecycle.Row
import KnowledgeSchema.Proofs.Lifecycle.Safety
import KnowledgeSchema.Proofs.Lifecycle.Transition
import KnowledgeSchema.Proofs.Numbering.Claim
import KnowledgeSchema.Proofs.Numbering.Sequence
import KnowledgeSchema.Proofs.Program.Laws
import KnowledgeSchema.Proofs.Program.Relays
import KnowledgeSchema.Proofs.Store.Definitions
import KnowledgeSchema.Proofs.Store.Tables
import KnowledgeSchema.Proofs.Store.Isolation
import KnowledgeSchema.Proofs.Store.Versions
import KnowledgeSchema.Proofs.Time.Texts
import KnowledgeSchema.Scripted
import KnowledgeSchema.Settings.Basic
import KnowledgeSchema.Settings.Document
import KnowledgeSchema.Settings.Keeping
import KnowledgeSchema.Store.Basic
import KnowledgeSchema.Store.Call
import KnowledgeSchema.Store.Edit
import KnowledgeSchema.Store.Row
import KnowledgeSchema.Text.Blank
import KnowledgeSchema.Text.Case
import KnowledgeSchema.Text.CaseTable
import KnowledgeSchema.Text.HiddenTable
import KnowledgeSchema.Text.Percent
import KnowledgeSchema.Text.Quoted
import KnowledgeSchema.Text.Set
import KnowledgeSchema.Text.Utf8
import KnowledgeSchema.Time.Date
import KnowledgeSchema.Time.Epoch
import KnowledgeSchema.Time.Reader
import KnowledgeSchema.Time.Timestamp
import KnowledgeSchema.Toml.Document
import KnowledgeSchema.Toml.Scalar
import KnowledgeSchema.Toml.Text
import KnowledgeSchema.Toml.Value
import KnowledgeSchema.World
import KnowledgeSchema.Proofs.Compiling.Outcome
import KnowledgeSchema.Proofs.Caching.Evolution
import KnowledgeSchema.Proofs.Program.Versions
import KnowledgeSchema.Proofs.Caching.Harmless
import KnowledgeSchema.Proofs.Caching.Currency
import KnowledgeSchema.Proofs.Caching.Transparency
import KnowledgeSchema.Proofs.Text.Casing
import KnowledgeSchema.Proofs.Definition.Names
import KnowledgeSchema.Proofs.Json.Scalars
import KnowledgeSchema.Proofs.Json.RoundTrip
import KnowledgeSchema.Proofs.Json.Depth
import KnowledgeSchema.Proofs.Store.Appending
import KnowledgeSchema.Proofs.Definition.Rows
import KnowledgeSchema.Proofs.Definition.Spelling
import KnowledgeSchema.Proofs.Store.Consistency
import KnowledgeSchema.Proofs.Compiling.Arrangement
import KnowledgeSchema.Proofs.Compiling.Reading
import KnowledgeSchema.Proofs.Forking.Renaming
import KnowledgeSchema.Proofs.Forking.Copying
import KnowledgeSchema.Proofs.Forking.DeepCopy
import KnowledgeSchema.Proofs.Inheritance.Alarms
import KnowledgeSchema.Proofs.Compiling.Assembly
import KnowledgeSchema.Proofs.Compiling.Diagnostics
import KnowledgeSchema.Proofs.Forking.Ties
import KnowledgeSchema.Proofs.Forking.Hierarchy
import KnowledgeSchema.Proofs.Compiling.Artifact
import KnowledgeSchema.Proofs.Forking.Compiled
import KnowledgeSchema.Proofs.Compiling.Answers
import KnowledgeSchema.Proofs.Importing.Meaning
import KnowledgeSchema.Proofs.Importing.Grammar
import KnowledgeSchema.Proofs.Store.Permuted
import KnowledgeSchema.Proofs.Json.Unique
import KnowledgeSchema.Proofs.Json.Revealing
import KnowledgeSchema.Proofs.Artifact.Coverage
import KnowledgeSchema.Proofs.Failing.Mishaps
import KnowledgeSchema.Proofs.Failing.Traceless
import KnowledgeSchema.Proofs.Store.Extension
import KnowledgeSchema.Proofs.Importing.Inherited
import KnowledgeSchema.Proofs.Importing.Compiled
import KnowledgeSchema.Proofs.Compiling.Confined
import KnowledgeSchema.Proofs.Store.Soundness
import KnowledgeSchema.Proofs.Json.Rereading
import KnowledgeSchema.Proofs.Json.Records
import KnowledgeSchema.Proofs.Json.Sources
import KnowledgeSchema.Proofs.Json.Stable
import KnowledgeSchema.Proofs.Documents.Definitions
import KnowledgeSchema.Proofs.Documents.Bundles
import KnowledgeSchema.Proofs.Documents.Rereading
import KnowledgeSchema.Proofs.Json.Finite
import KnowledgeSchema.Proofs.Documents.Portable
import KnowledgeSchema.Proofs.Store.Portable
import KnowledgeSchema.Proofs.Program.Terms
import KnowledgeSchema.Proofs.Program.Portable
import KnowledgeSchema.Proofs.Artifact.Navigation
import KnowledgeSchema.Proofs.Artifact.Portable
import KnowledgeSchema.Proofs.Artifact.Survival
import KnowledgeSchema.Proofs.Inheritance.Anomalies
import KnowledgeSchema.Proofs.Compiling.Parents
import KnowledgeSchema.Proofs.Auditing.Ledger
import KnowledgeSchema.Proofs.Auditing.Turns
import KnowledgeSchema.Proofs.Auditing.Records
import KnowledgeSchema.Proofs.Auditing.History
import KnowledgeSchema.Proofs.Program.Choosing
import KnowledgeSchema.Proofs.Commands.Compiling
import KnowledgeSchema.Proofs.Commands.Opening
import KnowledgeSchema.Proofs.Commands.Artifacts
import KnowledgeSchema.Proofs.Store.Failures
import KnowledgeSchema.Proofs.Concurrent.Endings
import KnowledgeSchema.Proofs.Lifecycle.Progress
import KnowledgeSchema.Proofs.Lifecycle.Patience
import KnowledgeSchema.Proofs.Numbering.Allotment
import KnowledgeSchema.Proofs.Numbering.Attempts
import KnowledgeSchema.Proofs.Numbering.Contention
import KnowledgeSchema.Proofs.Store.Overwriting
import KnowledgeSchema.Proofs.Store.Conflicts
import KnowledgeSchema.Proofs.Number.Clamping
import KnowledgeSchema.Proofs.Importing.Labelling
import KnowledgeSchema.Proofs.Importing.Outcome
import KnowledgeSchema.Proofs.Store.Listing
import KnowledgeSchema.Proofs.Store.ReadBack
import KnowledgeSchema.Proofs.Artifact.Kinship
import KnowledgeSchema.Proofs.Toml.Values
import KnowledgeSchema.Proofs.Settings.Documents
import KnowledgeSchema.Proofs.Settings.Keeping
import KnowledgeSchema.Proofs.Json.Shapes
import KnowledgeSchema.Proofs.Json.Walks
import KnowledgeSchema.Proofs.Json.Shaped
import KnowledgeSchema.Proofs.Json.ClosedRecords
import KnowledgeSchema.Proofs.Importing.Closed
import KnowledgeSchema.Proofs.Database.Constraints
import KnowledgeSchema.Proofs.Database.Recovery
import KnowledgeSchema.Proofs.Inheritance.Bounds
import KnowledgeSchema.Proofs.Inheritance.Kept
