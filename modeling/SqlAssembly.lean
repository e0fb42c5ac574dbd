import SqlAssembly.Binding
import SqlAssembly.Build
import SqlAssembly.Clause
import SqlAssembly.Fault
import SqlAssembly.Journal.Basic
import SqlAssembly.Journal.Event
import SqlAssembly.Journal.Hierarchy
import SqlAssembly.Journal.Plan
import SqlAssembly.Journal.Refusal
import SqlAssembly.Journal.Severity
import SqlAssembly.Journal.Storage
import SqlAssembly.Number.Binary64
import SqlAssembly.Number.Shortest
import SqlAssembly.Operation
import SqlAssembly.Options.Coercion
import SqlAssembly.Options.Plain
import SqlAssembly.Options.Record
import SqlAssembly.Options.Schema
import SqlAssembly.Options.Validation
import SqlAssembly.Report
import SqlAssembly.Session.Basic
import SqlAssembly.Session.Heap
import SqlAssembly.Session.Message
import SqlAssembly.Session.Step
import SqlAssembly.Session.Store
import SqlAssembly.Session.Term
import SqlAssembly.Settings.Basic
import SqlAssembly.Settings.EnvFile
import SqlAssembly.Settings.Environment
import SqlAssembly.Settings.Location
import SqlAssembly.Sort.Adaptive
import SqlAssembly.Sort.Merge
import SqlAssembly.Sort.Run
import SqlAssembly.Statement.Filtered
import SqlAssembly.Statement.Insert
import SqlAssembly.Statement.Prepared
import SqlAssembly.Text.Abbreviated
import SqlAssembly.Text.Blank
import SqlAssembly.Text.Path
import SqlAssembly.Text.Printable
import SqlAssembly.Text.Quoted
import SqlAssembly.Text.Uppercase
import SqlAssembly.Value.Attribute
import SqlAssembly.Value.Basic
import SqlAssembly.Value.Comparison
import SqlAssembly.Value.Equality
import SqlAssembly.Value.Json
import SqlAssembly.Value.Literal
import SqlAssembly.Value.Node
import SqlAssembly.Value.Order
import SqlAssembly.Value.Sequence
import SqlAssembly.Proofs.Options.Taken
import SqlAssembly.Proofs.Row
import SqlAssembly.Proofs.Clause.Joining
import SqlAssembly.Proofs.Statement.Call
import SqlAssembly.Proofs.Statement.Placement
import SqlAssembly.Proofs.Statement.Outline
import SqlAssembly.Proofs.Statement.Unambiguous
import SqlAssembly.Proofs.Insert.Columns
import SqlAssembly.Proofs.Insert.Reading
import SqlAssembly.Proofs.Insert.Grid
import SqlAssembly.Proofs.Insert.Complete
import SqlAssembly.Proofs.Secrecy.Alike
import SqlAssembly.Proofs.Secrecy.Keys
import SqlAssembly.Proofs.Secrecy.Operations
import SqlAssembly.Proofs.Settings.Strictness
import SqlAssembly.Proofs.Statement.Guarded
import SqlAssembly.Proofs.Options.Intact
import SqlAssembly.Proofs.Settings.Asking
import SqlAssembly.Proofs.Journal.Publishing
import SqlAssembly.Proofs.Session.Keeping
import SqlAssembly.Proofs.Settings.Kept
import SqlAssembly.Proofs.Session.Outcomes
import SqlAssembly.Proofs.Session.Planning
import SqlAssembly.Proofs.Options.Draft
import SqlAssembly.Proofs.Statement.Direct
import SqlAssembly.Proofs.Statement.Ending
import SqlAssembly.Proofs.Session.Requests
import SqlAssembly.Proofs.Session.Lines
import SqlAssembly.Proofs.Statement.Marks
import SqlAssembly.Proofs.Session.Independence
import SqlAssembly.Proofs.Journal.Delivery
import SqlAssembly.Proofs.Journal.Configuring
import SqlAssembly.Proofs.Session.Configured
import SqlAssembly.Proofs.Options.Flaws
import SqlAssembly.Proofs.Options.Conversion
import SqlAssembly.Proofs.Insert.ReadBack
import SqlAssembly.Proofs.Settings.Sifting
import SqlAssembly.Proofs.Statement.Ordered
import SqlAssembly.Proofs.Text.Capitals
import SqlAssembly.Proofs.Statement.Keywords
import SqlAssembly.Proofs.Insert.Reordering
import SqlAssembly.Proofs.Insert.Flattening
import SqlAssembly.Proofs.Text.Spelling
import SqlAssembly.Proofs.Settings.Locating
import SqlAssembly.Proofs.Settings.PlainFile
import SqlAssembly.Proofs.Settings.Precedence
import SqlAssembly.Proofs.Text.Idempotence
import SqlAssembly.Proofs.Journal.Levels
import SqlAssembly.Proofs.Session.Unconfigured
import SqlAssembly.Proofs.Session.Levels
import SqlAssembly.Proofs.Statement.Pieces
