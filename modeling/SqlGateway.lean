import SqlGateway.Dialect.SqlServer
import SqlGateway.Dialect.Sqlite
import SqlGateway.Encoding
import SqlGateway.FieldType
import SqlGateway.Filter
import SqlGateway.Inference
import SqlGateway.Proofs.Command.Snapshot
import SqlGateway.Proofs.Execution.Cancellation
import SqlGateway.Proofs.Execution.Surfaces
import SqlGateway.Proofs.Filter.Fragments
import SqlGateway.Proofs.Inference.Recognition
import SqlGateway.Proofs.Sqlite.Creation
import SqlGateway.Proofs.Sqlite.Parsing
import SqlGateway.Proofs.Transaction.Atomicity
import SqlGateway.Proofs.Transaction.Block
import SqlGateway.Proofs.Transaction.Pending
import SqlGateway.Rehearsal.Run
import SqlGateway.Settings.File
import SqlGateway.Proofs.Encoding.Uuid
import SqlGateway.Proofs.Inference.Words
import SqlGateway.Proofs.Json.Numerals
import SqlGateway.Proofs.Encoding.Kept
import SqlGateway.Proofs.Encoding.Lossless
import SqlGateway.Proofs.Sqlite.Stopping
import SqlGateway.Proofs.Toml.Lines
import SqlGateway.Proofs.Settings.Documents
import SqlGateway.Proofs.Settings.Files
import SqlGateway.Proofs.Template.Stages
import SqlGateway.Proofs.Sqlite.Lookup
import SqlGateway.Proofs.Sqlite.Counting
import SqlGateway.Proofs.Output.Names
import SqlGateway.Proofs.Inference.Closure
import SqlGateway.Proofs.Factory
import SqlGateway.Proofs.Sqlite.Lifecycle
import SqlGateway.Proofs.Filter.Collapsing
import SqlGateway.Proofs.Text.Trimming
import SqlGateway.Proofs.DbType
import SqlGateway.Proofs.Text.Pieces
import SqlGateway.Proofs.Sqlite.DataSource
import SqlGateway.Proofs.Execution.Uses
import SqlGateway.Proofs.Sqlite.Location
import SqlGateway.Proofs.Sqlite.Lodging
