import OpenSql.Config.Load
import OpenSql.Diagnostic
import OpenSql.Engine.Backend
import OpenSql.Json.Reader
import OpenSql.Logging.Basic
import OpenSql.Options.Form
import OpenSql.Scripted
import OpenSql.Proofs.Conversation
import OpenSql.Proofs.Lifecycle
import OpenSql.Proofs.Agreement
import OpenSql.Proofs.Abandonment
import OpenSql.Proofs.Atomicity
import OpenSql.Proofs.Dialect.RowLimit
import OpenSql.Proofs.Paging
import OpenSql.Proofs.Failures
import OpenSql.Proofs.Config.Layers
import OpenSql.Proofs.Engine.Opening
import OpenSql.Proofs.Serving
import OpenSql.Proofs.Status
import OpenSql.Proofs.Tracing
import OpenSql.Proofs.Dialect.Leftovers
import OpenSql.Proofs.Dialect.SortDirection
import OpenSql.Proofs.Dialect.Plain
import OpenSql.Proofs.Bookkeeping
import OpenSql.Proofs.Dialect.KeyOrder
import OpenSql.Proofs.Batches
import OpenSql.Proofs.Dialect.ColumnNames
import OpenSql.Proofs.Lookup
import OpenSql.Proofs.Counting
import OpenSql.Proofs.Config.InPlace
import OpenSql.Proofs.Engine.Classification
import OpenSql.Proofs.Json.Rows
import OpenSql.Proofs.Options
