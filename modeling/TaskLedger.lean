import TaskLedger.Proofs.Codec.Outcome
import TaskLedger.Codec.Encoder
import TaskLedger.Comment.Folder
import TaskLedger.Log.Filter
import TaskLedger.Proofs.Store.LostUpdate
import TaskLedger.Proofs.Store.ReadModifyWrite
import TaskLedger.Store.Sync
import TaskLedger.Proofs.Feed.Cursor
import TaskLedger.Proofs.Feed.Polls
import TaskLedger.Proofs.Feed.Run
import TaskLedger.Proofs.Feed.Rising
import TaskLedger.Proofs.Store.FeedRun
import TaskLedger.Proofs.Store.Delivery
import TaskLedger.Proofs.Bisection
import TaskLedger.Proofs.Comment.Group
import TaskLedger.Proofs.Comment.Repo
import TaskLedger.Proofs.Comment.Writer
import TaskLedger.Proofs.Store.Advance
import TaskLedger.Proofs.Report.Stream
import TaskLedger.Proofs.Report.Tags
import TaskLedger.Proofs.Store.Sync
import TaskLedger.Proofs.Store.Detached
import TaskLedger.Proofs.Store.Range
import TaskLedger.Proofs.Decimal.Digits
import TaskLedger.Proofs.Json.Grammar
import TaskLedger.Proofs.Text.Symbol
import TaskLedger.Proofs.Json.Scanning
import TaskLedger.Proofs.Json.Parsing
import TaskLedger.Proofs.Json.Printing
import TaskLedger.Proofs.Time.Calendar
import TaskLedger.Proofs.Time.Reading
import TaskLedger.Proofs.Json.Record
import TaskLedger.Proofs.Codec.Format
import TaskLedger.Proofs.Comment.Snapshot
import TaskLedger.Proofs.Report.Checks
import TaskLedger.Proofs.Comment.Changes
import TaskLedger.Proofs.Feed.Idle
import TaskLedger.Proofs.Store.Retries
import TaskLedger.Proofs.Codec.Encoder
import TaskLedger.Proofs.Codec.Progress
import TaskLedger.Proofs.Report.Times
import TaskLedger.Proofs.Store.Independent
import TaskLedger.Proofs.Comment.Recent
import TaskLedger.Proofs.Store.Coherent
