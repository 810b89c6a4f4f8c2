import SwapArchive.Config.App
import SwapArchive.Config.Env
import SwapArchive.Config.Json
import SwapArchive.Config.Source
import SwapArchive.Config.Validate
import SwapArchive.Cursor.Basic
import SwapArchive.Cursor.Disk
import SwapArchive.Cursor.Store
import SwapArchive.Database.Connection
import SwapArchive.Database.Json
import SwapArchive.Database.Scripted
import SwapArchive.Database.Transaction
import SwapArchive.Database.Value
import SwapArchive.Feed.Attempts
import SwapArchive.Feed.Failure
import SwapArchive.Http.Cors
import SwapArchive.Http.Escape
import SwapArchive.Http.Exposition
import SwapArchive.Http.Health
import SwapArchive.Http.IpAddress
import SwapArchive.Http.Redirect
import SwapArchive.Http.RequestLine
import SwapArchive.Http.Route
import SwapArchive.Http.Server
import SwapArchive.Http.SlashPath
import SwapArchive.Http.Swaps
import SwapArchive.Http.Url
import SwapArchive.Ingest.Backfill
import SwapArchive.Ingest.ChainflipSync
import SwapArchive.Ingest.ClosingPrice
import SwapArchive.Ingest.Forward
import SwapArchive.Ingest.Ingestor
import SwapArchive.Ingest.LiveTail
import SwapArchive.Ingest.Loader
import SwapArchive.Ingest.Metrics
import SwapArchive.Ingest.Pending
import SwapArchive.Ingest.Progress
import SwapArchive.Ingest.Reconcile
import SwapArchive.Ingest.Retry
import SwapArchive.Ingest.Run
import SwapArchive.Ingest.Services
import SwapArchive.Ingest.Steps
import SwapArchive.Json.Decode
import SwapArchive.Json.Parse
import SwapArchive.Json.Print
import SwapArchive.Json.Value
import SwapArchive.Monitor.Breaker
import SwapArchive.Monitor.Job
import SwapArchive.Monitor.JobBoard
import SwapArchive.Number.Decimal
import SwapArchive.Number.FloatRead
import SwapArchive.Number.FloatText
import SwapArchive.Number.IntText
import SwapArchive.Number.Nearest
import SwapArchive.Number.Shortest
import SwapArchive.Proofs.Cursor.Atomic
import SwapArchive.Proofs.Database.Recording
import SwapArchive.Proofs.Ingest.ChainflipPending
import SwapArchive.Proofs.Ingest.Metered
import SwapArchive.Proofs.Ingest.PageCounters
import SwapArchive.Proofs.Ingest.PendingGauge
import SwapArchive.Proofs.Ingest.PendingRetry
import SwapArchive.Proofs.Ingest.SavedCursor
import SwapArchive.Proofs.Monitor.CancelledCall
import SwapArchive.Proofs.Monitor.JobHistory
import SwapArchive.Proofs.Pass.CallLog
import SwapArchive.Proofs.Pass.Exec
import SwapArchive.Proofs.Pass.Lands
import SwapArchive.Proofs.Pass.Observed
import SwapArchive.Proofs.Pass.Steps
import SwapArchive.Proofs.Pending.Registry
import SwapArchive.Proofs.Pending.Trackers
import SwapArchive.Proofs.Store.Loading
import SwapArchive.Proofs.Store.Statements
import SwapArchive.Proofs.Swap.Partition
import SwapArchive.Proofs.Swap.TrackedId
import SwapArchive.Rehearsal.Reader
import SwapArchive.Rehearsal.Run
import SwapArchive.Rehearsal.Script
import SwapArchive.Rehearsal.ScriptJson
import SwapArchive.Rehearsal.World
import SwapArchive.Remote.Exchange
import SwapArchive.Remote.Feeds
import SwapArchive.Remote.Retry
import SwapArchive.Remote.Script
import SwapArchive.Remote.Vault
import SwapArchive.Schedule.Cron
import SwapArchive.Schedule.Scheduler
import SwapArchive.Store.Layout
import SwapArchive.Store.Load
import SwapArchive.Store.Quote
import SwapArchive.Store.Render
import SwapArchive.Store.Scan
import SwapArchive.Store.Tables
import SwapArchive.Swap.Action
import SwapArchive.Swap.Asset
import SwapArchive.Swap.Chainflip
import SwapArchive.Swap.Record
import SwapArchive.Swap.Transform
import SwapArchive.Swap.Units
import SwapArchive.Text.Bytes
import SwapArchive.Text.Case
import SwapArchive.Text.CharClass
import SwapArchive.Text.Clean
import SwapArchive.Text.Quoted
import SwapArchive.Time.Calendar
import SwapArchive.Time.Duration
import SwapArchive.Time.Layout
import SwapArchive.Time.Zone
import SwapArchive.Time.ZoneData
import SwapArchive.Time.ZoneFiles
import SwapArchive.Proofs.Swap.LegOrder
import SwapArchive.Proofs.Monitor.TripThreshold
import SwapArchive.Proofs.Time.Gregorian
import SwapArchive.Proofs.Time.DateText
import SwapArchive.Proofs.Time.DateGrammar
import SwapArchive.Proofs.Http.ListingChecks
import SwapArchive.Proofs.Feed.RetryAttempts
import SwapArchive.Proofs.Number.DecimalText
import SwapArchive.Proofs.Swap.TimeFields
import SwapArchive.Proofs.Swap.AmountScale
import SwapArchive.Proofs.Ingest.ReconcileWindow
import SwapArchive.Proofs.Swap.AssetNames
import SwapArchive.Proofs.Monitor.InstrumentedRun
import SwapArchive.Proofs.Time.LocalDays
import SwapArchive.Proofs.Config.Validation
import SwapArchive.Proofs.Text.CleanBytes
import SwapArchive.Proofs.Schedule.Registration
