import QrCommandCenter.Store.Fencing
import QrCommandCenter.Store.Pointer
import QrCommandCenter.Store.Permits
import QrCommandCenter.Store.Pause
import QrCommandCenter.Warwick.FastPath
import QrCommandCenter.Scraper.Reconcile
import QrCommandCenter.Scraper.Flight
import QrCommandCenter.Service.Resume
import QrCommandCenter.Scraper.Serving
import QrCommandCenter.Scraper.Listing
import QrCommandCenter.Service.CheckinOnce
import QrCommandCenter.Service.CheckinLock
import QrCommandCenter.Service.CheckinReplay
import QrCommandCenter.Service.CheckinObserved
import QrCommandCenter.Service.CheckinEffect
import QrCommandCenter.Service.CheckinConnections
import QrCommandCenter.Service.BoundedJobs
import QrCommandCenter.Service.Enrichment
import QrCommandCenter.Service.Envelope
import QrCommandCenter.Rooms.Locks
import QrCommandCenter.Rooms.Occupancy
import QrCommandCenter.Rooms.Stopped
import QrCommandCenter.Rooms.RoundTrip
import QrCommandCenter.Rooms.Persistence
import QrCommandCenter.Rooms.QrLifetime
import QrCommandCenter.Rooms.Convergence
import QrCommandCenter.Store.Batch
import QrCommandCenter.Store.Columns
import QrCommandCenter.Scraper.Runs
import QrCommandCenter.Scraper.Intervals
import QrCommandCenter.Scraper.Failures
import QrCommandCenter.Scraper.Freshness
import QrCommandCenter.Store.Retention
import QrCommandCenter.Scraper.Replay
import QrCommandCenter.Store.Listing
import QrCommandCenter.Web.SnapshotEvents
import QrCommandCenter.Web.Queries
import QrCommandCenter.Web.CsvExport
import QrCommandCenter.Web.FilterParams
import QrCommandCenter.Warwick.LoginFailures
import QrCommandCenter.Warwick.RetryAfter
import QrCommandCenter.Warwick.ReaderAgreement
import QrCommandCenter.Warwick.ProfileInterrupts
import QrCommandCenter.Warwick.ForcedRefresh
import QrCommandCenter.Api.AttendanceCsv
import QrCommandCenter.Api.ExportFilename
import QrCommandCenter.Service.DashboardOrder
import QrCommandCenter.Scraper.Watchdog
import QrCommandCenter.Scraper.Heartbeat
