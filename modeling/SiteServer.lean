import SiteServer.Concurrency.HandlePool
import SiteServer.Concurrency.Semaphore
import SiteServer.Concurrency.WorkerPool
import SiteServer.Config.Load
import SiteServer.Http.Connection
import SiteServer.Http.Form
import SiteServer.Http.Reply
import SiteServer.KeyTable
import SiteServer.Main
import SiteServer.Server.Listen
import SiteServer.Server.Rehearsal
import SiteServer.Server.Round
import SiteServer.Store.Session
import SiteServer.Url.Parser
import SiteServer.Proofs.Concurrency.Handles
import SiteServer.Proofs.Concurrency.Jobs
import SiteServer.Proofs.Concurrency.Wakeups
import SiteServer.Proofs.Http.Cursors
import SiteServer.Proofs.Http.Splitting
import SiteServer.Proofs.Http.Sending
import SiteServer.Proofs.Server.Operations
import SiteServer.Proofs.Server.Retention
import SiteServer.Proofs.Server.Discipline
import SiteServer.Proofs.Server.OneShot
import SiteServer.Proofs.Http.Framing
import SiteServer.Proofs.Http.Lines
import SiteServer.Proofs.Http.Grammar
import SiteServer.Proofs.DeadlineList.Handles
import SiteServer.Server.History
import SiteServer.Proofs.Http.Exchange
import SiteServer.Proofs.Server.Answers
import SiteServer.Proofs.Server.Notices
import SiteServer.Proofs.Store.Agreement
import SiteServer.Proofs.Store.Appending
import SiteServer.Server.Activity
import SiteServer.Proofs.DeadlineList.Extent
import SiteServer.Proofs.Server.Idleness
import SiteServer.Proofs.Http.Actions
import SiteServer.Proofs.Http.Confinement
import SiteServer.Proofs.Http.Receipts
import SiteServer.Proofs.Http.Independence
import SiteServer.Proofs.Http.Room
import SiteServer.Proofs.Url.Plain
import SiteServer.Proofs.Http.Forms
import SiteServer.Http.Dispatch
import SiteServer.Proofs.Http.Failures
import SiteServer.Proofs.Http.Queries
import SiteServer.Proofs.DeadlineList.Payloads
import SiteServer.Http.Announcement
import SiteServer.Proofs.Http.Announcements
import SiteServer.Proofs.Server.Promises
import SiteServer.Proofs.Http.Intake
import SiteServer.Proofs.Concurrency.Dismissal
import SiteServer.Proofs.Server.Backlog
import SiteServer.Proofs.Http.Credentials
import SiteServer.DeadlineList.Way
import SiteServer.Proofs.DeadlineList.Soundness
import SiteServer.Http.Bounds
import SiteServer.Proofs.Http.Bounds
