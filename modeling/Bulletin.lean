import Bulletin.Main
import Bulletin.Sql.Client
import Bulletin.Sql.Database
import Bulletin.Store.Fault
import Bulletin.Store.History
import Bulletin.Store.Tidy
import Bulletin.Store.Turns
import Bulletin.View.Judgement
import Bulletin.View.Given
import Bulletin.Service.ReadBack
import Bulletin.Service.Concurrent
import Bulletin.Proofs.Store.Table
import Bulletin.Proofs.Store.Sound
import Bulletin.Proofs.Store.Replay
import Bulletin.Proofs.Store.Fresh
import Bulletin.Proofs.Store.Timeless
import Bulletin.Proofs.Store.Turns
import Bulletin.Proofs.View.Judged
import Bulletin.Proofs.View.Given
import Bulletin.Proofs.Time.Years
import Bulletin.Proofs.Service.Eval
import Bulletin.Proofs.Service.Shown
import Bulletin.Proofs.Service.Writable
import Bulletin.Proofs.Service.Settled
import Bulletin.Proofs.Service.Unchanged
import Bulletin.Proofs.Service.Reachable
import Bulletin.Proofs.Service.Path
import Bulletin.Proofs.Service.ReadBack
import Bulletin.Proofs.Service.Guarded
import Bulletin.Proofs.Service.Overtaken
import Bulletin.Proofs.Service.Alike
import Bulletin.Proofs.Service.Timeless
import Bulletin.Proofs.Sql.Kept
import Bulletin.Proofs.Sql.Answer
import Bulletin.Proofs.Sql.Users
import Bulletin.Proofs.Sql.Posts
import Bulletin.Proofs.Sql.Fit
import Bulletin.Proofs.Sql.Interchange
import Bulletin.Proofs.View.Tidy
import Bulletin.Proofs.Service.Tidy
import Bulletin.Proofs.Service.Unseen
import Bulletin.Proofs.Sql.Orderly
import Bulletin.Proofs.Service.Truthful
import Bulletin.Proofs.Time.Days
import Bulletin.Proofs.Time.Rfc3339
import Bulletin.Proofs.Json.Literal
import Bulletin.Proofs.Json.Scalar
import Bulletin.Proofs.Json.Record
import Bulletin.Proofs.View.Wire
import Bulletin.Proofs.Json.Document
import Bulletin.Proofs.View.SentBack
import Bulletin.Proofs.Service.SentBack
import Bulletin.Service.Catalogue
import Bulletin.Proofs.Service.Catalogue
import Bulletin.Service.Gone
import Bulletin.Proofs.Store.Spent
import Bulletin.Proofs.Service.Gone
import Bulletin.Service.Reported
import Bulletin.Proofs.Service.Reported
import Bulletin.Service.Directory
import Bulletin.Proofs.Service.Directory
import Bulletin.Proofs.Store.Promised
import Bulletin.Store.Kind
import Bulletin.Proofs.Store.Timely
import Bulletin.View.Union
import Bulletin.Proofs.View.Union
import Bulletin.Service.Combined
import Bulletin.Proofs.Service.Changed
import Bulletin.Proofs.Service.Combined
import Bulletin.Sql.Received
import Bulletin.Proofs.Sql.Received
import Bulletin.Service.Received
import Bulletin.Proofs.Service.Received
import Bulletin.Service.Lookup
import Bulletin.Proofs.Service.Lookup
import Bulletin.Service.Attributed
import Bulletin.Proofs.Service.Attributed
import Bulletin.Service.Staged
import Bulletin.Proofs.Service.Staged
import Bulletin.Service.Refused
import Bulletin.Proofs.Sql.Refused
import Bulletin.Proofs.Service.Refused
import Bulletin.Proofs.Json.Natural
import Bulletin.Proofs.Service.Identity
import Bulletin.Proofs.Json.Narrowed
import Bulletin.View.Plain
import Bulletin.Proofs.View.Email
import Bulletin.View.Taking
import Bulletin.Proofs.View.FieldErrors
import Bulletin.Proofs.Text.Order
import Bulletin.View.Grouped
import Bulletin.Proofs.View.Grouped
