import LinkShelf.Agent.Deletion
import LinkShelf.Agent.Query
import LinkShelf.Command.Run
import LinkShelf.Exchange.File
import LinkShelf.Journal
import LinkShelf.Json.Display
import LinkShelf.Main
import LinkShelf.Model.Talk
import LinkShelf.Reach
import LinkShelf.Settings.Change
import LinkShelf.Settings.Load
import LinkShelf.Proofs.Text.Trim
import LinkShelf.Proofs.Text.Piece
import LinkShelf.Proofs.File.Disk
import LinkShelf.Proofs.File.Draft
import LinkShelf.Proofs.Json.Scalar
import LinkShelf.Proofs.Json.Spelling
import LinkShelf.Proofs.Json.Token
import LinkShelf.Proofs.Json.Grammar
import LinkShelf.Proofs.Json.Roundtrip
import LinkShelf.Proofs.Json.Display
import LinkShelf.Proofs.Store.Collection
import LinkShelf.Proofs.Store.Identity
import LinkShelf.Proofs.Store.Commit
import LinkShelf.Proofs.Store.Change
import LinkShelf.Proofs.Store.Write
import LinkShelf.Proofs.Store.Operation
import LinkShelf.Proofs.Store.Reach
import LinkShelf.Proofs.Store.AllOrNothing
import LinkShelf.Proofs.Bookmark.Duplicates
import LinkShelf.Proofs.Bookmark.Reread
import LinkShelf.Proofs.Bookmark.Imported
import LinkShelf.Proofs.Exchange.Reimport
import LinkShelf.Proofs.Store.Restart
import LinkShelf.Proofs.Plan.Selection
import LinkShelf.Proofs.Agent.Overtaking
import LinkShelf.Proofs.Agent.Effect
import LinkShelf.Proofs.Agent.Course
import LinkShelf.Proofs.Agent.Notice
import LinkShelf.Proofs.Agent.Following
import LinkShelf.Proofs.Number.Exact
import LinkShelf.Proofs.Number.Range
import LinkShelf.Proofs.Bookmark.Legible
import LinkShelf.Proofs.Store.Opening
import LinkShelf.Proofs.Model.Mask
import LinkShelf.Proofs.Model.Told
import LinkShelf.Proofs.Plan.Fence
import LinkShelf.Proofs.Plan.Reading
import LinkShelf.Proofs.Plan.Bare
import LinkShelf.Proofs.Plan.Listed
import LinkShelf.Proofs.Plan.Envelope
import LinkShelf.Proofs.Html.Escape
import LinkShelf.Proofs.Html.Tag
import LinkShelf.Proofs.Html.Markup
import LinkShelf.Proofs.Html.Build
import LinkShelf.Proofs.Netscape.Tree
import LinkShelf.Proofs.Netscape.Document
import LinkShelf.Proofs.Time.Calendar
import LinkShelf.Proofs.Time.Instant
import LinkShelf.Proofs.Time.UtcText
import LinkShelf.Proofs.Bookmark.Moment
import LinkShelf.Proofs.Netscape.Written
import LinkShelf.Proofs.Netscape.Roundtrip
import LinkShelf.Proofs.Agent.History
import LinkShelf.Proofs.Agent.Failure
import LinkShelf.Proofs.Sorting
import LinkShelf.Proofs.Plan.Unusable
import LinkShelf.Proofs.File.Refusal
import LinkShelf.Proofs.Store.Trouble
import LinkShelf.Proofs.Store.Unhindered
import LinkShelf.Proofs.Agent.SavedOrder
import LinkShelf.Proofs.Agent.Confirmation
import LinkShelf.Proofs.Agent.Deduplication
import LinkShelf.Proofs.Settings.Bounds
import LinkShelf.Proofs.Settings.Loading
import LinkShelf.Proofs.Store.Announcement
import LinkShelf.Proofs.Store.Registration
import LinkShelf.Proofs.Model.Accounting
import LinkShelf.Proofs.Paired
import LinkShelf.Proofs.Store.Alike
import LinkShelf.Proofs.Agent.Discretion
import LinkShelf.Proofs.Stable
import LinkShelf.Proofs.Plan.Rearranged
import LinkShelf.Proofs.Plan.Arranged
import LinkShelf.Proofs.Agent.SavedView
import LinkShelf.Proofs.Model.Listing
import LinkShelf.Proofs.Netscape.Nested
import LinkShelf.Proofs.Plan.Stacked
import LinkShelf.Proofs.Agent.Stacking
import LinkShelf.Proofs.Plan.Fenced
import LinkShelf.Proofs.Store.Reordered
import LinkShelf.Proofs.Store.Turns
import LinkShelf.Proofs.Netscape.Dated
import LinkShelf.Proofs.Text.Lowered
import LinkShelf.Proofs.Plan.Literal
import LinkShelf.Proofs.Time.Elapsed
import LinkShelf.Proofs.Bookmark.WrittenTime
import LinkShelf.Proofs.Bookmark.Chronological
import LinkShelf.Proofs.Settings.Renewed
import LinkShelf.Proofs.Settings.Layered
import LinkShelf.Proofs.Bookmark.Resorted
import LinkShelf.Proofs.Model.Waiting
