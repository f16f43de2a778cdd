import Clearance.Text.Ranges
import Clearance.Text.Blank
import Clearance.Text.WordChar
import Clearance.Text.Lowercase
import Clearance.Text.Casefold
import Clearance.Text.Lower
import Clearance.Text.Literal
import Clearance.Text.Numeral
import Clearance.Text.Occurrence
import Clearance.Word.Finding
import Clearance.Word.Morphology
import Clearance.Commodity.Classification
import Clearance.Commodity.Catalogue
import Clearance.Parcel.Basic
import Clearance.Parcel.Priority
import Clearance.Monitor
import Clearance.Paging.SortField
import Clearance.Settings
import Clearance.Parcel.Register
import Clearance.Job.Basic
import Clearance.Store.Deletion
import Clearance.Screening.Loading
import Clearance.Paging.Next
import Clearance.Job.Run
import Clearance.Job.Progress
import Clearance.CommandLine.ScreenRegister
import Clearance.Service.Serve
import Clearance.Main
import Clearance.Proofs.Paging.Order
import Clearance.Proofs.Paging.Walk
import Clearance.Proofs.Commodity.Classification
import Clearance.Proofs.Commodity.CodeValue
import Clearance.Proofs.Commodity.Scan
import Clearance.Proofs.Commodity.Range
import Clearance.Proofs.Store.Soundness
import Clearance.Proofs.Text.Tokens
import Clearance.Proofs.Text.Occurrence
import Clearance.Proofs.Word.Finding
import Clearance.Proofs.Word.Phrase
import Clearance.Proofs.Word.Whole
import Clearance.Proofs.Word.Relaxation
import Clearance.Proofs.Word.Merging
import Clearance.Proofs.Word.Buckets
import Clearance.Proofs.Screening.Full
import Clearance.Proofs.Job.Record
import Clearance.Proofs.Screening.Loading
import Clearance.Proofs.Job.Worker
import Clearance.Proofs.Job.Settled
import Clearance.Proofs.Job.Interleaving
import Clearance.Proofs.Job.Running
import Clearance.Proofs.Job.Visit
import Clearance.Proofs.Job.Request
import Clearance.Proofs.Service.Start
import Clearance.Proofs.Service.Settled
import Clearance.Proofs.Session.Freshness
import Clearance.Proofs.Job.Flight
import Clearance.Proofs.Job.Counting
import Clearance.Proofs.Job.Completion
import Clearance.Proofs.Paging.Journey
import Clearance.Proofs.Paging.Successor
import Clearance.Proofs.Screening.Halves
import Clearance.Proofs.Job.Front
import Clearance.Proofs.Job.Stopping
import Clearance.Proofs.Job.Cancellation
import Clearance.Proofs.Job.Pending
import Clearance.Proofs.Screening.Whole
import Clearance.Proofs.Service.Amid
import Clearance.Proofs.Session.Amid
import Clearance.Proofs.Session.Ascent
import Clearance.Proofs.Session.Repetition
import Clearance.Proofs.Store.Rows
import Clearance.Proofs.Session.Tally
import Clearance.Proofs.Service.Tally
import Clearance.Proofs.Screening.Reflection
import Clearance.Proofs.Store.Links
import Clearance.Proofs.Store.Dependency
import Clearance.Proofs.Service.References
import Clearance.Proofs.Session.Accord
import Clearance.Proofs.Job.Accord
import Clearance.Proofs.Screening.Apart
import Clearance.Proofs.Service.Outages
import Clearance.Proofs.Text.Numeral
import Clearance.Proofs.Commodity.Storable
import Clearance.Proofs.Job.Spelling
import Clearance.Proofs.Parcel.Priority
import Clearance.Proofs.CommandLine.Report
