import ConferenceSync.Agenda.Block
import ConferenceSync.Agenda.Color
import ConferenceSync.Agenda.Identity
import ConferenceSync.Agenda.Kind
import ConferenceSync.Agenda.PerTable
import ConferenceSync.Agenda.Record
import ConferenceSync.Agenda.Session
import ConferenceSync.Agenda.Speaker
import ConferenceSync.Agenda.Topic
import ConferenceSync.Agenda.Venue
import ConferenceSync.Agenda.Video
import ConferenceSync.CommandLine
import ConferenceSync.Dict
import ConferenceSync.Digest.Blake3
import ConferenceSync.Digest.Fingerprint
import ConferenceSync.Digest.UrlKey
import ConferenceSync.Error
import ConferenceSync.Fetch.Body
import ConferenceSync.Fetch.Cache
import ConferenceSync.Fetch.Cycle
import ConferenceSync.Fetch.FileTree
import ConferenceSync.Fetch.Manifest
import ConferenceSync.Fetch.Settings
import ConferenceSync.Gzip.Checksum
import ConferenceSync.Gzip.Huffman
import ConferenceSync.Gzip.Inflate
import ConferenceSync.Gzip.Member
import ConferenceSync.Import.DataSet
import ConferenceSync.Import.Diff
import ConferenceSync.Import.Indexes
import ConferenceSync.Import.Mutation
import ConferenceSync.Import.Plan
import ConferenceSync.Import.Stats
import ConferenceSync.Json.Fields
import ConferenceSync.Json.Lexer
import ConferenceSync.Json.Reader
import ConferenceSync.Json.Value
import ConferenceSync.Json.Writer
import ConferenceSync.Main
import ConferenceSync.Number.Binary64
import ConferenceSync.Number.Decimal
import ConferenceSync.Proofs.AllOrNothing
import ConferenceSync.Proofs.AttendeeSchedule
import ConferenceSync.Proofs.Backoff
import ConferenceSync.Proofs.BatchOrder
import ConferenceSync.Proofs.BlockIds
import ConferenceSync.Proofs.CacheInStep
import ConferenceSync.Proofs.CacheInterchange
import ConferenceSync.Proofs.CacheOrigin
import ConferenceSync.Proofs.Calendar
import ConferenceSync.Proofs.Cancellation
import ConferenceSync.Proofs.Chronicle
import ConferenceSync.Proofs.CivilTimes
import ConferenceSync.Proofs.Classification
import ConferenceSync.Proofs.Colors
import ConferenceSync.Proofs.Comparison
import ConferenceSync.Proofs.ConditionalRequests
import ConferenceSync.Proofs.Contents
import ConferenceSync.Proofs.Convergence
import ConferenceSync.Proofs.CoordinateText
import ConferenceSync.Proofs.DateWords
import ConferenceSync.Proofs.DayCount
import ConferenceSync.Proofs.DerivedColumns
import ConferenceSync.Proofs.Dict
import ConferenceSync.Proofs.Elements
import ConferenceSync.Proofs.FailureCount
import ConferenceSync.Proofs.FetchRun
import ConferenceSync.Proofs.Fingerprints
import ConferenceSync.Proofs.Healing
import ConferenceSync.Proofs.HttpDates
import ConferenceSync.Proofs.ImportRun
import ConferenceSync.Proofs.IndexSimulation
import ConferenceSync.Proofs.JsonNumbers
import ConferenceSync.Proofs.LinkRun
import ConferenceSync.Proofs.LowerCase
import ConferenceSync.Proofs.MailDates
import ConferenceSync.Proofs.Mirrors
import ConferenceSync.Proofs.Moments
import ConferenceSync.Proofs.Notes
import ConferenceSync.Proofs.PassCourse
import ConferenceSync.Proofs.PassEffect
import ConferenceSync.Proofs.PassRun
import ConferenceSync.Proofs.Patterns
import ConferenceSync.Proofs.Persistence
import ConferenceSync.Proofs.PlanAccounts
import ConferenceSync.Proofs.Preservation
import ConferenceSync.Proofs.Rearrangement
import ConferenceSync.Proofs.RecordFields
import ConferenceSync.Proofs.Recovery
import ConferenceSync.Proofs.Reload
import ConferenceSync.Proofs.Rendering
import ConferenceSync.Proofs.Respelling
import ConferenceSync.Proofs.Rounding
import ConferenceSync.Proofs.SearchIndex
import ConferenceSync.Proofs.Searching
import ConferenceSync.Proofs.SeedOnce
import ConferenceSync.Proofs.SessionRecords
import ConferenceSync.Proofs.ShortestDecimal
import ConferenceSync.Proofs.Slugs
import ConferenceSync.Proofs.SortedIds
import ConferenceSync.Proofs.SyncRun
import ConferenceSync.Proofs.TableRun
import ConferenceSync.Proofs.TagFilter
import ConferenceSync.Proofs.Timestamps
import ConferenceSync.Proofs.Transcript
import ConferenceSync.Proofs.Turns
import ConferenceSync.Proofs.UnreadableIndex
import ConferenceSync.Proofs.Watching
import ConferenceSync.Proofs.WholeNumbers
import ConferenceSync.Proofs.WrittenDates
import ConferenceSync.Rehearsal.Play
import ConferenceSync.Rehearsal.Stage
import ConferenceSync.Store.Commit
import ConferenceSync.Store.Database
import ConferenceSync.Store.Dump
import ConferenceSync.Store.Metadata
import ConferenceSync.Store.Plan
import ConferenceSync.Store.Query
import ConferenceSync.Store.Row
import ConferenceSync.Store.Schedule
import ConferenceSync.Store.Search
import ConferenceSync.Sync.Pass
import ConferenceSync.Sync.Periodic
import ConferenceSync.Sync.Policy
import ConferenceSync.Sync.Report
import ConferenceSync.Sync.Settings
import ConferenceSync.Text.Alphanumeric
import ConferenceSync.Text.Blank
import ConferenceSync.Text.Case
import ConferenceSync.Text.Digits
import ConferenceSync.Text.Hexadecimal
import ConferenceSync.Text.Mark
import ConferenceSync.Text.Pattern
import ConferenceSync.Text.Printable
import ConferenceSync.Text.Quoted
import ConferenceSync.Text.Ranges
import ConferenceSync.Text.Slug
import ConferenceSync.Text.Split
import ConferenceSync.Text.Units
import ConferenceSync.Time.Civil
import ConferenceSync.Time.Duration
import ConferenceSync.Time.HttpDate
import ConferenceSync.Time.Scan
import ConferenceSync.Time.Timestamp
import ConferenceSync.Url.Address
import ConferenceSync.Url.Basic
import ConferenceSync.Url.Domain.Combining
import ConferenceSync.Url.Domain.Direction
import ConferenceSync.Url.Domain.Fold
import ConferenceSync.Url.Domain.Joiner
import ConferenceSync.Url.Domain.Name
import ConferenceSync.Url.Escape
import ConferenceSync.Url.Host
import ConferenceSync.Url.Path
import ConferenceSync.Url.Punycode
import ConferenceSync.World.Basic
import ConferenceSync.World.Import
import ConferenceSync.World.Observer
