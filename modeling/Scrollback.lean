import Scrollback.Batch
import Scrollback.CharSet
import Scrollback.Codec.Decode
import Scrollback.Codec.Encode
import Scrollback.Codec.Error
import Scrollback.Codec.Format
import Scrollback.Codec.Machine
import Scrollback.CommandLine.Error
import Scrollback.CommandLine.Form
import Scrollback.CommandLine.Invocation
import Scrollback.CommandLine.Request
import Scrollback.CommandLine.Session
import Scrollback.CommandLine.Usage
import Scrollback.Disk.Basic
import Scrollback.Disk.Error
import Scrollback.Disk.Path
import Scrollback.Disk.Snapshot
import Scrollback.Fetch.Basic
import Scrollback.Fetch.Error
import Scrollback.Fetch.Network
import Scrollback.Fetch.Question
import Scrollback.Fetch.Stage
import Scrollback.Json.Basic
import Scrollback.Json.Reader
import Scrollback.Json.Writer
import Scrollback.Log.Basic
import Scrollback.Log.Grammar
import Scrollback.Log.Id
import Scrollback.Log.Json
import Scrollback.Log.Line
import Scrollback.Log.Span
import Scrollback.Main
import Scrollback.Matcher
import Scrollback.Paste
import Scrollback.Pattern.Class
import Scrollback.Pattern.Escape
import Scrollback.Pattern.Expr
import Scrollback.Pattern.Flags
import Scrollback.Pattern.Look
import Scrollback.Pattern.Parser
import Scrollback.Pattern.Program
import Scrollback.Pattern.Search
import Scrollback.Pattern.Size
import Scrollback.Query.Basic
import Scrollback.Query.Lookup
import Scrollback.Query.Run
import Scrollback.Recency.Basic
import Scrollback.Recency.Slab
import Scrollback.Recency.Memory
import Scrollback.Service
import Scrollback.Settings.Basic
import Scrollback.Settings.Error
import Scrollback.Settings.File
import Scrollback.Settings.Merge
import Scrollback.Settings.OfJson
import Scrollback.Settings.Value
import Scrollback.Store.Basic
import Scrollback.Store.Copy
import Scrollback.Store.Error
import Scrollback.Store.Index
import Scrollback.Targets
import Scrollback.Text.Binary64
import Scrollback.Text.Blank
import Scrollback.Text.Decimal
import Scrollback.Text.Quoted
import Scrollback.Text.Utf8
import Scrollback.Time.Date
import Scrollback.Time.Error
import Scrollback.Time.Instant
import Scrollback.Time.Month
import Scrollback.Time.Period
import Scrollback.Time.Point
import Scrollback.Time.Stamp
import Scrollback.Toml.Quoted
import Scrollback.Toml.Reader
import Scrollback.Toml.Scalar
import Scrollback.Toml.Table
import Scrollback.Total
import Scrollback.Unicode.Binary
import Scrollback.Unicode.CaseFold
import Scrollback.Unicode.Category
import Scrollback.Unicode.Property
import Scrollback.Unicode.Script
import Scrollback.Yaml.Block
import Scrollback.Yaml.Flow
import Scrollback.Yaml.Scalar
import Scrollback.Proofs.Outcome
import Scrollback.Proofs.Decimal
import Scrollback.Proofs.Text
import Scrollback.Proofs.Codec.Number
import Scrollback.Proofs.Log.Names
import Scrollback.Proofs.Codec.Reading
import Scrollback.Proofs.Codec.Fields
import Scrollback.Proofs.Codec.Encoder
import Scrollback.Proofs.Codec.Writing
import Scrollback.Proofs.Codec.Decoded
import Scrollback.Proofs.Codec.Machine
import Scrollback.Proofs.Codec.Overflow
import Scrollback.Proofs.Codec.Layout
import Scrollback.Proofs.Log.Obtained
import Scrollback.Proofs.Log.Parsed
import Scrollback.Proofs.Codec.RoundTrip
import Scrollback.Proofs.Codec.Size
import Scrollback.Proofs.Log.Spans
import Scrollback.Proofs.Log.Lines
import Scrollback.Proofs.Time.Written
import Scrollback.Proofs.Log.Written
import Scrollback.Proofs.Codec.Canonical
import Scrollback.Proofs.Codec.Places
import Scrollback.Proofs.Codec.Truncation
import Scrollback.Proofs.Recency.Basic
import Scrollback.Proofs.Recency.Chain
import Scrollback.Proofs.Recency.Strict
import Scrollback.Proofs.Recency.Residents
import Scrollback.Proofs.Recency.Refinement
import Scrollback.Proofs.Recency.Inclusion
import Scrollback.Proofs.Disk.Path
import Scrollback.Proofs.Store.FileName
import Scrollback.Proofs.Json.RoundTrip
import Scrollback.Proofs.Store.Index
import Scrollback.Proofs.Disk.Frame
import Scrollback.Proofs.Disk.Rooted
import Scrollback.Proofs.Store.Copy
import Scrollback.Proofs.Store.Tracking
import Scrollback.Proofs.Store.Sound
import Scrollback.Proofs.Store.Operations
import Scrollback.Proofs.Store.Persistent
import Scrollback.Proofs.Batch.Course
import Scrollback.Proofs.Batch.Shared
import Scrollback.Proofs.Fetch.Delivery
import Scrollback.Proofs.Query.Gathering
import Scrollback.Proofs.Query.Answers
import Scrollback.Proofs.Store.Origin
import Scrollback.Proofs.Query.Turns
import Scrollback.Proofs.Query.Services
import Scrollback.Proofs.Query.Kept
import Scrollback.Proofs.Store.Refusal
import Scrollback.Proofs.Store.Mode
import Scrollback.Proofs.Store.Trusted
import Scrollback.Proofs.Store.Batching
import Scrollback.Proofs.Store.Looking
import Scrollback.Proofs.Store.Removal
import Scrollback.Proofs.Time.Calendar
import Scrollback.Proofs.Time.Enumeration
import Scrollback.Proofs.Targets
import Scrollback.Proofs.Query.Reloaded
import Scrollback.Proofs.Query.Order
import Scrollback.Proofs.Query.Transcript
import Scrollback.Proofs.Query.Agreement
import Scrollback.Proofs.Pattern.Whole
import Scrollback.Proofs.Occurrences
import Scrollback.Proofs.Time.Point
import Scrollback.Proofs.Fetch.Paths
import Scrollback.Proofs.Recency.Slots
import Scrollback.Proofs.Store.Image
import Scrollback.Proofs.Store.OverSlab
