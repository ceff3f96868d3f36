import FlowDraft.Decimal.Binary
import FlowDraft.Decimal.Entered
import FlowDraft.Decimal.Fixed
import FlowDraft.Decimal.Layout
import FlowDraft.Decimal.Numeral
import FlowDraft.Decimal.Shortest
import FlowDraft.Draft.Drafter
import FlowDraft.Example.Document
import FlowDraft.Example.Rank
import FlowDraft.Fault
import FlowDraft.Http.Framework
import FlowDraft.Http.Request
import FlowDraft.Http.Response
import FlowDraft.Http.Router
import FlowDraft.Http.Site
import FlowDraft.Http.Target
import FlowDraft.Json.Basic
import FlowDraft.Json.Display
import FlowDraft.Json.Finite
import FlowDraft.Json.Levels
import FlowDraft.Json.Position
import FlowDraft.Json.Reader
import FlowDraft.Json.Token
import FlowDraft.Json.Writer
import FlowDraft.Label.Keywords
import FlowDraft.Label.Profile
import FlowDraft.Label.Set
import FlowDraft.Log
import FlowDraft.Main
import FlowDraft.Model.Chat
import FlowDraft.Model.Invoke
import FlowDraft.Model.Options
import FlowDraft.Model.Service
import FlowDraft.Prompt.Instruction
import FlowDraft.Prompt.Preview
import FlowDraft.Prompt.References
import FlowDraft.Prompt.Request
import FlowDraft.Proofs.Binary64.Amount
import FlowDraft.Proofs.Binary64.Integer
import FlowDraft.Proofs.Binary64.Magnitude
import FlowDraft.Proofs.Binary64.Order
import FlowDraft.Proofs.Binary64.Rounding
import FlowDraft.Proofs.Decimal.Bare
import FlowDraft.Proofs.Draft.Fallbacks
import FlowDraft.Proofs.Draft.Outcome
import FlowDraft.Proofs.Draft.Traces
import FlowDraft.Proofs.Draft.Unreferenced
import FlowDraft.Proofs.Example.Enlarged
import FlowDraft.Proofs.Example.Rank
import FlowDraft.Proofs.Http.Drafting
import FlowDraft.Proofs.Http.Traces
import FlowDraft.Proofs.Json.Characters
import FlowDraft.Proofs.Json.Crossing
import FlowDraft.Proofs.Json.Displayed
import FlowDraft.Proofs.Json.Finite
import FlowDraft.Proofs.Json.Grammar
import FlowDraft.Proofs.Json.Indented
import FlowDraft.Proofs.Json.Inside
import FlowDraft.Proofs.Json.Lexeme
import FlowDraft.Proofs.Json.Mapped
import FlowDraft.Proofs.Json.Numbers
import FlowDraft.Proofs.Json.Parsing
import FlowDraft.Proofs.Json.RoundTrip
import FlowDraft.Proofs.Json.Scan
import FlowDraft.Proofs.Json.Texts
import FlowDraft.Proofs.Json.Word
import FlowDraft.Proofs.Label.Stored
import FlowDraft.Proofs.Label.Within
import FlowDraft.Proofs.Model.Attempts
import FlowDraft.Proofs.Model.Chain
import FlowDraft.Proofs.Model.Clients
import FlowDraft.Proofs.Model.Groups
import FlowDraft.Proofs.Model.Overflow
import FlowDraft.Proofs.Model.Retry
import FlowDraft.Proofs.Model.Stage
import FlowDraft.Proofs.Prompt.Bounded
import FlowDraft.Proofs.Prompt.Excerpt
import FlowDraft.Proofs.Prompt.PreviewLines
import FlowDraft.Proofs.Prompt.Shown
import FlowDraft.Proofs.Reply.Degraded
import FlowDraft.Proofs.Reply.Extract
import FlowDraft.Proofs.Reply.Fence
import FlowDraft.Proofs.Reply.Finite
import FlowDraft.Proofs.Reply.Normal
import FlowDraft.Proofs.Reply.Parts
import FlowDraft.Proofs.Reply.Reading
import FlowDraft.Proofs.Retrieval.Limit
import FlowDraft.Proofs.Retrieval.Search
import FlowDraft.Proofs.Sample.Catalogue
import FlowDraft.Proofs.Sample.Indexed
import FlowDraft.Proofs.Sample.Loaded
import FlowDraft.Proofs.Settings.Origins
import FlowDraft.Proofs.Sorting.Raised
import FlowDraft.Proofs.Sorting.Stable
import FlowDraft.Proofs.Store.Bag
import FlowDraft.Proofs.Store.History
import FlowDraft.Proofs.Store.Scaled
import FlowDraft.Proofs.Store.Shared
import FlowDraft.Proofs.Text.Cut
import FlowDraft.Proofs.Text.Index
import FlowDraft.Proofs.Text.Lines
import FlowDraft.Proofs.Text.Lowered
import FlowDraft.Proofs.Text.Part
import FlowDraft.Proofs.Text.Tokens
import FlowDraft.Proofs.Text.Trimmed
import FlowDraft.Proofs.Text.Words
import FlowDraft.Proofs.Trace.HighLatency
import FlowDraft.Proofs.Trace.Recent
import FlowDraft.Proofs.Trace.Retention
import FlowDraft.Proofs.Workflow.Modernized
import FlowDraft.Proofs.Workflow.Settled
import FlowDraft.Reply.Action
import FlowDraft.Reply.Extract
import FlowDraft.Reply.Suggestion
import FlowDraft.Retrieval.Options
import FlowDraft.Retrieval.Search
import FlowDraft.Sample.Basic
import FlowDraft.Sample.Bundled
import FlowDraft.Sample.Load
import FlowDraft.Seed.Arguments
import FlowDraft.Seed.Basic
import FlowDraft.Seed.Command
import FlowDraft.Settings.Environment
import FlowDraft.Settings.Field
import FlowDraft.Settings.Origins
import FlowDraft.Settings.WholeText
import FlowDraft.Slice
import FlowDraft.Sorting
import FlowDraft.Sorting.Merge
import FlowDraft.Sorting.Place
import FlowDraft.Sorting.Runs
import FlowDraft.Store.Collection
import FlowDraft.Store.CollectionOptions
import FlowDraft.Store.Digest
import FlowDraft.Store.Embedding
import FlowDraft.Store.Handle
import FlowDraft.Store.Memory
import FlowDraft.Text.Blank
import FlowDraft.Text.Bytes
import FlowDraft.Text.CaseTable
import FlowDraft.Text.Digit
import FlowDraft.Text.DigitTable
import FlowDraft.Text.Letter
import FlowDraft.Text.Lower
import FlowDraft.Text.Pattern
import FlowDraft.Text.PrintableTable
import FlowDraft.Text.Quoted
import FlowDraft.Text.Search
import FlowDraft.Text.Span
import FlowDraft.Text.Word
import FlowDraft.Text.WordTable
import FlowDraft.Trace.Metrics
import FlowDraft.Trace.Record
import FlowDraft.Trace.Store
import FlowDraft.Workflow.ConditionId
import FlowDraft.Workflow.Conditions
import FlowDraft.Workflow.Snapshot
