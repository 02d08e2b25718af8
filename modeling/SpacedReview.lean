import SpacedReview.Card.Filter
import SpacedReview.Card.Id
import SpacedReview.Card.Kind
import SpacedReview.CommandLine.Arguments
import SpacedReview.CommandLine.Run
import SpacedReview.Config
import SpacedReview.Digest.Blake3
import SpacedReview.Digest.Hex
import SpacedReview.Failure
import SpacedReview.Json.Read
import SpacedReview.Json.Relaxed
import SpacedReview.Json.Value
import SpacedReview.Main
import SpacedReview.Proofs.Card.Identity
import SpacedReview.Proofs.Configuration
import SpacedReview.Proofs.Json.RoundTrip
import SpacedReview.Proofs.Query.Asking
import SpacedReview.Proofs.Query.Broken
import SpacedReview.Proofs.Query.Characters
import SpacedReview.Proofs.Query.Compiling
import SpacedReview.Proofs.Query.Faults
import SpacedReview.Proofs.Query.Grammar
import SpacedReview.Proofs.Query.Groups
import SpacedReview.Proofs.Query.Juxtaposition
import SpacedReview.Proofs.Query.Meaning
import SpacedReview.Proofs.Query.Occurrences
import SpacedReview.Proofs.Query.Printing
import SpacedReview.Proofs.Query.Reading
import SpacedReview.Proofs.Query.Trees
import SpacedReview.Proofs.Query.Warnings
import SpacedReview.Proofs.Results
import SpacedReview.Proofs.Review.Interleaving
import SpacedReview.Proofs.Review.Lead
import SpacedReview.Proofs.Review.Marks
import SpacedReview.Proofs.Review.Statistics
import SpacedReview.Proofs.Review.Summary
import SpacedReview.Proofs.Review.Tables
import SpacedReview.Proofs.Sql.Binding
import SpacedReview.Proofs.Sql.Conditions
import SpacedReview.Proofs.Sql.Containment
import SpacedReview.Proofs.Sql.Expression
import SpacedReview.Proofs.Sql.Independence
import SpacedReview.Proofs.Sql.Rendering
import SpacedReview.Proofs.Sql.Trees
import SpacedReview.Proofs.Store.Additions
import SpacedReview.Proofs.Store.Atomicity
import SpacedReview.Proofs.Store.Combining
import SpacedReview.Proofs.Store.Concurrency
import SpacedReview.Proofs.Store.Due
import SpacedReview.Proofs.Store.FailedAdditions
import SpacedReview.Proofs.Store.History
import SpacedReview.Proofs.Store.Interchange
import SpacedReview.Proofs.Store.Isolation
import SpacedReview.Proofs.Store.Learning
import SpacedReview.Proofs.Store.Limits
import SpacedReview.Proofs.Store.Marking
import SpacedReview.Proofs.Store.Merging
import SpacedReview.Proofs.Store.Numbers
import SpacedReview.Proofs.Store.Parts
import SpacedReview.Proofs.Store.Records
import SpacedReview.Proofs.Store.Remembering
import SpacedReview.Proofs.Store.Rows
import SpacedReview.Proofs.Store.Safety
import SpacedReview.Proofs.Store.Search
import SpacedReview.Proofs.Store.Terms
import SpacedReview.Proofs.Store.Texts
import SpacedReview.Proofs.Store.Upsert
import SpacedReview.Proofs.Text.ByteOrder
import SpacedReview.Proofs.Text.Padded
import SpacedReview.Proofs.Time.Calendar
import SpacedReview.Proofs.Time.Moving
import SpacedReview.Proofs.Time.Order
import SpacedReview.Proofs.Time.Reading
import SpacedReview.Query.Condition
import SpacedReview.Query.Group
import SpacedReview.Query.Predicate
import SpacedReview.Query.Schema
import SpacedReview.Query.Term
import SpacedReview.Query.Token
import SpacedReview.Review.Levels
import SpacedReview.Review.Outcome
import SpacedReview.Review.Record
import SpacedReview.Review.Scheduler
import SpacedReview.Review.Stored
import SpacedReview.Sql.Fragment
import SpacedReview.Sql.Like
import SpacedReview.Sql.ParseTree
import SpacedReview.Sql.Plan
import SpacedReview.Sql.Test
import SpacedReview.Sql.Truth
import SpacedReview.Sql.Value
import SpacedReview.Store.Database
import SpacedReview.Store.File
import SpacedReview.Store.Memory
import SpacedReview.Store.Search
import SpacedReview.Text.Blank
import SpacedReview.Text.Decimal
import SpacedReview.Text.Hex
import SpacedReview.Text.Hidden
import SpacedReview.Text.Letter
import SpacedReview.Text.Number
import SpacedReview.Text.Quoted
import SpacedReview.Text.Ranges
import SpacedReview.Text.Utf8
import SpacedReview.Time.Date
import SpacedReview.Time.Duration
import SpacedReview.Time.Instant
import SpacedReview.Time.Parse
import SpacedReview.Time.Text
import SpacedReview.Toml.Read
import SpacedReview.Toml.Value
