import GatedMigration.CommandLine
import GatedMigration.CommandLine.Arguments
import GatedMigration.Document.Text
import GatedMigration.Document.Value
import GatedMigration.Failure
import GatedMigration.Generator
import GatedMigration.Graph
import GatedMigration.Graph.Closure
import GatedMigration.Graph.Problem
import GatedMigration.Graph.Text
import GatedMigration.Inspect
import GatedMigration.Journal
import GatedMigration.Json
import GatedMigration.Json.Fields
import GatedMigration.Json.Printer
import GatedMigration.Json.Reader
import GatedMigration.Keyed
import GatedMigration.Main
import GatedMigration.Migration
import GatedMigration.Namespace
import GatedMigration.Number.Binary64
import GatedMigration.Number.Digit
import GatedMigration.Number.Literal
import GatedMigration.Number.Shortest
import GatedMigration.Operation
import GatedMigration.Oracle
import GatedMigration.Pattern
import GatedMigration.Pattern.Class
import GatedMigration.Pattern.Escape
import GatedMigration.Pattern.Expression
import GatedMigration.Pattern.Mode
import GatedMigration.Pattern.Normal
import GatedMigration.Pattern.Property
import GatedMigration.Pattern.Reader
import GatedMigration.Pattern.Size
import GatedMigration.Pieces
import GatedMigration.Plan
import GatedMigration.Plan.Check
import GatedMigration.Policy
import GatedMigration.Progress
import GatedMigration.Progress.Load
import GatedMigration.Readiness
import GatedMigration.Record
import GatedMigration.Report
import GatedMigration.Run
import GatedMigration.Run.Evaluation
import GatedMigration.Run.Flight
import GatedMigration.Run.Load
import GatedMigration.Run.Options
import GatedMigration.Run.Round
import GatedMigration.Selector
import GatedMigration.Store
import GatedMigration.Task
import GatedMigration.Toml
import GatedMigration.Toml.Line
import GatedMigration.Toml.Quoted
import GatedMigration.Toml.Scalar
import GatedMigration.Toml.Table
import GatedMigration.Unicode.Age
import GatedMigration.Unicode.Break
import GatedMigration.Unicode.Category
import GatedMigration.Unicode.CharSet
import GatedMigration.Unicode.Folding
import GatedMigration.Unicode.Latest
import GatedMigration.Unicode.Lowercase
import GatedMigration.Unicode.Property
import GatedMigration.Unicode.Script
import GatedMigration.Unicode.Trim
import GatedMigration.Unicode.Utf8
import GatedMigration.World
import GatedMigration.Proofs.Acceptance
import GatedMigration.Proofs.Account
import GatedMigration.Proofs.Additions
import GatedMigration.Proofs.Agreement
import GatedMigration.Proofs.Application
import GatedMigration.Proofs.Blockage
import GatedMigration.Proofs.Budget
import GatedMigration.Proofs.Calls
import GatedMigration.Proofs.Calm
import GatedMigration.Proofs.Cancellation
import GatedMigration.Proofs.Chains
import GatedMigration.Proofs.Change
import GatedMigration.Proofs.Closure
import GatedMigration.Proofs.Commands
import GatedMigration.Proofs.Completion
import GatedMigration.Proofs.Condition
import GatedMigration.Proofs.Confusion
import GatedMigration.Proofs.Counting
import GatedMigration.Proofs.Decision
import GatedMigration.Proofs.Decoding
import GatedMigration.Proofs.Delivery
import GatedMigration.Proofs.Effect
import GatedMigration.Proofs.Encodings
import GatedMigration.Proofs.Evaluations
import GatedMigration.Proofs.Exchange
import GatedMigration.Proofs.Forward
import GatedMigration.Proofs.Frames
import GatedMigration.Proofs.Generators
import GatedMigration.Proofs.Groups
import GatedMigration.Proofs.Handout
import GatedMigration.Proofs.Identifiers
import GatedMigration.Proofs.Inquiries
import GatedMigration.Proofs.Invariant
import GatedMigration.Proofs.LastWrite
import GatedMigration.Proofs.Laws
import GatedMigration.Proofs.Layouts
import GatedMigration.Proofs.Ledger
import GatedMigration.Proofs.Leftover
import GatedMigration.Proofs.Likeness
import GatedMigration.Proofs.Meaning
import GatedMigration.Proofs.Moment
import GatedMigration.Proofs.Nearest
import GatedMigration.Proofs.Order
import GatedMigration.Proofs.Preparation
import GatedMigration.Proofs.Prerequisites
import GatedMigration.Proofs.Problems
import GatedMigration.Proofs.Queries
import GatedMigration.Proofs.Refusal
import GatedMigration.Proofs.Remainder
import GatedMigration.Proofs.Rendering
import GatedMigration.Proofs.Rereading
import GatedMigration.Proofs.Rerun
import GatedMigration.Proofs.Rounds
import GatedMigration.Proofs.Saves
import GatedMigration.Proofs.Scans
import GatedMigration.Proofs.Scripts
import GatedMigration.Proofs.Standing
import GatedMigration.Proofs.Steady
import GatedMigration.Proofs.Stumbling
import GatedMigration.Proofs.Succession
import GatedMigration.Proofs.TaskParts
import GatedMigration.Proofs.Undisturbed
import GatedMigration.Proofs.Uniqueness
import GatedMigration.Proofs.Updates
