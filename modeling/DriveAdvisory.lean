/-
  Driving advisories: what the vehicle's surroundings, its feeds and a reasoning engine suggest, merged
  into one recommendation per axis and held to safety limits before it is published.

  This module gathers the library; see `DriveAdvisory.Advisory.Basic` for the vocabulary.
-/
import DriveAdvisory.Advisory.Basic
import DriveAdvisory.Advisory.Document
import DriveAdvisory.Advisory.Merge
import DriveAdvisory.Advisory.Safety
import DriveAdvisory.Catalogue
import DriveAdvisory.Console.Line
import DriveAdvisory.Cycle.Channel
import DriveAdvisory.Cycle.Pipeline
import DriveAdvisory.Cycle.Report
import DriveAdvisory.Cycle.Ticker
import DriveAdvisory.Cycle.Timeline
import DriveAdvisory.Fault
import DriveAdvisory.Feed.Driving
import DriveAdvisory.Feed.Emergency
import DriveAdvisory.Feed.Probe
import DriveAdvisory.Feed.Rows
import DriveAdvisory.Feed.Traffic
import DriveAdvisory.Feed.Weather
import DriveAdvisory.Geo.Grid
import DriveAdvisory.Geo.Nearby
import DriveAdvisory.Geo.Point
import DriveAdvisory.Json.Basic
import DriveAdvisory.Json.Decode
import DriveAdvisory.Json.Printer
import DriveAdvisory.Json.Reader
import DriveAdvisory.Main
import DriveAdvisory.Number.Binary
import DriveAdvisory.Number.Reading
import DriveAdvisory.Number.Shortest
import DriveAdvisory.Order.Stable
import DriveAdvisory.Proofs.Advisory.Arrival
import DriveAdvisory.Proofs.Advisory.Enforcement
import DriveAdvisory.Proofs.Advisory.Lane
import DriveAdvisory.Proofs.Advisory.Precedence
import DriveAdvisory.Proofs.Advisory.Shadow
import DriveAdvisory.Proofs.Cycle.Accounts
import DriveAdvisory.Proofs.Cycle.Answer
import DriveAdvisory.Proofs.Cycle.Books
import DriveAdvisory.Proofs.Cycle.Clock
import DriveAdvisory.Proofs.Cycle.FirstSpeed
import DriveAdvisory.Proofs.Cycle.Intake
import DriveAdvisory.Proofs.Cycle.Interleaving
import DriveAdvisory.Proofs.Cycle.Ledger
import DriveAdvisory.Proofs.Cycle.Provenance
import DriveAdvisory.Proofs.Cycle.Run
import DriveAdvisory.Proofs.Cycle.StepLimit
import DriveAdvisory.Proofs.Number.Order
import DriveAdvisory.Proofs.Number.Rounding
import DriveAdvisory.Proofs.Order.Selection
import DriveAdvisory.Proofs.Settings.Enforceable
import DriveAdvisory.Reasoning.Chain
import DriveAdvisory.Reasoning.Completions
import DriveAdvisory.Reasoning.Messages
import DriveAdvisory.Reasoning.Question
import DriveAdvisory.Reasoning.Script
import DriveAdvisory.Reasoning.Service
import DriveAdvisory.Settings.Assembly
import DriveAdvisory.Settings.Basic
import DriveAdvisory.Settings.File
import DriveAdvisory.Settings.Overrides
import DriveAdvisory.Sighting.Journal
import DriveAdvisory.Sighting.Record
import DriveAdvisory.Sighting.Ring
import DriveAdvisory.Sighting.Store
import DriveAdvisory.Skill.Arguments
import DriveAdvisory.Skill.Basic
import DriveAdvisory.Skill.Builtin
import DriveAdvisory.Skill.Connectivity
import DriveAdvisory.Skill.Direct
import DriveAdvisory.Skill.Evacuation
import DriveAdvisory.Skill.Lesson
import DriveAdvisory.Skill.RoadIssue
import DriveAdvisory.Skill.Traffic
import DriveAdvisory.Source.Budget
import DriveAdvisory.Source.Client
import DriveAdvisory.Source.Exchange
import DriveAdvisory.Source.Hub
import DriveAdvisory.Source.Policy
import DriveAdvisory.Text.Base64
import DriveAdvisory.Text.Basic
import DriveAdvisory.Text.Cased
import DriveAdvisory.Text.CodeSet
import DriveAdvisory.Text.Identifier
import DriveAdvisory.Text.Lower
import DriveAdvisory.Text.Quoted
import DriveAdvisory.Text.Unseen
import DriveAdvisory.Time.Calendar
import DriveAdvisory.Time.Duration
import DriveAdvisory.Toml.Printer
import DriveAdvisory.Toml.Reader
import DriveAdvisory.Toml.Table
import DriveAdvisory.Vehicle.Describe
import DriveAdvisory.Vehicle.Files
import DriveAdvisory.Vehicle.Snapshot
import DriveAdvisory.Proofs.Source.Visits
import DriveAdvisory.Proofs.Source.Answers
import DriveAdvisory.Proofs.Source.Allowance
import DriveAdvisory.Proofs.Sighting.Desk
import DriveAdvisory.Proofs.Json.Members
import DriveAdvisory.Proofs.Json.Scalars
import DriveAdvisory.Proofs.Json.RoundTrip
import DriveAdvisory.Proofs.Number.Conversion
import DriveAdvisory.Proofs.Text.Identifier
import DriveAdvisory.Proofs.Text.Lower
import DriveAdvisory.Proofs.Time.Calendar
import DriveAdvisory.Proofs.Time.Moment
import DriveAdvisory.Proofs.Json.Records
import DriveAdvisory.Proofs.Sighting.Document
import DriveAdvisory.Proofs.Sighting.Journal
import DriveAdvisory.Proofs.Advisory.Projection
import DriveAdvisory.Proofs.Sighting.Ring
import DriveAdvisory.Proofs.Advisory.Document
import DriveAdvisory.Proofs.Cycle.Detached
import DriveAdvisory.Proofs.Settings.Passage
import DriveAdvisory.Proofs.Number.Quotient
import DriveAdvisory.Proofs.Settings.Cadence
import DriveAdvisory.Proofs.Skill.Reading
import DriveAdvisory.Proofs.Skill.Catalogue
import DriveAdvisory.Proofs.Skill.Offer
import DriveAdvisory.Proofs.Cycle.Isolation
import DriveAdvisory.Proofs.Skill.Registration
import DriveAdvisory.Proofs.Reasoning.Translation
import DriveAdvisory.Proofs.Order.Stability
import DriveAdvisory.Proofs.Advisory.Redundancy
import DriveAdvisory.Proofs.Advisory.Contributors
import DriveAdvisory.Proofs.Advisory.Alert
import DriveAdvisory.Proofs.Source.Capacity
import DriveAdvisory.Proofs.Source.Queue
import DriveAdvisory.Proofs.Reasoning.Fallback
import DriveAdvisory.Proofs.Geo.Nearby
import DriveAdvisory.Proofs.Skill.Traffic
import DriveAdvisory.Proofs.Skill.Situation
import DriveAdvisory.Proofs.Number.Share
import DriveAdvisory.Proofs.Skill.Slowdown
import DriveAdvisory.Proofs.Feed.Rows
import DriveAdvisory.Proofs.Feed.Shelters
import DriveAdvisory.Proofs.Source.Shelters
import DriveAdvisory.Proofs.Source.Hub
import DriveAdvisory.Proofs.Skill.Refuge
import DriveAdvisory.Proofs.Cycle.Board
import DriveAdvisory.Settings.Storage
import DriveAdvisory.Proofs.Number.Nearest
import DriveAdvisory.Proofs.Number.Shortest
import DriveAdvisory.Proofs.Number.Positional
import DriveAdvisory.Proofs.Toml.Strings
import DriveAdvisory.Proofs.Toml.Values
import DriveAdvisory.Proofs.Toml.File
import DriveAdvisory.Proofs.Settings.File
import DriveAdvisory.Proofs.Settings.Storage
