import ImageImport.Arguments
import ImageImport.Cell
import ImageImport.Concurrency.Activity
import ImageImport.Concurrency.Background
import ImageImport.Concurrency.Lock
import ImageImport.Concurrency.Race
import ImageImport.Concurrency.Run
import ImageImport.Dict
import ImageImport.Duration
import ImageImport.Error
import ImageImport.Files.Path
import ImageImport.Files.Tree
import ImageImport.Import
import ImageImport.Inflation.Basic
import ImageImport.Inflation.Choice
import ImageImport.Inflation.Direct
import ImageImport.Inflation.Shadowed
import ImageImport.Inflation.Sizes
import ImageImport.Inflation.Worker
import ImageImport.Json.Basic
import ImageImport.Json.Parser
import ImageImport.Json.Printer
import ImageImport.Json.Schema
import ImageImport.Json.Token
import ImageImport.Metrics
import ImageImport.Number.Significand
import ImageImport.Os.Registry
import ImageImport.Plan
import ImageImport.Planner
import ImageImport.Platform.Disk
import ImageImport.Platform.Document
import ImageImport.Platform.Inspection
import ImageImport.Platform.Services
import ImageImport.Preflight.Document
import ImageImport.Preflight.Report
import ImageImport.Preflight.Rules
import ImageImport.Processing.Chain
import ImageImport.Processing.DataDisk
import ImageImport.Processing.Metadata
import ImageImport.Processing.Translation
import ImageImport.Proofs.Concurrency.AlikeUntilParting
import ImageImport.Proofs.Concurrency.Attendance
import ImageImport.Proofs.Concurrency.Crew
import ImageImport.Proofs.Concurrency.CrewStories
import ImageImport.Proofs.Concurrency.Following
import ImageImport.Proofs.Concurrency.Forgetting
import ImageImport.Proofs.Concurrency.Independence
import ImageImport.Proofs.Concurrency.Moments
import ImageImport.Proofs.Concurrency.NotesInOrder
import ImageImport.Proofs.Concurrency.Places
import ImageImport.Proofs.Concurrency.Quiet
import ImageImport.Proofs.Concurrency.Races
import ImageImport.Proofs.Concurrency.Releasing
import ImageImport.Proofs.Concurrency.Running
import ImageImport.Proofs.Concurrency.Settling
import ImageImport.Proofs.Concurrency.SharedPromise
import ImageImport.Proofs.Concurrency.Terms
import ImageImport.Proofs.Concurrency.TermsOfNotes
import ImageImport.Proofs.Concurrency.Timely
import ImageImport.Proofs.Concurrency.Uniform
import ImageImport.Proofs.Concurrency.Watching
import ImageImport.Proofs.Disks.Calm
import ImageImport.Proofs.Disks.Chain
import ImageImport.Proofs.Disks.History
import ImageImport.Proofs.Disks.Import
import ImageImport.Proofs.Disks.Inflation
import ImageImport.Proofs.Disks.Leaks
import ImageImport.Proofs.Disks.Shadow
import ImageImport.Proofs.Documents
import ImageImport.Proofs.Duration
import ImageImport.Proofs.Import.Cleanup
import ImageImport.Proofs.Import.History
import ImageImport.Proofs.Import.Pipeline
import ImageImport.Proofs.Import.Punctuality
import ImageImport.Proofs.Inflation.Account
import ImageImport.Proofs.Inflation.Cancelling
import ImageImport.Proofs.Inflation.Deletion
import ImageImport.Proofs.Inflation.Naming
import ImageImport.Proofs.Inflation.Protocol
import ImageImport.Proofs.Inflation.Quiet
import ImageImport.Proofs.Inflation.Reported
import ImageImport.Proofs.Inflation.Soundness
import ImageImport.Proofs.Json.Fields
import ImageImport.Proofs.Json.Leaves
import ImageImport.Proofs.Json.Text
import ImageImport.Proofs.Json.Tokens
import ImageImport.Proofs.Os.Identifiers
import ImageImport.Proofs.Planner.Decision
import ImageImport.Proofs.Planner.Foresight
import ImageImport.Proofs.Planner.Provision
import ImageImport.Proofs.Platform.Document
import ImageImport.Proofs.Preflight.Acceptance
import ImageImport.Proofs.Preflight.Document
import ImageImport.Proofs.Preflight.Report
import ImageImport.Proofs.Processing.Metadata
import ImageImport.Proofs.Processing.Translation
import ImageImport.Proofs.Rehearsal.World
import ImageImport.Proofs.Serial
import ImageImport.Proofs.Shadow.Compared
import ImageImport.Proofs.Shadow.Divided
import ImageImport.Proofs.Shadow.FollowsMain
import ImageImport.Proofs.Shadow.Grace
import ImageImport.Proofs.Shadow.Guarded
import ImageImport.Proofs.Shadow.History
import ImageImport.Proofs.Shadow.Influence
import ImageImport.Proofs.Shadow.Outcome
import ImageImport.Proofs.Shadow.Stage
import ImageImport.Proofs.Source.Header
import ImageImport.Proofs.Source.Paths
import ImageImport.Proofs.Source.References
import ImageImport.Proofs.Step.Clients
import ImageImport.Proofs.Step.FollowsTask
import ImageImport.Proofs.Step.Guard
import ImageImport.Proofs.Step.History
import ImageImport.Proofs.Step.Late
import ImageImport.Proofs.Step.Lines
import ImageImport.Proofs.Step.Outcome
import ImageImport.Proofs.Step.Settled
import ImageImport.Proofs.Text.ByteOrder
import ImageImport.Proofs.Text.Digits
import ImageImport.Proofs.Text.Parts
import ImageImport.Proofs.Text.Patterns
import ImageImport.Proofs.Workflow.Circles
import ImageImport.Proofs.Workflow.Dependencies
import ImageImport.Proofs.Workflow.Document
import ImageImport.Proofs.Workflow.Levels
import ImageImport.Proofs.Workflow.Order
import ImageImport.Proofs.Workflow.References
import ImageImport.Proofs.Workflow.Substitution
import ImageImport.Rehearsal.Actor
import ImageImport.Rehearsal.Handles
import ImageImport.Rehearsal.Scene
import ImageImport.Rehearsal.Session
import ImageImport.Rehearsal.World
import ImageImport.Resource
import ImageImport.Serial
import ImageImport.Source.Grammar
import ImageImport.Source.Resolve
import ImageImport.Step
import ImageImport.Telemetry
import ImageImport.Telemetry.Filter
import ImageImport.Telemetry.Pattern
import ImageImport.Text.Basic
import ImageImport.Text.Escape
import ImageImport.Text.Invisible
import ImageImport.Text.Joining
import ImageImport.Text.Letter
import ImageImport.Text.Number
import ImageImport.Text.Quoted
import ImageImport.Timestamp
import ImageImport.Workflow.Basic
import ImageImport.Workflow.Builder
import ImageImport.Workflow.Document
import ImageImport.Workflow.Order
import ImageImport.Workflow.Rewriting
import ImageImport.Workflow.Soundness
import ImageImport.Workflow.Substitution
import ImageImport.Yaml.Basic
import ImageImport.Yaml.BlockScalar
import ImageImport.Yaml.Node
import ImageImport.Yaml.Scalar
import ImageImport.Yaml.Token
