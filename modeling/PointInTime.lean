import PointInTime.Assoc
import PointInTime.Calendar.Date
import PointInTime.Catalog.Basic
import PointInTime.Catalog.Record
import PointInTime.Catalog.Window
import PointInTime.CommandLine.Attended
import PointInTime.CommandLine.Connection
import PointInTime.CommandLine.Execution
import PointInTime.CommandLine.FileTree
import PointInTime.CommandLine.Grammar
import PointInTime.CommandLine.Operator
import PointInTime.CommandLine.Output
import PointInTime.CommandLine.Usage
import PointInTime.Duration
import PointInTime.Error
import PointInTime.Http.Api
import PointInTime.Http.Body
import PointInTime.Http.Fault
import PointInTime.Http.MediaType
import PointInTime.Http.Query
import PointInTime.Http.RestoreRequest
import PointInTime.Http.SocketAddress
import PointInTime.Http.Uri
import PointInTime.Instant.Age
import PointInTime.Instant.Basic
import PointInTime.Instant.Json
import PointInTime.Instant.Plain
import PointInTime.Instant.Rfc3339
import PointInTime.Json.Basic
import PointInTime.Json.Draft
import PointInTime.Json.Pretty
import PointInTime.Json.Record
import PointInTime.Main
import PointInTime.Name
import PointInTime.Procedure.Basic
import PointInTime.Procedure.Poll
import PointInTime.Procedure.Retry
import PointInTime.Procedure.Run
import PointInTime.Proofs.Calendar.Date
import PointInTime.Proofs.Catalog.Bounds
import PointInTime.Proofs.Catalog.Contents
import PointInTime.Proofs.Catalog.Newest
import PointInTime.Proofs.Catalog.Order
import PointInTime.Proofs.Catalog.Reading
import PointInTime.Proofs.Catalog.Window
import PointInTime.Proofs.Instant.Given
import PointInTime.Proofs.Instant.Plain
import PointInTime.Proofs.Instant.Rfc3339
import PointInTime.Proofs.Instant.Stamp
import PointInTime.Proofs.Instant.Stored
import PointInTime.Proofs.Json.Edit
import PointInTime.Proofs.Json.Record
import PointInTime.Proofs.Name
import PointInTime.Proofs.Procedure.Cancellation
import PointInTime.Proofs.Procedure.Course
import PointInTime.Proofs.Procedure.Ensures
import PointInTime.Proofs.Procedure.EnsuresIn
import PointInTime.Proofs.Procedure.Interleaving
import PointInTime.Proofs.Procedure.Passage
import PointInTime.Proofs.Procedure.Prompt
import PointInTime.Proofs.Procedure.Retrying
import PointInTime.Proofs.Procedure.Rounds
import PointInTime.Proofs.Resource.Backup
import PointInTime.Proofs.Resource.Cluster
import PointInTime.Proofs.Resource.Metadata
import PointInTime.Proofs.Resource.Object
import PointInTime.Proofs.Resource.Restore
import PointInTime.Proofs.Resource.Secret
import PointInTime.Proofs.Restore.Awaiting
import PointInTime.Proofs.Restore.Deadline
import PointInTime.Proofs.Restore.Job
import PointInTime.Proofs.Restore.Storage
import PointInTime.Proofs.Restore.Target
import PointInTime.Proofs.Server.Alone
import PointInTime.Proofs.Server.Answers
import PointInTime.Proofs.Server.Backups
import PointInTime.Proofs.Server.Configs
import PointInTime.Proofs.Server.Frank
import PointInTime.Proofs.Server.Looks
import PointInTime.Proofs.Server.Operation
import PointInTime.Proofs.Server.Places
import PointInTime.Proofs.Server.ReadBack
import PointInTime.Proofs.Server.Rehearsal
import PointInTime.Proofs.Server.Restores
import PointInTime.Proofs.Server.Secrets
import PointInTime.Proofs.Server.Unreliable
import PointInTime.Proofs.Server.Writes
import PointInTime.Proofs.Standby.Cancellation
import PointInTime.Proofs.Standby.Contract
import PointInTime.Proofs.Standby.Decision
import PointInTime.Proofs.Standby.Due
import PointInTime.Proofs.Standby.Exclusion
import PointInTime.Proofs.Standby.Idempotence
import PointInTime.Proofs.Standby.Identity
import PointInTime.Proofs.Standby.Progress
import PointInTime.Proofs.Standby.Record
import PointInTime.Proofs.Standby.Runs
import PointInTime.Proofs.Standby.Tracker
import PointInTime.Proofs.Standby.Tracking
import PointInTime.Proofs.Text.Blank
import PointInTime.Proofs.Text.Decimal
import PointInTime.Proofs.Text.Table
import PointInTime.Proofs.Workflow.Accounting
import PointInTime.Proofs.Workflow.Attended
import PointInTime.Proofs.Workflow.Blockers
import PointInTime.Proofs.Workflow.CarryingOut
import PointInTime.Proofs.Workflow.Choice
import PointInTime.Proofs.Workflow.Copying
import PointInTime.Proofs.Workflow.Credentials
import PointInTime.Proofs.Workflow.DryRun
import PointInTime.Proofs.Workflow.Entitlement
import PointInTime.Proofs.Workflow.Latest
import PointInTime.Proofs.Workflow.Listing
import PointInTime.Proofs.Workflow.Phases
import PointInTime.Proofs.Workflow.Pick
import PointInTime.Proofs.Workflow.Provenance
import PointInTime.Proofs.Workflow.References
import PointInTime.Proofs.Workflow.Refusal
import PointInTime.Proofs.Workflow.Rivals
import PointInTime.Proofs.Workflow.Submission
import PointInTime.Proofs.Workflow.Summary
import PointInTime.Proofs.Workflow.Survey
import PointInTime.Proofs.Workflow.Tally
import PointInTime.Resource.Backup
import PointInTime.Resource.Cluster
import PointInTime.Resource.Kind
import PointInTime.Resource.Metadata
import PointInTime.Resource.Object
import PointInTime.Resource.Restore
import PointInTime.Resource.Secret
import PointInTime.Restore.Job
import PointInTime.Server.Address
import PointInTime.Server.Command
import PointInTime.Server.Refusal
import PointInTime.Server.Rehearsal
import PointInTime.Server.Reply
import PointInTime.Server.Request
import PointInTime.Server.Store
import PointInTime.Server.Write
import PointInTime.Standby.Cycle
import PointInTime.Standby.Tracker
import PointInTime.Standby.Tracking
import PointInTime.Text.Base64
import PointInTime.Text.Blank
import PointInTime.Text.Case
import PointInTime.Text.Case.Data
import PointInTime.Text.Decimal
import PointInTime.Text.Double
import PointInTime.Text.Parts
import PointInTime.Text.Quoted
import PointInTime.Text.Quoted.Data
import PointInTime.Text.Table
import PointInTime.Text.Utf8
import PointInTime.Workflow.Clone
import PointInTime.Workflow.Options
import PointInTime.Workflow.Plan
import PointInTime.Workflow.Restore
import PointInTime.Workflow.Summary
import PointInTime.Yaml.Document
import PointInTime.Yaml.Scalar
