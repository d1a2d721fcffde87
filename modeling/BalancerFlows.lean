import BalancerFlows.Assembly
import BalancerFlows.Batch.Record
import BalancerFlows.Batch.Request
import BalancerFlows.Batch.Routing
import BalancerFlows.Batch.Submission
import BalancerFlows.Catalog
import BalancerFlows.Chain
import BalancerFlows.Chunks
import BalancerFlows.Clock
import BalancerFlows.CloudRequest
import BalancerFlows.Construction
import BalancerFlows.Deadline
import BalancerFlows.Detail
import BalancerFlows.Detail.Writing
import BalancerFlows.Failure
import BalancerFlows.Flow
import BalancerFlows.Gate
import BalancerFlows.Inventory
import BalancerFlows.Job
import BalancerFlows.Journal.Event
import BalancerFlows.Journal.Filter
import BalancerFlows.Journal.Keeping
import BalancerFlows.Journal.Span
import BalancerFlows.Json.Basic
import BalancerFlows.Json.Printer
import BalancerFlows.Json.Reader
import BalancerFlows.Json.Wire
import BalancerFlows.Keyed
import BalancerFlows.LocalChange
import BalancerFlows.Main
import BalancerFlows.Number.Binary64
import BalancerFlows.Number.Decimal
import BalancerFlows.Plan
import BalancerFlows.Program
import BalancerFlows.Session
import BalancerFlows.Settings.Basic
import BalancerFlows.Settings.Description
import BalancerFlows.Settings.Layer
import BalancerFlows.Settings.Loading
import BalancerFlows.SettingsCheck.Arguments
import BalancerFlows.SettingsCheck.Report
import BalancerFlows.Store
import BalancerFlows.Summary
import BalancerFlows.Text.Alphanumeric
import BalancerFlows.Text.Basic
import BalancerFlows.Text.Invisible
import BalancerFlows.Text.Pattern.Basic
import BalancerFlows.Text.Pattern.Reader
import BalancerFlows.TextMap
import BalancerFlows.Toml.Moment
import BalancerFlows.Toml.Reader
import BalancerFlows.Toml.Scalar
import BalancerFlows.Toml.Text
import BalancerFlows.Toml.Tree
import BalancerFlows.Unwind
import BalancerFlows.Vocabulary
import BalancerFlows.World
import BalancerFlows.Proofs.Effects
import BalancerFlows.Proofs.Sharing
import BalancerFlows.Proofs.Chaining
import BalancerFlows.Proofs.Writes
import BalancerFlows.Proofs.Holding
import BalancerFlows.Proofs.Building
import BalancerFlows.Proofs.Settling
import BalancerFlows.Proofs.CrossReference
import BalancerFlows.Proofs.Processing
import BalancerFlows.Proofs.Histories
import BalancerFlows.Proofs.Accounting
import BalancerFlows.Proofs.Arena
import BalancerFlows.Proofs.Racing
import BalancerFlows.Proofs.Exclusion
import BalancerFlows.Proofs.Traces
import BalancerFlows.Proofs.Calls
import BalancerFlows.Proofs.Stages
import BalancerFlows.Proofs.Staging
import BalancerFlows.Proofs.Footprints
import BalancerFlows.Proofs.Visibility
import BalancerFlows.Proofs.Recording
import BalancerFlows.Proofs.Complaints
import BalancerFlows.Proofs.Gathering
import BalancerFlows.Proofs.Routing
import BalancerFlows.Proofs.Working
import BalancerFlows.Proofs.Fulfilment
import BalancerFlows.Proofs.Activation
import BalancerFlows.Proofs.Attachment
import BalancerFlows.Proofs.Permanence
import BalancerFlows.Proofs.Ownership
import BalancerFlows.Proofs.RuleBindings
import BalancerFlows.Proofs.Layouts
import BalancerFlows.Proofs.Authority
import BalancerFlows.Proofs.Calm
import BalancerFlows.Proofs.Cutoffs
import BalancerFlows.Proofs.Isolation
import BalancerFlows.Proofs.Readers
import BalancerFlows.Proofs.WireForms
import BalancerFlows.Proofs.Chunking
import BalancerFlows.Proofs.Acceptance
import BalancerFlows.Proofs.Portions
import BalancerFlows.Proofs.RuleOrder
import BalancerFlows.Proofs.Resolution
import BalancerFlows.Proofs.TargetWrites
import BalancerFlows.Proofs.LocalRecords
import BalancerFlows.Proofs.PartialChanges
import BalancerFlows.Proofs.Retrying
import BalancerFlows.Proofs.Objections
import BalancerFlows.Proofs.Rejections
import BalancerFlows.Proofs.CatalogRuns
import BalancerFlows.Proofs.Naming
import BalancerFlows.Proofs.CatalogEffects
import BalancerFlows.Proofs.Agreement
import BalancerFlows.Proofs.OwnerMap
import BalancerFlows.Proofs.Unwindings
import BalancerFlows.Proofs.Punctuality
import BalancerFlows.Proofs.Overlays
import BalancerFlows.Proofs.SettingReading
import BalancerFlows.Proofs.Layering
import BalancerFlows.Proofs.Reporting
import BalancerFlows.Proofs.OperationRecords
import BalancerFlows.Proofs.Issuing
import BalancerFlows.Proofs.Cutting
import BalancerFlows.Proofs.Patching
import BalancerFlows.Proofs.StoreHistory
