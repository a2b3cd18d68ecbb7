import AgentycHost.Bridge.Router
import AgentycHost.Broker.Actionability
import AgentycHost.Broker.Actions
import AgentycHost.Broker.Authority
import AgentycHost.Broker.BridgeEvents
import AgentycHost.Broker.EventRouter
import AgentycHost.Broker.Leases
import AgentycHost.Broker.Pages
import AgentycHost.Broker.Refs
import AgentycHost.Broker.Scheduler
import AgentycHost.Broker.Sessions
import AgentycHost.Broker.SnapshotCache
import AgentycHost.Broker.Snapshots
import AgentycHost.Broker.Views
import AgentycHost.Broker.WaitConditions
import AgentycHost.Broker.Waits
import AgentycHost.Cdp.Bridge
import AgentycHost.Cdp.Capture
import AgentycHost.Cdp.Deployment
import AgentycHost.Cdp.Dom
import AgentycHost.Cdp.Effects
import AgentycHost.Cdp.Fences
import AgentycHost.Cdp.Line
import AgentycHost.Cdp.NodeTables
import AgentycHost.Cdp.Outcomes
import AgentycHost.Cdp.Scans
import AgentycHost.Cdp.Wire
import AgentycHost.Context.Builder
import AgentycHost.Context.Deltas
import AgentycHost.Context.Diffs
import AgentycHost.Context.Elements
import AgentycHost.Context.Envelopes
import AgentycHost.Context.Focus
import AgentycHost.Context.Outcomes
import AgentycHost.Context.Params
import AgentycHost.Context.Redaction
import AgentycHost.Core.Artifacts
import AgentycHost.Core.Canonical
import AgentycHost.Core.Contracts
import AgentycHost.Core.Events
import AgentycHost.Core.Frames
import AgentycHost.Core.Receipts
import AgentycHost.Core.Records
import AgentycHost.Core.Snapshots
import AgentycHost.Core.Texts
import AgentycHost.Effects.Answers
import AgentycHost.Effects.Canonical
import AgentycHost.Effects.Companions
import AgentycHost.Effects.Dispatches
import AgentycHost.Effects.Events
import AgentycHost.Effects.Fences
import AgentycHost.Effects.Finishing
import AgentycHost.Effects.Following
import AgentycHost.Effects.Frames
import AgentycHost.Effects.NativeRequests
import AgentycHost.Effects.Pages
import AgentycHost.Effects.Profiles
import AgentycHost.Effects.Receipts
import AgentycHost.Effects.Recovery
import AgentycHost.Effects.References
import AgentycHost.Effects.Reopening
import AgentycHost.Effects.Retention
import AgentycHost.Effects.Routing
import AgentycHost.Effects.Sessions
import AgentycHost.Effects.Spaces
import AgentycHost.Effects.Specs
import AgentycHost.Effects.Transfers
import AgentycHost.Effects.WaitCorrelation
import AgentycHost.Effects.WaitScans
import AgentycHost.Effects.Wire
import AgentycHost.Ledger.Commit
import AgentycHost.Ledger.Facts
import AgentycHost.Ledger.Kept
import AgentycHost.Ledger.Pruned
import AgentycHost.Ledger.Reshaped
import AgentycHost.Ledger.State
import AgentycHost.Ledger.Validate
import AgentycHost.Local.Connection
import AgentycHost.Local.Requests
import AgentycHost.Local.Server
import AgentycHost.Local.SocketClient
import AgentycHost.Local.Transfers
import AgentycHost.Local.Wire
import AgentycHost.Native.Client
import AgentycHost.Native.Link
import AgentycHost.Native.Outbound
import AgentycHost.Native.Requests
import AgentycHost.Native.TabWorker
import AgentycHost.Policy.Dialogs
import AgentycHost.Policy.Leaks
import AgentycHost.Policy.Passes
import AgentycHost.Policy.RedactedBytes
import AgentycHost.Policy.Redaction
import AgentycHost.Policy.Tickets
import AgentycHost.Safety.ActionBytes
import AgentycHost.Safety.Answers
import AgentycHost.Safety.Atomicity
import AgentycHost.Safety.Batches
import AgentycHost.Safety.BridgePayloads
import AgentycHost.Safety.Cancellation
import AgentycHost.Safety.Clicks
import AgentycHost.Safety.ClientAnswers
import AgentycHost.Safety.Completeness
import AgentycHost.Safety.Confidentiality
import AgentycHost.Safety.ContextHonesty
import AgentycHost.Safety.Contexts
import AgentycHost.Safety.Correlation
import AgentycHost.Safety.Crossings
import AgentycHost.Safety.DeadEnd
import AgentycHost.Safety.DeltaAvailability
import AgentycHost.Safety.DeltaBases
import AgentycHost.Safety.DeltaUpdates
import AgentycHost.Safety.Dialogs
import AgentycHost.Safety.DispatchOnce
import AgentycHost.Safety.DispatchOrder
import AgentycHost.Safety.Dispatchable
import AgentycHost.Safety.Documents
import AgentycHost.Safety.Endings
import AgentycHost.Safety.Exclusion
import AgentycHost.Safety.Focusing
import AgentycHost.Safety.Frames
import AgentycHost.Safety.Idempotency
import AgentycHost.Safety.IntentTickets
import AgentycHost.Safety.LeaseClock
import AgentycHost.Safety.LeaseEpochs
import AgentycHost.Safety.Leftovers
import AgentycHost.Safety.MarkedValues
import AgentycHost.Safety.NativeOutcomes
import AgentycHost.Safety.OutboundSequence
import AgentycHost.Safety.Overtaking
import AgentycHost.Safety.PageCommands
import AgentycHost.Safety.PageLives
import AgentycHost.Safety.Paging
import AgentycHost.Safety.ParentKeys
import AgentycHost.Safety.Patches
import AgentycHost.Safety.Permits
import AgentycHost.Safety.Ports
import AgentycHost.Safety.ProfileFence
import AgentycHost.Safety.ProvenCleanup
import AgentycHost.Safety.Pruning
import AgentycHost.Safety.QueuedEpochs
import AgentycHost.Safety.Rebuilds
import AgentycHost.Safety.ReceiptHistories
import AgentycHost.Safety.Reconciliation
import AgentycHost.Safety.Recording
import AgentycHost.Safety.References
import AgentycHost.Safety.Replay
import AgentycHost.Safety.Restart
import AgentycHost.Safety.SecretKeys
import AgentycHost.Safety.SharedAuthority
import AgentycHost.Safety.Survivors
import AgentycHost.Safety.TakeoverRetry
import AgentycHost.Safety.TargetLoss
import AgentycHost.Safety.Tickets
import AgentycHost.Safety.Transfers
import AgentycHost.Safety.Transparency
import AgentycHost.Safety.Unbinding
import AgentycHost.Safety.UserControl
import AgentycHost.Safety.UserIntent
import AgentycHost.Safety.WaitComposition
import AgentycHost.Safety.WaitEnds
import AgentycHost.Safety.WaitMatches
import AgentycHost.Safety.Warnings
import AgentycHost.Safety.WireForms
import AgentycHost.Shared.Attempts
import AgentycHost.Shared.Chains
import AgentycHost.Shared.Encodings
import AgentycHost.Shared.Keyed
import AgentycHost.Shared.Occurrences
import AgentycHost.Shared.Outcome
import AgentycHost.Shared.Patterns
import AgentycHost.Shared.Runs
import AgentycHost.Shared.SlotMap
import AgentycHost.Shared.Spans
import AgentycHost.Shared.Table
import AgentycHost.System.Calls
import AgentycHost.System.Commits
import AgentycHost.System.Dispatch
import AgentycHost.System.Host
import AgentycHost.System.Intents
import AgentycHost.System.Permits
import AgentycHost.System.Routers
import AgentycHost.System.Runs
import AgentycHost.System.Waits
