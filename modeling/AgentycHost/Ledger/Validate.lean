import AgentycHost.Ledger.State

set_option autoImplicit false

/-!
# The ledger validator

Every commit and every opening of the ledger passes `validateState`. It is cut
into the loops of the source, in their order.
-/

namespace AgentycHost

open Shared

def validateBounds (limits : LedgerLimits) (state : LedgerState) : Except LedgerError Unit := do
  require (state.schemaVersion == ledgerSchemaVersion)
    (.incompatible ("expected schema " ++ toString ledgerSchemaVersion ++ ", got " ++ toString state.schemaVersion))
  require (state.spaces.size ≤ limits.maxSpaces) (.boundExceeded "space count")
  require (state.actions.size ≤ limits.maxActions) (.boundExceeded "action count")
  require (state.events.length ≤ limits.maxEvents) (.boundExceeded "event count")
  require (state.controlTickets.size ≤ state.spaces.size) (.corrupt "too many control tickets")
  require (state.pendingFences.size ≤ state.spaces.size && state.takeoverProofs.size ≤ state.spaces.size)
    (.corrupt "too many fence indexes")

def isFenceLifecycle : SpaceLifecycle -> Bool
  | .fencePending | .fenceDispatched | .fenceAcknowledged => true
  | _ => false

def leaseStateIn (lease : Option Lease) (states : List LeaseState) : Bool :=
  lease.any fun lease => states.contains lease.state

def lifecycleMatchesLease (state : LedgerState) (spaceId : SpaceId) (space : SpaceDescriptor) : Bool :=
  let ownerMatches := space.lease.all fun lease => lease.principalId == space.owner
  match space.lifecycle with
  | .created => space.lease.isNone
  | .agentOwned | .recovering => leaseStateIn space.lease [.active] && ownerMatches
  | .fencePending | .fenceDispatched | .fenceAcknowledged =>
      leaseStateIn space.lease [.active, .fenced] && ownerMatches
  | .userOwned => leaseStateIn space.lease [.released] && state.controlTickets.contains spaceId
  | .orphaned => leaseStateIn space.lease [.fenced, .expired, .released]
  | .released | .finished | .paused =>
      space.lease.isNone || leaseStateIn space.lease [.released, .fenced, .expired]
  | .handoffRequested | .draining => space.lease.isSome

def validateSpaceLifecycle (state : LedgerState) (spaceId : SpaceId) (space : SpaceDescriptor) :
    Except LedgerError Unit := do
  require (lifecycleMatchesLease state spaceId space)
    (.corrupt ("invalid lifecycle/lease combination for " ++ spaceId.text))
  require (!(space.profileBinding == .revoked && space.lifecycle == .agentOwned))
    (.corrupt "revoked profile owns an active space")

def validPageLifecycle (page : PageDescriptor) : Bool :=
  match page.lifecycle with
  | .planned => page.binding == .unbound && page.ownership == .agent
  | .managed => page.admitsAgentMutations
  | .closing => page.ownership == .agent && page.binding == .bound
  | .targetLost => page.binding == .lost
  | .userOwned => page.binding == .userOwned && page.ownership == .user
  | .closed => page.binding == .closed && page.ownership == .broker
  | .retired => page.binding == .closed
  | .rebinding | .adoptable | .unknown | .creating | .unmanaged => true

/-- One page; `seen` holds the identities of all pages visited before it. -/
def validatePage (spaceId : SpaceId) (seen : List PageId) (page : PageDescriptor) : Except LedgerError Unit := do
  require (page.spaceId == spaceId) (.corrupt "page belongs to another space")
  require (page.label ≠ "") (.corrupt "page label is empty")
  validateBoundedText page.label 256 "page label"
  require ((page.url.all (boundedText · 4096)) && page.title.all (boundedText · 4096))
    (.corrupt "page metadata is out of bounds")
  require (!seen.contains page.pageId) (.corrupt "duplicate logical page identity")
  require (validPageLifecycle page) (.corrupt "invalid page lifecycle combination")

def pageIds (pages : List PageDescriptor) : List PageId := pages.map (·.pageId)

def validateSpace (limits : LedgerLimits) (state : LedgerState) (earlier : List (SpaceId × SpaceDescriptor))
    (entry : SpaceId × SpaceDescriptor) : Except LedgerError Unit := do
  let (spaceId, space) := entry
  require (space.spaceId == spaceId) (.corrupt "space index does not match descriptor")
  require (space.pages.length ≤ limits.maxPagesPerSpace) (.boundExceeded ("page count for " ++ spaceId.text))
  require (space.label ≠ "") (.corrupt "space label is empty")
  validateBoundedText space.label 256 "space label"
  require (space.warnings.length ≤ 16) (.boundExceeded "space warnings")
  forEach (fun warning => validateBoundedText warning 512 "space warning") space.warnings
  require (space.visualGroupHint.all (boundedText · 256)) (.corrupt "visual group hint is out of bounds")
  validateSpaceLifecycle state spaceId space
  forEachAfter (fun before page =>
      validatePage spaceId (earlier.flatMap (fun other => pageIds other.2.pages) ++ pageIds before) page)
    [] space.pages

def bindingIndexed (state : LedgerState) (spaceId : SpaceId) (space : SpaceDescriptor) : Bool :=
  match space.profileBinding with
  | .bound => state.profileBindings.contains spaceId
  | .unbound => !state.profileBindings.contains spaceId
  | .rebindRequired | .revoked => true

def validateIndexes (state : LedgerState) : Except LedgerError Unit := do
  require (state.spaceGenerations.size == state.spaces.size &&
      state.spaces.all fun spaceId _ => state.spaceGenerations.contains spaceId)
    (.corrupt "space generation index is incomplete")
  require ((state.profileBindings.all fun spaceId _ => state.spaces.contains spaceId) &&
      state.spaces.all (bindingIndexed state))
    (.corrupt "profile binding index is inconsistent")
  require (decide (state.extensionWorkerInstanceEpoch ≠ some 0 ∧ state.extensionBrowserSessionEpoch ≠ some 0))
    (.corrupt "extension epoch floor is invalid")
  require (state.spaces.all fun spaceId space =>
      !(isFenceLifecycle space.lifecycle && !state.pendingFences.contains spaceId))
    (.corrupt "fence lifecycle has no pending fence record")

def controlTicketMatches (state : LedgerState) (spaceId : SpaceId) (ticket : ControlTicketRecord) : Bool :=
  ticket.spaceId == spaceId && ticket.brokerEpoch == state.brokerEpoch &&
    (state.spaces.get? spaceId).any fun space =>
      space.lifecycle == .userOwned && space.lease.any fun lease => lease.leaseEpoch == ticket.fenceEpoch

def validateControlTickets (state : LedgerState) : Except LedgerError Unit :=
  require (state.controlTickets.all (controlTicketMatches state))
    (.corrupt "control ticket does not match user-owned space")

def validatePendingFence (state : LedgerState) (entry : SpaceId × PendingFenceRecord) :
    Except LedgerError Unit := do
  let (spaceId, pending) := entry
  let space <- orElse (state.spaces.get? spaceId) (.corrupt "pending fence references unknown space")
  let lease <- orElse space.lease (.corrupt "pending fence has no lease")
  require (pending.spaceId == spaceId && pending.brokerEpoch == state.brokerEpoch &&
      pending.fenceEpoch == lease.leaseEpoch && pending.principalId == lease.principalId &&
      space.lifecycle == .fencePending &&
      pending.oldEpoch.all fun old => decide (old < pending.fenceEpoch))
    (.corrupt "pending fence does not match space lease")
  require (match pending.purpose with
      | .takeover => lease.state == .active
      | .returnControl => lease.state == .fenced && pending.oldEpoch.isSome)
    (.corrupt "pending fence purpose does not match lease state")

def validateTakeoverProof (state : LedgerState) (spaceId : SpaceId) (space : SpaceDescriptor)
    (earlier : List TakeoverProofRecord) (proof : TakeoverProofRecord) : Except LedgerError Unit := do
  require (proof.spaceId == spaceId && proof.brokerEpoch == state.brokerEpoch &&
      decide (proof.previousEpoch < proof.currentEpoch) &&
      !(earlier.any fun other =>
        other.previousEpoch == proof.previousEpoch && other.currentEpoch == proof.currentEpoch) &&
      proof.principalId == space.owner)
    (.corrupt "takeover proof is inconsistent")
  require (!(proof.currentEpoch == (space.lease.map (·.leaseEpoch)).getD 0 &&
      space.lease.all fun lease => !(lease.principalId == proof.principalId && lease.state == .active)))
    (.corrupt "current takeover proof does not match lease")

def validateTakeoverProofs (state : LedgerState) (entry : SpaceId × List TakeoverProofRecord) :
    Except LedgerError Unit := do
  let (spaceId, proofs) := entry
  let space <- orElse (state.spaces.get? spaceId) (.corrupt "takeover proof references unknown space")
  require (!proofs.isEmpty && decide (proofs.length ≤ 64)) (.boundExceeded "takeover proof count")
  forEachAfter (validateTakeoverProof state spaceId space) [] proofs

def validateQueuedId (state : LedgerState) (spaceId : SpaceId) (seen : List ActionId) (actionId : ActionId) :
    Except LedgerError Unit := do
  require (!seen.contains actionId) (.corrupt "action appears in multiple queues")
  let receipt <- orElse (state.actions.get? actionId) (.corrupt "action queue references missing receipt")
  require (receipt.spaceId == spaceId && receipt.status == .queued)
    (.corrupt "queued action index is inconsistent")

def validateQueue (limits : LedgerLimits) (state : LedgerState) (earlier : List (SpaceId × List ActionId))
    (entry : SpaceId × List ActionId) : Except LedgerError Unit := do
  let (spaceId, queue) := entry
  require (state.spaces.contains spaceId) (.corrupt "action queue references unknown space")
  require (queue.length ≤ limits.maxQueuedActionsPerSpace) (.boundExceeded "queued action count")
  forEachAfter (fun before actionId =>
      validateQueuedId state spaceId (earlier.flatMap Prod.snd ++ before) actionId) [] queue

def queuedIds (state : LedgerState) : List ActionId := state.actionQueues.entries.flatMap Prod.snd

def requestMatches (codec : Codec) (actionId : ActionId) (receipt : ActionReceipt) (request : ActionRequest) :
    Bool :=
  request.actionId == actionId && request.requestId == receipt.requestId &&
    request.idempotencyKey == receipt.idempotencyKey && request.requestHash == receipt.requestHash &&
    request.spaceId == receipt.spaceId && request.pageId == receipt.pageId &&
    request.leaseEpoch == receipt.leaseEpoch && request.operation == receipt.operation &&
    request.postcondition == receipt.postcondition && canonicalActionHash codec request == receipt.requestHash

def validateReceiptStatus (queued : Bool) (receipt : ActionReceipt) : Except LedgerError Unit :=
  match receipt.status with
  | .queued =>
      require (receipt.dispatchState == .notDispatched && queued && !receipt.unknown &&
          receipt.reconciliationState == .notRequired && receipt.completionSource == .none)
        (.corrupt "queued action state is inconsistent")
  | .running =>
      require (receipt.inFlight && !queued && !receipt.unknown && receipt.reconciliationState == .notRequired)
        (.corrupt "running action state is inconsistent")
  | .unknown =>
      require (receipt.unknown &&
          (receipt.reconciliationState == .required || receipt.reconciliationState == .inProgress) &&
          !queued && receipt.completionSource == .none && receipt.nextAction == .reconcile)
        (.corrupt "unknown action state is inconsistent")
  | .succeeded =>
      require (!queued && receipt.inFlight && !receipt.unknown &&
          (receipt.reconciliationState == .notRequired || receipt.reconciliationState == .reconciledSucceeded))
        (.corrupt "successful action state is inconsistent")
  | .failed =>
      require (!queued && receipt.inFlight && !receipt.unknown &&
          (receipt.reconciliationState == .notRequired || receipt.reconciliationState == .reconciledFailed ||
            receipt.reconciliationState == .requiresConfirmation))
        (.corrupt "failed action state is inconsistent")
  | .cancelled =>
      require (!queued && receipt.dispatchState == .rejected && !receipt.unknown &&
          receipt.reconciliationState == .notRequired && receipt.completionSource == .ledger)
        (.corrupt "cancelled action state is inconsistent")

def runsMutation (spaceId : SpaceId) (receipt : ActionReceipt) : Bool :=
  receipt.status == .running && isMutating receipt.operation && receipt.spaceId == spaceId

def validateActionTarget (space : SpaceDescriptor) (receipt : ActionReceipt) : Except LedgerError Unit :=
  match receipt.pageId with
  | some pageId => do
      let page <- orElse (space.page pageId) (.corrupt "action references unknown page")
      require (!(isMutating receipt.operation && !page.admitsAgentMutations && receipt.status == .queued))
        (.corrupt "queued action targets a non-managed page")
  | none => require (receipt.operation ≠ .close) (.corrupt "close action has no page target")

def validateAction (codec : Codec) (state : LedgerState) (earlier : List (ActionId × ActionReceipt))
    (entry : ActionId × ActionReceipt) : Except LedgerError Unit := do
  let (actionId, receipt) := entry
  require (receipt.actionId == actionId) (.corrupt "action index does not match receipt")
  let request <- orElse (state.actionRequests.get? actionId) (.corrupt "action receipt has no request context")
  require (requestMatches codec actionId receipt request) (.corrupt "action receipt and request context disagree")
  validatePublicPayloadShape request.payload 65536
  let space <- orElse (state.spaces.get? receipt.spaceId) (.corrupt "action references unknown space")
  validateActionTarget space receipt
  validateReceiptStatus ((queuedIds state).contains actionId) receipt
  require (!(receipt.status == .running && isMutating receipt.operation &&
      earlier.any fun other => runsMutation receipt.spaceId other.2))
    (.corrupt "more than one mutating action is running in a space")
  let indexed <- orElse (state.idempotency.get? receipt.idempotencyKey) (.corrupt "idempotency index is incomplete")
  require (indexed == actionId && !(earlier.any fun other => other.2.idempotencyKey == receipt.idempotencyKey))
    (.corrupt "idempotency index is inconsistent")

def validateActions (codec : Codec) (state : LedgerState) : Except LedgerError Unit := do
  require (state.actionRequests.size == state.actions.size && state.idempotency.size == state.actions.size)
    (.corrupt "action indexes do not have matching cardinality")
  forEachAfter (validateAction codec state) [] state.actions.entries

def validateSnapshot (codec : Codec) (limits : LedgerLimits) (spaceId : SpaceId) (space : SpaceDescriptor)
    (entry : PageId × SnapshotCacheRecord) : Except LedgerError Unit := do
  let (pageId, record) := entry
  let page <- orElse (space.page pageId) (.corrupt "snapshot cache references unknown page")
  require (codec.envelopeValid record.envelope) (.corrupt "snapshot envelope is invalid")
  require (record.envelope.spaceId == spaceId && record.envelope.pageId == pageId &&
      record.generation.matchesPage page)
    (.corrupt "snapshot cache provenance is inconsistent")
  require (codec.snapshotBytes record.envelope ≤ limits.maxSnapshotBytes) (.boundExceeded "snapshot bytes")

def validateSnapshots (codec : Codec) (limits : LedgerLimits) (state : LedgerState) : Except LedgerError Unit := do
  forEach (fun entry => do
      let space <- orElse (state.spaces.get? entry.1) (.corrupt "snapshot cache references unknown space")
      forEach (validateSnapshot codec limits entry.1 space) entry.2.entries) state.snapshots.entries
  require ((state.snapshots.values.map Table.size).sum ≤ limits.maxSnapshots) (.boundExceeded "snapshot count")

def lastSequence (earlier : List EventRecord) : EventSequence := (earlier.getLast?.map (·.sequence)).getD 0

def validateEvent (state : LedgerState) (earlier : List EventRecord) (event : EventRecord) :
    Except LedgerError Unit := do
  require (event.protocol == protocolVersion && event.brokerEpoch == state.brokerEpoch &&
      decide (lastSequence earlier < event.sequence) && decide (event.sequence ≤ state.eventSequence))
    (.corrupt "event history is not monotonic")
  validatePublicPayloadShape event.payload 512
  match event.scope.pageId, event.scope.spaceId with
  | some _, none => .error (.corrupt "page event has no space scope")
  | some pageId, some spaceId =>
      require (state.page spaceId pageId).isSome (.corrupt "event references unknown page")
  | none, some spaceId => require (state.spaces.contains spaceId) (.corrupt "event references unknown space")
  | none, none => .ok ()

def validateEvents (limits : LedgerLimits) (state : LedgerState) : Except LedgerError Unit := do
  forEachAfter (validateEvent state) [] state.events
  require (!(state.events.isEmpty && !(state.eventSequence == 0) && !(limits.maxEvents == 0)))
    (.corrupt "event sequence has no retained history")

def validateState (codec : Codec) (limits : LedgerLimits) (state : LedgerState) : Except LedgerError Unit := do
  validateBounds limits state
  forEachAfter (validateSpace limits state) [] state.spaces.entries
  validateIndexes state
  validateControlTickets state
  forEach (validatePendingFence state) state.pendingFences.entries
  forEach (validateTakeoverProofs state) state.takeoverProofs.entries
  forEachAfter (validateQueue limits state) [] state.actionQueues.entries
  validateActions codec state
  validateSnapshots codec limits state
  validateEvents limits state
  require (codec.compactBytes state ≤ limits.maxLedgerBytes) (.boundExceeded "serialized ledger bytes")

end AgentycHost
