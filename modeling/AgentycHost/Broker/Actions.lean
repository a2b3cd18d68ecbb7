import AgentycHost.Broker.Actionability

set_option autoImplicit false

/-!
# Admission, dispatch and reconciliation of actions

A dispatch is three commits: the action is marked running, the lease is checked
again under the permit of the space, and after the bridge call the outcome is
recorded. Each commit discards its candidate when its transition fails.
-/

namespace AgentycHost

open Shared

structure UserIntentTicket where
  token : ReconcileToken
  spaceId : SpaceId
  pageId : Option PageId
  documentGeneration : Option Generation
  leaseEpoch : LeaseEpoch
  actionHash : ContentHash
  profileBindingId : Option ProfileBindingId
  connectionEpoch : ConnectionEpoch
  connectionNonce : ConnectionNonce
  expiresAt : Timestamp
  deriving DecidableEq

def maxUserIntentTicketTtl : Nat := 60000

def operationRequiresIntent : ActionOperation -> Bool
  | .evaluate | .storageWrite | .cookieWrite | .upload => true
  | _ => false

def sensitiveBoundaries : List String :=
  ["login_challenge", "payment", "destructive_submit", "permission", "upload", "cookies", "cookie", "evaluate"]

def payloadRequiresIntent (payload : Payload) : Bool :=
  payload.any fun entry =>
    (normalizedKey entry.1 == bytes "sensitiveboundary" || normalizedKey entry.1 == bytes "policyboundary") &&
      sensitiveBoundaries.contains entry.2

def requestRequiresIntent (request : ActionRequest) : Bool :=
  operationRequiresIntent request.operation || payloadRequiresIntent request.payload

def requestDocumentGeneration (state : LedgerState) (request : ActionRequest) : Option Generation :=
  (request.pageId.bind fun pageId => state.page request.spaceId pageId).map (·.documentGeneration)

def admitIntent (codec : Codec) (lifecycle : HostLifecycle) (state : LedgerState) (request : ActionRequest)
    (authority : AuthorityTicket) (now ttl : Nat) : Except HostError Timestamp := do
  require (requestRequiresIntent request)
    (.invalidArgument "user-intent tickets are only issued for sensitive actions")
  require (decide (ttl ≠ 0 ∧ ttl ≤ maxUserIntentTicketTtl))
    (.invalidArgument "user-intent ticket ttl must be between 1 and 60000 ms")
  let expiresAt <- orElse (checkedAdd now ttl) (.invalidArgument "user-intent ticket expiry overflow")
  require (request.requestHash == canonicalActionHash codec request)
    (.invalidArgument "request hash does not match the complete canonical request context")
  ensureReady lifecycle
  authorizeSpace state request.spaceId authority request.leaseEpoch now true
  pure expiresAt

/-- The ticket of a confirmation. `number` is the process-wide ticket sequence. -/
def intentTicket (codec : Codec) (state : LedgerState) (request : ActionRequest) (authority : AuthorityTicket)
    (now expiresAt number : Nat) : Except HostError UserIntentTicket := do
  match request.pageId with
  | none => pure ()
  | some pageId => discard <| findPage state request.spaceId pageId
  pure {
    token := .intent now number, spaceId := request.spaceId, pageId := request.pageId,
    documentGeneration := requestDocumentGeneration state request, leaseEpoch := request.leaseEpoch,
    actionHash := canonicalActionHash codec request, profileBindingId := authority.profileBindingId,
    connectionEpoch := authority.connectionEpoch, connectionNonce := authority.connectionNonce, expiresAt }

def intentMatches (intents : Table ReconcileToken UserIntentTicket) (state : LedgerState) (request : ActionRequest)
    (authority : AuthorityTicket) (now : Timestamp) (ticket : UserIntentTicket) : Bool :=
  decide (now < ticket.expiresAt) && ticket.spaceId == request.spaceId && ticket.pageId == request.pageId &&
    ticket.documentGeneration == requestDocumentGeneration state request &&
    ticket.leaseEpoch == request.leaseEpoch && ticket.actionHash == request.requestHash &&
    ticket.profileBindingId == authority.profileBindingId &&
    ticket.connectionEpoch == authority.connectionEpoch && ticket.connectionNonce == authority.connectionNonce &&
    intents.get? ticket.token == some ticket

def checkIntent (intents : Table ReconcileToken UserIntentTicket) (state : LedgerState) (request : ActionRequest)
    (authority : AuthorityTicket) (now : Timestamp) (ticket : Option UserIntentTicket) : Except HostError Unit :=
  if requestRequiresIntent request then do
    let ticket <- orElse ticket
      (.new .permissionDenied "sensitive action requires a host-issued user-intent ticket")
    require (intentMatches intents state request authority now ticket)
      (.new .permissionDenied "user-intent ticket is expired, consumed, or does not match this action")
  else
    require ticket.isNone (.invalidArgument "user-intent ticket cannot authorize a nonsensitive action")

def admitRequest (codec : Codec) (capabilities : List Capability) (lifecycle : HostLifecycle)
    (intents : Table ReconcileToken UserIntentTicket) (state : LedgerState) (request : ActionRequest)
    (authority : AuthorityTicket) (now : Timestamp) (ticket : Option UserIntentTicket) : Except HostError Unit := do
  validatePublicPayload request.payload
  require (request.requestHash == canonicalActionHash codec request)
    (.invalidArgument "request hash does not match the complete canonical request context")
  checkIntent intents state request authority now ticket
  ensureReady lifecycle
  requireOperationCapabilities capabilities request.operation

/-- The receipt of a repeated request, or `none` for a request that is new. -/
def existingReceipt (state : LedgerState) (request : ActionRequest) : Except HostError (Option ActionReceipt) :=
  match state.idempotency.get? request.idempotencyKey with
  | some existingId => do
      let existing <- orElse (state.actionRequests.get? existingId)
        (.new .ledgerIncompatible "idempotency index is incomplete")
      require (existing.requestHash == request.requestHash)
        (.invalidArgument "idempotency key conflicts with a different request hash")
      let receipt <- orElse (state.actions.get? existingId) (.new .ledgerIncompatible "action receipt is missing")
      pure (some receipt)
  | none =>
      match state.actions.get? request.actionId with
      | none => pure none
      | some existing => do
          require (existing.requestHash == request.requestHash)
            (.invalidArgument "action ID conflicts with a different request")
          pure (some existing)

def checkTarget (state : LedgerState) (request : ActionRequest) : Except HostError Unit :=
  match request.pageId with
  | some pageId => do
      let space <- findSpace state request.spaceId
      let page <- orElse (space.page pageId) (.new .pageNotFound "logical page not found")
      require page.admitsAgentMutations (.new .pageNotOwned "page is not managed by the lease")
  | none => require (request.operation ≠ .close) (.invalidArgument "close requires a logical page")

def admitEnqueue (request : ActionRequest) (authority : AuthorityTicket) (now : Timestamp) (state : LedgerState) :
    Except HostError (Option ActionReceipt) := do
  authorizeSpace state request.spaceId authority request.leaseEpoch now true
  match <- existingReceipt state request with
  | some receipt => pure (some receipt)
  | none => do
      checkTarget state request
      pure none

def insertQueued (limits : LedgerLimits) (request : ActionRequest) (now : Timestamp) : Transition ActionReceipt :=
  fun state => do
    let queue := state.queue request.spaceId
    require (queue.length < limits.maxQueuedActionsPerSpace) (.new .messageTooLarge "space action queue is full")
    let receipt := ActionReceipt.queued request (some now)
    let next := { state with
      idempotency := state.idempotency.insert request.idempotencyKey request.actionId
      actionRequests := state.actionRequests.insert request.actionId request
      actions := state.actions.insert request.actionId receipt
      actionQueues := state.actionQueues.insert request.spaceId (queue ++ [request.actionId]) }
    let next <- actionChanged next request.spaceId request.actionId "queued" false
    pure (receipt, next)

def enqueueAction (config : LedgerConfig) (request : ActionRequest) (authority : AuthorityTicket) (now : Timestamp) :
    RefTransition ActionReceipt := fun registry state =>
  match admitEnqueue request authority now state with
  | .error error => (registry, .error error)
  | .ok (some receipt) => (registry, .ok (receipt, state))
  | .ok none =>
      match validateActionabilityForState config.codec registry state request now with
      | (registry, .error error) => (registry, .error (.core error))
      | (registry, .ok ()) => (registry, insertQueued config.limits request now state)

/-- The checks of the first dispatch commit up to the actionability check; `none` is an action
that has already ended. -/
def admitDispatch (actionId : ActionId) (authority : AuthorityTicket) (leaseEpoch : LeaseEpoch) (now : Timestamp)
    (state : LedgerState) : Except HostError (Option ActionRequest) := do
  let request <- orElse (state.actionRequests.get? actionId) (.invalidArgument "action request is missing")
  let receipt <- orElse (state.actions.get? actionId) (.new .ledgerIncompatible "action receipt is missing")
  match receipt.status with
  | .succeeded | .failed | .cancelled => pure none
  | .unknown => .error (.new .reconciliationRequired "unknown action must be reconciled before dispatch")
  | .running => .error (.invalidArgument "action is already running")
  | .queued => do
      require (leaseEpoch == request.leaseEpoch) (.core (.staleLease request.leaseEpoch leaseEpoch))
      authorizeSpace state request.spaceId authority leaseEpoch now true
      let queue <- orElse (state.actionQueues.get? request.spaceId)
        (.new .ledgerIncompatible "queued action has no space queue")
      require (queue.head? == some actionId)
        (.new .permissionDenied "actions must dispatch in per-space FIFO order")
      pure (some request)

def popQueue (state : LedgerState) (spaceId : SpaceId) : LedgerState :=
  { state with actionQueues := state.actionQueues.modify spaceId List.tail }

def moveReceipt (state : LedgerState) (actionId : ActionId)
    (move : ActionReceipt -> Except ActionTransitionError ActionReceipt) : Except HostError LedgerState := do
  let receipt <- orElse (state.actions.get? actionId) (.new .ledgerIncompatible "action receipt is missing")
  let moved <- (move receipt).mapError .action
  pure { state with actions := state.actions.insert actionId moved }

def actionSettled (state : LedgerState) (spaceId : SpaceId) (actionId : ActionId) (status : String)
    (resyncRequired : Bool) : Except HostError LedgerState :=
  appendEvent state (.space spaceId) .actionChanged [("action_id", actionId.text), ("status", status)]
    (some .action) resyncRequired

def markRunning (actionId : ActionId) (request : ActionRequest) : Transition (Option ActionRequest) := fun state => do
  require (!(isMutating request.operation && state.actions.any fun _ receipt => runsMutation request.spaceId receipt))
    (.new .permissionDenied "a mutating action is already in flight for this space")
  let next <- moveReceipt (popQueue state request.spaceId) actionId ActionReceipt.markDispatched
  let next <- actionChanged next request.spaceId actionId "running" false
  pure (some request, next)

def refuseHead (actionId : ActionId) (request : ActionRequest) (now : Timestamp) (refusal : CoreError) :
    Transition (Option ActionRequest) := fun state => do
  let next <- moveReceipt (popQueue state request.spaceId) actionId fun receipt => receipt.cancel (some now)
  let _ <- actionSettled next request.spaceId actionId "cancelled" false
  .error (.core refusal)

def beginDispatch (codec : Codec) (actionId : ActionId) (authority : AuthorityTicket) (leaseEpoch : LeaseEpoch)
    (now : Timestamp) : RefTransition (Option ActionRequest) := fun registry state =>
  match admitDispatch actionId authority leaseEpoch now state with
  | .error error => (registry, .error error)
  | .ok none => (registry, .ok (none, state))
  | .ok (some request) =>
      match validateActionabilityForState codec registry state request now with
      | (registry, .error refusal) => (registry, refuseHead actionId request now refusal state)
      | (registry, .ok ()) => (registry, markRunning actionId request state)

def admitRecheck (actionId : ActionId) (request : ActionRequest) (authority : AuthorityTicket)
    (leaseEpoch : LeaseEpoch) (now : Timestamp) (state : LedgerState) : Except HostError Unit := do
  authorizeSpace state request.spaceId authority leaseEpoch now true
  let receipt <- orElse (state.actions.get? actionId) (.new .ledgerIncompatible "action receipt is missing")
  require (receipt.status == .running) (.new .reconciliationRequired "action was fenced before dispatch")

def refuseRunning (actionId : ActionId) (request : ActionRequest) (now : Timestamp) (refusal : CoreError) :
    Transition Unit := fun state => do
  let next <- moveReceipt state actionId fun receipt => receipt.markFailed refusal.code false (some now)
  let _ <- actionSettled next request.spaceId actionId "failed" false
  .error (.core refusal)

/-- The second commit of `dispatch_action`, right before the bridge call. -/
def recheckDispatch (codec : Codec) (actionId : ActionId) (request : ActionRequest) (authority : AuthorityTicket)
    (leaseEpoch : LeaseEpoch) (now : Timestamp) : RefTransition Unit := fun registry state =>
  match admitRecheck actionId request authority leaseEpoch now state with
  | .error error => (registry, .error error)
  | .ok () =>
      match validateActionabilityForState codec registry state request now with
      | (registry, .error refusal) => (registry, refuseRunning actionId request now refusal state)
      | (registry, .ok ()) => (registry, .ok ((), state))

inductive BridgeDispatchResult where
  | succeeded
  | failed (code : ErrorCode) (retryable : Bool)
  | unknown (reason : UnknownReason)
  deriving DecidableEq

def dispatchOutcome (answer : Except CoreError BridgeDispatchResult) : BridgeDispatchResult :=
  match answer with
  | .ok outcome => outcome
  | .error error =>
      if error.code = .unknownOutcome then .unknown .bridgeLost else .failed error.code error.retryable

def verifyPostcondition (postcondition : Postcondition) (documentGeneration : Generation)
    (snapshotHash : Option ContentHash) : Except CoreError Unit :=
  match postcondition with
  | .pageGeneration expected =>
      require (expected == documentGeneration)
        (.new .targetReplaced "page document generation did not reach the action postcondition")
  | .snapshotHash expected =>
      require (snapshotHash == some expected)
        (.new .targetReplaced "snapshot hash postcondition is absent or does not match")

/-- `proof` is the snapshot the bridge reads after a success; `none` is a read that failed. -/
def verifyFinalPostcondition (request : ActionRequest) (outcome : BridgeDispatchResult)
    (proof : Option (Generation × ContentHash)) : BridgeDispatchResult :=
  match request.postcondition with
  | none => outcome
  | some postcondition =>
      if outcome ≠ .succeeded ∨ request.pageId = none ∨ request.operation = .wait then outcome
      else match proof with
        | none => .unknown .bridgeLost
        | some (documentGeneration, snapshotHash) =>
            match verifyPostcondition postcondition documentGeneration (some snapshotHash) with
            | .ok () => .succeeded
            | .error error => .failed error.code false

def leaseCurrent (lifecycle : HostLifecycle) (state : LedgerState) (request : ActionRequest)
    (authority : AuthorityTicket) (now : Timestamp) : Bool :=
  lifecycle == .ready && authorityIsCurrent state authority &&
    (state.spaces.get? request.spaceId).any fun space =>
      space.lifecycle.admitsMutations && space.lease.any fun lease =>
        lease.principalId == authority.principalId &&
          state.leaseHolders.get? request.spaceId == some authority.connectionEpoch &&
          lease.leaseEpoch == request.leaseEpoch && lease.state == .active && decide (now < lease.expiresAt)

def actionSequence (actionId : ActionId) : Nat :=
  (bytes actionId.text).foldl (fun value byte => (value * 31 + byte) % 2 ^ 64) 0

def settle (outcome : BridgeDispatchResult) (actionId : ActionId) (now : Timestamp) (receipt : ActionReceipt) :
    Except ActionTransitionError ActionReceipt :=
  match outcome with
  | .succeeded => receipt.markSucceeded (some now) .extension
  | .failed code retryable => receipt.markFailed code retryable (some now)
  | .unknown reason => receipt.markUnknown reason (.action (actionSequence actionId))

def statusName : ActionStatus -> String
  | .queued => "queued"
  | .running => "running"
  | .succeeded => "succeeded"
  | .failed => "failed"
  | .cancelled => "cancelled"
  | .unknown => "unknown"

def dirtiedPage (request : ActionRequest) : Option PageId :=
  if isMutating request.operation then request.pageId else none

def markRecordDirty (state : LedgerState) (spaceId : SpaceId) (pageId : PageId) : LedgerState :=
  { state with snapshots := state.snapshots.modify spaceId fun pages =>
      pages.modify pageId fun record => { record with dirty := true } }

def dirtyRefs (registry : RefRegistry) (request : ActionRequest) (now : Timestamp) : RefRegistry :=
  match dirtiedPage request with
  | none => registry
  | some pageId => registry.invalidateScope request.spaceId pageId now

def dirtySnapshot (state : LedgerState) (request : ActionRequest) : LedgerState :=
  match dirtiedPage request with
  | none => state
  | some pageId => markRecordDirty state request.spaceId pageId

/-- The outcome recorded for an action: anything but a current lease leaves it unknown. -/
def recordedOutcome (lifecycle : HostLifecycle) (state : LedgerState) (request : ActionRequest)
    (authority : AuthorityTicket) (outcome : BridgeDispatchResult) (now : Timestamp) : BridgeDispatchResult :=
  if leaseCurrent lifecycle state request authority now then outcome else .unknown .fenceInterrupted

def finishDispatch (lifecycle : HostLifecycle) (actionId : ActionId) (request : ActionRequest)
    (authority : AuthorityTicket) (outcome : BridgeDispatchResult) (now : Timestamp) :
    RefTransition ActionReceipt := fun registry state =>
  match state.actions.get? actionId with
  | none => (registry, .error (.new .ledgerIncompatible "action receipt is missing"))
  | some receipt =>
      if receipt.status ≠ .running then (registry, .ok (receipt, state))
      else match settle (recordedOutcome lifecycle state request authority outcome now) actionId now receipt with
        | .error error => (registry, .error (.action error))
        | .ok settled =>
            let next := dirtySnapshot { state with actions := state.actions.insert actionId settled } request
            (dirtyRefs registry request now, do
              let next <- actionSettled next request.spaceId actionId (statusName settled.status) settled.unknown
              pure (settled, next))

inductive BridgeReconcileResult where
  | succeeded
  | failed (code : ErrorCode) (requiresConfirmation : Bool)
  | stillUnknown
  deriving DecidableEq

def beginReconcile (actionId : ActionId) (authority : AuthorityTicket) (leaseEpoch : LeaseEpoch) (now : Timestamp) :
    Transition ActionReceipt := fun state => do
  let receipt <- authorizeReconciliationAuthority state actionId authority leaseEpoch now
  let moved <- receipt.beginReconciliation.mapError .action
  let next <- actionChanged { state with actions := state.actions.insert actionId moved } moved.spaceId actionId
    "reconciling" false
  pure (moved, next)

def stillRequired (receipt : ActionReceipt) : ActionReceipt :=
  { receipt with reconciliationState := .required, nextAction := .reconcile }

/-- `answer` is `none` when the bridge call failed. -/
def reconciled (leaseCurrent : Bool) (answer : Option BridgeReconcileResult) (now : Timestamp)
    (receipt : ActionReceipt) : Except ActionTransitionError ActionReceipt :=
  if !leaseCurrent then .ok (stillRequired receipt)
  else match answer with
    | some .succeeded => receipt.reconcileSucceeded (some now)
    | some (.failed code confirmation) => receipt.reconcileFailed code confirmation (some now)
    | some .stillUnknown | none => .ok (stillRequired receipt)

def finishReconcile (lifecycle : HostLifecycle) (actionId : ActionId) (authority : AuthorityTicket)
    (leaseEpoch : LeaseEpoch) (answer : Option BridgeReconcileResult) (now : Timestamp) :
    Transition ActionReceipt := fun state => do
  let authorized := (authorizeReconciliationAuthority state actionId authority leaseEpoch now).toBool
  let current <- orElse (state.actions.get? actionId) (.invalidArgument "action receipt is missing")
  if current.status ≠ .unknown then pure (current, state)
  else do
    let moved <- (reconciled (lifecycle == .ready && authorityIsCurrent state authority && authorized) answer now
      current).mapError .action
    let next <- actionChanged { state with actions := state.actions.insert actionId moved } moved.spaceId actionId
      (statusName moved.status) (moved.status == .unknown)
    pure (moved, next)

def allRunning (state : LedgerState) : List ActionId :=
  (state.actions.filter fun _ receipt => receipt.status == .running).keys

/-- The commit of `shutdown`: running work becomes unknown. -/
def shutdown (now : Timestamp) : Transition Unit := fun state => do
  let next <- (allRunning state).foldlM (fun state actionId =>
    match state.actions.get? actionId with
    | none => pure state
    | some receipt => do
        let moved <- (receipt.markUnknown .hostRestarted (.shutdown (actionSequence actionId))).mapError .action
        actionChanged { state with actions := state.actions.insert actionId moved } receipt.spaceId actionId
          "unknown" true) state
  let next <- appendEvent next .global .brokerDraining [("at", toString now)] none false
  pure ((), next)

end AgentycHost
