import AgentycHost.Core.Records
import AgentycHost.Shared.Outcome
import AgentycHost.Shared.Runs

set_option autoImplicit false

/-!
# Action requests and receipts

A receipt moves only through its transition methods. Each method returns the
changed receipt, or the error that leaves the receipt as it was.
-/

namespace AgentycHost

inductive ActionOperation where
  | navigate
  | click
  | input
  | evaluate
  | scroll
  | wait
  | screenshot
  | storageWrite
  | cookieWrite
  | upload
  | close
  deriving DecidableEq

def isMutating : ActionOperation -> Bool
  | .wait | .screenshot => false
  | _ => true

inductive UnknownReason where
  | lostResponse
  | bridgeLost
  | hostRestarted
  | timeoutAfterDispatch
  | browserSessionChanged
  | fenceInterrupted
  deriving DecidableEq

inductive Postcondition where
  | pageGeneration (documentGeneration : Generation)
  | snapshotHash (snapshotHash : ContentHash)
  deriving DecidableEq

abbrev Payload := List (String × String)

structure ActionRequest where
  requestId : RequestId
  actionId : ActionId
  idempotencyKey : IdempotencyKey
  requestHash : ContentHash
  spaceId : SpaceId
  pageId : Option PageId
  leaseEpoch : LeaseEpoch
  operation : ActionOperation
  payload : Payload
  postcondition : Option Postcondition
  deriving DecidableEq

structure ActionReceipt where
  actionId : ActionId
  requestId : RequestId
  idempotencyKey : IdempotencyKey
  requestHash : ContentHash
  spaceId : SpaceId
  pageId : Option PageId
  leaseEpoch : LeaseEpoch
  operation : ActionOperation
  status : ActionStatus
  dispatchState : DispatchState
  retryable : Bool
  unknown : Bool
  unknownReason : Option UnknownReason
  reconciliationState : ReconciliationState
  completionSource : CompletionSource
  postcondition : Option Postcondition
  errorCode : Option ErrorCode
  reconcileToken : Option ReconcileToken
  nextAction : NextAction
  startedAt : Option Timestamp
  completedAt : Option Timestamp
  deriving DecidableEq

namespace ActionReceipt

variable {receipt next : ActionReceipt} {code : ErrorCode}

def queued (request : ActionRequest) (startedAt : Option Timestamp) : ActionReceipt where
  actionId := request.actionId
  requestId := request.requestId
  idempotencyKey := request.idempotencyKey
  requestHash := request.requestHash
  spaceId := request.spaceId
  pageId := request.pageId
  leaseEpoch := request.leaseEpoch
  operation := request.operation
  status := .queued
  dispatchState := .notDispatched
  retryable := false
  unknown := false
  unknownReason := none
  reconciliationState := .notRequired
  completionSource := .none
  postcondition := request.postcondition
  errorCode := none
  reconcileToken := none
  nextAction := .none
  startedAt := startedAt
  completedAt := none

def inFlight (receipt : ActionReceipt) : Bool :=
  receipt.dispatchState == .dispatched || receipt.dispatchState == .acknowledged

def markDispatched (receipt : ActionReceipt) : Except ActionTransitionError ActionReceipt :=
  if receipt.status = .queued then
    .ok { receipt with status := .running, dispatchState := .dispatched }
  else .error (.invalidStatus .queued receipt.status)

def markSucceeded (receipt : ActionReceipt) (completedAt : Option Timestamp) (source : CompletionSource) :
    Except ActionTransitionError ActionReceipt :=
  if receipt.status ≠ .running then .error (.invalidStatus .running receipt.status)
  else if source = .none ∨ source = .timeout then .error .invalidCompletionSource
  else .ok { receipt with
    status := .succeeded, retryable := false, unknown := false, unknownReason := none,
    reconciliationState := .notRequired, completionSource := source, nextAction := .none,
    completedAt := completedAt }

def markFailed (receipt : ActionReceipt) (code : ErrorCode) (retryable : Bool)
    (completedAt : Option Timestamp) : Except ActionTransitionError ActionReceipt :=
  if receipt.status ≠ .running then .error (.invalidStatus .running receipt.status)
  else .ok { receipt with
    status := .failed, retryable := retryable, errorCode := some code,
    completionSource := .extension, nextAction := if retryable then .retry else .none,
    completedAt := completedAt }

def cancel (receipt : ActionReceipt) (completedAt : Option Timestamp) :
    Except ActionTransitionError ActionReceipt :=
  if receipt.status ≠ .queued then .error (.invalidStatus .queued receipt.status)
  else .ok { receipt with
    status := .cancelled, dispatchState := .rejected, errorCode := some .cancelled,
    completionSource := .ledger, nextAction := .none, completedAt := completedAt }

def markUnknown (receipt : ActionReceipt) (reason : UnknownReason) (token : ReconcileToken) :
    Except ActionTransitionError ActionReceipt :=
  if receipt.status ≠ .running ∨ receipt.inFlight = false then .error .notDispatched
  else .ok { receipt with
    status := .unknown, unknown := true, unknownReason := some reason,
    reconciliationState := .required, reconcileToken := some token,
    errorCode := some .unknownOutcome, retryable := false, nextAction := .reconcile }

def beginReconciliation (receipt : ActionReceipt) : Except ActionTransitionError ActionReceipt :=
  if receipt.status ≠ .unknown ∨ receipt.reconciliationState ≠ .required then
    .error .reconciliationNotRequired
  else .ok { receipt with reconciliationState := .inProgress }

def reconcileSucceeded (receipt : ActionReceipt) (completedAt : Option Timestamp) :
    Except ActionTransitionError ActionReceipt :=
  if receipt.status ≠ .unknown ∨ receipt.reconciliationState ≠ .inProgress then
    .error .reconciliationNotInProgress
  else .ok { receipt with
    status := .succeeded, unknown := false, unknownReason := none, retryable := false,
    reconciliationState := .reconciledSucceeded, completionSource := .reconciliation,
    errorCode := none, nextAction := .none, completedAt := completedAt }

def reconcileFailed (receipt : ActionReceipt) (code : ErrorCode) (requiresConfirmation : Bool)
    (completedAt : Option Timestamp) : Except ActionTransitionError ActionReceipt :=
  if receipt.status ≠ .unknown ∨ receipt.reconciliationState ≠ .inProgress then
    .error .reconciliationNotInProgress
  else .ok { receipt with
    status := .failed, unknown := false, unknownReason := none, retryable := false,
    reconciliationState := if requiresConfirmation then .requiresConfirmation else .reconciledFailed,
    completionSource := .reconciliation, errorCode := some code,
    nextAction := if requiresConfirmation then .confirm else .none, completedAt := completedAt }

def requiresReconciliation (receipt : ActionReceipt) : Bool :=
  receipt.reconciliationState == .required || receipt.reconciliationState == .inProgress ||
    receipt.reconciliationState == .requiresConfirmation

structure SameRequest (before after : ActionReceipt) : Prop where
  actionId : after.actionId = before.actionId
  requestId : after.requestId = before.requestId
  idempotencyKey : after.idempotencyKey = before.idempotencyKey
  requestHash : after.requestHash = before.requestHash
  spaceId : after.spaceId = before.spaceId
  pageId : after.pageId = before.pageId
  leaseEpoch : after.leaseEpoch = before.leaseEpoch
  operation : after.operation = before.operation
  postcondition : after.postcondition = before.postcondition

theorem SameRequest.refl (receipt : ActionReceipt) : SameRequest receipt receipt :=
  ⟨rfl, rfl, rfl, rfl, rfl, rfl, rfl, rfl, rfl⟩

theorem SameRequest.trans {first second third : ActionReceipt} (left : SameRequest first second)
    (right : SameRequest second third) : SameRequest first third where
  actionId := right.actionId.trans left.actionId
  requestId := right.requestId.trans left.requestId
  idempotencyKey := right.idempotencyKey.trans left.idempotencyKey
  requestHash := right.requestHash.trans left.requestHash
  spaceId := right.spaceId.trans left.spaceId
  pageId := right.pageId.trans left.pageId
  leaseEpoch := right.leaseEpoch.trans left.leaseEpoch
  operation := right.operation.trans left.operation
  postcondition := right.postcondition.trans left.postcondition

theorem markDispatched_ok (moved : receipt.markDispatched = .ok next) :
    receipt.status = .queued ∧ next = { receipt with status := .running, dispatchState := .dispatched } := by
  unfold markDispatched at moved
  split_ifs at moved with queued
  exact ⟨queued, (Except.ok.inj moved).symm⟩

theorem markSucceeded_ok {completedAt : Option Timestamp} {source : CompletionSource}
    (moved : receipt.markSucceeded completedAt source = .ok next) :
    receipt.status = .running ∧ next.status = .succeeded ∧ SameRequest receipt next := by
  unfold markSucceeded at moved
  split_ifs at moved with running
  cases moved
  exact ⟨not_not.mp running, rfl, ⟨rfl, rfl, rfl, rfl, rfl, rfl, rfl, rfl, rfl⟩⟩

theorem markFailed_ok {retryable : Bool} {completedAt : Option Timestamp}
    (moved : receipt.markFailed code retryable completedAt = .ok next) :
    receipt.status = .running ∧ next.status = .failed ∧ SameRequest receipt next := by
  unfold markFailed at moved
  split at moved
  · cases moved
  next running =>
  cases moved
  exact ⟨not_not.mp running, rfl, ⟨rfl, rfl, rfl, rfl, rfl, rfl, rfl, rfl, rfl⟩⟩

theorem cancel_ok {completedAt : Option Timestamp} (moved : receipt.cancel completedAt = .ok next) :
    receipt.status = .queued ∧ next.status = .cancelled ∧ SameRequest receipt next := by
  unfold cancel at moved
  split_ifs at moved with queued
  cases moved
  exact ⟨not_not.mp queued, rfl, ⟨rfl, rfl, rfl, rfl, rfl, rfl, rfl, rfl, rfl⟩⟩

theorem markUnknown_ok {reason : UnknownReason} {token : ReconcileToken}
    (moved : receipt.markUnknown reason token = .ok next) :
    receipt.status = .running ∧ next.status = .unknown ∧ SameRequest receipt next := by
  unfold markUnknown at moved
  split_ifs at moved with running
  cases moved
  exact ⟨not_not.mp fun other => running (Or.inl other), rfl, ⟨rfl, rfl, rfl, rfl, rfl, rfl, rfl, rfl, rfl⟩⟩

theorem beginReconciliation_ok (moved : receipt.beginReconciliation = .ok next) :
    receipt.status = .unknown ∧ receipt.reconciliationState = .required ∧
      next = { receipt with reconciliationState := .inProgress } := by
  unfold beginReconciliation at moved
  split_ifs at moved with required
  push Not at required
  exact ⟨required.1, required.2, (Except.ok.inj moved).symm⟩

theorem reconcileSucceeded_ok {completedAt : Option Timestamp}
    (moved : receipt.reconcileSucceeded completedAt = .ok next) :
    receipt.status = .unknown ∧ next.status = .succeeded ∧ SameRequest receipt next := by
  unfold reconcileSucceeded at moved
  split_ifs at moved with progress
  cases moved
  exact ⟨not_not.mp fun other => progress (Or.inl other), rfl, ⟨rfl, rfl, rfl, rfl, rfl, rfl, rfl, rfl, rfl⟩⟩

theorem reconcileFailed_ok {confirmation : Bool} {completedAt : Option Timestamp}
    (moved : receipt.reconcileFailed code confirmation completedAt = .ok next) :
    receipt.status = .unknown ∧ next.status = .failed ∧ SameRequest receipt next := by
  unfold reconcileFailed at moved
  split at moved
  · cases moved
  next progress =>
  cases moved
  exact ⟨not_not.mp fun other => progress (Or.inl other), rfl, ⟨rfl, rfl, rfl, rfl, rfl, rfl, rfl, rfl, rfl⟩⟩

end ActionReceipt

end AgentycHost

/-!
# The validator of receipts

Which combinations of status, dispatch, outcome and reconciliation a receipt may
show, and the histories that its transitions make.
-/

namespace AgentycHost

open Shared

inductive ActionReceiptValidationError where
  | invariant (message : String)
  deriving DecidableEq

namespace ActionReceipt

def markAcknowledged (receipt : ActionReceipt) : Except ActionTransitionError ActionReceipt :=
  if receipt.status ≠ .running ∨ receipt.dispatchState ≠ .dispatched then .error .invalidDispatchState
  else .ok { receipt with dispatchState := .acknowledged }

def inTime (receipt : ActionReceipt) : Bool :=
  receipt.startedAt.all fun started => receipt.completedAt.all fun completed => decide (started ≤ completed)

def isDefinitive : CompletionSource -> Bool
  | .extension | .reconciliation | .ledger => true
  | .none | .timeout => false

def withoutOutcome (receipt : ActionReceipt) : Bool :=
  !receipt.unknown && receipt.unknownReason.isNone && receipt.reconciliationState == .notRequired &&
    receipt.completionSource == .none && receipt.errorCode.isNone && !receipt.retryable &&
    receipt.reconcileToken.isNone && receipt.nextAction == .none && receipt.completedAt.isNone

def validateSucceeded (receipt : ActionReceipt) : Except ActionReceiptValidationError Unit := do
  require (receipt.inFlight && !receipt.unknown && receipt.unknownReason.isNone &&
      isDefinitive receipt.completionSource && !receipt.retryable && receipt.errorCode.isNone &&
      receipt.nextAction == .none)
    (.invariant "succeeded receipt has an invalid outcome state")
  if receipt.reconciliationState = .reconciledSucceeded then
    require (receipt.completionSource == .reconciliation && receipt.reconcileToken.isSome)
      (.invariant "reconciled success requires reconciliation provenance")
  else
    require (receipt.reconciliationState == .notRequired && receipt.reconcileToken.isNone)
      (.invariant "succeeded receipt has an invalid reconciliation state")

def validateFailed (receipt : ActionReceipt) : Except ActionReceiptValidationError Unit := do
  let reconciled := receipt.reconciliationState == .reconciledFailed ||
    receipt.reconciliationState == .requiresConfirmation
  require (receipt.inFlight && !receipt.unknown && receipt.unknownReason.isNone && receipt.errorCode.isSome &&
      !(receipt.errorCode == some .unknownOutcome) && isDefinitive receipt.completionSource &&
      receipt.nextAction == if receipt.retryable then .retry else .none)
    (.invariant "failed receipt has an invalid outcome state")
  require (!(reconciled && !(receipt.completionSource == .reconciliation)))
    (.invariant "reconciled failure requires reconciliation provenance")
  require ((receipt.reconciliationState == .notRequired || reconciled) &&
      !(receipt.reconciliationState == .notRequired && receipt.reconcileToken.isSome) &&
      !(reconciled && receipt.reconcileToken.isNone))
    (.invariant "failed receipt has an invalid reconciliation state")

def validateInvariants (receipt : ActionReceipt) : Except ActionReceiptValidationError Unit := do
  require receipt.inTime (.invariant "completed_at must not precede started_at")
  match receipt.status with
  | .queued =>
      require ((receipt.dispatchState == .notDispatched || receipt.dispatchState == .queued) && receipt.withoutOutcome)
        (.invariant "queued receipt has terminal or dispatched fields")
  | .running =>
      require (receipt.inFlight && receipt.withoutOutcome)
        (.invariant "running receipt has an invalid dispatch or completion state")
  | .succeeded => receipt.validateSucceeded
  | .failed => receipt.validateFailed
  | .cancelled =>
      require (receipt.dispatchState == .rejected && !receipt.unknown && receipt.unknownReason.isNone &&
          receipt.reconciliationState == .notRequired && receipt.completionSource == .ledger &&
          receipt.errorCode == some .cancelled && !receipt.retryable && receipt.reconcileToken.isNone &&
          receipt.nextAction == .none)
        (.invariant "cancelled receipt has an invalid outcome state")
  | .unknown =>
      require (receipt.inFlight && receipt.unknown && receipt.unknownReason.isSome &&
          receipt.requiresReconciliation && receipt.completionSource == .none &&
          receipt.errorCode == some .unknownOutcome && !receipt.retryable && receipt.nextAction == .reconcile &&
          receipt.reconcileToken.isSome && receipt.completedAt.isNone)
        (.invariant "unknown receipt must require reconciliation")

end ActionReceipt

inductive ReceiptTransition where
  | markDispatched
  | markAcknowledged
  | markSucceeded (completedAt : Option Timestamp) (source : CompletionSource)
  | markFailed (code : ErrorCode) (retryable : Bool) (completedAt : Option Timestamp)
  | cancel (completedAt : Option Timestamp)
  | markUnknown (reason : UnknownReason) (token : ReconcileToken)
  | beginReconciliation
  | reconcileSucceeded (completedAt : Option Timestamp)
  | reconcileFailed (code : ErrorCode) (requiresConfirmation : Bool) (completedAt : Option Timestamp)
  deriving DecidableEq

namespace ReceiptTransition

def apply (receipt : ActionReceipt) : ReceiptTransition -> Except ActionTransitionError ActionReceipt
  | .markDispatched => receipt.markDispatched
  | .markAcknowledged => receipt.markAcknowledged
  | .markSucceeded completedAt source => receipt.markSucceeded completedAt source
  | .markFailed code retryable completedAt => receipt.markFailed code retryable completedAt
  | .cancel completedAt => receipt.cancel completedAt
  | .markUnknown reason token => receipt.markUnknown reason token
  | .beginReconciliation => receipt.beginReconciliation
  | .reconcileSucceeded completedAt => receipt.reconcileSucceeded completedAt
  | .reconcileFailed code requiresConfirmation completedAt =>
      receipt.reconcileFailed code requiresConfirmation completedAt

def completedAt : ReceiptTransition -> Option Timestamp
  | .markSucceeded completedAt _ | .markFailed _ _ completedAt | .cancel completedAt
  | .reconcileSucceeded completedAt | .reconcileFailed _ _ completedAt => completedAt
  | .markDispatched | .markAcknowledged | .markUnknown _ _ | .beginReconciliation => none

def failure : ReceiptTransition -> Option ErrorCode
  | .markFailed code _ _ | .reconcileFailed code _ _ => some code
  | _ => none

def asksConfirmation : ReceiptTransition -> Bool
  | .reconcileFailed _ requiresConfirmation _ => requiresConfirmation
  | _ => false

end ReceiptTransition

abbrev ReceiptMoment := Moment ActionReceipt ReceiptTransition

/-- The transitions of a receipt that return `Ok`, latest first. -/
abbrev ReceiptHistory (start : ActionReceipt) : List ReceiptMoment -> ActionReceipt -> Prop :=
  Run (fun transition before after => transition.apply before = .ok after) start

def timestamps (startedAt : Option Timestamp) (trace : List ReceiptMoment) : List Timestamp :=
  trace.filterMap (fun moment => moment.label.completedAt) ++ startedAt.toList

end AgentycHost
