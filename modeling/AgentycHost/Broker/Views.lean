import AgentycHost.Broker.Authority

set_option autoImplicit false

/-!
# The principal-filtered view of the ledger
-/

namespace AgentycHost

open Shared

def isVisibleSpace (state : LedgerState) (principalId : PrincipalId) (spaceId : SpaceId) : Bool :=
  (state.spaces.get? spaceId).any fun space => visibleToPrincipal space principalId

def visibleState (state : LedgerState) (principalId : PrincipalId) : LedgerState :=
  let visible := isVisibleSpace state principalId
  let actions := state.actions.filter fun _ receipt => visible receipt.spaceId
  { state with
    spaces := state.spaces.filter fun spaceId _ => visible spaceId
    spaceGenerations := state.spaceGenerations.filter fun spaceId _ => visible spaceId
    profileBindings := state.profileBindings.filter fun spaceId _ => visible spaceId
    controlTickets := state.controlTickets.filter fun spaceId _ => visible spaceId
    actions := actions
    actionRequests := state.actionRequests.filter fun actionId _ => actions.contains actionId
    idempotency := state.idempotency.filter fun _ actionId => actions.contains actionId
    actionQueues := state.actionQueues.filter fun spaceId _ => visible spaceId
    snapshots := state.snapshots.filter fun spaceId _ => visible spaceId
    events := state.events.filter fun event => event.scope.spaceId.all visible }

def ledgerView (state : LedgerState) (authority : AuthorityTicket) : Except HostError LedgerState := do
  authorizeTicket state authority
  .ok (visibleState state authority.principalId)

inductive LedgerRecord where
  | space (spaceId : SpaceId) (space : SpaceDescriptor)
  | generation (spaceId : SpaceId) (generation : Generation)
  | profileBinding (spaceId : SpaceId) (binding : ProfileBindingId)
  | controlTicket (spaceId : SpaceId) (ticket : ControlTicketRecord)
  | pendingFence (spaceId : SpaceId) (pending : PendingFenceRecord)
  | takeoverProofs (spaceId : SpaceId) (proofs : List TakeoverProofRecord)
  | leaseHolder (spaceId : SpaceId) (holder : ConnectionEpoch)
  | queue (spaceId : SpaceId) (queued : List ActionId)
  | snapshots (spaceId : SpaceId) (cached : PageId -> Option SnapshotCacheRecord)
  | action (actionId : ActionId) (receipt : ActionReceipt)
  | request (actionId : ActionId) (request : ActionRequest)
  | idempotency (key : IdempotencyKey) (actionId : ActionId)
  | event (event : EventRecord)
  | connection (epoch : ConnectionEpoch) (connection : ActiveConnection)

namespace LedgerState

variable (state : LedgerState) (principalId : PrincipalId)

def Holds : LedgerRecord -> Prop
  | .space spaceId space => state.spaces.get? spaceId = some space
  | .generation spaceId generation => state.spaceGenerations.get? spaceId = some generation
  | .profileBinding spaceId binding => state.profileBindings.get? spaceId = some binding
  | .controlTicket spaceId ticket => state.controlTickets.get? spaceId = some ticket
  | .pendingFence spaceId pending => state.pendingFences.get? spaceId = some pending
  | .takeoverProofs spaceId proofs => state.takeoverProofs.get? spaceId = some proofs
  | .leaseHolder spaceId holder => state.leaseHolders.get? spaceId = some holder
  | .queue spaceId queued => state.actionQueues.get? spaceId = some queued
  | .snapshots spaceId cached => (state.snapshots.get? spaceId).map Table.get? = some cached
  | .action actionId receipt => state.actions.get? actionId = some receipt
  | .request actionId request => state.actionRequests.get? actionId = some request
  | .idempotency key actionId => state.idempotency.get? key = some actionId
  | .event event => event ∈ state.events
  | .connection epoch connection => state.activeConnections.get? epoch = some connection

def spaceOf : LedgerRecord -> Option SpaceId
  | .space spaceId _ | .generation spaceId _ | .profileBinding spaceId _ | .controlTicket spaceId _
  | .pendingFence spaceId _ | .takeoverProofs spaceId _ | .leaseHolder spaceId _ | .queue spaceId _
  | .snapshots spaceId _ => some spaceId
  | .action _ receipt => some receipt.spaceId
  | .request _ request => some request.spaceId
  | .idempotency _ actionId => (state.actions.get? actionId).map (·.spaceId)
  | .event event => event.scope.spaceId
  | .connection .. => none

def Hides (record : LedgerRecord) : Prop :=
  ∃ spaceId, state.spaceOf record = some spaceId ∧ isVisibleSpace state principalId spaceId = false

def showsAction (actionId : ActionId) : Bool :=
  (state.actions.get? actionId).any fun receipt => isVisibleSpace state principalId receipt.spaceId

def Passes : LedgerRecord -> Prop
  | .space spaceId _ | .generation spaceId _ | .profileBinding spaceId _ | .controlTicket spaceId _
  | .queue spaceId _ | .snapshots spaceId _ => isVisibleSpace state principalId spaceId = true
  | .action _ receipt => isVisibleSpace state principalId receipt.spaceId = true
  | .request actionId _ => state.showsAction principalId actionId = true
  | .idempotency _ actionId => state.showsAction principalId actionId = true
  | .event event => event.scope.spaceId.all (isVisibleSpace state principalId) = true
  | .pendingFence .. | .takeoverProofs .. | .leaseHolder .. | .connection .. => True

def SameHeader (other : LedgerState) : Prop :=
  state.schemaVersion = other.schemaVersion ∧ state.brokerEpoch = other.brokerEpoch ∧
    state.connectionEpoch = other.connectionEpoch ∧ state.usedConnectionNonces = other.usedConnectionNonces ∧
    state.connectionPrincipalId = other.connectionPrincipalId ∧ state.connectionNonce = other.connectionNonce ∧
    state.connectionProfileBindingId = other.connectionProfileBindingId ∧
    state.nextSpaceNumber = other.nextSpaceNumber ∧ state.nextPageNumber = other.nextPageNumber ∧
    state.eventSequence = other.eventSequence ∧
    state.extensionProfileBindingId = other.extensionProfileBindingId ∧
    state.extensionWorkerInstanceEpoch = other.extensionWorkerInstanceEpoch ∧
    state.extensionBrowserSessionEpoch = other.extensionBrowserSessionEpoch

def Same (other : LedgerState) : Prop :=
  state.SameHeader other ∧ (∀ record, state.Holds record <-> other.Holds record) ∧
    state.events = other.events

end LedgerState

variable {state : LedgerState} {principalId : PrincipalId}

theorem isVisibleSpace_iff (spaceId : SpaceId) : isVisibleSpace state principalId spaceId = true <->
    ∃ space, state.spaces.get? spaceId = some space ∧ visibleToPrincipal space principalId = true := by
  simp [isVisibleSpace, Option.any_eq_true]

theorem showsAction_iff (actionId : ActionId) : state.showsAction principalId actionId = true <->
    ∃ receipt, state.actions.get? actionId = some receipt ∧
      isVisibleSpace state principalId receipt.spaceId = true := by
  simp [LedgerState.showsAction, Option.any_eq_true]

theorem contains_actions_visibleState (actionId : ActionId) :
    (state.actions.filter fun _ receipt => isVisibleSpace state principalId receipt.spaceId).contains actionId =
      state.showsAction principalId actionId := by
  rw [Table.contains, Table.get?_filter, LedgerState.showsAction]
  cases found : state.actions.get? actionId with
  | none => rfl
  | some receipt => cases shown : isVisibleSpace state principalId receipt.spaceId <;> simp [Option.filter, shown]

theorem holds_visibleState (record : LedgerRecord) :
    (visibleState state principalId).Holds record <-> state.Holds record ∧ state.Passes principalId record := by
  cases record <;>
    simp only [LedgerState.Holds, LedgerState.Passes, visibleState, Table.get?_filter, Option.filter_eq_some_iff,
      contains_actions_visibleState, List.mem_filter, and_true]
  case snapshots spaceId cached =>
    cases found : state.snapshots.get? spaceId with
    | none => simp
    | some pages => cases shown : isVisibleSpace state principalId spaceId <;> simp [Option.filter]

end AgentycHost
