import AgentycHost.Broker.Sessions

set_option autoImplicit false

/-!
# Leases, fences and user control

Every operation that advances a lease epoch, and the commits that complete or
retry the fence it started.
-/

namespace AgentycHost

open Shared

structure ControlTicket where
  spaceId : SpaceId
  brokerEpoch : BrokerEpoch
  fenceEpoch : LeaseEpoch
  token : ReconcileToken
  deriving DecidableEq

structure FenceRequest where
  spaceId : SpaceId
  oldEpoch : Option LeaseEpoch
  fenceEpoch : LeaseEpoch
  token : ReconcileToken
  deriving DecidableEq

def actionChanged (state : LedgerState) (spaceId : SpaceId) (actionId : ActionId) (status : String)
    (resyncRequired : Bool) : Except HostError LedgerState :=
  appendEvent state (.space spaceId) .actionChanged [("action_id", actionId.text), ("status", status)] none
    resyncRequired

def leaseChanged (state : LedgerState) (spaceId : SpaceId) (epoch : LeaseEpoch) (phase : String)
    (resyncRequired : Bool) : Except HostError LedgerState :=
  appendEvent state (.space spaceId) .leaseChanged [("lease_epoch", toString epoch), ("state", phase)] none
    resyncRequired

def spaceChanged (state : LedgerState) (spaceId : SpaceId) (lifecycle : String) (resyncRequired : Bool) :
    Except HostError LedgerState :=
  appendEvent state (.space spaceId) .spaceChanged [("lifecycle", lifecycle)] none resyncRequired

def grantedSpace (space : SpaceDescriptor) (principalId : PrincipalId) (lease : Lease) : SpaceDescriptor :=
  { space with lease := some lease, owner := principalId, lifecycle := .agentOwned }

def isOpenToOthers : SpaceLifecycle -> Bool
  | .created | .orphaned | .paused | .released => true
  | _ => false

def acquireLease (spaceId : SpaceId) (authority : AuthorityTicket) (now expiresAt renewBy : Timestamp) :
    Transition Lease := fun state => do
  authorizeTicket state authority
  authorizeProfileForMutation state spaceId authority
  let space <- findSpace state spaceId
  match space.lease.filter fun current => current.state == .active && decide (now < current.expiresAt) with
  | some current =>
      if current.principalId = authority.principalId then do
        authorizeLeaseHolder state spaceId authority
        pure (current, state)
      else .error (.new .spaceForbidden "space has an active lease; use explicit takeover")
  | none =>
      require (space.lifecycle ≠ .userOwned)
        (.new .userControlRequired "user-owned space requires an explicit control ticket")
      require (!isFenceLifecycle space.lifecycle)
        (.new .permissionDenied "space has a pending fence; acknowledge or reconcile it first")
      require (isOpenToOthers space.lifecycle || space.owner == authority.principalId)
        (.new .spaceForbidden "space is not available for this principal")
      let epoch <- orElse (checkedNext ((space.lease.map (·.leaseEpoch)).getD 0)) (.invalidArgument "lease epoch overflow")
      let lease := Lease.active authority.principalId epoch expiresAt renewBy
      let next := { state.changeSpace spaceId (grantedSpace · authority.principalId lease) with
        leaseHolders := state.leaseHolders.insert spaceId authority.connectionEpoch }
      let next <- leaseChanged next spaceId epoch "active" false
      let next <- spaceChanged next spaceId "agent_owned" false
      pure (lease, next)

def renewedLease (expiresAt renewBy : Timestamp) (lease : Lease) : Lease :=
  { lease with expiresAt, renewBy, state := .active }

def renewLease (spaceId : SpaceId) (authority : AuthorityTicket) (leaseEpoch : LeaseEpoch)
    (now expiresAt renewBy : Timestamp) : Transition Unit := fun state => do
  authorizeTicket state authority
  authorizeSpace state spaceId authority leaseEpoch now true
  let next := state.changeSpace spaceId fun space => { space with lease := space.lease.map (renewedLease expiresAt renewBy) }
  let next <- leaseChanged next spaceId leaseEpoch "active" false
  pure ((), next)

def cancelQueue (spaceId : SpaceId) (now : Timestamp) (state : LedgerState) : Except HostError LedgerState :=
  (state.queue spaceId).foldlM (fun state actionId =>
    match (state.actions.get? actionId).filter fun receipt => receipt.status == .queued with
    | none => pure state
    | some receipt => do
        let receipt <- (receipt.cancel (some now)).mapError .action
        actionChanged { state with actions := state.actions.insert actionId receipt } spaceId actionId "cancelled" false)
    { state with actionQueues := state.actionQueues.erase spaceId }

def runningIn (state : LedgerState) (spaceId : SpaceId) : List ActionId :=
  (state.actions.filter fun _ receipt => receipt.spaceId == spaceId && receipt.status == .running).keys

def interruptRunning (spaceId : SpaceId) (token : ReconcileToken) (state : LedgerState) : Except HostError LedgerState :=
  (runningIn state spaceId).foldlM (fun state actionId =>
    match state.actions.get? actionId with
    | none => pure state
    | some receipt => do
        let receipt <- (receipt.markUnknown .fenceInterrupted token).mapError .action
        actionChanged { state with actions := state.actions.insert actionId receipt } spaceId actionId "unknown" true)
    state

def bumpPages (space : SpaceDescriptor) : Except HostError SpaceDescriptor := do
  let pages <- space.pages.mapM bumpPageGenerations
  pure { space with pages }

def pendingFence (state : LedgerState) (request : FenceRequest) (principalId : PrincipalId) (purpose : FencePurpose) :
    PendingFenceRecord where
  spaceId := request.spaceId
  brokerEpoch := state.brokerEpoch
  requestToken := request.token
  oldEpoch := request.oldEpoch
  fenceEpoch := request.fenceEpoch
  principalId := principalId
  purpose := purpose

/-- The lease moves to the fence epoch, the pages get new generations, the snapshots are dropped,
the queue is cancelled and running work becomes unknown. -/
def startFence (state : LedgerState) (space : SpaceDescriptor) (request : FenceRequest) (principalId : PrincipalId)
    (purpose : FencePurpose) (now : Timestamp) (unknownToken : ReconcileToken) : Except HostError LedgerState := do
  let space <- bumpPages space
  let state := { state with
    spaces := state.spaces.insert request.spaceId { space with lifecycle := .fencePending }
    snapshots := state.snapshots.erase request.spaceId }
  let state <- cancelQueue request.spaceId now state
  let state <- interruptRunning request.spaceId unknownToken state
  pure { state with
    pendingFences := state.pendingFences.insert request.spaceId (pendingFence state request principalId purpose) }

def returnControl (spaceId : SpaceId) (authority : AuthorityTicket) (leaseEpoch : LeaseEpoch) (now : Timestamp) :
    Transition FenceRequest := fun state => do
  authorizeTicket state authority
  authorizeSpace state spaceId authority leaseEpoch now true
  let fenceEpoch <- orElse (checkedNext leaseEpoch) (.invalidArgument "lease epoch overflow")
  let request : FenceRequest :=
    { spaceId, oldEpoch := some leaseEpoch, fenceEpoch,
      token := .fenceRequest .returnControl state.brokerEpoch spaceId fenceEpoch }
  let space <- findSpace state spaceId
  let lease <- orElse space.lease (.new .spaceForbidden "space has no active lease")
  let space := { space with lease := some { lease with leaseEpoch := fenceEpoch, state := .fenced } }
  let next <- startFence state space request authority.principalId .returnControl now (.returned fenceEpoch)
  let next <- leaseChanged next spaceId fenceEpoch "fence_pending" true
  pure (request, next)

def ownedFence (authority : AuthorityTicket) (space : SpaceDescriptor) (fenceEpoch : LeaseEpoch) : Bool :=
  space.lease.any fun lease => lease.principalId == authority.principalId && lease.leaseEpoch == fenceEpoch

def returnedPage (page : PageDescriptor) : PageDescriptor :=
  { page with ownership := .user, binding := .userOwned, lifecycle := .userOwned }

def returnedSpace (space : SpaceDescriptor) : SpaceDescriptor :=
  { space with
    lease := space.lease.map fun lease => { lease with state := .released }
    lifecycle := .userOwned
    pages := space.pages.map returnedPage }

def finishUserReturn (request : FenceRequest) (releasedEpoch : LeaseEpoch) (authority : AuthorityTicket) :
    Transition ControlTicket := fun state => do
  let { spaceId, fenceEpoch, .. } := request
  authorizeTicket state authority
  let pending <- orElse (state.pendingFences.get? spaceId)
    (.new .staleLease "user-return fence completion is no longer pending")
  require (pending.purpose == .returnControl && pending.requestToken == request.token &&
      pending.brokerEpoch == state.brokerEpoch && pending.fenceEpoch == fenceEpoch &&
      pending.oldEpoch == some releasedEpoch && pending.principalId == authority.principalId)
    (.new .staleLease "user-return fence completion does not match the pending request")
  authorizeLeaseHolder state spaceId authority
  let space <- findSpace state spaceId
  require (space.lifecycle == .fencePending && ownedFence authority space fenceEpoch &&
      leaseStateIn space.lease [.fenced])
    (.core (.staleLease fenceEpoch releasedEpoch))
  let ticket : ControlTicketRecord :=
    { spaceId, brokerEpoch := state.brokerEpoch, fenceEpoch, token := .control fenceEpoch }
  let next := { state.changeSpace spaceId returnedSpace with
    leaseHolders := state.leaseHolders.erase spaceId
    pendingFences := state.pendingFences.erase spaceId
    controlTickets := state.controlTickets.insert spaceId ticket }
  let next <- leaseChanged next spaceId fenceEpoch "released" false
  let next <- spaceChanged next spaceId "user_owned" false
  pure ({ spaceId, brokerEpoch := state.brokerEpoch, fenceEpoch, token := .control fenceEpoch }, next)

def authorizeTakeoverHolder (state : LedgerState) (spaceId : SpaceId) (authority : AuthorityTicket) (lease : Lease) :
    Except HostError Unit :=
  if lease.state = .active then authorizeLeaseHolder state spaceId authority else .ok ()

def takeover (spaceId : SpaceId) (authority : AuthorityTicket) (now expiresAt renewBy : Timestamp) :
    Transition FenceRequest := fun state => do
  authorizeTicket state authority
  authorizeProfileForMutation state spaceId authority
  let space <- findSpace state spaceId
  require (space.lifecycle ≠ .userOwned)
    (.new .userControlRequired "user-owned space requires its control ticket")
  require (!isFenceLifecycle space.lifecycle)
    (.new .permissionDenied "space already has a pending fence; acknowledge it first")
  let lease <- orElse space.lease (.new .spaceForbidden "space has no current authority")
  require (lease.principalId == authority.principalId &&
      (lease.state == .active || (space.lifecycle == .orphaned && lease.state == .fenced)))
    (.new .permissionDenied "takeover requires the current authority or a control ticket")
  authorizeTakeoverHolder state spaceId authority lease
  let fenceEpoch <- orElse (checkedNext lease.leaseEpoch) (.invalidArgument "lease epoch overflow")
  let request : FenceRequest :=
    { spaceId, oldEpoch := some lease.leaseEpoch, fenceEpoch,
      token := .fenceRequest .takeover state.brokerEpoch spaceId fenceEpoch }
  let space := { space with
    owner := authority.principalId, lease := some (.active authority.principalId fenceEpoch expiresAt renewBy) }
  let state := { state with leaseHolders := state.leaseHolders.insert spaceId authority.connectionEpoch }
  let next <- startFence state space request authority.principalId .takeover now (.fence fenceEpoch)
  let next <- leaseChanged next spaceId fenceEpoch "fence_pending" false
  pure (request, next)

def takeoverWithControlTicket (spaceId : SpaceId) (authority : AuthorityTicket) (ticket : ControlTicket)
    (expiresAt renewBy : Timestamp) : Transition FenceRequest := fun state => do
  authorizeTicket state authority
  authorizeProfileForMutation state spaceId authority
  let space <- findSpace state spaceId
  let lease <- orElse space.lease (.new .userControlRequired "user-owned space has no control fence")
  require (space.lifecycle == .userOwned && ticket.spaceId == spaceId && ticket.brokerEpoch == state.brokerEpoch &&
      ticket.fenceEpoch == lease.leaseEpoch &&
      (state.controlTickets.get? spaceId).any fun record => record.token == ticket.token)
    (.new .permissionDenied "control ticket is stale or belongs to another space")
  let fenceEpoch <- orElse (checkedNext lease.leaseEpoch) (.invalidArgument "lease epoch overflow")
  let request : FenceRequest :=
    { spaceId, oldEpoch := some lease.leaseEpoch, fenceEpoch,
      token := .fenceRequest .takeover state.brokerEpoch spaceId fenceEpoch }
  let space <- bumpPages space
  let space := { space with
    owner := authority.principalId, lease := some (.active authority.principalId fenceEpoch expiresAt renewBy),
    lifecycle := .fencePending }
  let next := { state with
    spaces := state.spaces.insert spaceId space
    leaseHolders := state.leaseHolders.insert spaceId authority.connectionEpoch
    controlTickets := state.controlTickets.erase spaceId
    takeoverProofs := state.takeoverProofs.erase spaceId
    snapshots := state.snapshots.erase spaceId
    pendingFences := state.pendingFences.insert spaceId (pendingFence state request authority.principalId .takeover) }
  let next <- leaseChanged next spaceId fenceEpoch "fence_pending" true
  pure (request, next)

def acknowledgeReturnControl (spaceId : SpaceId) (authority : AuthorityTicket) (fenceEpoch : LeaseEpoch)
    (state : LedgerState) : Except HostError (FenceRequest × LeaseEpoch) := do
  authorizeTicket state authority
  let space <- findSpace state spaceId
  let pending <- orElse (state.pendingFences.get? spaceId)
    (.new .permissionDenied "user-return fence request is missing")
  require (pending.purpose == .returnControl && pending.fenceEpoch == fenceEpoch &&
      pending.principalId == authority.principalId && ownedFence authority space fenceEpoch &&
      leaseStateIn space.lease [.fenced] && space.lifecycle == .fencePending &&
      state.leaseHolders.get? spaceId == some authority.connectionEpoch)
    (.new .permissionDenied "user-return fence is not owned by this authority")
  pure ({ spaceId, oldEpoch := pending.oldEpoch, fenceEpoch, token := pending.requestToken },
    pending.oldEpoch.getD (fenceEpoch - 1))

/-- The first commit of a retried fence: claim it and, for a takeover, renew the lease. The flag of
the result says that the fence returns the space to its user. -/
def acknowledgeFence (spaceId : SpaceId) (authority : AuthorityTicket) (leaseEpoch : LeaseEpoch)
    (renewal : Option (Timestamp × Timestamp)) : Transition (FenceRequest × Bool) := fun state => do
  authorizeTicket state authority
  let pending <- orElse (state.pendingFences.get? spaceId)
    (.new .permissionDenied "pending fence request is missing")
  require (pending.fenceEpoch == leaseEpoch && pending.principalId == authority.principalId &&
      ((state.spaces.get? spaceId).any fun space =>
        space.lifecycle == .fencePending && ownedFence authority space leaseEpoch) &&
      state.leaseHolders.get? spaceId == some authority.connectionEpoch)
    (.new .permissionDenied "fence acknowledgement is not owned by this authority")
  let returnPending := pending.purpose == .returnControl
  require (!(returnPending && renewal.isSome))
    (.new .permissionDenied "user-control fence cannot renew an agent lease")
  let request : FenceRequest :=
    { spaceId, oldEpoch := pending.oldEpoch, fenceEpoch := leaseEpoch, token := pending.requestToken }
  match renewal with
  | none => pure ((request, returnPending), state)
  | some (expiresAt, renewBy) =>
      let next := state.changeSpace spaceId fun space =>
        { space with lease := space.lease.map (renewedLease expiresAt renewBy) }
      let next <- leaseChanged next spaceId leaseEpoch "fence_pending" false
      pure ((request, returnPending), next)

def reclaimedPage (page : PageDescriptor) : PageDescriptor :=
  let page := if page.lifecycle = .userOwned then { page with lifecycle := .managed, binding := .bound } else page
  if page.lifecycle = .managed then { page with ownership := .agent } else page

def reclaimedSpace (space : SpaceDescriptor) : SpaceDescriptor :=
  { space with lifecycle := .agentOwned, pages := space.pages.map reclaimedPage }

def stillFencedSpace (bridgeError : Option String) (space : SpaceDescriptor) : SpaceDescriptor :=
  let space := { space with lifecycle := .fencePending }
  match bridgeError with
  | none => space
  | some code => space.warn ("fence pending: " ++ code)

def addTakeoverProof (proofs : List TakeoverProofRecord) (proof : TakeoverProofRecord) : List TakeoverProofRecord :=
  let proofs := proofs ++ [proof]
  if 64 < proofs.length then proofs.drop 1 else proofs

def finishFence (request : FenceRequest) (authority : AuthorityTicket) (acknowledged : Bool)
    (bridgeError : Option String) : Transition SpaceLifecycle := fun state => do
  let { spaceId, fenceEpoch, .. } := request
  authorizeTicket state authority
  let pending <- orElse (state.pendingFences.get? spaceId)
    (.new .staleLease "fence completion is no longer pending")
  require (pending.purpose == .takeover && pending.requestToken == request.token &&
      pending.brokerEpoch == state.brokerEpoch && pending.fenceEpoch == fenceEpoch &&
      pending.principalId == authority.principalId)
    (.new .staleLease "fence completion does not match the pending request")
  let space <- findSpace state spaceId
  require (ownedFence authority space fenceEpoch &&
      state.leaseHolders.get? spaceId == some authority.connectionEpoch)
    (.core (.staleLease ((space.lease.map (·.leaseEpoch)).getD 0) fenceEpoch))
  if acknowledged then do
    let previousEpoch <- orElse pending.oldEpoch
      (.new .ledgerIncompatible "takeover fence has no previous lease epoch")
    let proof : TakeoverProofRecord :=
      { spaceId, brokerEpoch := state.brokerEpoch, previousEpoch, currentEpoch := fenceEpoch,
        principalId := authority.principalId, requestToken := pending.requestToken }
    let next := { state.changeSpace spaceId reclaimedSpace with
      pendingFences := state.pendingFences.erase spaceId
      takeoverProofs := state.takeoverProofs.insert spaceId
        (addTakeoverProof ((state.takeoverProofs.get? spaceId).getD []) proof) }
    let next <- spaceChanged next spaceId "agent_owned" false
    pure (.agentOwned, next)
  else do
    let next <- spaceChanged (state.changeSpace spaceId (stillFencedSpace bridgeError)) spaceId "fence_pending" true
    pure (.fencePending, next)

def spaceLifecycleName : SpaceLifecycle -> String
  | .created => "created"
  | .agentOwned => "agent_owned"
  | .handoffRequested => "handoff_requested"
  | .draining => "draining"
  | .paused => "paused"
  | .userOwned => "user_owned"
  | .orphaned => "orphaned"
  | .recovering => "recovering"
  | .finished => "finished"
  | .released => "released"
  | .fencePending => "fence_pending"
  | .fenceDispatched => "fence_dispatched"
  | .fenceAcknowledged => "fence_acknowledged"

def fencedSpace (lifecycle : SpaceLifecycle) (space : SpaceDescriptor) : SpaceDescriptor :=
  { space with lease := space.lease.map fun lease => { lease with state := .fenced }, lifecycle := lifecycle }

def setFencedSpaceLifecycle (spaceId : SpaceId) (authority : AuthorityTicket) (leaseEpoch : LeaseEpoch)
    (lifecycle : SpaceLifecycle) (now : Timestamp) : Transition Unit := fun state => do
  authorizeSpace state spaceId authority leaseEpoch now true
  let next := { state.changeSpace spaceId (fencedSpace lifecycle) with
    takeoverProofs := state.takeoverProofs.erase spaceId }
  let next <- spaceChanged next spaceId (spaceLifecycleName lifecycle) false
  pure ((), next)

end AgentycHost
