import AgentycHost.Ledger.Commit

set_option autoImplicit false

/-!
# Authorization

Which connection may act on which space, and under which lease.
-/

namespace AgentycHost

open Shared

structure AuthorityTicket where
  principalId : PrincipalId
  brokerEpoch : BrokerEpoch
  connectionEpoch : ConnectionEpoch
  profileBindingId : Option ProfileBindingId
  connectionNonce : ConnectionNonce
  deriving DecidableEq

structure CleanupProof where
  pageId : PageId
  generation : PageGeneration
  deriving DecidableEq

def connectionMatches (state : LedgerState) (authority : AuthorityTicket) : Bool :=
  (state.activeConnections.get? authority.connectionEpoch).any fun current =>
    current.principalId == authority.principalId && current.connectionNonce == authority.connectionNonce &&
      current.profileBindingId == authority.profileBindingId

def authorityIsCurrent (state : LedgerState) (authority : AuthorityTicket) : Bool :=
  authority.brokerEpoch == state.brokerEpoch && !(authority.connectionEpoch == 0) &&
    connectionMatches state authority

def authorizeTicket (state : LedgerState) (authority : AuthorityTicket) : Except HostError Unit := do
  require (authority.brokerEpoch == state.brokerEpoch)
    (.new .permissionDenied "authority ticket belongs to another broker epoch")
  require (authorityIsCurrent state authority)
    (.new .permissionDenied "authority ticket is not an active connection authority")

def authorizeLeaseHolder (state : LedgerState) (spaceId : SpaceId) (authority : AuthorityTicket) :
    Except HostError Unit :=
  require (state.leaseHolders.get? spaceId == some authority.connectionEpoch)
    (.new .permissionDenied "space lease belongs to another agent session")

def findSpace (state : LedgerState) (spaceId : SpaceId) : Except HostError SpaceDescriptor :=
  orElse (state.spaces.get? spaceId) (.new .spaceNotFound "logical space not found")

def findPage (state : LedgerState) (spaceId : SpaceId) (pageId : PageId) : Except HostError PageDescriptor :=
  orElse (state.page spaceId pageId) (.new .pageNotFound "logical page not found")

def authorizeProfileForMutation (state : LedgerState) (spaceId : SpaceId) (authority : AuthorityTicket) :
    Except HostError Unit := do
  let space <- findSpace state spaceId
  match space.profileBinding with
  | .unbound =>
      require authority.profileBindingId.isNone (.new .profileNotFound "space has no matching profile binding")
  | .bound =>
      let expected <- orElse (state.profileBindings.get? spaceId)
        (.new .ledgerIncompatible "profile binding index is incomplete")
      require (authority.profileBindingId == some expected)
        (.new .profileNotFound "authority profile binding does not match the space")
  | .rebindRequired | .revoked =>
      .error (.new .profileNotFound "space profile binding requires explicit re-enrollment")

def visibleToPrincipal (space : SpaceDescriptor) (principalId : PrincipalId) : Bool :=
  space.owner == principalId || space.lease.any fun lease => lease.principalId == principalId

def authorizeVisibleSpace (state : LedgerState) (authority : AuthorityTicket) (spaceId : SpaceId) :
    Except HostError Unit := do
  authorizeTicket state authority
  let space <- findSpace state spaceId
  if visibleToPrincipal space authority.principalId then
    if space.lifecycle ≠ .userOwned ∧ state.leaseHolders.contains spaceId then
      authorizeLeaseHolder state spaceId authority
    else .ok ()
  else .error (.new .spaceForbidden "principal cannot read this space")

def authorizeSpace (state : LedgerState) (spaceId : SpaceId) (authority : AuthorityTicket)
    (leaseEpoch : LeaseEpoch) (now : Timestamp) (mutation : Bool) : Except HostError Unit := do
  authorizeTicket state authority
  authorizeProfileForMutation state spaceId authority
  let space <- findSpace state spaceId
  require (space.lifecycle ≠ .userOwned)
    (.new .userControlRequired "user control currently fences agent mutations")
  let lease <- orElse space.lease (.new .spaceForbidden "space has no active lease")
  require (lease.principalId == authority.principalId)
    (.new .spaceForbidden "principal does not own the space")
  authorizeLeaseHolder state spaceId authority
  require (lease.leaseEpoch == leaseEpoch) (.core (.staleLease lease.leaseEpoch leaseEpoch))
  require (!(lease.state == .expired) && decide (now < lease.expiresAt))
    (.new .leaseExpired "lease has expired")
  require (lease.state == .active) (.core (.staleLease lease.leaseEpoch leaseEpoch))
  require (!(mutation && !space.lifecycle.admitsMutations))
    (.new .permissionDenied "space lifecycle fences mutations")

def authorizePage (state : LedgerState) (spaceId : SpaceId) (pageId : PageId) (authority : AuthorityTicket)
    (leaseEpoch : LeaseEpoch) (now : Timestamp) (mutation : Bool) : Except HostError PageGeneration := do
  authorizeSpace state spaceId authority leaseEpoch now mutation
  let page <- findPage state spaceId pageId
  require (!(mutation && !page.admitsAgentMutations)) (.new .pageNotOwned "page is not managed by the lease")
  require (mutation || (page.binding == .bound && page.lifecycle == .managed))
    (.new .unmanagedPage "page is not currently bound")
  pure (.fromPage page)

def authorizeFinishClaim (state : LedgerState) (spaceId : SpaceId) (authority : AuthorityTicket)
    (leaseEpoch : LeaseEpoch) (now : Timestamp) (allowDraining : Bool) : Except HostError Unit := do
  authorizeTicket state authority
  authorizeProfileForMutation state spaceId authority
  let space <- findSpace state spaceId
  require (space.lifecycle ≠ .userOwned)
    (.new .userControlRequired "user-owned space requires its control ticket")
  require (space.lifecycle == .agentOwned || space.lifecycle == .recovering ||
      (allowDraining && space.lifecycle == .draining))
    (.new .permissionDenied "space lifecycle does not permit finishing")
  let lease <- orElse space.lease (.new .spaceForbidden "space has no active lease")
  require (lease.principalId == authority.principalId && space.owner == authority.principalId)
    (.new .spaceForbidden "principal does not own the space lease")
  authorizeLeaseHolder state spaceId authority
  require (lease.leaseEpoch == leaseEpoch) (.core (.staleLease lease.leaseEpoch leaseEpoch))
  require (lease.state == .active) (.core (.staleLease lease.leaseEpoch leaseEpoch))
  require (decide (now < lease.expiresAt)) (.new .leaseExpired "lease has expired")

def authorizeCleanupPage (state : LedgerState) (spaceId : SpaceId) (proof : CleanupProof)
    (authority : AuthorityTicket) (leaseEpoch : LeaseEpoch) (now : Timestamp) : Except HostError Unit := do
  authorizeFinishClaim state spaceId authority leaseEpoch now true
  let page <- findPage state spaceId proof.pageId
  require (page.lifecycle == .closing && page.ownership == .agent && page.binding == .bound &&
      proof.generation.matchesPage page)
    (.new .targetReplaced "page cleanup proof is stale")

def authorizeReleaseClaim (state : LedgerState) (spaceId : SpaceId) (authority : AuthorityTicket)
    (leaseEpoch : LeaseEpoch) : Except HostError Unit := do
  authorizeTicket state authority
  authorizeProfileForMutation state spaceId authority
  let space <- findSpace state spaceId
  require (space.lifecycle == .finished || space.lifecycle == .released)
    (.new .permissionDenied "space must be finished before release")
  require (space.owner == authority.principalId)
    (.new .spaceForbidden "principal does not own the finished space")
  let lease <- orElse space.lease (.new .spaceForbidden "space has no release lease")
  require (lease.principalId == authority.principalId)
    (.new .spaceForbidden "principal does not own the release lease")
  authorizeLeaseHolder state spaceId authority
  require (lease.leaseEpoch == leaseEpoch) (.core (.staleLease lease.leaseEpoch leaseEpoch))
  require (lease.state == .released)
    (.new .permissionDenied "space release requires a durably released lease")

def isUnresolved (spaceId : SpaceId) (receipt : ActionReceipt) : Bool :=
  receipt.spaceId == spaceId &&
    (receipt.status == .queued || receipt.status == .running || receipt.status == .unknown ||
      receipt.reconciliationState == .requiresConfirmation)

def spaceHasUnresolvedActions (state : LedgerState) (spaceId : SpaceId) : Bool :=
  state.actions.any fun _ receipt => isUnresolved spaceId receipt

def takeoverProofExists (state : LedgerState) (spaceId : SpaceId) (previous current : LeaseEpoch)
    (principalId : PrincipalId) : Bool :=
  ((state.takeoverProofs.get? spaceId).getD []).any fun proof =>
    proof.brokerEpoch == state.brokerEpoch && proof.previousEpoch == previous &&
      proof.currentEpoch == current && proof.principalId == principalId

def authorizeReconciliationAuthority (state : LedgerState) (actionId : ActionId) (authority : AuthorityTicket)
    (leaseEpoch : LeaseEpoch) (now : Timestamp) : Except HostError ActionReceipt := do
  authorizeTicket state authority
  let receipt <- orElse (state.actions.get? actionId) (.invalidArgument "action receipt is missing")
  require (receipt.status == .unknown)
    (.new .reconciliationRequired "action does not have an unknown outcome")
  authorizeProfileForMutation state receipt.spaceId authority
  let space <- findSpace state receipt.spaceId
  require (space.lifecycle.admitsMutations && space.owner == authority.principalId)
    (.new .spaceForbidden "principal does not own the current reconciliation lease")
  authorizeLeaseHolder state receipt.spaceId authority
  let lease <- orElse space.lease (.new .spaceForbidden "space has no current lease")
  require (lease.principalId == authority.principalId)
    (.new .spaceForbidden "principal does not own the current reconciliation lease")
  require (lease.leaseEpoch == leaseEpoch) (.core (.staleLease lease.leaseEpoch leaseEpoch))
  require (lease.state == .active && decide (now < lease.expiresAt)) (.new .leaseExpired "lease has expired")
  require (receipt.leaseEpoch == lease.leaseEpoch ||
      (decide (receipt.leaseEpoch ≤ lease.leaseEpoch) &&
        takeoverProofExists state receipt.spaceId receipt.leaseEpoch lease.leaseEpoch authority.principalId))
    (.new .reconciliationRequired "older-epoch reconciliation requires a durable takeover proof")
  pure receipt

def requireCapability (capabilities : List Capability) (capability : Capability) : Except HostError Unit :=
  require (capabilities.contains capability) (.new .capabilityUnavailable "bridge does not provide the capability")

def operationCapabilities : ActionOperation -> List Capability
  | .evaluate => [.evaluate]
  | .screenshot | .upload => [.action, .artifact]
  | .wait => [.wait]
  | .navigate | .click | .input | .scroll | .storageWrite | .cookieWrite | .close => [.action]

def requireOperationCapabilities (capabilities : List Capability) (operation : ActionOperation) :
    Except HostError Unit :=
  forEach (requireCapability capabilities) (operationCapabilities operation)

def ensureReady (lifecycle : HostLifecycle) : Except HostError Unit :=
  require (lifecycle == .ready) (.new .hostDraining "host is not accepting new work")

def leaseTimes (now : Timestamp) (ttl : Nat) : Except HostError (Timestamp × Timestamp) := do
  require (ttl ≠ 0) (.invalidArgument "lease TTL must be positive")
  let expires <- orElse (checkedAdd now ttl) (.invalidArgument "lease expiry overflow")
  let renew <- orElse (checkedAdd now (max (ttl / 2) 1)) (.invalidArgument "lease renewal deadline overflow")
  pure (expires, renew)

def bumpPageGenerations (page : PageDescriptor) : Except HostError PageDescriptor := do
  let target <- orElse (checkedNext page.targetGeneration) (.invalidArgument "target generation overflow")
  let navigation <- orElse (checkedNext page.navigationGeneration) (.invalidArgument "navigation generation overflow")
  let document <- orElse (checkedNext page.documentGeneration) (.invalidArgument "document generation overflow")
  pure { page with targetGeneration := target, navigationGeneration := navigation, documentGeneration := document }

def validatePublicPayload (payload : Payload) : Except HostError Unit :=
  forEach (fun entry => do
    require (decide (entry.1.utf8ByteSize ≠ 0 ∧ entry.1.utf8ByteSize ≤ 128 ∧ entry.2.utf8ByteSize ≤ 65536))
      (.invalidArgument "action payload is out of bounds")
    require (!isRawIdentityKey entry.1)
      (.invalidArgument "raw browser identities are not public action fields")) payload

def boundedWarning (warning : String) : String :=
  String.ofList ((warning.toList.filter fun character => !isControl character).take 512)

def boundedLabel (label : String) : Except HostError String := do
  require (label ≠ "" && boundedText label 256) (.invalidArgument "label must be a bounded non-control string")
  pure label

end AgentycHost
