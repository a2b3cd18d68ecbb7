import AgentycHost.Broker.Authority

set_option autoImplicit false

/-!
# Connections, spaces and host recovery marks
-/

namespace AgentycHost

open Shared

structure ExtensionEpochs where
  workerInstanceEpoch : Nat
  browserSessionEpoch : Nat
  deriving DecidableEq

structure Hello where
  principalId : PrincipalId
  connectionNonce : ConnectionNonce
  profileBindingId : Option ProfileBindingId
  isExtension : Bool
  deriving DecidableEq

def admitExtensionEpochs (state : LedgerState) (hello : Hello) (epochs : ExtensionEpochs) :
    Except HostError LedgerState := do
  let profile <- orElse hello.profileBindingId
    (.new .profileNotFound "extension connection has no profile binding")
  require (state.extensionProfileBindingId.all fun current => current == profile)
    (.new .profileNotFound "extension profile binding changed without re-enrollment")
  require ((state.extensionWorkerInstanceEpoch.all fun current => decide (current ≤ epochs.workerInstanceEpoch)) &&
      state.extensionBrowserSessionEpoch.all fun current => decide (current ≤ epochs.browserSessionEpoch))
    (.new .permissionDenied "extension epoch is older than the durable host fence")
  pure { state with
    extensionProfileBindingId := some profile
    extensionWorkerInstanceEpoch :=
      some (max (state.extensionWorkerInstanceEpoch.getD 0) epochs.workerInstanceEpoch)
    extensionBrowserSessionEpoch :=
      some (max (state.extensionBrowserSessionEpoch.getD 0) epochs.browserSessionEpoch) }

def admitExtension (state : LedgerState) (hello : Hello) (epochs : Option ExtensionEpochs) :
    Except HostError LedgerState := do
  let state <- match epochs with
    | some epochs => admitExtensionEpochs state hello epochs
    | none => pure state
  -- a reconnect revokes the previous extension authority before the new session is admitted
  pure { state with activeConnections := state.activeConnections.filter fun _ current => !current.isExtension }

def hello (request : Hello) (epochs : Option ExtensionEpochs) : Transition AuthorityTicket := fun state => do
  require (!state.usedConnectionNonces.contains request.connectionNonce)
    (.new .permissionDenied "connection nonce was already used in this broker epoch")
  let connectionEpoch <- orElse (checkedNext state.connectionEpoch) (.invalidArgument "connection epoch overflow")
  let state <- if request.isExtension then admitExtension state request epochs else pure state
  pure (
    { principalId := request.principalId, brokerEpoch := state.brokerEpoch, connectionEpoch,
      profileBindingId := request.profileBindingId, connectionNonce := request.connectionNonce },
    { state with
      connectionEpoch := connectionEpoch
      connectionPrincipalId := some request.principalId
      connectionNonce := some request.connectionNonce
      connectionProfileBindingId := request.profileBindingId
      usedConnectionNonces := request.connectionNonce :: state.usedConnectionNonces
      activeConnections := state.activeConnections.insert connectionEpoch
        { principalId := request.principalId, connectionNonce := request.connectionNonce,
          profileBindingId := request.profileBindingId, isExtension := request.isExtension } })

def disconnect (authority : AuthorityTicket) : Transition Unit := fun state =>
  if authority.brokerEpoch = state.brokerEpoch ∧ connectionMatches state authority = true then
    .ok ((), { state with activeConnections := state.activeConnections.erase authority.connectionEpoch })
  else .ok ((), state)

def createdSpace (spaceId : SpaceId) (label : String) (retention : RetentionPolicy)
    (authority : AuthorityTicket) : SpaceDescriptor where
  spaceId := spaceId
  label := label
  lifecycle := .created
  owner := authority.principalId
  lease := none
  profileBinding := if authority.profileBindingId.isSome then .bound else .unbound
  pages := []
  visualGroupHint := none
  capabilities := [.snapshot, .action, .wait, .reconcile]
  warnings := []
  retention := retention

def createSpaceInState (state : LedgerState) (authority : AuthorityTicket) (spaceId : SpaceId) (label : String)
    (retention : RetentionPolicy) : Except HostError (SpaceDescriptor × LedgerState) := do
  require (!state.spaces.contains spaceId) (.invalidArgument "logical space already exists")
  let descriptor := createdSpace spaceId label retention authority
  let state := { state with
    spaces := state.spaces.insert spaceId descriptor
    profileBindings := match authority.profileBindingId with
      | some profile => state.profileBindings.insert spaceId profile
      | none => state.profileBindings
    spaceGenerations := state.spaceGenerations.insert spaceId 0 }
  let state <- appendEvent state (.space spaceId) .spaceChanged [("lifecycle", "created")] none false
  pure (descriptor, state)

def createSpace (authority : AuthorityTicket) (label : String) (retention : RetentionPolicy) :
    Transition SpaceDescriptor := fun state => do
  authorizeTicket state authority
  let number <- orElse (checkedNext state.nextSpaceNumber) (.invalidArgument "space identity counter overflow")
  createSpaceInState { state with nextSpaceNumber := number } authority ⟨number⟩ label retention

def validLifecycleTransition (current next : HostLifecycle) : Bool :=
  match current, next with
  | .starting, .waitingForExtension | .starting, .ready | .starting, .degraded _ | .starting, .stopped
  | .waitingForExtension, .ready | .waitingForExtension, .degraded _ | .waitingForExtension, .draining
  | .waitingForExtension, .stopped
  | .ready, .starting | .ready, .waitingForExtension | .ready, .draining | .ready, .degraded _ | .ready, .stopped
  | .degraded _, .recovering | .degraded _, .draining | .degraded _, .stopped
  | .recovering, .ready | .recovering, .orphaned | .recovering, .degraded _ | .recovering, .stopped
  | .orphaned, .recovering | .orphaned, .draining | .orphaned, .stopped
  | .draining, .stopped => true
  | current, next => current == next

/-- The commit of `mark_degraded`; the lifecycle and the refs move before it. -/
def markDegraded : Transition Unit := fun state => do
  let state <- appendEvent { state with snapshots := ∅ } .global .connectionChanged
    [("status", "disconnected"), ("resync_required", "true")] (some .reconnect) true
  pure ((), state)

def rebindPage (page : PageDescriptor) : PageDescriptor :=
  if page.admitsAgentMutations then { page with lifecycle := .rebinding, binding := .lost } else page

def rebindSpace (space : SpaceDescriptor) : SpaceDescriptor :=
  let space := { space with profileBinding := .rebindRequired }
  match space.lease with
  | none => space
  | some lease =>
      { space with
        lease := some { lease with state := .fenced }
        lifecycle := .orphaned
        pages := space.pages.map rebindPage }

def needsRebind (state : LedgerState) (observed : ProfileBindingId) (spaceId : SpaceId) (space : SpaceDescriptor) :
    Bool :=
  space.profileBinding == .bound && !(state.profileBindings.get? spaceId == some observed)

def markProfileRebindRequired (observed : ProfileBindingId) : Transition Nat := fun state => do
  let affected := (state.spaces.filter (needsRebind state observed)).keys
  let next := { state with
    spaces := state.spaces.mapValues fun spaceId space =>
      if needsRebind state observed spaceId space then rebindSpace space else space
    snapshots := state.snapshots.filter fun spaceId _ => !affected.contains spaceId }
  let next <- affected.foldlM (fun next spaceId =>
    appendEvent next (.space spaceId) .spaceChanged [("profile_binding", "rebind_required")] (some .unknown) true)
    next
  pure (affected.length, next)

def SpaceDescriptor.warn (space : SpaceDescriptor) (warning : String) : SpaceDescriptor :=
  let warnings := space.warnings ++ [boundedWarning warning]
  { space with warnings := if 16 < warnings.length then warnings.drop 1 else warnings }

def recordFenceWarning (spaceId : SpaceId) (warning : String) : Transition Unit := fun state => do
  let _ <- findSpace state spaceId
  pure ((), state.changeSpace spaceId (·.warn warning))

def authorizeEventScope (state : LedgerState) (authority : AuthorityTicket) (scope : EventScope) :
    Except HostError Unit :=
  match scope.spaceId, scope.pageId with
  | none, _ => .ok ()
  | some spaceId, none => authorizeVisibleSpace state authority spaceId
  | some spaceId, some pageId => do
      authorizeVisibleSpace state authority spaceId
      discard <| findPage state spaceId pageId

def publishEvent (authority : AuthorityTicket) (scope : EventScope) (event : EventKind) (payload : Payload) :
    Transition Unit := fun state => do
  validatePublicPayload payload
  authorizeTicket state authority
  authorizeEventScope state authority scope
  let state <- appendEventWithAttribution state scope event payload none false
    (.client authority.connectionEpoch authority.profileBindingId)
  pure ((), state)

end AgentycHost
