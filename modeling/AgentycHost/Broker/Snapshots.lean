import AgentycHost.Broker.Actions

set_option autoImplicit false

/-!
# Snapshots, dirty marks and bridge events
-/

namespace AgentycHost

open Shared

/-- `mark_page_lost`, which makes the refs of the page stale. -/
def markPageLost (spaceId : SpaceId) (pageId : PageId) (authority : AuthorityTicket) (leaseEpoch : LeaseEpoch)
    (now : Timestamp) : RefTransition Unit := fun registry state =>
  match lostPage spaceId pageId authority leaseEpoch now state with
  | .error error => (registry, .error error)
  | .ok page => (registry.invalidateScope spaceId pageId now, storeLostPage spaceId page state)

def issuingEnvelope (spaceId : SpaceId) (pageId : PageId) (authority : AuthorityTicket) (leaseEpoch : LeaseEpoch)
    (now : Timestamp) : Transition SnapshotEnvelope := fun state => do
  let generation <- authorizePage state spaceId pageId authority leaseEpoch now false
  let record <- orElse (state.snapshot spaceId pageId)
    (.core (.staleRef "a clean snapshot is required before issuing an element ref"))
  require (!record.dirty && record.generation == generation &&
      record.envelope.navigationGeneration == generation.navigationGeneration &&
      record.envelope.documentGeneration == generation.documentGeneration)
    (.core (.staleRef "snapshot provenance is stale; refresh before issuing an element ref"))
  require record.envelope.canIssueRefs
    (.core (.staleRef "partial, truncated, or resync snapshots cannot issue refs"))
  pure (record.envelope, state)

def captureGeneration (spaceId : SpaceId) (pageId : PageId) (authority : AuthorityTicket) (leaseEpoch : LeaseEpoch)
    (now : Timestamp) : Transition PageGeneration := fun state => do
  let generation <- authorizePage state spaceId pageId authority leaseEpoch now false
  pure (generation, state)

def checkCapture (codec : Codec) (spaceId : SpaceId) (pageId : PageId) (envelope : SnapshotEnvelope) :
    Except HostError Unit := do
  require (codec.envelopeValid envelope) (.invalidArgument "snapshot envelope is invalid")
  require (envelope.spaceId == spaceId && envelope.pageId == pageId)
    (.invalidArgument "bridge snapshot scope mismatch")

def storeSnapshot (state : LedgerState) (spaceId : SpaceId) (pageId : PageId) (record : SnapshotCacheRecord) :
    LedgerState :=
  { state with snapshots :=
      state.snapshots.insert spaceId (((state.snapshots.get? spaceId).getD ∅).insert pageId record) }

/-- The last commit of `read_snapshot`, which stores the captured envelope as clean. -/
def commitSnapshot (spaceId : SpaceId) (pageId : PageId) (authority : AuthorityTicket) (leaseEpoch : LeaseEpoch)
    (now : Timestamp) (generation : PageGeneration) (envelope : SnapshotEnvelope) : Transition Unit := fun state => do
  let current <- authorizePage state spaceId pageId authority leaseEpoch now false
  require (current == generation && envelope.navigationGeneration == current.navigationGeneration &&
      envelope.documentGeneration == current.documentGeneration)
    (.new .targetReplaced "page generation changed while snapshot was in flight")
  let next := storeSnapshot state spaceId pageId { envelope, generation := current, dirty := false }
  let next <- appendEvent next (.page spaceId pageId) .snapshotChanged [("cache_state", "fresh")] none false
  pure ((), next)

def admitPut (authority : AuthorityTicket) (envelope : SnapshotEnvelope) (leaseEpoch : LeaseEpoch) (now : Timestamp)
    (state : LedgerState) : Except HostError PageGeneration := do
  let generation <- authorizePage state envelope.spaceId envelope.pageId authority leaseEpoch now false
  require (envelope.navigationGeneration == generation.navigationGeneration &&
      envelope.documentGeneration == generation.documentGeneration)
    (.new .targetReplaced "snapshot generation does not match the page")
  pure generation

/-- `put_snapshot`; refs of another provenance of the page become stale. -/
def putSnapshot (authority : AuthorityTicket) (envelope : SnapshotEnvelope) (leaseEpoch : LeaseEpoch)
    (now : Timestamp) : RefTransition Unit := fun registry state =>
  match admitPut authority envelope leaseEpoch now state with
  | .error error => (registry, .error error)
  | .ok generation =>
      (registry.invalidateProvenance envelope.provenance now,
        .ok ((), storeSnapshot state envelope.spaceId envelope.pageId { envelope, generation, dirty := false }))

/-- `mark_snapshot_dirty`. Without a cached record it changes nothing, the refs of the page included. -/
def markSnapshotDirty (authority : AuthorityTicket) (spaceId : SpaceId) (pageId : PageId) (leaseEpoch : LeaseEpoch)
    (now : Timestamp) : RefTransition Bool := fun registry state =>
  match authorizePage state spaceId pageId authority leaseEpoch now false with
  | .error error => (registry, .error error)
  | .ok _ =>
      if (state.snapshot spaceId pageId).isSome then
        (registry.invalidateRerender spaceId pageId now, .ok (true, markRecordDirty state spaceId pageId))
      else (registry, .ok (false, state))

/-- The rows of `bridge_event_contract`. A debugger event carries the two places of its method. -/
inductive BridgeEventName where
  | debuggerEvent (method paramsMethod : Option String)
  | documentChanged
  | targetLost
  | sessionLost
  | pageChanged
  | observed
  | rebound
  | connectionChanged
  -- log, network, dialog, download, trace and mock events
  | sideState
  deriving DecidableEq

def debuggerEventDirtyReason (method : String) : DirtyReason :=
  if method = "" ∨ method.startsWith "DOM." ∨ method.startsWith "Accessibility." then .domMutation
  else if ["Page.frameAttached", "Page.frameDetached", "Page.frameStartedLoading"].contains method then .frameChanged
  else if ["Page.frameNavigated", "Page.navigatedWithinDocument", "Page.domContentEventFired",
      "Page.loadEventFired"].contains method then .navigation
  else if method.startsWith "Network." then .geometryChanged
  else if method.startsWith "Runtime.executionContext" then .navigation
  else .unknown

namespace BridgeEventName

def dirtyReason : BridgeEventName -> DirtyReason
  | .debuggerEvent method _ => debuggerEventDirtyReason (method.getD "")
  | .documentChanged => .navigation
  | .targetLost => .targetReplaced
  | .sessionLost => .sessionLost
  | .pageChanged => .domMutation
  | .observed | .sideState => .unknown
  | .rebound | .connectionChanged => .reconnect

def losesTarget : BridgeEventName -> Bool
  | .targetLost | .sessionLost | .connectionChanged => true
  | _ => false

def isGlobal (name : BridgeEventName) : Bool := name == .connectionChanged

def kind (name : BridgeEventName) : EventKind := if name.isGlobal then .connectionChanged else .pageChanged

def affectsSnapshot : BridgeEventName -> Bool
  | .sideState => false
  | .debuggerEvent method paramsMethod =>
      let method := (method.orElse fun _ => paramsMethod).getD ""
      !method.startsWith "Network." && !method.startsWith "Log."
  | _ => true

end BridgeEventName

structure BridgeEvent where
  name : BridgeEventName
  brokerEpoch : BrokerEpoch
  connectionEpoch : ConnectionEpoch
  workerInstanceEpoch : Option Nat
  browserSessionEpoch : Option Nat
  spaceId : Option SpaceId
  pageId : Option PageId
  frameId : Option FrameId
  documentId : Option DocumentId
  navigationId : Option NavigationId
  targetGeneration : Option Nat
  navigationGeneration : Option Nat
  documentGeneration : Option Nat
  -- the public fields of the payload, as `bridge_event_payload` selects them
  payload : Payload
  deriving DecidableEq

def admitBridgeEvent (event : BridgeEvent) (authority : AuthorityTicket) (epochs : Option ExtensionEpochs) :
    Except HostError Unit := do
  require (!(event.name.isGlobal && (event.spaceId.isSome || event.pageId.isSome)))
    (.invalidArgument "global bridge events cannot carry a page scope")
  require (event.name.isGlobal || (event.spaceId.isSome && event.pageId.isSome))
    (.invalidArgument "scoped bridge events require logical space and page attribution")
  require (event.brokerEpoch == authority.brokerEpoch && event.connectionEpoch == authority.connectionEpoch)
    (.new .permissionDenied "bridge event attribution does not match its authority")
  require (epochs.all fun epochs =>
      (event.workerInstanceEpoch.all fun epoch => epoch == epochs.workerInstanceEpoch) &&
        event.browserSessionEpoch.all fun epoch => epoch == epochs.browserSessionEpoch)
    (.new .permissionDenied "bridge event extension epoch is stale")

def bridgeAttribution (event : BridgeEvent) (authority : AuthorityTicket) (epochs : Option ExtensionEpochs) :
    EventAttribution :=
  { EventAttribution.bridge event.connectionEpoch authority.profileBindingId
      (event.browserSessionEpoch.orElse fun _ => epochs.map (·.browserSessionEpoch))
      (event.workerInstanceEpoch.orElse fun _ => epochs.map (·.workerInstanceEpoch)) with
    frameId := event.frameId, documentId := event.documentId, navigationId := event.navigationId }

def raised (current : Generation) (observed : Option Nat) : Generation := max current (observed.getD 0)

def raiseGenerations (event : BridgeEvent) (page : PageDescriptor) : PageDescriptor :=
  { page with
    targetGeneration := raised page.targetGeneration event.targetGeneration
    navigationGeneration := raised page.navigationGeneration event.navigationGeneration
    documentGeneration := raised page.documentGeneration event.documentGeneration }

def losesPage (event : BridgeEvent) (page : PageDescriptor) : Bool :=
  event.name.losesTarget && !(page.lifecycle == .closed || page.lifecycle == .closing)

def observedPage (event : BridgeEvent) (page : PageDescriptor) : Except HostError (PageDescriptor × Bool) := do
  let raised := raiseGenerations event page
  if losesPage event page then do
    let lost <- if event.targetGeneration.isNone then bumpPageGenerations raised else pure raised
    pure ({ lost with lifecycle := .targetLost, binding := .lost }, true)
  else pure (raised, decide (PageGeneration.fromPage raised ≠ PageGeneration.fromPage page))

def invalidateObserved (registry : RefRegistry) (event : BridgeEvent) (spaceId : SpaceId) (pageId : PageId)
    (now : Timestamp) : RefRegistry :=
  match event.frameId with
  | some frameId => registry.invalidateFrame spaceId pageId frameId now
  | none => registry.invalidateScope spaceId pageId now

/-- The checks of a scoped event; `none` is a late event on a closing page, which changes nothing. -/
def admitScopedEvent (event : BridgeEvent) (authority : AuthorityTicket) (spaceId : SpaceId) (pageId : PageId)
    (state : LedgerState) : Except HostError (Option (PageDescriptor × Bool)) := do
  authorizeTicket state authority
  authorizeProfileForMutation state spaceId authority
  let page <- findPage state spaceId pageId
  if page.lifecycle = .closing ∧ event.name.losesTarget = false then pure none
  else some <$> observedPage event page

def applyScopedEvent (event : BridgeEvent) (authority : AuthorityTicket) (epochs : Option ExtensionEpochs)
    (spaceId : SpaceId) (pageId : PageId) (now : Timestamp) : RefTransition Unit := fun registry state =>
  match admitScopedEvent event authority spaceId pageId state with
  | .error error => (registry, .error error)
  | .ok none => (registry, .ok ((), state))
  | .ok (some (page, changed)) =>
      let dirty := changed || event.name.affectsSnapshot
      let next := state.setPage spaceId page
      (if dirty then invalidateObserved registry event spaceId pageId now else registry, do
        let next <- appendEventWithAttribution (if dirty then next.dropSnapshots spaceId else next)
          (.page spaceId pageId) event.name.kind event.payload (some event.name.dirtyReason) event.name.losesTarget
          (bridgeAttribution event authority epochs)
        pure ((), next))

def applyGlobalEvent (event : BridgeEvent) (authority : AuthorityTicket) (epochs : Option ExtensionEpochs)
    (now : Timestamp) : RefTransition Unit := fun registry state =>
  match authorizeTicket state authority with
  | .error error => (registry, .error error)
  | .ok () =>
      (registry.invalidateAll now, do
        let next <- appendEventWithAttribution { state with snapshots := ∅ } .global event.name.kind event.payload
          (some event.name.dirtyReason) true (bridgeAttribution event authority epochs)
        pure ((), next))

def applyBridgeEvent (event : BridgeEvent) (authority : AuthorityTicket) (epochs : Option ExtensionEpochs)
    (now : Timestamp) : RefTransition Unit :=
  match event.spaceId, event.pageId with
  | some spaceId, some pageId => applyScopedEvent event authority epochs spaceId pageId now
  | _, _ => applyGlobalEvent event authority epochs now

end AgentycHost
