import AgentycHost.Core.Receipts

set_option autoImplicit false

/-!
# Broker-sequenced events
-/

namespace AgentycHost

def protocolVersion : Nat := 1

inductive EventKind where
  | spaceChanged
  | pageChanged
  | leaseChanged
  | actionChanged
  | snapshotChanged
  | brokerDraining
  | connectionChanged
  | heartbeat
  deriving DecidableEq

inductive EventSource where
  | broker
  | bridge
  | client
  deriving DecidableEq

structure EventScope where
  spaceId : Option SpaceId
  pageId : Option PageId
  deriving DecidableEq

def EventScope.global : EventScope := { spaceId := none, pageId := none }

def EventScope.space (spaceId : SpaceId) : EventScope := { spaceId := some spaceId, pageId := none }

def EventScope.page (spaceId : SpaceId) (pageId : PageId) : EventScope :=
  { spaceId := some spaceId, pageId := some pageId }

def EventScope.valid (scope : EventScope) : Bool := !(scope.pageId.isSome && scope.spaceId.isNone)

structure EventAttribution where
  source : EventSource
  connectionEpoch : Option ConnectionEpoch
  profileBindingId : Option ProfileBindingId
  browserSessionEpoch : Option Nat
  workerInstanceEpoch : Option Nat
  frameId : Option FrameId
  documentId : Option DocumentId
  navigationId : Option NavigationId
  deriving DecidableEq

namespace EventAttribution

def broker : EventAttribution where
  source := .broker
  connectionEpoch := none
  profileBindingId := none
  browserSessionEpoch := none
  workerInstanceEpoch := none
  frameId := none
  documentId := none
  navigationId := none

def client (connectionEpoch : ConnectionEpoch) (profileBindingId : Option ProfileBindingId) :
    EventAttribution :=
  { broker with source := .client, connectionEpoch := some connectionEpoch, profileBindingId }

def bridge (connectionEpoch : ConnectionEpoch) (profileBindingId : Option ProfileBindingId)
    (browserSessionEpoch workerInstanceEpoch : Option Nat) : EventAttribution :=
  { broker with
    source := .bridge, connectionEpoch := some connectionEpoch, profileBindingId,
    browserSessionEpoch, workerInstanceEpoch }

def validateForScope (attribution : EventAttribution) (scope : EventScope) : Except CoreError Unit :=
  if attribution.connectionEpoch = some 0 ∨ attribution.browserSessionEpoch = some 0 ∨
      attribution.workerInstanceEpoch = some 0 then
    .error (.invalidArgument "event attribution contains a zero epoch")
  else if attribution.source ≠ .broker ∧ attribution.connectionEpoch = none then
    .error (.invalidArgument "connected event attribution requires a connection epoch")
  else if (attribution.frameId.isSome ∨ attribution.documentId.isSome ∨
      attribution.navigationId.isSome) ∧ scope.pageId = none then
    .error (.invalidArgument "frame, document, and navigation attribution requires a page scope")
  else .ok ()

end EventAttribution

structure EventMetadata where
  attribution : EventAttribution
  heartbeat : Option EventSource
  coalescedCount : Option Nat
  deriving DecidableEq

namespace EventMetadata

def forEvent (event : EventKind) (attribution : EventAttribution) : EventMetadata where
  attribution := attribution
  heartbeat := if event = .heartbeat then some attribution.source else none
  coalescedCount := none

def validate (metadata : EventMetadata) (event : EventKind) (scope : EventScope) (coalesced : Bool) :
    Except CoreError Unit := do
  metadata.attribution.validateForScope scope
  if metadata.coalescedCount.any fun count => !(2 ≤ count && count ≤ 1024) then
    .error (.invalidArgument "event coalesced count is outside its bound")
  else if metadata.coalescedCount.isSome && !coalesced then
    .error (.invalidArgument "event coalesced count requires a coalesced event")
  else if event = .heartbeat then
    if metadata.heartbeat = some metadata.attribution.source then .ok ()
    else .error (.invalidArgument "heartbeat events require matching heartbeat metadata")
  else if metadata.heartbeat.isSome then
    .error (.invalidArgument "heartbeat metadata is only valid for heartbeat events")
  else .ok ()

end EventMetadata

structure GenerationWatermark where
  spaceGeneration : Generation
  pageGeneration : Generation
  navigationGeneration : Generation
  documentGeneration : Generation
  snapshotVersion : Option SnapshotVersion
  metadata : Option EventMetadata
  deriving DecidableEq

/-- Event identities are minted as `evt_{broker epoch}-{sequence}`. -/
structure EventId where
  brokerEpoch : BrokerEpoch
  sequence : EventSequence
  deriving DecidableEq

structure EventRecord where
  protocol : Nat
  eventId : EventId
  brokerEpoch : BrokerEpoch
  sequence : EventSequence
  scope : EventScope
  event : EventKind
  generation : GenerationWatermark
  dirtyReason : Option DirtyReason
  coalesced : Bool
  resyncRequired : Bool
  payload : Payload
  deriving DecidableEq

namespace EventRecord

def requiresAttribution (record : EventRecord) : Bool :=
  record.scope.spaceId.isSome || record.scope.pageId.isSome || record.event == .heartbeat

def validateRouting (record : EventRecord) : Except CoreError Unit :=
  if !record.scope.valid then .error (.invalidArgument "event page scope requires a space scope")
  else if record.protocol ≠ protocolVersion then
    .error (.invalidArgument "event protocol version is unsupported")
  else if record.brokerEpoch = 0 ∨ record.sequence = 0 then
    .error (.invalidArgument "event epoch and sequence must be positive")
  else match record.generation.metadata with
    | some metadata => metadata.validate record.event record.scope record.coalesced
    | none =>
        if record.requiresAttribution then
          .error (.invalidArgument "scoped event is missing internal attribution")
        else .ok ()

def validateAdmission (record : EventRecord) : Except CoreError Unit := do
  record.validateRouting
  if record.generation.metadata.isNone then
    .error (.invalidArgument "admitted event is missing internal attribution")

end EventRecord

theorem EventAttribution.validateForScope_broker (attribution : EventAttribution) (scope : EventScope)
    (source : attribution.source = .broker) (connection : attribution.connectionEpoch = none)
    (session : attribution.browserSessionEpoch ≠ some 0) (worker : attribution.workerInstanceEpoch ≠ some 0)
    (frame : attribution.frameId = none) (document : attribution.documentId = none)
    (navigation : attribution.navigationId = none) :
    attribution.validateForScope scope = .ok () := by
  simp [validateForScope, source, connection, session, worker, frame, document, navigation]

end AgentycHost
