import AgentycHost.Core.Snapshots
import AgentycHost.Shared.Encodings
import AgentycHost.Shared.Table

set_option autoImplicit false

/-!
# The logical state owned by one broker
-/

namespace AgentycHost

open Shared

structure LedgerLimits where
  maxSpaces : Nat := 67
  maxPagesPerSpace : Nat := 128
  maxActions : Nat := 4096
  maxQueuedActionsPerSpace : Nat := 256
  maxEvents : Nat := 4096
  maxSnapshots : Nat := 512
  maxLedgerBytes : Nat := 8 * 1024 * 1024
  maxSnapshotBytes : Nat := 2 * 1024 * 1024
  deriving DecidableEq

structure PendingFenceRecord where
  spaceId : SpaceId
  brokerEpoch : BrokerEpoch
  requestToken : ReconcileToken
  oldEpoch : Option LeaseEpoch
  fenceEpoch : LeaseEpoch
  principalId : PrincipalId
  purpose : FencePurpose
  deriving DecidableEq

structure TakeoverProofRecord where
  spaceId : SpaceId
  brokerEpoch : BrokerEpoch
  previousEpoch : LeaseEpoch
  currentEpoch : LeaseEpoch
  principalId : PrincipalId
  requestToken : ReconcileToken
  deriving DecidableEq

structure ControlTicketRecord where
  spaceId : SpaceId
  brokerEpoch : BrokerEpoch
  fenceEpoch : LeaseEpoch
  token : ReconcileToken
  deriving DecidableEq

structure ActiveConnection where
  principalId : PrincipalId
  connectionNonce : ConnectionNonce
  profileBindingId : Option ProfileBindingId
  isExtension : Bool
  deriving DecidableEq

def ledgerSchemaVersion : Nat := 2

structure LedgerState where
  schemaVersion : Nat
  brokerEpoch : BrokerEpoch
  connectionEpoch : ConnectionEpoch
  activeConnections : Table ConnectionEpoch ActiveConnection
  usedConnectionNonces : List ConnectionNonce
  connectionPrincipalId : Option PrincipalId
  connectionNonce : Option ConnectionNonce
  connectionProfileBindingId : Option ProfileBindingId
  leaseHolders : Table SpaceId ConnectionEpoch
  nextSpaceNumber : Nat
  nextPageNumber : Nat
  eventSequence : EventSequence
  spaces : Table SpaceId SpaceDescriptor
  actions : Table ActionId ActionReceipt
  actionRequests : Table ActionId ActionRequest
  idempotency : Table IdempotencyKey ActionId
  actionQueues : Table SpaceId (List ActionId)
  events : List EventRecord
  snapshots : Table SpaceId (Table PageId SnapshotCacheRecord)
  controlTickets : Table SpaceId ControlTicketRecord
  pendingFences : Table SpaceId PendingFenceRecord
  takeoverProofs : Table SpaceId (List TakeoverProofRecord)
  profileBindings : Table SpaceId ProfileBindingId
  extensionProfileBindingId : Option ProfileBindingId
  extensionWorkerInstanceEpoch : Option Nat
  extensionBrowserSessionEpoch : Option Nat
  spaceGenerations : Table SpaceId Generation

def LedgerState.new (brokerEpoch : BrokerEpoch) : LedgerState where
  schemaVersion := ledgerSchemaVersion
  brokerEpoch := brokerEpoch
  connectionEpoch := 0
  activeConnections := ∅
  usedConnectionNonces := []
  connectionPrincipalId := none
  connectionNonce := none
  connectionProfileBindingId := none
  leaseHolders := ∅
  nextSpaceNumber := 0
  nextPageNumber := 0
  eventSequence := 0
  spaces := ∅
  actions := ∅
  actionRequests := ∅
  idempotency := ∅
  actionQueues := ∅
  events := []
  snapshots := ∅
  controlTickets := ∅
  pendingFences := ∅
  takeoverProofs := ∅
  profileBindings := ∅
  extensionProfileBindingId := none
  extensionWorkerInstanceEpoch := none
  extensionBrowserSessionEpoch := none
  spaceGenerations := ∅

namespace LedgerState

def page (state : LedgerState) (spaceId : SpaceId) (pageId : PageId) : Option PageDescriptor :=
  (state.spaces.get? spaceId).bind fun space => space.page pageId

def snapshot (state : LedgerState) (spaceId : SpaceId) (pageId : PageId) : Option SnapshotCacheRecord :=
  (state.snapshots.get? spaceId).bind fun pages => pages.get? pageId

def queue (state : LedgerState) (spaceId : SpaceId) : List ActionId :=
  (state.actionQueues.get? spaceId).getD []

def changeSpace (state : LedgerState) (spaceId : SpaceId) (change : SpaceDescriptor -> SpaceDescriptor) :
    LedgerState :=
  { state with spaces := state.spaces.modify spaceId change }

def leaseEpoch (state : LedgerState) (spaceId : SpaceId) : Option LeaseEpoch :=
  (state.spaces.get? spaceId).bind fun space => space.lease.map (·.leaseEpoch)

end LedgerState

def boundedText (text : String) (maxBytes : Nat) : Bool :=
  decide (text.utf8ByteSize ≤ maxBytes) && !text.toList.any isControl

theorem boundedText_short {text : String} {maxBytes : Nat} (short : 4 * text.toList.length ≤ maxBytes)
    (printed : text.toList.any isControl = false) : boundedText text maxBytes = true := by
  have bytes := textSize_le text.toList
  have fits : text.utf8ByteSize ≤ maxBytes := by
    rw [utf8ByteSize_eq]
    omega
  rw [boundedText, decide_eq_true fits, printed]
  rfl

def validateBoundedText (text : String) (maxBytes : Nat) (field : String) : Except LedgerError Unit :=
  require (boundedText text maxBytes) (.corrupt (field ++ " is out of bounds"))

def normalizedKey (key : String) : List Nat :=
  ((bytes key).filter isAsciiAlphanumeric).map toAsciiLowercase

def containsBytes (text part : List Nat) : Bool :=
  match text with
  | [] => part.isEmpty
  | head :: rest => part.isPrefixOf (head :: rest) || containsBytes rest part

def rawIdentityNames : List String :=
  ["targetid", "sessionid", "tabid", "debuggerid", "browserid", "windowid", "connectionid", "chromeid", "rawid"]

def isRawIdentityKey (key : String) : Bool :=
  let normalized := normalizedKey key
  rawIdentityNames.any (fun name => bytes name == normalized) ||
    (containsBytes normalized (bytes "target") && containsBytes normalized (bytes "id"))

def validatePublicPayloadShape (payload : Payload) (maxValueBytes : Nat) : Except LedgerError Unit :=
  forEach (fun entry => do
    require (decide (entry.1.utf8ByteSize ≠ 0 ∧ entry.1.utf8ByteSize ≤ 128 ∧ entry.2.utf8ByteSize ≤ maxValueBytes))
      (.corrupt "public payload is out of bounds")
    require (!isRawIdentityKey entry.1) (.corrupt "public payload contains a raw browser identity field")) payload

/-- What the host takes from `serde_json`: the sizes of its encodings, the bytes of a request and
the decoding of the typed evidence in a payload; and the shape check of an envelope's body. -/
structure Codec where
  compactBytes : LedgerState -> Nat
  prettyBytes : LedgerState -> Nat
  snapshotBytes : SnapshotEnvelope -> Nat
  requestJson : ActionRequest -> List Nat
  parseElementRef : String -> Option ElementRef
  parseProvenance : String -> Option SnapshotProvenance
  parseEvidence : String -> Option ActionabilityEvidence
  envelopeValid : SnapshotEnvelope -> Bool

def ContentHash.fromBytes (text : List Nat) : ContentHash :=
  ⟨text.foldl (fun hash byte => (Nat.xor hash byte * 0x100000001b3) % 2 ^ 64) 0xcbf29ce484222325⟩

def canonicalActionHash (codec : Codec) (request : ActionRequest) : ContentHash :=
  .fromBytes (codec.requestJson request)

end AgentycHost
