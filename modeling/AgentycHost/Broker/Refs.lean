import AgentycHost.Broker.Pages
import Mathlib.Data.List.Sort
import Mathlib.Data.String.Basic

set_option autoImplicit false

/-!
# Element references

The registry is memory only: it is no part of a ledger commit, and an aborted
commit does not undo what its transition did to the registry.
-/

namespace AgentycHost

open Shared

structure RefRegistryLimits where
  maxActiveRefs : Nat := 1024
  maxTombstones : Nat := 2048
  defaultTtl : Option Nat := some 300
  deriving DecidableEq

inductive RefInvalidationReason where
  | explicit
  | expired
  | capacity
  | documentChanged
  | navigationChanged
  | refEpochChanged
  | frameReplaced
  | rerendered
  | rawEvaluation
  | takeover
  | reconnect
  | scopeInvalidated
  | registryReset
  deriving DecidableEq

inductive RefStaleHint where
  | refreshSnapshot
  | refreshFrame
  | refreshDocument
  | refreshNavigation
  | expired
  | reconnect
  | reissue
  deriving DecidableEq

def RefInvalidationReason.staleHint : RefInvalidationReason -> RefStaleHint
  | .expired => .expired
  | .frameReplaced => .refreshFrame
  | .documentChanged | .rerendered => .refreshDocument
  | .navigationChanged => .refreshNavigation
  | .rawEvaluation | .refEpochChanged | .scopeInvalidated => .refreshSnapshot
  | .takeover | .reconnect => .reconnect
  | .explicit | .capacity | .registryReset => .reissue

def RefInvalidationReason.name : RefInvalidationReason -> String
  | .explicit => "Explicit"
  | .expired => "Expired"
  | .capacity => "Capacity"
  | .documentChanged => "DocumentChanged"
  | .navigationChanged => "NavigationChanged"
  | .refEpochChanged => "RefEpochChanged"
  | .frameReplaced => "FrameReplaced"
  | .rerendered => "Rerendered"
  | .rawEvaluation => "RawEvaluation"
  | .takeover => "Takeover"
  | .reconnect => "Reconnect"
  | .scopeInvalidated => "ScopeInvalidated"
  | .registryReset => "RegistryReset"

def RefStaleHint.text : RefStaleHint -> String
  | .refreshSnapshot => "refresh_snapshot"
  | .refreshFrame => "refresh_frame"
  | .refreshDocument => "refresh_document"
  | .refreshNavigation => "refresh_navigation"
  | .expired => "expired"
  | .reconnect => "reconnect"
  | .reissue => "reissue"

structure RefRecord where
  elementRef : ElementRef
  provenance : SnapshotProvenance
  issuedAt : Timestamp
  expiresAt : Option Timestamp
  frameVersion : Option Nat
  lastValidatedGeneration : Generation
  lastValidatedAt : Timestamp
  lastValidatedSnapshotVersion : SnapshotVersion
  lastValidatedNavigationGeneration : Generation
  lastValidatedDocumentGeneration : Generation
  lastValidatedFrameVersion : Option Nat
  deriving DecidableEq

structure RefTombstone where
  elementRef : ElementRef
  reason : RefInvalidationReason
  hint : RefStaleHint
  invalidatedAt : Timestamp
  deriving DecidableEq

structure RefRegistry where
  active : Table RefId RefRecord
  tombstones : Table RefId RefTombstone
  tombstoneOrder : List RefId
  limits : RefRegistryLimits
  nextRefNumber : Nat

namespace RefRegistry

def new (limits : RefRegistryLimits) : RefRegistry where
  active := ∅
  tombstones := ∅
  tombstoneOrder := []
  limits := limits
  nextRefNumber := 1

/-- Drop the oldest tombstones until the bound holds; `fuel` is the length of the order. -/
def trimTombstones (registry : RefRegistry) : Nat -> RefRegistry
  | 0 => registry
  | fuel + 1 =>
      if registry.tombstones.size ≤ registry.limits.maxTombstones then registry
      else match registry.tombstoneOrder with
        | [] => registry
        | oldest :: rest =>
            trimTombstones { registry with
              tombstones := registry.tombstones.erase oldest, tombstoneOrder := rest } fuel

def addTombstone (registry : RefRegistry) (refId : RefId) (tombstone : RefTombstone) : RefRegistry :=
  if registry.limits.maxTombstones = 0 then registry
  else
    let order := registry.tombstoneOrder.filter (fun other => !(other == refId)) ++ [refId]
    trimTombstones { registry with
      tombstones := registry.tombstones.insert refId tombstone, tombstoneOrder := order } order.length

def invalidateRef (registry : RefRegistry) (refId : RefId) (reason : RefInvalidationReason) (now : Timestamp) :
    RefRegistry :=
  match registry.active.get? refId with
  | none => registry
  | some record =>
      addTombstone { registry with active := registry.active.erase refId } refId
        { elementRef := record.elementRef, reason, hint := reason.staleHint, invalidatedAt := now }

def invalidateAllOf (registry : RefRegistry) (refIds : List RefId) (reason : RefInvalidationReason)
    (now : Timestamp) : RefRegistry :=
  refIds.foldl (fun registry refId => registry.invalidateRef refId reason now) registry

def liveIds (registry : RefRegistry) (test : RefRecord -> Bool) : List RefId :=
  (registry.active.filter fun _ record => test record).keys.insertionSort fun left right => left.text ≤ right.text

def invalidateMatching (registry : RefRegistry) (test : RefRecord -> Bool) (reason : RefInvalidationReason)
    (now : Timestamp) : RefRegistry :=
  registry.invalidateAllOf (registry.liveIds test) reason now

def onPage (spaceId : SpaceId) (pageId : PageId) (record : RefRecord) : Bool :=
  record.elementRef.spaceId == spaceId && record.elementRef.pageId == pageId

section Pages

variable (registry : RefRegistry) (spaceId : SpaceId) (pageId : PageId)

def invalidateScope (now : Timestamp) : RefRegistry :=
  registry.invalidateMatching (onPage spaceId pageId) .scopeInvalidated now

def invalidateRerender (now : Timestamp) : RefRegistry :=
  registry.invalidateMatching (onPage spaceId pageId) .rerendered now

def invalidateRawEvaluation (now : Timestamp) : RefRegistry :=
  registry.invalidateMatching (onPage spaceId pageId) .rawEvaluation now

def invalidateTakeover (now : Timestamp) : RefRegistry :=
  registry.invalidateMatching (onPage spaceId pageId) .takeover now

def invalidateReconnect (now : Timestamp) : RefRegistry :=
  registry.invalidateMatching (onPage spaceId pageId) .reconnect now

def onFrame (frameId : FrameId) (record : RefRecord) : Bool :=
  onPage spaceId pageId record && record.elementRef.frameId == frameId

def invalidateFrame (frameId : FrameId) (now : Timestamp) : RefRegistry :=
  registry.invalidateMatching (onFrame spaceId pageId frameId) .frameReplaced now

def ofOtherDocument (generation : Generation) (record : RefRecord) : Bool :=
  onPage spaceId pageId record && !(record.elementRef.documentGeneration == generation)

def invalidateDocumentGeneration (generation : Generation) (now : Timestamp) : RefRegistry :=
  registry.invalidateMatching (ofOtherDocument spaceId pageId generation) .documentChanged now

def ofOtherNavigation (generation : Generation) (record : RefRecord) : Bool :=
  onPage spaceId pageId record && !(record.elementRef.navigationGeneration == generation)

def invalidateNavigationGeneration (generation : Generation) (now : Timestamp) : RefRegistry :=
  registry.invalidateMatching (ofOtherNavigation spaceId pageId generation) .navigationChanged now

def ofOtherEpoch (refsEpoch : Nat) (record : RefRecord) : Bool :=
  onPage spaceId pageId record && !(record.elementRef.refsEpoch == refsEpoch)

def invalidateRefEpoch (refsEpoch : Nat) (now : Timestamp) : RefRegistry :=
  registry.invalidateMatching (ofOtherEpoch spaceId pageId refsEpoch) .refEpochChanged now

end Pages

def invalidateAll (registry : RefRegistry) (now : Timestamp) : RefRegistry :=
  registry.invalidateMatching (fun _ => true) .registryReset now

def provenanceReason (record : RefRecord) (current : SnapshotProvenance) : RefInvalidationReason :=
  if record.elementRef.refsEpoch ≠ current.refsEpoch then .refEpochChanged
  else if record.elementRef.navigationGeneration ≠ current.navigationGeneration then .navigationChanged
  else if record.elementRef.documentGeneration ≠ current.documentGeneration then .documentChanged
  else .rerendered

/-- `invalidate_provenance` tells a change of the contents from one of the coverage alone. -/
def replacementReason (record : RefRecord) (current : SnapshotProvenance) : RefInvalidationReason :=
  let reason := provenanceReason record current
  if reason = .rerendered ∧ record.elementRef.snapshotVersion = current.snapshotVersion ∧
      record.provenance.snapshotHash = current.snapshotHash then .explicit
  else reason

def ofOtherProvenance (current : SnapshotProvenance) (record : RefRecord) : Bool :=
  record.provenance.spaceId == current.spaceId && record.provenance.pageId == current.pageId &&
    !(record.provenance == current)

def invalidateProvenance (registry : RefRegistry) (current : SnapshotProvenance) (now : Timestamp) : RefRegistry :=
  (registry.liveIds (ofOtherProvenance current)).foldl (fun registry refId =>
    let reason := ((registry.active.get? refId).map fun record => replacementReason record current).getD
      .documentChanged
    registry.invalidateRef refId reason now) registry

def hasExpired (now : Timestamp) (record : RefRecord) : Bool :=
  record.expiresAt.any fun expiry => decide (expiry ≤ now)

def purgeExpired (registry : RefRegistry) (now : Timestamp) : RefRegistry :=
  registry.invalidateMatching (hasExpired now) .expired now

def staleError (registry : RefRegistry) (refId : RefId) : CoreError :=
  match registry.tombstones.get? refId with
  | some tombstone =>
      .staleRef ("ref was invalidated: " ++ tombstone.reason.name ++ "; hint=" ++ tombstone.hint.text)
  | none => .staleRef "ref is not present in the bounded registry; hint=reissue"

def allocateRefId (registry : RefRegistry) : Nat -> RefRegistry × Except CoreError RefId
  | 0 => (registry, .error (.invalidArgument "reference identity counter overflow"))
  | fuel + 1 =>
      match checkedNext registry.nextRefNumber with
      | none => (registry, .error (.invalidArgument "reference identity counter overflow"))
      | some next =>
          let refId : RefId := .host registry.nextRefNumber
          let advanced := { registry with nextRefNumber := next }
          if registry.active.contains refId || registry.tombstones.contains refId then advanced.allocateRefId fuel
          else (advanced, .ok refId)

def olderThan (left right : RefRecord) : Bool :=
  decide (left.issuedAt < right.issuedAt) ||
    (left.issuedAt == right.issuedAt && decide (left.elementRef.refId.text ≤ right.elementRef.refId.text))

def older (oldest : Option RefRecord) (record : RefRecord) : Option RefRecord :=
  match oldest with
  | none => some record
  | some other => if olderThan other record then some other else some record

def oldestRef (registry : RefRegistry) : Option RefId :=
  (registry.active.values.foldl older none).map (·.elementRef.refId)

def makeRoom (registry : RefRegistry) (now : Timestamp) : Nat -> RefRegistry
  | 0 => registry
  | fuel + 1 =>
      if registry.active.size < registry.limits.maxActiveRefs then registry
      else match registry.oldestRef with
        | none => registry
        | some oldest => makeRoom (registry.invalidateRef oldest .capacity now) now fuel

def saturatingAdd (left right : Nat) : Nat := min (left + right) u64Max

def fitsProvenance (element : ElementRef) (provenance : SnapshotProvenance) : Bool :=
  element.spaceId == provenance.spaceId && element.pageId == provenance.pageId &&
    element.snapshotVersion == provenance.snapshotVersion &&
    element.documentGeneration == provenance.documentGeneration &&
    element.navigationGeneration == provenance.navigationGeneration && element.refsEpoch == provenance.refsEpoch

def expiry (limits : RefRegistryLimits) (now : Timestamp) : Option Timestamp :=
  limits.defaultTtl.map fun ttl => saturatingAdd now ttl

def register (registry : RefRegistry) (element : ElementRef) (provenance : SnapshotProvenance) (now : Timestamp) :
    Except CoreError RefRegistry := do
  require provenance.canIssueRefs (.staleRef "refs require complete coherent snapshot provenance")
  require (fitsProvenance element provenance) (.staleRef "ref does not match the supplied snapshot provenance")
  require (registry.limits.maxActiveRefs ≠ 0)
    (.new .messageTooLarge "reference registry has no active capacity")
  let registry := registry.purgeExpired now
  let registry := registry.invalidateRef element.refId .explicit now
  let registry := registry.makeRoom now (registry.active.size + 1)
  pure { registry with
    active := registry.active.insert element.refId
      { elementRef := element, provenance, issuedAt := now, expiresAt := expiry registry.limits now,
        frameVersion := none, lastValidatedGeneration := provenance.documentGeneration, lastValidatedAt := now,
        lastValidatedSnapshotVersion := provenance.snapshotVersion,
        lastValidatedNavigationGeneration := provenance.navigationGeneration,
        lastValidatedDocumentGeneration := provenance.documentGeneration,
        lastValidatedFrameVersion := none } }

def makeRef (envelope : SnapshotEnvelope) (refId : RefId) (frameId : FrameId) (elementKey : ElementKey) :
    Except CoreError ElementRef := do
  require envelope.canIssueRefs (.staleRef "refs require a complete coherent non-truncated snapshot")
  let keys <- orElse envelope.elementKeys (.staleRef "element refs require a full snapshot body")
  require (keys.contains elementKey) (.staleRef "element key is not present in the issuing snapshot")
  pure { refId, elementKey, frameId, spaceId := envelope.spaceId, pageId := envelope.pageId,
         snapshotVersion := envelope.snapshotVersion, documentGeneration := envelope.documentGeneration,
         navigationGeneration := envelope.navigationGeneration, refsEpoch := envelope.refsEpoch }

def frameVersionIn (envelope : SnapshotEnvelope) (frameId : FrameId) : Option Nat :=
  (envelope.frameVersions.find? fun entry => entry.1 == frameId).map Prod.snd

def issueWithId (codec : Codec) (registry : RefRegistry) (refId : RefId) (envelope : SnapshotEnvelope)
    (frameId : FrameId) (elementKey : ElementKey) (now : Timestamp) : Except CoreError (ElementRef × RefRegistry) := do
  require (codec.envelopeValid envelope) (.invalidArgument "snapshot envelope is invalid")
  let frameVersion <- orElse (frameVersionIn envelope frameId)
    (.staleRef "snapshot frame vector does not contain the requested frame")
  let element <- makeRef envelope refId frameId elementKey
  let registry <- registry.register element envelope.provenance now
  pure (element, { registry with
    active := registry.active.modify refId fun record =>
      { record with frameVersion := some frameVersion, lastValidatedFrameVersion := some frameVersion } })

def issue (codec : Codec) (registry : RefRegistry) (envelope : SnapshotEnvelope) (frameId : FrameId)
    (elementKey : ElementKey) (now : Timestamp) : RefRegistry × Except CoreError ElementRef :=
  if !codec.envelopeValid envelope then
    (registry, .error (.invalidArgument "snapshot envelope is invalid"))
  else match registry.allocateRefId (registry.active.size + registry.tombstones.size + 1) with
    | (registry, .error error) => (registry, .error error)
    | (registry, .ok refId) =>
        match registry.issueWithId codec refId envelope frameId elementKey now with
        | .error error => (registry, .error error)
        | .ok (element, registry) => (registry, .ok element)

def validated (current : SnapshotProvenance) (now : Timestamp) (record : RefRecord) : RefRecord :=
  { record with
    lastValidatedGeneration := current.documentGeneration
    lastValidatedAt := now
    lastValidatedSnapshotVersion := current.snapshotVersion
    lastValidatedNavigationGeneration := current.navigationGeneration
    lastValidatedDocumentGeneration := current.documentGeneration
    lastValidatedFrameVersion := record.frameVersion }

def resolveRef (registry : RefRegistry) (element : ElementRef) (frameId : FrameId) (current : SnapshotProvenance)
    (now : Timestamp) : RefRegistry × Except CoreError Unit :=
  let registry := registry.purgeExpired now
  match registry.active.get? element.refId with
  | none => (registry, .error (registry.staleError element.refId))
  | some record =>
      if record.elementRef ≠ element then
        (registry, .error (.staleRef "ref identity or provenance was altered; hint=reissue"))
      else if record.elementRef.frameId ≠ frameId then
        (registry, .error
          (.staleRef "ref frame provenance does not match the requested frame; hint=refresh_frame"))
      else if current ≠ record.provenance then
        let registry := registry.invalidateRef element.refId (provenanceReason record current) now
        (registry, .error (registry.staleError element.refId))
      else match element.validateAgainst current with
        | .error error => (registry, .error error)
        | .ok () =>
            ({ registry with active := registry.active.modify element.refId (validated current now) }, .ok ())

def frameVersionOf (registry : RefRegistry) (refId : RefId) : Option Nat :=
  (registry.active.get? refId).bind (·.frameVersion)

def resolveAgainstSnapshot (codec : Codec) (registry : RefRegistry) (element : ElementRef)
    (envelope : SnapshotEnvelope) (now : Timestamp) : RefRegistry × Except CoreError Unit :=
  if !codec.envelopeValid envelope then
    (registry, .error (.invalidArgument "snapshot envelope is invalid"))
  else if !envelope.canIssueRefs then
    (registry, .error (.staleRef "snapshot cannot validate element refs"))
  else
    let frameVersion := frameVersionIn envelope element.frameId
    let replaced := (registry.active.get? element.refId).any fun record =>
      record.elementRef == element && record.frameVersion.isSome && !(record.frameVersion == frameVersion)
    if replaced then
      let registry := registry.invalidateRef element.refId .frameReplaced now
      (registry, .error (registry.staleError element.refId))
    else match registry.resolveRef element element.frameId envelope.provenance now with
      | (registry, .error error) => (registry, .error error)
      | (registry, .ok ()) =>
          let version := registry.frameVersionOf element.refId
          if version.isSome && !(version == frameVersion) then
            (registry, .error (.staleRef
              "frame identity was reused with a different frame version; hint=refresh_frame"))
          else (registry, .ok ())

def resolveId (registry : RefRegistry) (refId : RefId) (frameId : FrameId) (current : SnapshotProvenance)
    (now : Timestamp) : RefRegistry × Except CoreError Unit :=
  let remembered := ((registry.active.get? refId).map (·.elementRef)).or
    ((registry.tombstones.get? refId).map (·.elementRef))
  match remembered with
  | none => (registry, .error (registry.staleError refId))
  | some element => registry.resolveRef element frameId current now

end RefRegistry

end AgentycHost
