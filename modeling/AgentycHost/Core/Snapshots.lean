import AgentycHost.Core.Events

set_option autoImplicit false

/-!
# Snapshot envelopes and element references

The broker reads the provenance of an envelope and the keys its body offers for
references. The rest of the body is carried as one opaque value.
-/

namespace AgentycHost

inductive SnapshotCoverage where
  | complete
  | partly
  deriving DecidableEq

structure SnapshotProvenance where
  spaceId : SpaceId
  pageId : PageId
  snapshotVersion : SnapshotVersion
  snapshotHash : ContentHash
  documentGeneration : Generation
  navigationGeneration : Generation
  refsEpoch : Nat
  coherent : Bool
  coverage : SnapshotCoverage
  deriving DecidableEq

def SnapshotProvenance.validate (provenance : SnapshotProvenance) : Bool :=
  !(!provenance.coherent && provenance.coverage == .complete)

def SnapshotProvenance.canIssueRefs (provenance : SnapshotProvenance) : Bool :=
  provenance.coherent && provenance.coverage == .complete

structure ElementRef where
  refId : RefId
  elementKey : ElementKey
  spaceId : SpaceId
  pageId : PageId
  frameId : FrameId
  snapshotVersion : SnapshotVersion
  documentGeneration : Generation
  navigationGeneration : Generation
  refsEpoch : Nat
  deriving DecidableEq

def CoreError.staleRef (message : String) : CoreError := .new .staleRef message

def ElementRef.validateAgainst (element : ElementRef) (provenance : SnapshotProvenance) :
    Except CoreError Unit :=
  if !provenance.validate then
    .error (.invalidArgument "an incoherent snapshot cannot claim complete coverage")
  else if !provenance.canIssueRefs then
    .error (.staleRef "snapshot is partial or incoherent and cannot validate refs")
  else if element.spaceId ≠ provenance.spaceId ∨ element.pageId ≠ provenance.pageId then
    .error (.staleRef "ref scope does not match snapshot scope")
  else if element.snapshotVersion ≠ provenance.snapshotVersion ∨
      element.documentGeneration ≠ provenance.documentGeneration ∨
      element.navigationGeneration ≠ provenance.navigationGeneration ∨
      element.refsEpoch ≠ provenance.refsEpoch then
    .error (.staleRef "ref provenance is stale")
  else .ok ()

structure SnapshotEnvelope where
  spaceId : SpaceId
  pageId : PageId
  snapshotVersion : SnapshotVersion
  snapshotHash : ContentHash
  navigationGeneration : Generation
  documentGeneration : Generation
  refsEpoch : Nat
  coherent : Bool
  coverage : SnapshotCoverage
  truncated : Bool
  resyncRequired : Bool
  frameVersions : List (FrameId × Nat)
  -- `none` is a delta body, which offers no keys
  elementKeys : Option (List ElementKey)
  body : String
  deriving DecidableEq

namespace SnapshotEnvelope

def provenance (envelope : SnapshotEnvelope) : SnapshotProvenance where
  spaceId := envelope.spaceId
  pageId := envelope.pageId
  snapshotVersion := envelope.snapshotVersion
  snapshotHash := envelope.snapshotHash
  documentGeneration := envelope.documentGeneration
  navigationGeneration := envelope.navigationGeneration
  refsEpoch := envelope.refsEpoch
  coherent := envelope.coherent
  coverage := envelope.coverage

def canIssueRefs (envelope : SnapshotEnvelope) : Bool :=
  !envelope.truncated && !envelope.resyncRequired && envelope.provenance.canIssueRefs

end SnapshotEnvelope

/-- Facts about an element as a client observed them; `none` is a fact nobody proved. -/
structure ActionabilityEvidence where
  connected : Option Bool := none
  visible : Option Bool := none
  disabled : Option Bool := none
  readonly : Option Bool := none
  covered : Option Bool := none
  overlayPresent : Option Bool := none
  hitTarget : Option Bool := none
  moving : Option Bool := none
  offscreen : Option Bool := none
  userControl : Option Bool := none
  targetGeneration : Option Generation := none
  navigationGeneration : Option Generation := none
  documentGeneration : Option Generation := none
  snapshotHash : Option ContentHash := none
  deriving DecidableEq

structure PageGeneration where
  targetGeneration : Generation
  navigationGeneration : Generation
  documentGeneration : Generation
  deriving DecidableEq

def PageGeneration.fromPage (page : PageDescriptor) : PageGeneration where
  targetGeneration := page.targetGeneration
  navigationGeneration := page.navigationGeneration
  documentGeneration := page.documentGeneration

def PageGeneration.matchesPage (generation : PageGeneration) (page : PageDescriptor) : Bool :=
  generation.targetGeneration == page.targetGeneration &&
    generation.navigationGeneration == page.navigationGeneration &&
    generation.documentGeneration == page.documentGeneration

structure SnapshotCacheRecord where
  envelope : SnapshotEnvelope
  generation : PageGeneration
  dirty : Bool
  deriving DecidableEq

end AgentycHost
