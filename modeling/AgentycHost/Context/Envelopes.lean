import AgentycHost.Context.Deltas

set_option autoImplicit false

/-!
# Envelopes with their bodies

An envelope declares what its body is: a list of elements, a delta against a
base, or a marker that a fresh base is needed. Its own check ties the declared
mode, hashes and counts to the body.
-/

namespace AgentycHost

open Shared

inductive SnapshotMode where
  | full
  | compact
  | delta
  | resync
  deriving DecidableEq

inductive CacheState where
  | fresh
  | cached
  | stale
  | invalidated
  deriving DecidableEq

inductive SnapshotBody where
  | elements (elements : List SnapshotElement)
  | delta (delta : SnapshotDelta)
  | resync (reason : ResyncReason)
  deriving DecidableEq

abbrev FrameVersions := OrderedMap FrameId FrameVersion Identifier.text

structure ContextEnvelope where
  schemaVersion : Nat
  spaceId : SpaceId
  pageId : PageId
  snapshotVersion : SnapshotVersion
  snapshotHash : ContentHash
  baseSnapshotVersion : Option SnapshotVersion
  baseHash : Option ContentHash
  resultHash : ContentHash
  deltaSequence : Option DeltaSequence
  topologyVersion : Nat
  navigationGeneration : Generation
  documentGeneration : Generation
  frameVersions : FrameVersions
  changed : List ElementKey
  deltaOrElements : SnapshotBody
  mode : SnapshotMode
  operationCount : Nat
  coherent : Bool
  coverage : SnapshotCoverage
  cacheState : CacheState
  resyncReason : Option ResyncReason
  tokenizer : Option String
  omitted : List String
  truncated : Bool
  resyncRequired : Bool
  refsEpoch : Nat
  deriving DecidableEq

def snapshotSchemaVersion : Nat := 1

namespace ContextEnvelope

variable (envelope : ContextEnvelope)

def provenance : SnapshotProvenance where
  spaceId := envelope.spaceId
  pageId := envelope.pageId
  snapshotVersion := envelope.snapshotVersion
  snapshotHash := envelope.snapshotHash
  documentGeneration := envelope.documentGeneration
  navigationGeneration := envelope.navigationGeneration
  refsEpoch := envelope.refsEpoch
  coherent := envelope.coherent
  coverage := envelope.coverage

def canIssueRefs : Bool := !envelope.truncated && !envelope.resyncRequired && envelope.provenance.canIssueRefs

section Validate

/-- `validate_canonical_keys`: each key after the one before it. -/
def canonicalKeys : List ElementKey -> Bool
  | first :: second :: rest => textBefore first.text second.text && canonicalKeys (second :: rest)
  | _ => true

def checkFields : Except SnapshotValidationError Unit := do
  require (envelope.schemaVersion == snapshotSchemaVersion) (.unsupportedSchemaVersion envelope.schemaVersion)
  require envelope.provenance.validate
    (.invalidProvenance "an incoherent snapshot cannot claim complete coverage")
  require (envelope.frameVersions.entries.length ≤ maxSnapshotFrameVersions)
    (.tooManyFrameVersions envelope.frameVersions.entries.length)
  require (envelope.changed.length ≤ maxSnapshotElements) (.tooManyChangedKeys envelope.changed.length)
  require (envelope.omitted.length ≤ maxSnapshotOmittedFields) (.tooManyOmittedFields envelope.omitted.length)
  require (!envelope.tokenizer.any fun tokenizer => decide (maxSnapshotTokenizerBytes < tokenizer.utf8ByteSize))
    (.tokenizerTooLarge ((envelope.tokenizer.map String.utf8ByteSize).getD 0))
  require (!envelope.omitted.any String.isEmpty) (.invalidProvenance "omitted field names must not be empty")
  (envelope.omitted.find? fun field => decide (maxSnapshotOmittedFieldBytes < field.utf8ByteSize)).elim (.ok ())
    fun field => .error (.omittedFieldTooLarge field.utf8ByteSize)
  require (!(envelope.truncated && envelope.coverage == .complete))
    (.invalidProvenance "a truncated snapshot cannot claim complete coverage")
  require (canonicalKeys envelope.changed) .nonCanonicalChanged

def checkElements (elements : List SnapshotElement) : Except SnapshotValidationError Unit := do
  require (elements.length ≤ maxSnapshotElements) (.tooManyElements elements.length)
  require (!(envelope.baseSnapshotVersion.isSome || envelope.baseHash.isSome || envelope.deltaSequence.isSome ||
      envelope.resyncReason.isSome || envelope.operationCount != 0 || envelope.resyncRequired))
    .unexpectedBodyMetadata
  let document <- SnapshotDocument.make envelope.snapshotVersion elements
  require (document.elements == elements) .nonCanonicalBody
  require (envelope.snapshotHash == document.snapshotHash)
    (.bodyHashMismatch envelope.snapshotHash document.snapshotHash)
  require (envelope.resultHash == envelope.snapshotHash)
    (.resultHashMismatch envelope.resultHash envelope.snapshotHash)

def checkDelta (delta : SnapshotDelta) : Except SnapshotValidationError Unit := do
  require (!(envelope.baseSnapshotVersion != some delta.baseSnapshotVersion ||
      envelope.baseHash != some delta.baseHash || envelope.deltaSequence != some delta.deltaSequence ||
      envelope.snapshotVersion != delta.resultSnapshotVersion || envelope.snapshotHash != delta.resultHash ||
      envelope.resyncReason.isSome || envelope.resyncRequired))
    .deltaMetadataMismatch
  require (envelope.operationCount == delta.operations.length) .operationCountMismatch
  (delta.validate .default).mapError .invalidDelta

def checkResync (reason : ResyncReason) : Except SnapshotValidationError Unit :=
  require (!(!envelope.resyncRequired || envelope.resyncReason != some reason ||
      envelope.baseSnapshotVersion.isSome || envelope.baseHash.isSome || envelope.deltaSequence.isSome ||
      envelope.operationCount != 0))
    .resyncMetadataMismatch

def checkBody : Except SnapshotValidationError Unit :=
  match envelope.mode, envelope.deltaOrElements with
  | .full, .elements elements | .compact, .elements elements => envelope.checkElements elements
  | .delta, .delta delta => envelope.checkDelta delta
  | .resync, .resync reason => envelope.checkResync reason
  | _, _ => .error .modeBodyMismatch

def validate : Except SnapshotValidationError Unit := do
  envelope.checkFields
  envelope.checkBody
  require (!(!envelope.coherent && envelope.canIssueRefs)) .partialCanNotIssueRefs

end Validate

end ContextEnvelope

end AgentycHost
