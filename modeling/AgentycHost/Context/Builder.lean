import AgentycHost.Cdp.Bridge
import AgentycHost.Context.Focus

set_option autoImplicit false

/-!
# Building a context

A context is built from a snapshot that was read before. Sensitive attributes
are replaced, one of several bodies is selected, and the answer is cut or
replaced by a marker when it exceeds what the request allows.
-/

namespace AgentycHost

open Shared

section Request

inductive ContextMode where
  | auto
  | full
  | compact
  | focus
  | delta
  deriving DecidableEq

inductive ContextRepresentation where
  | metadata
  | full
  | compact
  | delta
  | focus
  | resync
  deriving DecidableEq

structure TokenBudget where
  serializedLimit : Option Nat
  modelContextLimit : Option Nat
  deriving DecidableEq

structure RedactionPolicy where
  sensitiveFields : List String
  replacement : String
  deriving DecidableEq

def RedactionPolicy.default : RedactionPolicy where
  sensitiveFields := ["api_key", "apikey", "authorization", "bearer", "card_number", "cookie", "credit_card", "cvv",
    "password", "secret", "ssn", "token", "value"]
  replacement := "[REDACTED]"

def foldFieldName (name : String) : List Nat := (asciiLowercase name).map fun byte => if byte = 45 then 95 else byte

def RedactionPolicy.isSensitive (policy : RedactionPolicy) (name : String) : Bool :=
  policy.sensitiveFields.any fun field =>
    foldFieldName name == foldFieldName field || containsBytes (foldFieldName name) (foldFieldName field)

structure ContextRequest where
  mode : ContextMode := .auto
  base : Option ContextEnvelope := none
  focus : ContextFocus := {}
  maxSerializedBytes : Option Nat := none
  tokenBudget : Option TokenBudget := none
  tokenizer : Option String := none
  deltaLimits : DeltaLimits := .default
  minimumCoverage : SnapshotCoverage := .complete
  cleanCacheMetadataOnly : Bool := true
  allowResync : Bool := true
  redaction : RedactionPolicy := .default
  deriving DecidableEq

structure SnapshotRead where
  envelope : ContextEnvelope
  cacheState : CacheState
  scanPerformed : Bool
  deriving DecidableEq

structure ContextMetadata where
  spaceId : SpaceId
  pageId : PageId
  snapshotVersion : SnapshotVersion
  snapshotHash : ContentHash
  navigationGeneration : Generation
  documentGeneration : Generation
  refsEpoch : Nat
  cacheState : CacheState
  scanPerformed : Bool
  cleanCache : Bool
  coverage : SnapshotCoverage
  representation : ContextRepresentation
  redacted : Bool
  truncated : Bool
  resyncRequired : Bool
  resyncReason : Option ResyncReason
  deriving DecidableEq

structure TokenMetrics where
  transportBytes : Nat
  utf8Bytes : Nat
  serializedTokens : Nat
  modelContextTokens : Nat
  tokenizer : Option String
  budget : Option TokenBudget
  deriving DecidableEq

structure ContextOutput where
  metadata : ContextMetadata
  body : Option SnapshotBody
  metrics : TokenMetrics
  deriving DecidableEq

inductive TokenizerError where
  | countOverflow
  | invalidInput (message : String)
  deriving DecidableEq

def TokenizerError.message : TokenizerError -> String
  | countOverflow => "token count overflow"
  | invalidInput message => message

structure Tokenizer where
  name : String
  countTokens : String -> Except TokenizerError Nat
  countModelContextTokens : String -> Except TokenizerError Nat

def unicodeScalars : Tokenizer where
  name := "unicode_scalars"
  countTokens := fun input => .ok input.length
  countModelContextTokens := fun input => .ok input.length

/-- The texts that `serde_json` and `Debug` make. -/
structure ContextTexts where
  metadataJson : ContextMetadata -> String
  bodyJson : SnapshotBody -> String
  debug : Option String -> String

end Request

section Redaction

variable (policy : RedactionPolicy)

def redactValue (name value : String) : String := if policy.isSensitive name then policy.replacement else value

def redactElement (element : SnapshotElement) : SnapshotElement :=
  { element with attributes := element.attributes.mapValues (redactValue policy) }

def redactElements (elements : List SnapshotElement) : List SnapshotElement × Bool :=
  (elements.map (redactElement policy), elements.any fun element =>
    element.attributes.entries.any fun entry => policy.isSensitive entry.1 && entry.2 != policy.replacement)

def compactAttributes : List String := ["id", "name", "role", "type", "aria-label", "placeholder", "href"]

def compactElement (element : SnapshotElement) : SnapshotElement :=
  if element.kind == .control || element.kind == .frame then
    { element with
      attributes := element.attributes.retain fun name =>
        (compactAttributes.map bytes).contains (asciiLowercase name) || policy.isSensitive name }
  else { element with text := none, attributes := .empty }

def compactElements (elements : List SnapshotElement) : List SnapshotElement := elements.map (compactElement policy)

end Redaction

section Base

def isOutdated : CacheState -> Bool
  | .stale | .invalidated => true
  | .fresh | .cached => false

def baseResyncReason (current base : ContextEnvelope) (limits : DeltaLimits) : Option ResyncReason :=
  if current.spaceId ≠ base.spaceId ∨ current.pageId ≠ base.pageId then some .baseMissing
  else if !base.validate.toBool || isOutdated base.cacheState || base.resyncRequired || base.truncated ||
      !base.coherent || base.coverage != .complete then
    some (base.resyncReason.getD .incoherent)
  else if base.mode ≠ .full then some (if base.mode = .delta then .unsupportedDelta else .incoherent)
  else if current.navigationGeneration ≠ base.navigationGeneration ∨
      current.documentGeneration ≠ base.documentGeneration then some .navigationChanged
  else if current.topologyVersion ≠ base.topologyVersion ∨ current.frameVersions ≠ base.frameVersions then
    some .incoherent
  else if current.resyncRequired || current.truncated || !current.coherent then
    some (current.resyncReason.getD .incoherent)
  else if current.snapshotVersion ≤ base.snapshotVersion then some .baseMissing
  else if limits.maxChainDepth < current.snapshotVersion - base.snapshotVersion then some .chainTooLong
  else if limits.maxChainDepth = 0 ∨ (currentChainDepth current).any (fun depth => limits.maxChainDepth ≤ depth) then
    some .chainTooLong
  else none

def deltaFailureReasonFor (error : CoreError) : ResyncReason :=
  if error.code = .messageTooLarge then .chainTooLong
  else if error.code = .staleRef then .baseHashMismatch
  else .incoherent

def redactedBaseDocument (base : ContextEnvelope) (policy : RedactionPolicy) : Except CoreError SnapshotDocument := do
  base.validate.mapError fun error => .invalidArgument error.message
  match base.deltaOrElements with
  | .elements elements =>
      (SnapshotDocument.make base.snapshotVersion (redactElements policy elements).1).mapError fun error =>
        .invalidArgument error.message
  | .delta _ | .resync _ => .error (.new .eventLagged "delta base must be a complete element snapshot")

def currentDocument (envelope : ContextEnvelope) (base : Option ContextEnvelope) (policy : RedactionPolicy)
    (limits : DeltaLimits) : Except CoreError SnapshotDocument :=
  match envelope.deltaOrElements with
  | .elements elements =>
      (SnapshotDocument.make envelope.snapshotVersion (redactElements policy elements).1).mapError fun error =>
        .invalidArgument error.message
  | .delta delta => do
      let base <- orElse base (.new .eventLagged "delta context requires a retained base")
      let baseDocument <- redactedBaseDocument base policy
      (delta.apply baseDocument limits).mapError DeltaError.coreError
  | .resync reason => .error (.new .eventLagged ("snapshot requires resync: " ++ reason.debug))

def baseMatches (current baseEnvelope : ContextEnvelope) (base : SnapshotDocument) : Bool :=
  decide (baseEnvelope.spaceId = current.spaceId ∧ baseEnvelope.pageId = current.pageId ∧
    baseEnvelope.snapshotHash = base.snapshotHash ∧
    baseEnvelope.navigationGeneration = current.navigationGeneration ∧
    baseEnvelope.documentGeneration = current.documentGeneration ∧
    baseEnvelope.topologyVersion = current.topologyVersion ∧
    baseEnvelope.frameVersions = current.frameVersions ∧
    baseEnvelope.snapshotVersion < current.snapshotVersion)

def deltaAgainst (envelope base : ContextEnvelope) (policy : RedactionPolicy) (limits : DeltaLimits)
    (current : SnapshotDocument) : Except ResyncReason SnapshotBody := do
  let document <- (redactedBaseDocument base policy).mapError fun _ => .baseMissing
  require (baseMatches envelope base document) .incoherent
  (buildDeltaBody envelope base document current limits).mapError deltaFailureReasonFor

end Base

section Select

structure BodyCandidates where
  full : SnapshotBody
  compact : SnapshotBody
  delta : Option SnapshotBody

structure SelectedBody where
  representation : ContextRepresentation
  body : SnapshotBody
  coverage : SnapshotCoverage

def coverageAllowed (actual minimum : SnapshotCoverage) : Bool := minimum == .partly || actual == .complete

def representationRank : ContextRepresentation -> Nat
  | .delta => 0
  | .compact => 1
  | .focus => 2
  | .full => 3
  | .metadata | .resync => 4

variable (texts : ContextTexts) (request : ContextRequest) (envelope : ContextEnvelope)

def bodyCost (body : SnapshotBody) : Nat := (texts.bodyJson body).utf8ByteSize

def bodySafe : Bool := envelope.coherent && !envelope.truncated && !envelope.resyncRequired

def isComplete : Bool := bodySafe envelope && envelope.coverage == .complete

def candidateList (candidates : BodyCandidates) : List (ContextRepresentation × SnapshotBody) :=
  if bodySafe envelope && coverageAllowed (if isComplete envelope then .complete else .partly) request.minimumCoverage then
    (.full, candidates.full) :: (.compact, candidates.compact) ::
      (if isComplete envelope then candidates.delta.toList.map fun body => (.delta, body) else [])
  else []

def cheaper (one other : ContextRepresentation × SnapshotBody) : Bool :=
  decide (bodyCost texts one.2 < bodyCost texts other.2) ||
    (bodyCost texts one.2 == bodyCost texts other.2 && decide (representationRank one.1 < representationRank other.1))

def cheapest : List (ContextRepresentation × SnapshotBody) -> Option (ContextRepresentation × SnapshotBody)
  | [] => none
  | first :: rest => some (rest.foldl (fun best next => if cheaper texts next best then next else best) first)

def selectBody (candidates : BodyCandidates) : Option SelectedBody :=
  let offered := candidateList request envelope candidates
  let pick representation := offered.find? fun candidate => candidate.1 == representation
  match request.mode with
  | .full => (pick .full).map fun found => ⟨found.1, found.2, envelope.coverage⟩
  | .compact => (pick .compact).map fun found => ⟨found.1, found.2, envelope.coverage⟩
  | .focus => (pick .full).map fun found => ⟨.focus, found.2, envelope.coverage⟩
  | .delta => (pick .delta).map fun found => ⟨found.1, found.2, .complete⟩
  | .auto => (cheapest texts offered).map fun found => ⟨found.1, found.2, envelope.coverage⟩

end Select

section Budget

variable (texts : ContextTexts) (tokenizer : Tokenizer) (request : ContextRequest)

def tokenizerCount (count : Except TokenizerError Nat) : Except CoreError Nat :=
  count.mapError fun error => .invalidArgument error.message

def serializedContext (metadata : ContextMetadata) (body : Option SnapshotBody) : String :=
  texts.metadataJson metadata ++ (body.map texts.bodyJson).getD ""

def measure (metadata : ContextMetadata) (body : Option SnapshotBody) : Except CoreError TokenMetrics := do
  let serialized := serializedContext texts metadata body
  let serializedTokens <- tokenizerCount (tokenizer.countTokens serialized)
  let modelContextTokens <- tokenizerCount (tokenizer.countModelContextTokens serialized)
  pure
    { transportBytes := serialized.utf8ByteSize
      utf8Bytes := serialized.utf8ByteSize
      serializedTokens
      modelContextTokens
      tokenizer := some tokenizer.name
      budget := request.tokenBudget }

def within (limit : Option Nat) (count : Nat) : Bool := limit.all fun limit => decide (count ≤ limit)

def TokenMetrics.fits (metrics : TokenMetrics) : Bool :=
  within request.maxSerializedBytes metrics.utf8Bytes &&
    within (request.tokenBudget.bind (·.serializedLimit)) metrics.serializedTokens &&
    within (request.tokenBudget.bind (·.modelContextLimit)) metrics.modelContextTokens

def fitsBudget (metadata : ContextMetadata) (body : Option SnapshotBody) : Except CoreError Bool := do
  let metrics <- measure texts tokenizer request metadata body
  pure (metrics.fits request)

/-- The loop that drops the last element. There are as many rounds as elements. -/
def popUntil (limit : Nat) : Nat -> List SnapshotElement -> List SnapshotElement
  | 0, elements => elements
  | rounds + 1, elements =>
      if elements.isEmpty || decide (bodyCost texts (.elements elements) ≤ limit) then elements
      else popUntil limit rounds elements.dropLast

def truncateElements (elements : List SnapshotElement) : List SnapshotElement :=
  match request.maxSerializedBytes.getD 0 with
  | 0 => []
  | limit => popUntil texts limit elements.length elements

end Budget

section Build

variable (texts : ContextTexts) (tokenizer : Tokenizer) (read : SnapshotRead) (request : ContextRequest)

def makeMetadata (coverage : SnapshotCoverage) (representation : ContextRepresentation) : ContextMetadata where
  spaceId := read.envelope.spaceId
  pageId := read.envelope.pageId
  snapshotVersion := read.envelope.snapshotVersion
  snapshotHash := read.envelope.snapshotHash
  navigationGeneration := read.envelope.navigationGeneration
  documentGeneration := read.envelope.documentGeneration
  refsEpoch := read.envelope.refsEpoch
  cacheState := read.cacheState
  scanPerformed := read.scanPerformed
  cleanCache := false
  coverage := coverage
  representation := representation
  redacted := false
  truncated := false
  resyncRequired := read.envelope.resyncRequired
  resyncReason := read.envelope.resyncReason

def emit (metadata : ContextMetadata) (body : Option SnapshotBody) (otherwise : Except CoreError ContextOutput) :
    Except CoreError ContextOutput := do
  let fits <- fitsBudget texts tokenizer request metadata body
  if fits then do
    let metrics <- measure texts tokenizer request metadata body
    pure { metadata, body, metrics }
  else otherwise

def metadataOnly : Except CoreError ContextOutput :=
  emit texts tokenizer request { makeMetadata read read.envelope.coverage .metadata with cleanCache := true } none
    (.error (.new .messageTooLarge "clean-cache context metadata exceeds its serialized budget"))

def resyncOutput (reason : ResyncReason) : Except CoreError ContextOutput :=
  emit texts tokenizer request
    { makeMetadata read .partly .resync with resyncRequired := true, resyncReason := some reason }
    (some (.resync reason))
    (.error (.new .messageTooLarge "resynchronization context marker exceeds its serialized budget"))

def resyncOr (reason : ResyncReason) (error : CoreError) : Except CoreError ContextOutput :=
  if request.allowResync then resyncOutput texts tokenizer read request reason else .error error

def focusRequested : Bool := request.mode == .focus || !request.focus.isEmpty

def validateTokenizer : Except CoreError Unit :=
  require (request.tokenizer.all fun requested => requested == tokenizer.name)
    (.invalidArgument ("requested tokenizer " ++ texts.debug request.tokenizer ++
      " does not match supplied tokenizer " ++ texts.debug (some tokenizer.name)))

def validateFocusRequestShape : Except CoreError Unit := do
  require (!(request.mode == .focus && request.focus.isEmpty))
    (.invalidArgument "focus context requires a frame_id or element_key target")
  require (!(focusRequested request && request.focus.isEmpty))
    (.invalidArgument "focused context requires a non-empty logical target")

def validateFocusProvenance : Except CoreError Unit := do
  require (!(isOutdated read.cacheState || isOutdated read.envelope.cacheState))
    (.staleRef "focused context requires a current snapshot cache entry")
  require (isComplete read.envelope) (.staleRef "focused context requires a complete coherent snapshot")

def validateFocus : Except CoreError Unit := do
  validateFocusRequestShape request
  if focusRequested request then validateFocusProvenance read else .ok ()

/-- A clean cache answers without a body, but a focus is still checked. -/
def cachedOutput : Except CoreError ContextOutput :=
  if focusRequested request then
    match read.envelope.deltaOrElements with
    | .elements elements => do
        let _ <- focusElements (redactElements request.redaction elements).1 request.focus read.envelope.frameVersions
        metadataOnly texts tokenizer read request
    | .delta _ | .resync _ =>
        .error (.staleRef "focused context requires a complete retained snapshot body")
  else metadataOnly texts tokenizer read request

def deltaRefusal : Option (ResyncReason × CoreError) :=
  if request.mode = .delta then
    match request.base with
    | none => some (.baseMissing, .new .eventLagged "delta context requires a retained base")
    | some base =>
        (baseResyncReason read.envelope base request.deltaLimits).map fun reason =>
          (reason, .new .eventLagged ("snapshot base requires resync: " ++ reason.debug))
  else none

def currentElements (document : SnapshotDocument) : List SnapshotElement × Bool :=
  match read.envelope.deltaOrElements with
  | .elements elements => redactElements request.redaction elements
  | .delta _ => redactElements request.redaction document.elements
  | .resync _ => ([], false)

def deltaBody (document : SnapshotDocument) : Option (Except ResyncReason SnapshotBody) :=
  request.base.map fun base => deltaAgainst read.envelope base request.redaction request.deltaLimits document

def markTruncated (metadata : ContextMetadata) : ContextMetadata :=
  { metadata with coverage := .partly, truncated := true, resyncRequired := true, resyncReason := some .costExceeded }

def cut (metadata : ContextMetadata) : SnapshotBody -> ContextMetadata × SnapshotBody
  | .elements elements =>
      let kept := truncateElements texts request elements
      (if kept.length < elements.length then markTruncated metadata else metadata, .elements kept)
  | body => (metadata, body)

def selectedMetadata (redacted : Bool) (selected : SelectedBody) : ContextMetadata :=
  let metadata := { makeMetadata read selected.coverage selected.representation with redacted }
  if selected.representation == .delta && read.envelope.coverage != .complete then
    { metadata with coverage := .partly, resyncRequired := true, resyncReason := some .incoherent }
  else metadata

def finishOutput (redacted : Bool) (selected : SelectedBody) : Except CoreError ContextOutput := do
  let metadata := selectedMetadata read redacted selected
  let fits <- fitsBudget texts tokenizer request metadata (some selected.body)
  let answer := if fits then (metadata, selected.body) else cut texts request metadata selected.body
  emit texts tokenizer request answer.1 (some answer.2)
    (resyncOr texts tokenizer read request .costExceeded
      (.new .messageTooLarge "context output exceeds its serialized budget"))

def focusedElements (elements : List SnapshotElement) : Except CoreError (List SnapshotElement) :=
  if focusRequested request then focusElements elements request.focus read.envelope.frameVersions else .ok elements

def bodyCandidates (document : SnapshotDocument) (elements : List SnapshotElement) : BodyCandidates where
  full := .elements elements
  compact := .elements (compactElements request.redaction elements)
  delta := (deltaBody read request document).bind Except.toOption

def failedDelta : Option (Except ResyncReason SnapshotBody) -> Option ResyncReason
  | none => some .baseMissing
  | some (.error reason) => some reason
  | some (.ok _) => none

def refusedReason : ResyncReason :=
  if !read.envelope.coherent || read.envelope.truncated || read.envelope.resyncRequired then .incoherent
  else .costExceeded

def documentOutput (document : SnapshotDocument) : Except CoreError ContextOutput := do
  let current := currentElements read request document
  let elements <- focusedElements read request current.1
  match if request.mode = .delta then failedDelta (deltaBody read request document) else none with
  | some reason =>
      resyncOr texts tokenizer read request reason
        (.new .eventLagged ("delta construction requires resync: " ++ reason.debug))
  | none =>
      match selectBody texts request read.envelope (bodyCandidates read request document elements) with
      | some selected => finishOutput texts tokenizer read request current.2 selected
      | none =>
          resyncOr texts tokenizer read request (refusedReason read)
            (.new .messageTooLarge "no context representation fits the requested budget")

def bodyOutput : Except CoreError ContextOutput :=
  match currentDocument read.envelope request.base request.redaction request.deltaLimits with
  | .ok document => documentOutput texts tokenizer read request document
  | .error error =>
      resyncOr texts tokenizer read request (read.envelope.resyncReason.getD .baseMissing) error

/-- A clean cache may answer without its body. -/
def answersFromCache : Bool :=
  read.cacheState == .cached && !read.scanPerformed && request.cleanCacheMetadataOnly && request.mode != .delta

def buildWithTokenizer : Except CoreError ContextOutput := do
  read.envelope.validate.mapError fun error => CoreError.invalidArgument error.message
  validateTokenizer texts tokenizer request
  validateFocus read request
  if answersFromCache read request then cachedOutput texts tokenizer read request
  else match deltaRefusal read request with
    | some (reason, error) => resyncOr texts tokenizer read request reason error
    | none => bodyOutput texts tokenizer read request

def buildContext : Except CoreError ContextOutput := buildWithTokenizer texts unicodeScalars read request

end Build

end AgentycHost
