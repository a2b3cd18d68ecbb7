import AgentycHost.Cdp.Wire
import AgentycHost.Context.Builder
import AgentycHost.Local.Server

set_option autoImplicit false

/-!
# A context from the parameters of a request

`snapshot.read` takes its options, and the base of a delta, from the string map
of a request. The base is the JSON text of an envelope that was handed out.
-/

namespace AgentycHost

open Shared

section Values

def SnapshotMode.asStr : SnapshotMode -> String
  | .full => "full"
  | .compact => "compact"
  | .delta => "delta"
  | .resync => "resync"

def SnapshotCoverage.asStr : SnapshotCoverage -> String
  | .complete => "complete"
  | .partly => "partial"

def CacheState.asStr : CacheState -> String
  | .fresh => "fresh"
  | .cached => "cached"
  | .stale => "stale"
  | .invalidated => "invalidated"

def ResyncReason.asStr : ResyncReason -> String
  | .baseMissing => "base_missing"
  | .baseHashMismatch => "base_hash_mismatch"
  | .chainTooLong => "chain_too_long"
  | .costExceeded => "cost_exceeded"
  | .incoherent => "incoherent"
  | .navigationChanged => "navigation_changed"
  | .explicit => "explicit"
  | .staleReference => "stale_reference"
  | .unsupportedDelta => "unsupported_delta"

def DirtyReason.asStr : DirtyReason -> String
  | .domMutation => "dom_mutation"
  | .navigation => "navigation"
  | .frameChanged => "frame_changed"
  | .action => "action"
  | .targetReplaced => "target_replaced"
  | .sessionLost => "session_lost"
  | .reconnect => "reconnect"
  | .eventGap => "event_gap"
  | .geometryChanged => "geometry_changed"
  | .scrollChanged => "scroll_changed"
  | .rawEvaluation => "raw_evaluation"
  | .takeover => "takeover"
  | .expired => "expired"
  | .unknown => "unknown"

def Json.optional {A : Type} (toValue : A -> Json) (value : Option A) : Json := (value.map toValue).getD .null

def SnapshotElement.toValue (element : SnapshotElement) : Json :=
  .object [("key", .string element.key.text), ("parent", .optional (fun key => .string key.text) element.parent),
    ("kind", .string element.kind.asStr), ("text", .optional .string element.text),
    ("attributes", .object (element.attributes.entries.map fun entry => (entry.1, .string entry.2))),
    ("order", .nat element.order)]

def DeltaOperation.toValue : DeltaOperation -> Json
  | .upsert key element => .object [("op", .string "upsert"), ("key", .string key.text), ("element", element.toValue)]
  | .remove key => .object [("op", .string "remove"), ("key", .string key.text)]
  | .move key order before => .object [("op", .string "move"), ("key", .string key.text), ("order", .nat order),
      ("before", .optional (fun key => .string key.text) before)]
  | .replace key element => .object [("op", .string "replace"), ("key", .string key.text), ("element", element.toValue)]
  | .frameReset frameId frameVersion => .object [("op", .string "frame_reset"), ("frame_id", .string frameId.text),
      ("frame_version", .nat frameVersion)]

def SnapshotDelta.toValue (delta : SnapshotDelta) : Json :=
  .object [("base_snapshot_version", .nat delta.baseSnapshotVersion), ("base_hash", .string delta.baseHash.text),
    ("result_snapshot_version", .nat delta.resultSnapshotVersion), ("result_hash", .string delta.resultHash.text),
    ("delta_sequence", .nat delta.deltaSequence), ("chain_depth", .nat delta.chainDepth),
    ("operations", .array (delta.operations.map DeltaOperation.toValue))]

def SnapshotBody.toValue : SnapshotBody -> Json
  | .elements items => .object [("kind", .string "elements"), ("elements", .array (items.map SnapshotElement.toValue))]
  | .delta patch => .object [("kind", .string "delta"), ("delta", patch.toValue)]
  | .resync reason => .object [("kind", .string "resync"), ("reason", .string reason.asStr)]

def TokenBudget.toValue (budget : TokenBudget) : Json :=
  .object [("serialized_limit", .optional .nat budget.serializedLimit),
    ("model_context_limit", .optional .nat budget.modelContextLimit)]

/-- The fields of a `SnapshotEnvelope` that no check reads. -/
structure EnvelopeMeasures where
  dirtyReasons : List DirtyReason
  transportBytes : Nat
  utf8Bytes : Nat
  serializedTokens : Nat
  modelContextTokens : Nat
  budget : Option TokenBudget

/-- A `SnapshotEnvelope` as it is serialised, in the order of its fields. -/
def ContextEnvelope.toValue (envelope : ContextEnvelope) (measures : EnvelopeMeasures) : Json :=
  .object [("schema_version", .nat envelope.schemaVersion), ("space_id", .string envelope.spaceId.text),
    ("page_id", .string envelope.pageId.text), ("snapshot_version", .nat envelope.snapshotVersion),
    ("snapshot_hash", .string envelope.snapshotHash.text),
    ("base_snapshot_version", .optional .nat envelope.baseSnapshotVersion),
    ("base_hash", .optional (fun hash => .string hash.text) envelope.baseHash),
    ("result_hash", .string envelope.resultHash.text), ("delta_sequence", .optional .nat envelope.deltaSequence),
    ("topology_version", .nat envelope.topologyVersion),
    ("navigation_generation", .nat envelope.navigationGeneration),
    ("document_generation", .nat envelope.documentGeneration),
    ("frame_versions", .object (envelope.frameVersions.entries.map fun entry => (entry.1.text, .nat entry.2))),
    ("changed", .array (envelope.changed.map fun key => .string key.text)),
    ("delta_or_elements", envelope.deltaOrElements.toValue), ("mode", .string envelope.mode.asStr),
    ("operation_count", .nat envelope.operationCount), ("coherent", .bool envelope.coherent),
    ("coverage", .string envelope.coverage.asStr),
    ("dirty_reasons", .array (measures.dirtyReasons.map fun reason => .string reason.asStr)),
    ("cache_state", .string envelope.cacheState.asStr),
    ("resync_reason", .optional (fun reason => .string reason.asStr) envelope.resyncReason),
    ("transport_bytes", .nat measures.transportBytes), ("utf8_bytes", .nat measures.utf8Bytes),
    ("serialized_tokens", .nat measures.serializedTokens),
    ("model_context_tokens", .nat measures.modelContextTokens),
    ("tokenizer", .optional .string envelope.tokenizer), ("budget", .optional TokenBudget.toValue measures.budget),
    ("omitted", .array (envelope.omitted.map Json.string)), ("truncated", .bool envelope.truncated),
    ("resync_required", .bool envelope.resyncRequired), ("refs_epoch", .nat envelope.refsEpoch)]

/-- `serde_json::to_string` of an envelope. -/
def ContextEnvelope.json (envelope : ContextEnvelope) (measures : EnvelopeMeasures) : String :=
  String.ofList (envelope.toValue measures).render

end Values

section Numbers

/-- `str::parse` of an identifier, or the display of its error. -/
def Identifier.parse (tag text : String) : Except String (Identifier tag) :=
  if maxIdLength < text.utf8ByteSize then .error ("id exceeds the " ++ toString maxIdLength ++ " byte limit")
  else if !text.startsWith tag then .error ("id must use prefix \"" ++ tag ++ "\"")
  else
    let suffix := (text.drop tag.length).copy
    if suffix.isEmpty then .error "id suffix must not be empty"
    else if valid : validateIdentifier tag suffix = true then .ok ⟨suffix, valid⟩
    else .error "id contains an invalid character"

def parseDigits (limit : Nat) : List Nat -> Nat -> Except String Nat
  | [], value => .ok value
  | byte :: rest, value =>
      if !isAsciiDigit byte then .error "invalid digit found in string"
      else
        let next := value * 10 + (byte - 48)
        if limit < next then .error "number too large to fit in target type" else parseDigits limit rest next

def parseUsize (text : String) : Except String Nat :=
  match bytes text with
  | [] => .error "cannot parse integer from empty string"
  | [43] => .error "invalid digit found in string"
  | 43 :: digits => parseDigits u64Max digits 0
  | digits => parseDigits u64Max digits 0

end Numbers

section Focus

structure ParamReader where
  value : String -> Except String Json
  budget : String -> Except String TokenBudget
  envelope : String -> Except String (ContextEnvelope × EnvelopeMeasures)

def invalidBecause {A : Type} (lead : String) (parsed : Except String A) : Except CoreError A :=
  parsed.mapError fun error => .invalidArgument (lead ++ ": " ++ error)

def maxContextFocusBytes : Nat := 512

def focusPart (tag field key : String) (value : Json) : Except CoreError (Option (Identifier tag)) :=
  match value.get key with
  | none => .ok none
  | some part => do
      let text ← orElse part.asStr (.invalidArgument (field ++ "." ++ key ++ " must be a string"))
      let identifier ← invalidBecause ("invalid " ++ field ++ "." ++ key) (Identifier.parse tag text)
      pure (some identifier)

def parseContextFocusObject (field : String) (value : Json) : Except CoreError ContextFocus := do
  require (value.names.all fun key => key == "frame_id" || key == "element_key")
    (.invalidArgument (field ++ " contains an unknown field"))
  let frameId ← focusPart "frame_" field "frame_id" value
  let elementKey ← focusPart "element_" field "element_key" value
  let focus : ContextFocus := { frameId, elementKey }
  require (!focus.isEmpty) (.invalidArgument (field ++ " must contain frame_id or element_key"))
  pure focus

def parseContextFocusValue (reader : ParamReader) (encoded field : String) : Except CoreError ContextFocus := do
  require (encoded.utf8ByteSize ≤ maxContextFocusBytes)
    (.new .messageTooLarge (field ++ " exceeds its bounded logical target size"))
  let value ← invalidBecause ("invalid " ++ field) (reader.value encoded)
  if value.isObject then parseContextFocusObject field value
  else
    let text ← orElse value.asStr (.invalidArgument (field ++ " must be a JSON object or logical element key"))
    let elementKey ← invalidBecause ("invalid " ++ field ++ " element_key") (Identifier.parse "element_" text)
    pure { elementKey := some elementKey }

def parseContextFocusAlias (reader : ParamReader) (encoded field : String) : Except CoreError ContextFocus :=
  match encoded.toList.dropWhile isWhitespace with
  | '\x7b' :: _ | '"' :: _ => parseContextFocusValue reader encoded field
  | _ => do
      let elementKey ← invalidBecause ("invalid " ++ field) (Identifier.parse "element_" encoded)
      pure { elementKey := some elementKey }

def mergeContextFocus (target incoming : ContextFocus) (field : String) : Except CoreError ContextFocus := do
  require (incoming.frameId.isNone || target.frameId.isNone)
    (.invalidArgument ("focus frame is specified more than once (" ++ field ++ ")"))
  require (incoming.elementKey.isNone || target.elementKey.isNone)
    (.invalidArgument ("focus element is specified more than once (" ++ field ++ ")"))
  pure { frameId := incoming.frameId.or target.frameId, elementKey := incoming.elementKey.or target.elementKey }

/-- Merge the focus of a parameter, if it is given. -/
def mergeParam (params : StringMap) (key : String) (parse : String -> Except CoreError ContextFocus)
    (target : ContextFocus) : Except CoreError ContextFocus :=
  match params.get? key with
  | none => .ok target
  | some text => do
      let incoming ← parse text
      mergeContextFocus target incoming key

def frameFocus (key text : String) : Except CoreError ContextFocus := do
  let frameId ← invalidBecause ("invalid " ++ key) (Identifier.parse "frame_" text)
  pure { frameId := some frameId }

def elementFocus (key text : String) : Except CoreError ContextFocus := do
  let elementKey ← invalidBecause ("invalid " ++ key) (Identifier.parse "element_" text)
  pure { elementKey := some elementKey }

def parseContextFocus (reader : ParamReader) (params : StringMap) : Except CoreError ContextFocus := do
  let focus ← mergeParam params "focus" (parseContextFocusValue reader · "focus") {}
  let focus ← mergeParam params "focus_ref" (parseContextFocusAlias reader · "focus_ref") focus
  let focus ← mergeParam params "focus_element" (parseContextFocusAlias reader · "focus_element") focus
  let focus ← mergeParam params "frame_id" (frameFocus "frame_id") focus
  let focus ← mergeParam params "focus_frame_id" (frameFocus "focus_frame_id") focus
  mergeParam params "element_key" (elementFocus "element_key") focus

end Focus

section Requests

def ContextMode.ofText (text : String) : Option ContextMode :=
  if text = "auto" then some .auto
  else if text = "full" then some .full
  else if text = "compact" || text = "min" then some .compact
  else if text = "focus" then some .focus
  else if text = "delta" then some .delta
  else none

/-- A parameter that is read when it is given. -/
def optionalParam {A : Type} (params : StringMap) (key : String) (read : String -> Except CoreError A) :
    Except CoreError (Option A) :=
  match params.get? key with
  | none => .ok none
  | some text => do
      let value ← read text
      pure (some value)

def readTokenizer (text : String) : Except CoreError String := do
  require (text == "unicode_scalars")
    (.invalidArgument "the local protocol only exposes the deployed unicode_scalars tokenizer")
  pure text

def asksMetadataOnly (params : StringMap) (current : ContextEnvelope) : Bool :=
  (params.get? "metadata_only").any (· == "true") ||
    (params.get? "since_hash").any (· == current.snapshotHash.text) || (params.get? "metadata_only").isNone

def contextRequestFromParams (reader : ParamReader) (params : StringMap) (current : ContextEnvelope) :
    Except CoreError ContextRequest := do
  let mode ← orElse (ContextMode.ofText ((params.get? "mode").getD "auto"))
    (.invalidArgument "snapshot mode must be auto, full, min, focus, compact, or delta")
  let focus ← parseContextFocus reader params
  require (!(mode == .focus && focus.isEmpty)) (.invalidArgument "focus mode requires a focus or focus_ref target")
  let maxSerializedBytes ← optionalParam params "max_serialized_bytes" fun text =>
    invalidBecause "invalid max_serialized_bytes" (parseUsize text)
  let tokenBudget ← optionalParam params "token_budget" fun text =>
    invalidBecause "invalid token_budget" (reader.budget text)
  let base ← optionalParam params "base" fun text => invalidBecause "invalid snapshot base" (reader.envelope text)
  let tokenizer ← optionalParam params "tokenizer" readTokenizer
  pure { mode, focus, maxSerializedBytes, tokenBudget, base := base.map Prod.fst, tokenizer
         cleanCacheMetadataOnly := asksMetadataOnly params current }

end Requests

section Frames

def RequestEnvelope.toValue (request : RequestEnvelope) : Json :=
  .object [("deadline_ms", .optional .nat request.deadlineMs),
    ("idempotency_key", .optional (fun key => .string key.text) request.idempotencyKey), ("kind", .string "request"),
    ("method", .string request.method), ("params", request.params.value), ("protocol", .nat request.protocol),
    ("request_id", .string request.requestId.text)]

end Frames

end AgentycHost
