import AgentycHost.Local.Wire
import Mathlib.Data.List.Sort

set_option autoImplicit false

/-!
# Requests and their cancellation

The dispatcher of one connection: it remembers the requests that it took, runs
each of them once, and answers with a response envelope. The tokens that cancel
a request are shared with the workers of the connection.
-/

namespace AgentycHost

open Shared

def maxLogicalParamNameBytes : Nat := 64
def maxLogicalParamValueBytes : Nat := 4 * 1024
def maxTrackedRequests : Nat := 4096

section Errors

def ErrorGuidance.asStr : ErrorGuidance -> String
  | .none => "none"
  | .retry => "retry"
  | .reconcile => "reconcile"
  | .refreshLease => "refresh_lease"
  | .resync => "resync"
  | .claim => "claim"
  | .awaitUserControl => "await_user_control"

end Errors

section Envelopes

abbrev StringMap := Table String String

def byKey (left right : String × String) : Prop := bytes left.1 ≤ bytes right.1

instance : DecidableRel byKey := fun left right => inferInstanceAs (Decidable (bytes left.1 ≤ bytes right.1))

def StringMap.sorted (map : StringMap) : List (String × String) := map.entries.insertionSort byKey

def StringMap.value (map : StringMap) : Json := .object (map.sorted.map fun entry => (entry.1, .string entry.2))

structure RequestEnvelope where
  protocol : Nat
  requestId : RequestId
  method : String
  params : StringMap
  deadlineMs : Option Nat
  idempotencyKey : Option IdempotencyKey

namespace RequestEnvelope

variable (request : RequestEnvelope)

def hasValidMethod : Bool := validWireMethod request.method

/-- `serde_json::to_vec` of a request, its fields in the order of their declaration. -/
def toVec : List UInt8 := Json.toVec (.object [("protocol", .nat request.protocol),
  ("request_id", .string request.requestId.text), ("method", .string request.method),
  ("params", request.params.value), ("deadline_ms", (request.deadlineMs.map Json.nat).getD .null),
  ("idempotency_key", (request.idempotencyKey.map fun key => Json.string key.text).getD .null)])

end RequestEnvelope

structure CancelEnvelope where
  protocol : Nat
  requestId : RequestId
  reason : Option String

def CancelEnvelope.validate (cancel : CancelEnvelope) : Except CoreError Unit := do
  validateProtocolVersion cancel.protocol
  require (cancel.reason.all fun reason => wireTextFits reason maxCancelReasonBytes)
    (.invalidArgument ("cancellation reason must be between 1 and " ++ toString maxCancelReasonBytes ++ " bytes"))

structure ResponseEnvelope where
  protocol : Nat
  requestId : RequestId
  ok : Bool
  result : Option StringMap
  error : Option CoreError
  warnings : List String

namespace ResponseEnvelope

def success (requestId : RequestId) (result : StringMap) : ResponseEnvelope where
  protocol := protocolVersion
  requestId := requestId
  ok := true
  result := some result
  error := none
  warnings := []

def failure (requestId : RequestId) (error : CoreError) : ResponseEnvelope where
  protocol := protocolVersion
  requestId := requestId
  ok := false
  result := none
  error := some error
  warnings := []

def answer (requestId : RequestId) : Except CoreError StringMap -> ResponseEnvelope
  | .ok result => success requestId result
  | .error error => failure requestId error

end ResponseEnvelope

end Envelopes

section Checks

def validateParam (entry : String × String) : Except CoreError Unit := do
  require (wireTextFits entry.1 maxLogicalParamNameBytes) (.invalidArgument "logical request parameter name is invalid")
  require (entry.2.utf8ByteSize ≤ maxLogicalParamValueBytes)
    (.new .messageTooLarge ("logical request parameter " ++ entry.1 ++ " exceeds the " ++
      toString maxLogicalParamValueBytes ++ "-byte limit"))

def validateParams (params : StringMap) : Except CoreError Unit := do
  require (params.size ≤ maxLogicalParams)
    (.new .messageTooLarge ("too many logical request parameters; maximum is " ++ toString maxLogicalParams))
  forEach validateParam params.sorted

def validateRequest (request : RequestEnvelope) : Except CoreError Unit := do
  require (request.protocol == protocolVersion) (.new .protocolMismatch "request protocol is unsupported")
  require request.hasValidMethod (.invalidArgument "request method is invalid")
  require (request.deadlineMs.all fun deadline => deadline != 0 && deadline ≤ maxRequestDeadlineMs)
    (.invalidArgument ("deadline_ms must be between 1 and " ++ toString maxRequestDeadlineMs))
  validateParams request.params

def validateResponse (response : ResponseEnvelope) : Except CoreError Unit := do
  require (response.protocol == protocolVersion) (.new .protocolMismatch "response protocol is unsupported")
  require (decide (response.warnings.length ≤ maxResponseWarnings) &&
      response.warnings.all fun warning => wireTextFits warning maxWarningBytes)
    (.invalidArgument "response warnings are empty or exceed their bound")
  require (response.ok == response.result.isSome && response.ok == response.error.isNone)
    (.invalidArgument "response result and error fields do not match ok")

end Checks

section Tracking

inductive RequestState where
  | cancelledQueued
  | dispatched
  | completed
  deriving DecidableEq

structure RequestFingerprint where
  hash : ContentHash
  method : String
  context : String
  deriving DecidableEq

structure RequestRecord where
  state : RequestState
  fingerprint : RequestFingerprint

def fingerprintSeparator : String := "\\u\x7b1f\x7d"

def requestFingerprint (request : RequestEnvelope) : RequestFingerprint where
  hash := .fromBytes (request.toVec.map UInt8.toNat)
  method := request.method
  context := fingerprintSeparator.intercalate (request.method ::
    ["space_id", "page_id", "lease_epoch", "action_id", "idempotency_key", "request_hash", "context"].map
      fun key => (request.params.get? key).getD "")

def cancelledRequestFingerprint (requestId : RequestId) : RequestFingerprint where
  hash := .fromBytes (bytes requestId.text)
  method := "cancel"
  context := requestId.text

def RequestRecord.refusal (record : RequestRecord) (fingerprint : RequestFingerprint) : CoreError :=
  match record.state with
  | .cancelledQueued => .new .cancelled "request was cancelled before dispatch"
  | .dispatched | .completed =>
      if record.fingerprint ≠ fingerprint then
        .invalidArgument "request_id was reused with a different request hash or logical context"
      else .invalidArgument "duplicate request_id; dispatched requests are never replayed"

structure CancellationTokens where
  byRequest : Table RequestId Nat
  cancelled : List Nat
  issued : Nat

namespace CancellationTokens

variable (tokens : CancellationTokens)

def isCancelled (token : Nat) : Bool := tokens.cancelled.contains token

/-- `cancellation_token`: the token of a request, or a new one. -/
def token (requestId : RequestId) : CancellationTokens × Nat :=
  match tokens.byRequest.get? requestId with
  | some token => (tokens, token)
  | none => ({ tokens with byRequest := tokens.byRequest.insert requestId tokens.issued, issued := tokens.issued + 1 },
      tokens.issued)

def cancel (token : Nat) : CancellationTokens := { tokens with cancelled := token :: tokens.cancelled }

def cancelAll : CancellationTokens := { tokens with cancelled := tokens.byRequest.values ++ tokens.cancelled }

def clear (requestId : RequestId) : CancellationTokens := { tokens with byRequest := tokens.byRequest.erase requestId }

end CancellationTokens

structure ProtocolServer where
  limits : WireLimits
  connection : Option HostConnection
  requestStates : Table RequestId RequestRecord

namespace ProtocolServer

variable (server : ProtocolServer)

def fork : ProtocolServer where
  limits := server.limits
  connection := server.connection
  requestStates := ∅

/-- The part of `handle_request` up to the entry of the request. -/
def track (request : RequestEnvelope) : Except CoreError ProtocolServer := do
  validateRequest request
  let fingerprint := requestFingerprint request
  match server.requestStates.get? request.requestId with
  | some record => .error (record.refusal fingerprint)
  | none => do
      require (server.requestStates.size < maxTrackedRequests)
        (.new .messageTooLarge "connection request tracking limit reached")
      pure { server with requestStates := server.requestStates.insert request.requestId ⟨.dispatched, fingerprint⟩ }

def complete (requestId : RequestId) : ProtocolServer :=
  { server with
    requestStates := server.requestStates.modify requestId fun record => { record with state := .completed } }

end ProtocolServer

end Tracking

section Serving

variable {B : Type}

structure BrokerCalls (B : Type) where
  execute : HostConnection -> RequestEnvelope -> B -> B × Except CoreError StringMap
  disconnect : HostConnection -> B -> B

structure Session (B : Type) where
  server : ProtocolServer
  tokens : CancellationTokens
  broker : B

def BrokerCalls.executeRequest (calls : BrokerCalls B) (connection : Option HostConnection) (request : RequestEnvelope)
    (broker : B) : B × Except CoreError StringMap :=
  if !request.hasValidMethod then (broker, .error (.invalidArgument "invalid request method"))
  else
    match validateParams request.params with
    | .error error => (broker, .error error)
    | .ok () =>
        match connection with
        | none => (broker, .error (.new .permissionDenied "hello is required before requests"))
        | some connection => calls.execute connection request broker

namespace Session

variable (calls : BrokerCalls B) (late : Bool) (session : Session B)

/-- The execution of a tracked request. `late` says that its deadline has passed. -/
def attempt (token : Nat) (request : RequestEnvelope) : B × Except CoreError StringMap :=
  if session.tokens.isCancelled token then
    (session.broker, .error (.new .cancelled "request was cancelled before dispatch"))
  else if request.deadlineMs.isSome && late then
    (session.broker, .error (.new .timeout "request deadline elapsed before dispatch"))
  else calls.executeRequest session.server.connection request session.broker

def handleRequest (request : RequestEnvelope) : Session B × ResponseEnvelope :=
  match session.server.track request with
  | .error error => (session, .failure request.requestId error)
  | .ok server =>
      let (tokens, token) := session.tokens.token request.requestId
      let (broker, outcome) := attempt calls late { session with server, tokens } token request
      ({ server := server.complete request.requestId, tokens := tokens.clear request.requestId, broker },
        .answer request.requestId outcome)

def cancelledAnswer (requestId : RequestId) : ResponseEnvelope :=
  .success requestId ((∅ : StringMap).insert "cancelled" "true")

def handleCancel (requestId : RequestId) : Session B × ResponseEnvelope :=
  match session.tokens.byRequest.get? requestId with
  | some token => ({ session with tokens := session.tokens.cancel token }, cancelledAnswer requestId)
  | none =>
      match session.server.requestStates.get? requestId with
      | some record =>
          match record.state with
          | .cancelledQueued => (session, cancelledAnswer requestId)
          | .dispatched => (session, .failure requestId (.new .unknownOutcome
              "request has already been dispatched and cannot be safely cancelled"))
          | .completed => (session, .failure requestId (.invalidArgument "request has already completed"))
      | none =>
          if session.server.requestStates.size < maxTrackedRequests then
            let (tokens, token) := session.tokens.token requestId
            let record := ⟨.cancelledQueued, cancelledRequestFingerprint requestId⟩
            let server := { session.server with
              requestStates := session.server.requestStates.insert requestId record }
            ({ session with server, tokens := tokens.cancel token }, cancelledAnswer requestId)
          else (session, .failure requestId (.new .messageTooLarge "connection request tracking limit reached"))

end Session

inductive ClientEnvelope where
  | request (request : RequestEnvelope)
  | cancel (cancel : CancelEnvelope)

def ClientEnvelope.validateTypedEnvelope : ClientEnvelope -> Except CoreError Unit
  | .request asked => do
      validateProtocolVersion asked.protocol
      validateRequest asked
  | .cancel asked => asked.validate

def Session.dispatch (calls : BrokerCalls B) (late : Bool) (session : Session B) (envelope : ClientEnvelope) :
    Session B × Except CoreError ResponseEnvelope :=
  match envelope.validateTypedEnvelope with
  | .error error => (session, .error error)
  | .ok () =>
      match envelope with
      | .request request =>
          let (session, response) := session.handleRequest calls late request
          (session, .ok response)
      | .cancel cancel =>
          let (session, response) := session.handleCancel cancel.requestId
          (session, .ok response)

end Serving

section Payloads

variable {B : Type}

structure ClientReader where
  fromStr : List UInt8 -> Option Json
  fromValue : Json -> Option ClientEnvelope

def structuredResults : List String := ["resume_result", "cursor", "events"]

def ClientReader.structured (reader : ClientReader) (entry : String × String) : String × Json :=
  if structuredResults.contains entry.1 then
    (entry.1, (reader.fromStr entry.2.toByteArray.data.toList).getD (.string entry.2))
  else (entry.1, .string entry.2)

def ClientReader.resultValue (reader : ClientReader) (result : StringMap) : Json :=
  .object (result.sorted.map reader.structured)

def CoreError.value (error : CoreError) : Json :=
  .object [("code", .string error.code.asStr), ("guidance", .string error.guidance.asStr),
    ("message", .string error.message), ("retryable", .bool error.retryable)]

def ResponseEnvelope.value (reader : ClientReader) (response : ResponseEnvelope) : Json :=
  .object [("error", (response.error.map CoreError.value).getD .null), ("kind", .string "response"),
    ("ok", .bool response.ok), ("protocol", .nat response.protocol), ("request_id", .string response.requestId.text),
    ("result", (response.result.map reader.resultValue).getD .null),
    ("warnings", .array (response.warnings.map Json.string))]

def responseToWireValue (reader : ClientReader) (response : ResponseEnvelope) : Except HostError Json := do
  let value := response.value reader
  validateWireEnvelope value
  pure value

def encodeResponse (reader : ClientReader) (limits : WireLimits) (response : ResponseEnvelope) :
    Except WireError (List UInt8) := do
  let value ← (responseToWireValue reader response).mapError .host
  (encodeFrame value.toVec limits.maxPayloadBytes).mapError .frame

namespace Session

variable (reader : ClientReader) (calls : BrokerCalls B) (late : Bool) (session : Session B)

def handlePayload (payload : List UInt8) : Session B × Except WireError (List UInt8) :=
  match reader.fromStr payload with
  | none => (session, .error .json)
  | some value =>
      match validateWireEnvelope value with
      | .error error => (session, .error (.host error))
      | .ok () =>
          match reader.fromValue value with
          | none => (session, .error .json)
          | some envelope =>
              match session.dispatch calls late envelope with
              | (session, .error error) => (session, .error (.host (.core error)))
              | (session, .ok response) => (session, encodeResponse reader session.server.limits response)

/-- `close`: the connection ends, and with it the authority of its ticket. -/
def close : Session B :=
  match session.server.connection with
  | none => session
  | some connection =>
      { session with
        server := { session.server with connection := none }
        broker := calls.disconnect connection session.broker }

/-- What `serve_client` does with a payload that is not a wait: the answer that it writes, if any. -/
def servePayload (payload : List UInt8) : Session B × Option (List UInt8) :=
  match session.handlePayload reader calls late payload with
  | (session, .ok output) => (session, some output)
  | (session, .error _) => ({ session with tokens := session.tokens.cancelAll }.close calls, none)

end Session

end Payloads

section Artifacts

structure ArtifactHandle where
  artifactId : ArtifactId
  requestId : RequestId
  actionId : ActionId
  spaceId : SpaceId
  pageId : Option PageId
  artifactKind : ArtifactKind
  totalBytes : Nat
  chunkCount : Nat
  digest : WireHash
  redacted : Bool

def ArtifactHandle.value (handle : ArtifactHandle) : Json :=
  .object [("artifact_id", .string handle.artifactId.text), ("request_id", .string handle.requestId.text),
    ("action_id", .string handle.actionId.text), ("space_id", .string handle.spaceId.text),
    ("page_id", (handle.pageId.map fun page => Json.string page.text).getD .null),
    ("artifact_kind", .string handle.artifactKind.asStr), ("total_bytes", .nat handle.totalBytes),
    ("chunk_count", .nat handle.chunkCount), ("digest", handle.digest.value), ("redacted", .bool handle.redacted)]

def base64Digit (value : Nat) : Char :=
  if value < 26 then Char.ofNat (65 + value)
  else if value < 52 then Char.ofNat (71 + value)
  else if value < 62 then Char.ofNat (value - 4)
  else if value = 62 then '+'
  else '/'

def base64 : List UInt8 -> List Char
  | [] => []
  | [first] => [base64Digit (first.toNat / 4), base64Digit (first.toNat % 4 * 16), '=', '=']
  | [first, second] => [base64Digit (first.toNat / 4), base64Digit (first.toNat % 4 * 16 + second.toNat / 16),
      base64Digit (second.toNat % 16 * 4), '=']
  | first :: second :: third :: rest =>
      base64Digit (first.toNat / 4) :: base64Digit (first.toNat % 4 * 16 + second.toNat / 16) ::
        base64Digit (second.toNat % 16 * 4 + third.toNat / 64) :: base64Digit (third.toNat % 64) :: base64 rest

/-- `put_json`: a result's value is the JSON text of what it holds. -/
def StringMap.putJson (map : StringMap) (key : String) (value : Json) : StringMap :=
  map.insert key (String.ofList value.render)

def takenArtifact (handle : ArtifactHandle) (octets : List UInt8) : StringMap :=
  ((∅ : StringMap).putJson "artifact" handle.value).putJson "bytes_base64" (.string (String.ofList (base64 octets)))

end Artifacts

end AgentycHost
