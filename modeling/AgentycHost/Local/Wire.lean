import AgentycHost.Core.Canonical
import AgentycHost.Local.Transfers

set_option autoImplicit false

/-!
# Envelopes on the wire

Every envelope that comes in or goes out passes one check of its JSON value:
the fields of its kind, their types and their bounds.
-/

namespace AgentycHost

open Shared

def maxLogicalParams : Nat := 16
def maxRequestDeadlineMs : Nat := 24 * 60 * 60 * 1000
def maxResponseWarnings : Nat := 64
def maxWarningBytes : Nat := 4 * 1024
def maxSupportedProtocols : Nat := 8
def maxCapabilities : Nat := 32
def maxIdBytes : Nat := 256
def maxCancelReasonBytes : Nat := 256

section Fields

def Json.isNull : Json -> Bool
  | .null => true
  | _ => false

def Json.isObject : Json -> Bool
  | .object _ => true
  | _ => false

def Json.names : Json -> List String
  | .object fields => fields.map Prod.fst
  | _ => []

def Json.members : Json -> List Json
  | .object fields => fields.map Prod.snd
  | _ => []

def invalidField (key : String) : HostError := .invalidArgument (key ++ " is invalid")

def wireTextFits (text : String) (max : Nat) : Bool := text != "" && text.utf8ByteSize ≤ max

def wireRejectUnknown (object : Json) (allowed : List String) : Except HostError Unit :=
  match object.names.find? fun key => !allowed.contains key with
  | some key => .error (.invalidArgument ("unknown local protocol envelope field " ++ key))
  | none => .ok ()

def wireString (object : Json) (key : String) (max : Nat) : Except HostError String :=
  orElse ((object.strAt key).filter fun text => wireTextFits text max) (invalidField key)

def wireOptionalStringOrNull (object : Json) (key : String) (max : Nat) : Except HostError Unit :=
  match object.get key with
  | none | some .null => .ok ()
  | some value => require (value.asStr.any fun text => wireTextFits text max) (invalidField key)

def wireU64 (object : Json) (key : String) : Except HostError Nat := orElse (object.u64At key) (invalidField key)

def wirePositiveU64 (object : Json) (key : String) : Except HostError Unit := do
  let value ← wireU64 object key
  require (value != 0) (.invalidArgument (key ++ " must be positive"))

def wireBool (object : Json) (key : String) : Except HostError Bool := orElse (object.boolAt key) (invalidField key)

def wireObject (object : Json) (key : String) : Except HostError Json :=
  orElse ((object.get key).filter Json.isObject) (.invalidArgument (key ++ " must be an object"))

def wireOptionalObject (object : Json) (key : String) (check : Json -> Except HostError Unit) : Except HostError Unit :=
  match object.get key with
  | none | some .null => .ok ()
  | some value => do
      require value.isObject (.invalidArgument (key ++ " must be an object or null"))
      check value

def wireArray (object : Json) (key : String) (max : Nat) : Except HostError (List Json) := do
  let values ← orElse ((object.get key).bind Json.asArray) (.invalidArgument (key ++ " must be an array"))
  require (values.length ≤ max) (.new .messageTooLarge (key ++ " exceeds its bound"))
  pure values

def wireStringArray (object : Json) (key : String) (max : Nat) : Except HostError Unit := do
  let values ← wireArray object key max
  require (values.all fun value => value.asStr.any fun text => text != "")
    (.invalidArgument (key ++ " contains an invalid string"))

def wireBytes (object : Json) (key : String) (max : Nat) : Except HostError Unit := do
  let values ← wireArray object key max
  require (values.all fun value => value.asU64.any fun byte => byte ≤ 255)
    (.invalidArgument (key ++ " contains an invalid byte"))

def wireMetadataText (object : Json) (key : String) (max : Nat) : Except HostError Unit :=
  match object.get key with
  | none | some .null => .ok ()
  | some _ => do
      let _ ← wireString object key max

def validateResumeWatermarkWire (object : Json) : Except HostError Unit := do
  wireRejectUnknown object ["broker_epoch", "sequence"]
  wirePositiveU64 object "broker_epoch"
  let _ ← wireU64 object "sequence"

def validateResumeResultWire (object : Json) : Except HostError Unit := do
  wireRejectUnknown object ["kind"]
  let kind ← wireString object "kind" 32
  require (kind == "accepted" || kind == "resync_required") (.invalidArgument "resume result kind is invalid")

def validateClientMetadataWire (object : Json) : Except HostError Unit := do
  wireRejectUnknown object ["client_id", "client_name", "client_version", "connection_nonce", "profile_binding_id"]
  wireMetadataText object "client_id" maxIdBytes
  wireMetadataText object "client_name" 128
  wireMetadataText object "client_version" 128
  wireMetadataText object "connection_nonce" maxIdBytes
  wireMetadataText object "profile_binding_id" maxIdBytes

def validateHostMetadataWire (object : Json) : Except HostError Unit := do
  wireRejectUnknown object ["host_name", "host_version", "connection_nonce", "profile_binding_id"]
  wireMetadataText object "host_name" 128
  wireMetadataText object "host_version" 128
  wireMetadataText object "connection_nonce" maxIdBytes
  wireMetadataText object "profile_binding_id" maxIdBytes

def isMethodByte (byte : Nat) : Bool := isAsciiLowercase byte || isAsciiDigit byte || byte == 95 || byte == 45

def validWireMethod (method : String) : Bool :=
  method != "" && method.utf8ByteSize ≤ 128 &&
    ((bytes method).splitOn 46).all fun part => part != [] && part.all isMethodByte

end Fields

inductive EnvelopeKind where
  | hello
  | helloOk
  | request
  | response
  | event
  | artifact
  | artifactBegin
  | artifactChunk
  | artifactEnd
  | cancel
  | resume
  deriving DecidableEq

namespace EnvelopeKind

def ofText (text : String) : Option EnvelopeKind :=
  if text = "hello" then some .hello
  else if text = "hello_ok" then some .helloOk
  else if text = "request" then some .request
  else if text = "response" then some .response
  else if text = "event" then some .event
  else if text = "artifact" then some .artifact
  else if text = "artifact_begin" then some .artifactBegin
  else if text = "artifact_chunk" then some .artifactChunk
  else if text = "artifact_end" then some .artifactEnd
  else if text = "cancel" then some .cancel
  else if text = "resume" then some .resume
  else none

def allowed : EnvelopeKind -> List String
  | .hello => ["supported_protocols", "principal_id", "resume_from", "client_metadata"]
  | .helloOk => ["broker_epoch", "connection_epoch", "capabilities", "resume", "host_metadata"]
  | .request => ["request_id", "method", "params", "deadline_ms", "idempotency_key"]
  | .response => ["request_id", "ok", "result", "error", "warnings"]
  | .event => ["event_id", "broker_epoch", "sequence", "scope", "event", "generation", "dirty_reason", "coalesced",
      "resync_required", "payload"]
  | .artifact => ["artifact_id", "request_id", "artifact_kind", "chunk_sequence", "final_chunk", "bytes"]
  | .artifactBegin => ["artifact_id", "request_id", "artifact_kind", "total_bytes", "chunk_size", "chunk_count",
      "digest_algorithm", "digest", "redacted"]
  | .artifactChunk => ["artifact_id", "connection_epoch", "chunk_sequence", "bytes"]
  | .artifactEnd => ["artifact_id", "total_bytes", "chunk_count", "digest_algorithm", "digest"]
  | .cancel => ["request_id", "reason"]
  | .resume => ["after"]

end EnvelopeKind

section Kinds

variable (object : Json)

def wireHello : Except HostError Unit := do
  let _ ← wireArray object "supported_protocols" maxSupportedProtocols
  let _ ← wireString object "principal_id" maxIdBytes
  wireOptionalObject object "resume_from" validateResumeWatermarkWire
  wireOptionalObject object "client_metadata" validateClientMetadataWire

def wireHelloOk : Except HostError Unit := do
  wirePositiveU64 object "broker_epoch"
  wirePositiveU64 object "connection_epoch"
  wireStringArray object "capabilities" maxCapabilities
  let resume ← wireObject object "resume"
  validateResumeResultWire resume
  wireOptionalObject object "host_metadata" validateHostMetadataWire

def wireDeadline : Except HostError Unit :=
  match object.get "deadline_ms" with
  | none | some .null => .ok ()
  | some value =>
      require (value.asU64.any fun deadline => deadline != 0 && deadline ≤ maxRequestDeadlineMs)
        (.invalidArgument "request deadline_ms is outside its bound")

def wireRequest : Except HostError Unit := do
  let _ ← wireString object "request_id" maxIdBytes
  let method ← wireString object "method" 128
  require (validWireMethod method) (.invalidArgument "request method is invalid")
  let params ← wireObject object "params"
  require (params.names.length ≤ maxLogicalParams && params.members.all fun value => value.asStr.isSome)
    (.invalidArgument "request params must be a bounded string map")
  wireDeadline object
  wireOptionalStringOrNull object "idempotency_key" maxIdBytes

def wireResponseError (error : Json) : Except HostError Unit :=
  if error.isNull then .ok ()
  else do
    require error.isObject (.invalidArgument "response error must be an object or null")
    wireRejectUnknown error ["code", "retryable", "guidance", "message"]
    let _ ← wireString error "code" 64
    let _ ← wireBool error "retryable"
    let _ ← wireString error "guidance" 64
    let _ ← wireString error "message" maxWarningBytes

def wireResponse : Except HostError Unit := do
  let _ ← wireString object "request_id" maxIdBytes
  let ok ← orElse (object.boolAt "ok") (.invalidArgument "response ok is required")
  let result ← orElse (object.get "result") (.invalidArgument "response result is required")
  let error ← orElse (object.get "error") (.invalidArgument "response error is required")
  wireResponseError error
  require (ok == !result.isNull && ok == error.isNull)
    (.invalidArgument "response result and error do not match ok")
  let warnings ← wireArray object "warnings" maxResponseWarnings
  require (warnings.all fun warning => warning.asStr.any fun text => wireTextFits text maxWarningBytes)
    (.invalidArgument "response warnings are invalid")

def wireEventScope (scope : Json) : Except HostError Unit := do
  wireRejectUnknown scope ["space_id", "page_id"]
  match scope.get "space_id" with
  | none | some .null => .ok ()
  | some value =>
      require (value.asStr.any fun text => text != "") (.invalidArgument "event scope space_id is invalid")
  match scope.get "page_id" with
  | none | some .null => .ok ()
  | some value => do
      require (scope.strAt "space_id").isSome (.invalidArgument "event scope page_id requires space_id")
      require (value.asStr.any fun text => text != "") (.invalidArgument "event scope page_id is invalid")

def wireEvent : Except HostError Unit := do
  let _ ← wireString object "event_id" maxIdBytes
  wirePositiveU64 object "broker_epoch"
  wirePositiveU64 object "sequence"
  let scope ← wireObject object "scope"
  wireEventScope scope
  let _ ← wireString object "event" 64
  let generation ← wireObject object "generation"
  wireRejectUnknown generation ["space_generation", "page_generation", "navigation_generation",
    "document_generation", "snapshot_version"]
  let _ ← wireBool object "coalesced"
  let _ ← wireBool object "resync_required"
  let _ ← wireObject object "payload"

def wireArtifact : Except HostError Unit := do
  let _ ← wireString object "artifact_id" maxIdBytes
  wireOptionalStringOrNull object "request_id" maxIdBytes
  let _ ← wireString object "artifact_kind" 32
  let _ ← wireU64 object "chunk_sequence"
  let _ ← wireBool object "final_chunk"
  wireBytes object "bytes" maxArtifactChunkBytes

def wireArtifactBegin : Except HostError Unit := do
  let _ ← wireString object "artifact_id" maxIdBytes
  wireOptionalStringOrNull object "request_id" maxIdBytes
  let _ ← wireString object "artifact_kind" 32
  let _ ← wireU64 object "total_bytes"
  let _ ← wireU64 object "chunk_size"
  let _ ← wireU64 object "chunk_count"
  let _ ← wireString object "digest_algorithm" 32
  let _ ← wireString object "digest" 64
  let _ ← wireBool object "redacted"

def wireArtifactChunk : Except HostError Unit := do
  let _ ← wireString object "artifact_id" maxIdBytes
  wirePositiveU64 object "connection_epoch"
  let _ ← wireU64 object "chunk_sequence"
  wireBytes object "bytes" maxArtifactChunkBytes

def wireArtifactEnd : Except HostError Unit := do
  let _ ← wireString object "artifact_id" maxIdBytes
  let _ ← wireU64 object "total_bytes"
  let _ ← wireU64 object "chunk_count"
  let _ ← wireString object "digest_algorithm" 32
  let _ ← wireString object "digest" 64

def wireCancel : Except HostError Unit := do
  let _ ← wireString object "request_id" maxIdBytes
  wireOptionalStringOrNull object "reason" maxCancelReasonBytes

def wireResume : Except HostError Unit := do
  let _ ← wireObject object "after"

def wireKind : EnvelopeKind -> Except HostError Unit
  | .hello => wireHello object
  | .helloOk => wireHelloOk object
  | .request => wireRequest object
  | .response => wireResponse object
  | .event => wireEvent object
  | .artifact => wireArtifact object
  | .artifactBegin => wireArtifactBegin object
  | .artifactChunk => wireArtifactChunk object
  | .artifactEnd => wireArtifactEnd object
  | .cancel => wireCancel object
  | .resume => wireResume object

end Kinds

def validateWireEnvelope (value : Json) : Except HostError Unit := do
  require value.isObject (.new .invalidJson "local protocol envelope must be an object")
  let protocol ← wireU64 value "protocol"
  require (protocol == protocolVersion) (.new .protocolMismatch "local protocol version is unsupported")
  let text ← wireString value "kind" 32
  let kind ← orElse (EnvelopeKind.ofText text) (.invalidArgument "unknown local protocol envelope kind")
  wireRejectUnknown value ("protocol" :: "kind" :: kind.allowed)
  wireKind value kind

section Artifacts

def ArtifactKind.asStr : ArtifactKind -> String
  | .text => "text"
  | .image => "image"
  | .pdf => "pdf"
  | .binary => "binary"

def ArtifactDigestAlgorithm.asStr : ArtifactDigestAlgorithm -> String
  | .fnv1a64 => "fnv1a64"

def Json.nat (value : Nat) : Json := .int value

def Json.octets (octets : List UInt8) : Json := .array (octets.map fun octet => .nat octet.toNat)

def WireHash.value (hash : WireHash) : Json := .string (String.ofList hash.text)

/-- `serde_json::to_value` of the artifact envelopes. -/
def ArtifactMessage.toValue : ArtifactMessage -> Json
  | .start sent => .object [("artifact_id", .string sent.artifactId.text),
      ("artifact_kind", .string sent.artifactKind.asStr), ("chunk_count", .nat sent.chunkCount),
      ("chunk_size", .nat sent.chunkSize), ("digest", sent.digest.value),
      ("digest_algorithm", .string sent.digestAlgorithm.asStr), ("kind", .string "artifact_begin"),
      ("protocol", .nat sent.protocol), ("redacted", .bool sent.redacted),
      ("request_id", (sent.requestId.map fun id => Json.string id.text).getD .null), ("total_bytes", .nat sent.totalBytes)]
  | .chunk sent => .object [("artifact_id", .string sent.artifactId.text), ("bytes", .octets sent.bytes),
      ("chunk_sequence", .nat sent.chunkSequence), ("connection_epoch", .nat sent.connectionEpoch),
      ("kind", .string "artifact_chunk"), ("protocol", .nat sent.protocol)]
  | .finish sent => .object [("artifact_id", .string sent.artifactId.text), ("chunk_count", .nat sent.chunkCount),
      ("digest", sent.digest.value), ("digest_algorithm", .string sent.digestAlgorithm.asStr),
      ("kind", .string "artifact_end"), ("protocol", .nat sent.protocol), ("total_bytes", .nat sent.totalBytes)]

end Artifacts

section Ends

inductive WireError where
  | host (error : HostError)
  | frame (error : FrameError)
  | json
  deriving DecidableEq

structure ProtocolClient where
  limits : WireLimits

def WireLimits.checkArtifact (limits : WireLimits) : ArtifactMessage -> Except HostError Unit
  | .start sent => require (sent.chunkSize ≤ limits.maxArtifactChunkBytes)
      (.new .messageTooLarge "artifact declaration exceeds the configured host bound")
  | .chunk sent => require (sent.bytes.length ≤ limits.maxArtifactChunkBytes)
      (.new .messageTooLarge "artifact chunk exceeds the configured host bound")
  | .finish _ => .ok ()

def ProtocolClient.encode (client : ProtocolClient) (message : ArtifactMessage) : Except WireError (List UInt8) := do
  message.validateTypedEnvelope.mapError fun error => .host (.core error)
  (client.limits.checkArtifact message).mapError .host
  let value := message.toValue
  (validateWireEnvelope value).mapError .host
  (encodeFrame value.toVec client.limits.maxPayloadBytes).mapError .frame

structure SerdeReader where
  fromStr : List UInt8 -> Option Json
  fromValue : Json -> Option ArtifactMessage

def TransferServer.handlePayload (reader : SerdeReader) (server : TransferServer) (payload : List UInt8) :
    TransferServer × Except WireError Unit :=
  match reader.fromStr payload with
  | none => (server, .error .json)
  | some value =>
      match validateWireEnvelope value with
      | .error error => (server, .error (.host error))
      | .ok () =>
          match reader.fromValue value with
          | none => (server, .error .json)
          | some message =>
              let (server, outcome) := server.dispatch message
              (server, outcome.mapError .host)

def TransferServer.handleFrame (reader : SerdeReader) (server : TransferServer) (frame : List UInt8) :
    TransferServer × Except WireError Unit :=
  match decodeFrame frame server.limits.maxPayloadBytes with
  | .error error => (server, .error (.frame error))
  | .ok payload => server.handlePayload reader payload

def sendFrame (reader : SerdeReader) (client : ProtocolClient) (server : TransferServer) (message : ArtifactMessage) :
    TransferServer × Except WireError Unit :=
  match client.encode message with
  | .error error => (server, .error error)
  | .ok frame => server.handleFrame reader frame

def sendFrames (reader : SerdeReader) (client : ProtocolClient) (server : TransferServer) :
    List ArtifactMessage -> TransferServer × Except WireError Unit
  | [] => (server, .ok ())
  | message :: rest =>
      match sendFrame reader client server message with
      | (server, .error error) => (server, .error error)
      | (server, .ok ()) => sendFrames reader client server rest

end Ends

end AgentycHost
