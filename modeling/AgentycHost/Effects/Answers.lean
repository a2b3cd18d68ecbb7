import AgentycHost.Effects.Wire
import AgentycHost.Local.Server

set_option autoImplicit false

/-! # Which requests are answered -/

namespace AgentycHost

open Shared

variable {reader : ClientReader} {requestId : RequestId}

section Sizes

def quotedSize (text : String) : Nat := textSize (jsonString text)

theorem bool_size (value : Bool) : textSize (Json.bool value).render = if value then 4 else 5 := by
  cases value
  · decide
  · decide

theorem renderMembers_cons (key : String) (value : Json) {rest : List (String × Json)} (more : rest ≠ []) :
    textSize (renderMembers ((key, value) :: rest)) =
      quotedSize key + textSize value.render + 2 + textSize (renderMembers rest) := by
  have colon : ':'.utf8Size = 1 := by decide
  have comma : ','.utf8Size = 1 := by decide
  rw [renderMembers]
  · simp only [textSize_append, textSize_cons, quotedSize, colon, comma]
    omega
  · exact more

theorem renderMembers_last (key : String) (value : Json) :
    textSize (renderMembers [(key, value)]) = quotedSize key + textSize value.render + 1 := by
  have colon : ':'.utf8Size = 1 := by decide
  rw [renderMembers]
  simp only [textSize_append, textSize_cons, quotedSize, colon]
  omega

theorem object_size (fields : List (String × Json)) :
    textSize (Json.object fields).render = textSize (renderMembers fields) + 2 := by
  have opens : '{'.utf8Size = 1 := by decide
  have closes : textSize ['}'] = 1 := by decide
  rw [Json.render, textSize_cons, textSize_append, opens, closes]
  omega

def CoreError.bytes (error : CoreError) : Nat :=
  45 + quotedSize error.code.asStr + quotedSize error.guidance.asStr + quotedSize error.message +
    (if error.retryable then 4 else 5)

theorem CoreError.size_value (error : CoreError) : textSize error.value.render = error.bytes := by
  have code : quotedSize "code" = 6 := by decide
  have guidance : quotedSize "guidance" = 10 := by decide
  have message : quotedSize "message" = 9 := by decide
  have retryable : quotedSize "retryable" = 11 := by decide
  rw [CoreError.value, object_size, renderMembers_cons, renderMembers_cons, renderMembers_cons, renderMembers_last,
    bool_size, code, guidance, message, retryable, CoreError.bytes]
  · simp only [Json.render, quotedSize]
    omega
  all_goals rintro ⟨⟩

def answerBytes (reader : ClientReader) (requestId : RequestId) : Except CoreError StringMap -> Nat
  | .ok result => 93 + quotedSize requestId.text + (reader.resultValue result).size
  | .error error => 94 + quotedSize requestId.text + error.bytes

theorem answer_size (outcome : Except CoreError StringMap) :
    ((ResponseEnvelope.answer requestId outcome).value reader).size = answerBytes reader requestId outcome := by
  have error : quotedSize "error" = 7 := by decide
  have kind : quotedSize "kind" = 6 := by decide
  have ok : quotedSize "ok" = 4 := by decide
  have protocol : quotedSize "protocol" = 10 := by decide
  have identity : quotedSize "request_id" = 12 := by decide
  have result : quotedSize "result" = 8 := by decide
  have warnings : quotedSize "warnings" = 10 := by decide
  have response : textSize (jsonString "response") = 10 := by decide
  have empty : textSize (Json.array []).render = 2 := by decide
  have null : textSize Json.null.render = 4 := by decide
  have version : textSize (Json.nat protocolVersion).render = 1 := by decide
  have text : ∀ text, textSize (Json.string text).render = quotedSize text := fun text => by
    rw [Json.render, quotedSize]
  cases outcome with
  | ok found =>
    simp only [ResponseEnvelope.answer, ResponseEnvelope.success, ResponseEnvelope.value, Json.size, Option.map_none,
      Option.map_some, Option.getD_none, Option.getD_some, List.map_nil]
    rw [object_size, renderMembers_cons, renderMembers_cons, renderMembers_cons, renderMembers_cons,
      renderMembers_cons, renderMembers_cons, renderMembers_last, bool_size, text, text, empty, null, version, error,
      kind, ok, protocol, identity, result, warnings, answerBytes, Json.size]
    · simp only [quotedSize, response, if_true]
      omega
    all_goals rintro ⟨⟩
  | error failed =>
    simp only [ResponseEnvelope.answer, ResponseEnvelope.failure, ResponseEnvelope.value, Json.size, Option.map_none,
      Option.map_some, Option.getD_none, Option.getD_some, List.map_nil]
    rw [object_size, renderMembers_cons, renderMembers_cons, renderMembers_cons, renderMembers_cons,
      renderMembers_cons, renderMembers_cons, renderMembers_last, bool_size, text, text, empty, null, version, error,
      kind, ok, protocol, identity, result, warnings, failed.size_value, answerBytes]
    · simp only [quotedSize, response, Bool.false_eq_true, if_false]
      omega
    all_goals rintro ⟨⟩

end Sizes

section Checks

variable {limits : WireLimits} {frame : List UInt8} {max : Nat} {text : String} {object : Json}

def MessageFits (outcome : Except CoreError StringMap) : Prop :=
  ∀ error, outcome = .error error -> error.message ≠ "" ∧ error.message.utf8ByteSize ≤ maxWarningBytes

theorem wireTextFits_iff :
    wireTextFits text max = true <-> text ≠ "" ∧ text.utf8ByteSize ≤ max := by
  rw [wireTextFits, Bool.and_eq_true, bne_iff_ne, decide_eq_true_eq]

theorem wireString_ok {key found : String} (there : object.strAt key = some text) :
    wireString object key max = .ok found <-> wireTextFits text max = true ∧ found = text := by
  rw [wireString, orElse_ok, there, Option.filter_some]
  by_cases fits : wireTextFits text max = true
  next => rw [if_pos fits, Option.some_inj, and_iff_right fits, eq_comm]
  next =>
    rw [if_neg fits]
    constructor
    · rintro ⟨⟩
    · exact fun inside => absurd inside.1 fits

theorem code_fits (code : ErrorCode) : wireTextFits code.asStr 64 = true := by
  cases code
  all_goals decide

theorem guidance_fits (guidance : ErrorGuidance) : wireTextFits guidance.asStr 64 = true := by
  cases guidance
  all_goals decide

theorem wireResponseError_ok {error : CoreError} {done : Unit} : wireResponseError error.value = .ok done <->
    error.message ≠ "" ∧ error.message.utf8ByteSize ≤ maxWarningBytes := by
  rw [← wireTextFits_iff]
  have code : wireString error.value "code" 64 = .ok error.code.asStr :=
    wireString_of rfl (code_fits error.code)
  have guidance : wireString error.value "guidance" 64 = .ok error.guidance.asStr :=
    wireString_of rfl (guidance_fits error.guidance)
  have retryable : wireBool error.value "retryable" = .ok error.retryable := orElse_ok.mpr rfl
  have known : wireRejectUnknown error.value ["code", "retryable", "guidance", "message"] = .ok () := rfl
  have object : require error.value.isObject (.invalidArgument "response error must be an object or null") =
      (.ok () : Except HostError Unit) := rfl
  have present : error.value.isNull = false := rfl
  rw [wireResponseError, present, if_neg Bool.false_ne_true]
  simp only [object, known, code, retryable, guidance, bind_ok, Except.ok.injEq, exists_eq_left', exists_const,
    true_and]
  constructor
  · rintro ⟨text, read, _⟩
    exact ((wireString_ok rfl).mp read).1
  · intro fits
    exact ⟨_, (wireString_ok rfl).mpr ⟨fits, rfl⟩, rfl⟩

theorem wireKind_of {kind : EnvelopeKind} (passes : validateWireEnvelope object = .ok ())
    (named : object.strAt "kind" = some text) (known : EnvelopeKind.ofText text = some kind) :
    wireKind object kind = .ok () := by
  obtain ⟨_, _, passes⟩ := bind_ok.mp passes
  obtain ⟨_, _, passes⟩ := bind_ok.mp passes
  obtain ⟨_, _, passes⟩ := bind_ok.mp passes
  obtain ⟨_, read, passes⟩ := bind_ok.mp passes
  obtain ⟨_, found, passes⟩ := bind_ok.mp passes
  obtain ⟨_, _, passes⟩ := bind_ok.mp passes
  obtain ⟨_, rfl⟩ := (wireString_ok named).mp read
  rw [orElse_ok, known] at found
  cases found
  exact passes

theorem answer_passes (outcome : Except CoreError StringMap) :
    validateWireEnvelope ((ResponseEnvelope.answer requestId outcome).value reader) = .ok () <->
      MessageFits outcome := by
  have identity : ∀ outcome : Except CoreError StringMap,
      wireString ((ResponseEnvelope.answer requestId outcome).value reader) "request_id" maxIdBytes =
        .ok requestId.text := by
    intro outcome
    refine wireString_of ?_ (requestId.text_fits (by decide))
    cases outcome
    all_goals rfl
  constructor
  · rintro passes error rfl
    have checked : wireResponse ((ResponseEnvelope.answer requestId (.error error)).value reader) = .ok () :=
      wireKind_of passes rfl rfl
    obtain ⟨_, _, passes⟩ := bind_ok.mp checked
    obtain ⟨_, _, passes⟩ := bind_ok.mp passes
    obtain ⟨_, _, passes⟩ := bind_ok.mp passes
    obtain ⟨_, found, passes⟩ := bind_ok.mp passes
    obtain ⟨_, checked, _⟩ := bind_ok.mp passes
    rw [orElse_ok] at found
    cases found
    exact wireResponseError_ok.mp checked
  · intro fits
    cases outcome with
    | ok result =>
      refine validateWireEnvelope_of "response" .response rfl rfl rfl rfl (by decide) rfl ?_
      refine bind_ok.mpr ⟨_, identity _, ?_⟩
      rfl
    | error error =>
      refine validateWireEnvelope_of "response" .response rfl rfl rfl rfl (by decide) rfl ?_
      refine bind_ok.mpr ⟨_, identity _, bind_ok.mpr ⟨false, rfl, bind_ok.mpr ⟨.null, rfl, ?_⟩⟩⟩
      refine bind_ok.mpr ⟨error.value, rfl, bind_ok.mpr ⟨(), wireResponseError_ok.mpr (fits error rfl), ?_⟩⟩
      rfl

theorem encodeResponse_ok (outcome : Except CoreError StringMap) :
    encodeResponse reader limits (.answer requestId outcome) = .ok frame <->
      MessageFits outcome ∧ answerBytes reader requestId outcome ≤ limits.maxPayloadBytes ∧
        frame = frameImage ((ResponseEnvelope.answer requestId outcome).value reader).toVec := by
  simp only [encodeResponse, responseToWireValue, bind_ok, mapError_ok, pure_ok, encodeFrame_ok, Json.toVec_length,
    limits.small, true_and]
  constructor
  · rintro ⟨_, ⟨_, passes, rfl⟩, small, rfl⟩
    exact ⟨(answer_passes outcome).mp passes, answer_size outcome ▸ small, rfl⟩
  · rintro ⟨fits, small, rfl⟩
    exact ⟨_, ⟨(), (answer_passes outcome).mpr fits, rfl⟩, (answer_size outcome).symm ▸ small, rfl⟩

end Checks

section Requests

variable {B : Type} {calls : BrokerCalls B} {late : Bool} {session : Session B} {payload : List UInt8} {value : Json}
  {request : RequestEnvelope}

namespace Session

def refusal (late : Bool) (session : Session B) (request : RequestEnvelope) : Option CoreError :=
  match session.server.track request with
  | .error error => some error
  | .ok _ =>
      let (tokens, token) := session.tokens.token request.requestId
      if tokens.isCancelled token then some (.new .cancelled "request was cancelled before dispatch")
      else if request.deadlineMs.isSome && late then some (.new .timeout "request deadline elapsed before dispatch")
      else none

def produced (calls : BrokerCalls B) (late : Bool) (session : Session B) (request : RequestEnvelope) :
    Except CoreError StringMap :=
  match session.refusal late request with
  | some error => .error error
  | none => (calls.executeRequest session.server.connection request session.broker).2

theorem track_connection {server : ProtocolServer} (tracked : session.server.track request = .ok server) :
    server.connection = session.server.connection ∧ server.limits = session.server.limits := by
  obtain ⟨_, _, tracked⟩ := bind_ok.mp tracked
  dsimp only at tracked
  split at tracked
  next => cases tracked
  next =>
    obtain ⟨_, _, tracked⟩ := bind_ok.mp tracked
    cases tracked
    exact ⟨rfl, rfl⟩

theorem handleRequest_answers : (session.handleRequest calls late request).2 =
    .answer request.requestId (session.produced calls late request) := by
  unfold handleRequest produced refusal
  cases tracked : session.server.track request with
  | error error => rfl
  | ok server =>
    dsimp only
    unfold attempt
    by_cases cancelled :
      (session.tokens.token request.requestId).1.isCancelled (session.tokens.token request.requestId).2 = true
    next =>
      rw [if_pos cancelled, if_pos cancelled]
    next =>
      rw [if_neg cancelled, if_neg cancelled]
      by_cases past : (request.deadlineMs.isSome && late) = true
      next => rw [if_pos past, if_pos past]
      next =>
        rw [if_neg past, if_neg past]
        dsimp only
        rw [(track_connection tracked).1]

theorem handleRequest_limits :
    (session.handleRequest calls late request).1.server.limits = session.server.limits := by
  unfold handleRequest
  split
  next => rfl
  next server tracked => exact (track_connection tracked).2

theorem handleRequest_connection :
    (session.handleRequest calls late request).1.server.connection = session.server.connection := by
  unfold handleRequest
  split
  next => rfl
  next server tracked => exact (track_connection tracked).1

theorem close_connection : (session.close calls).server.connection = none := by
  unfold close
  split
  next absent => exact absent
  next => rfl

end Session

structure AsksFor (reader : ClientReader) (payload : List UInt8) (request : RequestEnvelope) : Prop where
  read : ∃ value, reader.fromStr payload = some value ∧ validateWireEnvelope value = .ok () ∧
    reader.fromValue value = some (.request request)
  valid : validateRequest request = .ok ()

theorem AsksFor.typed (asks : AsksFor reader payload request) :
    (ClientEnvelope.request request).validateTypedEnvelope = .ok () := by
  have protocol := asks.valid
  obtain ⟨_, protocol, _⟩ := bind_ok.mp protocol
  exact bind_ok.mpr ⟨(), require_ok.mpr (require_ok.mp protocol), asks.valid⟩

theorem AsksFor.handled (asks : AsksFor reader payload request) :
    session.handlePayload reader calls late payload =
      ((session.handleRequest calls late request).1,
        encodeResponse reader session.server.limits
          (.answer request.requestId (session.produced calls late request))) := by
  obtain ⟨value, text, wire, envelope⟩ := asks.read
  unfold Session.handlePayload
  rw [text]
  dsimp only
  rw [wire]
  dsimp only
  rw [envelope]
  dsimp only
  unfold Session.dispatch
  rw [asks.typed]
  dsimp only
  rw [Session.handleRequest_answers, Session.handleRequest_limits]

end Requests

end AgentycHost
