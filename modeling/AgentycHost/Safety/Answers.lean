import AgentycHost.Effects.Answers

set_option autoImplicit false

/-! # Which requests are answered -/

namespace AgentycHost

open Shared

variable {B : Type} {calls : BrokerCalls B} {late : Bool} {session : Session B} {request : RequestEnvelope}

section Answers

variable {reader : ClientReader} {payload : List UInt8}

/-- The payload is answered by one frame, which holds a response with the identity. -/
def AnswersOnce (reader : ClientReader) (calls : BrokerCalls B) (late : Bool) (session : Session B)
    (payload : List UInt8) (requestId : RequestId) : Prop :=
  ∃ (output : List UInt8) (value : Json), (session.handlePayload reader calls late payload).2 = .ok output ∧
    decodeFrame output session.server.limits.maxPayloadBytes = .ok value.toVec ∧
    value.strAt "kind" = some "response" ∧ value.strAt "request_id" = some requestId.text

/-- The bounds on an answer: the text of its error, and the whole of its frame. -/
structure AnswerFits (reader : ClientReader) (calls : BrokerCalls B) (late : Bool) (session : Session B)
    (request : RequestEnvelope) : Prop where
  message : MessageFits (session.produced calls late request)
  frame : answerBytes reader request.requestId (session.produced calls late request) ≤
    session.server.limits.maxPayloadBytes

theorem AsksFor.handled_ok {output : List UInt8} (asks : AsksFor reader payload request) :
    (session.handlePayload reader calls late payload).2 = .ok output <->
      AnswerFits reader calls late session request ∧ output = frameImage ((ResponseEnvelope.answer request.requestId
        (session.produced calls late request)).value reader).toVec := by
  rw [asks.handled, encodeResponse_ok]
  constructor
  · rintro ⟨message, frame, image⟩
    exact ⟨⟨message, frame⟩, image⟩
  · rintro ⟨fits, image⟩
    exact ⟨fits.message, fits.frame, image⟩

theorem AsksFor.answers (asks : AsksFor reader payload request) :
    AnswersOnce reader calls late session payload request.requestId <->
      AnswerFits reader calls late session request := by
  constructor
  · rintro ⟨output, _, handled, _⟩
    exact (asks.handled_ok.mp handled).1
  · intro fits
    refine ⟨_, (ResponseEnvelope.answer request.requestId (session.produced calls late request)).value reader,
      asks.handled_ok.mpr ⟨fits, rfl⟩, ?_, ?_, ?_⟩
    · refine decodeFrame_ok.mpr (encodeFrame_ok.mpr ⟨WireLimits.small _, ?_, rfl⟩)
      rw [Json.toVec_length, answer_size]
      exact fits.frame
    · cases session.produced calls late request
      all_goals rfl
    · cases session.produced calls late request
      all_goals rfl

theorem AsksFor.stays (asks : AsksFor reader payload request) (connected : session.server.connection.isSome = true) :
    (session.servePayload reader calls late payload).1.server.connection.isSome = true <->
      AnswerFits reader calls late session request := by
  unfold Session.servePayload
  have kept : (session.handlePayload reader calls late payload).1.server.connection = session.server.connection := by
    rw [asks.handled, Session.handleRequest_connection]
  cases handled : session.handlePayload reader calls late payload with
  | mk after outcome =>
    rw [handled] at kept
    have answered : ∀ output, (session.handlePayload reader calls late payload).2 = .ok output <->
        AnswerFits reader calls late session request ∧ output = frameImage ((ResponseEnvelope.answer request.requestId
          (session.produced calls late request)).value reader).toVec := fun output => asks.handled_ok
    rw [handled] at answered
    cases outcome with
    | ok output =>
      refine iff_of_true ?_ ((answered output).mp rfl).1
      rw [← connected, ← kept]
    | error error =>
      refine iff_of_false ?_ fun fits => ?_
      · dsimp only
        rw [Session.close_connection]
        exact Bool.false_ne_true
      · cases (answered _).mpr ⟨fits, rfl⟩

/-- A request is answered, and its connection goes on, if and only if its answer is within both bounds. -/
theorem requests_are_answered (connected : session.server.connection.isSome = true)
    (asks : AsksFor reader payload request) :
    (AnswersOnce reader calls late session payload request.requestId <->
        AnswerFits reader calls late session request) ∧
      ((session.servePayload reader calls late payload).1.server.connection.isSome = true <->
        AnswerFits reader calls late session request) :=
  ⟨asks.answers, asks.stays connected⟩

end Answers

section Refusals

variable {error : CoreError}

structure FirstRequest (session : Session B) (connection : HostConnection) (request : RequestEnvelope) : Prop where
  valid : validateRequest request = .ok ()
  connected : session.server.connection = some connection
  fresh : session.server.requestStates.get? request.requestId = none
  room : session.server.requestStates.size < maxTrackedRequests
  unasked : session.tokens.byRequest.get? request.requestId = none
  uncancelled : session.tokens.cancelled = []

variable {connection : HostConnection}

theorem FirstRequest.tracked (first : FirstRequest session connection request) :
    ∃ server, session.server.track request = .ok server := by
  have limit : require (decide (session.server.requestStates.size < maxTrackedRequests))
      (CoreError.new .messageTooLarge "connection request tracking limit reached") = .ok () :=
    require_ok.mpr (decide_eq_true first.room)
  rw [ProtocolServer.track, bind_of_ok first.valid]
  dsimp only
  rw [first.fresh]
  dsimp only
  rw [bind_of_ok limit]
  exact ⟨_, rfl⟩

theorem FirstRequest.executes (first : FirstRequest session connection request) :
    calls.executeRequest (some connection) request session.broker = calls.execute connection request session.broker := by
  obtain ⟨_, _, valid⟩ := bind_ok.mp first.valid
  obtain ⟨_, named, valid⟩ := bind_ok.mp valid
  obtain ⟨_, _, params⟩ := bind_ok.mp valid
  unfold BrokerCalls.executeRequest
  rw [require_ok.mp named, params]
  rfl

theorem FirstRequest.handled (first : FirstRequest session connection request) :
    session.produced calls false request = (calls.execute connection request session.broker).2 ∧
      (session.handleRequest calls false request).1.broker = (calls.execute connection request session.broker).1 := by
  obtain ⟨server, tracked⟩ := first.tracked
  have idle : ∀ token, ({ session.tokens with
      byRequest := session.tokens.byRequest.insert request.requestId session.tokens.issued
      issued := session.tokens.issued + 1 } : CancellationTokens).isCancelled token = false := by
    intro token
    rw [CancellationTokens.isCancelled, first.uncancelled]
    rfl
  constructor
  · have asked : session.refusal false request = none := by
      rw [Session.refusal, tracked, CancellationTokens.token, first.unasked]
      dsimp only
      rw [idle, Bool.and_false]
      rfl
    rw [Session.produced, asked, first.connected]
    exact congrArg Prod.snd first.executes
  · rw [Session.handleRequest, tracked, CancellationTokens.token, first.unasked]
    dsimp only
    rw [Session.attempt, idle, Bool.and_false, (Session.track_connection tracked).1, first.connected]
    exact congrArg Prod.fst first.executes

end Refusals

section Sizes

theorem length_le_size (text : List Char) : text.length ≤ textSize text := by
  induction text with
  | nil => exact Nat.zero_le _
  | cons head rest ih =>
    have positive := head.utf8Size_pos
    rw [textSize_cons, List.length_cons]
    omega

theorem length_le_quoted (text : String) : text.toList.length ≤ (jsonString text).length := by
  have escaped : ∀ letters : List Char, letters.length ≤ (letters.flatMap escapeJson).length := by
    intro letters
    induction letters with
    | nil => exact Nat.zero_le _
    | cons head rest ih =>
      -- an escape has at least the character's own place
      have some_text : 0 < (escapeJson head).length := by
        unfold escapeJson
        split_ifs
        all_goals exact Nat.succ_pos _
      rw [List.flatMap_cons, List.length_append, List.length_cons]
      omega
  have inside := escaped text.toList
  rw [jsonString, List.length_cons, List.length_append]
  omega

theorem value_le_members {fields : List (String × Json)} {field : String × Json} (inside : field ∈ fields) :
    textSize field.2.render ≤ textSize (renderMembers fields) := by
  induction fields with
  | nil => exact absurd inside List.not_mem_nil
  | cons head rest ih =>
    cases rest with
    | nil =>
      rw [List.mem_singleton] at inside
      subst inside
      rw [renderMembers_last]
      omega
    | cons second more =>
      rw [renderMembers_cons]
      · rcases List.mem_cons.mp inside with rfl | later
        · omega
        · have below := ih later
          omega
      · rintro ⟨⟩

theorem base64_length (octets : List UInt8) : octets.length / 3 * 4 ≤ (base64 octets).length := by
  induction octets using base64.induct with
  | case1 => decide
  | case2 first =>
    simp only [base64, List.length_cons, List.length_nil]
    omega
  | case3 first second =>
    simp only [base64, List.length_cons, List.length_nil]
    omega
  | case4 first second third rest ih =>
    simp only [base64, List.length_cons]
    omega

theorem takenArtifact_size (reader : ClientReader) (handle : ArtifactHandle) (octets : List UInt8) :
    octets.length / 3 * 4 ≤ (reader.resultValue (takenArtifact handle octets)).size := by
  have inside : ("bytes_base64", Json.string (String.ofList (jsonString (String.ofList (base64 octets))))) ∈
      (takenArtifact handle octets).sorted.map reader.structured := by
    refine List.mem_map.mpr ⟨("bytes_base64", String.ofList (jsonString (String.ofList (base64 octets)))), ?_, rfl⟩
    rw [StringMap.sorted, List.mem_insertionSort]
    apply Table.mem_of_find
    exact Table.get?_insert_self _ _ _
  have within := value_le_members inside
  have encoded := base64_length octets
  have once := length_le_quoted (String.ofList (base64 octets))
  have twice := length_le_quoted (String.ofList (jsonString (String.ofList (base64 octets))))
  have sized := length_le_size (jsonString (String.ofList (jsonString (String.ofList (base64 octets)))))
  rw [String.toList_ofList] at once twice
  rw [Json.size, ClientReader.resultValue, object_size]
  rw [Json.render] at within
  omega

end Sizes

section Screenshot

def artifactBroker : BrokerCalls (Option (ArtifactHandle × List UInt8)) where
  execute _ request kept :=
    if request.method = "artifact.take" then
      match kept with
      | none => (none, .error (.new .capabilityUnavailable "artifact handle is unavailable"))
      | some (handle, octets) =>
          if request.params.get? "action_id" = some handle.actionId.text ∧
              request.params.get? "artifact_id" = some handle.artifactId.text then
            (none, .ok (takenArtifact handle octets))
          else (kept, .error (.new .permissionDenied "artifact handle does not belong to the requested action"))
    else (kept, .error (.invalidArgument "unknown host method"))
  disconnect _ kept := kept

theorem take_request : validateIdentifier "req_" "take" = true := by decide

theorem shoot_request : validateIdentifier "req_" "shoot" = true := by decide

theorem shoot_action : validateIdentifier "action_" "shoot" = true := by decide +kernel

theorem shot_artifact : validateIdentifier "artifact_" "shot" = true := by decide +kernel

def screenshotHandle (octets : List UInt8) : ArtifactHandle where
  artifactId := ⟨"shot", shot_artifact⟩
  requestId := ⟨"shoot", shoot_request⟩
  actionId := ⟨"shoot", shoot_action⟩
  spaceId := ⟨1⟩
  pageId := some ⟨1⟩
  artifactKind := .image
  totalBytes := octets.length
  chunkCount := divCeil octets.length maxArtifactChunkBytes
  digest := .fromBytes octets
  redacted := true

def takeRequest : RequestEnvelope where
  protocol := protocolVersion
  requestId := ⟨"take", take_request⟩
  method := "artifact.take"
  params := ((∅ : StringMap).insert "action_id" "action_shoot").insert "artifact_id" "artifact_shot"
  deadlineMs := none
  idempotencyKey := none

def takeValue : Json := .object [("deadline_ms", .null), ("idempotency_key", .null), ("kind", .string "request"),
  ("method", .string "artifact.take"), ("params", takeRequest.params.value), ("protocol", .nat protocolVersion),
  ("request_id", .string "req_take")]

def takeReader : ClientReader where
  fromStr octets := if octets = takeValue.toVec then some takeValue else none
  fromValue _ := some (.request takeRequest)

theorem takeValue_passes : (validateWireEnvelope takeValue).toBool = true := by decide

theorem takeRequest_passes : (validateRequest takeRequest).toBool = true := by decide

theorem takeReader_asks : AsksFor takeReader takeValue.toVec takeRequest := by
  refine ⟨⟨takeValue, ?_, toBool_ok.mp takeValue_passes, rfl⟩, toBool_ok.mp takeRequest_passes⟩
  unfold takeReader
  dsimp only
  rw [if_pos rfl]

theorem takeConnection_numbered : 0 < 1 ∧ 1 ≤ u64Max := by decide

def screenshotSession (kept : Option (ArtifactHandle × List UInt8)) :
    Session (Option (ArtifactHandle × List UInt8)) where
  server := { limits := .default, connection := some ⟨1, takeConnection_numbered⟩, requestStates := ∅ }
  tokens := { byRequest := ∅, cancelled := [], issued := 0 }
  broker := kept

theorem screenshot_first (kept : Option (ArtifactHandle × List UInt8)) :
    FirstRequest (screenshotSession kept) ⟨1, takeConnection_numbered⟩ takeRequest where
  valid := takeReader_asks.valid
  connected := rfl
  fresh := rfl
  room := Nat.succ_pos _
  unasked := rfl
  uncancelled := rfl

abbrev keepingSession (octets : List UInt8) := screenshotSession (some (screenshotHandle octets, octets))

theorem screenshot_taken (octets : List UInt8) (connection : HostConnection) :
    artifactBroker.execute connection takeRequest (some (screenshotHandle octets, octets)) =
      (none, .ok (takenArtifact (screenshotHandle octets) octets)) := by
  have method : takeRequest.method = "artifact.take" := rfl
  have named : takeRequest.params.get? "action_id" = some (screenshotHandle octets).actionId.text ∧
      takeRequest.params.get? "artifact_id" = some (screenshotHandle octets).artifactId.text := by
    constructor
    · rfl
    · rfl
  simp only [artifactBroker, if_pos method, if_pos named]

theorem screenshot_produced (octets : List UInt8) :
    (keepingSession octets).produced artifactBroker false takeRequest =
      .ok (takenArtifact (screenshotHandle octets) octets) := by
  rw [(screenshot_first _).handled.1, screenshotSession, screenshot_taken]

theorem nothing_kept : (screenshotSession none).produced artifactBroker false takeRequest =
    .error (.new .capabilityUnavailable "artifact handle is unavailable") := by
  have method : takeRequest.method = "artifact.take" := rfl
  rw [(screenshot_first _).handled.1]
  simp only [artifactBroker, screenshotSession, if_pos method]

/-- A request for a screenshot that is gone has its answer. -/
theorem requests_are_answered_sample :
    AnswersOnce takeReader artifactBroker false (screenshotSession none) takeValue.toVec takeRequest.requestId := by
  refine (requests_are_answered rfl takeReader_asks).1.mpr ⟨?_, ?_⟩
  · rw [nothing_kept]
    rintro error ⟨⟩
    exact ⟨by decide, by decide⟩
  · rw [nothing_kept]
    decide

/-- A screenshot of three quarters of a mebibyte is lost with the connection that asks for it. -/
theorem screenshot_ends_connection : ∃ octets : List UInt8, octets.length = 786432 ∧
    AsksFor takeReader takeValue.toVec takeRequest ∧ (keepingSession octets).server.connection.isSome = true ∧
    ¬ AnswersOnce takeReader artifactBroker false (keepingSession octets) takeValue.toVec takeRequest.requestId ∧
    ((keepingSession octets).servePayload takeReader artifactBroker false takeValue.toVec).1.server.connection = none ∧
    ((keepingSession octets).handlePayload takeReader artifactBroker false takeValue.toVec).1.broker = none := by
  obtain ⟨octets, length⟩ : ∃ octets : List UInt8, octets.length = 786432 :=
    ⟨List.replicate 786432 0, List.length_replicate⟩
  have large : ¬ AnswerFits takeReader artifactBroker false (keepingSession octets) takeRequest := by
    rintro ⟨_, frame⟩
    have limit : (keepingSession octets).server.limits.maxPayloadBytes = 1048576 := rfl
    have size := takenArtifact_size takeReader (screenshotHandle octets) octets
    rw [length] at size
    rw [screenshot_produced, answerBytes, limit] at frame
    omega
  have connected : (keepingSession octets).server.connection.isSome = true := rfl
  refine ⟨octets, length, takeReader_asks, connected, ?_, ?_, ?_⟩
  · rwa [takeReader_asks.answers]
  · have ended : ¬ ((keepingSession octets).servePayload takeReader artifactBroker false
        takeValue.toVec).1.server.connection.isSome = true := by
      rwa [takeReader_asks.stays connected]
    rwa [Bool.not_eq_true, Option.isSome_eq_false_iff, Option.isNone_iff_eq_none] at ended
  · rw [takeReader_asks.handled, (screenshot_first _).handled.2, screenshotSession, screenshot_taken]

end Screenshot

end AgentycHost
