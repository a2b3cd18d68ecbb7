import AgentycHost.Effects.Frames
import AgentycHost.Local.SocketClient

set_option autoImplicit false

/-! # Calls on one socket and their answers -/

namespace AgentycHost

open Shared

variable {reader : ResponseReader} {client before after last : SocketClient} {label : SocketLabel}
  {trace : List (Moment SocketClient SocketLabel)} {number : Nat} {payload held : List UInt8}

/-- The answer of the host, or an error that does not claim a refusal. -/
def HonestCall (reader : ResponseReader) (answers : List (Nat × List UInt8)) (call : SocketCall) : Prop :=
  (∃ payload response, (call.number, payload) ∈ answers ∧ reader.read payload = .ok response ∧
    response.requestId = localRequestId call.number ∧ call.outcome = ResponseReader.outcome response) ∨
  ∃ error, call.outcome = .error error ∧ error.claimsRefusal = false

/-- Every call that ended took the answer of the host to it or failed by itself, and says no more. -/
structure CallsAnswered (reader : ResponseReader) (client : SocketClient) : Prop where
  own : ∀ call payload, call ∈ client.ended -> call.ending = .took payload -> (call.number, payload) ∈ client.answers
  intact : ∀ call, call ∈ client.ended -> call.ending ≠ .jammed
  honest : ∀ call, call ∈ client.ended -> HonestCall reader client.answers call

/-- A response to the request, or bytes that the JSON reader refuses. -/
def ResponseReader.Readable (reader : ResponseReader) (number : Nat) (payload : List UInt8) : Prop :=
  (∃ response, reader.read payload = .ok response ∧ response.protocol = protocolVersion ∧
    response.requestId = localRequestId number) ∨ reader.read payload = .error .json

/-- Nothing of an earlier call is still to come. -/
structure SocketClient.Drained (client : SocketClient) : Prop where
  answered : client.awaiting = []
  arrived : client.inFlight = []
  taken : client.queued = []
  whole : client.decoder.finish = .ok ()

/-- A call begins on a stream that is drained, and an answer is readable. -/
def CalmMoment (reader : ResponseReader) (moment : Moment SocketClient SocketLabel) : Prop :=
  match moment.label with
  | .write _ _ _ => moment.before.Drained
  | .respond number payload => reader.Readable number payload
  | _ => True

section Steps

inductive SocketMove (reader : ResponseReader) (client : SocketClient) : SocketLabel -> SocketClient -> Prop where
  | drawn : SocketMove reader client .draw client.draw
  | wrote {number : Nat} {reached passed : Bool} (idle : client.holder = none)
      (sent : passed = true -> reached = true) :
      SocketMove reader client (.write number reached passed) (client.write number reached passed)
  | responded {number : Nat} {payload : List UInt8} (asked : number ∈ client.awaiting)
      (within : payload.length ≤ defaultMaxFramePayloadBytes) :
      SocketMove reader client (.respond number payload) (client.respond number payload (frameImage payload))
  | took {number : Nat} {payload : List UInt8} {rest : List (List UInt8)} (holds : client.holder = some number)
      (waits : client.queued = payload :: rest) :
      SocketMove reader client .take (SocketClient.endWith reader { client with queued := rest } number payload)
  | received {number count : Nat} (holds : client.holder = some number) (some_read : 0 < count)
      (there : count ≤ client.inFlight.length) :
      SocketMove reader client (.receive count) (client.receive reader number count)
  | failed {number : Nat} (holds : client.holder = some number) :
      SocketMove reader client .fail (client.endCall ⟨number, .lapsed, .error .transport⟩)
  | ended {number : Nat} (holds : client.holder = some number) :
      SocketMove reader client .close (client.closed number)

theorem socket_move (taken : client.next reader label = some after) : SocketMove reader client label after := by
  cases label with
  | draw =>
    cases taken
    exact .drawn
  | write number reached passed =>
    cases idle : client.holder with
    | none =>
      simp only [SocketClient.next, idle, Option.ite_none_right_eq_some, Option.some.injEq] at taken
      obtain ⟨⟨_, sent⟩, rfl⟩ := taken
      exact .wrote idle sent
    | some _ => simp [SocketClient.next, idle] at taken
  | respond number payload =>
    simp only [SocketClient.next, Option.ite_none_right_eq_some] at taken
    obtain ⟨asked, taken⟩ := taken
    split at taken
    next frame encoded =>
      obtain ⟨_, within, rfl⟩ := encodeFrame_ok.mp encoded
      cases taken
      exact .responded asked within
    next => cases taken
  | take =>
    cases holds : client.holder with
    | none => simp [SocketClient.next, holds] at taken
    | some number =>
      simp only [SocketClient.next, holds] at taken
      split at taken
      next payload rest waits =>
        cases taken
        exact .took holds waits
      next => cases taken
  | receive count =>
    cases holds : client.holder with
    | none => simp [SocketClient.next, holds] at taken
    | some number =>
      simp only [SocketClient.next, holds, Option.ite_none_right_eq_some, Option.some.injEq] at taken
      obtain ⟨⟨_, some_read, there⟩, rfl⟩ := taken
      exact .received holds some_read there
  | fail =>
    cases holds : client.holder with
    | none => simp [SocketClient.next, holds] at taken
    | some number =>
      simp only [SocketClient.next, holds, Option.ite_none_right_eq_some, Option.some.injEq] at taken
      obtain ⟨_, rfl⟩ := taken
      exact .failed holds
  | close =>
    cases holds : client.holder with
    | none => simp [SocketClient.next, holds] at taken
    | some number =>
      simp only [SocketClient.next, holds, Option.ite_none_right_eq_some, Option.some.injEq] at taken
      obtain ⟨_, rfl⟩ := taken
      exact .ended holds

end Steps

section Frames

variable {bound : Nat} {decoder : FrameDecoder} {stream rest : List UInt8} {given : List (List UInt8)}

theorem Splits.in_frame (splits : Splits bound stream given held) (fits : bound ≤ u32Max)
    (within : payload.length ≤ bound) (whole : stream ++ rest = frameImage payload) :
    (given = [] ∧ held = stream) ∨ (given = [payload] ∧ held = [] ∧ rest = []) := by
  cases given with
  | nil => exact .inl ⟨rfl, splits.stream.symm⟩
  | cons first others =>
    right
    have short : first.length ≤ bound := splits.bounded first List.mem_cons_self
    have same : frameImage first ++ (others.flatMap frameImage ++ held ++ rest) = frameImage payload ++ [] := by
      rw [List.append_nil, ← whole, splits.stream, List.flatMap_cons]
      simp only [List.append_assoc]
    obtain ⟨rfl, left⟩ := frameImage_code (Nat.le_trans short fits) (Nat.le_trans within fits) same
    simp only [List.append_eq_nil_iff] at left
    obtain ⟨⟨later, nothing⟩, none_left⟩ := left
    cases others with
    | nil => exact ⟨rfl, nothing, none_left⟩
    | cons other _ =>
      have longer := congrArg List.length later
      simp [frameImage, toBeBytes_length, framePrefixBytes] at longer

theorem Holding.feed_in_frame (holding : Holding bound decoder held) (fits : bound ≤ u32Max)
    (within : payload.length ≤ bound) {octets : List UInt8} (whole : held ++ octets ++ rest = frameImage payload) :
    (∃ after, decoder.feed octets = (after, .ok []) ∧ Holding bound after (held ++ octets)) ∨
    (∃ after, decoder.feed octets = (after, .ok [payload]) ∧ Holding bound after [] ∧ rest = []) := by
  rw [holding.feed]
  obtain ⟨after, given, held', fed, holds, splits⟩ |
    ⟨_, _, given, start, more, held', _, rfl, _, splits, large, four⟩ := holding.feedBytes [] octets
  · rw [List.nil_append] at fed
    obtain ⟨rfl, rfl⟩ | ⟨rfl, rfl, rfl⟩ := splits.in_frame fits within whole
    · exact .inl ⟨after, fed, holds⟩
    · exact .inr ⟨after, fed, holds, rfl⟩
  · -- the length of the frame is within the bound
    have whole' : held ++ start ++ (more ++ rest) = frameImage payload := by
      rw [← whole]
      simp only [List.append_assoc]
    obtain ⟨rfl, rfl⟩ | ⟨rfl, rfl, _⟩ := splits.in_frame fits within whole'
    · have stuck : held ++ start ++ (more ++ rest) ≠ frameImage payload ++ [] :=
        Ends.stuck (.inr (large.append (more ++ rest))) fits within
      rw [whole', List.append_nil] at stuck
      exact absurd rfl stuck
    · cases four

end Frames

section Calls

variable {answers : List (Nat × List UInt8)} {call : SocketCall}

theorem HonestCall.mono {more : List (Nat × List UInt8)} (honest : HonestCall reader answers call)
    (grows : answers ⊆ more) : HonestCall reader more call := by
  obtain ⟨payload, response, answered, read⟩ | blameless := honest
  · exact .inl ⟨payload, response, grows answered, read⟩
  · exact .inr blameless

theorem CallsAnswered.mono (sound : CallsAnswered reader before) (same : after.ended = before.ended)
    (grows : before.answers ⊆ after.answers) : CallsAnswered reader after where
  own call payload inside took := grows (sound.own call payload (same ▸ inside) took)
  intact call inside := sound.intact call (same ▸ inside)
  honest call inside := (sound.honest call (same ▸ inside)).mono grows

theorem CallsAnswered.endCall (sound : CallsAnswered reader client)
    (own : ∀ payload, call.ending = .took payload -> (call.number, payload) ∈ client.answers)
    (intact : call.ending ≠ .jammed) (honest : HonestCall reader client.answers call) :
    CallsAnswered reader (client.endCall call) where
  own other payload inside took := by
    obtain rfl | earlier := List.mem_cons.mp inside
    · exact own payload took
    · exact sound.own other payload earlier took
  intact other inside := by
    obtain rfl | earlier := List.mem_cons.mp inside
    · exact intact
    · exact sound.intact other earlier
  honest other inside := by
    obtain rfl | earlier := List.mem_cons.mp inside
    · exact honest
    · exact sound.honest other earlier

theorem CallsAnswered.lapse {error : ClientError} (sound : CallsAnswered reader client)
    (blameless : error.claimsRefusal = false) :
    CallsAnswered reader (client.endCall ⟨number, .lapsed, .error error⟩) := by
  apply sound.endCall
  case own => intro payload took; cases took
  case intact => intro jams; cases jams
  case honest => exact .inr ⟨error, rfl, blameless⟩

theorem ResponseReader.Readable.honest (readable : reader.Readable number payload)
    (answered : (number, payload) ∈ answers) :
    HonestCall reader answers ⟨number, .took payload, reader.answer (localRequestId number) payload⟩ := by
  obtain ⟨response, read, protocol, own⟩ | unread := readable
  · refine .inl ⟨payload, response, answered, read, own, ?_⟩
    simp [ResponseReader.answer, read, protocol, own, require, bind, Except.bind]
  · refine .inr ⟨.json, ?_, rfl⟩
    simp [ResponseReader.answer, unread, bind, Except.bind]

theorem CallsAnswered.endWith (sound : CallsAnswered reader client) (answered : (number, payload) ∈ client.answers)
    (readable : reader.Readable number payload) : CallsAnswered reader (client.endWith reader number payload) := by
  apply sound.endCall
  case own =>
    intro other took
    cases took
    exact answered
  case intact => intro jams; cases jams
  case honest => exact readable.honest answered

end Calls

section Invariant

inductive Brings (client : SocketClient) (number : Nat) (held : List UInt8) : Prop where
  | asked (awaits : client.awaiting = [number]) (silent : client.inFlight = []) (empty : held = [])
  | answered (payload : List UInt8) (last : client.awaiting = []) (given : (number, payload) ∈ client.answers)
      (within : payload.length ≤ defaultMaxFramePayloadBytes) (whole : held ++ client.inFlight = frameImage payload)

structure InStep (reader : ResponseReader) (client : SocketClient) : Prop where
  sound : CallsAnswered reader client
  readable : ∀ number payload, (number, payload) ∈ client.answers -> reader.Readable number payload
  decodes : ∃ held, Holding defaultMaxFramePayloadBytes client.decoder held ∧
    ∀ number, client.holder = some number -> client.queued = [] ∧ Brings client number held

theorem default_fits : defaultMaxFramePayloadBytes ≤ u32Max := by decide

theorem connected_in_step : InStep reader .connected where
  sound := ⟨by rintro _ _ ⟨⟩, by rintro _ ⟨⟩, by rintro _ ⟨⟩⟩
  readable := by rintro _ _ ⟨⟩
  decodes := by
    refine ⟨[], ?_, by rintro _ ⟨⟩⟩
    have holding := new_holding defaultMaxFramePayloadBytes
    rwa [Nat.min_eq_left default_fits] at holding

theorem InStep.released {call : SocketCall} (step : InStep reader client)
    (sound : CallsAnswered reader (client.endCall call)) : InStep reader (client.endCall call) where
  sound := sound
  readable := step.readable
  decodes := by
    obtain ⟨held, holding, _⟩ := step.decodes
    exact ⟨held, holding, by rintro _ ⟨⟩⟩

theorem InStep.draw (step : InStep reader client) : InStep reader client.draw where
  sound := step.sound.mono rfl (List.Subset.refl _)
  readable := step.readable
  decodes := by
    obtain ⟨held, holding, brings⟩ := step.decodes
    refine ⟨held, holding, ?_⟩
    intro number holds
    obtain ⟨empty, ⟨awaits, silent, nothing⟩ | ⟨payload, last, given, within, whole⟩⟩ := brings number holds
    · exact ⟨empty, .asked awaits silent nothing⟩
    · exact ⟨empty, .answered payload last given within whole⟩

theorem InStep.write {reached passed : Bool} (step : InStep reader client) (drained : client.Drained)
    (sent : passed = true -> reached = true) : InStep reader (client.write number reached passed) := by
  obtain ⟨held, holding, _⟩ := step.decodes
  unfold SocketClient.write
  cases passed with
  | false =>
    constructor
    case sound => exact CallsAnswered.lapse (step.sound.mono rfl (List.Subset.refl _)) rfl
    case readable => exact step.readable
    case decodes => exact ⟨held, holding, by rintro _ ⟨⟩⟩
  | true =>
    obtain rfl := sent rfl
    constructor
    case sound => exact step.sound.mono rfl (List.Subset.refl _)
    case readable => exact step.readable
    case decodes =>
      obtain ⟨empty, _⟩ | ⟨_, _, _, broken⟩ := holding.finish
      · refine ⟨held, holding, ?_⟩
        rintro _ ⟨⟩
        refine ⟨drained.taken, .asked ?_ drained.arrived empty⟩
        simp [drained.answered]
      · -- a decoder with the beginning of a frame is not drained
        rw [drained.whole] at broken
        cases broken

theorem InStep.respond (step : InStep reader client) (asked : number ∈ client.awaiting)
    (within : payload.length ≤ defaultMaxFramePayloadBytes) (readable : reader.Readable number payload) :
    InStep reader (client.respond number payload (frameImage payload)) := by
  obtain ⟨held, holding, brings⟩ := step.decodes
  constructor
  case sound => exact step.sound.mono rfl (List.subset_cons_self _ _)
  case readable =>
    intro other text given
    obtain same | earlier := List.mem_cons.mp given
    · cases same
      exact readable
    · exact step.readable other text earlier
  case decodes =>
    refine ⟨held, holding, ?_⟩
    intro other holds
    obtain ⟨empty, ⟨awaits, silent, nothing⟩ | ⟨_, last⟩⟩ := brings other holds
    · obtain rfl : number = other := by simpa [awaits] using asked
      refine ⟨empty, .answered payload ?_ List.mem_cons_self within ?_⟩
      · simp [SocketClient.respond, awaits]
      · simp [SocketClient.respond, silent, nothing]
    · simp [last] at asked

theorem InStep.receive {count : Nat} (step : InStep reader client) (holds : client.holder = some number)
    (some_read : 0 < count) (there : count ≤ client.inFlight.length) :
    InStep reader (client.receive reader number count) := by
  obtain ⟨held, holding, brings⟩ := step.decodes
  obtain ⟨empty, ⟨_, silent⟩ | ⟨payload, last, given, within, whole⟩⟩ := brings number holds
  · rw [silent, List.length_nil] at there
    omega
  · have split : held ++ client.inFlight.take count ++ client.inFlight.drop count = frameImage payload := by
      rw [List.append_assoc, List.take_append_drop, whole]
    unfold SocketClient.receive
    obtain ⟨decoder, fed, longer⟩ | ⟨decoder, fed, idle, _⟩ := holding.feed_in_frame default_fits within split
    · rw [fed]
      constructor
      case sound => exact step.sound.mono rfl (List.Subset.refl _)
      case readable => exact step.readable
      case decodes =>
        refine ⟨_, longer, ?_⟩
        intro other holds'
        obtain rfl : number = other := Option.some.inj (holds.symm.trans holds')
        exact ⟨empty, .answered payload last given within split⟩
    · rw [fed]
      constructor
      case sound =>
        exact CallsAnswered.endWith (step.sound.mono rfl (List.Subset.refl _)) given (step.readable number payload given)
      case readable => exact step.readable
      case decodes => exact ⟨[], idle, by rintro _ ⟨⟩⟩

theorem InStep.closed (step : InStep reader client) : InStep reader (client.closed number) := by
  unfold SocketClient.closed
  split
  next => exact step.released (step.sound.lapse rfl)
  next => exact step.released (step.sound.lapse rfl)

theorem InStep.next (step : InStep reader before) (taken : before.next reader label = some after)
    (calm : CalmMoment reader ⟨before, label, after⟩) : InStep reader after := by
  cases socket_move taken with
  | drawn => exact step.draw
  | wrote _ sent => exact step.write calm sent
  | responded asked within => exact step.respond asked within calm
  | took holds waits =>
    -- the queue is empty while a call holds the stream
    obtain ⟨_, _, brings⟩ := step.decodes
    obtain ⟨empty, _⟩ := brings _ holds
    rw [empty] at waits
    cases waits
  | received holds some_read there => exact step.receive holds some_read there
  | failed => exact step.released (step.sound.lapse rfl)
  | ended => exact step.closed

end Invariant

/-- Calls that begin on a drained stream get their own answers, whatever fails. -/
theorem drained_calls_answered (run : SocketRun reader .connected trace last)
    (calm : ∀ moment, moment ∈ trace -> CalmMoment reader moment) : CallsAnswered reader last := by
  have kept : InStep reader last := run.keeps (InStep reader) connected_in_step
    fun moment inside taken step => step.next taken (calm moment inside)
  exact kept.sound

section Samples

def repliedValue (number : Nat) : Json :=
  .object [("error", .null), ("kind", .string "response"), ("ok", .bool true), ("protocol", .nat protocolVersion),
    ("request_id", .string (localRequestId number).text), ("result", .object []), ("warnings", .array [])]

def repliedBytes (number : Nat) : List UInt8 := (repliedValue number).toVec

def repliedEnvelope (number : Nat) : ResponseEnvelope := .success (localRequestId number) ∅

def repliesReader : ResponseReader where
  fromSlice octets := if octets = repliedBytes 1 then some (repliedValue 1) else none
  fromValue value :=
    if value.strAt "request_id" = some (localRequestId 1).text then some (some (repliedEnvelope 1)) else none

theorem repliesReader_reads : repliesReader.read (repliedBytes 1) = .ok (repliedEnvelope 1) := by
  unfold ResponseReader.read repliesReader
  dsimp only
  rw [if_pos rfl]
  rfl

def ownReply : List SocketLabel :=
  [.draw, .write 1 true true, .respond 1 (repliedBytes 1), .receive 40, .receive 72]

def calmMoment (moment : Moment SocketClient SocketLabel) : Bool :=
  match moment.label with
  | .write _ _ _ => moment.before.awaiting.isEmpty && moment.before.inFlight.isEmpty && moment.before.queued.isEmpty &&
      moment.before.decoder.finish.toBool
  | .respond number payload => number == 1 && payload == repliedBytes 1
  | _ => true

theorem calm_undisturbed {moment : Moment SocketClient SocketLabel} (calm : calmMoment moment = true) :
    CalmMoment repliesReader moment := by
  unfold calmMoment at calm
  unfold CalmMoment
  split at calm
  next =>
    simp only [Bool.and_eq_true, List.isEmpty_iff] at calm
    obtain ⟨⟨⟨answered, arrived⟩, taken⟩, whole⟩ := calm
    exact ⟨answered, arrived, taken, toBool_ok.mp whole⟩
  next =>
    simp only [Bool.and_eq_true, beq_iff_eq] at calm
    obtain ⟨rfl, rfl⟩ := calm
    exact .inl ⟨repliedEnvelope 1, repliesReader_reads, rfl, rfl⟩
  next => trivial

set_option maxRecDepth 4000 in
theorem own_reply_taken : ∃ trace last, SocketRun repliesReader .connected trace last ∧
    (last.ended.map fun call => (call.number, call.ending)) = [(1, .took (repliedBytes 1))] ∧
    CallsAnswered repliesReader last := by
  obtain ⟨last, run, took⟩ := advance_reaches (fun label state => SocketClient.next repliesReader state label) .connected
    ownReply (fun last => (last.ended.map fun call => (call.number, call.ending)) == [(1, .took (repliedBytes 1))])
    (by decide)
  refine ⟨_, last, run, eq_of_beq took, drained_calls_answered run fun moment inside => calm_undisturbed ?_⟩
  exact visits_all _ ownReply .connected calmMoment (by decide) moment inside

def lateReply : List SocketLabel :=
  [.draw, .write 1 true true, .fail, .draw, .respond 1 (repliedBytes 1), .write 2 true true, .receive 112]

set_option maxRecDepth 4000 in
/-- The second call takes the answer of the first and reports a refusal. -/
theorem late_reply_taken : ∃ trace last, SocketRun repliesReader .connected trace last ∧
    ¬ CallsAnswered repliesReader last := by
  obtain ⟨last, run, took⟩ := advance_reaches (fun label state => SocketClient.next repliesReader state label) .connected
    lateReply (fun last => last.ended.any fun call => call.number == 2 && call.ending == .took (repliedBytes 1) &&
      !last.answers.contains (2, repliedBytes 1)) (by decide)
  refine ⟨_, last, run, ?_⟩
  intro sound
  simp only [List.any_eq_true, Bool.and_eq_true, beq_iff_eq, Bool.not_eq_true', List.contains_eq_mem,
    decide_eq_false_iff_not] at took
  obtain ⟨call, inside, ⟨second, took⟩, unanswered⟩ := took
  have own := sound.own call _ inside took
  rw [second] at own
  exact unanswered own

end Samples

end AgentycHost
