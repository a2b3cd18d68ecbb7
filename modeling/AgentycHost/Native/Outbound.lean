import AgentycHost.Native.Requests

set_option autoImplicit false

/-!
# What a host writes on one Native Messaging connection

The sequence number is taken under the session lock and the frame is written
under the outbound lock. A post holds the outbound lock for both. The handshake
takes its number first and the outbound lock after that.
-/

namespace AgentycHost

open Shared

inductive PostKind where
  | event
  | artifactBegin
  | artifactChunk
  | artifactEnd
  | request
  | response
  | fence
  deriving DecidableEq

inductive HostKind where
  | helloOk
  | post (kind : PostKind)
  deriving DecidableEq

def HostKind.asStr : HostKind -> String
  | .helloOk => "hello_ok"
  | .post .event => "event"
  | .post .artifactBegin => "artifact_begin"
  | .post .artifactChunk => "artifact_chunk"
  | .post .artifactEnd => "artifact_end"
  | .post .request => "request"
  | .post .response => "response"
  | .post .fence => "fence"

structure NativeHello where
  nonce : String
  workerInstanceEpoch : Nat
  browserSessionEpoch : Nat
  rest : List (String × String)
  deriving DecidableEq

structure HostEnvelope where
  kind : HostKind
  sequence : Nat
  brokerEpoch : Nat
  connectionEpoch : Nat
  hello : NativeHello
  fields : List (String × Json)

namespace HostEnvelope

variable (envelope : HostEnvelope)

def commonFields : List (String × Json) :=
  [("protocol", .int 1), ("kind", .string envelope.kind.asStr), ("nonce", .string envelope.hello.nonce),
    ("sequence", .int envelope.sequence), ("broker_epoch", .int envelope.brokerEpoch),
    ("connection_epoch", .int envelope.connectionEpoch),
    ("worker_instance_epoch", .int envelope.hello.workerInstanceEpoch),
    ("browser_session_epoch", .int envelope.hello.browserSessionEpoch)]

-- `insert` replaces a field of the same name
def toValue : Json :=
  .object (envelope.commonFields ++ envelope.fields.filter fun field =>
    !(envelope.commonFields.map Prod.fst).contains field.1)

end HostEnvelope

/-- The checks of the write path that look at the envelope only, and its encoding by `serde_json`. -/
structure EnvelopeChecks where
  validateNativeShape : Json -> String -> Except NativeHostError Unit
  assertNoRawBrowserIdentifiers : Json -> Except NativeHostError Unit
  toVec : Json -> Option (List UInt8)

/-- The fields of `SessionMetadata` that the write path reads. -/
structure OutboundSession where
  hello : NativeHello
  brokerEpoch : Option Nat
  connectionEpoch : Option Nat
  nextOutboundSequence : Nat
  handshakeComplete : Bool
  maxControlBytes : Nat

structure HandshakeOffer where
  hello : NativeHello
  brokerEpoch : Nat
  connectionEpoch : Nat
  -- what the checks of the resume cursor say
  resume : Except NativeHostError Unit
  -- the control bound of the negotiated limits, when they validate
  limits : Except NativeHostError Nat
  fields : List (String × Json)

inductive OutboundTask where
  | handshake (offer : HandshakeOffer)
  | post (kind : PostKind) (fields : List (String × Json))

inductive OutboundPhase where
  | asked
  -- a post that holds the outbound lock
  | locked
  -- a handshake that has its number and not yet the lock
  | numbered (envelope : HostEnvelope)
  -- holds the lock and the envelope
  | ready (envelope : HostEnvelope)
  | ended (result : Except NativeHostError Unit)

structure OutboundThread where
  task : OutboundTask
  phase : OutboundPhase

structure NativeOutbound where
  session : OutboundSession
  holder : Option Nat
  threads : List OutboundThread
  -- the envelopes that were written completely, in order
  wire : List HostEnvelope

inductive WriterOutcome where
  | written
  -- `write_all` wrote the frame and `flush` failed
  | unflushed
  -- `write_all` failed
  | torn
  deriving DecidableEq

inductive OutboundLabel where
  | ask (task : OutboundTask)
  | accept (index : Nat)
  | lock (index : Nat)
  | number (index : Nat)
  | write (index : Nat) (outcome : WriterOutcome)

namespace OutboundSession

variable (session : OutboundSession)

def nextEnvelope (kind : HostKind) (brokerEpoch connectionEpoch : Nat) (fields : List (String × Json)) : HostEnvelope where
  kind
  sequence := session.nextOutboundSequence
  brokerEpoch
  connectionEpoch
  hello := session.hello
  fields

def overflow : NativeHostError := .protocol "outbound sequence overflow"

/-- The part of `complete_handshake_with_resume` under the session lock. -/
def acceptHandshake (offer : HandshakeOffer) : OutboundSession × Except NativeHostError HostEnvelope :=
  match offer.resume with
  | .error error => (session, .error error)
  | .ok () =>
      if session.hello ≠ offer.hello then
        (session, .error (.protocol "handshake hello does not match the accepted connection"))
      else if session.handshakeComplete then
        (session, .error (.protocol "duplicate host handshake acknowledgement"))
      else
        let opened := { session with
          brokerEpoch := some offer.brokerEpoch, connectionEpoch := some offer.connectionEpoch }
        match offer.limits with
        | .error error => (opened, .error error)
        | .ok maxControlBytes =>
            let bounded := { opened with maxControlBytes }
            if session.nextOutboundSequence + 1 < 2 ^ 64 then
              ({ bounded with nextOutboundSequence := session.nextOutboundSequence + 1, handshakeComplete := true },
                .ok (session.nextEnvelope .helloOk offer.brokerEpoch offer.connectionEpoch offer.fields))
            else (bounded, .error overflow)

def numberPost (kind : PostKind) (fields : List (String × Json)) :
    OutboundSession × Except NativeHostError HostEnvelope :=
  if !session.handshakeComplete then
    (session, .error (.unavailable "Native Messaging handshake is not complete"))
  else
    match session.brokerEpoch, session.connectionEpoch with
    | none, _ => (session, .error (.protocol "broker epoch is missing"))
    | some _, none => (session, .error (.protocol "connection epoch is missing"))
    | some brokerEpoch, some connectionEpoch =>
        if session.nextOutboundSequence + 1 < 2 ^ 64 then
          ({ session with nextOutboundSequence := session.nextOutboundSequence + 1 },
            .ok (session.nextEnvelope (.post kind) brokerEpoch connectionEpoch fields))
        else (session, .error overflow)

/-- Why `write_envelope_unlocked` does not reach the writer. -/
def refusal (checks : EnvelopeChecks) (envelope : HostEnvelope) : Option NativeHostError :=
  match checks.validateNativeShape envelope.toValue envelope.kind.asStr with
  | .error error => some error
  | .ok () =>
      match checks.assertNoRawBrowserIdentifiers envelope.toValue with
      | .error error => some error
      | .ok () =>
          match checks.toVec envelope.toValue with
          | none => some (.protocol "Native Messaging envelope is not JSON")
          | some payload =>
              if session.maxControlBytes < payload.length ∨ 2 ^ 32 ≤ payload.length then some .messageTooLarge
              else none

end OutboundSession

namespace NativeOutbound

variable (checks : EnvelopeChecks) (host : NativeOutbound)

/-- The state after `accept`, with the hello of the extension. -/
def accepted (hello : NativeHello) : NativeOutbound where
  session :=
    { hello, brokerEpoch := none, connectionEpoch := none, nextOutboundSequence := 1, handshakeComplete := false,
      maxControlBytes := 1024 * 1024 }
  holder := none
  threads := []
  wire := []

def reach (index : Nat) (thread : OutboundThread) (phase : OutboundPhase) : NativeOutbound :=
  { host with threads := host.threads.set index { thread with phase } }

def writeEnvelopeUnlocked (envelope : HostEnvelope) (outcome : WriterOutcome) :
    List HostEnvelope × Except NativeHostError Unit :=
  match host.session.refusal checks envelope with
  | some error => ([], .error error)
  | none =>
      match outcome with
      | .written => ([envelope], .ok ())
      | .unflushed => ([envelope], .error nativeWriteFailed)
      | .torn => ([], .error nativeWriteFailed)

def acceptStep (index : Nat) (thread : OutboundThread) : Option NativeOutbound :=
  match thread.task, thread.phase with
  | .handshake offer, .asked =>
      match host.session.acceptHandshake offer with
      | (session, .ok envelope) => some ({ host with session }.reach index thread (.numbered envelope))
      | (session, .error error) => some ({ host with session }.reach index thread (.ended (.error error)))
  | _, _ => none

def lockStep (index : Nat) (thread : OutboundThread) : Option NativeOutbound :=
  if host.holder.isSome then none
  else
    match thread.task, thread.phase with
    | .post _ _, .asked => some ({ host with holder := some index }.reach index thread .locked)
    | .handshake _, .numbered envelope =>
        some ({ host with holder := some index }.reach index thread (.ready envelope))
    | _, _ => none

def numberStep (index : Nat) (thread : OutboundThread) : Option NativeOutbound :=
  match thread.task, thread.phase with
  | .post kind fields, .locked =>
      match host.session.numberPost kind fields with
      | (session, .ok envelope) => some ({ host with session }.reach index thread (.ready envelope))
      | (session, .error error) =>
          some ({ host with session, holder := none }.reach index thread (.ended (.error error)))
  | _, _ => none

def writeStep (index : Nat) (thread : OutboundThread) (outcome : WriterOutcome) : Option NativeOutbound :=
  match thread.phase with
  | .ready envelope =>
      let (added, result) := host.writeEnvelopeUnlocked checks envelope outcome
      some ({ host with holder := none, wire := host.wire ++ added }.reach index thread (.ended result))
  | _ => none

def next (label : OutboundLabel) : Option NativeOutbound :=
  match label with
  | .ask task => some { host with threads := host.threads ++ [{ task, phase := .asked }] }
  | .accept index => (host.threads[index]?).bind fun thread => host.acceptStep index thread
  | .lock index => (host.threads[index]?).bind fun thread => host.lockStep index thread
  | .number index => (host.threads[index]?).bind fun thread => host.numberStep index thread
  | .write index outcome => (host.threads[index]?).bind fun thread => host.writeStep checks index thread outcome

end NativeOutbound

abbrev OutboundTrace : Type := List (Moment NativeOutbound OutboundLabel)

abbrev OutboundRun (checks : EnvelopeChecks) (start : NativeOutbound) : OutboundTrace -> NativeOutbound -> Prop :=
  Run (fun label before after => before.next checks label = some after) start

structure SequenceValidator where
  next : Nat

def SequenceValidator.accept (validator : SequenceValidator) (sequence : Nat) : Except String SequenceValidator :=
  if sequence = validator.next then .ok { next := validator.next + 1 }
  else if sequence < validator.next then .error "sequence_replayed"
  else .error "sequence_gap"

def SequenceValidator.acceptAll : SequenceValidator -> List Nat -> Except String SequenceValidator
  | validator, [] => .ok validator
  | validator, sequence :: rest =>
      match validator.accept sequence with
      | .ok later => later.acceptAll rest
      | .error code => .error code

end AgentycHost
