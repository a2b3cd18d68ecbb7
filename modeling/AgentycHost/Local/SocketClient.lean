import AgentycHost.Core.Texts
import AgentycHost.Local.Server
import AgentycHost.Shared.Runs

set_option autoImplicit false

/-!
# The client of the local socket

One call at a time holds the stream: it writes its request and takes the next
frame that comes. Frames that come together wait in a queue for later calls, and
so does the beginning of a frame in the decoder.
-/

namespace AgentycHost

open Shared

inductive ClientError where
  | host (error : HostError)
  | json
  | frame (error : FrameError)
  | transport

def ClientError.claimsRefusal : ClientError -> Bool
  | .host (.core _) => true
  | _ => false

section Responses

structure ResponseReader where
  fromSlice : List UInt8 -> Option Json
  fromValue : Json -> Option (Option ResponseEnvelope)

def legacyChild (child : Json) : Json :=
  match child with
  | .string text => .string text
  | other => .string (String.ofList other.render)

def legacyField (field : String × Json) : String × Json :=
  match field.2 with
  | .object results =>
      if field.1 = "result" then (field.1, .object (results.map fun child => (child.1, legacyChild child.2))) else field
  | _ => field

def legacyWireValue (value : Json) : Json :=
  match value with
  | .object fields => if value.strAt "kind" = some "response" then .object (fields.map legacyField) else value
  | _ => value

def legacyResponse (reader : ClientReader) (response : ResponseEnvelope) : Except HostError Json := do
  let value ← responseToWireValue reader response
  validateWireEnvelope value
  pure (legacyWireValue value)

namespace ResponseReader

variable (reader : ResponseReader)

def read (payload : List UInt8) : Except ClientError ResponseEnvelope := do
  let value ← orElse (reader.fromSlice payload) .json
  (validateWireEnvelope value).mapError .host
  let envelope ← orElse (reader.fromValue (legacyWireValue value)) .json
  orElse envelope (.host (.new .protocolMismatch "local host returned a non-response envelope"))

def outcome (response : ResponseEnvelope) : Except ClientError StringMap :=
  if response.ok then .ok (response.result.getD ∅)
  else .error (.host (.core (response.error.getD (.new .invalidJson "local host returned an empty error"))))

def answer (requestId : RequestId) (payload : List UInt8) : Except ClientError StringMap := do
  let response ← reader.read payload
  require (response.protocol == protocolVersion && response.requestId == requestId)
    (.host (.new .protocolMismatch "local host response correlation is invalid"))
  outcome response

end ResponseReader

end Responses

section Calls

theorem local_identifier {count : Nat} (counted : count ≤ u64Max) :
    validateIdentifier "req_" ("local-" ++ toString count) = true := by
  have lead : bytes "local-" = [108, 111, 99, 97, 108, 45] := by decide
  exact counted_identifier lead (by decide) (by decide) (by decide) counted

theorem wrapped_counted (count : Nat) : count % 2 ^ 64 ≤ u64Max := by
  unfold u64Max
  omega

def localRequestId (number : Nat) : RequestId :=
  ⟨"local-" ++ toString (number % 2 ^ 64), local_identifier (wrapped_counted number)⟩

inductive CallEnd where
  | took (payload : List UInt8)
  -- its own write or read failed
  | lapsed
  -- the decoder refused what came
  | jammed
  deriving DecidableEq

structure SocketCall where
  number : Nat
  ending : CallEnd
  outcome : Except ClientError StringMap

structure SocketClient where
  decoder : FrameDecoder
  queued : List (List UInt8)
  requestCounter : Nat
  -- the calls that wait for the stream
  drawn : List Nat
  holder : Option Nat
  -- the calls that the host has still to answer
  awaiting : List Nat
  -- the bytes that the host has written and the client has not read
  inFlight : List UInt8
  answers : List (Nat × List UInt8)
  ended : List SocketCall

inductive SocketLabel where
  | draw
  -- `reached` says that the host gets the request, `passed` that the write succeeds
  | write (number : Nat) (reached passed : Bool)
  | respond (number : Nat) (payload : List UInt8)
  -- a frame that is queued
  | take
  | receive (count : Nat)
  -- the read runs out of time, or fails
  | fail
  | close

namespace SocketClient

variable (reader : ResponseReader) (client : SocketClient)

def connected : SocketClient where
  decoder := .new defaultMaxFramePayloadBytes
  queued := []
  requestCounter := 1
  drawn := []
  holder := none
  awaiting := []
  inFlight := []
  answers := []
  ended := []

def endCall (call : SocketCall) : SocketClient :=
  { client with holder := none, ended := call :: client.ended }

def endWith (number : Nat) (payload : List UInt8) : SocketClient :=
  client.endCall ⟨number, .took payload, reader.answer (localRequestId number) payload⟩

def draw : SocketClient :=
  { client with
    requestCounter := client.requestCounter + 1
    drawn := client.drawn ++ [client.requestCounter] }

def write (number : Nat) (reached passed : Bool) : SocketClient :=
  let client := { client with
    drawn := client.drawn.erase number
    awaiting := if reached then client.awaiting ++ [number] else client.awaiting }
  if passed then { client with holder := some number }
  else client.endCall ⟨number, .lapsed, .error .transport⟩

def receive (number count : Nat) : SocketClient :=
  let (decoder, fed) := client.decoder.feed (client.inFlight.take count)
  let client := { client with decoder, inFlight := client.inFlight.drop count }
  match fed with
  | .error error => client.endCall ⟨number, .jammed, .error (.frame error)⟩
  | .ok [] => client
  | .ok (first :: rest) => { client with queued := rest }.endWith reader number first

def closed (number : Nat) : SocketClient :=
  match client.decoder.finish with
  | .ok () => client.endCall ⟨number, .lapsed, .error .transport⟩
  | .error error => client.endCall ⟨number, .lapsed, .error (.frame error)⟩

def respond (number : Nat) (payload frame : List UInt8) : SocketClient :=
  { client with
    awaiting := client.awaiting.erase number
    inFlight := client.inFlight ++ frame
    answers := (number, payload) :: client.answers }

def next (label : SocketLabel) : Option SocketClient :=
  match label, client.holder with
  | .draw, _ => some client.draw
  | .write number reached passed, none =>
      if number ∈ client.drawn ∧ (passed = true -> reached = true) then some (client.write number reached passed)
      else none
  | .respond number payload, _ =>
      if number ∈ client.awaiting then
        match encodeFrame payload defaultMaxFramePayloadBytes with
        | .ok frame => some (client.respond number payload frame)
        | .error _ => none
      else none
  | .take, some number =>
      match client.queued with
      | payload :: rest => some ({ client with queued := rest }.endWith reader number payload)
      | [] => none
  | .receive count, some number =>
      if client.queued = [] ∧ 0 < count ∧ count ≤ client.inFlight.length then some (client.receive reader number count)
      else none
  | .fail, some number =>
      if client.queued = [] then some (client.endCall ⟨number, .lapsed, .error .transport⟩) else none
  | .close, some number => if client.queued = [] then some (client.closed number) else none
  | _, _ => none

end SocketClient

abbrev SocketRun (reader : ResponseReader) (start : SocketClient) :
    List (Moment SocketClient SocketLabel) -> SocketClient -> Prop :=
  Run (fun label before after => before.next reader label = some after) start

end Calls

end AgentycHost
