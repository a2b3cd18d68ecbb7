import AgentycHost.Broker.Actions
import AgentycHost.Core.Canonical
import AgentycHost.Shared.Runs

set_option autoImplicit false

/-!
# Requests of one Native Messaging connection

A caller registers the sender of its own channel under a fresh request id,
posts the frame and waits. The reader thread hands a reply to the sender it
finds under the id. The reader also takes the whole table when the connection
ends. The steps below are what happens under one lock, or on one channel.
-/

namespace AgentycHost

open Shared

inductive NativeHostError where
  | protocol (message : String)
  | unavailable (message : String)
  | timeout
  | originInvalid
  | messageTooLarge
  deriving DecidableEq

namespace NativeHostError

def text : NativeHostError -> String
  | .protocol message => "native messaging protocol rejected input: " ++ message
  | .unavailable message => "native messaging transport is unavailable: " ++ message
  | .timeout => "native messaging request timed out"
  | .originInvalid => "native messaging extension origin is invalid"
  | .messageTooLarge => "native messaging payload exceeds the bound"

def disconnected : NativeHostError := .unavailable "Native Messaging pipe closed"

def asCoreError (error : NativeHostError) : CoreError :=
  match error with
  | .timeout => .new .timeout error.text
  | .messageTooLarge => .new .messageTooLarge error.text
  | .protocol _ | .originInvalid => .new .protocolMismatch error.text
  | .unavailable _ => .new .nativeHostUnavailable error.text

end NativeHostError

def maxNativePendingRequests : Nat := 256
def maxNativeTimedOutRequests : Nat := 256

section Replies

def parseErrorCode (value : String) : ErrorCode :=
  match value with
  | "permission_denied" | "evaluate_denied" | "user_confirmation_required" => .permissionDenied
  | "user_control_required" => .userControlRequired
  | "stale_ref" => .staleRef
  | "target_replaced" => .targetReplaced
  | "stale_lease" => .staleLease
  | "page_not_found" => .pageNotFound
  | "element_not_found" => .staleRef
  | "capability_unavailable" | "upload_denied" => .capabilityUnavailable
  | "native_host_unavailable" => .nativeHostUnavailable
  | "message_too_large" => .messageTooLarge
  | "timeout" => .timeout
  | "unknown_outcome" => .unknownOutcome
  | "stale_generation" => .targetReplaced
  | "protocol_mismatch" => .protocolMismatch
  | _ => .invalidArgument

def responseResult (value : Json) : Except CoreError Json :=
  match value with
  | .object _ =>
      if value.boolAt "ok" = some true then .ok ((value.get "result").getD (.object []))
      else
        let code := ((value.get "error").bind fun error => error.strAt "code").map parseErrorCode
        let message := (value.get "error").bind fun error => error.strAt "message"
        .error (.new (code.getD .extensionNotConnected) (message.getD "extension request failed"))
  | _ => .error (.new .invalidJson "extension response is not an object")

end Replies

/-- `request_value` and `fence_request` go the same way and word their failures differently. -/
inductive NativeCallKind where
  | request
  | fence
  deriving DecidableEq

namespace NativeCallKind

def timedOut : NativeCallKind -> CoreError
  | .request => .new .unknownOutcome "Native Messaging response timed out after dispatch"
  | .fence => .new .timeout "Native Messaging fence acknowledgement timed out"

def disconnected : NativeCallKind -> CoreError
  | .request => .new .unknownOutcome "Native Messaging response channel disconnected after dispatch"
  | .fence => .new .extensionNotConnected "Native Messaging fence acknowledgement was disconnected"

end NativeCallKind

inductive NativeCallPhase where
  -- the call has its request id
  | named
  -- the sender is in the table
  | registered
  -- the post failed, the sender is still in the table
  | refused (error : NativeHostError)
  | waiting
  -- the wait ended without a message, the sender is still in the table
  | expired
  | orphaned
  -- a request that timed out and is not yet remembered
  | forgotten
  -- returned because of the timeout
  | lapsed
  | returned (outcome : Except CoreError Json)

structure NativeCall where
  kind : NativeCallKind
  -- the request id is `req_native_` and this number
  number : Nat
  phase : NativeCallPhase
  -- `sync_channel(1)`
  inbox : Option (Except NativeHostError Json)

def NativeCall.outcome (call : NativeCall) : Option (Except CoreError Json) :=
  match call.phase with
  | .returned outcome => some outcome
  | .lapsed => some (.error call.kind.timedOut)
  | _ => none

inductive PostResult where
  | written
  -- `write_all` wrote the frame and `flush` failed
  | unflushed
  -- the frame was refused, or not wholly written
  | refused (error : NativeHostError)
  deriving DecidableEq

inductive NativeReader where
  | listening
  -- holds the sender that it took from the table
  | handing (number target : Nat) (value : Json)
  -- found no sender
  | unmatched (number : Option Nat)
  -- is about to end the connection
  | failed (error : NativeHostError)
  | marked (error : NativeHostError)
  | notifying (error : NativeHostError) (targets : List Nat)
  | ended

structure NativeRequests where
  counter : Nat
  calls : List NativeCall
  -- the call that holds the receiver, under the number of its request id
  pending : Table Nat Nat
  -- the request ids that timed out, the one remembered first in front
  timedOut : List Nat
  closed : Option NativeHostError
  reader : NativeReader

inductive NativeLabel where
  | call (kind : NativeCallKind)
  -- a request id that becomes the id of a proof
  | spend
  | register (index : Nat)
  | post (index : Nat) (result : PostResult)
  | giveUp (index : Nat)
  | receive (index : Nat)
  | expire (index : Nat)
  | orphan (index : Nat)
  | remove (index : Nat)
  | remember (index : Nat)
  -- a response, an action result or a fence acknowledgement, by the number in its request id
  | answer (number : Option Nat) (value : Json)
  | deliver
  -- the pipe ended, or any other envelope was refused
  | fail (error : NativeHostError)
  | markClosed
  | drain
  | notify

def nameBefore (number other : Nat) : Bool := decide (Nat.toDigits 10 number < Nat.toDigits 10 other)

def leastName : List Nat -> Option Nat
  | [] => none
  | number :: rest =>
      match leastName rest with
      | none => some number
      | some other => if nameBefore number other then some number else some other

def noPendingRequest : NativeHostError := .protocol "response has no pending request"

def nativeWriteFailed : NativeHostError := .unavailable "Native Messaging write failed"

namespace NativeRequests

variable (host : NativeRequests)

def connected : NativeRequests where
  counter := 1
  calls := []
  pending := ∅
  timedOut := []
  closed := none
  reader := .listening

-- `fetch_add` wraps around
def issue : NativeRequests := { host with counter := (host.counter + 1) % 2 ^ 64 }

def setCall (index : Nat) (call : NativeCall) : NativeRequests := { host with calls := host.calls.set index call }

def reach (index : Nat) (call : NativeCall) (phase : NativeCallPhase) : NativeRequests :=
  host.setCall index { call with phase }

-- a message to a call that has returned is dropped, and so is one too many
def send (target : Nat) (message : Except NativeHostError Json) : NativeRequests :=
  match host.calls[target]? with
  | none => host
  | some call =>
      if call.outcome.isNone && call.inbox.isNone then host.setCall target { call with inbox := some message } else host

def reachable (index : Nat) : Bool :=
  host.pending.values.contains index ||
    match host.reader with
    | .handing _ target _ => target == index
    | .notifying _ targets => targets.contains index
    | _ => false

def register (index : Nat) (call : NativeCall) : NativeRequests :=
  if maxNativePendingRequests ≤ host.pending.size then
    host.reach index call
      (.returned (.error (.new .messageTooLarge "Native Messaging pending request bound reached")))
  else { host with pending := host.pending.insert call.number index }.reach index call .registered

def unregister (call : NativeCall) : NativeRequests := { host with pending := host.pending.erase call.number }

def remember (number : Nat) : NativeRequests :=
  let room :=
    if maxNativeTimedOutRequests ≤ host.timedOut.length then
      match leastName host.timedOut with
      | some oldest => host.timedOut.erase oldest
      | none => host.timedOut
    else host.timedOut
  { host with timedOut := if number ∈ room then room else room ++ [number] }

def callStep (index : Nat) (call : NativeCall) (label : NativeLabel) : Option NativeRequests :=
  match call.phase, label with
  | .named, .register _ => some (host.register index call)
  | .registered, .post _ .written => some (host.reach index call .waiting)
  | .registered, .post _ .unflushed => some (host.reach index call (.refused nativeWriteFailed))
  | .registered, .post _ (.refused error) => some (host.reach index call (.refused error))
  | .refused error, .giveUp _ => some ((host.unregister call).reach index call (.returned (.error error.asCoreError)))
  | .waiting, .receive _ =>
      match call.inbox with
      | some (.ok value) => some (host.reach index call (.returned (responseResult value)))
      | some (.error error) => some (host.reach index call (.returned (.error error.asCoreError)))
      | none => none
  | .waiting, .expire _ => if call.inbox.isNone then some (host.reach index call .expired) else none
  | .waiting, .orphan _ =>
      if call.inbox.isNone && !host.reachable index then some (host.reach index call .orphaned) else none
  | .expired, .remove _ =>
      match call.kind with
      | .request => some ((host.unregister call).reach index call .forgotten)
      | .fence => some ((host.unregister call).reach index call .lapsed)
  | .orphaned, .remove _ =>
      some ((host.unregister call).reach index call (.returned (.error call.kind.disconnected)))
  | .forgotten, .remember _ => some ((host.remember call.number).reach index call .lapsed)
  | _, _ => none

def readerStep (label : NativeLabel) : Option NativeRequests :=
  match host.reader, label with
  | .listening, .answer number value =>
      match number with
      | none => some { host with reader := .unmatched none }
      | some number =>
          match host.pending.get? number with
          | some target =>
              some { host with pending := host.pending.erase number, reader := .handing number target value }
          | none => some { host with reader := .unmatched (some number) }
  | .handing _ target value, .deliver => some { host.send target (.ok value) with reader := .listening }
  | .unmatched (some number), .deliver =>
      if number ∈ host.timedOut then
        some { host with timedOut := host.timedOut.erase number, reader := .listening }
      else some { host with reader := .failed noPendingRequest }
  | .unmatched none, .deliver => some { host with reader := .failed noPendingRequest }
  | .listening, .fail error => some { host with reader := .failed error }
  | .failed error, .markClosed => some { host with closed := some (host.closed.getD error), reader := .marked error }
  | .marked error, .drain => some { host with pending := ∅, reader := .notifying error host.pending.values }
  | .notifying error (target :: rest), .notify =>
      some { host.send target (.error error) with reader := .notifying error rest }
  | .notifying _ [], .notify => some { host with reader := .ended }
  | _, _ => none

def next (label : NativeLabel) : Option NativeRequests :=
  match label with
  | .call kind =>
      some { host.issue with calls := host.calls ++ [{ kind, number := host.counter, phase := .named, inbox := none }] }
  | .spend => some host.issue
  | .register index | .post index _ | .giveUp index | .receive index | .expire index | .orphan index | .remove index
  | .remember index =>
      (host.calls[index]?).bind fun call => host.callStep index call label
  | .answer .. | .deliver | .fail _ | .markClosed | .drain | .notify => host.readerStep label

end NativeRequests

abbrev NativeTrace : Type := List (Moment NativeRequests NativeLabel)

abbrev NativeRun (start : NativeRequests) : NativeTrace -> NativeRequests -> Prop :=
  Run (fun label before after => before.next label = some after) start

/-- The two error arms of `NativeMessagingBridge::dispatch`. -/
def reportNativeFailure (error : CoreError) : BridgeDispatchResult :=
  if error.code = .unknownOutcome then .unknown .bridgeLost else .failed error.code error.retryable

def createdTab (outcome : Except CoreError Json) : Except CoreError Unit :=
  match outcome with
  | .error error => .error error
  | .ok (.object [("created", .bool true)]) => .ok ()
  | .ok _ => .error (.new .protocolMismatch "extension tab creation response is invalid")

end AgentycHost
