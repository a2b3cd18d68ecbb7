import AgentycHost.Local.Server
import AgentycHost.Shared.Runs

set_option autoImplicit false

/-!
# One local connection and its workers

The thread of a connection takes one frame after the other and runs every
request itself, but for waits: each of them runs in a worker with a dispatcher
of its own. Only the cancellation tokens are shared.
-/

namespace AgentycHost

open Shared

inductive TaskPhase where
  | forked
  -- tracked, with its token
  | entered (token : Nat)
  | running (token : Nat)
  -- executed, the token not yet cleared
  | decided (outcome : Except CoreError StringMap)
  | ended

structure Task where
  frame : Nat
  request : RequestEnvelope
  phase : TaskPhase

/-- What is seen of a connection. `frame` counts the requests that came in. -/
inductive Occurrence where
  | received (frame : Nat) (requestId : RequestId)
  | executed (frame : Nat) (requestId : RequestId)
  | answered (frame : Nat) (requestId : RequestId) (ok : Bool)
  | cancelAnswered (requestId : RequestId) (ok : Bool)
  deriving DecidableEq

/-- The steps of a thread through `handle_request`, up to the writing of the answer. -/
inductive TaskStep where
  | enter
  | start (late : Bool)
  | decide (outcome : Except CoreError StringMap)
  | finish (written : Bool)

structure Thread where
  server : ProtocolServer
  tokens : CancellationTokens
  task : Task

def RequestEnvelope.isWait (request : RequestEnvelope) : Bool := request.method == "wait.for"

namespace Thread

variable (thread : Thread)

def reach (phase : TaskPhase) : Thread := { thread with task := { thread.task with phase } }

def requestId : RequestId := thread.task.request.requestId

def mayDecide (token : Nat) (outcome : Except CoreError StringMap) : Bool :=
  !(thread.task.request.isWait && thread.tokens.isCancelled token && outcome.toBool)

def next (step : TaskStep) : Option (Thread × List Occurrence) :=
  match thread.task.phase, step with
  | .forked, .enter =>
      match (ClientEnvelope.request thread.task.request).validateTypedEnvelope with
      | .error _ => some (thread.reach .ended, [])
      | .ok () =>
          match thread.server.track thread.task.request with
          | .error _ => some (thread.reach .ended, [.answered thread.task.frame thread.requestId false])
          | .ok server =>
              let (tokens, token) := thread.tokens.token thread.requestId
              some ({ thread with server, tokens }.reach (.entered token), [])
  | .entered token, .start late =>
      if thread.tokens.isCancelled token then
        some (thread.reach (.decided (.error (.new .cancelled "request was cancelled before dispatch"))), [])
      else if thread.task.request.deadlineMs.isSome && late then
        some (thread.reach (.decided (.error (.new .timeout "request deadline elapsed before dispatch"))), [])
      else some (thread.reach (.running token), [.executed thread.task.frame thread.requestId])
  | .running token, .decide outcome =>
      if thread.mayDecide token outcome then some (thread.reach (.decided outcome), []) else none
  | .decided outcome, .finish written =>
      some ({ thread with
          server := thread.server.complete thread.requestId
          tokens := thread.tokens.clear thread.requestId }.reach .ended,
        if written then [.answered thread.task.frame thread.requestId outcome.toBool] else [])
  | _, _ => none

end Thread

structure LocalConnection where
  server : ProtocolServer
  tokens : CancellationTokens
  isOpen : Bool
  -- the request that the connection's own thread runs
  current : Option Task
  workers : List (ProtocolServer × Task)
  frames : Nat
  -- what was seen, the latest first
  seen : List Occurrence

inductive ConnectionLabel where
  | frame (envelope : ClientEnvelope) (spawned : Bool)
  -- hello, resume and the artifact envelopes
  | other (connection : Option HostConnection)
  | hangUp
  | main (step : TaskStep)
  | worker (index : Nat) (step : TaskStep)

namespace LocalConnection

variable (connection : LocalConnection)

def accepted (server : ProtocolServer) : LocalConnection where
  server := server.fork
  tokens := { byRequest := ∅, cancelled := [], issued := 0 }
  isOpen := true
  current := none
  workers := []
  frames := 0
  seen := []

/-- `cancel_all` and `close`: workers go on with cancelled tokens. -/
def hangUp : LocalConnection :=
  { connection with
    server := { connection.server with connection := none }
    tokens := connection.tokens.cancelAll
    isOpen := false }

def takeRequest (request : RequestEnvelope) (spawned : Bool) : LocalConnection :=
  let task : Task := { frame := connection.frames, request, phase := .forked }
  let received := Occurrence.received connection.frames request.requestId
  let taken := { connection with frames := connection.frames + 1, seen := received :: connection.seen }
  if request.isWait then
    if spawned then { taken with workers := connection.workers ++ [(connection.server.fork, task)] }
    else { connection with server := { connection.server with connection := none }, isOpen := false }
  else
    match (ClientEnvelope.request request).validateTypedEnvelope with
    | .error _ => connection.hangUp
    | .ok () => { taken with current := some task }

def takeCancel (cancel : CancelEnvelope) : LocalConnection :=
  match cancel.validate with
  | .error _ => connection.hangUp
  | .ok () =>
      let (session, response) := Session.handleCancel ⟨connection.server, connection.tokens, ()⟩ cancel.requestId
      { connection with
        server := session.server
        tokens := session.tokens
        seen := .cancelAnswered cancel.requestId response.ok :: connection.seen }

def takeFrame (envelope : ClientEnvelope) (spawned : Bool) : LocalConnection :=
  match envelope with
  | .request request => connection.takeRequest request spawned
  | .cancel cancel => connection.takeCancel cancel

def runMain (step : TaskStep) : Option LocalConnection := do
  let task ← connection.current
  let (thread, seen) ← (Thread.mk connection.server connection.tokens task).next step
  let after : LocalConnection := { connection with
    server := thread.server
    tokens := thread.tokens
    seen := seen ++ connection.seen }
  match thread.task.phase, step with
  | .ended, .finish false => pure { after with current := none }.hangUp
  | .ended, _ => pure { after with current := none }
  | _, _ => pure { after with current := some thread.task }

def runWorker (index : Nat) (step : TaskStep) : Option LocalConnection := do
  let (server, task) ← connection.workers[index]?
  let (thread, seen) ← (Thread.mk server connection.tokens task).next step
  pure { connection with
    tokens := thread.tokens
    workers := connection.workers.set index (thread.server, thread.task)
    seen := seen ++ connection.seen }

def next (label : ConnectionLabel) : Option LocalConnection :=
  let ready := connection.isOpen && connection.current.isNone
  match label with
  | .frame envelope spawned => if ready then some (connection.takeFrame envelope spawned) else none
  | .other peer =>
      if ready then some { connection with server := { connection.server with connection := peer } } else none
  | .hangUp => if ready then some connection.hangUp else none
  | .main step => connection.runMain step
  | .worker index step => connection.runWorker index step

end LocalConnection

abbrev ConnectionRun (start : LocalConnection) :
    List (Moment LocalConnection ConnectionLabel) -> LocalConnection -> Prop :=
  Run (fun label before after => before.next label = some after) start

end AgentycHost
