import AgentycHost.Broker.EventRouter
import AgentycHost.Shared.Runs
import AgentycHost.System.Runs

set_option autoImplicit false

/-!
# Runs of an event router
-/

namespace AgentycHost

open Shared

inductive RouterCommand where
  | ingest (event : EventRecord)
  | ingestBatch (batch : EventBatch)
  | requestResync
  | reset (cursor : EventCursor)

def RouterCommand.offers : RouterCommand -> List EventRecord
  | .ingest event => [event]
  | .ingestBatch batch => batch.events
  | .requestResync | .reset _ => []

def EventRouter.follow (router : EventRouter) : RouterCommand -> EventRouter
  | .ingest event => (router.ingest event).1
  | .ingestBatch batch => (router.ingestBatch batch).1
  | .requestResync => router.requestResync
  | .reset cursor => router.reset cursor

abbrev RouterMoment := Moment EventRouter RouterCommand

abbrev RouterRun (cursor : EventCursor) (limits : RouterLimits) : List RouterMoment -> EventRouter -> Prop :=
  Run (fun command before after => before.follow command = after) (.newAt cursor limits)

structure RoutedHost where
  host : System
  router : EventRouter

def RoutedHost.state (routed : RoutedHost) : LedgerState := routed.host.ledger.state

def RoutedHost.cursor (routed : RoutedHost) : EventCursor :=
  { brokerEpoch := routed.state.brokerEpoch, sequence := routed.state.eventSequence }

def RoutedHost.opened (config : HostConfig) (host : System) : RoutedHost where
  host := host
  router := eventRouterFromLedger config.ledger.limits host.ledger.state

def Command.isRestart : Command -> Bool
  | .restart _ => true
  | _ => false

def routedNext (config : HostConfig) (label : Label) (routed : RoutedHost) : Option RoutedHost :=
  (next config label routed.host).map fun host =>
    if label.2.isRestart then .opened config host
    else { host, router := syncEventRouter routed.router host.ledger.state }

abbrev RoutedRun (config : HostConfig) : RoutedHost -> List (Moment RoutedHost Label) -> RoutedHost -> Prop :=
  Run fun label before after => routedNext config label before = some after

structure CommitsEvent (moment : Moment RoutedHost Label) (event : EventRecord) : Prop where
  recorded : event ∈ moment.after.state.events
  new : moment.before.state.eventSequence < event.sequence

end AgentycHost

/-!
# Reading events page by page

A client asks for the events after its cursor and goes on from the cursor of
the answer. The answer is cut to a limit after the broker has made its batch.
-/

namespace AgentycHost

open Shared

def maxEventLimit : Nat := 1024

def parseLimit (limit : Option Nat) : Nat :=
  match limit with
  | none => maxEventLimit
  | some value => min value maxEventLimit

def eventCursor (authority : AuthorityTicket) (state : LedgerState) : Except HostError EventCursor := do
  authorizeTicket state authority
  pure { brokerEpoch := state.brokerEpoch, sequence := state.eventSequence }

/-- The parameters of `events.read`. -/
structure EventRead where
  afterEpoch : Option Nat
  afterSequence : Option Nat
  scope : Option EventScope
  limit : Option Nat

structure EventAnswer where
  brokerEpoch : BrokerEpoch
  cursor : EventCursor
  resume : ResumeResult
  events : List EventRecord
  deriving DecidableEq

def readEvents (router : EventRouter) (authority : AuthorityTicket) (read : EventRead) (state : LedgerState) :
    Except HostError EventAnswer := do
  let current ← eventCursor authority state
  let after : EventCursor :=
    { brokerEpoch := read.afterEpoch.getD current.brokerEpoch, sequence := read.afterSequence.getD 0 }
  let batch ← resumeEvents router authority { after, scope := read.scope } state
  pure {
    brokerEpoch := batch.brokerEpoch
    cursor := batch.cursor
    resume := batch.result
    events := batch.events.take (parseLimit read.limit) }

structure Reader where
  routed : RoutedHost
  cursor : EventCursor
  received : List EventRecord

inductive ReaderLabel where
  | host (label : Label)
  | read (limit : Option Nat)

section Steps

variable (config : HostConfig) (authority : AuthorityTicket) (scope : Option EventScope)

def Reader.answer (reader : Reader) (limit : Option Nat) : Except HostError EventAnswer :=
  readEvents reader.routed.router authority
    { afterEpoch := some reader.cursor.brokerEpoch, afterSequence := some reader.cursor.sequence, scope, limit }
    reader.routed.state

def readerNext (label : ReaderLabel) (reader : Reader) : Option Reader :=
  match label with
  | .host label => (routedNext config label reader.routed).map fun routed => { reader with routed }
  | .read limit =>
      match reader.answer authority scope limit with
      | .error _ => some reader
      | .ok answer =>
          if answer.resume = .accepted then
            some { reader with cursor := answer.cursor, received := reader.received ++ answer.events }
          else none

abbrev ReaderMoment := Moment Reader ReaderLabel

abbrev ReaderRun : Reader -> List ReaderMoment -> Reader -> Prop :=
  Run fun label before after => readerNext config authority scope label before = some after

end Steps

end AgentycHost
