import AgentycHost.Broker.WaitConditions

set_option autoImplicit false

/-!
# Waits

A wait takes the cursor of the router when it is registered and reads, at every
poll, what the router has recorded since. It observes the events one by one; the
conditions on quiet times and on responses keep a state of their own.
-/

namespace AgentycHost

open Shared

structure WaitState where
  networkActive : Table String Bool := ∅
  networkQuietSince : Option Timestamp := none
  domQuietSince : Option Timestamp := none
  geometryQuietSince : Option Timestamp := none
  geometrySignature : Option String := none
  requestMetadata : Table String RequestMetadata := ∅
  pendingResponses : Table String EventRecord := ∅
  matchedEvent : Option EventRecord := none
  lastEvent : Option EventRecord := none
  lastObservedAt : Option Timestamp := none

/-- The metadata that `observe_request_metadata` reads off a request event. -/
def EventRecord.requestMetadata (event : EventRecord) : RequestMetadata where
  url := (event.payloadValue ["url", "href"]).getD ""
  method := (event.payloadValue ["method"]).getD ""
  resourceType := (event.payloadValue EventRecord.resourceTypeKeys).getD ""

namespace WaitState

def new (now : Timestamp) : WaitState :=
  { networkQuietSince := some now, domQuietSince := some now, geometryQuietSince := some now,
    lastObservedAt := some now }

section Observing

variable (state : WaitState) (event : EventRecord) (now : Timestamp) (condition : WaitCondition)
  (response : ResponseWait)

/-- The time of an event: its own stamp, and never before the poll or what was observed. -/
def effectiveTime : Timestamp :=
  let stamp := (event.payloadValue ["timestamp", "at"]).bind (parseUnsigned u64Max)
  let eventTime := stamp.getD now
  max (max (state.lastObservedAt.getD eventTime) eventTime) now

def observeNetwork : WaitState :=
  match event.requestId with
  | none => state
  | some requestId =>
      if event.networkRequestStarted then
        if event.excludedNetworkEvent then state
        else { state with networkActive := state.networkActive.insert requestId false, networkQuietSince := none }
      else if event.networkRequestFinished then
        let networkActive := state.networkActive.erase requestId
        { state with
          networkActive
          networkQuietSince := if networkActive.entries.isEmpty then some now else state.networkQuietSince }
      else state

def observeRequestMetadata : WaitState :=
  if !event.requestEvent then state
  else
    match event.requestId with
    | none => state
    | some requestId =>
        let pending := state.pendingResponses.get? requestId
        let accepted := pending.filter fun pending =>
          typedEventMatchesResponse response pending (some event.requestMetadata)
        { state with
          requestMetadata := state.requestMetadata.insert requestId event.requestMetadata
          pendingResponses := state.pendingResponses.erase requestId
          matchedEvent := accepted.or state.matchedEvent }

def observeResponse : WaitState :=
  if !event.responseEvent then state
  else
    let requestId := event.requestId.getD ""
    let metadata := state.requestMetadata.get? requestId
    let state :=
      if typedEventMatchesResponse response event metadata then { state with matchedEvent := some event }
      -- the response is kept until its request arrives
      else if requestId ≠ "" then
        { state with pendingResponses := state.pendingResponses.insert requestId event }
      else state
    if requestId ≠ "" then
      { state with requestMetadata := state.requestMetadata.insert requestId (metadata.getD {}) }
    else state

def observeDom : WaitState :=
  let state := if event.domMutationEvent then { state with domQuietSince := some now } else state
  if event.geometryEvent then
    let signature := event.payloadValue ["geometry_signature", "geometry"]
    if signature ≠ state.geometrySignature then
      { state with geometrySignature := signature, geometryQuietSince := some now }
    else { state with geometryQuietSince := state.geometryQuietSince.or (some now) }
  else state

/-- Take in one event; the typed conditions on single events test here what `matches` tests. -/
def observe : WaitState :=
  let time := state.effectiveTime event now
  let state := { state with lastObservedAt := some time, lastEvent := some event }
  match condition with
  | .networkIdle _ => state.observeNetwork event time
  | .response response => (state.observeRequestMetadata event response).observeResponse event response
  | .stableDom _ => state.observeDom event time
  | condition => if condition.matches event then { state with matchedEvent := some event } else state

def quiet : Bool :=
  match condition with
  | .networkIdle config =>
      state.networkActive.entries.isEmpty && state.networkQuietSince.any fun since => decide (config.quietFor ≤ now - since)
  | .stableDom config =>
      (state.domQuietSince.any fun since => decide (config.quietFor ≤ now - since)) &&
        state.geometryQuietSince.any fun since => decide (config.geometryQuietFor ≤ now - since)
  | _ => false

def satisfied : Bool := state.matchedEvent.isSome || state.quiet now condition

def matched : Option EventRecord := state.matchedEvent.or state.lastEvent

end Observing

end WaitState

inductive WaitOutcome where
  | pending (cursor : EventCursor)
  | matched (event : EventRecord) (cursor : EventCursor)
  | resyncRequired (cursor : EventCursor)
  | cancelled (cursor : EventCursor)
  | deadlineExceeded (cursor : EventCursor)
  deriving DecidableEq

structure WaitRegistration where
  id : Nat
  registeredAfter : EventCursor
  cursor : EventCursor
  condition : WaitCondition
  scope : Option EventScope
  deadline : Timestamp
  registeredAt : Timestamp
  state : WaitState
  finished : Bool

structure WaitEngine where
  nextId : Nat := 1

def WaitEngine.registerScoped (engine : WaitEngine) (now : Timestamp) (router : EventRouter) (condition : WaitCondition)
    (scope : Option EventScope) (deadline : Timestamp) : WaitEngine × WaitRegistration :=
  ({ nextId := min (engine.nextId + 1) u64Max },
    { id := engine.nextId, registeredAfter := router.cursor, cursor := router.cursor, condition, scope, deadline,
      registeredAt := now, state := .new now, finished := false })

namespace WaitRegistration

variable (registration : WaitRegistration) (now : Timestamp)

def settle : WaitRegistration × Option WaitOutcome :=
  if registration.state.satisfied now registration.condition then
    ({ registration with finished := true },
      registration.state.matched.map fun event => .matched event registration.cursor)
  else (registration, none)

def advancedTo (cursor : EventCursor) : WaitRegistration := { registration with cursor }

def observing (event : EventRecord) : WaitRegistration :=
  { registration with state := registration.state.observe event now registration.condition }

def observeBatch (registration : WaitRegistration) : List EventRecord -> WaitRegistration × Option WaitOutcome
  | [] => (registration, none)
  | event :: rest =>
      if event.resyncRequired || event.signalsResync then
        ({ registration with finished := true }, some (.resyncRequired registration.cursor))
      else
        match (registration.observing now event).settle now with
        | (settled, some outcome) => (settled, some outcome)
        | (settled, none) => observeBatch settled rest

def watch (events : List EventRecord) : WaitRegistration × WaitOutcome :=
  match registration.observeBatch now events with
  | (registration, some outcome) => (registration, outcome)
  | (registration, none) =>
      match registration.settle now with
      | (settled, some outcome) => (settled, outcome)
      | (settled, none) => (settled, .pending settled.cursor)

/-- `poll`, where `clock` is the engine's clock and `cancelled` the state of the token. -/
def poll (clock : Timestamp) (cancelled : Bool) (router : EventRouter) : WaitRegistration × WaitOutcome :=
  let ended := { registration with finished := true }
  let now := max clock registration.registeredAt
  let batch := router.replay registration.cursor registration.scope
  if registration.finished then (registration, .pending registration.cursor)
  else if cancelled then (ended, .cancelled registration.cursor)
  else if registration.deadline ≤ now then (ended, .deadlineExceeded registration.cursor)
  else if batch.result = .resyncRequired then (ended, .resyncRequired batch.cursor)
  else (registration.advancedTo batch.cursor).watch now batch.events

end WaitRegistration

end AgentycHost
