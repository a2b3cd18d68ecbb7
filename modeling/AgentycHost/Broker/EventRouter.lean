import AgentycHost.Broker.Authority
import Mathlib.Data.Finset.Basic

set_option autoImplicit false

/-!
# The event router

A bounded replay buffer over the events of the broker. Neighbouring page and
snapshot events of one scope and one origin are merged into one record, which
keeps the number of the first of them as its start.
-/

namespace AgentycHost

open Shared

structure EventCursor where
  brokerEpoch : BrokerEpoch
  sequence : EventSequence
  deriving DecidableEq

inductive ResumeResult where
  | accepted
  | resyncRequired
  deriving DecidableEq

structure EventQuery where
  after : EventCursor
  scope : Option EventScope

structure EventBatch where
  brokerEpoch : BrokerEpoch
  result : ResumeResult
  events : List EventRecord
  cursor : EventCursor
  deriving DecidableEq

def EventScope.matchesScope (scope requested : EventScope) : Bool :=
  scope.valid && requested.valid && (requested.spaceId.all fun id => scope.spaceId == some id) &&
    requested.pageId.all fun id => scope.pageId == some id

namespace EventRecord

def attribution (record : EventRecord) : Option EventAttribution := record.generation.metadata.map (·.attribution)

def coalescedCount (record : EventRecord) : Option Nat := record.generation.metadata.bind (·.coalescedCount)

end EventRecord

structure RouterLimits where
  maxEvents : Nat
  coalesceDirtyEvents : Bool
  deriving DecidableEq

def RouterLimits.new (maxEvents : Nat) : RouterLimits := { maxEvents, coalesceDirtyEvents := true }

inductive RouterResyncReason where
  | brokerEpochChanged
  | sequenceGap
  | retainedHistoryLagged
  | missingAttribution
  | invalidEvent
  | sequenceOverflow
  | invalidBatchCursor
  | brokerResync
  | explicit
  deriving DecidableEq

inductive RouterIngest where
  | accepted (cursor : EventCursor)
  | resyncRequired (cursor : EventCursor) (reason : RouterResyncReason)
  deriving DecidableEq

structure EventRouter where
  brokerEpoch : BrokerEpoch
  sequence : EventSequence
  events : List EventRecord
  retainedStarts : List EventSequence
  seenEventIds : Finset EventId
  seenEventOrder : List EventId
  limits : RouterLimits
  resyncRequired : Bool
  resyncReason : Option RouterResyncReason

def isCoalescible : EventKind -> Bool
  | .pageChanged | .snapshotChanged => true
  | _ => false

def scopeMatches (event : EventRecord) (requested : EventScope) : Bool :=
  if event.resyncRequired && event.scope.spaceId.isNone && event.scope.pageId.isNone then true
  else if requested.pageId.isSome && (requested.spaceId.isNone || event.scope.pageId.isNone) then false
  else if requested.spaceId.isSome && event.scope.spaceId.isNone then false
  else if event.scope.pageId.isSome && event.scope.spaceId.isNone then false
  else event.scope.matchesScope requested

def mergesInto (previous event : EventRecord) : Bool :=
  isCoalescible previous.event && previous.event == event.event && previous.scope == event.scope &&
    previous.attribution == event.attribution

def maxCoalescedCount : Nat := 1024

def mergedCount (previous event : EventRecord) : Nat :=
  max (min (min (previous.coalescedCount.getD 1 + event.coalescedCount.getD 1) 65535) maxCoalescedCount) 2

def mergedEvent (previous event : EventRecord) : EventRecord :=
  { event with
    coalesced := true
    dirtyReason := event.dirtyReason.or previous.dirtyReason
    generation := { event.generation with
      metadata := event.generation.metadata.map fun metadata =>
        { metadata with coalescedCount := some (mergedCount previous event) } } }

namespace EventRouter

def newAt (cursor : EventCursor) (limits : RouterLimits) : EventRouter where
  brokerEpoch := cursor.brokerEpoch
  sequence := cursor.sequence
  events := []
  retainedStarts := []
  seenEventIds := ∅
  seenEventOrder := []
  limits := limits
  resyncRequired := false
  resyncReason := none

def cursor (router : EventRouter) : EventCursor :=
  { brokerEpoch := router.brokerEpoch, sequence := router.sequence }

def currentResyncReason (router : EventRouter) : RouterResyncReason := router.resyncReason.getD .brokerResync

def requireResync (router : EventRouter) (reason : RouterResyncReason) : EventRouter × RouterIngest :=
  let router := { router with resyncRequired := true, resyncReason := router.resyncReason.or (some reason) }
  (router, .resyncRequired router.cursor router.currentResyncReason)

def requestResync (router : EventRouter) : EventRouter :=
  { router with resyncRequired := true, resyncReason := some .explicit }

def reset (router : EventRouter) (cursor : EventCursor) : EventRouter := .newAt cursor router.limits

/-- The queue of identities is cut to its bound, and what leaves it leaves the set. -/
def forgetEventIds (bound : Nat) : List EventId -> Finset EventId -> List EventId × Finset EventId
  | [], seen => ([], seen)
  | expired :: order, seen =>
      if bound < (expired :: order).length then forgetEventIds bound order (seen.erase expired)
      else (expired :: order, seen)

def rememberEventId (router : EventRouter) (eventId : EventId) : EventRouter :=
  if eventId ∈ router.seenEventIds then router
  else
    let (order, seen) := forgetEventIds (max router.limits.maxEvents 1) (router.seenEventOrder ++ [eventId])
      (insert eventId router.seenEventIds)
    { router with seenEventIds := seen, seenEventOrder := order }

def retain (router : EventRouter) (event : EventRecord) : EventRouter × RouterIngest :=
  let merges := router.limits.coalesceDirtyEvents && isCoalescible event.event &&
    router.events.getLast?.any fun previous => mergesInto previous event
  if merges then
    let router := { router with
      events := router.events.dropLast ++ (router.events.getLast?.map fun previous => mergedEvent previous event).toList }
    (router, .accepted router.cursor)
  else if router.limits.maxEvents = 0 then router.requireResync .retainedHistoryLagged
  else
    -- the oldest records make room for the new one
    let excess := router.events.length + 1 - router.limits.maxEvents
    let router := { router with
      events := (router.events ++ [event]).drop excess
      retainedStarts := (router.retainedStarts ++ [event.sequence]).drop excess }
    (router, .accepted router.cursor)

def unroutableReason (event : EventRecord) : RouterResyncReason :=
  if event.requiresAttribution && event.generation.metadata.isNone then .missingAttribution else .invalidEvent

def ingest (router : EventRouter) (event : EventRecord) : EventRouter × RouterIngest :=
  if event.brokerEpoch ≠ router.brokerEpoch then router.requireResync .brokerEpochChanged
  else if event.eventId ∈ router.seenEventIds then (router, .accepted router.cursor)
  else if router.resyncRequired then router.requireResync router.currentResyncReason
  else if event.validateRouting.toBool = false then router.requireResync (unroutableReason event)
  else
    match checkedNext router.sequence with
    | none => router.requireResync .sequenceOverflow
    | some expected =>
        if event.sequence ≠ expected then router.requireResync .sequenceGap
        else
          let router := { router with
            sequence := event.sequence
            resyncRequired := router.resyncRequired || event.resyncRequired
            resyncReason := if event.resyncRequired then some .brokerResync else router.resyncReason }
          (router.rememberEventId event.eventId).retain event

/-- The checks of a batch, event by event; `reached` is where the events so far would bring the router. -/
def checkBatch (router : EventRouter) (cursor : EventCursor) :
    EventSequence -> Option EventSequence -> List EventRecord -> Except RouterResyncReason Unit
  | _, _, [] => .ok ()
  | reached, previous, event :: rest => do
      require (decide (event.brokerEpoch = router.brokerEpoch ∧ event.sequence ≠ 0 ∧ event.sequence ≤ cursor.sequence))
        .invalidBatchCursor
      if event.eventId ∈ router.seenEventIds then checkBatch router cursor reached previous rest
      else do
        require (!router.resyncRequired) router.currentResyncReason
        require (previous.all fun previous => decide (previous < event.sequence)) .invalidBatchCursor
        require event.validateRouting.toBool (unroutableReason event)
        require (decide (reached < event.sequence)) .invalidBatchCursor
        require (checkedNext reached).isSome .sequenceOverflow
        checkBatch router cursor event.sequence (some event.sequence) rest

/-- The router goes past the numbers that a batch leaves out. -/
def skipTo (router : EventRouter) (event : EventRecord) : EventRouter :=
  if router.sequence + 1 < event.sequence then { router with sequence := event.sequence - 1 } else router

def takeBatch (router : EventRouter) : List EventRecord -> EventRouter × Option RouterIngest
  | [] => (router, none)
  | event :: rest =>
      if event.brokerEpoch = router.brokerEpoch ∧ event.eventId ∈ router.seenEventIds then
        takeBatch (router.ingest event).1 rest
      else if (checkedNext router.sequence).isNone then
        let (router, outcome) := router.requireResync .sequenceOverflow
        (router, some outcome)
      else
        match (router.skipTo event).ingest event with
        | (router, .resyncRequired cursor reason) => (router, some (.resyncRequired cursor reason))
        | (router, .accepted _) => takeBatch router rest

def ingestBatch (router : EventRouter) (batch : EventBatch) : EventRouter × RouterIngest :=
  if batch.brokerEpoch ≠ router.brokerEpoch ∨ batch.cursor.brokerEpoch ≠ router.brokerEpoch then
    router.requireResync .brokerEpochChanged
  else if batch.cursor.sequence < router.sequence then router.requireResync .invalidBatchCursor
  else if batch.result = .resyncRequired then router.requireResync .brokerResync
  else
    match router.checkBatch batch.cursor router.sequence none batch.events with
    | .error reason => router.requireResync reason
    | .ok () =>
        match router.takeBatch batch.events with
        | (router, some outcome) => (router, outcome)
        | (router, none) =>
            let router := if !router.resyncRequired && decide (router.sequence < batch.cursor.sequence) then
              { router with sequence := batch.cursor.sequence } else router
            (router, .accepted router.cursor)

def replay (router : EventRouter) (after : EventCursor) (scope : Option EventScope) : EventBatch :=
  let lagged := router.retainedStarts.head?.any fun start =>
    (checkedNext after.sequence).any fun next => decide (next < start)
  if router.resyncRequired || after.brokerEpoch != router.brokerEpoch || decide (router.sequence < after.sequence) ||
      lagged then
    { brokerEpoch := router.brokerEpoch, result := .resyncRequired, events := [], cursor := router.cursor }
  else
    { brokerEpoch := router.brokerEpoch
      result := .accepted
      events := router.events.filter fun event =>
        decide (after.sequence < event.sequence) && scope.all (scopeMatches event)
      cursor := router.cursor }

end EventRouter

section Broker

variable (limits : LedgerLimits)

def eventRouterFromLedger (state : LedgerState) : EventRouter :=
  let start := match state.events.head? with
    | none => state.eventSequence
    | some first => first.sequence - 1
  let router := EventRouter.newAt { brokerEpoch := state.brokerEpoch, sequence := start } (.new (max limits.maxEvents 1))
  state.events.foldl (fun router event => (router.ingest event).1) router

def syncEventRouter (router : EventRouter) (state : LedgerState) : EventRouter :=
  if router.brokerEpoch ≠ state.brokerEpoch then router.requestResync
  else (state.events.filter fun event => decide (router.sequence < event.sequence)).foldl
    (fun router event => (router.ingest event).1) router

def historyLagged (state : LedgerState) (sequence : EventSequence) : Bool :=
  match state.events.head? with
  | none => decide (sequence < state.eventSequence)
  | some first => decide (min (sequence + 1) u64Max < first.sequence)

/-- The checks of `resume_events` on its authority and its scope. -/
def authorizeQuery (state : LedgerState) (authority : AuthorityTicket) (query : EventQuery) : Except HostError Unit := do
  authorizeTicket state authority
  match query.scope with
  | none => .ok ()
  | some scope => do
      require scope.valid (.invalidArgument "event page scope requires a space scope")
      match scope.spaceId with
      | none => .ok ()
      | some spaceId => do
          authorizeVisibleSpace state authority spaceId
          require (scope.pageId.all fun pageId => (state.page spaceId pageId).isSome)
            (.new .pageNotFound "logical page not found")

def visibleEvent (state : LedgerState) (authority : AuthorityTicket) (event : EventRecord) : Bool :=
  event.scope.spaceId.all fun spaceId =>
    (state.spaces.get? spaceId).any fun space => visibleToPrincipal space authority.principalId

def resumeEvents (router : EventRouter) (authority : AuthorityTicket) (query : EventQuery) (state : LedgerState) :
    Except HostError EventBatch := do
  authorizeQuery state authority query
  let cursor : EventCursor := { brokerEpoch := state.brokerEpoch, sequence := state.eventSequence }
  if query.after.brokerEpoch != state.brokerEpoch || decide (state.eventSequence < query.after.sequence) ||
      historyLagged state query.after.sequence then
    pure { brokerEpoch := state.brokerEpoch, result := .resyncRequired, events := [], cursor }
  else
    let replay := router.replay query.after query.scope
    pure { replay with
      events := replay.events.filter (visibleEvent state authority), brokerEpoch := state.brokerEpoch, cursor }

end Broker

end AgentycHost
