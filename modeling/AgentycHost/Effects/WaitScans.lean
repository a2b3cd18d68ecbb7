import AgentycHost.System.Waits

set_option autoImplicit false

/-! # Waits that only scan -/

namespace AgentycHost

open Shared

variable {condition : WaitCondition} {now : Timestamp}

structure EventScan where
  router : EventRouter
  cursor : EventCursor
  scope : Option EventScope
  deadline : Timestamp
  registeredAt : Timestamp
  finished : Bool

section Scans

variable (accepts : EventRecord -> Bool)

def firstDecisive (cursor : EventCursor) : List EventRecord -> Option WaitOutcome
  | [] => none
  | event :: rest =>
      if event.resyncRequired || event.signalsResync then some (.resyncRequired cursor)
      else if accepts event then some (.matched event cursor)
      else firstDecisive cursor rest

namespace EventScan

variable (scan : EventScan)

def poll (clock : Timestamp) (cancelled : Bool) : EventScan × WaitOutcome :=
  let ended := { scan with finished := true }
  let batch := scan.router.replay scan.cursor scan.scope
  if scan.finished then (scan, .pending scan.cursor)
  else if cancelled then (ended, .cancelled scan.cursor)
  else if scan.deadline ≤ max clock scan.registeredAt then (ended, .deadlineExceeded scan.cursor)
  else if batch.result = .resyncRequired then (ended, .resyncRequired batch.cursor)
  else
    let decided := firstDecisive accepts batch.cursor batch.events
    ({ scan with cursor := batch.cursor, finished := decided.isSome }, decided.getD (.pending batch.cursor))

def step : WaitInput -> EventScan
  | .follow command => { scan with router := scan.router.follow command }
  | .poll clock cancelled => (scan.poll accepts clock cancelled).1

def answer : WaitInput -> Option WaitOutcome
  | .follow _ => none
  | .poll clock cancelled => some (scan.poll accepts clock cancelled).2

def answers (scan : EventScan) : List WaitInput -> List WaitOutcome
  | [] => []
  | input :: rest => (scan.answer accepts input).toList ++ (scan.step accepts input).answers rest

end EventScan

end Scans

def WaitSession.scan (session : WaitSession) : EventScan where
  router := session.router
  cursor := session.registration.cursor
  scope := session.registration.scope
  deadline := session.registration.deadline
  registeredAt := session.registration.registeredAt
  finished := session.registration.finished

/-- The condition keeps no state that could satisfy it: a quiet time is never reached before a deadline,
and a response is accepted without its request. -/
def WaitCondition.Composable : WaitCondition -> Prop
  | .networkIdle config => u64Max ≤ config.quietFor
  | .stableDom config => u64Max ≤ config.quietFor ∨ u64Max ≤ config.geometryQuietFor
  | .response config => config.method = none ∧ config.resourceType = none
  | _ => True

def WaitCondition.KeepsNone (state : WaitState) : WaitCondition -> Prop
  | .response config => ∀ requestId pending, state.pendingResponses.get? requestId = some pending ->
      typedEventMatchesResponse config pending none = false
  | _ => True

structure WaitCondition.Unmatched (condition : WaitCondition) (state : WaitState) : Prop where
  none_ : state.matchedEvent = none
  keeps : condition.KeepsNone state

section Observing

variable {response : ResponseWait} {event : EventRecord} {state : WaitState}

theorem matchesResponse_alone (method : response.method = none) (resourceType : response.resourceType = none)
    (event : EventRecord) (metadata : Option RequestMetadata) :
    typedEventMatchesResponse response event metadata = typedEventMatchesResponse response event none := by
  simp only [typedEventMatchesResponse, method, resourceType, Option.all_none]

theorem observeRequestMetadata_unmatched (method : response.method = none) (resourceType : response.resourceType = none)
    (unmatched : (WaitCondition.response response).Unmatched state) (event : EventRecord) :
    (WaitCondition.response response).Unmatched (state.observeRequestMetadata event response) := by
  obtain ⟨none_, keeps⟩ := unmatched
  unfold WaitState.observeRequestMetadata
  split
  next => exact ⟨none_, keeps⟩
  next =>
    cases event.requestId with
    | none => exact ⟨none_, keeps⟩
    | some requestId =>
      constructor
      · show ((state.pendingResponses.get? requestId).filter fun pending =>
            typedEventMatchesResponse response pending (some event.requestMetadata)).or state.matchedEvent = none
        rw [none_, Option.or_none, Option.filter_eq_none_iff]
        intro pending found
        rw [matchesResponse_alone method resourceType, keeps requestId pending found]
        exact Bool.false_ne_true
      · intro other pending found
        rw [Table.get?_erase] at found
        split at found
        next => cases found
        next => exact keeps other pending found

theorem observeResponse_scans (method : response.method = none) (resourceType : response.resourceType = none)
    (unmatched : (WaitCondition.response response).Unmatched state) (event : EventRecord) :
    if typedEventMatchesResponse response event none then
      (state.observeResponse event response).matchedEvent = some event
    else (WaitCondition.response response).Unmatched (state.observeResponse event response) := by
  obtain ⟨none_, keeps⟩ := unmatched
  unfold WaitState.observeResponse
  simp only [matchesResponse_alone method resourceType]
  cases matches_ : typedEventMatchesResponse response event none with
  | true =>
    have answers : event.responseEvent = true := by
      simp only [typedEventMatchesResponse, Bool.and_eq_true] at matches_
      exact matches_.1.1.1.1
    simp only [answers, Bool.not_true, Bool.false_eq_true, if_false, if_true]
    split <;> rfl
  | false =>
    simp only [Bool.false_eq_true, if_false]
    have added (requestId : String) : ∀ other pending,
        (state.pendingResponses.insert requestId event).get? other = some pending ->
          typedEventMatchesResponse response pending none = false := by
      intro other pending found
      rw [Table.get?_insert] at found
      split at found
      next =>
        obtain rfl := Option.some.inj found
        exact matches_
      next => exact keeps other pending found
    split
    next => exact ⟨none_, keeps⟩
    next =>
      by_cases named : event.requestId.getD "" = ""
      · simp only [named, ne_eq, not_true_eq_false, if_false]
        exact ⟨none_, keeps⟩
      · simp only [named, ne_eq, not_false_eq_true, if_true]
        exact ⟨none_, added _⟩

theorem observe_scans (composable : condition.Composable) (unmatched : condition.Unmatched state) (event : EventRecord)
    (now : Timestamp) :
    if condition.matches event then (state.observe event now condition).matchedEvent = some event
    else condition.Unmatched (state.observe event now condition) := by
  have kept : condition.Unmatched
      { state with lastObservedAt := some (state.effectiveTime event now), lastEvent := some event } := by
    cases condition <;> exact ⟨unmatched.none_, unmatched.keeps⟩
  cases condition
  case networkIdle config => exact ⟨(observeNetwork_frame _ _ _).2.trans kept.none_, trivial⟩
  case stableDom config => exact ⟨(observeDom_frame _ _ _).2.trans kept.none_, trivial⟩
  case response response =>
    obtain ⟨method, resourceType⟩ := composable
    exact observeResponse_scans method resourceType (observeRequestMetadata_unmatched method resourceType kept event) event
  -- the other conditions test the event and nothing else
  all_goals
    unfold WaitState.observe
    split
    next accepted =>
      simp only [accepted, if_true]
    next rejected =>
      simp only [rejected, Bool.false_eq_true, if_false]
      exact kept

theorem composable_quiet (composable : condition.Composable) (early : now < u64Max) : state.quiet now condition = false := by
  have unreached (since quietFor : Nat) (long : u64Max ≤ quietFor) : decide (quietFor ≤ now - since) = false := by
    have short : now - since < quietFor := Nat.lt_of_le_of_lt (Nat.sub_le now since) (Nat.lt_of_lt_of_le early long)
    exact decide_eq_false (Nat.not_le_of_lt short)
  have never (since : Option Timestamp) (quietFor : Nat) (long : u64Max ≤ quietFor) :
      (since.any fun since => decide (quietFor ≤ now - since)) = false := by
    cases since with
    | none => rfl
    | some since => exact unreached since quietFor long
  unfold WaitState.quiet
  split
  next config => rw [never _ _ composable, Bool.and_false]
  next config =>
    obtain long | long := composable
    · rw [never _ _ long, Bool.false_and]
    · rw [never _ _ long, Bool.and_false]
  next => rfl

end Observing

section Refinement

structure WaitRegistration.Scans (registration : WaitRegistration) (condition : WaitCondition) : Prop where
  asks : registration.condition = condition
  unmatched : condition.Unmatched registration.state

variable (registration : WaitRegistration)

theorem scans_satisfied (composable : condition.Composable) (early : now < u64Max) (scans : registration.Scans condition) :
    registration.state.satisfied now registration.condition = false := by
  rw [WaitState.satisfied, scans.asks, scans.unmatched.none_, composable_quiet composable early]
  rfl

theorem observeBatch_scans (composable : condition.Composable) (early : now < u64Max) (scans : registration.Scans condition)
    (unfinished : registration.finished = false) (events : List EventRecord) :
    ∃ after, registration.observeBatch now events =
        (after, firstDecisive (WaitCondition.matches · condition) registration.cursor events) ∧
      after.cursor = registration.cursor ∧
      after.finished = (firstDecisive (WaitCondition.matches · condition) registration.cursor events).isSome ∧
      (firstDecisive (WaitCondition.matches · condition) registration.cursor events = none -> after.Scans condition) := by
  induction events generalizing registration with
  | nil => exact ⟨registration, rfl, rfl, unfinished, fun _ => scans⟩
  | cons event rest ih =>
    unfold WaitRegistration.observeBatch firstDecisive
    split
    next => exact ⟨_, rfl, rfl, rfl, by rintro ⟨⟩⟩
    next =>
      obtain rfl := scans.asks
      have observed := observe_scans composable scans.unmatched event now
      split at observed
      next accepted =>
        have matched : (registration.observing now event).state.matchedEvent = some event := observed
        rw [settle_matched _ now matched]
        simp only [accepted, if_true]
        exact ⟨_, rfl, rfl, rfl, by rintro ⟨⟩⟩
      next rejected =>
        have going : (registration.observing now event).Scans registration.condition := ⟨rfl, observed⟩
        rw [settle_open _ now (scans_satisfied _ composable early going)]
        simp only [rejected, Bool.false_eq_true, if_false]
        exact ih (registration.observing now event) going unfinished

theorem watch_scans (composable : condition.Composable) (early : now < u64Max) (scans : registration.Scans condition)
    (unfinished : registration.finished = false) (events : List EventRecord) :
    let decided := firstDecisive (WaitCondition.matches · condition) registration.cursor events
    ∃ after, registration.watch now events = (after, decided.getD (.pending registration.cursor)) ∧
      after.cursor = registration.cursor ∧ after.finished = decided.isSome ∧
      (decided = none -> after.Scans condition) := by
  obtain ⟨after, watched, cursor, finished, going⟩ := observeBatch_scans registration composable early scans unfinished events
  unfold WaitRegistration.watch
  rw [watched]
  cases decided : firstDecisive (WaitCondition.matches · condition) registration.cursor events with
  | some outcome =>
    rw [decided] at finished
    exact ⟨after, rfl, cursor, finished, by rintro ⟨⟩⟩
  | none =>
    rw [decided] at finished
    simp only [settle_open after now (scans_satisfied after composable early (going decided))]
    exact ⟨after, by rw [cursor]; rfl, cursor, finished, fun _ => going decided⟩

end Refinement

section Sessions

variable {session : WaitSession}

structure WaitSession.Scans (session : WaitSession) (condition : WaitCondition) : Prop where
  bounded : session.registration.deadline ≤ u64Max
  open_ : session.registration.finished = false -> session.registration.Scans condition

theorem start_scans (engine : WaitEngine) (now : Timestamp) (router : EventRouter) (condition : WaitCondition)
    (scope : Option EventScope) (deadline : Timestamp) (bounded : deadline ≤ u64Max) :
    (WaitSession.start engine now router condition scope deadline).Scans condition := by
  refine ⟨bounded, fun _ => ⟨rfl, rfl, ?_⟩⟩
  cases condition <;> first | trivial | (intro requestId pending found; cases found)

theorem step_scans (composable : condition.Composable) (scans : session.Scans condition) (input : WaitInput) :
    session.answer input = session.scan.answer (WaitCondition.matches · condition) input ∧
      (session.step input).scan = session.scan.step (WaitCondition.matches · condition) input ∧
      (session.step input).Scans condition := by
  cases input with
  | follow command => exact ⟨rfl, rfl, scans.bounded, scans.open_⟩
  | poll clock cancelled =>
    have together {after : WaitRegistration} {outcome : WaitOutcome}
        (done : session.registration.poll clock cancelled session.router = (after, outcome))
        (told : session.scan.poll (WaitCondition.matches · condition) clock cancelled =
          (WaitSession.scan ⟨session.router, after⟩, outcome))
        (going : after.finished = false -> after.Scans condition) :
        session.answer (.poll clock cancelled) =
            session.scan.answer (WaitCondition.matches · condition) (.poll clock cancelled) ∧
          (session.step (.poll clock cancelled)).scan =
            session.scan.step (WaitCondition.matches · condition) (.poll clock cancelled) ∧
          (session.step (.poll clock cancelled)).Scans condition := by
      have continues := poll_continues session.registration clock cancelled session.router
      rw [done] at continues
      simp only [WaitSession.answer, WaitSession.step, EventScan.answer, EventScan.step, done, told, true_and]
      exact ⟨continues.deadline.trans_le scans.bounded, going⟩
    cases finished : session.registration.finished with
    | true =>
      refine together (poll_finished _ finished clock cancelled session.router) ?_ scans.open_
      unfold EventScan.poll
      exact if_pos finished
    | false =>
      have scan : session.scan.finished = false := finished
      obtain ⟨rfl, done⟩ | ⟨rfl, late, done⟩ | ⟨rfl, early, resync, done⟩ | ⟨rfl, early, current, done⟩ :=
        poll_ways session.registration finished clock cancelled session.router
      · refine together done ?_ (by rintro ⟨⟩)
        unfold EventScan.poll
        simp only [scan, Bool.false_eq_true, if_false, if_true]
        rfl
      · refine together done ?_ (by rintro ⟨⟩)
        have passed : session.scan.deadline ≤ max clock session.scan.registeredAt := late
        unfold EventScan.poll
        simp only [scan, passed, Bool.false_eq_true, if_false, if_true]
        rfl
      · have open_ : ¬ session.scan.deadline ≤ max clock session.scan.registeredAt := Nat.not_le_of_lt early
        have lagged : (session.scan.router.replay session.scan.cursor session.scan.scope).result = .resyncRequired := resync
        refine together done ?_ (by rintro ⟨⟩)
        unfold EventScan.poll
        simp only [scan, open_, lagged, Bool.false_eq_true, if_false, if_true]
        rfl
      · have open_ : ¬ session.scan.deadline ≤ max clock session.scan.registeredAt := Nat.not_le_of_lt early
        have told : ¬ (session.scan.router.replay session.scan.cursor session.scan.scope).result = .resyncRequired := current
        have reading := scans.open_ finished
        obtain ⟨after, watched, cursor, ended, going⟩ := watch_scans
          (session.registration.advancedTo (session.router.replay session.registration.cursor session.registration.scope).cursor)
          composable (Nat.lt_of_lt_of_le early scans.bounded) ⟨reading.asks, reading.unmatched⟩ finished
          (session.router.replay session.registration.cursor session.registration.scope).events
        have continues := poll_continues session.registration clock false session.router
        rw [done.trans watched] at continues
        refine together (done.trans watched) ?_ fun unfinished => going (by simpa using ended.symm.trans unfinished)
        unfold EventScan.poll
        simp only [scan, open_, told, Bool.false_eq_true, if_false]
        have scope : after.scope = session.registration.scope := continues.scope
        have deadline : after.deadline = session.registration.deadline := continues.deadline
        have registeredAt : after.registeredAt = session.registration.registeredAt := continues.registeredAt
        unfold WaitSession.scan
        simp only [cursor, ended, scope, deadline, registeredAt]
        rfl

theorem answers_scans (composable : condition.Composable) (scans : session.Scans condition) (inputs : List WaitInput) :
    session.answers inputs = session.scan.answers (WaitCondition.matches · condition) inputs := by
  induction inputs generalizing session with
  | nil => rfl
  | cons input rest ih =>
    obtain ⟨answered, stepped, going⟩ := step_scans composable scans input
    rw [WaitSession.answers, EventScan.answers, answered, ih going, stepped]

end Sessions

end AgentycHost
