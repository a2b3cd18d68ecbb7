import AgentycHost.Broker.Waits
import AgentycHost.System.Routers

set_option autoImplicit false

/-!
# Runs of a wait

The router takes in events, and the wait is polled, in any order.
-/

namespace AgentycHost

open Shared

structure WaitSession where
  router : EventRouter
  registration : WaitRegistration

inductive WaitInput where
  | follow (command : RouterCommand)
  | poll (clock : Timestamp) (cancelled : Bool)

namespace WaitSession

def start (engine : WaitEngine) (now : Timestamp) (router : EventRouter) (condition : WaitCondition)
    (scope : Option EventScope) (deadline : Timestamp) : WaitSession :=
  { router, registration := (engine.registerScoped now router condition scope deadline).2 }

variable (session : WaitSession)

def step : WaitInput -> WaitSession
  | .follow command => { session with router := session.router.follow command }
  | .poll clock cancelled => { session with registration := (session.registration.poll clock cancelled session.router).1 }

def answer : WaitInput -> Option WaitOutcome
  | .follow _ => none
  | .poll clock cancelled => some (session.registration.poll clock cancelled session.router).2

def answers (session : WaitSession) : List WaitInput -> List WaitOutcome
  | [] => []
  | input :: rest => (session.answer input).toList ++ (session.step input).answers rest

end WaitSession

abbrev WaitMoment := Moment WaitSession WaitInput

abbrev WaitRun (start : WaitSession) : List WaitMoment -> WaitSession -> Prop :=
  Run (fun input before after => after = before.step input) start

def WaitOutcome.terminal : WaitOutcome -> Bool
  | .pending _ => false
  | _ => true

section Settling

variable (registration : WaitRegistration) (now : Timestamp)

theorem settle_cases :
    (registration.state.satisfied now registration.condition = false ∧ registration.settle now = (registration, none)) ∨
    (registration.state.satisfied now registration.condition = true ∧
      registration.settle now = ({ registration with finished := true },
        registration.state.matched.map fun event => .matched event registration.cursor)) := by
  unfold WaitRegistration.settle
  cases registration.state.satisfied now registration.condition with
  | false => exact .inl ⟨rfl, rfl⟩
  | true => exact .inr ⟨rfl, rfl⟩

structure WaitRegistration.Continues (before after : WaitRegistration) : Prop where
  condition : after.condition = before.condition
  scope : after.scope = before.scope
  deadline : after.deadline = before.deadline
  registeredAt : after.registeredAt = before.registeredAt

theorem WaitRegistration.Continues.trans {before middle after : WaitRegistration} (first : Continues before middle)
    (second : Continues middle after) : Continues before after where
  condition := second.condition.trans first.condition
  scope := second.scope.trans first.scope
  deadline := second.deadline.trans first.deadline
  registeredAt := second.registeredAt.trans first.registeredAt

theorem settle_matched {found : EventRecord} (matched : registration.state.matchedEvent = some found) :
    registration.settle now =
      ({ registration with finished := true }, some (.matched found registration.cursor)) := by
  unfold WaitRegistration.settle WaitState.satisfied WaitState.matched
  simp only [matched, Option.isSome_some, Bool.true_or, if_true, Option.some_or, Option.map_some]

theorem settle_open (unsatisfied : registration.state.satisfied now registration.condition = false) :
    registration.settle now = (registration, none) := by
  unfold WaitRegistration.settle
  rw [unsatisfied]
  rfl

theorem settle_continues : registration.Continues (registration.settle now).1 := by
  unfold WaitRegistration.settle
  split <;> exact ⟨rfl, rfl, rfl, rfl⟩

theorem observeBatch_continues (events : List EventRecord) :
    registration.Continues (registration.observeBatch now events).1 := by
  induction events generalizing registration with
  | nil => exact ⟨rfl, rfl, rfl, rfl⟩
  | cons event rest ih =>
    unfold WaitRegistration.observeBatch
    split
    next => exact ⟨rfl, rfl, rfl, rfl⟩
    next =>
      have observed := settle_continues (registration.observing now event) now
      have same : registration.Continues (registration.observing now event) := ⟨rfl, rfl, rfl, rfl⟩
      split
      next settled _ done =>
        rw [done] at observed
        exact same.trans observed
      next settled done =>
        rw [done] at observed
        exact (same.trans observed).trans (ih settled)

theorem watch_continues (events : List EventRecord) : registration.Continues (registration.watch now events).1 := by
  have observed := observeBatch_continues registration now events
  unfold WaitRegistration.watch
  split
  next after _ done =>
    rw [done] at observed
    exact observed
  next after done =>
    rw [done] at observed
    have settled := settle_continues after now
    split
    next ended =>
      rw [ended] at settled
      exact observed.trans settled
    next ended =>
      rw [ended] at settled
      exact observed.trans settled

theorem poll_finished (finished : registration.finished = true) (clock : Timestamp) (cancelled : Bool)
    (router : EventRouter) : registration.poll clock cancelled router = (registration, .pending registration.cursor) := by
  unfold WaitRegistration.poll
  simp only [finished, if_true]

theorem poll_ways (unfinished : registration.finished = false) (clock : Timestamp) (cancelled : Bool)
    (router : EventRouter) :
    let batch := router.replay registration.cursor registration.scope
    let now := max clock registration.registeredAt
    (cancelled = true ∧ registration.poll clock cancelled router =
      ({ registration with finished := true }, .cancelled registration.cursor)) ∨
    (cancelled = false ∧ registration.deadline ≤ now ∧ registration.poll clock cancelled router =
      ({ registration with finished := true }, .deadlineExceeded registration.cursor)) ∨
    (cancelled = false ∧ now < registration.deadline ∧ batch.result = .resyncRequired ∧
      registration.poll clock cancelled router = ({ registration with finished := true }, .resyncRequired batch.cursor)) ∨
    (cancelled = false ∧ now < registration.deadline ∧ batch.result ≠ .resyncRequired ∧
      registration.poll clock cancelled router = (registration.advancedTo batch.cursor).watch now batch.events) := by
  unfold WaitRegistration.poll
  simp only [unfinished, Bool.false_eq_true, if_false]
  cases cancelled with
  | true => exact .inl ⟨rfl, rfl⟩
  | false =>
    by_cases late : registration.deadline ≤ max clock registration.registeredAt
    · exact .inr (.inl ⟨rfl, late, by simp only [late, if_true, Bool.false_eq_true, if_false]⟩)
    by_cases current : (router.replay registration.cursor registration.scope).result = .resyncRequired
    · exact .inr (.inr (.inl ⟨rfl, Nat.lt_of_not_le late, current,
        by simp only [late, current, if_true, Bool.false_eq_true, if_false]⟩))
    · exact .inr (.inr (.inr ⟨rfl, Nat.lt_of_not_le late, current,
        by simp only [late, current, Bool.false_eq_true, if_false]⟩))

theorem poll_continues (clock : Timestamp) (cancelled : Bool) (router : EventRouter) :
    registration.Continues (registration.poll clock cancelled router).1 := by
  cases finished : registration.finished with
  | true =>
    rw [poll_finished registration finished]
    exact ⟨rfl, rfl, rfl, rfl⟩
  | false =>
    obtain ⟨_, done⟩ | ⟨_, _, done⟩ | ⟨_, _, _, done⟩ | ⟨_, _, _, done⟩ :=
      poll_ways registration finished clock cancelled router
    · rw [done]
      exact ⟨rfl, rfl, rfl, rfl⟩
    · rw [done]
      exact ⟨rfl, rfl, rfl, rfl⟩
    · rw [done]
      exact ⟨rfl, rfl, rfl, rfl⟩
    · rw [done]
      have watched := watch_continues
        (registration.advancedTo (router.replay registration.cursor registration.scope).cursor)
        (max clock registration.registeredAt) (router.replay registration.cursor registration.scope).events
      exact ⟨watched.condition, watched.scope, watched.deadline, watched.registeredAt⟩

theorem settle_cursor : (registration.settle now).1.cursor = registration.cursor := by
  unfold WaitRegistration.settle
  split <;> rfl

theorem observeBatch_cursor (events : List EventRecord) :
    (registration.observeBatch now events).1.cursor = registration.cursor := by
  induction events generalizing registration with
  | nil => rfl
  | cons event rest ih =>
    unfold WaitRegistration.observeBatch
    split
    next => rfl
    next =>
      have same := settle_cursor (registration.observing now event) now
      split
      next settled _ done =>
        rw [done] at same
        exact same
      next settled done =>
        rw [done] at same
        exact (ih settled).trans same

theorem watch_cursor (events : List EventRecord) : (registration.watch now events).1.cursor = registration.cursor := by
  have observed := observeBatch_cursor registration now events
  unfold WaitRegistration.watch
  split
  next after _ done =>
    rw [done] at observed
    exact observed
  next after done =>
    rw [done] at observed
    have same := settle_cursor after now
    split
    next ended =>
      rw [ended] at same
      exact same.trans observed
    next ended =>
      rw [ended] at same
      exact same.trans observed

theorem replay_cursor (router : EventRouter) (after : EventCursor) (scope : Option EventScope) :
    (router.replay after scope).cursor = router.cursor := by
  unfold EventRouter.replay
  dsimp only
  split_ifs <;> rfl

theorem poll_open {clock : Timestamp} {cancelled : Bool} {router : EventRouter}
    (open_ : (registration.poll clock cancelled router).1.finished = false) :
    registration.finished = false ∧ (registration.poll clock cancelled router).1.cursor = router.cursor := by
  cases finished : registration.finished with
  | true =>
    rw [poll_finished registration finished, finished] at open_
    cases open_
  | false =>
    refine ⟨rfl, ?_⟩
    obtain ⟨_, done⟩ | ⟨_, _, done⟩ | ⟨_, _, _, done⟩ | ⟨_, _, _, done⟩ :=
      poll_ways registration finished clock cancelled router
    · rw [done] at open_
      cases open_
    · rw [done] at open_
      cases open_
    · rw [done] at open_
      cases open_
    · rw [done, watch_cursor]
      exact replay_cursor router registration.cursor registration.scope

theorem observeNetwork_frame (state : WaitState) (event : EventRecord) (time : Timestamp) :
    (state.observeNetwork event time).lastEvent = state.lastEvent ∧
      (state.observeNetwork event time).matchedEvent = state.matchedEvent := by
  unfold WaitState.observeNetwork
  split
  next => exact ⟨rfl, rfl⟩
  next =>
    split
    next => split <;> exact ⟨rfl, rfl⟩
    next => split <;> exact ⟨rfl, rfl⟩

theorem observeDom_frame (state : WaitState) (event : EventRecord) (time : Timestamp) :
    (state.observeDom event time).lastEvent = state.lastEvent ∧
      (state.observeDom event time).matchedEvent = state.matchedEvent := by
  unfold WaitState.observeDom
  cases event.domMutationEvent <;> simp only [Bool.false_eq_true, if_true, if_false]
  all_goals
    split
    next => split <;> exact ⟨rfl, rfl⟩
    next => exact ⟨rfl, rfl⟩

theorem observeRequestMetadata_lastEvent (state : WaitState) (event : EventRecord) (response : ResponseWait) :
    (state.observeRequestMetadata event response).lastEvent = state.lastEvent := by
  unfold WaitState.observeRequestMetadata
  split
  next => rfl
  next => split <;> rfl

theorem observeResponse_lastEvent (state : WaitState) (event : EventRecord) (response : ResponseWait) :
    (state.observeResponse event response).lastEvent = state.lastEvent := by
  unfold WaitState.observeResponse
  simp only
  split
  next => rfl
  next =>
    by_cases named : event.requestId.getD "" = ""
    · simp only [named, ne_eq, not_true_eq_false, if_false]
      split <;> rfl
    · simp only [named, ne_eq, not_false_eq_true, if_true]
      split <;> rfl

theorem observe_lastEvent (state : WaitState) (event : EventRecord) (condition : WaitCondition) :
    (state.observe event now condition).lastEvent = some event := by
  unfold WaitState.observe
  simp only
  split
  next => exact (observeNetwork_frame _ _ _).1
  next => exact (observeResponse_lastEvent _ _ _).trans (observeRequestMetadata_lastEvent _ _ _)
  next => exact (observeDom_frame _ _ _).1
  next => split <;> rfl

end Settling

section Runs

variable {engine : WaitEngine} {now : Timestamp} {router : EventRouter} {condition : WaitCondition}
  {scope : Option EventScope} {deadline : Timestamp} {trace : List WaitMoment} {last : WaitSession}

theorem run_continues (run : WaitRun (.start engine now router condition scope deadline) trace last) :
    WaitRegistration.Continues (engine.registerScoped now router condition scope deadline).2 last.registration := by
  refine run.keeps (fun session => WaitRegistration.Continues (engine.registerScoped now router condition scope deadline).2
    session.registration) ⟨rfl, rfl, rfl, rfl⟩ ?_
  intro moment _ taken continues
  rw [taken]
  cases moment.label with
  | follow command => exact continues
  | poll clock cancelled => exact continues.trans (poll_continues _ _ _ _)

end Runs

section Sample

def quietRouter : EventRouter := .newAt { brokerEpoch := 1, sequence := 0 } (.new 8)

def traceEvent (sequence : EventSequence) (payload : Payload) : EventRecord where
  protocol := 1
  eventId := { brokerEpoch := 1, sequence }
  brokerEpoch := 1
  sequence := sequence
  scope := .global
  event := .actionChanged
  generation := { spaceGeneration := 0, pageGeneration := 0, navigationGeneration := 0, documentGeneration := 0,
                  snapshotVersion := none, metadata := none }
  dirtyReason := none
  coalesced := false
  resyncRequired := false
  payload := payload

end Sample

end AgentycHost
