import AgentycHost.Safety.Survivors
import AgentycHost.Safety.WaitEnds

set_option autoImplicit false

/-! # Events that a wait finds -/

namespace AgentycHost

open Shared

variable {event record : EventRecord} {condition : WaitCondition} {state : WaitState} {now : Timestamp}

section Marks

theorem signalsResync_unmarked (same : record.unmarked = event.unmarked) : record.signalsResync = event.signalsResync := by
  have marked (event : EventRecord) : event.unmarked.signalsResync = event.signalsResync := rfl
  rw [← marked record, same, marked]

theorem resyncRequired_unmarked (same : record.unmarked = event.unmarked) : record.resyncRequired = event.resyncRequired := by
  have marked (event : EventRecord) : event.unmarked.resyncRequired = event.resyncRequired := rfl
  rw [← marked record, same, marked]

theorem matches_unmarked (event : EventRecord) (condition : WaitCondition) :
    condition.matches event.unmarked = condition.matches event := by
  refine @WaitCondition.rec (fun condition => condition.matches event.unmarked = condition.matches event)
    (fun conditions => anyMatches event.unmarked conditions = anyMatches event conditions ∧
      allMatch event.unmarked conditions = allMatch event conditions)
    ?_ ?_ ?_ ?_ ?_ ?_ ?_ ?_ ?_ ?_ ?_ ?_ ?_ ?_ ?_ ?_ ?_ ?_ condition
  case refine_5 => exact fun conditions same => same.1
  case refine_6 => exact fun conditions same => same.2
  case refine_17 => exact ⟨rfl, rfl⟩
  case refine_18 =>
    intro first rest same others
    rw [anyMatches, anyMatches, allMatch, allMatch, same, others.1, others.2]
    exact ⟨rfl, rfl⟩
  all_goals
    intros
    rfl

theorem matches_same (same : record.unmarked = event.unmarked) : condition.matches record = condition.matches event := by
  rw [← matches_unmarked record, same, matches_unmarked]

end Marks

section Observing

variable {response : ResponseWait}

theorem matchesResponse_known (metadata : Option RequestMetadata)
    (accepted : typedEventMatchesResponse response event none = true) :
    typedEventMatchesResponse response event metadata = true := by
  have kept {own other : Option String} {test : String -> Bool} (told : (own.or none).any test = true) :
      (own.or other).any test = true := by
    cases own with
    | none => cases told
    | some value => exact told
  simp only [typedEventMatchesResponse, Bool.and_eq_true, Option.map_none] at accepted ⊢
  obtain ⟨⟨⟨⟨answers, url⟩, method⟩, resourceType⟩, status⟩ := accepted
  refine ⟨⟨⟨⟨answers, url⟩, ?_⟩, ?_⟩, status⟩
  · cases asked : response.method with
    | none => rfl
    | some expected =>
      rw [asked] at method
      exact kept method
  · cases asked : response.resourceType with
    | none => rfl
    | some expected =>
      rw [asked] at resourceType
      exact kept resourceType

theorem observeResponse_accepted (accepted : typedEventMatchesResponse response event none = true) :
    (state.observeResponse event response).matchedEvent = some event := by
  have answers : event.responseEvent = true := by
    simp only [typedEventMatchesResponse, Bool.and_eq_true] at accepted
    exact accepted.1.1.1.1
  unfold WaitState.observeResponse
  simp only [answers, matchesResponse_known _ accepted, Bool.not_true, Bool.false_eq_true, if_false, if_true]
  split <;> rfl

theorem observe_accepted (accepted : condition.matches event = true) :
    (state.observe event now condition).matchedEvent = some event := by
  cases condition
  case networkIdle => cases accepted
  case stableDom => cases accepted
  case response response => exact observeResponse_accepted accepted
  all_goals
    unfold WaitState.observe
    simp only [accepted, if_true]

variable (registration : WaitRegistration)

theorem observeBatch_accepted {events : List EventRecord}
    (silent : ∀ event, event ∈ events -> (event.resyncRequired || event.signalsResync) = false)
    (found : ∃ event, event ∈ events ∧ registration.condition.matches event = true) :
    ∃ after found, registration.observeBatch now events = (after, some (.matched found registration.cursor)) := by
  induction events generalizing registration with
  | nil =>
    obtain ⟨_, inside, _⟩ := found
    cases inside
  | cons first rest ih =>
    unfold WaitRegistration.observeBatch
    rw [if_neg (Bool.eq_false_iff.mp (silent first List.mem_cons_self))]
    obtain ⟨unsatisfied, settled⟩ | ⟨_, settled⟩ := settle_cases (registration.observing now first) now
    · -- the event at hand was not accepted
      simp only [settled]
      obtain ⟨event, inside, accepted⟩ := found
      obtain rfl | later := List.mem_cons.mp inside
      · have matched : (registration.observing now event).state.matchedEvent = some event := observe_accepted accepted
        rw [WaitState.satisfied, matched] at unsatisfied
        cases unsatisfied
      · exact ih (registration.observing now first)
          (fun other there => silent other (List.mem_cons_of_mem _ there)) ⟨event, later, accepted⟩
    · have observed : (registration.observing now first).state.lastEvent = some first := observe_lastEvent now _ first _
      simp only [settled, WaitState.matched, observed]
      cases (registration.observing now first).state.matchedEvent with
      | none => exact ⟨_, _, rfl⟩
      | some matched => exact ⟨_, _, rfl⟩

end Observing

section Runs

variable {cursor : EventCursor} {limits : RouterLimits} {history : List RouterMoment} {router : EventRouter}
  {engine : WaitEngine} {scope : Option EventScope} {deadline : Timestamp} {trace : List WaitMoment}
  {session : WaitSession}

/-- The events that the router took in since the last poll of a wait. -/
def takenSincePoll : List WaitMoment -> List EventRecord
  | [] => []
  | moment :: earlier =>
      match moment.label with
      | .follow command => takenSincePoll earlier ++ command.takes moment.before.router
      | .poll _ _ => []

/-- The router was not reset and asks for no resync, and it retains all that the wait has not read. -/
structure Undisturbed (trace : List WaitMoment) (session : WaitSession) : Prop where
  goes : ∀ moment, moment ∈ trace -> ∀ next, moment.label ≠ .follow (.reset next)
  calm : session.router.resyncRequired = false
  retained : ∀ first, session.router.retainedStarts.head? = some first ->
    first ≤ session.registration.cursor.sequence + 1
  silent : ∀ event, event ∈ takenSincePoll trace -> (event.resyncRequired || event.signalsResync) = false

theorem WaitRun.queued (made : RouterRun cursor limits history router)
    (run : WaitRun (.start engine now router condition scope deadline) trace session)
    (goes : ∀ moment, moment ∈ trace -> ∀ next, moment.label ≠ .follow (.reset next))
    (calm : session.router.resyncRequired = false) (open_ : session.registration.finished = false) :
    session.registration.cursor.brokerEpoch = session.router.brokerEpoch ∧ session.router.limits = limits ∧
      Queued session.registration.cursor.sequence session.router (takenSincePoll trace) := by
  induction run with
  | nil =>
    obtain ⟨spans, represents⟩ := made.represents
    exact ⟨rfl, made.limits, represents.queued⟩
  | @step trace before after input earlier taken ih =>
    subst taken
    have onward := fun moment inside => goes moment (List.mem_cons_of_mem _ inside)
    cases input with
    | follow command =>
      have resets : ∀ next, command ≠ .reset next := by
        intro next same
        exact goes _ List.mem_cons_self next (by rw [same])
      have quiet : before.router.resyncRequired = false := by
        by_contra noisy
        have still := follow_noisy (by simpa using noisy) resets
        rw [show (before.router.follow command).resyncRequired = false from calm] at still
        cases still
      obtain ⟨epoch, same, queued⟩ := ih onward quiet open_
      refine ⟨?_, (follow_limits before.router command).trans same, ?_⟩
      · exact epoch.trans (follow_brokerEpoch before.router resets).symm
      · exact (queued_kept _).follow queued resets calm
    | poll clock cancelled =>
      obtain ⟨unfinished, moved⟩ := poll_open before.registration open_
      obtain ⟨_, same, _, old, recent, _, _, represents, _⟩ := ih onward calm unfinished
      have read : (before.step (.poll clock cancelled)).registration.cursor = before.router.cursor := moved
      rw [read]
      exact ⟨rfl, same, represents.queued⟩

theorem accepting_open (run : WaitRun (.start engine now router condition scope deadline) trace session)
    (unanswered : Unanswered trace) (accepted : condition.matches event = true) :
    session.registration.finished = false := by
  obtain ⟨open_, _⟩ | ⟨moment, inside, clock, _, lapses⟩ := run_open run unanswered
  · exact open_
  · obtain ⟨_, _, earlier, _, _⟩ := run.at_moment inside
    have over_ := lapses.quietly
    rw [(run_continues earlier).condition] at over_
    cases condition with
    | networkIdle => cases accepted
    | stableDom => cases accepted
    | _ => cases over_

end Runs

/-- A poll finds every event whose place no next one took. -/
theorem surviving_event_matched {cursor : EventCursor} {limits : RouterLimits} {history : List RouterMoment}
    {router : EventRouter} (made : RouterRun cursor limits history router) {engine : WaitEngine} {now : Timestamp}
    {condition : WaitCondition} {scope : Option EventScope} {deadline : Timestamp} {trace : List WaitMoment}
    {session : WaitSession} (run : WaitRun (.start engine now router condition scope deadline) trace session)
    (unanswered : Unanswered trace) (undisturbed : Undisturbed trace session) {event : EventRecord}
    (survives : event ∈ surviving limits (takenSincePoll trace)) (asked : scope.all (scopeMatches event) = true)
    (accepted : condition.matches event = true) {clock : Timestamp} (early : max clock now < deadline) :
    ∃ found, session.answer (.poll clock false) = some (.matched found session.router.cursor) := by
  have open_ := accepting_open run unanswered accepted
  have continues := run_continues run
  obtain ⟨epoch, same, queued⟩ := WaitRun.queued made run undisturbed.goes undisturbed.calm open_
  obtain ⟨served, told⟩ := queued.replay undisturbed.calm epoch undisturbed.retained scope
  have wanted : session.registration.scope = scope := continues.scope
  have asking : session.registration.condition = condition := continues.condition
  have ends : session.registration.deadline = deadline := continues.deadline
  have began : session.registration.registeredAt = now := continues.registeredAt
  rw [same] at told
  obtain ⟨⟨⟩, _⟩ | ⟨_, late, _⟩ | ⟨_, _, resync, _⟩ | ⟨_, _, _, done⟩ :=
    poll_ways session.registration open_ clock false session.router
  · rw [ends, began] at late
    exact absurd early (Nat.not_lt_of_le late)
  · rw [wanted, served] at resync
    cases resync
  rw [wanted] at done
  -- the records of the batch tell events taken in since the last poll
  have origin : ∀ record, record ∈ (session.router.replay session.registration.cursor scope).events ->
      ∃ event, event ∈ takenSincePoll trace ∧ event.unmarked = record.unmarked := by
    intro record inside
    have marks := List.mem_map_of_mem (f := (·.unmarked)) inside
    rw [told] at marks
    obtain ⟨event, kept, same⟩ := List.mem_map.mp marks
    exact ⟨event, surviving_subset limits _ (List.mem_of_mem_filter kept), same⟩
  have silent : ∀ record, record ∈ (session.router.replay session.registration.cursor scope).events ->
      (record.resyncRequired || record.signalsResync) = false := by
    intro record inside
    obtain ⟨event, taken, same⟩ := origin record inside
    rw [resyncRequired_unmarked same.symm, signalsResync_unmarked same.symm]
    exact undisturbed.silent event taken
  have found : ∃ record, record ∈ (session.router.replay session.registration.cursor scope).events ∧
      condition.matches record = true := by
    have marks : event.unmarked ∈ ((surviving limits (takenSincePoll trace)).filter
        fun event => scope.all (scopeMatches event)).map (·.unmarked) :=
      List.mem_map_of_mem (List.mem_filter.mpr ⟨survives, asked⟩)
    rw [← told] at marks
    obtain ⟨record, inside, same⟩ := List.mem_map.mp marks
    exact ⟨record, inside, (matches_same same).trans accepted⟩
  rw [← asking] at found
  have matched : ∃ after found, WaitRegistration.observeBatch (max clock session.registration.registeredAt)
      (session.registration.advancedTo (session.router.replay session.registration.cursor scope).cursor)
      (session.router.replay session.registration.cursor scope).events =
        (after, some (.matched found (session.router.replay session.registration.cursor scope).cursor)) :=
    observeBatch_accepted _ silent found
  obtain ⟨after, found, watched⟩ := matched
  refine ⟨found, ?_⟩
  rw [WaitSession.answer, done, WaitRegistration.watch, watched]
  exact congrArg (fun cursor => some (WaitOutcome.matched found cursor)) (replay_cursor session.router _ scope)

section Sample

def readyChange (number : EventSequence) (state : String) : EventRecord :=
  { pageChange number with payload := [("readiness", state)] }

def interactiveWait : WaitSession := .start {} 0 quietRouter (.payload "readiness" "interactive") none 100

def interactiveOnce : WaitSession := interactiveWait.step (.follow (.ingest (readyChange 1 "interactive")))

def interactiveThenDone : WaitSession := interactiveOnce.step (.follow (.ingest (readyChange 2 "complete")))

def interactiveTrace : List WaitMoment :=
  [⟨interactiveWait, .follow (.ingest (readyChange 1 "interactive")), interactiveOnce⟩]

def overwrittenTrace : List WaitMoment :=
  ⟨interactiveOnce, .follow (.ingest (readyChange 2 "complete")), interactiveThenDone⟩ :: interactiveTrace

theorem interactive_taken : takenSincePoll interactiveTrace = [readyChange 1 "interactive"] := by decide

theorem overwritten_taken :
    takenSincePoll overwrittenTrace = [readyChange 1 "interactive", readyChange 2 "complete"] := by decide

theorem interactive_undisturbed : Undisturbed interactiveTrace interactiveOnce where
  goes moment inside next same := by
    obtain rfl := List.mem_singleton.mp inside
    cases same
  calm := rfl
  retained first opens := by
    obtain rfl := Option.some.inj opens
    decide
  silent event inside := by
    rw [interactive_taken] at inside
    obtain rfl := List.mem_singleton.mp inside
    decide

theorem overwritten_undisturbed : Undisturbed overwrittenTrace interactiveThenDone where
  goes moment inside next same := by
    obtain rfl | inside := List.mem_cons.mp inside
    · cases same
    · obtain rfl := List.mem_singleton.mp inside
      cases same
  calm := rfl
  retained first opens := by
    obtain rfl := Option.some.inj opens
    decide
  silent event inside := by
    rw [overwritten_taken] at inside
    obtain rfl | inside := List.mem_cons.mp inside
    · decide
    · obtain rfl := List.mem_singleton.mp inside
      decide

end Sample

theorem interactive_matched : ∃ found,
    interactiveOnce.answer (.poll 1 false) = some (.matched found interactiveOnce.router.cursor) := by
  have run : WaitRun interactiveWait interactiveTrace interactiveOnce := .step .nil rfl
  have survives : readyChange 1 "interactive" ∈ surviving (.new 8) (takenSincePoll interactiveTrace) := by
    rw [interactive_taken]
    exact List.mem_singleton_self _
  refine surviving_event_matched .nil run ?_ interactive_undisturbed survives rfl rfl (by decide)
  intro moment inside outcome answered
  obtain rfl := List.mem_singleton.mp inside
  cases answered

/-- The change that the wait asks for is gone before the poll: the next change of the page took its place. -/
theorem overwritten_match_pends :
    WaitRun interactiveWait overwrittenTrace interactiveThenDone ∧ Unanswered overwrittenTrace ∧
      Undisturbed overwrittenTrace interactiveThenDone ∧
      readyChange 1 "interactive" ∈ takenSincePoll overwrittenTrace ∧
      interactiveWait.registration.condition.matches (readyChange 1 "interactive") = true ∧
      interactiveThenDone.answer (.poll 1 false) = some (.pending interactiveThenDone.router.cursor) := by
  have run : WaitRun interactiveWait overwrittenTrace interactiveThenDone := .step (.step .nil rfl) rfl
  refine ⟨run, ?_, overwritten_undisturbed, ?_, rfl, rfl⟩
  · intro moment inside outcome answered
    obtain rfl | inside := List.mem_cons.mp inside
    · cases answered
    · obtain rfl := List.mem_singleton.mp inside
      cases answered
  · rw [overwritten_taken]
    exact List.mem_cons_self

end AgentycHost
