import AgentycHost.System.Waits

set_option autoImplicit false

/-! # The end of a wait -/

namespace AgentycHost

open Shared

/-- Nothing happened for the quiet times of the condition. -/
def WaitCondition.quietOver (elapsed : Nat) : WaitCondition -> Bool
  | .networkIdle config => decide (config.quietFor ≤ elapsed)
  | .stableDom config => decide (config.quietFor ≤ elapsed) && decide (config.geometryQuietFor ≤ elapsed)
  | _ => false

namespace WaitRegistration

variable (registration : WaitRegistration)

/-- The poll finds the quiet time over before the deadline, and no event was delivered until then. -/
structure Lapses (clock : Timestamp) (router : EventRouter) : Prop where
  unfinished : registration.finished = false
  early : max clock registration.registeredAt < registration.deadline
  current : (router.replay registration.cursor registration.scope).result ≠ .resyncRequired
  silent : (router.replay registration.cursor registration.scope).events = []
  unobserved : registration.state.lastEvent = none
  quietly : registration.condition.quietOver (max clock registration.registeredAt - registration.registeredAt) = true

def Untouched : Prop := registration.state.lastEvent = none -> registration.state = .new registration.registeredAt

end WaitRegistration

theorem new_quiet (start now : Timestamp) (condition : WaitCondition) :
    (WaitState.new start).quiet now condition = condition.quietOver (now - start) := by
  cases condition <;> rfl

section Watching

variable (registration : WaitRegistration) (now : Timestamp)

theorem observeBatch_cases (events : List EventRecord) (unfinished : registration.finished = false) :
    (∃ after outcome, registration.observeBatch now events = (after, some outcome) ∧ after.finished = true ∧
      outcome.terminal = true) ∨
    ∃ after, registration.observeBatch now events = (after, none) ∧ after.finished = false ∧
      (events = [] ∧ after = registration ∨ after.state.lastEvent ≠ none) := by
  induction events generalizing registration with
  | nil => exact .inr ⟨registration, rfl, unfinished, .inl ⟨rfl, rfl⟩⟩
  | cons event rest ih =>
    unfold WaitRegistration.observeBatch
    split
    next => exact .inl ⟨_, _, rfl, rfl, rfl⟩
    next =>
      have observed : (registration.observing now event).state.lastEvent = some event := observe_lastEvent now _ event _
      obtain ⟨_, settled⟩ | ⟨_, settled⟩ := settle_cases (registration.observing now event) now
      · simp only [settled]
        obtain ends | ⟨after, watched, open_, nothing | some⟩ := ih (registration.observing now event) unfinished
        · exact .inl ends
        · refine .inr ⟨after, watched, open_, .inr ?_⟩
          rw [nothing.2, observed]
          rintro ⟨⟩
        · exact .inr ⟨after, watched, open_, .inr some⟩
      · -- with an event observed there is one to answer with
        simp only [settled, WaitState.matched, observed]
        cases (registration.observing now event).state.matchedEvent with
        | none => exact .inl ⟨_, _, rfl, rfl, rfl⟩
        | some matched => exact .inl ⟨_, _, rfl, rfl, rfl⟩

theorem watch_cases (events : List EventRecord) (unfinished : registration.finished = false) :
    ∃ after outcome, registration.watch now events = (after, outcome) ∧
      (after.finished = true ∧ outcome.terminal = true ∨
        outcome.terminal = false ∧ after.finished = false ∧
          (events = [] ∧ after.state = registration.state ∨ after.state.lastEvent ≠ none) ∨
        outcome.terminal = false ∧ after.finished = true ∧ events = [] ∧ after.state = registration.state ∧
          registration.state.lastEvent = none ∧ registration.state.quiet now registration.condition = true) := by
  unfold WaitRegistration.watch
  obtain ⟨after, outcome, watched, ended, terminal⟩ | ⟨after, watched, open_, frame⟩ :=
    observeBatch_cases registration now events unfinished
  · exact ⟨after, outcome, by rw [watched], .inl ⟨ended, terminal⟩⟩
  rw [watched]
  obtain ⟨_, settled⟩ | ⟨satisfied, settled⟩ := settle_cases after now
  · refine ⟨after, .pending after.cursor, by simp only [settled], .inr (.inl ⟨rfl, open_, ?_⟩)⟩
    rcases frame with ⟨nothing, rfl⟩ | some
    · exact .inl ⟨nothing, rfl⟩
    · exact .inr some
  simp only [settled]
  cases found : after.state.matched with
  | some event => exact ⟨_, _, rfl, .inl ⟨rfl, rfl⟩⟩
  | none =>
    obtain ⟨unmatched, unobserved⟩ := Option.or_eq_none_iff.mp found
    obtain ⟨rfl, rfl⟩ | some := frame
    · rw [WaitState.satisfied, unmatched] at satisfied
      exact ⟨_, _, rfl, .inr (.inr ⟨rfl, rfl, rfl, rfl, unobserved, satisfied⟩)⟩
    · exact absurd unobserved some

variable {registration} {clock : Timestamp} {router : EventRouter}

theorem poll_cases (unfinished : registration.finished = false) (untouched : registration.Untouched) (clock : Timestamp)
    (cancelled : Bool) (router : EventRouter) : ∃ after outcome,
      registration.poll clock cancelled router = (after, outcome) ∧
      (after.finished = true ∧ outcome.terminal = true ∨
        outcome.terminal = false ∧ after.finished = false ∧ after.Untouched ∨
        outcome.terminal = false ∧ after.finished = true ∧ cancelled = false ∧ registration.Lapses clock router) := by
  have continues := poll_continues registration clock cancelled router
  obtain ⟨_, done⟩ | ⟨_, _, done⟩ | ⟨_, _, _, done⟩ | ⟨going, early, current, done⟩ :=
    poll_ways registration unfinished clock cancelled router
  · exact ⟨_, _, done, .inl ⟨rfl, rfl⟩⟩
  · exact ⟨_, _, done, .inl ⟨rfl, rfl⟩⟩
  · exact ⟨_, _, done, .inl ⟨rfl, rfl⟩⟩
  obtain ⟨after, outcome, watched, ends | ⟨pending, open_, frame⟩ | ⟨pending, ended, silent, _, unobserved, quiet⟩⟩ :=
    watch_cases (registration.advancedTo (router.replay registration.cursor registration.scope).cursor)
      (max clock registration.registeredAt) (router.replay registration.cursor registration.scope).events unfinished
  · exact ⟨after, outcome, done.trans watched, .inl ends⟩
  · rw [done.trans watched] at continues
    refine ⟨after, outcome, done.trans watched, .inr (.inl ⟨pending, open_, ?_⟩)⟩
    intro unobserved
    obtain ⟨_, same⟩ | some := frame
    · rw [same, continues.registeredAt]
      exact untouched (same ▸ unobserved)
    · exact absurd unobserved some
  · refine ⟨after, outcome, done.trans watched, .inr (.inr ⟨pending, ended, going, ?_⟩)⟩
    have fresh : registration.state = .new registration.registeredAt := untouched unobserved
    refine ⟨unfinished, early, current, silent, unobserved, ?_⟩
    rw [← new_quiet, ← fresh]
    exact quiet

theorem WaitRegistration.Lapses.poll (untouched : registration.Untouched) (lapses : registration.Lapses clock router) :
    (registration.poll clock false router).1.finished = true := by
  obtain ⟨⟨⟩, _⟩ | ⟨_, late, _⟩ | ⟨_, _, resync, _⟩ | ⟨_, _, _, done⟩ :=
    poll_ways registration lapses.unfinished clock false router
  · exact absurd lapses.early (Nat.not_lt_of_le late)
  · exact absurd resync lapses.current
  have fresh : registration.state = .new registration.registeredAt := untouched lapses.unobserved
  have satisfied : registration.state.satisfied (max clock registration.registeredAt) registration.condition = true := by
    rw [WaitState.satisfied, fresh, new_quiet, lapses.quietly, Bool.or_true]
  obtain ⟨unsatisfied, _⟩ | ⟨_, settled⟩ := settle_cases
    (registration.advancedTo (router.replay registration.cursor registration.scope).cursor) (max clock registration.registeredAt)
  · exact absurd (unsatisfied.symm.trans satisfied) Bool.false_ne_true
  rw [done, lapses.silent]
  unfold WaitRegistration.watch WaitRegistration.observeBatch
  simp only [settled]
  cases (registration.advancedTo (router.replay registration.cursor registration.scope).cursor).state.matched with
  | none => rfl
  | some event => rfl

end Watching

section Runs

variable (engine : WaitEngine) (now : Timestamp) (router : EventRouter) (condition : WaitCondition)
  (scope : Option EventScope) (deadline : Timestamp)

/-- The poll of this moment lets the wait lapse. -/
def WaitLapses (moment : WaitMoment) : Prop :=
  ∃ clock, moment.label = .poll clock false ∧ moment.before.registration.Lapses clock moment.before.router

/-- The answers so far left the wait open. -/
def Unanswered (trace : List WaitMoment) : Prop :=
  ∀ moment, moment ∈ trace -> ∀ outcome, moment.before.answer moment.label = some outcome ->
    outcome.terminal = false

variable {engine now router condition scope deadline} {trace : List WaitMoment} {last : WaitSession}

theorem run_finished {start : WaitSession} (run : WaitRun start trace last) (finished : start.registration.finished = true) :
    last.registration.finished = true := by
  refine run.keeps (fun session => session.registration.finished = true) finished ?_
  intro moment _ taken finished
  rw [taken]
  cases moment.label with
  | follow command => exact finished
  | poll clock cancelled =>
    show (moment.before.registration.poll clock cancelled moment.before.router).1.finished = true
    rw [poll_finished _ finished]
    exact finished

theorem run_open (run : WaitRun (.start engine now router condition scope deadline) trace last)
    (unanswered : Unanswered trace) :
    (last.registration.finished = false ∧ last.registration.Untouched) ∨ ∃ moment, moment ∈ trace ∧ WaitLapses moment := by
  induction run with
  | nil => exact .inl ⟨rfl, fun _ => rfl⟩
  | @step trace before after input earlier taken ih =>
    obtain ⟨open_, untouched⟩ | ⟨moment, inside, lapsed⟩ := ih fun moment inside =>
      unanswered moment (List.mem_cons_of_mem _ inside)
    · rw [taken]
      cases input with
      | follow command => exact .inl ⟨open_, untouched⟩
      | poll clock cancelled =>
        obtain ⟨after, outcome, done, ⟨_, terminal⟩ | ⟨_, going, same⟩ | ⟨_, _, rfl, lapses⟩⟩ :=
          poll_cases open_ untouched clock cancelled before.router
        · have left := unanswered _ List.mem_cons_self outcome (by rw [WaitSession.answer, done])
          rw [terminal] at left
          cases left
        · rw [WaitSession.step, done]
          exact .inl ⟨going, same⟩
        · exact .inr ⟨_, List.mem_cons_self, clock, rfl, lapses⟩
    · exact .inr ⟨moment, List.mem_cons_of_mem _ inside, lapsed⟩

theorem run_lapsed (run : WaitRun (.start engine now router condition scope deadline) trace last)
    (unanswered : Unanswered trace) (lapsed : ∃ moment, moment ∈ trace ∧ WaitLapses moment) :
    last.registration.finished = true := by
  induction run with
  | nil =>
    obtain ⟨_, inside, _⟩ := lapsed
    cases inside
  | @step trace _ _ _ earlier taken ih =>
    have ended := run_finished (Run.step .nil taken)
    have before := fun moment inside => unanswered moment (List.mem_cons_of_mem _ inside)
    by_cases early : ∃ moment, moment ∈ trace ∧ WaitLapses moment
    · exact ended (ih before early)
    obtain ⟨moment, inside, lapses⟩ := lapsed
    obtain rfl | inside := List.mem_cons.mp inside
    · obtain ⟨clock, rfl, lapses⟩ := lapses
      obtain ⟨_, untouched⟩ | found := run_open earlier before
      · rw [taken]
        exact lapses.poll untouched
      · exact absurd found early
    · exact absurd ⟨moment, inside, lapses⟩ early

/-- A cancelled poll says so, and a poll at the deadline says that it passed. -/
def WaitSession.Ends (session : WaitSession) : Prop :=
  ∀ clock,
    session.answer (.poll clock true) = some (.cancelled session.registration.cursor) ∧
    (session.registration.deadline ≤ clock ->
      session.answer (.poll clock false) = some (.deadlineExceeded session.registration.cursor))

theorem ends_iff (session : WaitSession) : session.Ends <-> session.registration.finished = false := by
  constructor
  · intro ends
    cases finished : session.registration.finished with
    | false => rfl
    | true =>
      have cancelled := (ends 0).1
      rw [WaitSession.answer, poll_finished _ finished] at cancelled
      cases cancelled
  · intro open_ clock
    constructor
    · obtain ⟨_, done⟩ | ⟨⟨⟩, _⟩ | ⟨⟨⟩, _⟩ | ⟨⟨⟩, _⟩ := poll_ways session.registration open_ clock true session.router
      rw [WaitSession.answer, done]
    · intro late
      have passed : session.registration.deadline ≤ max clock session.registration.registeredAt :=
        Nat.le_trans late (Nat.le_max_left _ _)
      obtain ⟨⟨⟩, _⟩ | ⟨_, _, done⟩ | ⟨_, early, _⟩ | ⟨_, early, _⟩ :=
        poll_ways session.registration open_ clock false session.router
      · rw [WaitSession.answer, done]
      · exact absurd early (Nat.not_lt_of_le passed)
      · exact absurd early (Nat.not_lt_of_le passed)

end Runs

/-- A wait that was not answered yet ends at its cancellation or its deadline, unless it lapsed. -/
theorem unanswered_wait_ends_iff (engine : WaitEngine) (now : Timestamp) (router : EventRouter) (condition : WaitCondition)
    (scope : Option EventScope) (deadline : Timestamp) (trace : List WaitMoment) (last : WaitSession)
    (run : WaitRun (.start engine now router condition scope deadline) trace last) (unanswered : Unanswered trace) :
    last.registration.deadline = deadline ∧
      (last.Ends <-> ∀ moment, moment ∈ trace -> ¬ WaitLapses moment) := by
  refine ⟨(run_continues run).deadline, ?_⟩
  rw [ends_iff]
  constructor
  · intro open_ moment inside lapses
    have ended := run_lapsed run unanswered ⟨moment, inside, lapses⟩
    rw [open_] at ended
    cases ended
  · intro steady
    obtain ⟨open_, _⟩ | ⟨moment, inside, lapses⟩ := run_open run unanswered
    · exact open_
    · exact absurd lapses (steady moment inside)

section Sample

def idleWait : WaitSession := .start {} 0 quietRouter (.networkIdle ⟨5⟩) none 100

end Sample

theorem unanswered_wait_ends_sample : ∃ last,
    WaitRun idleWait [⟨idleWait, .poll 3 false, last⟩] last ∧
      last.answer (.poll 100 false) = some (.deadlineExceeded last.registration.cursor) := by
  have run : WaitRun idleWait [⟨idleWait, .poll 3 false, idleWait.step (.poll 3 false)⟩] (idleWait.step (.poll 3 false)) :=
    .step .nil rfl
  refine ⟨_, run, ?_⟩
  have ends := unanswered_wait_ends_iff {} 0 quietRouter (.networkIdle ⟨5⟩) none 100 _ _ run (by
    intro moment inside outcome answered
    obtain rfl := List.mem_singleton.mp inside
    obtain rfl := Option.some.inj answered
    rfl)
  refine ((ends.2.mpr ?_) 100).2 ?_
  · rintro moment inside ⟨clock, told, lapses⟩
    obtain rfl := List.mem_singleton.mp inside
    obtain ⟨rfl, _⟩ := WaitInput.poll.inj told
    exact absurd lapses.quietly (by decide)
  · rw [ends.1]

theorem idle_wait_pends : ∃ last,
    WaitRun idleWait [⟨idleWait, .poll 5 false, last⟩] last ∧
      idleWait.answer (.poll 5 false) = some (.pending quietRouter.cursor) ∧ last.registration.deadline = 100 ∧
      last.answer (.poll 100 false) = some (.pending quietRouter.cursor) :=
  ⟨_, .step .nil rfl, rfl, rfl, rfl⟩

end AgentycHost
