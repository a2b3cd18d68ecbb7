import AgentycHost.Safety.Completeness

set_option autoImplicit false

/-! # What a batch does as a whole -/

namespace AgentycHost

open Shared

variable {start router : EventRouter} {event : EventRecord} {events : List EventRecord} {batch : EventBatch}
  {cursor : EventCursor} {reached bound : EventSequence} {previous : Option EventSequence}

section Checks

/-- What `ingestBatch` looks at before it takes an event in. -/
def EventRouter.checksOf (router : EventRouter) (batch : EventBatch) : Except RouterResyncReason Unit := do
  require (decide (batch.brokerEpoch = router.brokerEpoch ∧ batch.cursor.brokerEpoch = router.brokerEpoch))
    .brokerEpochChanged
  require (decide (router.sequence ≤ batch.cursor.sequence)) .invalidBatchCursor
  require (decide (batch.result ≠ .resyncRequired)) .brokerResync
  router.checkBatch batch.cursor router.sequence none batch.events

theorem ingestBatch_stopped {reason : RouterResyncReason} (stopped : router.checksOf batch = .error reason) :
    router.ingestBatch batch = router.requireResync reason := by
  unfold EventRouter.checksOf require at stopped
  unfold EventRouter.ingestBatch
  by_cases other : batch.brokerEpoch ≠ router.brokerEpoch ∨ batch.cursor.brokerEpoch ≠ router.brokerEpoch
  · have differ : ¬ (batch.brokerEpoch = router.brokerEpoch ∧ batch.cursor.brokerEpoch = router.brokerEpoch) := by
      rw [not_and_or]
      exact other
    rw [decide_eq_false differ] at stopped
    cases stopped
    rw [if_pos other]
  rw [not_or, not_not, not_not] at other
  rw [decide_eq_true other] at stopped
  rw [if_neg (by simp [other])]
  by_cases behind : batch.cursor.sequence < router.sequence
  · rw [decide_eq_false (Nat.not_le_of_lt behind)] at stopped
    cases stopped
    rw [if_pos behind]
  rw [decide_eq_true (Nat.le_of_not_lt behind)] at stopped
  rw [if_neg behind]
  by_cases asks : batch.result = .resyncRequired
  · rw [decide_eq_false (not_not.mpr asks)] at stopped
    cases stopped
    rw [if_pos asks]
  rw [decide_eq_true asks] at stopped
  rw [if_neg asks]
  have refused : router.checkBatch batch.cursor router.sequence none batch.events = .error reason := stopped
  rw [refused]

structure BatchChecked (router : EventRouter) (batch : EventBatch) : Prop where
  brokerEpoch : batch.brokerEpoch = router.brokerEpoch
  cursorEpoch : batch.cursor.brokerEpoch = router.brokerEpoch
  ahead : router.sequence ≤ batch.cursor.sequence
  accepted : batch.result ≠ .resyncRequired
  events : router.checkBatch batch.cursor router.sequence none batch.events = .ok ()

theorem checksOf_ok : router.checksOf batch = .ok () <-> BatchChecked router batch := by
  simp only [EventRouter.checksOf, bind_ok, require_ok, decide_eq_true_eq]
  constructor
  · rintro ⟨_, ⟨epoch, cursorEpoch⟩, _, ahead, _, accepted, checked⟩
    exact ⟨epoch, cursorEpoch, ahead, accepted, checked⟩
  · intro checked
    exact ⟨(), ⟨checked.brokerEpoch, checked.cursorEpoch⟩, (), checked.ahead, (), checked.accepted, checked.events⟩

def EventRouter.reach (router : EventRouter) (cursor : EventCursor) : EventRouter :=
  if !router.resyncRequired && decide (router.sequence < cursor.sequence) then { router with sequence := cursor.sequence }
  else router

theorem reach_sequence (below : router.sequence ≤ cursor.sequence) (calm : (router.reach cursor).resyncRequired = false) :
    (router.reach cursor).sequence = cursor.sequence := by
  unfold EventRouter.reach at calm ⊢
  split_ifs at calm ⊢ with behind
  · rfl
  · simp only [calm, Bool.not_false, Bool.true_and, decide_eq_true_eq] at behind
    exact Nat.le_antisymm below (Nat.le_of_not_lt behind)

theorem ingestBatch_checked (checked : BatchChecked router batch) :
    (∃ outcome, (router.takeBatch batch.events).2 = some outcome ∧
      router.ingestBatch batch = ((router.takeBatch batch.events).1, outcome)) ∨
    ((router.takeBatch batch.events).2 = none ∧ router.ingestBatch batch =
      ((router.takeBatch batch.events).1.reach batch.cursor,
        .accepted ((router.takeBatch batch.events).1.reach batch.cursor).cursor)) := by
  have same : ¬ (batch.brokerEpoch ≠ router.brokerEpoch ∨ batch.cursor.brokerEpoch ≠ router.brokerEpoch) := by
    simp [checked.brokerEpoch, checked.cursorEpoch]
  unfold EventRouter.ingestBatch
  rw [if_neg same, if_neg (Nat.not_lt_of_le checked.ahead), if_neg checked.accepted, checked.events]
  dsimp only
  split
  next stopped => exact .inl ⟨_, by rw [stopped], by rw [stopped]⟩
  next ended =>
    right
    rw [ended]
    exact ⟨rfl, rfl⟩

theorem checkBatch_cons {rest : List EventRecord}
    (checked : start.checkBatch cursor reached previous (event :: rest) = .ok ()) :
    event.brokerEpoch = start.brokerEpoch ∧ event.sequence ≤ cursor.sequence ∧
      ((event.eventId ∈ start.seenEventIds ∧ start.checkBatch cursor reached previous rest = .ok ()) ∨
        (event.eventId ∉ start.seenEventIds ∧ start.resyncRequired = false ∧ event.validateRouting = .ok () ∧
          reached < event.sequence ∧ start.checkBatch cursor event.sequence (some event.sequence) rest = .ok ())) := by
  rw [EventRouter.checkBatch] at checked
  simp only [bind_ok, require_ok, decide_eq_true_eq] at checked
  obtain ⟨_, ⟨epoch, _, within⟩, others⟩ := checked
  refine ⟨epoch, within, ?_⟩
  by_cases seen : event.eventId ∈ start.seenEventIds
  · rw [if_pos seen] at others
    exact .inl ⟨seen, others⟩
  · rw [if_neg seen] at others
    simp only [bind_ok, require_ok, Bool.not_eq_true', decide_eq_true_eq] at others
    obtain ⟨_, calm, _, _, _, routed, _, later, _, _, checked⟩ := others
    exact .inr ⟨seen, calm, toBool_ok.mp routed, later, checked⟩

theorem checkBatch_within (checked : start.checkBatch cursor reached previous events = .ok ()) :
    ∀ event, event ∈ events -> event.sequence ≤ cursor.sequence := by
  induction events generalizing reached previous with
  | nil => simp
  | cons first rest ih =>
    obtain ⟨_, within, others⟩ := checkBatch_cons checked
    intro event inside
    obtain rfl | later := List.mem_cons.mp inside
    · exact within
    · obtain ⟨_, checked⟩ | ⟨_, _, _, _, checked⟩ := others
      · exact ih checked event later
      · exact ih checked event later

theorem checkBatch_known (checked : start.checkBatch cursor reached previous events = .ok ())
    (noisy : start.resyncRequired = true) : ∀ event, event ∈ events -> event.eventId ∈ start.seenEventIds := by
  induction events generalizing reached previous with
  | nil => simp
  | cons first rest ih =>
    obtain ⟨_, _, ⟨seen, checked⟩ | ⟨_, calm, _⟩⟩ := checkBatch_cons checked
    · intro event inside
      obtain rfl | later := List.mem_cons.mp inside
      · exact seen
      · exact ih checked event later
    · rw [noisy] at calm
      cases calm

end Checks

section Taking

theorem noted_seen (router : EventRouter) (event : EventRecord) :
    (router.noted event).seenEventIds = (router.rememberEventId event.eventId).seenEventIds ∧
      (router.noted event).seenEventOrder = (router.rememberEventId event.eventId).seenEventOrder := by
  unfold EventRouter.noted EventRouter.rememberEventId
  dsimp only
  split_ifs <;> exact ⟨rfl, rfl⟩

theorem retain_seen (router : EventRouter) (event : EventRecord) :
    (router.retain event).1.seenEventIds = router.seenEventIds ∧
      (router.retain event).1.seenEventOrder = router.seenEventOrder := by
  unfold EventRouter.retain
  dsimp only
  split_ifs <;> exact ⟨rfl, rfl⟩

theorem ingest_seen (takes : TakesIn router event) :
    (router.ingest event).1.seenEventIds = (router.rememberEventId event.eventId).seenEventIds ∧
      (router.ingest event).1.seenEventOrder = (router.rememberEventId event.eventId).seenEventOrder := by
  obtain ⟨ids, order⟩ := retain_seen (router.noted event) event
  obtain ⟨notedIds, notedOrder⟩ := noted_seen router event
  rw [ingest_takes takes]
  exact ⟨ids.trans notedIds, order.trans notedOrder⟩

theorem takeBatch_cons {rest : List EventRecord} (ended : (router.takeBatch (event :: rest)).2 = none) :
    (event.brokerEpoch = router.brokerEpoch ∧ event.eventId ∈ router.seenEventIds ∧
      router.takeBatch (event :: rest) = router.takeBatch rest) ∨
    (¬ (event.brokerEpoch = router.brokerEpoch ∧ event.eventId ∈ router.seenEventIds) ∧
      TakesIn (router.skipTo event) event ∧
      router.takeBatch (event :: rest) = ((router.skipTo event).ingest event).1.takeBatch rest) := by
  rw [EventRouter.takeBatch] at ended ⊢
  by_cases seen : event.brokerEpoch = router.brokerEpoch ∧ event.eventId ∈ router.seenEventIds
  · have same : router.ingest event = (router, .accepted router.cursor) := by
      simp [EventRouter.ingest, seen.1, seen.2]
    rw [if_pos seen, same]
    exact .inl ⟨seen.1, seen.2, rfl⟩
  rw [if_neg seen] at ended ⊢
  by_cases full : (checkedNext router.sequence).isNone = true
  · rw [if_pos full] at ended
    cases ended
  rw [if_neg full] at ended ⊢
  refine .inr ⟨seen, ?_, ?_⟩
  · obtain ⟨_, refused⟩ | ⟨epoch, known, _⟩ | ⟨takes, _⟩ := ingest_cases (router.skipTo event) event
    · rw [refused] at ended
      cases ended
    · rw [(skipTo_origin router event).2] at epoch
      rw [(skipTo_calm router event).2.1] at known
      exact absurd ⟨epoch, known⟩ seen
    · exact takes
  · split at ended
    next => cases ended
    next accepted => rw [accepted]

theorem takeBatch_whole (ended : (router.takeBatch events).2 = none) : ∀ event, event ∈ events ->
    event.eventId ∈ router.seenEventIds ∨
      ∃ taken, taken ∈ router.takenFrom events ∧ taken.eventId = event.eventId := by
  induction events generalizing router with
  | nil => simp
  | cons first rest ih =>
    rw [EventRouter.takenFrom]
    obtain ⟨epoch, seen, same⟩ | ⟨unseen, takes, same⟩ := takeBatch_cons ended
    · rw [if_pos ⟨epoch, seen⟩]
      rw [same] at ended
      intro event inside
      obtain rfl | later := List.mem_cons.mp inside
      · exact .inl seen
      · exact ih ended event later
    · have moves : (router.skipTo first).takes first = true := by
        rw [EventRouter.takes, ingest_sequence takes]
        exact decide_eq_true takes.above
      rw [if_neg unseen, if_pos moves]
      rw [same] at ended
      intro event inside
      obtain rfl | later := List.mem_cons.mp inside
      · exact .inr ⟨event, List.mem_cons_self, rfl⟩
      obtain seen | ⟨taken, there, named⟩ := ih ended event later
      · -- the first event may be what made it known
        obtain ⟨_, _, remembered, known⟩ := (router.skipTo first).rememberEventId_order first.eventId
        rw [(ingest_seen takes).1, remembered] at seen
        obtain old | new := known _ seen
        · rw [(skipTo_calm router first).2.1] at old
          exact .inl old
        · exact .inr ⟨first, List.mem_cons_self, new.symm⟩
      · exact .inr ⟨taken, List.mem_cons_of_mem _ there, named⟩

theorem takeBatch_within (ended : (router.takeBatch events).2 = none) (below : router.sequence ≤ bound)
    (within : ∀ event, event ∈ events -> event.sequence ≤ bound) :
    (router.takeBatch events).1.sequence ≤ bound := by
  induction events generalizing router with
  | nil => exact below
  | cons first rest ih =>
    have later : ∀ event, event ∈ rest -> event.sequence ≤ bound :=
      fun event inside => within event (List.mem_cons_of_mem _ inside)
    obtain ⟨_, _, same⟩ | ⟨_, takes, same⟩ := takeBatch_cons ended
    · rw [same] at ended ⊢
      exact ih ended below later
    · rw [same] at ended ⊢
      apply ih ended ?_ later
      rw [ingest_sequence takes]
      exact within first List.mem_cons_self

end Taking

section Remembered

variable {other memory : EventRouter} {rest : List EventRecord}

/-- What the router remembers once the events have gone by. -/
def EventRouter.remembering (router : EventRouter) : List EventRecord -> EventRouter
  | [] => router
  | event :: rest => (router.rememberEventId event.eventId).remembering rest

/-- Each event that the router knows when the batch comes is still remembered when its turn comes. -/
def KnownInTurn (router : EventRouter) (events : List EventRecord) : Prop :=
  ∀ before event after, events = before ++ event :: after -> event.eventId ∈ router.seenEventIds ->
    event.eventId ∈ (router.remembering before).seenEventIds

/-- No event that is new to the router comes after a new event that asks for a resync. -/
def CalmInTurn (router : EventRouter) (events : List EventRecord) : Prop :=
  ∀ before event after, events = before ++ event :: after -> event.eventId ∉ router.seenEventIds ->
    event.resyncRequired = true -> ∀ later, later ∈ after -> later.eventId ∈ router.seenEventIds

structure SameMemory (router other : EventRouter) : Prop where
  limits : router.limits = other.limits
  seenEventIds : router.seenEventIds = other.seenEventIds
  seenEventOrder : router.seenEventOrder = other.seenEventOrder

theorem SameMemory.remember (same : SameMemory router other) (eventId : EventId) :
    SameMemory (router.rememberEventId eventId) (other.rememberEventId eventId) := by
  obtain ⟨limits, ids, order⟩ := same
  unfold EventRouter.rememberEventId
  rw [limits, ids, order]
  split_ifs with seen
  · exact ⟨limits, ids, order⟩
  · exact ⟨rfl, rfl, rfl⟩

theorem SameMemory.trans {middle : EventRouter} (first : SameMemory router middle) (second : SameMemory middle other) :
    SameMemory router other :=
  ⟨first.limits.trans second.limits, first.seenEventIds.trans second.seenEventIds,
    first.seenEventOrder.trans second.seenEventOrder⟩

theorem remember_limits (router : EventRouter) (eventId : EventId) :
    (router.rememberEventId eventId).limits = router.limits := by
  unfold EventRouter.rememberEventId
  split_ifs <;> rfl

theorem remember_known {eventId : EventId} (known : eventId ∈ router.seenEventIds) :
    router.rememberEventId eventId = router := by
  rw [EventRouter.rememberEventId, if_pos known]

/-- Every event that was known when the batch came is known at its turn; `memory` is what the
events before have made of it. -/
def TurnsKnown (start memory : EventRouter) (events : List EventRecord) : Prop :=
  ∀ before event after, events = before ++ event :: after -> event.eventId ∈ start.seenEventIds ->
    event.eventId ∈ (memory.remembering before).seenEventIds

theorem TurnsKnown.tail (known : TurnsKnown start memory (event :: rest)) :
    TurnsKnown start (memory.rememberEventId event.eventId) rest := by
  intro before later after split
  exact known (event :: before) later after (by rw [split, List.cons_append])

theorem CalmInTurn.tail (calm : CalmInTurn start (event :: rest)) : CalmInTurn start rest := by
  intro before later after split
  exact calm (event :: before) later after (by rw [split, List.cons_append])

theorem skipTo_memory (router : EventRouter) (event : EventRecord) : SameMemory (router.skipTo event) router := by
  unfold EventRouter.skipTo
  split_ifs <;> exact ⟨rfl, rfl, rfl⟩

theorem skipTo_sequence (below : router.sequence < event.sequence) :
    (router.skipTo event).sequence + 1 = event.sequence := by
  unfold EventRouter.skipTo
  split_ifs with gap
  · exact Nat.sub_add_cancel (Nat.le_of_lt (Nat.lt_of_le_of_lt (Nat.le_add_left 1 _) gap))
  · exact Nat.le_antisymm below (Nat.le_of_not_lt gap)

theorem ingest_accepted (takes : TakesIn router event) (room : 0 < router.limits.maxEvents) :
    ∃ cursor, (router.ingest event).2 = .accepted cursor := by
  have limits : (router.noted event).limits = router.limits := by
    obtain ⟨_, _, same⟩ := noted_same takes
    rw [same]
  rw [ingest_takes takes, EventRouter.retain, limits]
  dsimp only
  split_ifs with merges full
  · exact ⟨_, rfl⟩
  · exact absurd full (Nat.pos_iff_ne_zero.mp room)
  · exact ⟨_, rfl⟩

theorem ingest_asks (takes : TakesIn router event) (room : 0 < router.limits.maxEvents) :
    (router.ingest event).1.resyncRequired = event.resyncRequired := by
  obtain ⟨_, _, same⟩ := noted_same takes
  have asks : (router.noted event).resyncRequired = event.resyncRequired := by rw [same]
  have limits : (router.noted event).limits = router.limits := by rw [same]
  rw [ingest_takes takes, EventRouter.retain, limits]
  dsimp only
  split_ifs with merges full
  · exact asks
  · exact absurd full (Nat.pos_iff_ne_zero.mp room)
  · exact asks

theorem takeBatch_accepts (checked : start.checkBatch cursor reached previous events = .ok ())
    (word : cursor.sequence ≤ u64Max) (epoch : router.brokerEpoch = start.brokerEpoch)
    (below : router.sequence ≤ reached) (same : SameMemory router memory) (known : TurnsKnown start memory events)
    (calm : CalmInTurn start events)
    (room : ∀ event, event ∈ events -> event.eventId ∉ start.seenEventIds -> 0 < router.limits.maxEvents)
    (quiet : router.resyncRequired = true -> ∀ event, event ∈ events -> event.eventId ∈ start.seenEventIds) :
    (router.takeBatch events).2 = none := by
  induction events generalizing router memory reached previous with
  | nil => rfl
  | cons event rest ih =>
    obtain ⟨origin, within, others⟩ := checkBatch_cons checked
    have brokerEpoch : event.brokerEpoch = router.brokerEpoch := origin.trans epoch.symm
    have restRoom : ∀ later, later ∈ rest -> later.eventId ∉ start.seenEventIds -> 0 < router.limits.maxEvents :=
      fun later inside => room later (List.mem_cons_of_mem _ inside)
    have restQuiet : router.resyncRequired = true -> ∀ later, later ∈ rest -> later.eventId ∈ start.seenEventIds :=
      fun noisy later inside => quiet noisy later (List.mem_cons_of_mem _ inside)
    rw [EventRouter.takeBatch]
    by_cases seen : event.eventId ∈ router.seenEventIds
    · have passed : router.ingest event = (router, .accepted router.cursor) := by
        simp [EventRouter.ingest, brokerEpoch, seen]
      have later : TurnsKnown start memory rest := by
        have tail := known.tail
        rwa [remember_known (same.seenEventIds ▸ seen)] at tail
      rw [if_pos ⟨brokerEpoch, seen⟩, passed]
      obtain ⟨_, checked⟩ | ⟨_, _, _, further, checked⟩ := others
      · exact ih checked epoch below same later calm.tail restRoom restQuiet
      · -- the batch names one event twice, and its number is left out
        exact ih checked epoch (Nat.le_trans below (Nat.le_of_lt further)) same later calm.tail restRoom restQuiet
    rw [if_neg (fun holds => seen holds.2)]
    have fresh : event.eventId ∉ start.seenEventIds := by
      intro old
      have still := known [] event rest rfl old
      rw [EventRouter.remembering, ← same.seenEventIds] at still
      exact seen still
    obtain ⟨old, _⟩ | ⟨_, _, routed, further, checked⟩ := others
    · exact absurd old fresh
    have ahead : router.sequence < event.sequence := Nat.lt_of_le_of_lt below further
    have bounded : event.sequence ≤ u64Max := Nat.le_trans within word
    have next : (checkedNext router.sequence).isNone = false := by
      rw [checkedNext_eq_some.mpr ⟨Nat.lt_of_lt_of_le ahead bounded, rfl⟩]
      rfl
    have silent : router.resyncRequired = false := by
      by_contra noisy
      exact fresh (quiet (by simpa using noisy) event List.mem_cons_self)
    obtain ⟨skippedCalm, skippedIds, _⟩ := skipTo_calm router event
    obtain ⟨skippedLimits, skippedEpoch⟩ := skipTo_origin router event
    have takes : TakesIn (router.skipTo event) event :=
      ⟨brokerEpoch.trans skippedEpoch.symm, by rwa [skippedIds], skippedCalm.trans silent, routed,
        (skipTo_sequence ahead).symm, bounded⟩
    have skippedRoom : 0 < (router.skipTo event).limits.maxEvents := by
      rw [skippedLimits]
      exact room event List.mem_cons_self fresh
    obtain ⟨accepted, taken⟩ := ingest_accepted takes skippedRoom
    rw [next, if_neg Bool.false_ne_true]
    split
    next refused =>
      rw [refused] at taken
      cases taken
    next after _ ended =>
      have result : after = ((router.skipTo event).ingest event).1 := by rw [ended]
      obtain ⟨limits, brokerAfter⟩ := ingest_origin (router.skipTo event) event
      rw [result]
      refine ih checked ?_ ?_ (?_ : SameMemory _ (memory.rememberEventId event.eventId)) known.tail calm.tail ?_ ?_
      · rw [brokerAfter, skippedEpoch, epoch]
      · rw [ingest_sequence takes]
      · obtain ⟨ids, order⟩ := ingest_seen takes
        have met := ((skipTo_memory router event).remember event.eventId).trans (same.remember event.eventId)
        refine ⟨?_, ids.trans met.seenEventIds, order.trans met.seenEventOrder⟩
        rw [limits, skippedLimits, same.limits, remember_limits]
      · rw [limits, skippedLimits]
        exact restRoom
      · rw [ingest_asks takes skippedRoom]
        exact calm [] event rest rfl fresh

end Remembered

section Whole

variable {outcome : RouterIngest}

/-- Nothing that a replay or a later batch reads has changed. -/
structure SameContents (router after : EventRouter) : Prop where
  events : after.events = router.events
  retainedStarts : after.retainedStarts = router.retainedStarts
  sequence : after.sequence = router.sequence
  seenEventIds : after.seenEventIds = router.seenEventIds
  seenEventOrder : after.seenEventOrder = router.seenEventOrder

theorem takeBatch_stopped (stopped : (router.takeBatch events).2 = some outcome) :
    (router.takeBatch events).1.resyncRequired = true := by
  induction events generalizing router with
  | nil => cases stopped
  | cons event rest ih =>
    unfold EventRouter.takeBatch at stopped ⊢
    split_ifs at stopped ⊢
    · exact ih stopped
    · rfl
    · split at stopped
      next after _ _ refused =>
        have noisy := ingest_refused (congrArg Prod.snd refused)
        rw [refused] at noisy
        exact noisy
      next => exact ih stopped

theorem takeBatch_outcome (stopped : (router.takeBatch events).2 = some outcome) :
    outcome ≠ .accepted cursor := by
  induction events generalizing router with
  | nil => cases stopped
  | cons event rest ih =>
    unfold EventRouter.takeBatch at stopped
    split_ifs at stopped
    · exact ih stopped
    · cases stopped
      rintro ⟨⟩
    · split at stopped
      next =>
        cases stopped
        rintro ⟨⟩
      next => exact ih stopped

theorem ingestBatch_refused {reason : RouterResyncReason}
    (refused : (router.ingestBatch batch).2 = .resyncRequired cursor reason) :
    (router.ingestBatch batch).1.resyncRequired = true := by
  cases checks : router.checksOf batch with
  | error reason =>
    rw [ingestBatch_stopped checks]
    rfl
  | ok done =>
    obtain ⟨outcome, stopped, same⟩ | ⟨_, same⟩ := ingestBatch_checked (checksOf_ok.mp checks)
    · rw [same]
      exact takeBatch_stopped stopped
    · rw [same] at refused
      cases refused

theorem ingestBatch_accepted (accepted : (router.ingestBatch batch).2 = .accepted cursor) :
    BatchChecked router batch ∧ (router.takeBatch batch.events).2 = none ∧
      (router.ingestBatch batch).1 = (router.takeBatch batch.events).1.reach batch.cursor := by
  cases checks : router.checksOf batch with
  | error reason =>
    rw [ingestBatch_stopped checks] at accepted
    cases accepted
  | ok done =>
    have checked := checksOf_ok.mp checks
    obtain ⟨outcome, stopped, same⟩ | ⟨ended, same⟩ := ingestBatch_checked checked
    · rw [same] at accepted
      exact absurd accepted (takeBatch_outcome stopped)
    · rw [same]
      exact ⟨checked, ended, rfl⟩

theorem follow_all_noisy {commands : List RouterCommand} (noisy : router.resyncRequired = true)
    (goes : ∀ next, .reset next ∉ commands) : (commands.foldl EventRouter.follow router).resyncRequired = true := by
  induction commands generalizing router with
  | nil => exact noisy
  | cons command rest ih =>
    apply ih
    · exact follow_noisy noisy fun next same => goes next (same ▸ List.mem_cons_self)
    · exact fun next inside => goes next (List.mem_cons_of_mem _ inside)

theorem replay_noisy (noisy : router.resyncRequired = true) (after : EventCursor) (scope : Option EventScope) :
    (router.replay after scope).result = .resyncRequired := by
  obtain ⟨refused, _⟩ | ⟨calm, _⟩ := replay_cases router after scope
  · exact refused
  · rw [noisy] at calm
    cases calm

/-- What the checks refuse changes nothing. What stops half way is served to nobody before a reset. What is accepted is
taken in whole, up to its cursor unless an event of it asks for a resync; and what passes the checks is accepted, when
the router keeps records, forgets nothing of the batch before its turn, and is not asked to resync on the way. -/
theorem batch_applied (router : EventRouter) (batch : EventBatch) (word : batch.cursor.sequence ≤ u64Max) :
    (∀ reason, router.checksOf batch = .error reason ->
      SameContents router (router.ingestBatch batch).1 ∧
        ∃ cursor reason, (router.ingestBatch batch).2 = .resyncRequired cursor reason) ∧
    (∀ cursor reason, (router.ingestBatch batch).2 = .resyncRequired cursor reason ->
      ∀ commands : List RouterCommand, (∀ next, .reset next ∉ commands) -> ∀ after scope,
        ((commands.foldl EventRouter.follow (router.ingestBatch batch).1).replay after scope).result = .resyncRequired) ∧
    (∀ cursor, (router.ingestBatch batch).2 = .accepted cursor ->
      (∀ event, event ∈ batch.events -> event.eventId ∈ router.seenEventIds ∨
        ∃ taken, taken ∈ router.takenFrom batch.events ∧ taken.eventId = event.eventId) ∧
      ((router.ingestBatch batch).1.resyncRequired = false ->
        (router.ingestBatch batch).1.sequence = batch.cursor.sequence)) ∧
    (router.checksOf batch = .ok () ->
      (∀ event, event ∈ batch.events -> event.eventId ∉ router.seenEventIds -> 0 < router.limits.maxEvents) ->
      KnownInTurn router batch.events -> CalmInTurn router batch.events ->
        ∃ cursor, (router.ingestBatch batch).2 = .accepted cursor) := by
  refine ⟨?_, ?_, ?_, ?_⟩
  · intro reason stopped
    rw [ingestBatch_stopped stopped]
    exact ⟨⟨rfl, rfl, rfl, rfl, rfl⟩, _, _, rfl⟩
  · intro cursor reason refused commands goes after scope
    exact replay_noisy (follow_all_noisy (ingestBatch_refused refused) goes) after scope
  · intro cursor accepted
    obtain ⟨checked, ended, same⟩ := ingestBatch_accepted accepted
    have within := takeBatch_within ended checked.ahead (checkBatch_within checked.events)
    refine ⟨takeBatch_whole ended, fun calm => ?_⟩
    rw [same] at calm ⊢
    exact reach_sequence within calm
  · intro passed room known calm
    have checked := checksOf_ok.mp passed
    have quiet : router.resyncRequired = true -> ∀ event, event ∈ batch.events -> event.eventId ∈ router.seenEventIds := by
      intro noisy
      exact checkBatch_known checked.events noisy
    have ended := takeBatch_accepts checked.events word rfl (Nat.le_refl _) ⟨rfl, rfl, rfl⟩ known calm room quiet
    obtain ⟨_, stopped, _⟩ | ⟨_, same⟩ := ingestBatch_checked checked
    · rw [ended] at stopped
      cases stopped
    · exact ⟨_, by rw [same]⟩

def batchRouter : EventRouter := .newAt { brokerEpoch := 1, sequence := 0 } (.new 8)

def askingBatch : EventBatch where
  brokerEpoch := 1
  result := .accepted
  events := [{ pageChange 1 with resyncRequired := true }, pageChange 2]
  cursor := { brokerEpoch := 1, sequence := 2 }

def calmBatch : EventBatch where
  brokerEpoch := 1
  result := .accepted
  events := [pageChange 1, pageChange 3]
  cursor := { brokerEpoch := 1, sequence := 5 }

/-- The batch passes its checks and is refused, with its first event taken in. -/
theorem asking_batch_half_applied :
    batchRouter.checksOf askingBatch = .ok () ∧
      (batchRouter.ingestBatch askingBatch).2 = .resyncRequired { brokerEpoch := 1, sequence := 1 } .brokerResync ∧
      batchRouter.sequence = 0 ∧ (batchRouter.ingestBatch askingBatch).1.sequence = 1 ∧
      batchRouter.events.length = 0 ∧ (batchRouter.ingestBatch askingBatch).1.events.length = 1 ∧
      (pageChange 1).eventId ∉ batchRouter.seenEventIds ∧
      (pageChange 1).eventId ∈ (batchRouter.ingestBatch askingBatch).1.seenEventIds := by
  decide

theorem calm_batch_applied : ∃ cursor, (batchRouter.ingestBatch calmBatch).2 = .accepted cursor := by
  obtain ⟨_, _, _, accepts⟩ := batch_applied batchRouter calmBatch (by decide)
  apply accepts (by decide) (fun _ _ _ => by decide)
  · intro _ _ _ _ known
    cases known
  · intro before event after split _ asks
    have inside : event ∈ calmBatch.events := by
      rw [split]
      simp
    have calm : event.resyncRequired = false := by
      obtain rfl | rfl := List.mem_pair.mp inside
      · rfl
      · rfl
    rw [calm] at asks
    cases asks

end Whole

end AgentycHost
