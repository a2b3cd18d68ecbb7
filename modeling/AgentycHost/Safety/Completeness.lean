import AgentycHost.Effects.Retention

set_option autoImplicit false

/-! # The parallel queues of an event router -/

namespace AgentycHost

open Shared

variable {router : EventRouter} {spans : List (Span EventRecord)}

/-- The queues of a router agree, place by place, and keep their bounds. -/
structure EventRouter.WellFormed (router : EventRouter) : Prop where
  lengths : router.events.length = router.retainedStarts.length
  starts : router.retainedStarts.Pairwise (· < ·)
  sequences : router.events.Pairwise fun one other => one.sequence < other.sequence
  covers : ∀ (place : Nat) (start : EventSequence) (event : EventRecord),
    router.retainedStarts[place]? = some start -> router.events[place]? = some event ->
    start ≤ event.sequence ∧ event.sequence ≤ router.sequence ∧
      ∀ next, router.retainedStarts[place + 1]? = some next -> event.sequence < next
  size : router.events.length ≤ router.limits.maxEvents
  remembered : router.seenEventIds = router.seenEventOrder.toFinset
  distinct : router.seenEventOrder.Nodup
  recent : router.seenEventOrder.length ≤ max router.limits.maxEvents 1
  routed : ∀ event, event ∈ router.events -> event.validateRouting = .ok ()

theorem Represents.wellFormed (represents : Represents router spans) : router.WellFormed where
  lengths := by rw [represents.records, represents.starts, List.length_map, List.length_map]
  starts := by
    rw [represents.starts, List.pairwise_map]
    refine represents.rising.apart.imp_of_mem fun inside _ apart => ?_
    exact Nat.lt_of_le_of_lt (represents.rising.bounds inside).2.1 apart
  sequences := by
    rw [represents.records, List.pairwise_map]
    refine represents.rising.apart.imp_of_mem fun inside there apart => ?_
    rw [represents.lasts _ inside, represents.lasts _ there]
    exact Nat.lt_of_lt_of_le apart (represents.rising.bounds there).2.1
  covers place start event first item := by
    rw [represents.starts, List.getElem?_map, Option.map_eq_some_iff] at first
    rw [represents.records, List.getElem?_map, Option.map_eq_some_iff] at item
    obtain ⟨span, found, rfl⟩ := first
    obtain ⟨other, located, rfl⟩ := item
    obtain rfl : span = other := Option.some.inj (found.symm.trans located)
    have inside := List.mem_of_getElem? found
    obtain ⟨_, longer, below⟩ := represents.rising.bounds inside
    rw [represents.lasts span inside]
    refine ⟨longer, below, fun next following => ?_⟩
    rw [represents.starts, List.getElem?_map, Option.map_eq_some_iff] at following
    obtain ⟨later, at_next, rfl⟩ := following
    -- the span after it starts above its last number
    obtain ⟨early, here⟩ := List.getElem?_eq_some_iff.mp found
    obtain ⟨late, there⟩ := List.getElem?_eq_some_iff.mp at_next
    have apart := List.pairwise_iff_getElem.mp represents.rising.apart place (place + 1) early late (Nat.lt_succ_self _)
    rwa [here, there] at apart
  size := by
    rw [represents.records, List.length_map]
    exact represents.size
  remembered := represents.remembers.members
  distinct := represents.remembers.distinct
  recent := represents.remembers.recent
  routed event inside := by
    rw [represents.records] at inside
    obtain ⟨span, there, rfl⟩ := List.mem_map.mp inside
    exact represents.routed span there

/-- Every run of a router, from any cursor and under any limits, keeps its queues aligned. -/
theorem router_queues_aligned {cursor : EventCursor} {limits : RouterLimits} {trace : List RouterMoment}
    (run : RouterRun cursor limits trace router) : router.WellFormed ∧ router.limits = limits := by
  obtain ⟨spans, represents⟩ := run.represents
  exact ⟨represents.wellFormed, run.limits⟩

def pageChange (number : EventSequence) : EventRecord where
  protocol := protocolVersion
  eventId := { brokerEpoch := 1, sequence := number }
  brokerEpoch := 1
  sequence := number
  scope := { spaceId := some ⟨1⟩, pageId := some ⟨1⟩ }
  event := .pageChanged
  generation :=
    { spaceGeneration := number, pageGeneration := 1, navigationGeneration := 1, documentGeneration := 1,
      snapshotVersion := none, metadata := some (.forEvent .pageChanged .broker) }
  dirtyReason := none
  coalesced := false
  resyncRequired := false
  payload := []

/-- Two changes of one page are merged, and their record keeps both numbers. -/
theorem router_queues_aligned_merged :
    ∃ router : EventRouter, router.WellFormed ∧ router.retainedStarts = [1] ∧
      router.events.map (·.sequence) = [2] := by
  have run : RouterRun { brokerEpoch := 1, sequence := 0 } (.new 2) _ _ :=
    .step (.step .nil (rfl : EventRouter.follow _ (.ingest (pageChange 1)) = _))
      (rfl : EventRouter.follow _ (.ingest (pageChange 2)) = _)
  exact ⟨_, (router_queues_aligned run).1, by decide, by decide⟩

end AgentycHost

/-! # What a replay leaves out -/

namespace AgentycHost

open Shared

variable {router : EventRouter} {event record : EventRecord} {taken : List EventRecord}
  {spans joined : List (Span EventRecord)} {number : EventSequence} {cursor : EventCursor} {limits : RouterLimits}
  {trace : List RouterMoment}

section Taking

/-- The event moves the watermark. -/
def EventRouter.takes (router : EventRouter) (event : EventRecord) : Bool :=
  decide (router.sequence < (router.ingest event).1.sequence)

/-- The events of a batch that the router takes in, up to a refusal. -/
def EventRouter.takenFrom (router : EventRouter) : List EventRecord -> List EventRecord
  | [] => []
  | event :: rest =>
      if event.brokerEpoch = router.brokerEpoch ∧ event.eventId ∈ router.seenEventIds then router.takenFrom rest
      else if (router.skipTo event).takes event then
        event :: ((router.skipTo event).ingest event).1.takenFrom rest
      else []

def RouterCommand.takes (router : EventRouter) : RouterCommand -> List EventRecord
  | .ingest event => if router.takes event then [event] else []
  | .ingestBatch batch =>
      -- a refused batch leaves the watermark where it was
      if router.sequence < (router.ingestBatch batch).1.sequence then router.takenFrom batch.events else []
  | .requestResync | .reset _ => []

/-- The events taken in since the router was made or reset. -/
def takenSince : List RouterMoment -> List EventRecord
  | [] => []
  | moment :: earlier =>
      match moment.label with
      | .reset _ => []
      | command => takenSince earlier ++ command.takes moment.before

/-- The router went past the number without an event for it. -/
def PassedOver (cursor : EventCursor) : List RouterMoment -> EventSequence -> Prop
  | [], number => number ≤ cursor.sequence
  | moment :: earlier, number =>
      match moment.label with
      | .reset next => number ≤ next.sequence
      | command => PassedOver cursor earlier number ∨
          (moment.before.sequence < number ∧ number ≤ moment.after.sequence ∧
            number ∉ (command.takes moment.before).map (·.sequence))

end Taking

section Windows

variable {limit : Nat}

structure Windowed (router : EventRouter) (taken : List EventRecord) (spans : List (Span EventRecord)) : Prop where
  represents : Represents router spans
  calm : router.resyncRequired = false
  origin : ∀ event, event ∈ taken -> event.brokerEpoch = router.brokerEpoch
  reached : ∀ event, event ∈ taken -> event.sequence ≤ router.sequence
  bounded : ∀ event, event ∈ taken -> event.sequence ≤ u64Max
  starts : ∀ span, span ∈ spans -> span.first ≤ u64Max
  delivered : ∀ event, event ∈ taken ->
    (∃ span, span ∈ spans ∧ span.first ≤ event.sequence ∧ Delivers span.item event) ∨
    ∃ head, spans.head? = some head ∧ event.sequence < head.first

theorem newAt_windowed (cursor : EventCursor) (limits : RouterLimits) : Windowed (.newAt cursor limits) [] [] where
  represents := newAt_represents cursor limits
  calm := rfl
  origin := by simp
  reached := by simp
  bounded := by simp
  starts := by simp
  delivered := by simp

theorem Windowed.advance (windowed : Windowed router taken spans) {sequence : EventSequence}
    (later : router.sequence ≤ sequence) : Windowed { router with sequence } taken spans where
  represents := windowed.represents.advance sequence later _ _
  calm := windowed.calm
  origin := windowed.origin
  reached event inside := Nat.le_trans (windowed.reached event inside) later
  bounded := windowed.bounded
  starts := windowed.starts
  delivered := windowed.delivered

theorem delivered_drop {low high : Nat} (rising : Rising low spans high)
    (lasts : ∀ span, span ∈ spans -> span.item.sequence = span.last)
    (delivered : (∃ span, span ∈ spans ∧ span.first ≤ event.sequence ∧ Delivers span.item event) ∨
      ∃ head, spans.head? = some head ∧ event.sequence < head.first) (count : Nat) (more : count < spans.length) :
    (∃ span, span ∈ spans.drop count ∧ span.first ≤ event.sequence ∧ Delivers span.item event) ∨
      ∃ head, (spans.drop count).head? = some head ∧ event.sequence < head.first := by
  induction count generalizing low spans with
  | zero => exact delivered
  | succ count ih =>
    cases spans with
    | nil => cases more
    | cons oldest rest =>
      obtain ⟨_, longer, others⟩ := rising
      have room : count < rest.length := Nat.lt_of_succ_lt_succ more
      apply ih others (fun span inside => lasts span (List.mem_cons_of_mem _ inside)) ?_ room
      cases rest with
      | nil => cases room
      | cons next rest =>
        have apart : oldest.last < next.first := others.1
        obtain ⟨span, inside, start, delivers⟩ | ⟨head, first, older⟩ := delivered
        · obtain rfl | later := List.mem_cons.mp inside
          · -- the event was in the record that goes
            have ends : event.sequence ≤ span.last := by
              rw [← lasts span List.mem_cons_self]
              exact delivers.reached
            exact .inr ⟨next, rfl, Nat.lt_of_le_of_lt ends apart⟩
          · exact .inl ⟨span, later, start, delivers⟩
        · obtain rfl : oldest = head := Option.some.inj first
          exact .inr ⟨next, rfl, Nat.lt_trans (Nat.lt_of_lt_of_le older longer) apart⟩

theorem Joins.delivers (joins : Joins limit spans event joined)
    (represents : Represents router spans) (above : router.sequence < event.sequence)
    (covered : (∃ span, span ∈ spans ∧ span.first ≤ record.sequence ∧ Delivers span.item record) ∨
      (∃ head, spans.head? = some head ∧ record.sequence < head.first) ∨ record = event) :
    (∃ span, span ∈ joined ∧ span.first ≤ record.sequence ∧ Delivers span.item record) ∨
      ∃ head, joined.head? = some head ∧ record.sequence < head.first := by
  obtain ⟨init, last, rfl, merges, rfl⟩ | ⟨room, rfl⟩ := joins
  · have ends : last.item.sequence ≤ event.sequence := by
      have below := (represents.rising.bounds (List.mem_append_right _ (List.mem_singleton_self last))).2.2
      rw [represents.lasts last (by simp)]
      exact Nat.le_trans below (Nat.le_of_lt above)
    obtain ⟨span, inside, start, delivers⟩ | ⟨head, first, older⟩ | rfl := covered
    · obtain early | new := List.mem_append.mp inside
      · exact .inl ⟨span, List.mem_append_left _ early, start, delivers⟩
      · -- it was in the record that was replaced
        rw [List.mem_singleton.mp new] at start delivers
        exact .inl ⟨_, List.mem_append_right _ (List.mem_singleton_self _), start, delivers.merge merges ends⟩
    · cases init with
      | nil =>
        obtain rfl : last = head := Option.some.inj first
        exact .inr ⟨_, rfl, older⟩
      | cons oldest rest => exact .inr ⟨head, first, older⟩
    · have start : last.first ≤ record.sequence := by
        have bounds := represents.rising.bounds (List.mem_append_right _ (List.mem_singleton_self last))
        exact Nat.le_trans bounds.2.1 (Nat.le_trans bounds.2.2 (Nat.le_of_lt above))
      exact .inl ⟨_, List.mem_append_right _ (List.mem_singleton_self _), start, mergedEvent_delivers merges⟩
  · apply delivered_drop (represents.rising.push above event)
    · intro span inside
      obtain early | new := List.mem_append.mp inside
      · exact represents.lasts span early
      · rw [List.mem_singleton.mp new]
    · obtain ⟨span, inside, start, delivers⟩ | ⟨head, first, older⟩ | rfl := covered
      · exact .inl ⟨span, List.mem_append_left _ inside, start, delivers⟩
      · refine .inr ⟨head, ?_, older⟩
        rw [List.head?_append, first]
        rfl
      · exact .inl ⟨_, List.mem_append_right _ (List.mem_singleton_self _), Nat.le_refl _, .refl record⟩
    · rw [List.length_append, List.length_singleton]
      omega

theorem Joins.starts (joins : Joins limit spans event joined) {span : Span EventRecord} (inside : span ∈ joined) :
    span.first = event.sequence ∨ ∃ old, old ∈ spans ∧ span.first = old.first := by
  obtain ⟨init, last, rfl, merges, rfl⟩ | ⟨room, rfl⟩ := joins
  · obtain early | new := List.mem_append.mp inside
    · exact .inr ⟨span, List.mem_append_left _ early, rfl⟩
    · rw [List.mem_singleton.mp new]
      exact .inr ⟨last, List.mem_append_right _ (List.mem_singleton_self _), rfl⟩
  · obtain early | new := List.mem_append.mp (List.mem_of_mem_drop inside)
    · exact .inr ⟨span, early, rfl⟩
    · rw [List.mem_singleton.mp new]
      exact .inl rfl

end Windows

section Steps

variable {relation : EventRouter -> List EventRecord -> Prop} {command : RouterCommand}

structure KeptByTaking (relation : EventRouter -> List EventRecord -> Prop) : Prop where
  takes : ∀ router taken event, relation router taken -> TakesIn router event ->
    (router.ingest event).1.resyncRequired = false -> relation (router.ingest event).1 (taken ++ [event])
  passes : ∀ router taken sequence, relation router taken -> router.sequence ≤ sequence ->
    relation { router with sequence } taken

theorem ingest_refused {cursor : EventCursor} {reason : RouterResyncReason}
    (refused : (router.ingest event).2 = .resyncRequired cursor reason) :
    (router.ingest event).1.resyncRequired = true := by
  obtain ⟨reason, same⟩ | ⟨_, _, same⟩ | ⟨_, taken⟩ := ingest_cases router event
  · rw [same]
    rfl
  · rw [same] at refused
    cases refused
  · rw [taken] at refused ⊢
    unfold EventRouter.retain at refused ⊢
    dsimp only at refused ⊢
    split_ifs at refused ⊢ with merges full
    rfl

theorem skipTo_calm (router : EventRouter) (event : EventRecord) :
    (router.skipTo event).resyncRequired = router.resyncRequired ∧
      (router.skipTo event).seenEventIds = router.seenEventIds ∧ router.sequence ≤ (router.skipTo event).sequence := by
  unfold EventRouter.skipTo
  split_ifs with gap
  · exact ⟨rfl, rfl, Nat.le_sub_one_of_lt (Nat.lt_of_succ_lt gap)⟩
  · exact ⟨rfl, rfl, Nat.le_refl _⟩

theorem takeBatch_noisy (noisy : router.resyncRequired = true) (events : List EventRecord) :
    (router.takeBatch events).1.resyncRequired = true := by
  induction events generalizing router with
  | nil => exact noisy
  | cons event rest ih =>
    have skipped : ((router.skipTo event).ingest event).1.resyncRequired = true :=
      ingest_noisy ((skipTo_calm router event).1.trans noisy) event
    unfold EventRouter.takeBatch
    split_ifs
    · exact ih (ingest_noisy noisy event)
    · rfl
    · split
      next refused =>
        rw [refused] at skipped
        exact skipped
      next taken =>
        rw [taken] at skipped
        exact ih skipped

theorem KeptByTaking.ingest (kept : KeptByTaking relation) (holds : relation router taken)
    (calm : (router.ingest event).1.resyncRequired = false) :
    ((event.brokerEpoch = router.brokerEpoch ∧ event.eventId ∈ router.seenEventIds) ∧ router.takes event = false ∧
      (router.ingest event).1 = router) ∨
    (router.takes event = true ∧ relation (router.ingest event).1 (taken ++ [event])) := by
  obtain ⟨reason, refused⟩ | ⟨known, seen, same⟩ | ⟨takes, _⟩ := ingest_cases router event
  · rw [refused] at calm
    cases calm
  · exact .inl ⟨⟨known, seen⟩, by simp [EventRouter.takes, same], by rw [same]⟩
  · refine .inr ⟨?_, kept.takes router taken event holds takes calm⟩
    rw [EventRouter.takes, ingest_sequence takes]
    exact decide_eq_true takes.above

theorem KeptByTaking.takeBatch (kept : KeptByTaking relation) (holds : relation router taken) (events : List EventRecord)
    (calm : (router.takeBatch events).1.resyncRequired = false) :
    relation (router.takeBatch events).1 (taken ++ router.takenFrom events) := by
  induction events generalizing router taken with
  | nil =>
    rw [EventRouter.takenFrom, List.append_nil]
    exact holds
  | cons event rest ih =>
    rw [EventRouter.takenFrom]
    rw [EventRouter.takeBatch] at calm ⊢
    by_cases seen : event.brokerEpoch = router.brokerEpoch ∧ event.eventId ∈ router.seenEventIds
    · have same : router.ingest event = (router, .accepted router.cursor) := by
        simp [EventRouter.ingest, seen.1, seen.2]
      rw [if_pos seen, same] at calm
      rw [if_pos seen, if_pos seen, same]
      exact ih holds calm
    rw [if_neg seen] at calm
    rw [if_neg seen, if_neg seen]
    by_cases full : (checkedNext router.sequence).isNone = true
    · rw [if_pos full] at calm
      cases calm
    rw [if_neg full] at calm ⊢
    obtain ⟨_, ids, _⟩ := skipTo_calm router event
    have broker := (skipTo_origin router event).2
    have skipped : relation (router.skipTo event) taken := by
      have later := (skipTo_calm router event).2.2
      unfold EventRouter.skipTo at later ⊢
      split_ifs at later ⊢
      · exact kept.passes router taken _ holds later
      · exact holds
    split at calm
    next refused =>
      have noisy := ingest_refused (congrArg Prod.snd refused)
      rw [refused, calm] at noisy
      cases noisy
    next after _ accepted =>
      have quiet : ((router.skipTo event).ingest event).1.resyncRequired = false := by
        by_contra noisy
        have still := takeBatch_noisy (by simpa using noisy) rest
        rw [accepted, calm] at still
        cases still
      obtain ⟨known, _, _⟩ | ⟨takes, extended⟩ := kept.ingest skipped quiet
      · -- what the router remembers was passed by
        rw [broker, ids] at known
        exact absurd known seen
      · rw [if_pos takes, accepted, List.append_cons]
        rw [accepted] at extended
        exact ih extended calm

theorem ingestBatch_noisy (noisy : router.resyncRequired = true) (batch : EventBatch) :
    (router.ingestBatch batch).1.resyncRequired = true := by
  have still := takeBatch_noisy noisy batch.events
  unfold EventRouter.ingestBatch
  split_ifs
  · rfl
  · rfl
  · rfl
  · split
    next => rfl
    next =>
      split
      next stopped =>
        rw [stopped] at still
        exact still
      next ended =>
        rw [ended] at still
        dsimp only
        split_ifs
        · exact still
        · exact still

theorem ingestBatch_calm {batch : EventBatch} (calm : (router.ingestBatch batch).1.resyncRequired = false) :
    (router.takeBatch batch.events).1.resyncRequired = false ∧
      ((router.ingestBatch batch).1 = (router.takeBatch batch.events).1 ∨
        (router.takeBatch batch.events).1.sequence ≤ batch.cursor.sequence ∧
          (router.ingestBatch batch).1 =
            { (router.takeBatch batch.events).1 with sequence := batch.cursor.sequence }) := by
  unfold EventRouter.ingestBatch at calm ⊢
  split_ifs at calm ⊢
  · cases calm
  · cases calm
  · cases calm
  · split at calm
    next => cases calm
    next =>
      split at calm
      next stopped =>
        rw [stopped]
        exact ⟨calm, .inl rfl⟩
      next ended =>
        rw [ended]
        dsimp only at calm ⊢
        split_ifs at calm ⊢ with behind
        · simp only [Bool.and_eq_true, decide_eq_true_eq] at behind
          exact ⟨calm, .inr ⟨Nat.le_of_lt behind.2, rfl⟩⟩
        · exact ⟨calm, .inl rfl⟩

def NumberedFrom (start : EventSequence) (router : EventRouter) (taken : List EventRecord) : Prop :=
  start ≤ router.sequence ∧ ∀ event, event ∈ taken -> start < event.sequence ∧ event.sequence ≤ router.sequence

theorem numberedFrom_start (router : EventRouter) : NumberedFrom router.sequence router [] :=
  ⟨Nat.le_refl _, by simp⟩

theorem numberedFrom_kept (start : EventSequence) : KeptByTaking (NumberedFrom start) where
  takes router taken event holds takes _ := by
    obtain ⟨reached, numbered⟩ := holds
    have above := takes.above
    rw [NumberedFrom, ingest_sequence takes]
    refine ⟨Nat.le_trans reached (Nat.le_of_lt above), fun other inside => ?_⟩
    obtain early | new := List.mem_append.mp inside
    · exact ⟨(numbered other early).1, Nat.le_trans (numbered other early).2 (Nat.le_of_lt above)⟩
    · rw [List.mem_singleton.mp new]
      exact ⟨Nat.lt_of_le_of_lt reached above, Nat.le_refl _⟩
  passes router taken sequence holds later :=
    ⟨Nat.le_trans holds.1 later, fun other inside => ⟨(holds.2 other inside).1, Nat.le_trans (holds.2 other inside).2 later⟩⟩

theorem KeptByTaking.ingestBatch (kept : KeptByTaking relation) (holds : relation router taken) (batch : EventBatch)
    (calm : (router.ingestBatch batch).1.resyncRequired = false) :
    relation (router.ingestBatch batch).1 (taken ++ RouterCommand.takes router (.ingestBatch batch)) := by
  obtain ⟨quiet, ends⟩ := ingestBatch_calm calm
  have goes : relation (router.ingestBatch batch).1 (taken ++ router.takenFrom batch.events) := by
    have along := kept.takeBatch holds batch.events quiet
    obtain same | ⟨past, moved⟩ := ends
    · rw [same]
      exact along
    · rw [moved]
      exact kept.passes _ _ _ along past
  rw [RouterCommand.takes]
  split_ifs with moves
  · exact goes
  · -- nothing was taken in, since it would have moved the watermark
    have none : router.takenFrom batch.events = [] := by
      apply List.eq_nil_iff_forall_not_mem.mpr
      intro event inside
      have start : NumberedFrom router.sequence router [] := numberedFrom_start router
      have numbered := (numberedFrom_kept router.sequence).takeBatch start batch.events quiet
      obtain ⟨beyond, reached⟩ := numbered.2 event inside
      have moved : (router.takeBatch batch.events).1.sequence ≤ (router.ingestBatch batch).1.sequence := by
        obtain same | ⟨past, moved⟩ := ends
        · rw [same]
        · rw [moved]
          exact past
      exact moves (Nat.lt_of_lt_of_le beyond (Nat.le_trans reached moved))
    rwa [none] at goes

theorem follow_noisy (noisy : router.resyncRequired = true) (goes : ∀ next, command ≠ .reset next) :
    (router.follow command).resyncRequired = true := by
  cases command with
  | ingest event => exact ingest_noisy noisy event
  | ingestBatch batch => exact ingestBatch_noisy noisy batch
  | requestResync => rfl
  | reset next => exact absurd rfl (goes next)

theorem KeptByTaking.follow (kept : KeptByTaking relation) (holds : relation router taken)
    (goes : ∀ next, command ≠ .reset next) (calm : (router.follow command).resyncRequired = false) :
    relation (router.follow command) (taken ++ command.takes router) := by
  cases command with
  | ingest event =>
    rw [RouterCommand.takes]
    obtain ⟨_, idle, same⟩ | ⟨takes, extended⟩ := kept.ingest holds calm
    · rw [EventRouter.follow, same, idle]
      simpa using holds
    · rw [EventRouter.follow, takes]
      exact extended
  | ingestBatch batch => exact kept.ingestBatch holds batch calm
  | requestResync => cases calm
  | reset next => exact absurd rfl (goes next)

end Steps

section Windows

theorem Represents.ingest (represents : Represents router spans) (takes : TakesIn router event)
    (calm : (router.ingest event).1.resyncRequired = false) :
    ∃ joined, JoinsUnder router.limits spans event joined ∧ Represents (router.ingest event).1 joined := by
  rw [ingest_takes takes] at calm ⊢
  have noted := noted_represents represents takes
  have limits : (router.noted event).limits = router.limits := by
    obtain ⟨_, _, same⟩ := noted_same takes
    rw [same]
  obtain refused | ⟨joined, joins, kept, _⟩ :=
    retain_represents noted represents.rising takes.above (noted_sequence takes) takes.routed
  · rw [refused] at calm
    cases calm
  · rw [limits] at joins
    exact ⟨joined, joins, kept⟩

theorem Windowed.join {joined : List (Span EventRecord)} (windowed : Windowed router taken spans)
    (calm : (router.ingest event).1.resyncRequired = false) (takes : TakesIn router event)
    (joins : Joins router.limits.maxEvents spans event joined) (represents : Represents (router.ingest event).1 joined) :
    Windowed (router.ingest event).1 (taken ++ [event]) joined := by
  have above := takes.above
  have number := ingest_sequence takes
  have broker := (ingest_origin router event).2
  constructor
  case represents => exact represents
  case calm => exact calm
  case origin =>
    intro old inside
    rw [broker]
    obtain early | new := List.mem_append.mp inside
    · exact windowed.origin old early
    · rw [List.mem_singleton.mp new]
      exact takes.brokerEpoch
  case reached =>
    intro old inside
    rw [number]
    obtain early | new := List.mem_append.mp inside
    · exact Nat.le_trans (windowed.reached old early) (Nat.le_of_lt above)
    · rw [List.mem_singleton.mp new]
  case bounded =>
    intro old inside
    obtain early | new := List.mem_append.mp inside
    · exact windowed.bounded old early
    · rw [List.mem_singleton.mp new]
      exact takes.bounded
  case starts =>
    intro span inside
    obtain start | ⟨old, early, start⟩ := joins.starts inside
    · rw [start]
      exact takes.bounded
    · rw [start]
      exact windowed.starts old early
  case delivered =>
    intro old inside
    apply joins.delivers windowed.represents above
    obtain early | new := List.mem_append.mp inside
    · obtain held | older := windowed.delivered old early
      · exact .inl held
      · exact .inr (.inl older)
    · exact .inr (.inr (List.mem_singleton.mp new))

theorem windowed_kept : KeptByTaking fun router taken => ∃ spans, Windowed router taken spans where
  takes router taken event holds takes calm := by
    obtain ⟨spans, windowed⟩ := holds
    obtain ⟨joined, joins, represents⟩ := windowed.represents.ingest takes calm
    exact ⟨joined, windowed.join calm takes joins.joins represents⟩
  passes router taken sequence holds later := by
    obtain ⟨spans, windowed⟩ := holds
    exact ⟨spans, windowed.advance later⟩

end Windows

section Runs

variable {moment : RouterMoment}

theorem takenSince_goes (goes : ∀ next, moment.label ≠ .reset next) :
    takenSince (moment :: trace) = takenSince trace ++ moment.label.takes moment.before := by
  rw [takenSince]
  split
  next next same => exact absurd same (goes next)
  next => rfl

theorem passedOver_goes (goes : ∀ next, moment.label ≠ .reset next) :
    PassedOver cursor (moment :: trace) number <-> PassedOver cursor trace number ∨
      (moment.before.sequence < number ∧ number ≤ moment.after.sequence ∧
        number ∉ (moment.label.takes moment.before).map (·.sequence)) := by
  rw [PassedOver]
  split
  next next same => exact absurd same (goes next)
  next => rfl

theorem RouterRun.windowed (run : RouterRun cursor limits trace router) (calm : router.resyncRequired = false) :
    (∃ spans, Windowed router (takenSince trace) spans) ∧
      ∀ number, PassedOver cursor trace number <->
        number ≤ router.sequence ∧ number ∉ (takenSince trace).map (·.sequence) := by
  induction run with
  | nil =>
    refine ⟨⟨[], newAt_windowed cursor limits⟩, fun number => ?_⟩
    simp [PassedOver, takenSince, EventRouter.newAt]
  | @step trace before after label earlier followed ih =>
    subst followed
    by_cases resets : ∃ next, label = .reset next
    · obtain ⟨next, rfl⟩ := resets
      refine ⟨⟨[], newAt_windowed next before.limits⟩, fun number => ?_⟩
      simp [PassedOver, takenSince, EventRouter.follow, EventRouter.reset, EventRouter.newAt]
    have goes : ∀ next, label ≠ .reset next := fun next same => resets ⟨next, same⟩
    have quiet : before.resyncRequired = false := by
      by_contra noisy
      have still := follow_noisy (by simpa using noisy) goes
      rw [calm] at still
      cases still
    obtain ⟨⟨spans, windowed⟩, passed⟩ := ih quiet
    obtain ⟨later, numbered⟩ := (numberedFrom_kept before.sequence).follow (numberedFrom_start before) goes calm
    have beyond : ∀ event, event ∈ label.takes before -> before.sequence < event.sequence :=
      fun event inside => (numbered event inside).1
    rw [takenSince_goes goes]
    refine ⟨windowed_kept.follow ⟨spans, windowed⟩ goes calm, fun number => ?_⟩
    rw [passedOver_goes goes, passed number]
    dsimp only
    rw [List.map_append, List.mem_append, not_or]
    -- the events of this step come after the watermark, the earlier ones up to it
    by_cases early : number ≤ before.sequence
    · have fresh : number ∉ (label.takes before).map (·.sequence) := by
        intro inside
        obtain ⟨event, there, rfl⟩ := List.mem_map.mp inside
        exact absurd early (Nat.not_le_of_lt (beyond event there))
      have within : number ≤ (before.follow label).sequence := Nat.le_trans early later
      have behind : ¬ before.sequence < number := Nat.not_lt_of_le early
      simp [early, fresh, within, behind]
    · have ahead : before.sequence < number := Nat.lt_of_not_le early
      have absent : number ∉ (takenSince trace).map (·.sequence) := by
        intro inside
        obtain ⟨event, there, rfl⟩ := List.mem_map.mp inside
        exact early (windowed.reached event there)
      simp [early, ahead, absent]

theorem takenFrom_offered {events : List EventRecord} (inside : event ∈ router.takenFrom events) : event ∈ events := by
  induction events generalizing router with
  | nil => cases inside
  | cons first rest ih =>
    rw [EventRouter.takenFrom] at inside
    split_ifs at inside
    · exact List.mem_cons_of_mem _ (ih inside)
    · obtain rfl | later := List.mem_cons.mp inside
      · exact List.mem_cons_self
      · exact List.mem_cons_of_mem _ (ih later)
    · cases inside

theorem RouterCommand.takes_offered {command : RouterCommand} (inside : event ∈ command.takes router) :
    event ∈ command.offers := by
  cases command with
  | ingest offered =>
    rw [RouterCommand.takes] at inside
    split_ifs at inside
    · exact inside
    · cases inside
  | ingestBatch batch =>
    rw [RouterCommand.takes] at inside
    split_ifs at inside
    · exact takenFrom_offered inside
    · cases inside
  | requestResync => cases inside
  | reset next => cases inside

theorem takenSince_offered (inside : event ∈ takenSince trace) :
    ∃ moment, moment ∈ trace ∧ event ∈ moment.label.offers := by
  induction trace with
  | nil => cases inside
  | cons moment earlier ih =>
    by_cases resets : ∃ next, moment.label = .reset next
    · obtain ⟨next, same⟩ := resets
      rw [takenSince, same] at inside
      cases inside
    rw [takenSince_goes fun next same => resets ⟨next, same⟩] at inside
    obtain early | new := List.mem_append.mp inside
    · obtain ⟨other, there, offered⟩ := ih early
      exact ⟨other, List.mem_cons_of_mem _ there, offered⟩
    · exact ⟨moment, List.mem_cons_self, RouterCommand.takes_offered new⟩

end Runs

section Replays

variable {after : EventCursor} {scope : Option EventScope}

/-- The cursor cannot be served: the router asks for a resync, or the cursor is of another
epoch, ahead of the watermark, or before the first record. -/
def Lags (router : EventRouter) (after : EventCursor) : Prop :=
  router.resyncRequired = true ∨ after.brokerEpoch ≠ router.brokerEpoch ∨ router.sequence < after.sequence ∨
    ∃ start, router.retainedStarts.head? = some start ∧ after.sequence + 1 < start

def inScope (scope : Option EventScope) (record : EventRecord) : Bool :=
  scope.all fun requested => record.scope.matchesScope requested

/-- The notice that every client gets, whatever scope it asks for. -/
structure ResyncNotice (record : EventRecord) : Prop where
  resyncRequired : record.resyncRequired = true
  spaceId : record.scope.spaceId = none
  pageId : record.scope.pageId = none

theorem scopeMatches_iff {requested : EventScope} :
    scopeMatches record requested = true <-> ResyncNotice record ∨ record.scope.matchesScope requested = true := by
  by_cases notice : ResyncNotice record
  · simp [scopeMatches, notice, notice.resyncRequired, notice.spaceId, notice.pageId]
  have ordinary : ¬ (record.resyncRequired && record.scope.spaceId.isNone && record.scope.pageId.isNone) = true := by
    simp only [Bool.and_eq_true, Option.isNone_iff_eq_none]
    exact fun holds => notice ⟨holds.1.1, holds.1.2, holds.2⟩
  rw [scopeMatches, if_neg ordinary, or_iff_right notice]
  -- what the other checks refuse does not match
  cases space : record.scope.spaceId <;> cases page : record.scope.pageId <;>
    cases requestedSpace : requested.spaceId <;> cases requestedPage : requested.pageId <;>
    simp [EventScope.matchesScope, EventScope.valid, space, page, requestedSpace, requestedPage]

theorem Windowed.served (windowed : Windowed router taken spans) {start : EventSequence}
    (first : router.retainedStarts.head? = some start) (reached : ∀ start next,
      router.retainedStarts.head? = some start -> checkedNext after.sequence = some next -> start ≤ next) :
    start ≤ after.sequence + 1 := by
  have inside := List.mem_of_mem_head? first
  rw [windowed.represents.starts] at inside
  obtain ⟨span, there, rfl⟩ := List.mem_map.mp inside
  have bounded := windowed.starts span there
  by_cases room : after.sequence < u64Max
  · exact reached _ _ first (checkedNext_eq_some.mpr ⟨room, rfl⟩)
  · exact Nat.le_trans bounded (Nat.le_succ_of_le (Nat.le_of_not_lt room))

/-- An event of the source: the router was offered it, and no other event under its number. -/
structure SourceEvent (trace : List RouterMoment) (epoch : BrokerEpoch) (event : EventRecord) : Prop where
  offered : ∃ moment, moment ∈ trace ∧ event ∈ moment.label.offers
  brokerEpoch : event.brokerEpoch = epoch
  only : ∀ moment other, moment ∈ trace -> other ∈ moment.label.offers -> other.brokerEpoch = epoch ->
    other.sequence = event.sequence -> other = event

/-- The record is retained, and the number is in the interval that it stands for. -/
def Covers (router : EventRouter) (record : EventRecord) (number : EventSequence) : Prop :=
  ∃ start, (start, record) ∈ router.retainedStarts.zip router.events ∧ start ≤ number ∧ number ≤ record.sequence

/-- The records of an accepted replay leave nothing out and add nothing. -/
structure ReplaysAll (trace : List RouterMoment) (router : EventRouter) (after : EventCursor) (scope : Option EventScope)
    (events : List EventRecord) : Prop where
  represented : ∀ event, SourceEvent trace router.brokerEpoch event -> after.sequence < event.sequence ->
    event.sequence ≤ router.sequence -> inScope scope event = true ->
    ∃ record, record ∈ events ∧ Covers router record event.sequence ∧ Delivers record event
  rising : events.Pairwise fun one other => one.sequence < other.sequence
  confined : ∀ record, record ∈ events -> inScope scope record = true ∨ ResyncNotice record
  retained : ∀ number, after.sequence < number -> number ≤ router.sequence ->
    (∃ event, event ∈ takenSince trace ∧ event.sequence = number) ∧ ∃ record, Covers router record number

theorem Windowed.covered (windowed : Windowed router taken spans) {span : Span EventRecord} (inside : span ∈ spans)
    (start : span.first ≤ number) (ends : number ≤ span.item.sequence) : Covers router span.item number := by
  refine ⟨span.first, ?_, start, ends⟩
  rw [windowed.represents.starts, windowed.represents.records, List.zip_map']
  exact List.mem_map_of_mem inside

/-- A replay is complete exactly for the cursors that are past every number the router went past without an event. -/
theorem replay_complete_iff (run : RouterRun cursor limits trace router) (after : EventCursor) (scope : Option EventScope) :
    ((router.replay after scope).result = .accepted ->
        ReplaysAll trace router after scope (router.replay after scope).events) <->
      (Lags router after ∨ ∀ number, PassedOver cursor trace number -> number ≤ after.sequence) := by
  obtain ⟨refused, lags⟩ | ⟨calm, epoch, behind, reached, served⟩ := replay_cases router after scope
  · have lagging : Lags router after := by
      obtain noisy | other | ahead | ⟨start, next, first, number, older⟩ := lags
      · exact .inl noisy
      · exact .inr (.inl other)
      · exact .inr (.inr (.inl ahead))
      · obtain ⟨_, rfl⟩ := checkedNext_eq_some.mp number
        exact .inr (.inr (.inr ⟨start, first, older⟩))
    rw [refused]
    exact iff_of_true (fun accepted => by cases accepted) (.inl lagging)
  obtain ⟨⟨spans, windowed⟩, passed⟩ := run.windowed calm
  have ready : ¬ Lags router after := by
    rintro (noisy | other | ahead | ⟨start, first, older⟩)
    · rw [calm] at noisy
      cases noisy
    · exact other epoch
    · exact absurd behind (Nat.not_le_of_lt ahead)
    · exact absurd (windowed.served first reached) (Nat.not_le_of_lt older)
  rw [served, or_iff_right ready]
  constructor
  · -- a number without an event is not retained, so the cursor is past it
    intro complete number overtaken
    obtain ⟨within, absent⟩ := (passed number).mp overtaken
    by_contra beyond
    obtain ⟨⟨event, inside, rfl⟩, _⟩ := (complete rfl).retained number (Nat.lt_of_not_le beyond) within
    exact absent (List.mem_map_of_mem inside)
  · intro past _
    have held : ∀ number, after.sequence < number -> number ≤ router.sequence ->
        ∃ event span, event ∈ takenSince trace ∧ event.sequence = number ∧ span ∈ spans ∧ span.first ≤ number ∧
          Delivers span.item event := by
      intro number beyond within
      have counted : number ∈ (takenSince trace).map (·.sequence) := by
        by_contra absent
        exact absurd (past number ((passed number).mpr ⟨within, absent⟩)) (Nat.not_le_of_lt beyond)
      obtain ⟨event, inside, rfl⟩ := List.mem_map.mp counted
      obtain ⟨span, there, start, delivers⟩ | ⟨head, first, older⟩ := windowed.delivered event inside
      · exact ⟨event, span, inside, rfl, there, start, delivers⟩
      · -- the first record starts after the event, but not after the cursor
        have opens : router.retainedStarts.head? = some head.first := by
          rw [windowed.represents.starts, List.head?_map, first]
          rfl
        have bound := windowed.served opens reached
        exact absurd (Nat.lt_of_lt_of_le older bound) (Nat.not_lt_of_le (Nat.succ_le_of_lt beyond))
    constructor
    case represented =>
      intro event source beyond within wanted
      obtain ⟨same, span, inside, number, there, start, delivers⟩ := held event.sequence beyond within
      obtain ⟨moment, happened, offered⟩ := takenSince_offered inside
      obtain rfl := source.only moment same happened offered (windowed.origin same inside) number
      refine ⟨span.item, ?_, windowed.covered there start delivers.reached, delivers⟩
      rw [List.mem_filter, windowed.represents.records]
      refine ⟨List.mem_map_of_mem there, ?_⟩
      have later : after.sequence < span.item.sequence := Nat.lt_of_lt_of_le beyond delivers.reached
      have matching : scope.all (scopeMatches span.item) = true := by
        cases scope with
        | none => rfl
        | some requested =>
          refine scopeMatches_iff.mpr (.inr ?_)
          rw [delivers.scope]
          exact wanted
      simp [later, matching]
    case rising => exact windowed.represents.wellFormed.sequences.filter _
    case confined =>
      intro record inside
      have matching := (List.mem_filter.mp inside).2
      rw [Bool.and_eq_true] at matching
      cases scope with
      | none => exact .inl rfl
      | some requested => exact (scopeMatches_iff.mp matching.2).symm
    case retained =>
      intro number beyond within
      obtain ⟨event, span, inside, rfl, there, start, delivers⟩ := held number beyond within
      exact ⟨⟨event, inside, rfl⟩, span.item, windowed.covered there start delivers.reached⟩

/-- A router made at the fifth event serves the cursor of a client that has seen none of the five. -/
theorem replay_unseen :
    ∃ (trace : List RouterMoment) (router : EventRouter) (after : EventCursor),
      RouterRun { brokerEpoch := 1, sequence := 5 } (.new 2) trace router ∧
      (router.replay after none).result = .accepted ∧
      ¬ ReplaysAll trace router after none (router.replay after none).events := by
  refine ⟨[], _, { brokerEpoch := 1, sequence := 0 }, .nil, rfl, fun complete => ?_⟩
  obtain ⟨⟨event, inside, _⟩, _⟩ := complete.retained 3 (by decide) (by decide)
  cases inside

def changedOnce : EventRouter := (EventRouter.newAt { brokerEpoch := 1, sequence := 0 } (.new 2)).follow (.ingest (pageChange 1))

def changedTwice : EventRouter := changedOnce.follow (.ingest (pageChange 2))

def twoChanges : List RouterMoment :=
  [⟨changedOnce, .ingest (pageChange 2), changedTwice⟩, ⟨.newAt { brokerEpoch := 1, sequence := 0 } (.new 2),
    .ingest (pageChange 1), changedOnce⟩]

/-- A router made at the start serves that cursor in full: two changes of one page come as one record. -/
theorem replay_complete_merged :
    (changedTwice.replay { brokerEpoch := 1, sequence := 0 } none).events.map (·.sequence) = [2] ∧
      ReplaysAll twoChanges changedTwice { brokerEpoch := 1, sequence := 0 } none
        (changedTwice.replay { brokerEpoch := 1, sequence := 0 } none).events := by
  have run : RouterRun { brokerEpoch := 1, sequence := 0 } (.new 2) twoChanges changedTwice := .step (.step .nil rfl) rfl
  have past : ∀ number, PassedOver { brokerEpoch := 1, sequence := 0 } twoChanges number -> number ≤ 0 := by
    intro number overtaken
    obtain ⟨within, absent⟩ := ((run.windowed (by decide)).2 number).mp overtaken
    have taken : (takenSince twoChanges).map (·.sequence) = [1, 2] := by decide
    have last : changedTwice.sequence = 2 := by decide
    rw [taken] at absent
    rw [last] at within
    have none_left : ∀ value : Nat, value ≤ 2 -> value ∉ [1, 2] -> value ≤ 0 := by
      simp only [List.mem_cons, List.not_mem_nil]
      omega
    exact none_left number within absent
  exact ⟨by decide, (replay_complete_iff run { brokerEpoch := 1, sequence := 0 } none).mpr (.inr past)
    (by decide)⟩

end Replays

end AgentycHost
