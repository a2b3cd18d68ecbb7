import AgentycHost.Effects.Routing
import AgentycHost.System.Routers

set_option autoImplicit false

/-! # What every operation of an event router does to its queues -/

namespace AgentycHost

open Shared

variable {router after : EventRouter} {event previous : EventRecord} {spans : List (Span EventRecord)}
  {span : Span EventRecord}

section Remembering

structure Remembers (bound : Nat) (order : List EventId) (seen : Finset EventId) : Prop where
  members : seen = order.toFinset
  distinct : order.Nodup
  recent : order.length ≤ bound

theorem forgetEventIds_remembers (bound : Nat) (order : List EventId) (distinct : order.Nodup) :
    Remembers bound (EventRouter.forgetEventIds bound order order.toFinset).1 (EventRouter.forgetEventIds bound order order.toFinset).2 := by
  induction order with
  | nil => exact ⟨rfl, distinct, Nat.zero_le _⟩
  | cons expired rest ih =>
    rw [EventRouter.forgetEventIds]
    split_ifs with more
    · have absent := (List.nodup_cons.mp distinct).1
      have left : (expired :: rest).toFinset.erase expired = rest.toFinset := by
        rw [List.toFinset_cons, Finset.erase_insert]
        simpa using absent
      rw [left]
      exact ih (List.nodup_cons.mp distinct).2
    · exact ⟨rfl, distinct, Nat.le_of_not_lt more⟩

end Remembering

section Ingest

def EventRouter.noted (router : EventRouter) (event : EventRecord) : EventRouter :=
  EventRouter.rememberEventId
    { router with
      sequence := event.sequence
      resyncRequired := router.resyncRequired || event.resyncRequired
      resyncReason := if event.resyncRequired then some .brokerResync else router.resyncReason }
    event.eventId

structure TakesIn (router : EventRouter) (event : EventRecord) : Prop where
  brokerEpoch : event.brokerEpoch = router.brokerEpoch
  unseen : event.eventId ∉ router.seenEventIds
  calm : router.resyncRequired = false
  routed : event.validateRouting = .ok ()
  number : event.sequence = router.sequence + 1
  bounded : event.sequence ≤ u64Max

theorem TakesIn.above (takes : TakesIn router event) : router.sequence < event.sequence := by
  rw [takes.number]
  exact Nat.lt_succ_self _

theorem ingest_cases (router : EventRouter) (event : EventRecord) :
    (∃ reason, router.ingest event = router.requireResync reason) ∨
    (event.brokerEpoch = router.brokerEpoch ∧ event.eventId ∈ router.seenEventIds ∧
      router.ingest event = (router, .accepted router.cursor)) ∨
    (TakesIn router event ∧ router.ingest event = (router.noted event).retain event) := by
  unfold EventRouter.ingest
  by_cases other : event.brokerEpoch ≠ router.brokerEpoch
  · rw [if_pos other]
    exact .inl ⟨_, rfl⟩
  rw [if_neg other]
  by_cases seen : event.eventId ∈ router.seenEventIds
  · rw [if_pos seen]
    exact .inr (.inl ⟨not_not.mp other, seen, rfl⟩)
  rw [if_neg seen]
  by_cases noisy : router.resyncRequired = true
  · rw [if_pos noisy]
    exact .inl ⟨_, rfl⟩
  rw [if_neg noisy]
  by_cases unroutable : event.validateRouting.toBool = false
  · rw [if_pos unroutable]
    exact .inl ⟨_, rfl⟩
  rw [if_neg unroutable]
  cases expected : checkedNext router.sequence with
  | none => exact .inl ⟨_, rfl⟩
  | some number =>
    dsimp only
    by_cases gap : event.sequence ≠ number
    · rw [if_pos gap]
      exact .inl ⟨_, rfl⟩
    · rw [if_neg gap]
      obtain ⟨bounded, rfl⟩ := checkedNext_eq_some.mp expected
      have routed := toBool_ok.mp (by simpa using unroutable)
      have number : event.sequence = router.sequence + 1 := not_not.mp gap
      exact .inr (.inr ⟨⟨not_not.mp other, seen, by simpa using noisy, routed, number, number ▸ bounded⟩, rfl⟩)

theorem ingest_takes {router : EventRouter} {event : EventRecord} (takes : TakesIn router event) :
    router.ingest event = (router.noted event).retain event := by
  have room : router.sequence < u64Max := by
    have bounded := takes.bounded
    rw [takes.number] at bounded
    exact bounded
  have next : checkedNext router.sequence = some event.sequence := checkedNext_eq_some.mpr ⟨room, takes.number⟩
  have routed : event.validateRouting.toBool = true := by
    rw [takes.routed]
    rfl
  unfold EventRouter.ingest
  simp only [takes.brokerEpoch, takes.unseen, takes.calm, routed, next, ne_eq, not_true_eq_false, if_false,
    Bool.false_eq_true, Bool.true_eq_false]
  rw [EventRouter.noted, takes.calm]

theorem ingest_noisy (noisy : router.resyncRequired = true) (event : EventRecord) :
    (router.ingest event).1.resyncRequired = true := by
  obtain ⟨reason, refused⟩ | ⟨_, _, same⟩ | ⟨takes, _⟩ := ingest_cases router event
  · rw [refused]
    rfl
  · rw [same]
    exact noisy
  · -- a router that asks for a resync takes nothing in
    rw [takes.calm] at noisy
    cases noisy

end Ingest

section Representation

structure Represents (router : EventRouter) (spans : List (Span EventRecord)) : Prop where
  records : router.events = spans.map (·.item)
  starts : router.retainedStarts = spans.map (·.first)
  lasts : ∀ span, span ∈ spans -> span.item.sequence = span.last
  rising : Rising 0 spans router.sequence
  size : spans.length ≤ router.limits.maxEvents
  routed : ∀ span, span ∈ spans -> span.item.validateRouting = .ok ()
  remembers : Remembers (max router.limits.maxEvents 1) router.seenEventOrder router.seenEventIds

theorem Represents.advance (represents : Represents router spans) (sequence : EventSequence)
    (later : router.sequence ≤ sequence) (resyncRequired : Bool) (resyncReason : Option RouterResyncReason) :
    Represents { router with sequence, resyncRequired, resyncReason } spans where
  records := represents.records
  starts := represents.starts
  lasts := represents.lasts
  rising := represents.rising.weaken later
  size := represents.size
  routed := represents.routed
  remembers := represents.remembers

theorem newAt_represents (cursor : EventCursor) (limits : RouterLimits) : Represents (.newAt cursor limits) [] where
  records := rfl
  starts := rfl
  lasts := by simp
  rising := Nat.zero_le _
  size := Nat.zero_le _
  routed := by simp
  remembers := ⟨rfl, List.nodup_nil, Nat.zero_le _⟩

theorem EventMetadata.validate_counted {metadata : EventMetadata} {event : EventKind} {scope : EventScope}
    {coalesced : Bool} {count : Nat} (valid : metadata.validate event scope coalesced = .ok ()) (least : 2 ≤ count)
    (most : count ≤ 1024) :
    EventMetadata.validate { metadata with coalescedCount := some count } event scope true = .ok () := by
  unfold EventMetadata.validate at valid ⊢
  obtain ⟨_, attributed, rest⟩ := bind_ok.mp valid
  refine bind_ok.mpr ⟨(), attributed, ?_⟩
  by_cases beat : event = .heartbeat
  · rw [if_pos beat] at rest
    split_ifs at rest with _ _ same
    simp [least, most, beat, same]
  · rw [if_neg beat] at rest
    split_ifs at rest with _ _ alive
    simp [least, most, beat, alive]

theorem mergedEvent_routed (routed : event.validateRouting = .ok ()) :
    (mergedEvent previous event).validateRouting = .ok () := by
  have count : 2 ≤ mergedCount previous event ∧ mergedCount previous event ≤ 1024 := by
    unfold mergedCount maxCoalescedCount
    omega
  unfold EventRecord.validateRouting at routed ⊢
  by_cases scope : (!event.scope.valid) = true
  · rw [if_pos scope] at routed
    cases routed
  by_cases protocol : event.protocol ≠ protocolVersion
  · rw [if_neg scope, if_pos protocol] at routed
    cases routed
  by_cases number : event.brokerEpoch = 0 ∨ event.sequence = 0
  · rw [if_neg scope, if_neg protocol, if_pos number] at routed
    cases routed
  rw [if_neg scope, if_neg protocol, if_neg number] at routed
  cases origin : event.generation.metadata with
  | none =>
    rw [origin] at routed
    simp only [mergedEvent, origin, scope, protocol, number, if_false, Option.map_none]
    exact routed
  | some metadata =>
    rw [origin] at routed
    have valid := EventMetadata.validate_counted routed count.1 count.2
    simp only [mergedEvent, origin, scope, protocol, number, if_false, Option.map_some]
    exact valid

theorem noted_same (takes : TakesIn router event) : ∃ order ids, router.noted event =
    { router with
      sequence := event.sequence
      resyncRequired := event.resyncRequired
      resyncReason := if event.resyncRequired then some .brokerResync else router.resyncReason
      seenEventOrder := order
      seenEventIds := ids } := by
  obtain ⟨order, ids, remembered, _⟩ := EventRouter.rememberEventId_order
    { router with
      sequence := event.sequence
      resyncRequired := router.resyncRequired || event.resyncRequired
      resyncReason := if event.resyncRequired then some .brokerResync else router.resyncReason } event.eventId
  refine ⟨order, ids, remembered.trans ?_⟩
  rw [takes.calm, Bool.false_or]

theorem retain_sequence (router : EventRouter) (event : EventRecord) : (router.retain event).1.sequence = router.sequence := by
  unfold EventRouter.retain
  dsimp only
  split_ifs <;> rfl

theorem noted_sequence (takes : TakesIn router event) : (router.noted event).sequence = event.sequence := by
  obtain ⟨_, _, same⟩ := noted_same takes
  rw [same]

theorem ingest_sequence (takes : TakesIn router event) : (router.ingest event).1.sequence = event.sequence := by
  rw [ingest_takes takes, retain_sequence, noted_sequence takes]

theorem noted_represents (represents : Represents router spans) (takes : TakesIn router event) :
    Represents (router.noted event) spans := by
  have counted := represents.advance event.sequence (Nat.le_of_lt takes.above)
    (router.resyncRequired || event.resyncRequired)
    (if event.resyncRequired then some .brokerResync else router.resyncReason)
  unfold EventRouter.noted EventRouter.rememberEventId
  rw [if_neg takes.unseen]
  obtain ⟨members, distinct, recent⟩ := represents.remembers
  have fresh : event.eventId ∉ router.seenEventOrder := by
    intro inside
    exact takes.unseen (members ▸ List.mem_toFinset.mpr inside)
  have queued : (router.seenEventOrder ++ [event.eventId]).Nodup := by
    apply List.Nodup.append distinct (List.nodup_singleton _)
    simpa using fresh
  have known : insert event.eventId router.seenEventIds = (router.seenEventOrder ++ [event.eventId]).toFinset := by
    ext other
    rw [members, Finset.mem_insert, List.mem_toFinset, List.mem_toFinset, List.mem_append, List.mem_singleton]
    exact or_comm
  refine { counted with remembers := ?_ }
  rw [known]
  exact forgetEventIds_remembers _ _ queued

def Joins (limit : Nat) (spans : List (Span EventRecord)) (event : EventRecord) (joined : List (Span EventRecord)) :
    Prop :=
  (∃ init span, spans = init ++ [span] ∧ mergesInto span.item event = true ∧
    joined = init ++ [⟨span.first, event.sequence, mergedEvent span.item event⟩]) ∨
  (0 < limit ∧
    joined = (spans ++ [(⟨event.sequence, event.sequence, event⟩ : Span EventRecord)]).drop (spans.length + 1 - limit))

def RouterLimits.merges (limits : RouterLimits) (previous event : EventRecord) : Bool :=
  limits.coalesceDirtyEvents && mergesInto previous event

def JoinsUnder (limits : RouterLimits) (spans : List (Span EventRecord)) (event : EventRecord)
    (joined : List (Span EventRecord)) : Prop :=
  (∃ init span, spans = init ++ [span] ∧ limits.merges span.item event = true ∧
    joined = init ++ [⟨span.first, event.sequence, mergedEvent span.item event⟩]) ∨
  ((∀ init span, spans = init ++ [span] -> limits.merges span.item event = false) ∧ 0 < limits.maxEvents ∧
    joined = (spans ++ [(⟨event.sequence, event.sequence, event⟩ : Span EventRecord)]).drop
      (spans.length + 1 - limits.maxEvents))

theorem JoinsUnder.joins {limits : RouterLimits} {joined : List (Span EventRecord)}
    (chosen : JoinsUnder limits spans event joined) : Joins limits.maxEvents spans event joined := by
  obtain ⟨init, span, ends, merges, same⟩ | ⟨_, room, same⟩ := chosen
  · exact .inl ⟨init, span, ends, (Bool.and_eq_true_iff.mp merges).2, same⟩
  · exact .inr ⟨room, same⟩

theorem mergesInto_coalescible (merges : mergesInto previous event = true) : isCoalescible event.event = true := by
  simp only [mergesInto, Bool.and_eq_true, beq_iff_eq] at merges
  rw [← merges.1.1.2]
  exact merges.1.1.1

structure SameRouter (router after : EventRouter) : Prop where
  brokerEpoch : after.brokerEpoch = router.brokerEpoch
  limits : after.limits = router.limits
  sequence : after.sequence = router.sequence
  resyncRequired : after.resyncRequired = router.resyncRequired

theorem retain_represents {low : Nat} (represents : Represents router spans) (rising : Rising 0 spans low)
    (above : low < event.sequence) (last : router.sequence = event.sequence) (routed : event.validateRouting = .ok ()) :
    router.retain event = router.requireResync .retainedHistoryLagged ∨
    ∃ joined, JoinsUnder router.limits spans event joined ∧ Represents (router.retain event).1 joined ∧
      SameRouter router (router.retain event).1 := by
  have length : router.events.length = spans.length := by rw [represents.records, List.length_map]
  unfold EventRouter.retain
  dsimp only
  split_ifs with merges full
  · rw [Bool.and_eq_true, Bool.and_eq_true, Option.any_eq_true] at merges
    obtain ⟨⟨allowed, _⟩, previous, ends, merges⟩ := merges
    obtain rfl | ⟨init, span, rfl⟩ := List.eq_nil_or_concat' spans
    · -- an empty queue has no last record
      rw [represents.records] at ends
      cases ends
    · obtain rfl : span.item = previous := by simpa [represents.records] using ends
      have chosen : router.limits.merges span.item event = true := Bool.and_eq_true_iff.mpr ⟨allowed, merges⟩
      refine .inr ⟨_, .inl ⟨init, span, rfl, chosen, rfl⟩, ?_, ⟨rfl, rfl, rfl, rfl⟩⟩
      refine { represents with records := ?_, starts := ?_, lasts := ?_, rising := ?_, size := ?_, routed := ?_ }
      · simp [represents.records]
      · simp [represents.starts]
      · intro other inside
        obtain early | new := List.mem_append.mp inside
        · exact represents.lasts other (List.mem_append_left _ early)
        · rw [List.mem_singleton.mp new]
          rfl
      · rw [last]
        exact rising.extend (Nat.le_of_lt above) _
      · simpa using represents.size
      · intro other inside
        obtain early | new := List.mem_append.mp inside
        · exact represents.routed other (List.mem_append_left _ early)
        · rw [List.mem_singleton.mp new]
          exact mergedEvent_routed routed
  · exact .inl rfl
  · have room : 0 < router.limits.maxEvents := Nat.pos_of_ne_zero full
    have size := represents.size
    have apart : ∀ init span, spans = init ++ [span] -> router.limits.merges span.item event = false := by
      intro init span ends
      apply Bool.eq_false_iff.mpr
      intro chosen
      obtain ⟨allowed, into⟩ := Bool.and_eq_true_iff.mp chosen
      apply merges
      simp [allowed, mergesInto_coalescible into, represents.records, ends, into]
    refine .inr ⟨_, .inr ⟨apart, room, rfl⟩, ?_, ⟨rfl, rfl, rfl, rfl⟩⟩
    refine { represents with records := ?_, starts := ?_, lasts := ?_, rising := ?_, size := ?_, routed := ?_ }
    · rw [length, represents.records]
      simp [List.map_drop]
    · rw [length, represents.starts]
      simp [List.map_drop]
    · intro other inside
      obtain early | new := List.mem_append.mp (List.mem_of_mem_drop inside)
      · exact represents.lasts other early
      · rw [List.mem_singleton.mp new]
    · rw [last]
      exact (rising.push above event).drop _
    · rw [List.length_drop, List.length_append, List.length_singleton]
      dsimp only
      omega
    · intro other inside
      obtain early | new := List.mem_append.mp (List.mem_of_mem_drop inside)
      · exact represents.routed other early
      · rw [List.mem_singleton.mp new]
        exact routed

theorem requireResync_represents (represents : Represents router spans) (reason : RouterResyncReason) :
    Represents (router.requireResync reason).1 spans :=
  represents.advance router.sequence (Nat.le_refl _) true _

theorem ingest_represents (represents : Represents router spans) (event : EventRecord) :
    ∃ later, Represents (router.ingest event).1 later := by
  obtain ⟨reason, refused⟩ | ⟨_, _, same⟩ | ⟨takes, taken⟩ := ingest_cases router event
  · rw [refused]
    exact ⟨spans, requireResync_represents represents reason⟩
  · rw [same]
    exact ⟨spans, represents⟩
  · rw [taken]
    have noted := noted_represents represents takes
    have last : (router.noted event).sequence = event.sequence := noted_sequence takes
    obtain refused | ⟨joined, _, kept, _⟩ := retain_represents noted represents.rising takes.above last takes.routed
    · rw [refused]
      exact ⟨spans, requireResync_represents noted _⟩
    · exact ⟨joined, kept⟩

theorem skipTo_represents (represents : Represents router spans) (event : EventRecord) :
    Represents (router.skipTo event) spans := by
  unfold EventRouter.skipTo
  split_ifs with gap
  · have later : router.sequence ≤ event.sequence - 1 := Nat.le_sub_one_of_lt (Nat.lt_of_succ_lt gap)
    exact represents.advance _ later _ _
  · exact represents

theorem takeBatch_represents (represents : Represents router spans) (events : List EventRecord) :
    ∃ later, Represents (router.takeBatch events).1 later := by
  induction events generalizing router spans with
  | nil => exact ⟨spans, represents⟩
  | cons event rest ih =>
    unfold EventRouter.takeBatch
    split_ifs with seen full
    · obtain ⟨later, kept⟩ := ingest_represents represents event
      exact ih kept
    · exact ⟨spans, requireResync_represents represents _⟩
    · obtain ⟨later, kept⟩ := ingest_represents (skipTo_represents represents event) event
      split
      next refused =>
        rw [refused] at kept
        exact ⟨later, kept⟩
      next taken =>
        rw [taken] at kept
        exact ih kept

theorem ingestBatch_represents (represents : Represents router spans) (batch : EventBatch) :
    ∃ later, Represents (router.ingestBatch batch).1 later := by
  unfold EventRouter.ingestBatch
  split_ifs
  · exact ⟨spans, requireResync_represents represents _⟩
  · exact ⟨spans, requireResync_represents represents _⟩
  · exact ⟨spans, requireResync_represents represents _⟩
  · split
    next => exact ⟨spans, requireResync_represents represents _⟩
    next =>
      obtain ⟨later, kept⟩ := takeBatch_represents represents batch.events
      split
      next stopped =>
        rw [stopped] at kept
        exact ⟨later, kept⟩
      next ended =>
        rw [ended] at kept
        dsimp only
        split_ifs with behind
        · simp only [Bool.and_eq_true, decide_eq_true_eq] at behind
          exact ⟨later, kept.advance _ (Nat.le_of_lt behind.2) _ _⟩
        · exact ⟨later, kept⟩

theorem follow_represents (represents : Represents router spans) (command : RouterCommand) :
    ∃ later, Represents (router.follow command) later := by
  cases command with
  | ingest event => exact ingest_represents represents event
  | ingestBatch batch => exact ingestBatch_represents represents batch
  | requestResync => exact ⟨spans, represents.advance router.sequence (Nat.le_refl _) _ _⟩
  | reset cursor => exact ⟨[], newAt_represents cursor router.limits⟩

theorem RouterRun.represents {cursor : EventCursor} {limits : RouterLimits} {trace : List RouterMoment}
    (run : RouterRun cursor limits trace router) : ∃ spans, Represents router spans := by
  refine run.keeps (fun router => ∃ spans, Represents router spans) ⟨[], newAt_represents cursor limits⟩ ?_
  rintro moment _ taken ⟨spans, represents⟩
  rw [← taken]
  exact follow_represents represents moment.label

end Representation

section Origin

def SameOrigin (router after : EventRouter) : Prop := after.limits = router.limits ∧ after.brokerEpoch = router.brokerEpoch

theorem SameOrigin.trans {middle : EventRouter} (first : SameOrigin router middle) (second : SameOrigin middle after) :
    SameOrigin router after := ⟨second.1.trans first.1, second.2.trans first.2⟩

theorem ingest_origin (router : EventRouter) (event : EventRecord) : SameOrigin router (router.ingest event).1 := by
  obtain ⟨reason, refused⟩ | ⟨_, _, same⟩ | ⟨takes, taken⟩ := ingest_cases router event
  · rw [refused]
    exact ⟨rfl, rfl⟩
  · rw [same]
    exact ⟨rfl, rfl⟩
  · obtain ⟨order, ids, noted⟩ := noted_same takes
    obtain ⟨broker, limits⟩ := EventRouter.retain_origin (router.noted event) event
    rw [taken]
    rw [noted] at broker limits ⊢
    exact ⟨limits, broker⟩

theorem skipTo_origin (router : EventRouter) (event : EventRecord) : SameOrigin router (router.skipTo event) := by
  unfold EventRouter.skipTo
  split_ifs <;> exact ⟨rfl, rfl⟩

theorem takeBatch_origin (router : EventRouter) (events : List EventRecord) : SameOrigin router (router.takeBatch events).1 := by
  induction events generalizing router with
  | nil => exact ⟨rfl, rfl⟩
  | cons event rest ih =>
    have skipped := (skipTo_origin router event).trans (ingest_origin (router.skipTo event) event)
    unfold EventRouter.takeBatch
    split_ifs
    · exact (ingest_origin router event).trans (ih _)
    · exact ⟨rfl, rfl⟩
    · split
      next refused =>
        rw [refused] at skipped
        exact skipped
      next taken =>
        rw [taken] at skipped
        exact skipped.trans (ih _)

theorem ingestBatch_origin (batch : EventBatch) : SameOrigin router (router.ingestBatch batch).1 := by
  have taken := takeBatch_origin router batch.events
  unfold EventRouter.ingestBatch
  split_ifs
  · exact ⟨rfl, rfl⟩
  · exact ⟨rfl, rfl⟩
  · exact ⟨rfl, rfl⟩
  · split
    next => exact ⟨rfl, rfl⟩
    next =>
      split
      next stopped =>
        rw [stopped] at taken
        exact taken
      next ended =>
        rw [ended] at taken
        dsimp only
        split_ifs
        · exact taken
        · exact taken

theorem follow_limits (router : EventRouter) (command : RouterCommand) :
    (router.follow command).limits = router.limits := by
  cases command with
  | ingest event => exact (ingest_origin router event).1
  | ingestBatch batch => exact (ingestBatch_origin batch).1
  | requestResync => rfl
  | reset cursor => rfl

theorem follow_brokerEpoch (router : EventRouter) {command : RouterCommand} (goes : ∀ next, command ≠ .reset next) :
    (router.follow command).brokerEpoch = router.brokerEpoch := by
  cases command with
  | ingest event => exact (ingest_origin router event).2
  | ingestBatch batch => exact (ingestBatch_origin batch).2
  | requestResync => rfl
  | reset next => exact absurd rfl (goes next)

theorem RouterRun.limits {cursor : EventCursor} {limits : RouterLimits} {trace : List RouterMoment}
    (run : RouterRun cursor limits trace router) : router.limits = limits := by
  refine run.keeps (fun router => router.limits = limits) rfl ?_
  intro moment _ taken same
  rw [← taken, follow_limits, same]

end Origin

section Replay

theorem replay_cases (router : EventRouter) (after : EventCursor) (scope : Option EventScope) :
    ((router.replay after scope).result = .resyncRequired ∧
      (router.resyncRequired = true ∨ after.brokerEpoch ≠ router.brokerEpoch ∨ router.sequence < after.sequence ∨
        ∃ start next, router.retainedStarts.head? = some start ∧ checkedNext after.sequence = some next ∧ next < start)) ∨
    (router.resyncRequired = false ∧ after.brokerEpoch = router.brokerEpoch ∧ after.sequence ≤ router.sequence ∧
      (∀ start next, router.retainedStarts.head? = some start -> checkedNext after.sequence = some next ->
        start ≤ next) ∧
      router.replay after scope =
        { brokerEpoch := router.brokerEpoch
          result := .accepted
          events := router.events.filter fun event =>
            decide (after.sequence < event.sequence) && scope.all (scopeMatches event)
          cursor := router.cursor }) := by
  unfold EventRouter.replay
  dsimp only
  split_ifs with lags
  · refine .inl ⟨rfl, ?_⟩
    simpa [Option.any_eq_true, or_assoc] using lags
  · right
    simp only [Bool.or_eq_true, not_or, bne_iff_ne, ne_eq, not_not, decide_eq_true_eq, Option.any_eq_true,
      not_exists, not_and, Nat.not_lt, Bool.not_eq_true] at lags
    obtain ⟨⟨⟨calm, epoch⟩, behind⟩, reached⟩ := lags
    exact ⟨calm, epoch, behind, fun start next first number => reached start first next number, rfl⟩

end Replay

end AgentycHost
