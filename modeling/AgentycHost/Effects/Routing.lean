import AgentycHost.Broker.EventRouter
import AgentycHost.Effects.Events
import AgentycHost.Shared.Spans

set_option autoImplicit false

/-! # What the event router retains -/

namespace AgentycHost

open Shared

structure Delivers (record event : EventRecord) : Prop where
  kind : record.event = event.event
  scope : record.scope = event.scope
  attribution : record.attribution = event.attribution
  reached : event.sequence ≤ record.sequence
  merged : record = event ∨ (record.coalesced = true ∧ isCoalescible event.event = true)

/-- The router holds the events of `source` after `low`, span by span. -/
structure Retains (router : EventRouter) (source : List EventRecord) (low : EventSequence)
    (spans : List (Span EventRecord)) : Prop where
  numbered : Successive router.brokerEpoch 0 source router.sequence
  calm : router.resyncRequired = false
  seen : ∀ eventId, eventId ∈ router.seenEventIds -> eventId.sequence ≤ router.sequence
  records : router.events = spans.map (·.item)
  starts : router.retainedStarts = spans.map (·.first)
  lasts : ∀ span, span ∈ spans -> span.item.sequence = span.last
  tiles : Tiles low spans router.sequence
  room : 0 < router.limits.maxEvents
  size : spans.length ≤ router.limits.maxEvents
  full : low = 0 ∨ spans.length = router.limits.maxEvents
  quiet : ∀ span, span ∈ spans -> span.item.resyncRequired = false
  delivered : ∀ event, event ∈ source -> low < event.sequence -> ∃ span, span ∈ spans ∧ Delivers span.item event

variable {router : EventRouter} {source : List EventRecord} {low : EventSequence} {spans : List (Span EventRecord)}
  {event previous record : EventRecord}

theorem Delivers.refl (event : EventRecord) : Delivers event event := ⟨rfl, rfl, rfl, Nat.le_refl _, .inl rfl⟩

theorem mergesInto_iff : mergesInto previous event = true <->
    isCoalescible previous.event = true ∧ previous.event = event.event ∧ previous.scope = event.scope ∧
      previous.attribution = event.attribution := by
  simp [mergesInto, and_assoc]

theorem mergedEvent_attribution : (mergedEvent previous event).attribution = event.attribution := by
  unfold EventRecord.attribution mergedEvent
  cases event.generation.metadata <;> rfl

theorem Delivers.merge (delivers : Delivers previous record) (merges : mergesInto previous event = true)
    (later : previous.sequence ≤ event.sequence) : Delivers (mergedEvent previous event) record := by
  obtain ⟨coalescible, sameEvent, sameScope, sameOrigin⟩ := mergesInto_iff.mp merges
  constructor
  case kind => exact sameEvent.symm.trans delivers.kind
  case scope => exact sameScope.symm.trans delivers.scope
  case attribution => rw [mergedEvent_attribution, ← sameOrigin, delivers.attribution]
  case reached => exact delivers.reached.trans later
  case merged => exact .inr ⟨rfl, delivers.kind ▸ coalescible⟩

theorem mergedEvent_delivers (merges : mergesInto previous event = true) : Delivers (mergedEvent previous event) event := by
  obtain ⟨coalescible, sameEvent, _, _⟩ := mergesInto_iff.mp merges
  exact ⟨rfl, rfl, mergedEvent_attribution, Nat.le_refl _, .inr ⟨rfl, sameEvent ▸ coalescible⟩⟩

namespace EventRouter

theorem forgetEventIds_subset (bound : Nat) (order : List EventId) (seen : Finset EventId) :
    (forgetEventIds bound order seen).2 ⊆ seen := by
  induction order generalizing seen with
  | nil => exact Finset.Subset.refl seen
  | cons expired rest ih =>
    rw [forgetEventIds]
    split_ifs
    · exact (ih (seen.erase expired)).trans (Finset.erase_subset _ _)
    · exact Finset.Subset.refl seen

theorem rememberEventId_order (router : EventRouter) (eventId : EventId) : ∃ order ids,
    router.rememberEventId eventId = { router with seenEventOrder := order, seenEventIds := ids } ∧
      ∀ seen, seen ∈ ids -> seen ∈ router.seenEventIds ∨ seen = eventId := by
  unfold rememberEventId
  split_ifs
  · exact ⟨_, _, rfl, fun _ => .inl⟩
  · refine ⟨_, _, rfl, fun seen member => ?_⟩
    have known := forgetEventIds_subset _ _ _ member
    exact (Finset.mem_insert.mp known).symm

theorem retain_cases (router : EventRouter) (event : EventRecord) (room : 0 < router.limits.maxEvents) :
    (∃ previous, router.events.getLast? = some previous ∧ mergesInto previous event = true ∧
      (router.retain event).1 = { router with events := router.events.dropLast ++ [mergedEvent previous event] }) ∨
    (router.retain event).1 =
      { router with
        events := (router.events ++ [event]).drop (router.events.length + 1 - router.limits.maxEvents)
        retainedStarts :=
          (router.retainedStarts ++ [event.sequence]).drop (router.events.length + 1 - router.limits.maxEvents) } := by
  unfold retain
  dsimp only
  split_ifs with merges full
  · rw [Bool.and_eq_true, Option.any_eq_true] at merges
    obtain ⟨_, previous, last, merges⟩ := merges
    exact .inl ⟨previous, last, merges, by simp [last]⟩
  · exact absurd full (Nat.pos_iff_ne_zero.mp room)
  · exact .inr rfl

theorem retain_origin (router : EventRouter) (event : EventRecord) :
    (router.retain event).1.brokerEpoch = router.brokerEpoch ∧ (router.retain event).1.limits = router.limits := by
  unfold retain
  dsimp only
  split_ifs <;> exact ⟨rfl, rfl⟩

theorem ingest_next (calm : router.resyncRequired = false)
    (seen : ∀ eventId, eventId ∈ router.seenEventIds -> eventId.sequence ≤ router.sequence)
    (stamped : Stamped router.brokerEpoch (router.sequence + 1) event) (quiet : event.resyncRequired = false) :
    ∃ order ids,
      router.ingest event =
        EventRouter.retain { router with
          sequence := router.sequence + 1, seenEventOrder := order, seenEventIds := ids } event ∧
      ∀ eventId, eventId ∈ ids -> eventId.sequence ≤ router.sequence + 1 := by
  have unseen : event.eventId ∉ router.seenEventIds := by
    intro member
    have bound := seen _ member
    rw [stamped.eventId] at bound
    exact Nat.not_succ_le_self _ bound
  have routed : event.validateRouting.toBool = true := by
    rw [stamped.routed]
    rfl
  have number : checkedNext router.sequence = some (router.sequence + 1) :=
    checkedNext_eq_some.mpr ⟨stamped.bounded, rfl⟩
  obtain ⟨order, ids, remembered, members⟩ :=
    rememberEventId_order { router with sequence := router.sequence + 1 } event.eventId
  refine ⟨order, ids, ?_, fun eventId member => ?_⟩
  · unfold ingest
    simp only [stamped.brokerEpoch, ne_eq, not_true_eq_false, if_false, unseen, Bool.false_eq_true, calm, routed,
      Bool.true_eq_false, number, stamped.sequence, quiet, Bool.or_false]
    rw [← calm, remembered]
  · obtain member | rfl := members eventId member
    · exact Nat.le_succ_of_le (seen eventId member)
    · rw [stamped.eventId]

end EventRouter

theorem Retains.ingest_origin (retains : Retains router source low spans)
    (stamped : Stamped router.brokerEpoch (router.sequence + 1) event) (quiet : event.resyncRequired = false) :
    (router.ingest event).1.brokerEpoch = router.brokerEpoch ∧ (router.ingest event).1.limits = router.limits := by
  obtain ⟨order, ids, taken, _⟩ := EventRouter.ingest_next retains.calm retains.seen stamped quiet
  rw [taken]
  exact EventRouter.retain_origin _ event

section Ingest

variable {order : List EventId} {ids : Finset EventId}
  (stamped : Stamped router.brokerEpoch (router.sequence + 1) event) (quiet : event.resyncRequired = false)
  (seen : ∀ eventId, eventId ∈ ids -> eventId.sequence ≤ router.sequence + 1)

include stamped quiet seen

theorem Retains.merge {span : Span EventRecord} (retains : Retains router source low (spans ++ [span]))
    (merges : mergesInto span.item event = true) :
    Retains
      { router with
        sequence := router.sequence + 1
        seenEventOrder := order
        seenEventIds := ids
        events := router.events.dropLast ++ [mergedEvent span.item event] }
      (source ++ [event]) low (spans ++ [⟨span.first, router.sequence + 1, mergedEvent span.item event⟩]) := by
  have ends : span.item.sequence ≤ event.sequence := by
    rw [retains.lasts span (by simp), retains.tiles.ends, stamped.sequence]
    exact Nat.le_succ _
  constructor
  case numbered => exact retains.numbered.append ⟨stamped, rfl⟩
  case calm => exact retains.calm
  case seen => exact seen
  case records =>
    rw [retains.records]
    simp
  case starts =>
    rw [retains.starts]
    simp
  case lasts =>
    intro other member
    obtain member | last := List.mem_append.mp member
    · exact retains.lasts other (List.mem_append_left _ member)
    · rw [List.mem_singleton.mp last]
      exact stamped.sequence
  case tiles => exact retains.tiles.extend _
  case room => exact retains.room
  case size => simpa using retains.size
  case full => simpa using retains.full
  case quiet =>
    intro other member
    obtain member | last := List.mem_append.mp member
    · exact retains.quiet other (List.mem_append_left _ member)
    · rw [List.mem_singleton.mp last]
      exact quiet
  case delivered =>
    intro old member above
    obtain member | last := List.mem_append.mp member
    · obtain ⟨other, inside, delivers⟩ := retains.delivered old member above
      obtain inside | last := List.mem_append.mp inside
      · exact ⟨other, List.mem_append_left _ inside, delivers⟩
      · -- it was in the record that was replaced
        rw [List.mem_singleton.mp last] at delivers
        exact ⟨_, List.mem_append_right _ (List.mem_singleton_self _), delivers.merge merges ends⟩
    · rw [List.mem_singleton.mp last]
      exact ⟨_, List.mem_append_right _ (List.mem_singleton_self _), mergedEvent_delivers merges⟩

theorem Retains.push (retains : Retains router source low spans) :
    ∃ later, Retains
      { router with
        sequence := router.sequence + 1
        seenEventOrder := order
        seenEventIds := ids
        events := (router.events ++ [event]).drop (router.events.length + 1 - router.limits.maxEvents)
        retainedStarts :=
          (router.retainedStarts ++ [event.sequence]).drop (router.events.length + 1 - router.limits.maxEvents) }
      (source ++ [event]) later
      ((spans ++ [(⟨router.sequence + 1, router.sequence + 1, event⟩ : Span EventRecord)]).drop
        (router.events.length + 1 - router.limits.maxEvents)) := by
  generalize excess_is : router.events.length + 1 - router.limits.maxEvents = excess
  have size := retains.size
  have length : router.events.length = spans.length := by rw [retains.records, List.length_map]
  obtain ⟨later, bound, same, tiles, inside⟩ := (retains.tiles.push event).drop excess
  refine ⟨later, ?_⟩
  constructor
  case numbered => exact retains.numbered.append ⟨stamped, rfl⟩
  case calm => exact retains.calm
  case seen => exact seen
  case records =>
    rw [retains.records]
    simp [List.map_drop]
  case starts =>
    rw [retains.starts, stamped.sequence]
    simp [List.map_drop]
  case lasts =>
    intro span member
    obtain member | last := List.mem_append.mp (List.mem_of_mem_drop member)
    · exact retains.lasts span member
    · rw [List.mem_singleton.mp last]
      exact stamped.sequence
  case tiles => exact tiles
  case room => exact retains.room
  case size =>
    rw [List.length_drop, List.length_append, List.length_singleton]
    change _ ≤ router.limits.maxEvents
    omega
  case full =>
    rw [List.length_drop, List.length_append, List.length_singleton]
    change later = 0 ∨ _ = router.limits.maxEvents
    by_cases fits : excess = 0
    · -- the window still reaches back to the first event
      obtain origin | packed := retains.full
      · exact .inl ((same fits).trans origin)
      · omega
    · right
      omega
  case quiet =>
    intro span member
    obtain member | last := List.mem_append.mp (List.mem_of_mem_drop member)
    · exact retains.quiet span member
    · rw [List.mem_singleton.mp last]
      exact quiet
  case delivered =>
    intro old member above
    obtain member | last := List.mem_append.mp member
    · obtain ⟨span, held, delivers⟩ := retains.delivered old member (bound.trans_lt above)
      refine ⟨span, inside span (List.mem_append_left _ held) ?_, delivers⟩
      rw [← retains.lasts span held]
      exact above.trans_le delivers.reached
    · rw [List.mem_singleton.mp last] at above ⊢
      refine ⟨_, inside _ (List.mem_append_right _ (List.mem_singleton_self _)) ?_, .refl event⟩
      rwa [stamped.sequence] at above

end Ingest

theorem Retains.ingest (retains : Retains router source low spans)
    (stamped : Stamped router.brokerEpoch (router.sequence + 1) event) (quiet : event.resyncRequired = false) :
    ∃ low spans, Retains (router.ingest event).1 (source ++ [event]) low spans := by
  obtain ⟨order, ids, taken, seen⟩ := EventRouter.ingest_next retains.calm retains.seen stamped quiet
  rw [taken]
  obtain ⟨previous, last, merges, merged⟩ | pushed := EventRouter.retain_cases
    { router with sequence := router.sequence + 1, seenEventOrder := order, seenEventIds := ids } event retains.room
  · rw [merged]
    change router.events.getLast? = some previous at last
    obtain rfl | ⟨init, span, rfl⟩ := List.eq_nil_or_concat' spans
    · -- an empty router has nothing to merge into
      rw [retains.records] at last
      cases last
    · obtain rfl : span.item = previous := by simpa [retains.records] using last
      exact ⟨low, _, retains.merge stamped quiet seen merges⟩
  · rw [pushed]
    obtain ⟨later, kept⟩ := retains.push stamped quiet seen
    exact ⟨later, _, kept⟩

theorem Retains.ingest_all {events : List EventRecord} {high : EventSequence} (retains : Retains router source low spans)
    (numbered : Successive router.brokerEpoch router.sequence events high)
    (quiet : ∀ event, event ∈ events -> event.resyncRequired = false) :
    ∃ last low spans, events.foldl (fun router event => (router.ingest event).1) router = last ∧
      last.brokerEpoch = router.brokerEpoch ∧ last.limits = router.limits ∧ last.sequence = high ∧
      Retains last (source ++ events) low spans := by
  induction events generalizing router source low spans with
  | nil =>
    obtain rfl : router.sequence = high := numbered
    exact ⟨router, low, spans, rfl, rfl, rfl, rfl, by simpa using retains⟩
  | cons event rest ih =>
    obtain ⟨stamped, later⟩ := numbered
    have calm := quiet event List.mem_cons_self
    obtain ⟨sameBroker, sameLimits⟩ := retains.ingest_origin stamped calm
    obtain ⟨low, spans, one⟩ := retains.ingest stamped calm
    have sequence : (router.ingest event).1.sequence = router.sequence + 1 := by
      rw [one.numbered.length, retains.numbered.length, List.length_append, Nat.add_assoc]
      rfl
    rw [← sameBroker, ← sequence] at later
    obtain ⟨last, low, spans, ran, broker, limits, number, all⟩ :=
      ih one later fun event member => quiet event (List.mem_cons_of_mem _ member)
    rw [List.append_assoc, List.singleton_append] at all
    exact ⟨last, low, spans, ran, broker.trans sameBroker, limits.trans sameLimits, number, all⟩

theorem Recorded.fits {limits : LedgerLimits} {before after : LedgerState} (recorded : Recorded limits before after)
    (bounded : after.eventSequence ≤ before.eventSequence + limits.maxEvents) : Advances before after := by
  obtain ⟨whole, ⟨sameBroker, kept, new, inside, events, numbered⟩, rfl⟩ := recorded
  have length : new.length ≤ limits.maxEvents := by
    have count := numbered.length
    change whole.eventSequence ≤ _ at bounded
    rw [count] at bounded
    exact Nat.le_of_add_le_add_left bounded
  refine ⟨sameBroker, kept.drop (whole.events.length - limits.maxEvents), new,
    fun event member => inside (List.mem_of_mem_drop member), ?_, numbered⟩
  unfold drainEvents
  dsimp only
  rw [events, List.drop_append_of_le_length]
  rw [List.length_append]
  omega

end AgentycHost
