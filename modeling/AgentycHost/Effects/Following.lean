import AgentycHost.Effects.Retention

set_option autoImplicit false

/-! # What a router that stays calm has taken in -/

namespace AgentycHost

open Shared

variable {router : EventRouter} {event : EventRecord} {events source : List EventRecord} {low : EventSequence}
  {spans : List (Span EventRecord)}

theorem retain_calm (calm : (router.retain event).1.resyncRequired = false) : router.resyncRequired = false := by
  unfold EventRouter.retain at calm
  dsimp only at calm
  split_ifs at calm with merges full
  · exact calm
  · cases calm
  · exact calm

theorem foldl_noisy (noisy : router.resyncRequired = true) (events : List EventRecord) :
    (events.foldl (fun router event => (router.ingest event).1) router).resyncRequired = true := by
  induction events generalizing router with
  | nil => exact noisy
  | cons event rest ih => exact ih (ingest_noisy noisy event)

theorem Retains.takes (retains : Retains router source low spans)
    (stamped : Stamped router.brokerEpoch event.sequence event) (later : router.sequence < event.sequence)
    (calm : (router.ingest event).1.resyncRequired = false) :
    event.sequence = router.sequence + 1 ∧ event.resyncRequired = false := by
  obtain ⟨reason, refused⟩ | ⟨_, seen, _⟩ | ⟨takes, taken⟩ := ingest_cases router event
  · rw [refused] at calm
    cases calm
  · have known := retains.seen event.eventId seen
    rw [stamped.eventId] at known
    exact absurd known (Nat.not_le_of_lt later)
  · refine ⟨takes.number, ?_⟩
    rw [taken] at calm
    have quiet := retain_calm calm
    obtain ⟨_, _, same⟩ := noted_same takes
    rwa [same] at quiet

theorem Retains.takes_all (retains : Retains router source low spans)
    (stamped : ∀ event, event ∈ events -> Stamped router.brokerEpoch event.sequence event)
    (rising : events.Pairwise fun one other => one.sequence < other.sequence)
    (later : ∀ event, event ∈ events -> router.sequence < event.sequence)
    (calm : (events.foldl (fun router event => (router.ingest event).1) router).resyncRequired = false) :
    (∃ high, Successive router.brokerEpoch router.sequence events high) ∧
      ∀ event, event ∈ events -> event.resyncRequired = false := by
  induction events generalizing router source low spans with
  | nil => exact ⟨⟨_, rfl⟩, fun _ inside => by cases inside⟩
  | cons event rest ih =>
    have still : (router.ingest event).1.resyncRequired = false := by
      by_contra noisy
      rw [Bool.not_eq_false] at noisy
      have last : (rest.foldl (fun router event => (router.ingest event).1) (router.ingest event).1).resyncRequired = true :=
        foldl_noisy noisy rest
      rw [List.foldl_cons, last] at calm
      cases calm
    have own := stamped event List.mem_cons_self
    obtain ⟨number, quiet⟩ := retains.takes own (later event List.mem_cons_self) still
    rw [number] at own
    obtain ⟨sameBroker, _⟩ := retains.ingest_origin own quiet
    obtain ⟨low, spans, next⟩ := retains.ingest own quiet
    have sequence : (router.ingest event).1.sequence = router.sequence + 1 := by
      rw [next.numbered.length, retains.numbered.length, List.length_append, Nat.add_assoc]
      rfl
    rw [List.pairwise_cons] at rising
    obtain ⟨⟨high, numbered⟩, others⟩ := ih next
      (fun other inside => sameBroker ▸ stamped other (List.mem_cons_of_mem _ inside)) rising.2
      (fun other inside => by
        rw [sequence, ← number]
        exact rising.1 other inside) calm
    rw [sameBroker, sequence] at numbered
    refine ⟨⟨high, own, numbered⟩, fun other inside => ?_⟩
    obtain rfl | inside := List.mem_cons.mp inside
    · exact quiet
    · exact others other inside

section Numbers

variable {brokerEpoch : BrokerEpoch} {middle high : EventSequence}

theorem Successive.drop (numbered : Successive brokerEpoch low events high) {count : Nat} (fits : count ≤ events.length) :
    Successive brokerEpoch (low + count) (events.drop count) high := by
  induction events generalizing low count with
  | nil =>
    obtain rfl : count = 0 := Nat.le_zero.mp fits
    exact numbered
  | cons event rest ih =>
    cases count with
    | zero => exact numbered
    | succ count =>
      have later := ih numbered.2 (Nat.le_of_succ_le_succ fits)
      rwa [Nat.add_assoc, Nat.add_comm 1 count] at later

theorem Successive.at_number (numbered : Successive brokerEpoch low events high) {number : EventSequence}
    (above : low < number) (below : number ≤ high) : ∃ event, event ∈ events ∧ event.sequence = number := by
  induction events generalizing low with
  | nil =>
    obtain rfl : low = high := numbered
    exact absurd below (Nat.not_le_of_lt above)
  | cons event rest ih =>
    by_cases next : number = low + 1
    · exact ⟨event, List.mem_cons_self, numbered.1.sequence.trans next.symm⟩
    · have later : low + 1 < number := Nat.lt_of_le_of_ne above (Ne.symm next)
      obtain ⟨other, inside, same⟩ := ih numbered.2 later
      exact ⟨other, List.mem_cons_of_mem _ inside, same⟩

theorem Successive.rising (numbered : Successive brokerEpoch low events high) :
    events.Pairwise fun one other => one.sequence < other.sequence := by
  induction events generalizing low with
  | nil => exact .nil
  | cons event rest ih =>
    refine List.pairwise_cons.mpr ⟨fun other inside => ?_, ih numbered.2⟩
    rw [numbered.1.sequence]
    exact (numbered.2.between inside).1

theorem Successive.start {other : EventSequence} (numbered : Successive brokerEpoch low events high)
    (again : Successive brokerEpoch middle events other) (some : events ≠ []) : low = middle := by
  cases events with
  | nil => exact absurd rfl some
  | cons event rest =>
    have same := numbered.1.sequence.symm.trans again.1.sequence
    exact Nat.succ.inj same

end Numbers

theorem Retains.rising (retains : Retains router source low spans) :
    router.events.Pairwise fun one other => one.sequence < other.sequence := by
  rw [retains.records, List.pairwise_map]
  refine retains.tiles.pairwise.imp_of_mem fun one other less => ?_
  rwa [retains.lasts _ one, retains.lasts _ other]

theorem Retains.record_le (retains : Retains router source low spans) {record : EventRecord}
    (inside : record ∈ router.events) : record.sequence ≤ router.sequence := by
  rw [retains.records] at inside
  obtain ⟨span, held, rfl⟩ := List.mem_map.mp inside
  rw [retains.lasts span held]
  exact (retains.tiles.bounds held).2

end AgentycHost
