import AgentycHost.Safety.Completeness

set_option autoImplicit false

/-! # What is left of the events a router takes in -/

namespace AgentycHost

open Shared

variable {router : EventRouter} {event record previous : EventRecord} {taken : List EventRecord}

def EventRecord.unmarked (event : EventRecord) : EventRecord :=
  { event with
    coalesced := false
    dirtyReason := none
    generation := { event.generation with
      metadata := event.generation.metadata.map fun metadata => { metadata with coalescedCount := none } } }

/-- The events whose place no next one takes. -/
def surviving (limits : RouterLimits) : List EventRecord -> List EventRecord
  | [] => []
  | event :: rest =>
      if rest.head?.any (limits.merges event) then surviving limits rest else event :: surviving limits rest

section Marks

theorem mergedEvent_unmarked (previous event : EventRecord) : (mergedEvent previous event).unmarked = event.unmarked := by
  unfold mergedEvent EventRecord.unmarked
  cases event.generation.metadata <;> rfl

theorem merges_unmarked (limits : RouterLimits) (previous event : EventRecord) :
    limits.merges previous.unmarked event = limits.merges previous event := by
  have same : previous.unmarked.attribution = previous.attribution := by
    unfold EventRecord.attribution EventRecord.unmarked
    cases previous.generation.metadata <;> rfl
  unfold RouterLimits.merges mergesInto
  rw [same]
  rfl

theorem merges_same (limits : RouterLimits) (same : record.unmarked = previous.unmarked) (event : EventRecord) :
    limits.merges record event = limits.merges previous event := by
  rw [← merges_unmarked limits record, same, merges_unmarked]

end Marks

section Survivors

variable (limits : RouterLimits)

theorem surviving_two (first second : EventRecord) (rest : List EventRecord) :
    surviving limits (first :: second :: rest) =
      if limits.merges first second then surviving limits (second :: rest)
      else first :: surviving limits (second :: rest) := rfl

theorem surviving_subset (taken : List EventRecord) (inside : event ∈ surviving limits taken) : event ∈ taken := by
  induction taken with
  | nil => cases inside
  | cons first rest ih =>
    rw [surviving] at inside
    split at inside
    next => exact List.mem_cons_of_mem _ (ih inside)
    next =>
      obtain rfl | later := List.mem_cons.mp inside
      · exact List.mem_cons_self
      · exact List.mem_cons_of_mem _ (ih later)

theorem surviving_getLast? (taken : List EventRecord) : (surviving limits taken).getLast? = taken.getLast? := by
  induction taken with
  | nil => rfl
  | cons first rest ih =>
    rw [surviving]
    cases rest with
    | nil => rfl
    | cons second rest =>
      have later : (first :: second :: rest).getLast? = (second :: rest).getLast? := List.getLast?_cons_cons
      split
      next => rw [ih, later]
      next =>
        rw [later, ← ih, List.getLast?_cons, ih]
        cases last : (second :: rest).getLast? with
        | none => cases List.getLast?_eq_none_iff.mp last
        | some event => rfl

theorem surviving_nil (none_ : surviving limits taken = []) : taken = [] := by
  have last := surviving_getLast? limits taken
  rw [none_] at last
  exact List.getLast?_eq_none_iff.mp last.symm

theorem surviving_snoc (taken : List EventRecord) (event : EventRecord) :
    surviving limits (taken ++ [event]) =
      (if taken.getLast?.any fun last => limits.merges last event then (surviving limits taken).dropLast
        else surviving limits taken) ++ [event] := by
  induction taken with
  | nil => rfl
  | cons first rest ih =>
    cases rest with
    | nil =>
      simp only [List.nil_append, List.cons_append, surviving, List.head?_cons, List.head?_nil, Option.any_some,
        Option.any_none, List.getLast?_singleton, Bool.false_eq_true, if_false]
      split <;> rfl
    | cons second rest =>
      have some_ : surviving limits (second :: rest) ≠ [] := fun none_ => by cases surviving_nil limits none_
      have later : (first :: second :: rest).getLast? = (second :: rest).getLast? := List.getLast?_cons_cons
      rw [List.cons_append, List.cons_append, surviving_two, ← List.cons_append, ih, later, surviving_two]
      cases limits.merges first second with
      | true => rfl
      | false =>
        simp only [Bool.false_eq_true, if_false]
        split
        next => rw [List.dropLast_cons_of_ne_nil some_, List.cons_append]
        next => rfl

end Survivors

section Queue

variable {limits : RouterLimits} {start : EventSequence} {old recent init : List (Span EventRecord)}
  {evicted held : List EventRecord} {span : Span EventRecord}

structure Divides (limits : RouterLimits) (start : EventSequence) (taken : List EventRecord)
    (old recent : List (Span EventRecord)) (evicted held : List EventRecord) : Prop where
  before : ∀ span, span ∈ old -> span.last ≤ start
  survivors : surviving limits taken = evicted ++ held
  told : recent.map (·.item.unmarked) = held.map (·.unmarked)
  lost : evicted ≠ [] -> old = [] ∧ ∃ head, recent.head? = some head ∧ start + 1 < head.first

theorem Divides.untaken (divides : Divides limits start taken old [] evicted held) : taken = [] := by
  apply surviving_nil limits
  have none_ : held = [] := List.map_eq_nil_iff.mp divides.told.symm
  rw [divides.survivors, none_, List.append_nil]
  by_contra some_
  obtain ⟨_, head, first, _⟩ := divides.lost some_
  cases first

theorem Divides.last (divides : Divides limits start taken old (init ++ [span]) evicted held) :
    ∃ earlier final, held = earlier ++ [final] ∧ init.map (·.item.unmarked) = earlier.map (·.unmarked) ∧
      span.item.unmarked = final.unmarked ∧ taken.getLast? = some final := by
  have told := divides.told
  rw [List.map_append, List.map_singleton] at told
  obtain ⟨earlier, ends, rfl, before, lasts⟩ := List.append_eq_map_iff.mp told
  obtain ⟨final, rfl, same⟩ := List.map_eq_singleton_iff.mp lasts
  refine ⟨earlier, final, rfl, before.symm, same.symm, ?_⟩
  rw [← surviving_getLast? limits, divides.survivors, ← List.append_assoc, List.getLast?_concat]

theorem Divides.merge (divides : Divides limits start taken old (init ++ [span]) evicted held)
    (merges : limits.merges span.item event = true) :
    ∃ held, Divides limits start (taken ++ [event]) old
      (init ++ [⟨span.first, event.sequence, mergedEvent span.item event⟩]) evicted held := by
  obtain ⟨earlier, final, rfl, before, same, last⟩ := divides.last
  refine ⟨earlier ++ [event], divides.before, ?_, ?_, ?_⟩
  · have replaced : limits.merges final event = true := by rwa [merges_same limits same] at merges
    rw [surviving_snoc, last, Option.any_some, if_pos replaced, divides.survivors, ← List.append_assoc,
      List.dropLast_concat, List.append_assoc]
  · rw [List.map_append, List.map_append, before, List.map_singleton, List.map_singleton, mergedEvent_unmarked]
  · intro some_
    obtain ⟨none_, head, first, later⟩ := divides.lost some_
    refine ⟨none_, ?_⟩
    cases init with
    | nil =>
      obtain rfl : span = head := Option.some.inj first
      exact ⟨_, rfl, later⟩
    | cons oldest rest => exact ⟨head, first, later⟩

theorem Divides.replace (divides : Divides limits start taken (init ++ [span]) [] evicted held)
    (merged : Span EventRecord) (same : merged.item.unmarked = event.unmarked) :
    Divides limits start (taken ++ [event]) init [merged] [] [event] where
  before other inside := divides.before other (List.mem_append_left _ inside)
  survivors := by rw [divides.untaken]; rfl
  told := by rw [List.map_singleton, List.map_singleton, same]
  lost some_ := absurd rfl some_

theorem Divides.push (divides : Divides limits start taken old recent evicted held)
    (apart : ∀ init span, old ++ recent = init ++ [span] -> limits.merges span.item event = false)
    (new : Span EventRecord) (same : new.item = event) :
    Divides limits start (taken ++ [event]) old (recent ++ [new]) evicted (held ++ [event]) where
  before := divides.before
  survivors := by
    have stays : (taken.getLast?.any fun last => limits.merges last event) = false := by
      obtain rfl | ⟨init, span, rfl⟩ := List.eq_nil_or_concat' recent
      · rw [divides.untaken]
        rfl
      · obtain ⟨earlier, final, _, _, told, last⟩ := divides.last
        rw [last, Option.any_some, ← merges_same limits told]
        exact apart (old ++ init) span (List.append_assoc ..).symm
    rw [surviving_snoc, stays, if_neg Bool.false_ne_true, divides.survivors, List.append_assoc]
  told := by rw [List.map_append, List.map_append, divides.told, List.map_singleton, List.map_singleton, same]
  lost some_ := by
    obtain ⟨none_, head, first, later⟩ := divides.lost some_
    refine ⟨none_, head, ?_, later⟩
    rw [List.head?_append, first]
    rfl

theorem Divides.evict {oldest : Span EventRecord} {rest : List (Span EventRecord)}
    (divides : Divides limits start taken old recent evicted held) (first : old ++ recent = oldest :: rest)
    (some_ : rest ≠ []) (apart : ∀ other, other ∈ rest -> oldest.last < other.first)
    (ends : oldest.item.sequence = oldest.last) (numbered : ∀ event, event ∈ taken -> start < event.sequence) :
    ∃ old recent evicted held, old ++ recent = rest ∧ Divides limits start taken old recent evicted held := by
  cases old with
  | cons span others =>
    obtain ⟨rfl, rfl⟩ := List.cons_eq_cons.mp first
    refine ⟨others, recent, evicted, held, rfl, ?_⟩
    constructor
    case before => exact fun other inside => divides.before other (List.mem_cons_of_mem _ inside)
    case survivors => exact divides.survivors
    case told => exact divides.told
    case lost => exact fun gone => by cases (divides.lost gone).1
  | nil =>
    obtain rfl : recent = oldest :: rest := first
    cases held with
    | nil => cases divides.told
    | cons event others =>
      obtain ⟨same, told⟩ := List.cons_eq_cons.mp divides.told
      refine ⟨[], rest, evicted ++ [event], others, rfl, ?_⟩
      constructor
      case before => exact fun other inside => by cases inside
      case survivors => rw [divides.survivors, List.append_assoc]; rfl
      case told => exact told
      case lost =>
        -- the evicted record was the one of an event taken in since
        intro _
        have unmarked : oldest.item.unmarked = event.unmarked := same
        have number : event.unmarked.sequence = oldest.item.unmarked.sequence := by rw [unmarked]
        have inside : event ∈ taken := by
          apply surviving_subset limits
          rw [divides.survivors]
          exact List.mem_append_right _ List.mem_cons_self
        have later : start < oldest.last := by
          rw [← ends]
          exact Nat.lt_of_lt_of_eq (numbered event inside) number
        cases rest with
        | nil => exact absurd rfl some_
        | cons next rest =>
          have beyond : oldest.last < next.first := apart next List.mem_cons_self
          exact ⟨rfl, next, rfl, Nat.lt_of_le_of_lt (Nat.succ_le_of_lt later) beyond⟩

end Queue

section Runs

variable {start : EventSequence}

def Queued (start : EventSequence) (router : EventRouter) (taken : List EventRecord) : Prop :=
  NumberedFrom start router taken ∧ ∃ old recent evicted held,
    Represents router (old ++ recent) ∧ Divides router.limits start taken old recent evicted held

theorem Represents.queued {spans : List (Span EventRecord)} (represents : Represents router spans) :
    Queued router.sequence router [] := by
  refine ⟨numberedFrom_start router, spans, [], [], [], by rwa [List.append_nil], ?_⟩
  constructor
  case before => exact fun span inside => (represents.rising.bounds inside).2.2
  case survivors => rfl
  case told => rfl
  case lost => exact fun some_ => absurd rfl some_

theorem Queued.takes (queued : Queued start router taken) (takes : TakesIn router event)
    (calm : (router.ingest event).1.resyncRequired = false) :
    Queued start (router.ingest event).1 (taken ++ [event]) := by
  obtain ⟨numbered, old, recent, evicted, held, represents, divides⟩ := queued
  refine ⟨(numberedFrom_kept start).takes router taken event numbered takes calm, ?_⟩
  have limits := (ingest_origin router event).1
  rw [limits]
  obtain ⟨joined, ⟨init, span, ends, merges, rfl⟩ | ⟨apart, room, rfl⟩, kept⟩ := represents.ingest takes calm
  · obtain rfl | ⟨others, last, rfl⟩ := List.eq_nil_or_concat' recent
    · obtain rfl : old = init ++ [span] := by rwa [List.append_nil] at ends
      exact ⟨init, _, [], [event], kept, divides.replace _ (mergedEvent_unmarked span.item event)⟩
    · rw [← List.append_assoc] at ends
      obtain ⟨rfl, same⟩ := List.append_inj' ends rfl
      obtain rfl : last = span := List.singleton_inj.mp same
      obtain ⟨held, merged⟩ := divides.merge merges
      exact ⟨old, _, evicted, held, by rwa [← List.append_assoc], merged⟩
  · have size := represents.size
    have pushed := divides.push apart ⟨event.sequence, event.sequence, event⟩ rfl
    rw [List.append_assoc] at kept
    by_cases spare : (old ++ recent).length + 1 - router.limits.maxEvents = 0
    · rw [spare, List.drop_zero] at kept
      exact ⟨old, _, evicted, _, kept, pushed⟩
    -- the queue is full: the oldest record goes
    have full : (old ++ recent).length + 1 - router.limits.maxEvents = 1 := by omega
    rw [full] at kept
    have rising := represents.rising.push takes.above event
    have lasts : ∀ span, span ∈ old ++ recent -> span.item.sequence = span.last := represents.lasts
    rw [List.append_assoc] at rising
    have some_ : old ++ recent ≠ [] := by
      intro none_
      rw [none_] at spare
      exact spare (Nat.sub_eq_zero_of_le room)
    obtain ⟨oldest, rest, first⟩ := List.exists_cons_of_ne_nil some_
    have queue : old ++ (recent ++ [⟨event.sequence, event.sequence, event⟩]) =
        oldest :: (rest ++ [⟨event.sequence, event.sequence, event⟩]) := by
      rw [← List.append_assoc, first, List.cons_append]
    rw [queue] at kept rising
    obtain ⟨old, recent, evicted, held, same, evicts⟩ := pushed.evict queue (by simp)
      (List.pairwise_cons.mp rising.apart).1 (lasts oldest (first ▸ List.mem_cons_self))
      fun other inside => ((numberedFrom_kept start).takes router taken event numbered takes calm).2 other inside |>.1
    exact ⟨old, recent, evicted, held, by rw [same]; exact kept, evicts⟩

theorem queued_kept (start : EventSequence) : KeptByTaking (Queued start) where
  takes router taken event queued takes calm := queued.takes takes calm
  passes router taken sequence queued later := by
    obtain ⟨numbered, old, recent, evicted, held, represents, divides⟩ := queued
    exact ⟨(numberedFrom_kept start).passes router taken sequence numbered later, old, recent, evicted, held,
      represents.advance sequence later _ _, divides⟩

end Runs

section Replay

variable {after : EventCursor}

theorem Queued.replay (queued : Queued after.sequence router taken) (calm : router.resyncRequired = false)
    (epoch : after.brokerEpoch = router.brokerEpoch)
    (retained : ∀ first, router.retainedStarts.head? = some first -> first ≤ after.sequence + 1)
    (scope : Option EventScope) :
    (router.replay after scope).result = .accepted ∧
      (router.replay after scope).events.map (·.unmarked) =
        ((surviving router.limits taken).filter fun event => scope.all (scopeMatches event)).map (·.unmarked) := by
  obtain ⟨⟨reached, numbered⟩, old, recent, evicted, held, represents, divides⟩ := queued
  obtain ⟨_, lags⟩ | ⟨_, _, _, _, served⟩ := replay_cases router after scope
  · exfalso
    obtain noisy | other | ahead | ⟨first, next, opens, number, older⟩ := lags
    · rw [calm] at noisy
      cases noisy
    · exact other epoch
    · exact absurd reached (Nat.not_le_of_lt ahead)
    · obtain ⟨_, rfl⟩ := checkedNext_eq_some.mp number
      exact absurd (retained first opens) (Nat.not_le_of_lt older)
  have complete : evicted = [] := by
    by_contra gone
    obtain ⟨rfl, head, first, later⟩ := divides.lost gone
    have opens : router.retainedStarts.head? = some head.first := by
      rw [represents.starts, List.nil_append, List.head?_map, first]
      rfl
    exact absurd (retained _ opens) (Nat.not_le_of_lt later)
  have told := divides.told
  have survivors := divides.survivors
  rw [complete, List.nil_append] at survivors
  rw [served, survivors]
  refine ⟨rfl, ?_⟩
  have wanted (record : EventRecord) : (scope.all (scopeMatches record)) = scope.all (scopeMatches record.unmarked) := rfl
  have passed : (old.map (·.item)).filter
      (fun event => decide (after.sequence < event.sequence) && scope.all (scopeMatches event)) = [] := by
    apply List.filter_eq_nil_iff.mpr
    intro record inside
    obtain ⟨span, there, rfl⟩ := List.mem_map.mp inside
    have early : span.item.sequence ≤ after.sequence := by
      rw [represents.lasts span (List.mem_append_left _ there)]
      exact divides.before span there
    simp [Nat.not_lt_of_le early]
  have new : (recent.map (·.item)).filter
      (fun event => decide (after.sequence < event.sequence) && scope.all (scopeMatches event)) =
        (recent.map (·.item)).filter fun event => scope.all (scopeMatches event) := by
    apply List.filter_congr
    intro record inside
    obtain ⟨span, there, rfl⟩ := List.mem_map.mp inside
    have same : span.item.unmarked ∈ held.map (·.unmarked) := by
      rw [← told]
      exact List.mem_map_of_mem there
    obtain ⟨event, survives, marks⟩ := List.mem_map.mp same
    have late : after.sequence < event.unmarked.sequence :=
      (numbered event (surviving_subset _ _ (survivors ▸ survives))).1
    rw [marks] at late
    have later : after.sequence < span.item.sequence := late
    simp [later]
  rw [represents.records, List.map_append, List.filter_append, passed, new, List.nil_append]
  have asked : (fun record : EventRecord => scope.all (scopeMatches record)) =
      (fun record => scope.all (scopeMatches record)) ∘ EventRecord.unmarked := rfl
  rw [asked, ← List.filter_map, ← List.filter_map, List.map_map, ← told]
  rfl

end Replay

end AgentycHost
