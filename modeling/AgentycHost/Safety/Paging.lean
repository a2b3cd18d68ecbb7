import AgentycHost.Effects.Following
import AgentycHost.System.Routers
import AgentycHost.Safety.Replay

set_option autoImplicit false

/-! # Paging through the events -/

namespace AgentycHost

open Shared

variable {config : HostConfig} {label : Label} {after : RoutedHost} {commits : EventRecord -> Prop}
  {authority : AuthorityTicket} {scope : Option EventScope} {limit : Option Nat}

section Following

variable {before routed : RoutedHost} {source : List EventRecord} {low : EventSequence}
  {spans : List (Span EventRecord)} {more : EventRecord -> Prop}

theorem LedgerMove.recorded {calls : Table Nat Call} {command : Command} {first last : Ledger}
    (moved : LedgerMove config.ledger calls command first last) :
    Recorded config.ledger.limits first.state last.state ∨ last.state = first.state := by
  cases moved with
  | same => exact .inr rfl
  | committed taken => exact .inl taken.recorded
  | written => exact .inr rfl

theorem routedNext_ledger (taken : routedNext config label before = some after) (serves : label.2.isRestart = false) :
    (Recorded config.ledger.limits before.state after.state ∨ after.state = before.state) ∧
      after.router = syncEventRouter before.router after.state := by
  obtain moved | ⟨failures, _, restarts, _⟩ := next_ledger (routedNext_host taken)
  · refine ⟨moved.recorded, ?_⟩
    unfold routedNext at taken
    obtain ⟨host, _, rfl⟩ := Option.map_eq_some_iff.mp taken
    rw [serves]
    rfl
  · rw [restarts] at serves
    cases serves

theorem routedNext_serves (taken : routedNext config label before = some after) (serves : label.2.isRestart = false) :
    after.state.brokerEpoch = before.state.brokerEpoch ∧ before.state.eventSequence ≤ after.state.eventSequence := by
  obtain ⟨⟨whole, ⟨epoch, _, _, _, _, numbered⟩, drained⟩ | same, _⟩ := routedNext_ledger taken serves
  · rw [drained]
    refine ⟨epoch, ?_⟩
    change _ ≤ whole.eventSequence
    rw [numbered.length]
    exact Nat.le_add_right _ _
  · rw [same]
    exact ⟨rfl, Nat.le_refl _⟩

theorem routedNext_restarts (sound : Sound config.ledger before.host.ledger)
    (taken : routedNext config label before = some after) (restarts : label.2.isRestart = true) :
    after = .opened config after.host ∧ before.state.brokerEpoch < after.state.brokerEpoch ∧
      after.state.events = [] ∧ after.state.eventSequence = 0 := by
  unfold routedNext at taken
  obtain ⟨host, moved, rfl⟩ := Option.map_eq_some_iff.mp taken
  rw [if_pos restarts]
  obtain ⟨_, replied⟩ := next_step moved
  obtain ⟨environment, command⟩ := label
  cases command with
  | restart failures =>
    obtain ⟨state, opened, rfl⟩ := restart_cases replied
    exact ⟨rfl, sound.restarted opened, reopenLedger_events opened⟩
  | _ => cases restarts

theorem TracksLedger.stays (tracks : TracksLedger config before source low spans)
    (taken : routedNext config label before = some after) (serves : label.2.isRestart = false)
    (room : 0 < config.ledger.limits.maxEvents) (calm : after.router.resyncRequired = false) :
    StaysCalm config ⟨before, label, after⟩ := by
  have sameCursor := tracks.cursor
  simp only [EventRouter.cursor, RoutedHost.cursor, EventCursor.mk.injEq] at sameCursor
  obtain ⟨sameBroker, sameNumber⟩ := sameCursor
  have valid : Valid config.ledger before.state := tracks.sound.valid
  obtain ⟨moved, synced⟩ := routedNext_ledger taken serves
  obtain ⟨whole, ⟨epoch, kept, new, inside, events, numbered⟩, drained⟩ | same := moved
  · generalize cut : whole.events.length - config.ledger.limits.maxEvents = excess at *
    have state : after.state.events = kept.drop excess ++ new.drop (excess - kept.length) := by
      rw [drained]
      unfold drainEvents
      dsimp only
      rw [cut, events, List.drop_append]
    have number : after.state.eventSequence = whole.eventSequence := by
      rw [drained]
      rfl
    have broker : after.state.brokerEpoch = before.state.brokerEpoch := by
      rw [drained]
      exact epoch
    have length : whole.events.length = kept.length + new.length := by rw [events, List.length_append]
    have fits : excess - kept.length ≤ new.length := by omega
    have later := numbered.drop fits
    generalize missing : excess - kept.length = lost at *
    -- the router is offered the new events that were kept
    have unseen : after.state.events.filter (fun event => decide (before.router.sequence < event.sequence)) =
        new.drop lost := by
      have old : (kept.drop excess).filter (fun event => decide (before.router.sequence < event.sequence)) = [] :=
        List.filter_eq_nil_iff.mpr fun event member => by
          simpa [sameNumber] using valid.event_bounded (inside (List.mem_of_mem_drop member))
      have all : (new.drop lost).filter (fun event => decide (before.router.sequence < event.sequence)) =
          new.drop lost :=
        List.filter_eq_self.mpr fun event member => by
          simpa [sameNumber] using (numbered.between (List.mem_of_mem_drop member)).1
      rw [state, List.filter_append, old, all, List.nil_append]
    rw [synced] at calm
    unfold syncEventRouter at calm
    rw [if_neg (by rw [sameBroker, broker]; simp), unseen] at calm
    obtain ⟨⟨high, took⟩, quiet⟩ := tracks.retains.takes_all
      (fun event member => sameBroker ▸ later.stamped member) later.rising
      (fun event member => by
        rw [sameNumber]
        exact (numbered.between (List.mem_of_mem_drop member)).1) calm
    rw [sameBroker, sameNumber] at took
    have nothing_lost : new.length ≤ config.ledger.limits.maxEvents := by
      by_cases none : new.drop lost = []
      next =>
        -- a drain leaves the last of the new events, if there are any
        rw [List.drop_eq_nil_iff] at none
        omega
      next =>
        have whole_kept : lost = 0 := Nat.left_eq_add.mp (took.start later none)
        omega
    constructor
    case bounded =>
      have count := numbered.length
      change after.state.eventSequence ≤ _
      rw [number, count]
      exact Nat.add_le_add_left nothing_lost _
    case calm =>
      intro event committed
      apply quiet event
      rw [← unseen, List.mem_filter, decide_eq_true_eq, sameNumber]
      exact ⟨committed.recorded, committed.new⟩
  · constructor
    case bounded =>
      change after.state.eventSequence ≤ before.state.eventSequence + _
      rw [same]
      exact Nat.le_add_right _ _
    case calm =>
      rintro event ⟨recorded, new⟩
      change event ∈ after.state.events at recorded
      rw [same] at recorded
      exact absurd (valid.event_bounded recorded) (Nat.not_le_of_lt new)

theorem syncEventRouter_empty {router : EventRouter} {state : LedgerState} (bare : router.events = [])
    (none : state.events = []) : (syncEventRouter router state).events = [] := by
  unfold syncEventRouter
  rw [none]
  split_ifs <;> exact bare

structure Followed (config : HostConfig) (commits : EventRecord -> Prop) (routed : RoutedHost) : Prop where
  sound : Sound config.ledger routed.host.ledger
  epochs : ∀ event, commits event -> event.brokerEpoch ≤ routed.state.brokerEpoch
  numbers : ∀ event, commits event -> event.brokerEpoch = routed.state.brokerEpoch ->
    event.sequence ≤ routed.state.eventSequence
  bare : config.ledger.limits.maxEvents = 0 -> routed.router.events = []
  tracks : 0 < config.ledger.limits.maxEvents -> routed.router.resyncRequired = false ->
    ∃ source low spans, TracksLedger config routed source low spans ∧
      (∀ event, event ∈ source <-> commits event ∧ event.brokerEpoch = routed.state.brokerEpoch) ∧
      ∀ event, event ∈ source -> event.resyncRequired = false

theorem opened_followed {host : System} (sound : Sound config.ledger host.ledger)
    (fresh : host.ledger.state.events = [] ∧ host.ledger.state.eventSequence = 0)
    (earlier : ∀ event, commits event -> event.brokerEpoch < host.ledger.state.brokerEpoch) :
    Followed config commits (.opened config host) where
  sound := sound
  epochs event committed := Nat.le_of_lt (earlier event committed)
  numbers event committed same := absurd same (Nat.ne_of_lt (earlier event committed))
  bare _ := by
    unfold RoutedHost.opened eventRouterFromLedger
    rw [fresh.1]
    rfl
  tracks _ _ := by
    refine ⟨[], 0, [], opened_tracks sound fresh, fun event => ⟨fun inside => (List.not_mem_nil inside).elim, ?_⟩,
      fun _ inside => (List.not_mem_nil inside).elim⟩
    rintro ⟨committed, same⟩
    exact absurd same (Nat.ne_of_lt (earlier event committed))

theorem Followed.restart (followed : Followed config commits before)
    (taken : routedNext config label before = some after) (restarts : label.2.isRestart = true) :
    Followed config (fun event => commits event ∨ CommitsEvent ⟨before, label, after⟩ event) after := by
  have sound := followed.sound.step (routedNext_host taken)
  obtain ⟨opened, raised, fresh⟩ := routedNext_restarts followed.sound taken restarts
  rw [opened]
  refine opened_followed sound fresh fun event committed => ?_
  obtain committed | ⟨recorded, _⟩ := committed
  · exact Nat.lt_of_le_of_lt (followed.epochs event committed) raised
  · rw [← opened] at recorded
    change event ∈ after.state.events at recorded
    rw [fresh.1] at recorded
    cases recorded

theorem Followed.serve (followed : Followed config commits before)
    (taken : routedNext config label before = some after) (serves : label.2.isRestart = false) :
    Followed config (fun event => commits event ∨ CommitsEvent ⟨before, label, after⟩ event) after := by
  have sound := followed.sound.step (routedNext_host taken)
  have valid : Valid config.ledger after.state := sound.valid
  obtain ⟨_, synced⟩ := routedNext_ledger taken serves
  obtain ⟨broker, onward⟩ := routedNext_serves taken serves
  constructor
  case sound => exact sound
  case epochs =>
    intro event committed
    obtain committed | ⟨recorded, _⟩ := committed
    · rw [broker]
      exact followed.epochs event committed
    · exact Nat.le_of_eq (valid.event_epoch recorded)
  case numbers =>
    intro event committed same
    obtain committed | ⟨recorded, _⟩ := committed
    · exact Nat.le_trans (followed.numbers event committed (same.trans broker)) onward
    · exact valid.event_bounded recorded
  case bare =>
    intro room
    rw [synced]
    apply syncEventRouter_empty (followed.bare room)
    have length := valid.events_length
    rw [room] at length
    exact List.eq_nil_of_length_eq_zero (Nat.le_zero.mp length)
  case tracks =>
    intro room calm
    have calm_before : before.router.resyncRequired = false := by
      by_contra noisy
      rw [Bool.not_eq_false] at noisy
      rw [synced] at calm
      unfold syncEventRouter at calm
      split_ifs at calm
      · cases calm
      · rw [foldl_noisy noisy] at calm
        cases calm
    obtain ⟨source, low, spans, tracked, members, quiet⟩ := followed.tracks room calm_before
    have stays := tracked.stays taken serves room calm
    obtain ⟨new, low, spans, tracks, numbered, _, inside⟩ := tracked.step taken serves stays
    refine ⟨source ++ new, low, spans, tracks, fun event => ?_, fun event member => ?_⟩
    · rw [List.mem_append, members, broker]
      constructor
      · rintro (⟨committed, same⟩ | member)
        · exact ⟨.inl committed, same⟩
        · have committed := (inside event).mpr member
          exact ⟨.inr committed, (valid.event_epoch committed.recorded).trans broker⟩
      · rintro ⟨committed | committed, same⟩
        · exact .inl ⟨committed, same⟩
        · exact .inr ((inside event).mp committed)
    · obtain member | member := List.mem_append.mp member
      · exact quiet event member
      · exact stays.calm event ((inside event).mpr member)

end Following

section Reads

variable {reader : Reader} {answer : EventAnswer}

/-- The records that the client has not read: those of the batch, before it is cut. -/
def Reader.pending (authority : AuthorityTicket) (scope : Option EventScope) (reader : Reader) : List EventRecord :=
  (reader.routed.router.events.filter fun event =>
    decide (reader.cursor.sequence < event.sequence) && scope.all (scopeMatches event)).filter
      (visibleEvent reader.routed.state authority)

/-- The event is of a kind that the client reads here. -/
def Reader.shows (authority : AuthorityTicket) (scope : Option EventScope) (reader : Reader) (event : EventRecord) : Bool :=
  visibleEvent reader.routed.state authority event && scope.all (scopeMatches event)

structure ServedRead (authority : AuthorityTicket) (scope : Option EventScope) (limit : Option Nat) (reader : Reader)
    (answer : EventAnswer) : Prop where
  cursor : answer.cursor = reader.routed.cursor
  events : answer.events = (reader.pending authority scope).take (parseLimit limit)
  brokerEpoch : reader.cursor.brokerEpoch = reader.routed.state.brokerEpoch
  behind : reader.cursor.sequence ≤ reader.routed.state.eventSequence
  recorded : historyLagged reader.routed.state reader.cursor.sequence = false
  calm : reader.routed.router.resyncRequired = false
  reached : ∀ start next, reader.routed.router.retainedStarts.head? = some start ->
    checkedNext reader.cursor.sequence = some next -> start ≤ next

theorem Reader.answer_served (answered : reader.answer authority scope limit = .ok answer)
    (accepted : answer.resume = .accepted) : ServedRead authority scope limit reader answer := by
  unfold Reader.answer readEvents at answered
  simp only [bind_ok, pure_ok, resumeEvents, Option.getD_some] at answered
  obtain ⟨_, _, batch, ⟨_, _, made⟩, rfl⟩ := answered
  split_ifs at made with lags
  · -- the broker asks for a resync by itself
    rw [← pure_ok.mp made] at accepted
    cases accepted
  · rw [← pure_ok.mp made] at accepted ⊢
    simp only [Bool.or_eq_true, not_or, bne_iff_ne, ne_eq, not_not, decide_eq_true_eq, Nat.not_lt,
      Bool.not_eq_true] at lags
    obtain ⟨⟨epoch, behind⟩, recorded⟩ := lags
    obtain ⟨refused, _⟩ | ⟨calm, _, _, reached, replayed⟩ :=
      replay_cases reader.routed.router ⟨reader.cursor.brokerEpoch, reader.cursor.sequence⟩ scope
    · dsimp only at accepted
      rw [refused] at accepted
      cases accepted
    · refine ⟨rfl, ?_, epoch, behind, recorded, calm, reached⟩
      dsimp only
      rw [replayed]
      rfl

theorem Reader.pending_sublist : (reader.pending authority scope).Sublist reader.routed.router.events :=
  List.filter_sublist.trans List.filter_sublist

theorem Reader.mem_pending {record : EventRecord} : record ∈ reader.pending authority scope <->
    record ∈ reader.routed.router.events ∧ reader.cursor.sequence < record.sequence ∧
      reader.shows authority scope record = true := by
  unfold Reader.pending Reader.shows
  simp only [List.mem_filter, Bool.and_eq_true, decide_eq_true_eq]
  tauto

theorem Retains.low_le {router : EventRouter} {source : List EventRecord} {low : EventSequence}
    {spans : List (Span EventRecord)} {after : EventCursor} (retains : Retains router source low spans)
    (reached : ∀ start next, router.retainedStarts.head? = some start ->
      checkedNext after.sequence = some next -> start ≤ next) : low ≤ after.sequence := by
  cases spans with
  | nil =>
    obtain origin | packed := retains.full
    · exact origin ▸ Nat.zero_le _
    · exact absurd packed (Nat.ne_of_lt retains.room)
  | cons span rest =>
    have first : span.first = low + 1 := retains.tiles.1
    have head : router.retainedStarts.head? = some span.first := by
      rw [retains.starts]
      rfl
    by_cases room : after.sequence < u64Max
    next =>
      have start := reached _ _ head (checkedNext_eq_some.mpr ⟨room, rfl⟩)
      rw [first] at start
      exact Nat.le_of_succ_le_succ start
    next =>
      -- no number is larger than the cursor's
      have bounded := retains.numbered.bounded (Nat.zero_le _)
      have within : low ≤ router.sequence := Nat.le_trans (Nat.le_add_right _ _) retains.tiles.length_le
      exact Nat.le_trans within (Nat.le_trans bounded (Nat.le_of_not_lt room))

structure Page (authority : AuthorityTicket) (scope : Option EventScope) (commits : EventRecord -> Prop)
    (reader : Reader) : Prop where
  rising : (reader.pending authority scope).Pairwise fun one other => one.sequence < other.sequence
  reached : ∀ record, record ∈ reader.pending authority scope ->
    record.sequence ≤ reader.routed.state.eventSequence
  numbered : ∀ number, reader.cursor.sequence < number -> number ≤ reader.routed.state.eventSequence ->
    ∃ event, commits event ∧ event.brokerEpoch = reader.routed.state.brokerEpoch ∧ event.sequence = number
  delivered : ∀ event, commits event -> event.brokerEpoch = reader.routed.state.brokerEpoch ->
    reader.cursor.sequence < event.sequence -> reader.shows authority scope event = true ->
    ∃ record, record ∈ reader.pending authority scope ∧ Delivers record event

theorem Followed.page (followed : Followed config commits reader.routed)
    (served : ServedRead authority scope limit reader answer) : Page authority scope commits reader := by
  by_cases room : 0 < config.ledger.limits.maxEvents
  · obtain ⟨source, low, spans, tracks, members, quiet⟩ := followed.tracks room served.calm
    have retains := tracks.retains
    have cursor := tracks.cursor
    simp only [EventRouter.cursor, RoutedHost.cursor, EventCursor.mk.injEq] at cursor
    obtain ⟨broker, number⟩ := cursor
    have back : low ≤ reader.cursor.sequence := retains.low_le served.reached
    constructor
    case rising => exact retains.rising.sublist Reader.pending_sublist
    case reached =>
      intro record inside
      rw [← number]
      exact retains.record_le (Reader.mem_pending.mp inside).1
    case numbered =>
      intro number' above below
      have all : Successive reader.routed.router.brokerEpoch 0 source reader.routed.state.eventSequence :=
        number ▸ retains.numbered
      obtain ⟨event, inside, same⟩ := all.at_number (Nat.lt_of_le_of_lt (Nat.zero_le _) above) below
      obtain ⟨committed, epoch⟩ := (members event).mp inside
      exact ⟨event, committed, epoch, same⟩
    case delivered =>
      intro event committed epoch later shown
      have inside := (members event).mpr ⟨committed, epoch⟩
      obtain ⟨span, held, delivers⟩ := retains.delivered event inside (Nat.lt_of_le_of_lt back later)
      refine ⟨span.item, Reader.mem_pending.mpr ⟨?_, Nat.lt_of_lt_of_le later delivers.reached, ?_⟩, delivers⟩
      · rw [retains.records]
        exact List.mem_map_of_mem held
      · -- the record is shown to whoever is shown the event
        have same := (retains.quiet span held).trans (quiet event inside).symm
        have shows : scopeMatches span.item = scopeMatches event := funext (delivers.shown same)
        unfold Reader.shows visibleEvent at shown ⊢
        rwa [delivers.scope, shows]
  · -- a broker that keeps no event serves a client that has read them all
    have none : config.ledger.limits.maxEvents = 0 := Nat.eq_zero_of_not_pos room
    have valid : Valid config.ledger reader.routed.state := followed.sound.valid
    have empty : reader.routed.state.events = [] := by
      have length := valid.events_length
      rw [none] at length
      exact List.eq_nil_of_length_eq_zero (Nat.le_zero.mp length)
    have nothing : reader.pending authority scope = [] := by
      unfold Reader.pending
      rw [followed.bare none]
      rfl
    have all_read : reader.routed.state.eventSequence ≤ reader.cursor.sequence := by
      have recorded := served.recorded
      unfold historyLagged at recorded
      rw [empty] at recorded
      exact Nat.le_of_not_lt (of_decide_eq_false recorded)
    constructor
    case rising => exact nothing ▸ .nil
    case reached =>
      intro record inside
      rw [nothing] at inside
      cases inside
    case numbered =>
      intro number above below
      exact absurd (Nat.lt_of_lt_of_le above below) (Nat.not_lt_of_le all_read)
    case delivered =>
      intro event committed epoch later
      have bounded := followed.numbers event committed epoch
      exact absurd (Nat.lt_of_lt_of_le later bounded) (Nat.not_lt_of_le all_read)

end Reads

section Runs

variable {start : System} {cursor : EventCursor} {trace : List ReaderMoment} {last : Reader} {event : EventRecord}
  {moment : ReaderMoment} {before : Reader}

/-- A step of the run commits the event. -/
def Commits (trace : List ReaderMoment) (event : EventRecord) : Prop :=
  ∃ moment label, moment ∈ trace ∧ moment.label = .host label ∧
    CommitsEvent ⟨moment.before.routed, label, moment.after.routed⟩ event

/-- The read brings the client's cursor past the event. -/
def PassesEvent (read : ReaderMoment) (event : EventRecord) : Prop :=
  read.before.cursor.sequence < event.sequence ∧ event.sequence ≤ read.after.cursor.sequence

/-- The client has every event after its first cursor that it was shown, in order and each once. -/
structure PagesWhole (authority : AuthorityTicket) (scope : Option EventScope) (start : EventCursor)
    (trace : List ReaderMoment) (last : Reader) : Prop where
  ordered : last.received.Pairwise fun one other => one.sequence < other.sequence
  numbered : ∀ number, start.sequence < number -> number ≤ last.cursor.sequence ->
    ∃ event, Commits trace event ∧ event.brokerEpoch = start.brokerEpoch ∧ event.sequence = number
  whole : ∀ event, Commits trace event -> event.brokerEpoch = start.brokerEpoch ->
    start.sequence < event.sequence -> event.sequence ≤ last.cursor.sequence ->
    ∃ read, read ∈ trace ∧ PassesEvent read event ∧
      (read.before.shows authority scope event = true -> ∃ record, record ∈ last.received ∧ Delivers record event)

/-- A read whose limit covers everything that the client has not read. -/
def FitsLimit (authority : AuthorityTicket) (scope : Option EventScope) (moment : ReaderMoment) : Prop :=
  ∀ limit, moment.label = .read limit -> (moment.before.pending authority scope).length ≤ parseLimit limit

def Given (cursor : EventCursor) (reader : Reader) : Prop :=
  reader.cursor = cursor ∨ (reader.cursor.brokerEpoch ≤ reader.routed.state.brokerEpoch ∧
    (reader.cursor.brokerEpoch = reader.routed.state.brokerEpoch ->
      reader.cursor.sequence ≤ reader.routed.state.eventSequence))

structure Paged (config : HostConfig) (authority : AuthorityTicket) (scope : Option EventScope) (cursor : EventCursor)
    (trace : List ReaderMoment) (reader : Reader) : Prop extends PagesWhole authority scope cursor trace reader where
  followed : Followed config (Commits trace) reader.routed
  given : Given cursor reader
  brokerEpoch : reader.cursor.brokerEpoch = cursor.brokerEpoch
  reached : ∀ record, record ∈ reader.received -> record.sequence ≤ reader.cursor.sequence

theorem commits_cons (host : moment.label = .host label) :
    Commits (moment :: trace) event <->
      Commits trace event ∨ CommitsEvent ⟨moment.before.routed, label, moment.after.routed⟩ event := by
  constructor
  · rintro ⟨other, label', inside, same, committed⟩
    obtain rfl | inside := List.mem_cons.mp inside
    · obtain rfl : label' = label := ReaderLabel.host.inj (same.symm.trans host)
      exact .inr committed
    · exact .inl ⟨other, label', inside, same, committed⟩
  · rintro (⟨other, label', inside, same, committed⟩ | committed)
    · exact ⟨other, label', List.mem_cons_of_mem _ inside, same, committed⟩
    · exact ⟨moment, label, List.mem_cons_self, host, committed⟩

theorem commits_cons_read (read : moment.label = .read limit) :
    Commits (moment :: trace) event <-> Commits trace event := by
  constructor
  · rintro ⟨other, label, inside, same, committed⟩
    obtain rfl | inside := List.mem_cons.mp inside
    · rw [read] at same
      cases same
    · exact ⟨other, label, inside, same, committed⟩
  · rintro ⟨other, label, inside, same, committed⟩
    exact ⟨other, label, List.mem_cons_of_mem _ inside, same, committed⟩

theorem opened_paged (initial : Initial config start) :
    Paged config authority scope cursor [] ⟨.opened config start, cursor, []⟩ where
  ordered := .nil
  numbered number above below := absurd above (Nat.not_lt_of_le below)
  whole event committed := by
    obtain ⟨_, _, inside, _⟩ := committed
    cases inside
  followed := by
    refine opened_followed initial.sound ?_ fun event committed => ?_
    · obtain ⟨rfl, _⟩ := initial
      exact ⟨rfl, rfl⟩
    · obtain ⟨_, _, inside, _⟩ := committed
      cases inside
  given := .inl rfl
  brokerEpoch := rfl
  reached _ inside := by cases inside

theorem CommitsEvent.brokerEpoch {before : RoutedHost} (sound : Sound config.ledger before.host.ledger)
    (taken : routedNext config label before = some after) (committed : CommitsEvent ⟨before, label, after⟩ event) :
    event.brokerEpoch = before.state.brokerEpoch := by
  have valid : Valid config.ledger after.state := (sound.step (routedNext_host taken)).valid
  obtain ⟨recorded, _⟩ := committed
  cases restarts : label.2.isRestart with
  | false => exact (valid.event_epoch recorded).trans (routedNext_serves taken restarts).1
  | true =>
    obtain ⟨_, _, empty, _⟩ := routedNext_restarts sound taken restarts
    change event ∈ after.state.events at recorded
    rw [empty] at recorded
    cases recorded

theorem Given.host (given : Given cursor before) (sound : Sound config.ledger before.routed.host.ledger)
    (taken : routedNext config label before.routed = some after) : Given cursor { before with routed := after } := by
  obtain first | ⟨epoch, behind⟩ := given
  · exact .inl first
  · right
    cases restarts : label.2.isRestart with
    | false =>
      obtain ⟨broker, onward⟩ := routedNext_serves taken restarts
      dsimp only
      rw [broker]
      exact ⟨epoch, fun same => Nat.le_trans (behind same) onward⟩
    | true =>
      obtain ⟨_, raised, _, _⟩ := routedNext_restarts sound taken restarts
      have above := Nat.lt_of_le_of_lt epoch raised
      exact ⟨Nat.le_of_lt above, fun same => absurd same (Nat.ne_of_lt above)⟩

theorem Paged.host (paged : Paged config authority scope cursor trace before)
    (taken : routedNext config label before.routed = some after) :
    Paged config authority scope cursor (⟨before, .host label, { before with routed := after }⟩ :: trace)
      { before with routed := after } := by
  have sound := paged.followed.sound
  have members : ∀ event, Commits (⟨before, .host label, { before with routed := after }⟩ :: trace) event <->
      Commits trace event ∨ CommitsEvent ⟨before.routed, label, after⟩ event := fun event => commits_cons rfl
  have grown : (fun event => Commits trace event ∨ CommitsEvent ⟨before.routed, label, after⟩ event) =
      Commits (⟨before, .host label, { before with routed := after }⟩ :: trace) :=
    funext fun event => propext (members event).symm
  constructor
  case followed =>
    rw [← grown]
    cases restarts : label.2.isRestart with
    | false => exact paged.followed.serve taken restarts
    | true => exact paged.followed.restart taken restarts
  case given => exact paged.given.host sound taken
  case brokerEpoch => exact paged.brokerEpoch
  case reached => exact paged.reached
  case toPagesWhole =>
    constructor
    case ordered => exact paged.ordered
    case numbered =>
      intro number above below
      obtain ⟨event, committed, same⟩ := paged.numbered number above below
      exact ⟨event, (members event).mpr (.inl committed), same⟩
    case whole =>
      intro event committed epoch above below
      obtain committed | committed := (members event).mp committed
      · obtain ⟨read, inside, passes, shown⟩ := paged.whole event committed epoch above below
        exact ⟨read, List.mem_cons_of_mem _ inside, passes, shown⟩
      · exfalso
        obtain first | ⟨_, behind⟩ := paged.given
        · rw [first] at below
          exact Nat.not_le_of_lt above below
        · have broker := committed.brokerEpoch sound taken
          have number := behind (paged.brokerEpoch.trans (epoch.symm.trans broker))
          exact Nat.not_le_of_lt committed.new (Nat.le_trans below number)

theorem Paged.refused {reader : Reader} (paged : Paged config authority scope cursor trace reader) :
    Paged config authority scope cursor (⟨reader, .read limit, reader⟩ :: trace) reader := by
  have members : ∀ event, Commits (⟨reader, .read limit, reader⟩ :: trace) event <-> Commits trace event :=
    fun event => commits_cons_read rfl
  have same : Commits (⟨reader, .read limit, reader⟩ :: trace) = Commits trace :=
    funext fun event => propext (members event)
  refine ⟨⟨paged.ordered, ?_, ?_⟩, same ▸ paged.followed, paged.given, paged.brokerEpoch, paged.reached⟩
  · rw [same]
    exact paged.numbered
  · intro event committed epoch above below
    rw [same] at committed
    obtain ⟨read, inside, passes, shown⟩ := paged.whole event committed epoch above below
    exact ⟨read, List.mem_cons_of_mem _ inside, passes, shown⟩

theorem Paged.read {answer : EventAnswer} (paged : Paged config authority scope cursor trace before)
    (answered : before.answer authority scope limit = .ok answer) (accepted : answer.resume = .accepted)
    (fits : (before.pending authority scope).length ≤ parseLimit limit) :
    Paged config authority scope cursor
      (⟨before, .read limit, { before with cursor := answer.cursor, received := before.received ++ answer.events }⟩ :: trace)
      { before with cursor := answer.cursor, received := before.received ++ answer.events } := by
  have served := Reader.answer_served answered accepted
  have page := paged.followed.page served
  have whole_page : answer.events = before.pending authority scope := by
    rw [served.events, List.take_of_length_le fits]
  have next : answer.cursor.sequence = before.routed.state.eventSequence := by
    rw [served.cursor]
    rfl
  generalize read_is : (⟨before, .read limit, { before with
    cursor := answer.cursor, received := before.received ++ answer.events }⟩ : ReaderMoment) = read
  have is_read : read.label = .read limit := by
    rw [← read_is]
  have members : ∀ event, Commits (read :: trace) event <-> Commits trace event :=
    fun event => commits_cons_read is_read
  have same : Commits (read :: trace) = Commits trace := funext fun event => propext (members event)
  constructor
  case followed =>
    rw [same]
    exact paged.followed
  case given =>
    right
    dsimp only
    rw [served.cursor]
    exact ⟨Nat.le_refl _, fun _ => Nat.le_refl _⟩
  case brokerEpoch =>
    dsimp only
    rw [served.cursor]
    exact served.brokerEpoch.symm.trans paged.brokerEpoch
  case reached =>
    intro record inside
    dsimp only at inside ⊢
    rw [next]
    obtain early | new := List.mem_append.mp inside
    · exact Nat.le_trans (paged.reached record early) served.behind
    · rw [whole_page] at new
      exact page.reached record new
  case toPagesWhole =>
    constructor
    case ordered =>
      dsimp only
      rw [whole_page]
      refine List.pairwise_append.mpr ⟨paged.ordered, page.rising, fun early received late inside => ?_⟩
      exact Nat.lt_of_le_of_lt (paged.reached early received) (Reader.mem_pending.mp inside).2.1
    case numbered =>
      intro number above below
      rw [same]
      by_cases early : number ≤ before.cursor.sequence
      · exact paged.numbered number above early
      · obtain ⟨event, committed, epoch, numbered⟩ := page.numbered number (Nat.lt_of_not_le early) (next ▸ below)
        exact ⟨event, committed, epoch.trans (served.brokerEpoch.symm.trans paged.brokerEpoch), numbered⟩
    case whole =>
      intro event committed epoch above below
      rw [members] at committed
      by_cases early : event.sequence ≤ before.cursor.sequence
      · obtain ⟨old, inside, passes, shown⟩ := paged.whole event committed epoch above early
        refine ⟨old, List.mem_cons_of_mem _ inside, passes, fun visible => ?_⟩
        obtain ⟨record, received, delivers⟩ := shown visible
        exact ⟨record, List.mem_append_left _ received, delivers⟩
      · have later := Nat.lt_of_not_le early
        have broker := epoch.trans (paged.brokerEpoch.symm.trans served.brokerEpoch)
        refine ⟨read, List.mem_cons_self, ?_, fun visible => ?_⟩
        · rw [← read_is]
          exact ⟨later, below⟩
        · rw [← read_is] at visible
          obtain ⟨record, inside, delivers⟩ := page.delivered event committed broker later visible
          refine ⟨record, List.mem_append_right _ ?_, delivers⟩
          rwa [whole_page]

/-- A client whose limits cover what it has not read is given every event that it may see, in order and once. -/
theorem reads_miss_nothing (initial : Initial config start)
    (run : ReaderRun config authority scope ⟨.opened config start, cursor, []⟩ trace last)
    (fits : ∀ moment, moment ∈ trace -> FitsLimit authority scope moment) :
    PagesWhole authority scope cursor trace last := by
  suffices paged : Paged config authority scope cursor trace last from paged.toPagesWhole
  induction run with
  | nil => exact opened_paged initial
  | @step trace before after label earlier taken ih =>
    have paged := ih fun moment inside => fits moment (List.mem_cons_of_mem _ inside)
    cases label with
    | host label =>
      obtain ⟨routed, moved, rfl⟩ := Option.map_eq_some_iff.mp taken
      exact paged.host moved
    | read limit =>
      have covers := fits _ List.mem_cons_self limit rfl
      unfold readerNext at taken
      dsimp only at taken
      split at taken
      next =>
        -- a refused read leaves the client where it was
        obtain rfl := Option.some.inj taken
        exact paged.refused
      next answer answered =>
        split_ifs at taken with accepted
        obtain rfl := Option.some.inj taken
        exact paged.read answered accepted covers

end Runs

section Samples

def ReaderMoment.fits (moment : ReaderMoment) : Bool :=
  match moment.label with
  | .host _ => true
  | .read limit => decide ((moment.before.pending sampleTicket none).length ≤ parseLimit limit)

def sampleReader : Reader where
  routed := .opened sampleConfig (.fresh sampleConfig)
  cursor := { brokerEpoch := 1, sequence := 0 }
  received := []

def readsOnce (limit : Option Nat) : List ReaderLabel := sampleStart.map .host ++ [.read limit]

def sampleReads (limit : Option Nat) : List ReaderMoment :=
  visits (readerNext sampleConfig sampleTicket none) (readsOnce limit) sampleReader

def missesEvent (trace : List ReaderMoment) (last : Reader) (event : EventRecord) : Bool :=
  trace.all (fun moment => !(decide (moment.before.cursor.sequence < event.sequence) &&
      decide (event.sequence ≤ moment.after.cursor.sequence)) || moment.before.shows sampleTicket none event) &&
    last.received.all fun record => decide (record.sequence < event.sequence)

def ReaderLabel.isHost : ReaderLabel -> Bool
  | .host _ => true
  | .read _ => false

def missesSome (trace : List ReaderMoment) (last : Reader) : Bool :=
  trace.any fun moment => moment.label.isHost &&
    moment.after.routed.state.events.any fun event =>
      decide (moment.before.routed.state.eventSequence < event.sequence) && decide (event.brokerEpoch = 1) &&
      decide (0 < event.sequence) && decide (event.sequence ≤ last.cursor.sequence) && missesEvent trace last event

/-- A limit of two records and more covers what such a client has not read. -/
theorem reads_miss_nothing_sample : ∃ last, last.received ≠ [] ∧
    PagesWhole sampleTicket none { brokerEpoch := 1, sequence := 0 } (sampleReads (some 8)).reverse last := by
  obtain ⟨last, run, received⟩ := advance_reaches (readerNext sampleConfig sampleTicket none) sampleReader
    (readsOnce (some 8)) (fun last => !last.received.isEmpty) (by decide)
  have fits : (sampleReads (some 8)).all ReaderMoment.fits = true := by decide
  rw [Bool.not_eq_true', List.isEmpty_eq_false_iff] at received
  refine ⟨last, received, reads_miss_nothing sample_initial run fun moment inside limit read => ?_⟩
  have checked := List.all_eq_true.mp fits moment (List.mem_reverse.mp inside)
  unfold ReaderMoment.fits at checked
  rw [read] at checked
  exact of_decide_eq_true checked

def ReaderLabel.positive : ReaderLabel -> Bool
  | .host _ => true
  | .read limit => limit.all fun limit => decide (0 < limit)

theorem cut_page_is_lost :
    ¬ ∀ start cursor trace last authority scope, Initial sampleConfig start ->
      ReaderRun sampleConfig authority scope ⟨.opened sampleConfig start, cursor, []⟩ trace last ->
      (∀ moment limit, moment ∈ trace -> moment.label = .read (some limit) -> 0 < limit) ->
      PagesWhole authority scope cursor trace last := by
  intro claim
  obtain ⟨last, run, passed⟩ := advance_reaches (readerNext sampleConfig sampleTicket none) sampleReader (readsOnce (some 1))
    (fun last => missesSome (sampleReads (some 1)) last) (by decide)
  have positive : (sampleReads (some 1)).all (fun moment => moment.label.positive) = true := by decide
  have positives : ∀ moment limit, moment ∈ (sampleReads (some 1)).reverse -> moment.label = .read (some limit) ->
      0 < limit := by
    intro moment limit inside read
    have checked := List.all_eq_true.mp positive moment (List.mem_reverse.mp inside)
    rw [read] at checked
    exact of_decide_eq_true checked
  have whole := claim _ _ _ _ _ _ sample_initial run positives
  unfold missesSome missesEvent at passed
  simp only [List.any_eq_true, List.all_eq_true, Bool.and_eq_true, decide_eq_true_eq] at passed
  obtain ⟨moment, inside, host, event, recorded, ⟨⟨⟨new, epoch⟩, above⟩, below⟩, passes, none⟩ := passed
  obtain ⟨label, is_host⟩ : ∃ label, moment.label = .host label := by
    cases is : moment.label with
    | host label => exact ⟨label, rfl⟩
    | read limit =>
      rw [is] at host
      cases host
  have committed : Commits (sampleReads (some 1)).reverse event :=
    ⟨moment, label, List.mem_reverse.mpr inside, is_host, recorded, new⟩
  obtain ⟨read, there, ⟨before, after⟩, shown⟩ := whole.whole event committed epoch above below
  have visible := passes read (List.mem_reverse.mp there)
  rw [Bool.or_eq_true, Bool.not_eq_true', Bool.and_eq_false_iff, decide_eq_false_iff_not, decide_eq_false_iff_not] at visible
  obtain (early | late) | visible := visible
  · exact early before
  · exact late after
  · obtain ⟨record, received, delivers⟩ := shown visible
    exact Nat.not_le_of_lt (none record received) delivers.reached

end Samples

end AgentycHost
