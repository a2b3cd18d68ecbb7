import AgentycHost.Effects.Reopening
import AgentycHost.Effects.Routing
import AgentycHost.System.Dispatch
import AgentycHost.System.Routers

set_option autoImplicit false

/-! # Replay after a resync -/

namespace AgentycHost

open Shared

/-- The trace of a broker that has just come up: it is empty, or its last step was a restart. -/
def OpensBroker (trace : List (Moment RoutedHost Label)) : Prop :=
  ∀ moment, trace.head? = some moment -> moment.label.2.isRestart = true

/-- A client that resumes here from a cursor is given the events of these steps that it may see. -/
def Replays (routed : RoutedHost) (authority : AuthorityTicket) (query : EventQuery)
    (later : List (Moment RoutedHost Label)) : Prop :=
  ∃ batch, resumeEvents routed.router authority query routed.state = .ok batch ∧ batch.result = .accepted ∧
    ∀ moment event, moment ∈ later -> CommitsEvent moment event ->
      visibleEvent routed.state authority event = true -> query.scope.all (scopeMatches event) = true ->
      ∃ record, record ∈ batch.events ∧ Delivers record event

/-- A step of the broker that keeps every event it commits, none of which asks for a resync. -/
structure StaysCalm (config : HostConfig) (moment : Moment RoutedHost Label) : Prop where
  bounded : moment.after.state.eventSequence ≤ moment.before.state.eventSequence + config.ledger.limits.maxEvents
  calm : ∀ event, CommitsEvent moment event -> event.resyncRequired = false

/-- The ledger still holds an event that is no later than the one after the cursor, or has none after it. -/
def StillRecorded (state : LedgerState) (sequence : EventSequence) : Prop :=
  state.eventSequence = sequence ∨ ∃ event, event ∈ state.events ∧ event.sequence ≤ sequence + 1

variable {config : HostConfig} {label : Label} {before after first last : RoutedHost}
  {trace : List (Moment RoutedHost Label)} {source : List EventRecord} {low : EventSequence}
  {spans : List (Span EventRecord)} {state : LedgerState} {sequence : EventSequence}

structure TracksLedger (config : HostConfig) (routed : RoutedHost) (source : List EventRecord) (low : EventSequence)
    (spans : List (Span EventRecord)) : Prop where
  sound : Sound config.ledger routed.host.ledger
  retains : Retains routed.router source low spans
  cursor : routed.router.cursor = routed.cursor
  limits : routed.router.limits = .new (max config.ledger.limits.maxEvents 1)

theorem eventRouterFromLedger_empty {limits : LedgerLimits} (none : state.events = [])
    (number : state.eventSequence = 0) : eventRouterFromLedger limits state =
      .newAt { brokerEpoch := state.brokerEpoch, sequence := 0 } (.new (max limits.maxEvents 1)) := by
  unfold eventRouterFromLedger
  rw [none, number]
  rfl

theorem newAt_retains {brokerEpoch : BrokerEpoch} {bound : Nat} :
    Retains (.newAt { brokerEpoch, sequence := 0 } (.new (max bound 1))) [] 0 [] where
  numbered := rfl
  calm := rfl
  seen := fun _ member => by cases member
  records := rfl
  starts := rfl
  lasts := fun _ member => by cases member
  tiles := rfl
  room := Nat.le_max_right bound 1
  size := Nat.zero_le _
  full := .inl rfl
  quiet := fun _ member => by cases member
  delivered := fun _ member => by cases member

theorem opened_tracks {host : System} (sound : Sound config.ledger host.ledger)
    (fresh : host.ledger.state.events = [] ∧ host.ledger.state.eventSequence = 0) :
    TracksLedger config (.opened config host) [] 0 [] := by
  have router : eventRouterFromLedger config.ledger.limits host.ledger.state = _ :=
    eventRouterFromLedger_empty fresh.1 fresh.2
  constructor
  case sound => exact sound
  case retains =>
    unfold RoutedHost.opened
    rw [router]
    exact newAt_retains
  case cursor =>
    unfold RoutedHost.opened RoutedHost.cursor RoutedHost.state
    dsimp only
    rw [router, fresh.2]
    rfl
  case limits =>
    unfold RoutedHost.opened
    dsimp only
    rw [router]
    rfl

theorem routedNext_host (taken : routedNext config label before = some after) :
    next config label before.host = some after.host := by
  unfold routedNext at taken
  obtain ⟨host, moved, rfl⟩ := Option.map_eq_some_iff.mp taken
  rw [moved]
  split_ifs <;> rfl

theorem RoutedRun.sound {start : RoutedHost} (run : RoutedRun config start trace last)
    (sound : Sound config.ledger start.host.ledger) : Sound config.ledger last.host.ledger :=
  run.keeps (fun routed => Sound config.ledger routed.host.ledger) sound
    fun _ _ taken sound => sound.step (routedNext_host taken)

theorem opensBroker_tracks {start : System} {opened : RoutedHost} (initial : Initial config start)
    (run : RoutedRun config (.opened config start) trace opened) (opens : OpensBroker trace) :
    TracksLedger config opened [] 0 [] := by
  cases run with
  | nil =>
    refine opened_tracks initial.sound ?_
    obtain ⟨rfl, _⟩ := initial
    exact ⟨rfl, rfl⟩
  | @step _ before _ label earlier taken =>
    have restarts : label.2.isRestart = true := opens _ rfl
    have sound := RoutedRun.sound (.step earlier taken) initial.sound
    unfold routedNext at taken
    obtain ⟨host, moved, rfl⟩ := Option.map_eq_some_iff.mp taken
    rw [if_pos restarts] at sound ⊢
    obtain ⟨_, replied⟩ := next_step moved
    obtain ⟨environment, command⟩ := label
    cases command with
    | restart failures =>
      obtain ⟨state, opened, rfl⟩ := restart_cases replied
      exact opened_tracks sound (reopenLedger_events opened)
    | _ => cases restarts

theorem advances_unseen {next : LedgerState} (valid : Valid config.ledger state) (advances : Advances state next) :
    ∃ new, next.events.filter (fun event => decide (state.eventSequence < event.sequence)) = new ∧
      Successive state.brokerEpoch state.eventSequence new next.eventSequence := by
  obtain ⟨_, kept, new, inside, events, numbered⟩ := advances
  refine ⟨new, ?_, numbered⟩
  have old : kept.filter (fun event => decide (state.eventSequence < event.sequence)) = [] :=
    List.filter_eq_nil_iff.mpr fun event member => by
      simpa using valid.event_bounded (inside member)
  have all : new.filter (fun event => decide (state.eventSequence < event.sequence)) = new :=
    List.filter_eq_self.mpr fun event member => by
      simpa using (numbered.between member).1
  rw [events, List.filter_append, old, all, List.nil_append]

theorem TracksLedger.step (tracks : TracksLedger config before source low spans)
    (taken : routedNext config label before = some after) (serves : label.2.isRestart = false)
    (calm : StaysCalm config ⟨before, label, after⟩) :
    ∃ new low spans, TracksLedger config after (source ++ new) low spans ∧
      Successive before.state.brokerEpoch before.state.eventSequence new after.state.eventSequence ∧
      after.state.brokerEpoch = before.state.brokerEpoch ∧
      ∀ event, CommitsEvent ⟨before, label, after⟩ event <-> event ∈ new := by
  have sound := tracks.sound.step (routedNext_host taken)
  have sameCursor := tracks.cursor
  simp only [EventRouter.cursor, RoutedHost.cursor, EventCursor.mk.injEq] at sameCursor
  obtain ⟨sameBroker, sameNumber⟩ := sameCursor
  have moved : Advances before.state after.state := by
    obtain moved | ⟨failures, _, restarts, _⟩ := next_ledger (routedNext_host taken)
    · have bounded := calm.bounded
      unfold RoutedHost.state at bounded ⊢
      generalize after.host.ledger = changed at moved bounded
      cases moved with
      | same => exact (Appends.refl _).advances
      | committed made => exact made.recorded.fits bounded
      | written => exact (Appends.refl _).advances
    · rw [restarts] at serves
      cases serves
  have valid : Valid config.ledger before.state := tracks.sound.valid
  obtain ⟨new, unseen, numbered⟩ := advances_unseen valid moved
  have members : ∀ event, CommitsEvent ⟨before, label, after⟩ event <-> event ∈ new := by
    intro event
    rw [← unseen, List.mem_filter, decide_eq_true_eq]
    exact ⟨fun commits => ⟨commits.recorded, commits.new⟩, fun both => ⟨both.1, both.2⟩⟩
  have after_is : after.router = syncEventRouter before.router after.state := by
    unfold routedNext at taken
    obtain ⟨host, _, rfl⟩ := Option.map_eq_some_iff.mp taken
    rw [serves]
    rfl
  have follows := numbered
  rw [← sameBroker, ← sameNumber] at follows
  obtain ⟨router, low, spans, ran, broker, limits, number, retains⟩ :=
    tracks.retains.ingest_all follows fun event member => calm.calm event ((members event).mpr member)
  have synced : after.router = router := by
    rw [after_is, ← ran, ← unseen, ← sameNumber]
    unfold syncEventRouter
    rw [if_neg (by rw [sameBroker, moved.1]; simp)]
  refine ⟨new, low, spans, ⟨sound, synced ▸ retains, ?_, ?_⟩, numbered, moved.1, members⟩
  · rw [synced, EventRouter.cursor, RoutedHost.cursor, broker, number, sameBroker, moved.1]
  · rw [synced, limits]
    exact tracks.limits

theorem TracksLedger.run (tracks : TracksLedger config first source low spans)
    (run : RoutedRun config first trace last)
    (serves : ∀ moment, moment ∈ trace -> moment.label.2.isRestart = false)
    (calm : ∀ moment, moment ∈ trace -> StaysCalm config moment) :
    ∃ new low spans, TracksLedger config last (source ++ new) low spans ∧
      Successive first.state.brokerEpoch first.state.eventSequence new last.state.eventSequence ∧
      last.state.brokerEpoch = first.state.brokerEpoch ∧
      ∀ moment event, moment ∈ trace -> CommitsEvent moment event -> event ∈ new := by
  induction run with
  | nil => exact ⟨[], low, spans, by simpa using tracks, rfl, rfl, fun _ _ inside => by cases inside⟩
  | @step trace before after label earlier taken ih =>
    obtain ⟨new, low, spans, tracked, numbered, sameBroker, members⟩ :=
      ih (fun moment inside => serves moment (List.mem_cons_of_mem _ inside))
        fun moment inside => calm moment (List.mem_cons_of_mem _ inside)
    obtain ⟨newer, low, spans, tracks, later, sameLater, more⟩ :=
      tracked.step taken (serves _ List.mem_cons_self) (calm _ List.mem_cons_self)
    rw [sameBroker] at later
    refine ⟨new ++ newer, low, spans, by rwa [← List.append_assoc], numbered.append later, sameLater.trans sameBroker, ?_⟩
    intro moment event inside commits
    obtain rfl | inside := List.mem_cons.mp inside
    · exact List.mem_append_right _ ((more event).mp commits)
    · exact List.mem_append_left _ (members moment event inside commits)

theorem historyLagged_false (valid : Valid config.ledger state) (held : StillRecorded state sequence)
    (bounded : state.eventSequence ≤ u64Max) :
    historyLagged state sequence = false := by
  unfold historyLagged
  cases head : state.events.head? with
  | none =>
    -- an empty history cannot hold a later event
    have empty := List.head?_eq_none_iff.mp head
    obtain same | ⟨event, member, _⟩ := held
    · simp [same]
    · rw [empty] at member
      cases member
  | some first =>
    have inside : first ∈ state.events := List.mem_of_head? head
    have known := valid.event_bounded inside
    have reached : first.sequence ≤ sequence + 1 := by
      obtain same | ⟨event, member, near⟩ := held
      · exact (known.trans same.le).trans (Nat.le_succ sequence)
      · exact (valid.event_first head member).trans near
    exact decide_eq_false (Nat.not_lt_of_le (Nat.le_min.mpr ⟨reached, known.trans bounded⟩))

theorem TracksLedger.low_le (tracks : TracksLedger config last source low spans)
    (within : last.state.eventSequence ≤ sequence + config.ledger.limits.maxEvents) : low ≤ sequence := by
  have number : last.router.sequence = last.state.eventSequence := congrArg EventCursor.sequence tracks.cursor
  have tiled := tracks.retains.tiles.length_le
  rw [number] at tiled
  obtain origin | packed := tracks.retains.full
  · exact origin ▸ Nat.zero_le sequence
  · rw [packed, tracks.limits] at tiled
    have window : config.ledger.limits.maxEvents ≤ max config.ledger.limits.maxEvents 1 := Nat.le_max_left _ _
    exact Nat.le_of_add_le_add_right ((Nat.add_le_add_left window low).trans (tiled.trans within))

theorem Retains.replay {router : EventRouter} {cursor : EventCursor} (retains : Retains router source low spans)
    (scope : Option EventScope) (sameBroker : cursor.brokerEpoch = router.brokerEpoch)
    (back : low ≤ cursor.sequence) (past : cursor.sequence ≤ router.sequence) :
    router.replay cursor scope =
      { brokerEpoch := router.brokerEpoch
        result := .accepted
        events := router.events.filter fun event =>
          decide (cursor.sequence < event.sequence) && scope.all (scopeMatches event)
        cursor := router.cursor } := by
  have inside : (router.retainedStarts.head?.any fun start =>
      (checkedNext cursor.sequence).any fun next => decide (next < start)) = false := by
    rw [← Bool.not_eq_true, Option.any_eq_true]
    rintro ⟨start, head, lagged⟩
    rw [Option.any_eq_true] at lagged
    obtain ⟨next, numbered, below⟩ := lagged
    obtain ⟨_, rfl⟩ := checkedNext_eq_some.mp numbered
    rw [retains.starts] at head
    cases spans with
    | nil => cases head
    | cons span rest =>
      obtain ⟨first, _⟩ := retains.tiles
      obtain rfl : span.first = start := Option.some.inj head
      rw [decide_eq_true_eq, first] at below
      exact absurd back (Nat.not_le_of_lt (Nat.lt_of_succ_lt_succ below))
  unfold EventRouter.replay
  rw [if_neg]
  simp [retains.calm, sameBroker, inside, past]

theorem Delivers.shown {record event : EventRecord} (delivers : Delivers record event)
    (same : record.resyncRequired = event.resyncRequired) (requested : EventScope) :
    scopeMatches record requested = scopeMatches event requested := by
  unfold scopeMatches
  rw [same, delivers.scope]

/-- A client that resumes from a cursor is given every event after it that it may see, as long as this broker
has asked for no resync and has kept the events of each of its commits. -/
theorem resume_recovers {start : System} {opened middle : RoutedHost}
    {opening early later : List (Moment RoutedHost Label)} {authority : AuthorityTicket} {scope : Option EventScope}
    (initial : Initial config start) (reached : RoutedRun config (.opened config start) opening opened)
    (opens : OpensBroker opening) (before : RoutedRun config opened early middle)
    (after : RoutedRun config middle later last)
    (serves : ∀ moment, moment ∈ later ++ early -> moment.label.2.isRestart = false)
    (calm : ∀ moment, moment ∈ later ++ early -> StaysCalm config moment)
    (within : last.state.eventSequence ≤ middle.state.eventSequence + config.ledger.limits.maxEvents)
    (held : StillRecorded last.state middle.state.eventSequence)
    (allowed : authorizeQuery last.state authority { after := middle.cursor, scope } = .ok ()) :
    Replays last authority { after := middle.cursor, scope } later := by
  have start := opensBroker_tracks initial reached opens
  obtain ⟨_, _, _, tracked, _, _, _⟩ := start.run before
    (fun moment inside => serves moment (List.mem_append_right _ inside))
    fun moment inside => calm moment (List.mem_append_right _ inside)
  obtain ⟨new, low, spans, tracks, numbered, sameBroker, members⟩ := tracked.run after
    (fun moment inside => serves moment (List.mem_append_left _ inside))
    fun moment inside => calm moment (List.mem_append_left _ inside)
  have cursor := tracks.cursor
  simp only [EventRouter.cursor, RoutedHost.cursor, EventCursor.mk.injEq] at cursor
  obtain ⟨broker, number⟩ := cursor
  have past : middle.state.eventSequence ≤ last.state.eventSequence :=
    numbered.length ▸ Nat.le_add_right _ _
  have bounded : last.state.eventSequence ≤ u64Max :=
    number ▸ tracks.retains.numbered.bounded (Nat.zero_le _)
  have unlagged := historyLagged_false tracks.sound.valid held bounded
  have back : low ≤ middle.cursor.sequence := tracks.low_le within
  have replay := tracks.retains.replay scope (sameBroker.symm.trans broker.symm) back (number ▸ past)
  have resumed : resumeEvents last.router authority { after := middle.cursor, scope } last.state =
      .ok { last.router.replay middle.cursor scope with
        events := (last.router.replay middle.cursor scope).events.filter (visibleEvent last.state authority)
        brokerEpoch := last.state.brokerEpoch
        cursor := last.cursor } := by
    unfold resumeEvents
    rw [bind_of_ok allowed]
    have same : (middle.cursor.brokerEpoch != last.state.brokerEpoch) = false := by
      rw [sameBroker]
      exact bne_self_eq_false _
    have notAhead : decide (last.state.eventSequence < middle.cursor.sequence) = false :=
      decide_eq_false (Nat.not_lt_of_le past)
    have fresh : historyLagged last.state middle.cursor.sequence = false := unlagged
    dsimp only
    rw [same, notAhead, fresh]
    rfl
  refine ⟨_, resumed, ?_, ?_⟩
  · rw [replay]
  intro moment event inside commits visible requested
  have member := members moment event inside commits
  obtain ⟨after_cursor, _⟩ := numbered.between member
  have quiet := calm moment (List.mem_append_left _ inside)
  obtain ⟨span, held, delivers⟩ := tracks.retains.delivered event (List.mem_append_right _ member)
    ((tracks.low_le within).trans_lt after_cursor)
  have same : span.item.resyncRequired = event.resyncRequired :=
    (tracks.retains.quiet span held).trans (quiet.calm event commits).symm
  refine ⟨span.item, ?_, delivers⟩
  rw [replay]
  simp only [List.mem_filter, Bool.and_eq_true, decide_eq_true_eq]
  refine ⟨⟨?_, after_cursor.trans_le delivers.reached, ?_⟩, ?_⟩
  · rw [tracks.retains.records]
    exact List.mem_map_of_mem held
  · have shown : scopeMatches span.item = scopeMatches event := funext (delivers.shown same)
    rwa [shown]
  · unfold visibleEvent at visible ⊢
    rwa [delivers.scope]

theorem staysCalm_iff {moment : Moment RoutedHost Label} : StaysCalm config moment <->
    moment.after.state.eventSequence ≤ moment.before.state.eventSequence + config.ledger.limits.maxEvents ∧
      ∀ event, event ∈ moment.after.state.events -> moment.before.state.eventSequence < event.sequence ->
        event.resyncRequired = false := by
  constructor
  · intro stays
    exact ⟨stays.bounded, fun _ recorded new => stays.calm _ ⟨recorded, new⟩⟩
  · rintro ⟨bounded, calm⟩
    exact ⟨bounded, fun event commits => calm event commits.recorded commits.new⟩

instance {moment : Moment RoutedHost Label} : Decidable (StaysCalm config moment) :=
  decidable_of_iff' _ staysCalm_iff

def createdLater : List Label := [(sampleEnv, .createSpace sampleTicket "other" .retain)]

def addsOnce : List (Moment RoutedHost Label) -> Bool
  | [moment] => moment.after.state.events.any fun event =>
      decide (moment.before.state.eventSequence < event.sequence)
  | _ => false

theorem resume_recovers_once :
    ∃ (last : RoutedHost) (moment : Moment RoutedHost Label) (event : EventRecord) (cursor : EventCursor),
      CommitsEvent moment event ∧ Replays last sampleTicket { after := cursor, scope := none } [moment] := by
  obtain ⟨middle, last, later, early, late, passed⟩ := advance_reaches_later (routedNext sampleConfig)
    (.opened sampleConfig (.fresh sampleConfig)) sampleStart createdLater
    (fun middle last later =>
      decide (last.state.eventSequence ≤ middle.state.eventSequence + sampleConfig.ledger.limits.maxEvents) &&
      last.state.events.any (fun event => decide (event.sequence ≤ middle.state.eventSequence + 1)) &&
      (authorizeQuery last.state sampleTicket { after := middle.cursor, scope := none }).toBool &&
      (visits (routedNext sampleConfig) sampleStart (.opened sampleConfig (.fresh sampleConfig))).all (fun moment =>
        decide (StaysCalm sampleConfig moment) && !moment.label.2.isRestart) &&
      later.all (fun moment => decide (StaysCalm sampleConfig moment) && !moment.label.2.isRestart) &&
      addsOnce later) (by decide)
  simp only [Bool.and_eq_true, decide_eq_true_eq, List.any_eq_true, List.all_eq_true, toBool_ok,
    Bool.not_eq_true'] at passed
  obtain ⟨⟨⟨⟨⟨within, event, held, near⟩, allowed⟩, calmEarly⟩, calmLater⟩, single⟩ := passed
  unfold addsOnce at single
  split at single
  · next moment =>
    simp only [List.any_eq_true, decide_eq_true_eq] at single
    obtain ⟨added, recorded, new⟩ := single
    have checked : ∀ step, step ∈ [moment] ++ (visits (routedNext sampleConfig) sampleStart
        (.opened sampleConfig (.fresh sampleConfig))).reverse ->
        StaysCalm sampleConfig step ∧ step.label.2.isRestart = false := by
      intro step inside
      obtain inside | inside := List.mem_append.mp inside
      · exact calmLater step inside
      · exact calmEarly step (List.mem_reverse.mp inside)
    refine ⟨last, moment, added, middle.cursor, ⟨recorded, new⟩, ?_⟩
    exact resume_recovers sample_initial .nil (fun _ head => by cases head) early late
      (fun step inside => (checked step inside).2) (fun step inside => (checked step inside).1) within
      (.inr ⟨event, held, near⟩) allowed
  · cases single

def lostEarlier : List Label := sampleStart ++
  [(sampleEnv, .createPage sampleClaim "page"), (sampleEnv, .markPageLost sampleClaim ⟨1⟩)]

def asksResync (middle last : RoutedHost) : Bool :=
  match resumeEvents last.router sampleTicket { after := middle.cursor, scope := none } last.state with
  | .ok batch => batch.result == .resyncRequired
  | .error _ => false

theorem resync_lasts :
    ¬ ∀ start opened middle last opening early later authority scope, Initial sampleConfig start ->
      RoutedRun sampleConfig (.opened sampleConfig start) opening opened -> OpensBroker opening ->
      RoutedRun sampleConfig opened early middle -> RoutedRun sampleConfig middle later last ->
      (∀ moment, moment ∈ later ++ early -> moment.label.2.isRestart = false) ->
      (∀ moment event, moment ∈ later -> CommitsEvent moment event -> event.resyncRequired = false) ->
      last.state.eventSequence ≤ middle.state.eventSequence + sampleConfig.ledger.limits.maxEvents ->
      authorizeQuery last.state authority { after := middle.cursor, scope } = .ok () ->
      Replays last authority { after := middle.cursor, scope } later := by
  intro claim
  obtain ⟨middle, last, later, early, late, passed⟩ := advance_reaches_later (routedNext sampleConfig)
    (.opened sampleConfig (.fresh sampleConfig)) lostEarlier createdLater
    (fun middle last later =>
      decide (last.state.eventSequence ≤ middle.state.eventSequence + sampleConfig.ledger.limits.maxEvents) &&
      (authorizeQuery last.state sampleTicket { after := middle.cursor, scope := none }).toBool &&
      (visits (routedNext sampleConfig) lostEarlier (.opened sampleConfig (.fresh sampleConfig))).all (fun moment =>
        !moment.label.2.isRestart) &&
      later.all (fun moment => decide (StaysCalm sampleConfig moment) && !moment.label.2.isRestart) &&
      asksResync middle last) (by decide +kernel)
  simp only [Bool.and_eq_true, decide_eq_true_eq, List.all_eq_true, toBool_ok, Bool.not_eq_true'] at passed
  obtain ⟨⟨⟨⟨within, allowed⟩, servesEarly⟩, calmLater⟩, refused⟩ := passed
  have serves : ∀ step, step ∈ later.reverse ++ (visits (routedNext sampleConfig) lostEarlier
      (.opened sampleConfig (.fresh sampleConfig))).reverse -> step.label.2.isRestart = false := by
    intro step inside
    obtain inside | inside := List.mem_append.mp inside
    · exact (calmLater step (List.mem_reverse.mp inside)).2
    · exact servesEarly step (List.mem_reverse.mp inside)
  obtain ⟨batch, resumed, accepted, _⟩ := claim _ _ _ _ _ _ _ _ none sample_initial .nil (fun _ head => by cases head)
    early late serves (fun step event inside => (calmLater step (List.mem_reverse.mp inside)).1.calm event) within allowed
  unfold asksResync at refused
  rw [resumed] at refused
  change (batch.result == .resyncRequired) = true at refused
  rw [accepted] at refused
  cases refused

end AgentycHost
