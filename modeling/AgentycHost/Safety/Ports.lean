import AgentycHost.Native.Client

set_option autoImplicit false

/-! # The ports that an extension holds -/

namespace AgentycHost

open Shared

variable {config : ClientConfig} {extension after : NativeExtension} {label : ExtensionLabel}

section Observations

/-- An event of a port that is not the client's own any more. -/
def StaleEvent (moment : Moment NativeExtension ExtensionLabel) : Prop :=
  match moment.label with
  | .message index _ | .portDisconnected index =>
      ∃ listener, moment.before.listeners[index]? = some listener ∧ moment.before.isCurrent listener = false
  | _ => False

/-- `stop` finds no port being opened and timers that it can clear; a post fails on a dead port only. -/
def StepCareful (config : ClientConfig) (moment : Moment NativeExtension ExtensionLabel) : Prop :=
  match moment.label with
  | .stop _ => moment.before.client.connectPromise ≠ .opening ∧ config.clearTimeoutFn = true
  | .postFails => ∀ port, moment.before.client.port = some port -> port ∉ moment.before.live
  | _ => True

/-- Nothing is open, and nothing is left that opens a port by itself. -/
structure Closed (extension : NativeExtension) : Prop where
  live : extension.live = []
  port : extension.client.port = none
  state : extension.isLive = false
  promise : extension.client.connectPromise ≠ .opening
  timer : extension.client.reconnectTimer = false
  strays : extension.strayTimers = 0

end Observations

section Links

structure OnePort (extension : NativeExtension) : Prop where
  own : ∀ port, port ∈ extension.live -> extension.client.port = some port
  single : extension.live.length ≤ 1
  ended : extension.isLive = false -> extension.client.port = none
  opening : extension.client.connectPromise = .opening -> extension.isLive = false

theorem none_live (own : ∀ port, port ∈ extension.live -> extension.client.port = some port)
    (closed : extension.client.port = none) : extension.live = [] := by
  rw [List.eq_nil_iff_forall_not_mem]
  intro port inside
  have same := own port inside
  rw [closed] at same
  cases same

theorem OnePort.schedule (one : OnePort extension) : OnePort (extension.scheduleReconnect config) := by
  unfold NativeExtension.scheduleReconnect
  split
  next => exact one
  next => exact ⟨one.own, one.single, one.ended, one.opening⟩

theorem OnePort.connect (one : OnePort extension) : OnePort (extension.connect config) := by
  unfold NativeExtension.connect
  split
  next => exact one
  next idle =>
    have ended : extension.isLive = false := Bool.eq_false_iff.mpr idle
    split
    next => exact one
    next =>
      split
      next => exact ⟨one.own, one.single, fun _ => one.ended ended, fun _ => rfl⟩
      next => exact ⟨one.own, one.single, one.ended, fun _ => ended⟩

theorem filter_own {live : List Nat} {port : Nat} (own : ∀ other, other ∈ live -> other = port) :
    (live.filter fun other => other != port) = [] := by
  rw [List.filter_eq_nil_iff]
  intro other inside
  rw [own other inside, bne_self_eq_false]
  exact Bool.false_ne_true

theorem disconnected_none (extension : NativeExtension)
    (own : ∀ port, port ∈ extension.live -> extension.client.port = some port) :
    extension.disconnectPort.live = [] ∧ extension.disconnectPort.client.port = none := by
  unfold NativeExtension.disconnectPort
  split
  next closed => exact ⟨none_live own closed, closed⟩
  next port held =>
    refine ⟨filter_own fun other inside => ?_, rfl⟩
    have same := own other inside
    rw [held] at same
    exact (Option.some.inj same).symm

theorem OnePort.of_closed (live : extension.live = []) (closed : extension.client.port = none)
    (opening : extension.client.connectPromise = .opening -> extension.isLive = false) : OnePort extension where
  own := fun port inside => by
    rw [live] at inside
    cases inside
  single := by
    rw [live]
    exact Nat.zero_le _
  ended := fun _ => closed
  opening := opening

theorem NativeExtension.disconnectPort_fields (extension : NativeExtension) :
    extension.disconnectPort.client.state = extension.client.state ∧
      extension.disconnectPort.client.connectPromise = extension.client.connectPromise ∧
      extension.disconnectPort.client.reconnectTimer = extension.client.reconnectTimer ∧
      extension.disconnectPort.strayTimers = extension.strayTimers := by
  unfold disconnectPort
  split
  next => exact ⟨rfl, rfl, rfl, rfl⟩
  next => exact ⟨rfl, rfl, rfl, rfl⟩

theorem not_live_of {extension : NativeExtension} (state : extension.client.state = .rejected ∨
    extension.client.state = .disconnected) : extension.isLive = false := by
  unfold NativeExtension.isLive
  rcases state with state | state
  all_goals rw [state]

theorem OnePort.failProtocol (one : OnePort extension) : OnePort (extension.failProtocol config) := by
  unfold NativeExtension.failProtocol
  apply OnePort.schedule
  obtain ⟨live, closed⟩ := disconnected_none
    { extension with client := { extension.client with state := .rejected } } one.own
  have fields := NativeExtension.disconnectPort_fields
    { extension with client := { extension.client with state := .rejected } }
  exact .of_closed live closed fun _ => not_live_of (.inl fields.1)

theorem OnePort.stop (one : OnePort extension) (reconnect : Bool) : OnePort (extension.stop config reconnect) := by
  obtain ⟨live, closed⟩ := disconnected_none (NativeExtension.clearReconnectTimer config
    { extension with client := { extension.client with stopped := !reconnect } }) one.own
  exact .of_closed live closed fun _ => not_live_of (.inr rfl)

theorem OnePort.drop (one : OnePort extension)
    (dead : ∀ port, extension.client.port = some port -> port ∉ extension.live) : OnePort extension.dropPort := by
  refine .of_closed ?_ rfl fun _ => not_live_of (.inr rfl)
  rw [List.eq_nil_iff_forall_not_mem]
  intro port inside
  exact dead port (one.own port inside) inside

theorem OnePort.openPort (one : OnePort extension) (opening : extension.client.connectPromise = .opening)
    (returned : Bool) : OnePort (extension.openPort config returned) := by
  have closed := one.ended (one.opening opening)
  have live := none_live one.own closed
  unfold NativeExtension.openPort
  dsimp only
  split
  next =>
    refine ⟨fun port inside => ?_, ?_, fun ended => ?_, fun other => (by cases other)⟩
    · dsimp only at inside ⊢
      rw [live] at inside
      rw [List.mem_singleton.mp inside]
    · dsimp only
      rw [live]
      exact Nat.le_refl 1
    · cases ended
  next =>
    apply OnePort.schedule
    exact .of_closed live rfl fun _ => not_live_of (.inr rfl)

theorem OnePort.losing (one : OnePort extension) (lost : Nat) :
    OnePort { extension with live := extension.live.filter fun other => other != lost } where
  own := fun port inside => one.own port (List.mem_of_mem_filter inside)
  single := Nat.le_trans (List.length_filter_le _ _) one.single
  ended := one.ended
  opening := one.opening

theorem OnePort.message (one : OnePort extension) (listener : PortListener) (accepted : Bool) :
    OnePort (extension.handleIncoming config listener accepted) := by
  unfold NativeExtension.handleIncoming
  split
  next => exact one
  next =>
    split
    next state =>
      have started : extension.isLive = true := by
        unfold NativeExtension.isLive
        rw [state]
      refine ⟨one.own, one.single, fun ended => (by cases ended), fun opening => ?_⟩
      rw [one.opening opening] at started
      cases started
    next => exact one
    next => exact one.failProtocol

theorem NativeExtension.isCurrent_port {listener : PortListener} (current : extension.isCurrent listener = true) :
    extension.client.port = some listener.port := by
  unfold isCurrent at current
  exact beq_iff_eq.mp (Bool.and_eq_true_iff.mp current).2

theorem OnePort.portDisconnect (one : OnePort extension) (listener : PortListener)
    (dead : listener.port ∉ extension.live) : OnePort (extension.handlePortDisconnect config listener) := by
  have dropped (schedule : Bool) : OnePort (extension.handleDisconnect config listener schedule) := by
    unfold NativeExtension.handleDisconnect
    split
    next => exact one
    next current =>
      have own := NativeExtension.isCurrent_port (by simpa using current)
      have drop := one.drop fun port held => by
        rw [own] at held
        cases held
        exact dead
      split
      next => exact drop.schedule
      next => exact drop
  unfold NativeExtension.handlePortDisconnect
  dsimp only
  split
  next => exact (dropped _).connect
  next => exact dropped _

theorem OnePort.step (one : OnePort extension) (stepped : extension.next config label = some after)
    (careful : StepCareful config ⟨extension, label, after⟩) : OnePort after := by
  cases label with
  | connect =>
    cases stepped
    exact one.connect
  | stop reconnect =>
    cases stepped
    exact one.stop reconnect
  | reconnect =>
    cases stepped
    have stopped : OnePort (extension.stop config false) := one.stop false
    exact OnePort.connect ⟨stopped.own, stopped.single, stopped.ended, stopped.opening⟩
  | openPort returned =>
    unfold NativeExtension.next at stepped
    dsimp only at stepped
    split at stepped
    next opening =>
      cases stepped
      exact one.openPort opening returned
    next => cases stepped
  | settle =>
    unfold NativeExtension.next at stepped
    dsimp only at stepped
    split at stepped
    next =>
      cases stepped
      exact ⟨one.own, one.single, one.ended, fun opening => (by cases opening)⟩
    next => cases stepped
  | message index accepted =>
    obtain ⟨listener, _, rfl⟩ := Option.map_eq_some_iff.mp stepped
    exact one.message listener accepted
  | portDisconnected index =>
    obtain ⟨listener, _, rfl⟩ := Option.map_eq_some_iff.mp stepped
    refine (one.losing listener.port).portDisconnect listener fun inside => ?_
    have kept := (List.mem_filter.mp inside).2
    rw [bne_self_eq_false] at kept
    cases kept
  | portCloses port =>
    cases stepped
    exact one.losing port
  | postFails =>
    unfold NativeExtension.next at stepped
    dsimp only at stepped
    split at stepped
    next =>
      cases stepped
      exact (one.drop careful).schedule
    next => cases stepped
  | timer =>
    unfold NativeExtension.next at stepped
    dsimp only at stepped
    split at stepped
    next =>
      cases stepped
      exact OnePort.connect ⟨one.own, one.single, one.ended, one.opening⟩
    next => cases stepped
  | strayTimer =>
    unfold NativeExtension.next at stepped
    dsimp only at stepped
    split at stepped
    next => cases stepped
    next =>
      cases stepped
      exact OnePort.connect ⟨one.own, one.single, one.ended, one.opening⟩

end Links

section Timers

theorem clear_strays (clears : config.clearTimeoutFn = true) :
    (extension.clearReconnectTimer config).strayTimers = extension.strayTimers := by
  unfold NativeExtension.clearReconnectTimer
  dsimp only
  rw [clears, Bool.not_true, Bool.and_false, if_neg Bool.false_ne_true]

theorem schedule_strays : (extension.scheduleReconnect config).strayTimers = extension.strayTimers := by
  unfold NativeExtension.scheduleReconnect
  split
  next => rfl
  next => rfl

theorem connect_strays (clears : config.clearTimeoutFn = true) :
    (extension.connect config).strayTimers = extension.strayTimers := by
  unfold NativeExtension.connect
  split
  next => rfl
  next =>
    split
    next => rfl
    next =>
      split
      next => rfl
      next => exact clear_strays clears

theorem stop_strays (clears : config.clearTimeoutFn = true) (reconnect : Bool) :
    (extension.stop config reconnect).strayTimers = extension.strayTimers :=
  (NativeExtension.disconnectPort_fields _).2.2.2.trans (clear_strays clears)

theorem failProtocol_strays : (extension.failProtocol config).strayTimers = extension.strayTimers :=
  schedule_strays.trans (NativeExtension.disconnectPort_fields _).2.2.2

theorem message_strays (listener : PortListener) (accepted : Bool) :
    (extension.handleIncoming config listener accepted).strayTimers = extension.strayTimers := by
  unfold NativeExtension.handleIncoming
  split
  next => rfl
  next =>
    split
    next => rfl
    next => rfl
    next => exact failProtocol_strays

theorem handleDisconnect_strays (listener : PortListener) (schedule : Bool) :
    (extension.handleDisconnect config listener schedule).strayTimers = extension.strayTimers := by
  unfold NativeExtension.handleDisconnect
  split
  next => rfl
  next =>
    split
    next => exact schedule_strays
    next => rfl

theorem portDisconnect_strays (clears : config.clearTimeoutFn = true) (listener : PortListener) :
    (extension.handlePortDisconnect config listener).strayTimers = extension.strayTimers := by
  unfold NativeExtension.handlePortDisconnect
  dsimp only
  split
  next => exact (connect_strays clears).trans (handleDisconnect_strays _ _)
  next => exact handleDisconnect_strays _ _

theorem step_strays (clears : config.clearTimeoutFn = true) (none_ : extension.strayTimers = 0)
    (stepped : extension.next config label = some after) : after.strayTimers = 0 := by
  cases label with
  | connect =>
    cases stepped
    exact (connect_strays clears).trans none_
  | stop reconnect =>
    cases stepped
    exact (stop_strays clears reconnect).trans none_
  | reconnect =>
    cases stepped
    exact (connect_strays clears).trans ((stop_strays clears false).trans none_)
  | openPort returned =>
    unfold NativeExtension.next at stepped
    dsimp only at stepped
    split at stepped
    next =>
      cases stepped
      unfold NativeExtension.openPort
      dsimp only
      split
      next => exact none_
      next => exact schedule_strays.trans none_
    next => cases stepped
  | settle =>
    unfold NativeExtension.next at stepped
    dsimp only at stepped
    split at stepped
    next =>
      cases stepped
      exact none_
    next => cases stepped
  | message index accepted =>
    obtain ⟨listener, _, rfl⟩ := Option.map_eq_some_iff.mp stepped
    exact (message_strays listener accepted).trans none_
  | portDisconnected index =>
    obtain ⟨listener, _, rfl⟩ := Option.map_eq_some_iff.mp stepped
    exact (portDisconnect_strays clears listener).trans none_
  | portCloses port =>
    cases stepped
    exact none_
  | postFails =>
    unfold NativeExtension.next at stepped
    dsimp only at stepped
    split at stepped
    next =>
      cases stepped
      exact schedule_strays.trans none_
    next => cases stepped
  | timer =>
    unfold NativeExtension.next at stepped
    dsimp only at stepped
    split at stepped
    next =>
      cases stepped
      exact (connect_strays clears).trans none_
    next => cases stepped
  | strayTimer =>
    unfold NativeExtension.next at stepped
    dsimp only at stepped
    split at stepped
    next => cases stepped
    next some_ =>
      rw [none_] at some_
      cases some_

end Timers

section Endings

theorem Closed.of_stop (one : OnePort extension) (clears : config.clearTimeoutFn = true)
    (strays : extension.strayTimers = 0) (promise : extension.client.connectPromise ≠ .opening) (reconnect : Bool) :
    Closed (extension.stop config reconnect) := by
  obtain ⟨live, closed⟩ := disconnected_none (NativeExtension.clearReconnectTimer config
    { extension with client := { extension.client with stopped := !reconnect } }) one.own
  have fields := NativeExtension.disconnectPort_fields (NativeExtension.clearReconnectTimer config
    { extension with client := { extension.client with stopped := !reconnect } })
  exact ⟨live, closed, not_live_of (.inr rfl), fun opening => promise (fields.2.1.symm.trans opening),
    fields.2.2.1, (stop_strays clears reconnect).trans strays⟩

theorem Closed.disconnectPort (closed : Closed extension) : extension.disconnectPort = extension := by
  unfold NativeExtension.disconnectPort
  rw [closed.port]

theorem Closed.not_current (closed : Closed extension) (listener : PortListener) :
    extension.isCurrent listener = false := by
  unfold NativeExtension.isCurrent
  rw [closed.port]
  exact Bool.and_false _

theorem Closed.not_connected (closed : Closed extension) : extension.client.state ≠ .connected := by
  intro state
  have ended := closed.state
  unfold NativeExtension.isLive at ended
  rw [state] at ended
  cases ended

theorem Closed.step (closed : Closed extension) (stepped : extension.next config label = some after)
    (connects : label ≠ .connect ∧ label ≠ .reconnect) : Closed after := by
  cases label with
  | connect => exact absurd rfl connects.1
  | reconnect => exact absurd rfl connects.2
  | stop reconnect =>
    cases stepped
    have timers : (NativeExtension.clearReconnectTimer config
        { extension with client := { extension.client with stopped := !reconnect } }).strayTimers = 0 := by
      unfold NativeExtension.clearReconnectTimer
      dsimp only
      rw [closed.timer, Bool.false_and, if_neg Bool.false_ne_true]
      exact closed.strays
    have cleared : Closed (NativeExtension.clearReconnectTimer config
        { extension with client := { extension.client with stopped := !reconnect } }) :=
      ⟨closed.live, closed.port, closed.state, closed.promise, rfl, timers⟩
    unfold NativeExtension.stop
    dsimp only
    rw [cleared.disconnectPort]
    exact ⟨closed.live, closed.port, not_live_of (.inr rfl), closed.promise, rfl, timers⟩
  | openPort returned =>
    unfold NativeExtension.next at stepped
    dsimp only at stepped
    rw [if_neg closed.promise] at stepped
    cases stepped
  | settle =>
    unfold NativeExtension.next at stepped
    dsimp only at stepped
    split at stepped
    next =>
      cases stepped
      exact ⟨closed.live, closed.port, closed.state, fun opening => (by cases opening), closed.timer, closed.strays⟩
    next => cases stepped
  | message index accepted =>
    obtain ⟨listener, _, rfl⟩ := Option.map_eq_some_iff.mp stepped
    unfold NativeExtension.handleIncoming
    rw [closed.not_current listener]
    exact closed
  | portDisconnected index =>
    obtain ⟨listener, _, rfl⟩ := Option.map_eq_some_iff.mp stepped
    have still : Closed { extension with live := extension.live.filter fun other => other != listener.port } := by
      refine ⟨?_, closed.port, closed.state, closed.promise, closed.timer, closed.strays⟩
      rw [closed.live]
      rfl
    unfold NativeExtension.handlePortDisconnect NativeExtension.handleDisconnect
    dsimp only
    rw [still.not_current listener]
    have state : (extension.client.state == .connected) = false := beq_eq_false_iff_ne.mpr closed.not_connected
    rw [state]
    exact still
  | portCloses port =>
    cases stepped
    refine ⟨?_, closed.port, closed.state, closed.promise, closed.timer, closed.strays⟩
    dsimp only
    rw [closed.live]
    rfl
  | postFails =>
    unfold NativeExtension.next at stepped
    dsimp only at stepped
    rw [if_neg closed.not_connected] at stepped
    cases stepped
  | timer =>
    unfold NativeExtension.next at stepped
    dsimp only at stepped
    rw [closed.timer] at stepped
    cases stepped
  | strayTimer =>
    unfold NativeExtension.next at stepped
    dsimp only at stepped
    rw [closed.strays] at stepped
    cases stepped

theorem handleDisconnect_stale {listener : PortListener} (stale : extension.isCurrent listener = false)
    (schedule : Bool) : extension.handleDisconnect config listener schedule = extension := by
  unfold NativeExtension.handleDisconnect
  rw [stale]
  rfl

theorem stale_unchanged (stepped : extension.next config label = some after)
    (stale : StaleEvent ⟨extension, label, after⟩) : after.client = extension.client := by
  cases label with
  | message index accepted =>
    obtain ⟨listener, found, guarded⟩ := stale
    have found : extension.listeners[index]? = some listener := found
    unfold NativeExtension.next at stepped
    dsimp only at stepped
    rw [found, Option.map_some] at stepped
    cases stepped
    unfold NativeExtension.handleIncoming
    rw [show extension.isCurrent listener = false from guarded]
    rfl
  | portDisconnected index =>
    obtain ⟨listener, found, guarded⟩ := stale
    have found : extension.listeners[index]? = some listener := found
    unfold NativeExtension.next at stepped
    dsimp only at stepped
    rw [found, Option.map_some] at stepped
    cases stepped
    have guarded : ({ extension with live := extension.live.filter fun other => other != listener.port } :
        NativeExtension).isCurrent listener = false := guarded
    unfold NativeExtension.handlePortDisconnect
    dsimp only
    rw [handleDisconnect_stale guarded]
    split
    next connected =>
      -- the client is connected to another port, and `connect` leaves that alone
      have state := beq_iff_eq.mp (Bool.and_eq_true_iff.mp (Bool.and_eq_true_iff.mp connected).1).1
      unfold NativeExtension.connect
      rw [if_pos]
      show NativeExtension.isLive _ = true
      unfold NativeExtension.isLive
      dsimp only
      rw [state]
    next => rfl
  | connect | stop | reconnect | openPort | settle | portCloses | postFails | timer | strayTimer => cases stale

end Endings

section Results

variable {last : NativeExtension} {trace : ExtensionTrace}

theorem careful_one_port (run : ExtensionRun config .started trace last)
    (careful : ∀ moment, moment ∈ trace -> StepCareful config moment) :
    OnePort last ∧ (config.clearTimeoutFn = true -> last.strayTimers = 0) := by
  induction run with
  | nil =>
    exact ⟨.of_closed rfl rfl fun opening => (by cases opening), fun _ => rfl⟩
  | step _ stepped ih =>
    obtain ⟨one, strays⟩ := ih fun moment inside => careful moment (List.mem_cons_of_mem _ inside)
    exact ⟨one.step stepped (careful _ List.mem_cons_self), fun clears => step_strays clears (strays clears) stepped⟩

theorem closed_stays (run : ExtensionRun config extension trace last) (closed : Closed extension)
    (connects : ∀ moment, moment ∈ trace -> moment.label ≠ .connect ∧ moment.label ≠ .reconnect) :
    Closed last :=
  run.keeps Closed closed fun moment inside stepped before => before.step stepped (connects moment inside)

/-- A client that is not stopped while it opens a port, and whose posts fail on dead ports only, has one
port at most, ignores the events of older ports, and is closed by `stop` until it is connected again. -/
theorem extension_keeps_one_port (run : ExtensionRun config .started trace last)
    (careful : ∀ moment, moment ∈ trace -> StepCareful config moment) :
    (last.live.length ≤ 1 ∧ ∀ port, port ∈ last.live -> last.client.port = some port) ∧
      (∀ moment, moment ∈ trace -> StaleEvent moment -> moment.after.client = moment.before.client) ∧
      ∀ later stop earlier reconnect, trace = later ++ stop :: earlier -> stop.label = .stop reconnect ->
        (∀ moment, moment ∈ later -> moment.label ≠ .connect ∧ moment.label ≠ .reconnect) -> Closed last := by
  have one := (careful_one_port run careful).1
  refine ⟨⟨one.single, one.own⟩, fun moment inside stale => ?_, ?_⟩
  · obtain ⟨_, _, _, stepped, _⟩ := run.at_moment inside
    exact stale_unchanged stepped stale
  · rintro later ⟨before, label, after⟩ earlier reconnect rfl stops connects
    cases show label = .stop reconnect from stops
    obtain ⟨early, stepped⟩ := run.before_moment
    have stopped : after = before.stop config reconnect := (Option.some.inj stepped).symm
    have care := careful _ (List.mem_append_right later List.mem_cons_self)
    obtain ⟨held, strays⟩ := careful_one_port early fun moment inside =>
      careful moment (List.mem_append_right later (List.mem_cons_of_mem _ inside))
    refine closed_stays run.after_moment ?_ connects
    rw [stopped]
    exact .of_stop held care.2 (strays care.2) care.1 reconnect

def chromeConfig : ClientConfig where
  autoReconnect := true
  connectNative := true
  setTimeoutFn := true
  clearTimeoutFn := true

def extensionStep (label : ExtensionLabel) (extension : NativeExtension) : Option NativeExtension :=
  extension.next chromeConfig label

/-- `stop` falls between `connect` and the microtask that opens the port. -/
theorem stopped_client_opens_port :
    ∃ later stop earlier last, ExtensionRun chromeConfig .started (later ++ stop :: earlier) last ∧
      stop.label = .stop false ∧
      (∀ moment, moment ∈ later -> moment.label ≠ .connect ∧ moment.label ≠ .reconnect) ∧
      last.live = [0] ∧ last.client.stopped = true := by
  have run := advance_run (rfl : advance extensionStep [.connect, .stop false, .openPort true] .started = some _)
  refine ⟨[_], _, [_], _, run, rfl, fun moment inside => ?_, rfl, rfl⟩
  cases List.mem_singleton.mp inside
  exact ⟨fun same => (by cases same), fun same => (by cases same)⟩

/-- No post fails, and `stop` finds no port being opened. -/
def undisturbed (moment : Moment NativeExtension ExtensionLabel) : Bool :=
  match moment.label with
  | .stop _ => moment.before.client.connectPromise != .opening
  | .postFails => false
  | _ => true

theorem undisturbed_careful {moment : Moment NativeExtension ExtensionLabel} (checked : undisturbed moment = true) :
    StepCareful chromeConfig moment := by
  obtain ⟨before, label, after⟩ := moment
  cases label with
  | stop reconnect => exact ⟨bne_iff_ne.mp checked, rfl⟩
  | postFails => cases checked
  | connect | reconnect | openPort | settle | message | portDisconnected | portCloses | timer | strayTimer =>
    exact trivial

theorem extension_keeps_one_port_sample :
    ∃ trace last, ExtensionRun chromeConfig .started trace last ∧ last.listeners.length = 1 ∧ Closed last := by
  have run := advance_run
    (rfl : advance extensionStep [.connect, .openPort true, .settle, .message 0 true, .stop false] .started = some _)
  have careful := visits_all extensionStep [.connect, .openPort true, .settle, .message 0 true, .stop false] .started
    undisturbed rfl
  have kept := extension_keeps_one_port run fun moment inside => undisturbed_careful (careful moment inside)
  exact ⟨_, _, run, rfl, kept.2.2 [] _ _ false rfl rfl fun moment inside => (by cases inside)⟩

end Results

end AgentycHost
