import AgentycHost.Effects.Sessions
import AgentycHost.Effects.Finishing
import AgentycHost.Safety.LeaseEpochs

set_option autoImplicit false

/-! # A ticket lives as long as its connection -/

namespace AgentycHost

open Shared

def AuthorityTicket.connection (ticket : AuthorityTicket) (isExtension : Bool) : ActiveConnection where
  principalId := ticket.principalId
  connectionNonce := ticket.connectionNonce
  profileBindingId := ticket.profileBindingId
  isExtension := isExtension

/-- The hello that returns the ticket. -/
def Issues (config : HostConfig) (request : Hello) (ticket : AuthorityTicket) (moment : Moment System Label) : Prop :=
  moment.label.2 = .hello request ∧
    (moment.before.commit config moment.label.1 (hello request moment.label.1.extensionEpochs)).2 = .ok ticket

/-- The steps that end the connection of a ticket, which an extension has or a client. -/
inductive EndsConnection (config : HostConfig) (isExtension : Bool) (ticket : AuthorityTicket)
    (moment : Moment System Label) : Prop where
  | restarted {failures : Nat} (made_by : moment.label.2 = .restart failures)
  | disconnected (made_by : moment.label.2 = .disconnect ticket)
      (done : step config moment.label.1 moment.label.2 moment.before = some (moment.after, .ok ()))
  | replaced {request : Hello} {other : AuthorityTicket} (extension : isExtension = true)
      (again : request.isExtension = true) (issues : Issues config request other moment)

/-- A hello returned the ticket and no step after it ended the connection. -/
def LiveTicket (config : HostConfig) (isExtension : Bool) (ticket : AuthorityTicket) : List (Moment System Label) -> Prop :=
  Since (fun moment => ∃ request, Issues config request ticket moment ∧ request.isExtension = isExtension)
    (EndsConnection config isExtension ticket)

structure Registered (config : HostConfig) (trace : List (Moment System Label)) (state : LedgerState) : Prop where
  numbered : ∀ epoch current, state.activeConnections.get? epoch = some current ->
    0 < epoch ∧ epoch ≤ state.connectionEpoch
  exact : ∀ ticket isExtension, LiveTicket config isExtension ticket trace <->
    ticket.brokerEpoch = state.brokerEpoch ∧
      state.activeConnections.get? ticket.connectionEpoch = some (ticket.connection isExtension)

structure Admits (request : Hello) (before : LedgerState) (ticket : AuthorityTicket) (after : LedgerState) : Prop where
  broker : ticket.brokerEpoch = before.brokerEpoch
  epoch : ticket.connectionEpoch = before.connectionEpoch + 1
  nonce : ticket.connectionNonce = request.connectionNonce
  fresh : request.connectionNonce ∉ before.usedConnectionNonces
  brokerEpoch : after.brokerEpoch = before.brokerEpoch
  connectionEpoch : after.connectionEpoch = before.connectionEpoch + 1
  nonces : after.usedConnectionNonces = request.connectionNonce :: before.usedConnectionNonces
  connections : ∀ epoch, after.activeConnections.get? epoch =
    if epoch = before.connectionEpoch + 1 then some (ticket.connection request.isExtension)
    else (before.activeConnections.get? epoch).filter fun current => !(request.isExtension && current.isExtension)

variable {config : HostConfig} {env : Environment} {request : Hello} {ticket : AuthorityTicket}
  {trace : List (Moment System Label)} {moment : Moment System Label}

theorem AuthorityTicket.of_connection {one other : AuthorityTicket} {first second : Bool}
    (broker : one.brokerEpoch = other.brokerEpoch) (epoch : one.connectionEpoch = other.connectionEpoch)
    (same : one.connection first = other.connection second) : one = other ∧ first = second := by
  obtain ⟨_, _, _, _, _⟩ := one
  obtain ⟨_, _, _, _, _⟩ := other
  simp only [AuthorityTicket.connection, ActiveConnection.mk.injEq] at same broker epoch
  obtain ⟨rfl, rfl, rfl, rfl⟩ := same
  exact ⟨by rw [broker, epoch], rfl⟩

section Transitions

variable {before after : LedgerState} {epochs : Option ExtensionEpochs} {state : LedgerState}

theorem admitExtension_kept (run : admitExtension before request epochs = .ok state) :
    state.brokerEpoch = before.brokerEpoch ∧ state.usedConnectionNonces = before.usedConnectionNonces ∧
      state.activeConnections = before.activeConnections.filter fun _ current => !current.isExtension := by
  cases epochs with
  | none =>
    simp only [admitExtension, bind_ok, pure_ok] at run
    obtain ⟨_, rfl, rfl⟩ := run
    exact ⟨rfl, rfl, rfl⟩
  | some epochs =>
    simp only [admitExtension, admitExtensionEpochs, bind_ok, pure_ok] at run
    obtain ⟨_, ⟨_, _, _, _, _, _, rfl⟩, rfl⟩ := run
    exact ⟨rfl, rfl, rfl⟩

theorem hello_admits (run : hello request epochs before = .ok (ticket, after)) : Admits request before ticket after := by
  cases extension : request.isExtension <;>
    simp only [hello, extension, bind_ok, pure_ok, require_ok, orElse_ok, checkedNext_eq_some, Prod.mk.injEq, if_true,
      Bool.false_eq_true, if_false, Bool.not_eq_true', List.contains_eq_mem, decide_eq_false_iff_not] at run
  · obtain ⟨_, fresh, _, ⟨_, rfl⟩, _, rfl, rfl, rfl⟩ := run
    refine ⟨rfl, rfl, rfl, fresh, rfl, rfl, rfl, fun epoch => ?_⟩
    rw [Table.get?_insert]
    split_ifs
    · simp [AuthorityTicket.connection, extension]
    · cases before.activeConnections.get? epoch <;> simp [extension, Option.filter]
  · obtain ⟨_, fresh, _, ⟨_, rfl⟩, _, admitted, rfl, rfl⟩ := run
    obtain ⟨broker, nonces, connections⟩ := admitExtension_kept admitted
    refine ⟨broker, rfl, rfl, fresh, broker, rfl, congrArg _ nonces, fun epoch => ?_⟩
    rw [Table.get?_insert]
    split_ifs
    · simp [AuthorityTicket.connection, extension]
    · rw [connections, Table.get?_filter]
      simp [extension]

theorem Admits.of_same {last : LedgerState} (same : SameConnections after last) (admits : Admits request before ticket after) :
    Admits request before ticket last where
  broker := admits.broker
  epoch := admits.epoch
  nonce := admits.nonce
  fresh := admits.fresh
  brokerEpoch := same.brokerEpoch.trans admits.brokerEpoch
  connectionEpoch := same.connectionEpoch.trans admits.connectionEpoch
  nonces := same.nonces.trans admits.nonces
  connections := same.connections ▸ admits.connections

theorem connectionMatches_iff {authority : AuthorityTicket} :
    connectionMatches state authority = true <->
      ∃ isExtension, state.activeConnections.get? authority.connectionEpoch = some (authority.connection isExtension) := by
  simp only [connectionMatches, Option.any_eq_true, Bool.and_eq_true, beq_iff_eq]
  constructor
  · rintro ⟨current, found, ⟨principal, nonce⟩, profile⟩
    refine ⟨current.isExtension, found.trans (congrArg some ?_)⟩
    obtain ⟨_, _, _, _⟩ := current
    subst principal nonce profile
    rfl
  · rintro ⟨isExtension, found⟩
    exact ⟨_, found, ⟨rfl, rfl⟩, rfl⟩

end Transitions

section Steps

variable {before after : System} {result : Except HostError Unit}

theorem hello_step (taken : step config env (.hello request) before = some (after, result)) :
    ((∃ error, (before.commit config env (hello request env.extensionEpochs)).2 = .error error) ∧
        after.ledger.state = before.ledger.state) ∨
      ∃ ticket, (before.commit config env (hello request env.extensionEpochs)).2 = .ok ticket ∧
        Admits request before.ledger.state ticket after.ledger.state := by
  have ledger : after.ledger = (before.commit config env (hello request env.extensionEpochs)).1.ledger := by
    simp only [step, sessionStep] at taken
    rw [replied taken, connect_ledger]
  rw [ledger]
  unfold System.commit
  rcases before.ledger.update_cases config.ledger env.io (hello request env.extensionEpochs) with
    ⟨error, failed⟩ | ⟨ticket, state, last, moved, drained, _, done | ⟨error, failed⟩⟩
  · rw [failed]
    exact .inl ⟨⟨error, rfl⟩, rfl⟩
  · rw [done]
    refine .inr ⟨ticket, rfl, ?_⟩
    dsimp only
    rw [drained]
    exact (hello_admits moved).of_same (.of_events (drainEvents_same _ _))
  · rw [failed]
    exact .inl ⟨⟨error, rfl⟩, rfl⟩

theorem disconnect_step {authority : AuthorityTicket}
    (taken : step config env (.disconnect authority) before = some (after, result)) :
    ((∃ error, result = .error error) ∧ after.ledger.state = before.ledger.state) ∨
      result = .ok () ∧ ∃ state, disconnect authority before.ledger.state = .ok ((), state) ∧
        SameConnections state after.ledger.state := by
  simp only [step, sessionStep, Option.some.injEq] at taken
  unfold System.done System.commit at taken
  rcases before.ledger.update_cases config.ledger env.io (disconnect authority) with
    ⟨error, failed⟩ | ⟨_, state, last, moved, drained, _, done | ⟨error, failed⟩⟩
  · rw [failed] at taken
    cases taken
    exact .inl ⟨⟨error, rfl⟩, rfl⟩
  · rw [done] at taken
    cases taken
    refine .inr ⟨rfl, state, moved, ?_⟩
    dsimp only
    rw [drained]
    exact .of_events (drainEvents_same _ _)
  · rw [failed] at taken
    cases taken
    exact .inl ⟨⟨error, rfl⟩, rfl⟩

end Steps

section Invariant

theorem Registered.keep (registered : Registered config trace moment.before.ledger.state)
    (issues : ∀ request ticket, ¬ Issues config request ticket moment)
    (ends : ∀ isExtension ticket, ¬ EndsConnection config isExtension ticket moment)
    (same : SameConnections moment.before.ledger.state moment.after.ledger.state) :
    Registered config (moment :: trace) moment.after.ledger.state := by
  constructor
  · intro epoch current found
    rw [same.connections] at found
    rw [same.connectionEpoch]
    exact registered.numbered epoch current found
  · intro ticket isExtension
    rw [LiveTicket, since_cons, same.brokerEpoch, same.connections, ← registered.exact ticket isExtension]
    constructor
    · rintro (⟨request, issued, _⟩ | ⟨live, _⟩)
      · exact absurd issued (issues request ticket)
      · exact live
    · intro live
      exact .inr ⟨live, ends isExtension ticket⟩

theorem Registered.join (registered : Registered config trace moment.before.ledger.state) (issued : Issues config request ticket moment)
    (admits : Admits request moment.before.ledger.state ticket moment.after.ledger.state) :
    Registered config (moment :: trace) moment.after.ledger.state := by
  constructor
  · intro epoch current found
    rw [admits.connections] at found
    rw [admits.connectionEpoch]
    split_ifs at found with here
    · rw [here]
      exact ⟨Nat.succ_pos _, Nat.le_refl _⟩
    · obtain ⟨found, _⟩ := Option.filter_eq_some_iff.mp found
      obtain ⟨positive, bounded⟩ := registered.numbered epoch current found
      exact ⟨positive, Nat.le_succ_of_le bounded⟩
  · intro other isExtension
    have issues : (∃ again, Issues config again other moment ∧ again.isExtension = isExtension) <->
        other = ticket ∧ request.isExtension = isExtension := by
      constructor
      · rintro ⟨again, ⟨made_by, returned⟩, role⟩
        obtain rfl : request = again := Command.hello.inj (issued.1.symm.trans made_by)
        exact ⟨Except.ok.inj (returned.symm.trans issued.2), role⟩
      · rintro ⟨rfl, role⟩
        exact ⟨request, issued, role⟩
    have ends : EndsConnection config isExtension other moment <-> isExtension = true ∧ request.isExtension = true := by
      constructor
      · rintro (made_by | made_by | ⟨extension, again, other⟩)
        · cases issued.1.symm.trans made_by
        · cases issued.1.symm.trans made_by
        · obtain rfl := Command.hello.inj (issued.1.symm.trans other.1)
          exact ⟨extension, again⟩
      · rintro ⟨extension, again⟩
        exact .replaced extension again issued
    rw [LiveTicket, since_cons, issues, ends, ← LiveTicket, registered.exact, admits.brokerEpoch, admits.connections]
    by_cases here : other.connectionEpoch = moment.before.ledger.state.connectionEpoch + 1
    · rw [if_pos here]
      -- the epoch is a new one, so no earlier connection has it
      have unused : moment.before.ledger.state.activeConnections.get? other.connectionEpoch = none := by
        rw [Option.eq_none_iff_forall_ne_some]
        intro current found
        have bounded := (registered.numbered _ current found).2
        rw [here] at bounded
        exact absurd bounded (Nat.not_succ_le_self _)
      rw [unused]
      constructor
      · rintro (⟨rfl, rfl⟩ | ⟨⟨_, impossible⟩, _⟩)
        · exact ⟨admits.broker, rfl⟩
        · cases impossible
      · rintro ⟨broker, same⟩
        obtain ⟨rfl, role⟩ := AuthorityTicket.of_connection (broker.trans admits.broker.symm) (here.trans admits.epoch.symm)
          (Option.some.inj same).symm
        exact .inl ⟨rfl, role.symm⟩
    · rw [if_neg here, Option.filter_eq_some_iff]
      have distinct : other ≠ ticket := by
        rintro rfl
        exact here admits.epoch
      cases isExtension <;> cases request.isExtension <;> simp [distinct, AuthorityTicket.connection]

theorem Registered.leave {authority : AuthorityTicket} (registered : Registered config trace moment.before.ledger.state)
    (made_by : moment.label.2 = .disconnect authority)
    (done : step config moment.label.1 moment.label.2 moment.before = some (moment.after, .ok ())) {state : LedgerState}
    (moved : disconnect authority moment.before.ledger.state = .ok ((), state))
    (same : SameConnections state moment.after.ledger.state) :
    Registered config (moment :: trace) moment.after.ledger.state := by
  have ends : ∀ ticket isExtension, EndsConnection config isExtension ticket moment <-> ticket = authority := by
    intro ticket isExtension
    constructor
    · rintro (other | ⟨other, _⟩ | ⟨_, _, other, _⟩)
      · cases made_by.symm.trans other
      · exact (Command.disconnect.inj (made_by.symm.trans other)).symm
      · cases made_by.symm.trans other
    · rintro rfl
      exact .disconnected made_by done
  have issues : ∀ ticket isExtension,
      ¬ ∃ request, Issues config request ticket moment ∧ request.isExtension = isExtension := by
    rintro ticket isExtension ⟨request, ⟨other, _⟩, _⟩
    cases made_by.symm.trans other
  unfold disconnect at moved
  split_ifs at moved with matched
  · cases moved
    obtain ⟨broker, isAuthority⟩ := matched
    obtain ⟨role, registry⟩ := connectionMatches_iff.mp isAuthority
    constructor
    · intro epoch current found
      rw [same.connections, Table.get?_erase] at found
      split_ifs at found
      rw [same.connectionEpoch]
      exact registered.numbered epoch current found
    · intro ticket isExtension
      rw [LiveTicket, since_cons, or_iff_right (issues _ _), ends, ← LiveTicket, registered.exact, same.brokerEpoch,
        same.connections, Table.get?_erase]
      by_cases here : ticket.connectionEpoch = authority.connectionEpoch
      · -- the connection at this epoch is the authority's own
        rw [if_pos here, here, registry]
        constructor
        · rintro ⟨⟨same, there⟩, other⟩
          obtain ⟨own, _⟩ := AuthorityTicket.of_connection (same.trans broker.symm) here (Option.some.inj there).symm
          exact absurd own other
        · rintro ⟨_, impossible⟩
          cases impossible
      · rw [if_neg here]
        exact and_iff_left fun own => here (own ▸ rfl)
  · cases moved
    constructor
    · intro epoch current found
      rw [same.connections] at found
      rw [same.connectionEpoch]
      exact registered.numbered epoch current found
    · intro ticket isExtension
      rw [LiveTicket, since_cons, or_iff_right (issues _ _), ends, ← LiveTicket, registered.exact, same.brokerEpoch,
        same.connections]
      refine and_iff_left_of_imp ?_
      rintro ⟨broker, there⟩ rfl
      exact matched ⟨broker, connectionMatches_iff.mpr ⟨isExtension, there⟩⟩

end Invariant

section Runs

variable {start last : System} {after before : LedgerState}

theorem openLedger_connections {disk state : LedgerState} (opened : openLedger config.ledger disk = .ok state) :
    state.activeConnections = ∅ := by
  rw [openLedger_ok opened]
  rfl

theorem Registered.restart {failures : Nat} (made_by : moment.label.2 = .restart failures)
    (emptied : moment.after.ledger.state.activeConnections = ∅) :
    Registered config (moment :: trace) moment.after.ledger.state := by
  constructor
  · intro epoch current found
    simp [emptied] at found
  · intro ticket isExtension
    rw [LiveTicket, since_cons, emptied]
    constructor
    · rintro (⟨_, ⟨other, _⟩, _⟩ | ⟨_, open_⟩)
      · cases made_by.symm.trans other
      · exact absurd (.restarted made_by) open_
    · rintro ⟨_, impossible⟩
      simp at impossible

theorem Registered.step (registered : Registered config trace moment.before.ledger.state)
    (taken : next config moment.label moment.before = some moment.after) :
    Registered config (moment :: trace) moment.after.ledger.state := by
  obtain ⟨result, replied⟩ := next_step taken
  by_cases greets : ∃ request, moment.label.2 = .hello request
  · obtain ⟨request, made_by⟩ := greets
    have step_taken := replied
    rw [made_by] at step_taken
    rcases hello_step step_taken with ⟨⟨error, failed⟩, same⟩ | ⟨ticket, returned, admits⟩
    · have silent : ∀ again ticket, ¬ Issues config again ticket moment := by
        rintro again ticket ⟨other, returned⟩
        obtain rfl := Command.hello.inj (made_by.symm.trans other)
        cases failed.symm.trans returned
      refine registered.keep silent ?_ (same ▸ .refl _)
      rintro isExtension ticket (other | other | ⟨_, _, issues⟩)
      · cases made_by.symm.trans other
      · cases made_by.symm.trans other
      · exact silent _ _ issues
    · exact registered.join ⟨made_by, returned⟩ admits
  · have silent : ∀ request ticket, ¬ Issues config request ticket moment :=
      fun request _ issues => greets ⟨request, issues.1⟩
    by_cases leaves : ∃ authority, moment.label.2 = .disconnect authority
    · obtain ⟨authority, made_by⟩ := leaves
      have step_taken := replied
      rw [made_by] at step_taken
      rcases disconnect_step step_taken with ⟨⟨error, rfl⟩, same⟩ | ⟨rfl, state, moved, same⟩
      · refine registered.keep silent ?_ (same ▸ .refl _)
        rintro isExtension ticket (other | ⟨_, done⟩ | ⟨_, _, issues⟩)
        · cases made_by.symm.trans other
        · cases done.symm.trans replied
        · exact silent _ _ issues
      · exact registered.leave made_by replied moved same
    by_cases restarts : ∃ failures, moment.label.2 = .restart failures
    · obtain ⟨failures, made_by⟩ := restarts
      rw [made_by] at replied
      obtain ⟨state, opened, changed⟩ := restart_cases replied
      obtain ⟨disk, opened⟩ := reopenLedger_last opened
      refine .restart made_by ?_
      rw [changed]
      exact openLedger_connections opened
    · refine registered.keep silent ?_ ?_
      · rintro isExtension ticket (other | other | ⟨_, _, issues⟩)
        · exact restarts ⟨_, other⟩
        · exact leaves ⟨_, other⟩
        · exact silent _ _ issues
      · rcases next_ledger taken with moved | ⟨failures, _, other, _⟩
        · generalize moment.after.ledger = ledger at moved
          cases moved with
          | same => exact .refl _
          | written => exact .refl _
          | committed made =>
            rcases made.connections with same | ⟨other, _, _⟩ | ⟨other, _, _⟩
            · exact same
            · exact absurd ⟨_, other⟩ greets
            · exact absurd ⟨_, other⟩ leaves
        · exact absurd ⟨failures, other⟩ restarts

theorem HostRun.registered (run : HostRun config start trace last) (initial : Initial config start) :
    Registered config trace last.ledger.state := by
  induction run with
  | nil =>
    obtain ⟨rfl, _⟩ := initial
    constructor
    · intro epoch current found
      simp [System.fresh, System.opened, LedgerState.new] at found
    · intro ticket isExtension
      refine iff_of_false since_nil ?_
      rintro ⟨_, impossible⟩
      simp [System.fresh, System.opened, LedgerState.new] at impossible
  | step _ taken ih => exact ih.step taken

structure ConnectionsLater (before after : LedgerState) : Prop where
  broker : before.brokerEpoch ≤ after.brokerEpoch
  epoch : after.brokerEpoch = before.brokerEpoch -> before.connectionEpoch ≤ after.connectionEpoch
  nonces : after.brokerEpoch = before.brokerEpoch -> ∀ nonce, nonce ∈ before.usedConnectionNonces ->
    nonce ∈ after.usedConnectionNonces

theorem SameConnections.later (same : SameConnections before after) :
    ConnectionsLater before after :=
  ⟨Nat.le_of_eq same.brokerEpoch.symm, fun _ => Nat.le_of_eq same.connectionEpoch.symm,
    fun _ _ inside => same.nonces ▸ inside⟩

theorem Admits.later (admits : Admits request before ticket after) :
    ConnectionsLater before after := by
  refine ⟨Nat.le_of_eq admits.brokerEpoch.symm, fun _ => ?_, fun _ nonce inside => ?_⟩
  · rw [admits.connectionEpoch]
    exact Nat.le_succ _
  · rw [admits.nonces]
    exact List.mem_cons_of_mem _ inside

theorem disconnect_later {authority : AuthorityTicket} (run : disconnect authority before = .ok ((), after)) :
    ConnectionsLater before after := by
  unfold disconnect at run
  split_ifs at run <;> (cases run; exact ⟨Nat.le_refl _, fun _ => Nat.le_refl _, fun _ _ => id⟩)

theorem ConnectionsLater.of_same {middle : LedgerState} (later : ConnectionsLater before middle)
    (same : SameConnections middle after) : ConnectionsLater before after := by
  obtain ⟨broker, epoch, nonces⟩ := later
  rw [← same.brokerEpoch] at broker epoch nonces
  exact ⟨broker, same.connectionEpoch ▸ epoch, same.nonces ▸ nonces⟩

theorem next_connections (sound : Sound config.ledger moment.before.ledger)
    (taken : next config moment.label moment.before = some moment.after) :
    ConnectionsLater moment.before.ledger.state moment.after.ledger.state := by
  rcases next_ledger taken with moved | ⟨failures, state, _, opened, changed⟩
  · generalize moment.after.ledger = ledger at moved
    cases moved with
    | same => exact (SameConnections.refl _).later
    | written => exact (SameConnections.refl _).later
    | committed made =>
      rcases made.connections with same | ⟨_, run, same⟩ | ⟨_, run, same⟩
      · exact same.later
      · exact ((hello_admits run).of_same same).later
      · exact (disconnect_later run).of_same same
  · have raised := sound.restarted opened
    rw [changed]
    exact ⟨Nat.le_of_lt raised, fun same => absurd same (Nat.ne_of_gt raised), fun same => absurd same (Nat.ne_of_gt raised)⟩

def IssuedUsed (config : HostConfig) (trace : List (Moment System Label)) (state : LedgerState) : Prop :=
  ∀ moment request ticket, moment ∈ trace -> Issues config request ticket moment ->
    ticket.brokerEpoch ≤ state.brokerEpoch ∧ (ticket.brokerEpoch = state.brokerEpoch ->
      ticket.connectionEpoch ≤ state.connectionEpoch ∧ ticket.connectionNonce ∈ state.usedConnectionNonces)

theorem IssuedUsed.later (used : IssuedUsed config trace before) (later : ConnectionsLater before after) :
    IssuedUsed config trace after := by
  intro moment request ticket inside issues
  obtain ⟨bounded, counted⟩ := used moment request ticket inside issues
  refine ⟨Nat.le_trans bounded later.broker, fun same => ?_⟩
  have unmoved : after.brokerEpoch = before.brokerEpoch := Nat.le_antisymm (same ▸ bounded) later.broker
  obtain ⟨epoch, nonce⟩ := counted (same.trans unmoved)
  exact ⟨Nat.le_trans epoch (later.epoch unmoved), later.nonces unmoved _ nonce⟩

theorem Issues.admits (issues : Issues config request ticket moment)
    (taken : next config moment.label moment.before = some moment.after) :
    Admits request moment.before.ledger.state ticket moment.after.ledger.state := by
  obtain ⟨result, replied⟩ := next_step taken
  obtain ⟨made_by, returned⟩ := issues
  rw [made_by] at replied
  rcases hello_step replied with ⟨⟨_, failed⟩, _⟩ | ⟨again, accepted, admits⟩
  · cases failed.symm.trans returned
  · obtain rfl := Except.ok.inj (accepted.symm.trans returned)
    exact admits

theorem HostRun.issuedUsed (run : HostRun config start trace last) (initial : Initial config start) :
    IssuedUsed config trace last.ledger.state := by
  induction run with
  | nil => exact fun _ _ _ inside => absurd inside List.not_mem_nil
  | @step trace before after label earlier taken ih =>
    intro moment request ticket inside issues
    rcases List.mem_cons.mp inside with rfl | inside
    · have admits := issues.admits taken
      refine ⟨Nat.le_of_eq (admits.broker.trans admits.brokerEpoch.symm), fun _ => ⟨?_, ?_⟩⟩
      · exact Nat.le_of_eq (admits.epoch.trans admits.connectionEpoch.symm)
      · rw [admits.nonces, admits.nonce]
        exact List.mem_cons_self
    · have later : ConnectionsLater before.ledger.state after.ledger.state :=
        @next_connections config ⟨before, label, after⟩ (HostRun.sound earlier initial) taken
      exact ih.later later moment request ticket inside issues

/-- Along every run the tickets of one broker have different nonces and connection epochs, and a ticket
is accepted exactly when a hello returned it and neither a disconnect of it, nor a newer extension in
its place, nor a restart came after. -/
theorem tickets_live_with_their_connections (initial : Initial config start) (run : HostRun config start trace last) :
    (∀ later second between first earlier again other request one,
      trace = later ++ second :: (between ++ first :: earlier) -> Issues config request one first ->
      Issues config again other second -> one.brokerEpoch = other.brokerEpoch ->
      one.connectionNonce ≠ other.connectionNonce ∧ one.connectionEpoch ≠ other.connectionEpoch) ∧
    (∀ ticket, authorizeTicket last.ledger.state ticket = .ok () <->
      ∃ isExtension, LiveTicket config isExtension ticket trace) := by
  constructor
  · rintro later second between first earlier again other request one rfl issued reissued same
    obtain ⟨middle, taken⟩ := run.before_moment
    have admits := reissued.admits taken
    have used := HostRun.issuedUsed middle initial first request one (by simp) issued
    obtain ⟨epoch, nonce⟩ := used.2 (same.trans admits.broker)
    constructor
    · intro equal
      rw [equal, admits.nonce] at nonce
      exact admits.fresh nonce
    · intro equal
      rw [equal, admits.epoch] at epoch
      exact absurd epoch (Nat.not_succ_le_self _)
  · intro ticket
    have registered := HostRun.registered run initial
    simp only [authorizeTicket, authorityIsCurrent, bind_ok, require_ok, Bool.and_eq_true, beq_iff_eq, Bool.not_eq_true',
      beq_eq_false_iff_ne, ne_eq, connectionMatches_iff, registered.exact]
    constructor
    · rintro ⟨_, broker, _, isExtension, there⟩
      exact ⟨isExtension, broker, there⟩
    · rintro ⟨isExtension, broker, there⟩
      have positive := (registered.numbered _ _ there).1
      exact ⟨(), broker, ⟨⟨broker, Nat.ne_of_gt positive⟩, isExtension, there⟩⟩

/-- The first ticket is accepted until its connection ends. -/
theorem tickets_live_with_their_connections_once :
    ∃ middle last : System, authorizeTicket middle.ledger.state sampleTicket = .ok () ∧
      authorizeTicket last.ledger.state sampleTicket ≠ .ok () ∧
      (∃ trace isExtension, HostRun sampleConfig (.fresh sampleConfig) trace middle ∧
        LiveTicket sampleConfig isExtension sampleTicket trace) ∧
      ∃ trace, HostRun sampleConfig (.fresh sampleConfig) trace last ∧
        ∀ isExtension, ¬ LiveTicket sampleConfig isExtension sampleTicket trace := by
  obtain ⟨middle, last, later, early, late, passed⟩ := HostRun.of_advances sampleConfig (.fresh sampleConfig)
    sampleStart [(sampleEnv, .disconnect sampleTicket)]
    (fun middle last _ => (authorizeTicket middle.ledger.state sampleTicket).toBool &&
      !(authorizeTicket last.ledger.state sampleTicket).toBool) (by decide)
  rw [Bool.and_eq_true, toBool_ok, Bool.not_eq_true', ← Bool.not_eq_true, toBool_ok] at passed
  obtain ⟨accepted, refused⟩ := passed
  have whole := early.append late
  obtain ⟨isExtension, live⟩ := ((tickets_live_with_their_connections sample_initial early).2 sampleTicket).mp accepted
  have ended := (tickets_live_with_their_connections sample_initial whole).2 sampleTicket
  exact ⟨middle, last, accepted, refused, ⟨_, isExtension, early, live⟩, _, whole,
    fun isExtension live => refused (ended.mpr ⟨isExtension, live⟩)⟩

end Runs

end AgentycHost
