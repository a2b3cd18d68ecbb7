import AgentycHost.Effects.Companions
import AgentycHost.Effects.Finishing
import AgentycHost.Safety.LeaseEpochs
import AgentycHost.System.Dispatch

set_option autoImplicit false

/-! # A user gives a space back by its ticket -/

namespace AgentycHost

open Shared

/-- What the bearer of a stored ticket presents. -/
def ControlTicketRecord.ticket (record : ControlTicketRecord) : ControlTicket where
  spaceId := record.spaceId
  brokerEpoch := record.brokerEpoch
  fenceEpoch := record.fenceEpoch
  token := record.token

def UserOwns (state : LedgerState) (spaceId : SpaceId) : Prop :=
  ∃ standing, state.standing spaceId = some standing ∧ standing.lifecycle = .userOwned

variable {config : LedgerConfig} {calls : Table Nat Call} {command : Command} {before after disk state : LedgerState}
  {spaceId : SpaceId} {record : ControlTicketRecord} {authority : AuthorityTicket} {leaseEpoch : LeaseEpoch}
  {now : Timestamp} {mutation : Bool} {new old : Standing} {epoch : LeaseEpoch}

theorem Valid.user_lease {space : SpaceDescriptor} (valid : Valid config state)
    (located : state.spaces.get? spaceId = some space) (lifecycle : space.lifecycle = .userOwned) :
    leaseStateIn space.lease [.released] = true ∧ state.controlTickets.contains spaceId = true := by
  have matched := valid.matches_lease located
  simpa only [lifecycleMatchesLease, lifecycle, Bool.and_eq_true] using matched

theorem Valid.ticketed (valid : Valid config state) (user : UserOwns state spaceId) :
    ∃ record, state.controlTickets.get? spaceId = some record := by
  obtain ⟨standing, found, lifecycle⟩ := user
  obtain ⟨space, located, rfl⟩ := Option.map_eq_some_iff.mp found
  exact (Table.contains_iff _ _).mp (valid.user_lease located lifecycle).2

theorem Valid.ticket_owner (valid : Valid config state) (stored : state.controlTickets.get? spaceId = some record) :
    record.spaceId = spaceId ∧ record.brokerEpoch = state.brokerEpoch ∧ ∃ standing,
      state.standing spaceId = some standing ∧ standing.lifecycle = .userOwned ∧ standing.epoch = record.fenceEpoch := by
  have tickets := (valid_iff.mp valid).controlTickets
  rw [validateControlTickets, require_ok, Table.all_eq_true] at tickets
  have matched := tickets spaceId record stored
  simp only [controlTicketMatches, Bool.and_eq_true, Option.any_eq_true, beq_iff_eq] at matched
  obtain ⟨⟨named, broker⟩, space, located, user, lease, leased, epoch⟩ := matched
  refine ⟨named, broker, _, standing_some located, user, ?_⟩
  simp [Standing.epoch, SpaceDescriptor.standing, leased, epoch]

theorem Valid.user_owns (valid : Valid config state) (stored : state.controlTickets.get? spaceId = some record) :
    UserOwns state spaceId := by
  obtain ⟨_, _, standing, found, user, _⟩ := valid.ticket_owner stored
  exact ⟨standing, found, user⟩

theorem Presents.exact {ticket : ControlTicket} (valid : Valid config state)
    (presented : Presents state spaceId ticket record) : record.ticket = ticket := by
  obtain ⟨stored, token, inside, broker, standing, found, epoch⟩ := presented
  obtain ⟨named, stamped, owner, located, _, owned⟩ := valid.ticket_owner stored
  obtain rfl : owner = standing := Option.some.inj (located.symm.trans found)
  obtain ⟨_, _, _, _⟩ := ticket
  subst token inside broker epoch
  simp [ControlTicketRecord.ticket, named, stamped, owned]

theorem LedgerStep.keeps_user (valid : Valid config before) (taken : LedgerStep config calls command before after)
    (user : UserOwns before spaceId) :
    UserOwns after spaceId ∨
      (∃ call authority ticket now ttl record,
        command = .takeoverWithControlTicket call spaceId authority ticket now ttl ∧
        Presents before spaceId ticket record) ∧
      ∃ standing, after.standing spaceId = some standing ∧ standing.lifecycle = .fencePending := by
  obtain ⟨record, stored⟩ := valid.ticketed user
  have held : (before.companions spaceId).ticket = some record := stored
  -- every other move keeps a ticket, and the validator lets no ticket outlive the user's control
  have kept : ∀ (records : Companions) (record : ControlTicketRecord), after.companions spaceId = records ->
      records.ticket = some record -> UserOwns after spaceId := by
    intro records record changed same
    exact taken.valid.user_owns ((congrArg Companions.ticket changed).trans same)
  have move := taken.companions spaceId
  generalize changed : after.companions spaceId = records at move
  cases move with
  | keep => exact .inl (kept _ _ changed held)
  | fenced => exact .inl (kept _ _ changed held)
  | ticketed made_by presented =>
    have waiting := congrArg Companions.pending changed
    obtain ⟨space, located, fenced⟩ := taken.valid.pendingFence waiting
    exact .inr ⟨⟨_, _, _, _, _, _, made_by, presented⟩, _, standing_some located, fenced⟩
  | acknowledged => exact .inl (kept _ _ changed held)
  | returned next => exact .inl (kept _ next changed rfl)
  | left => exact .inl (kept _ _ changed held)

theorem StandingMove.fences_user {queue : List ActionId}
    (move : StandingMove calls command before queue spaceId (some old) (some new)) (user : old.lifecycle = .userOwned)
    (fenced : new.lifecycle = .fencePending) : new.epoch = old.epoch + 1 := by
  generalize first : some old = one at move
  generalize second : some new = other at move
  cases move with
  | ticketed _ epoch =>
    cases first
    cases second
    simpa [Standing.epoch] using epoch
  | keep =>
    obtain rfl : old = new := Option.some.inj (first.trans second.symm)
    simp [user] at fenced
  | renewed _ open_ =>
    cases first
    simp [user] at open_
  | suspended owned =>
    cases first
    simp [user] at owned
  | finished _ open_ =>
    cases first
    simp [user, SpaceLifecycle.finishable] at open_
  | fenced notUser =>
    cases first
    exact absurd user notUser
  | _ =>
    cases second
    try cases fenced

theorem openLedger_keeps_user (opened : openLedger config disk = .ok state) (user : UserOwns disk spaceId) :
    UserOwns state spaceId := by
  obtain ⟨standing, found, lifecycle⟩ := user
  refine ⟨standing.recover, ?_, ?_⟩
  · rw [openLedger_standing opened, found, Option.map_some]
  · simp [Standing.recover, lifecycle, isLostByRestart]

def PastUser (spaceId : SpaceId) (epoch : LeaseEpoch) (state : LedgerState) : Prop :=
  ∀ standing, state.standing spaceId = some standing ->
    standing.lifecycle = .userOwned ∧ standing.epoch = epoch ∨ epoch < standing.epoch

theorem StandingLater.epoch_le {sameBroker : Prop} (later : StandingLater sameBroker (some old) (some new)) :
    old.epoch ≤ new.epoch := by
  cases later with
  | advanced grown => exact Nat.le_of_lt grown
  | vacated same => exact Nat.le_of_eq same.symm
  | held same => exact Nat.le_of_eq same.symm

theorem LedgerStep.keeps_past (valid : Valid config before) (taken : LedgerStep config calls command before after)
    (numbered : spaceId.number ≤ before.nextSpaceNumber) (past : PastUser spaceId epoch before) :
    PastUser spaceId epoch after := by
  intro standing found
  have later := (taken.later valid).standing spaceId numbered
  have move := (taken.spaceEffect valid).standing spaceId
  rw [found] at later move
  cases present : before.standing spaceId with
  | none =>
    rw [present] at later
    cases later
  | some old =>
    rw [present] at later move
    rcases past old present with ⟨user, rfl⟩ | grown
    · rcases taken.keeps_user valid ⟨old, present, user⟩ with ⟨again, located, still⟩ | ⟨_, again, located, fenced⟩
      · obtain rfl : again = standing := Option.some.inj (located.symm.trans found)
        rcases Nat.lt_or_eq_of_le later.epoch_le with grown | same
        · exact .inr grown
        · exact .inl ⟨still, same.symm⟩
      · obtain rfl : again = standing := Option.some.inj (located.symm.trans found)
        rw [move.fences_user user fenced]
        exact .inr (Nat.lt_succ_self _)
    · exact .inr (Nat.lt_of_lt_of_le grown later.epoch_le)

theorem openLedger_keeps_past (opened : openLedger config disk = .ok state) (past : PastUser spaceId epoch disk) :
    PastUser spaceId epoch state := by
  intro standing found
  rw [openLedger_standing opened, Option.map_eq_some_iff] at found
  obtain ⟨old, present, rfl⟩ := found
  rw [Standing.recover_epoch]
  rcases past old present with ⟨user, same⟩ | grown
  · exact .inl ⟨by simp [Standing.recover, user, isLostByRestart], same⟩
  · exact .inr grown

section Refusals

/-- No claim on a space that its user controls passes, whoever makes it and whatever it is for. -/
structure Refuses (state : LedgerState) (spaceId : SpaceId) : Prop where
  space : ∀ authority leaseEpoch now mutation, authorizeSpace state spaceId authority leaseEpoch now mutation ≠ .ok ()
  page : ∀ pageId authority leaseEpoch now mutation generation,
    authorizePage state spaceId pageId authority leaseEpoch now mutation ≠ .ok generation
  finish : ∀ authority leaseEpoch now allowDraining,
    authorizeFinishClaim state spaceId authority leaseEpoch now allowDraining ≠ .ok ()
  cleanup : ∀ proof authority leaseEpoch now,
    authorizeCleanupPage state spaceId proof authority leaseEpoch now ≠ .ok ()
  release : ∀ authority leaseEpoch, authorizeReleaseClaim state spaceId authority leaseEpoch ≠ .ok ()
  reconcile : ∀ actionId authority leaseEpoch now receipt, receipt.spaceId = spaceId ->
    authorizeReconciliationAuthority state actionId authority leaseEpoch now ≠ .ok receipt
  acquire : ∀ authority now expiresAt renewBy lease next,
    acquireLease spaceId authority now expiresAt renewBy state ≠ .ok (lease, next)
  takeover : ∀ authority now expiresAt renewBy request next,
    takeover spaceId authority now expiresAt renewBy state ≠ .ok (request, next)

theorem UserOwns.refuses (valid : Valid config state) (user : UserOwns state spaceId) : Refuses state spaceId := by
  obtain ⟨standing, found, lifecycle⟩ := user
  obtain ⟨space, located, rfl⟩ := Option.map_eq_some_iff.mp found
  change space.lifecycle = .userOwned at lifecycle
  have spaces : ∀ authority leaseEpoch now mutation,
      authorizeSpace state spaceId authority leaseEpoch now mutation ≠ .ok () := by
    intro authority leaseEpoch now mutation allowed
    obtain ⟨again, _, authorized⟩ := authorizeSpace_ok.mp allowed
    obtain rfl : again = space := Option.some.inj (authorized.found.symm.trans located)
    exact authorized.notUserOwned lifecycle
  have finish : ∀ authority leaseEpoch now allowDraining,
      authorizeFinishClaim state spaceId authority leaseEpoch now allowDraining ≠ .ok () := by
    intro authority leaseEpoch now allowDraining allowed
    simp [authorizeFinishClaim, bind_ok, require_ok, orElse_ok, findSpace_ok, located, lifecycle] at allowed
  refine ⟨spaces, ?_, finish, ?_, ?_, ?_, ?_, ?_⟩
  · intro pageId authority leaseEpoch now mutation generation allowed
    simp only [authorizePage, bind_ok] at allowed
    obtain ⟨_, inside, _⟩ := allowed
    exact spaces _ _ _ _ inside
  · intro proof authority leaseEpoch now allowed
    simp only [authorizeCleanupPage, bind_ok] at allowed
    obtain ⟨_, claimed, _⟩ := allowed
    exact finish _ _ _ _ claimed
  · intro authority leaseEpoch allowed
    simp [authorizeReleaseClaim, bind_ok, require_ok, orElse_ok, findSpace_ok, located, lifecycle] at allowed
  · intro actionId authority leaseEpoch now receipt inside allowed
    simp only [authorizeReconciliationAuthority, bind_ok, pure_ok, require_ok, orElse_ok, findSpace_ok,
      Bool.and_eq_true] at allowed
    obtain ⟨_, _, stored, _, _, _, _, _, again, there, _, ⟨admits, _⟩, _, _, _, _, _, _, _, _, _, _, _, _, same⟩ := allowed
    rw [same, inside] at there
    obtain rfl : again = space := Option.some.inj (there.symm.trans located)
    simp [SpaceLifecycle.admitsMutations, lifecycle] at admits
  · intro authority now expiresAt renewBy lease next granted
    have released := (valid.user_lease located lifecycle).1
    have idle : (space.lease.filter fun lease => lease.state == .active && decide (now < lease.expiresAt)) = none := by
      cases leased : space.lease with
      | none => rfl
      | some lease =>
        simp only [leaseStateIn, leased, Option.any_some, List.contains_cons, List.contains_nil, Bool.or_false,
          beq_iff_eq] at released
        simp [Option.filter, released]
    simp [acquireLease, bind_ok, require_ok, orElse_ok, findSpace_ok, located, lifecycle, idle] at granted
  · intro authority now expiresAt renewBy request next taken
    obtain ⟨again, _, _, _, _, found, _, notUser, _⟩ := takeover_ok taken
    obtain rfl : again = space := Option.some.inj (found.symm.trans located)
    exact notUser lifecycle

end Refusals

section Runs

variable {config : HostConfig} {start last : System} {trace : List (Moment System Label)} {env : Environment}
  {result : Except HostError Unit} {call : Nat} {moment : Moment System Label}

theorem goOn_commit {A : Type} {transition : Transition A} {continue_ : A -> Except HostError (Option Call)}
    {before after : System} (always : ∀ value, ∃ next, continue_ value = .ok next)
    (taken : System.goOn call continue_ (before.commit config env transition) = (after, result)) :
    (∃ error, result = .error error ∧ after.ledger.state = before.ledger.state) ∨
      result = .ok () ∧ ∃ value state, transition before.ledger.state = .ok (value, state) ∧
        after.ledger.state = drainEvents config.ledger.limits state ∧ Valid config.ledger after.ledger.state := by
  have ledger : after.ledger = (before.commit config env transition).1.ledger := by
    rw [← System.goOn_ledger call continue_, taken]
  rw [ledger]
  unfold System.goOn System.commit at taken
  unfold System.commit
  rcases before.ledger.update_cases config.ledger env.io transition with
    ⟨error, failed⟩ | ⟨value, state, kept, moved, drained, valid, done | ⟨error, failed⟩⟩
  · rw [failed] at taken ⊢
    cases taken
    exact .inl ⟨error, rfl, rfl⟩
  · obtain ⟨next, continued⟩ := always value
    rw [done] at taken ⊢
    refine .inr ⟨?_, value, state, moved, drained, valid⟩
    dsimp only [bind, Except.bind] at taken
    rw [continued] at taken
    cases next <;> (cases taken; rfl)
  · rw [failed] at taken ⊢
    cases taken
    exact .inl ⟨error, rfl, rfl⟩

theorem takeoverWithControlTicket_taken {now ttl : Nat} {ticket : ControlTicket}
    {before after : System}
    (taken : step config env (.takeoverWithControlTicket call spaceId authority ticket now ttl) before =
      some (after, result)) :
    (∃ error, result = .error error ∧ after.ledger.state = before.ledger.state) ∨
      result = .ok () ∧ ∃ expiresAt renewBy request state,
        takeoverWithControlTicket spaceId authority ticket expiresAt renewBy before.ledger.state =
          .ok (request, state) ∧
        after.ledger.state = drainEvents config.ledger.limits state ∧ Valid config.ledger after.ledger.state := by
  simp only [step, leaseStep] at taken
  split_ifs at taken
  rw [Option.some.injEq] at taken
  unfold withLeaseTimes at taken
  split at taken
  · cases taken
    exact .inl ⟨_, rfl, rfl⟩
  · unfold System.afterCheck at taken
    split at taken
    · cases taken
      exact .inl ⟨_, rfl, rfl⟩
    · rcases goOn_commit (fun _ => ⟨_, rfl⟩) taken with failed | ⟨done, request, state, moved⟩
      · exact .inl failed
      · exact .inr ⟨done, _, _, request, state, moved⟩

/-- A step that was asked to give a space back to its agent for a ticket. -/
def Redeems (spaceId : SpaceId) (ticket : ControlTicket) (moment : Moment System Label) : Prop :=
  ∃ call authority now ttl,
    moment.label.2 = .takeoverWithControlTicket call spaceId authority ticket now ttl

/-- The step accepted the ticket. -/
def Reclaims (config : HostConfig) (spaceId : SpaceId) (ticket : ControlTicket) (moment : Moment System Label) : Prop :=
  Redeems spaceId ticket moment ∧ step config moment.label.1 moment.label.2 moment.before = some (moment.after, .ok ())

/-- The space leaves its user, who had the stored ticket. -/
structure LeavesUser (spaceId : SpaceId) (record : ControlTicketRecord) (moment : Moment System Label) : Prop where
  stored : moment.before.ledger.state.controlTickets.get? spaceId = some record
  owned : UserOwns moment.before.ledger.state spaceId
  left : ¬ UserOwns moment.after.ledger.state spaceId

theorem Reclaims.leaves {ticket : ControlTicket} (sound : Sound config.ledger moment.before.ledger)
    (reclaims : Reclaims config spaceId ticket moment) :
    ∃ record, LeavesUser spaceId record moment ∧ record.ticket = ticket := by
  obtain ⟨⟨call, authority, now, ttl, made_by⟩, accepted⟩ := reclaims
  rw [made_by] at accepted
  rcases takeoverWithControlTicket_taken accepted with ⟨_, failed, _⟩ | ⟨_, _, _, request, state, moved, kept, valid⟩
  · cases failed
  obtain ⟨record, presented⟩ := takeoverWithControlTicket_presents moved
  refine ⟨record, ⟨presented.stored, sound.valid.user_owns presented.stored, ?_⟩, presented.exact sound.valid⟩
  intro still
  obtain ⟨again, stored⟩ := valid.ticketed still
  obtain ⟨_, _, _, _, _, _, _, _, _, _, same⟩ := takeoverWithControlTicket_ok moved
  obtain ⟨_, _, _, rfl⟩ := same
  rw [kept] at stored
  simp [drainEvents, Table.get?_erase] at stored

theorem step_keeps_past {epoch : LeaseEpoch} {before after : System} {label : Label}
    (sound : Sound config.ledger before.ledger) (numbered : spaceId.number ≤ before.ledger.state.nextSpaceNumber)
    (past : PastUser spaceId epoch before.ledger.state) (taken : next config label before = some after) :
    PastUser spaceId epoch after.ledger.state := by
  rcases next_ledger taken with moved | ⟨failures, state, _, opened, rfl⟩
  · generalize after.ledger = ledger at moved
    cases moved with
    | same => exact past
    | committed made => exact made.keeps_past sound.valid numbered past
    | written => exact past
  · have file : PastUser spaceId epoch before.ledger.disk := by
      rcases sound.ahead with same | ⟨_, _, made⟩
      · exact same ▸ past
      · exact made.keeps_past sound.valid numbered past
    exact (reopenLedger_keeps (PastUser spaceId epoch) (fun _ _ _ past opened => openLedger_keeps_past opened past)
      sound.disk file opened).2

theorem HostRun.leaves_user {earlier : List (Moment System Label)} (initial : Initial config start)
    (run : HostRun config start earlier moment.before)
    (taken : next config moment.label moment.before = some moment.after) {record : ControlTicketRecord}
    (leaves : LeavesUser spaceId record moment) :
    Reclaims config spaceId record.ticket moment ∨
      (∃ failures, moment.label.2 = .restart failures) ∧ ∃ cause, cause ∈ earlier ∧
        Redeems spaceId record.ticket cause ∧ cause.before.ledger.state = moment.before.ledger.state := by
  have sound := run.sound initial
  obtain ⟨stored, owned, left⟩ := leaves
  rcases next_ledger taken with moved | ⟨failures, state, made_by, opened, changed⟩
  · generalize changed : moment.after.ledger = ledger at moved
    rw [changed] at left
    cases moved with
    | same => exact absurd owned left
    | written => exact absurd owned left
    | committed made =>
      rcases made.keeps_user sound.valid owned with still | ⟨⟨call, authority, ticket, now, ttl, again, asked, presented⟩, _⟩
      · exact absurd still left
      obtain rfl : again = record := Option.some.inj (presented.stored.symm.trans stored)
      rw [presented.exact sound.valid]
      obtain ⟨result, replied⟩ := next_step taken
      have outcome := replied
      rw [asked] at outcome
      rcases takeoverWithControlTicket_taken outcome with ⟨_, _, same⟩ | ⟨rfl, _⟩
      · rw [changed] at same
        exact absurd (same ▸ owned) left
      · exact .inl ⟨⟨call, authority, now, ttl, asked⟩, replied⟩
  · refine .inr ⟨⟨failures, made_by⟩, ?_⟩
    have reopens : UserOwns moment.before.ledger.disk spaceId -> UserOwns moment.after.ledger.state spaceId := by
      intro file
      rw [changed]
      exact (reopenLedger_keeps (UserOwns · spaceId) (fun _ _ _ user opened => openLedger_keeps_user opened user)
        sound.disk file opened).2
    rcases run.ahead initial with same | ⟨cause, inside, memory, _, made⟩
    · exact absurd (reopens (same ▸ owned)) left
    · rcases made.keeps_user sound.valid owned with still | ⟨⟨call, authority, ticket, now, ttl, again, asked, presented⟩, _⟩
      · exact absurd (reopens still) left
      obtain rfl : again = record := Option.some.inj (presented.stored.symm.trans stored)
      rw [presented.exact sound.valid]
      exact ⟨cause, inside, ⟨call, authority, now, ttl, asked⟩, memory⟩

/-- Along every run a space leaves its user only for the ticket stored for it, whether the step
accepts the ticket or a restart finds its commit in the file; an accepted ticket takes the space from
its user, and no ticket of that fence is accepted later; and until then every claim is refused. -/
theorem user_control_returns_by_ticket_once (initial : Initial config start) (run : HostRun config start trace last)
    (spaceId : SpaceId) :
    (∀ later moment earlier record, trace = later ++ moment :: earlier -> LeavesUser spaceId record moment ->
      Reclaims config spaceId record.ticket moment ∨
        (∃ failures, moment.label.2 = .restart failures) ∧ ∃ cause, cause ∈ earlier ∧
          Redeems spaceId record.ticket cause ∧ cause.before.ledger.state = moment.before.ledger.state) ∧
    (∀ moment ticket, moment ∈ trace -> Reclaims config spaceId ticket moment ->
      ∃ record, LeavesUser spaceId record moment ∧ record.ticket = ticket) ∧
    (∀ later second between first earlier record ticket,
      trace = later ++ second :: (between ++ first :: earlier) -> LeavesUser spaceId record first ->
      Reclaims config spaceId ticket second -> record.fenceEpoch < ticket.fenceEpoch) ∧
    (UserOwns last.ledger.state spaceId -> Refuses last.ledger.state spaceId) := by
  refine ⟨?_, ?_, ?_, UserOwns.refuses (run.sound initial).valid⟩
  · rintro later moment earlier record rfl leaves
    obtain ⟨early, taken⟩ := run.before_moment
    exact HostRun.leaves_user initial early taken leaves
  · intro moment ticket inside reclaims
    obtain ⟨earlier, later, early, taken, _⟩ := run.at_moment inside
    exact reclaims.leaves (HostRun.sound early initial)
  · rintro later second between first earlier record ticket rfl leaves reclaims
    obtain ⟨middle, _⟩ := run.before_moment
    obtain ⟨early, taken⟩ := middle.before_moment
    have sound := HostRun.sound early initial
    obtain ⟨stored, _, left⟩ := leaves
    obtain ⟨named, _, owner, located, user, epoch⟩ := sound.valid.ticket_owner stored
    obtain ⟨taking, ⟨again, _, _⟩, rfl⟩ := reclaims.leaves (HostRun.sound middle initial)
    obtain ⟨_, _, next, found, _, again⟩ := (HostRun.sound middle initial).valid.ticket_owner again
    have numbered : spaceId.number ≤ first.before.ledger.state.nextSpaceNumber :=
      HostRun.numbered early initial spaceId (by simp [located])
    -- the epoch is past the ticket's as soon as the space has left its user
    have past : PastUser spaceId record.fenceEpoch first.after.ledger.state := by
      refine step_keeps_past sound numbered (fun standing present => .inl ?_) taken
      obtain rfl : owner = standing := Option.some.inj (located.symm.trans present)
      exact ⟨user, epoch⟩
    have order := HostRun.later (sound.step taken) middle.after_moment
    have counted := (sound.later taken).numbers
    have later := order.standing spaceId (numbered.trans counted)
    rw [found] at later
    cases present : first.after.ledger.state.standing spaceId with
    | none =>
      rw [present] at later
      cases later
    | some standing =>
      rw [present] at later
      rcases past standing present with ⟨still, _⟩ | grown
      · exact absurd ⟨standing, present, still⟩ left
      · change record.fenceEpoch < taking.fenceEpoch
        rw [← again]
        exact Nat.lt_of_lt_of_le grown later.epoch_le

def ownedByUser (system : System) : Bool :=
  (system.ledger.state.standing ⟨1⟩).any fun standing => standing.lifecycle == .userOwned

theorem ownedByUser_iff (system : System) : ownedByUser system = true <-> UserOwns system.ledger.state ⟨1⟩ := by
  simp only [ownedByUser, Option.any_eq_true, beq_iff_eq]
  exact Iff.rfl

def redeemed : Label :=
  (sampleEnv, .takeoverWithControlTicket 4 ⟨1⟩ sampleTicket
    { spaceId := ⟨1⟩, brokerEpoch := 1, fenceEpoch := 2, token := .control 2 } 30 1000)

/-- The space goes to its user, and back for its ticket. -/
theorem user_control_returns_by_ticket_once_redeemed :
    ∃ middle last : System, ∃ record : ControlTicketRecord, Refuses middle.ledger.state ⟨1⟩ ∧
      Reclaims sampleConfig ⟨1⟩ record.ticket ⟨middle, redeemed, last⟩ ∧
      LeavesUser ⟨1⟩ record ⟨middle, redeemed, last⟩ := by
  obtain ⟨middle, early, passed⟩ := advance_reaches (next sampleConfig) (.fresh sampleConfig)
    (sampleStart ++
      [(sampleEnv, .returnControl 3 sampleClaim),
       (sampleEnv, .fenceAnswered 3 { acknowledged := true, error := none })])
    (fun middle => ownedByUser middle && (next sampleConfig redeemed middle).any fun last => !ownedByUser last)
    (by decide)
  simp only [Bool.and_eq_true, Option.any_eq_true, Bool.not_eq_true'] at passed
  obtain ⟨owned, last, taken, left⟩ := passed
  have valid := (HostRun.sound early sample_initial).valid
  obtain ⟨record, stored⟩ := valid.ticketed ((ownedByUser_iff middle).mp owned)
  have leaves : LeavesUser ⟨1⟩ record ⟨middle, redeemed, last⟩ := by
    refine ⟨stored, (ownedByUser_iff middle).mp owned, fun still => ?_⟩
    rw [← ownedByUser_iff, left] at still
    cases still
  obtain ⟨_, _, _, refused⟩ := user_control_returns_by_ticket_once sample_initial early ⟨1⟩
  obtain ⟨causes, _⟩ := user_control_returns_by_ticket_once sample_initial (.step early taken) ⟨1⟩
  rcases causes [] _ _ record rfl leaves with reclaims | ⟨⟨_, impossible⟩, _⟩
  · exact ⟨middle, last, record, refused leaves.owned, reclaims, leaves⟩
  · cases impossible

end Runs

end AgentycHost
