import AgentycHost.Effects.Finishing
import AgentycHost.Local.Requests
import AgentycHost.System.Dispatch

set_option autoImplicit false

/-! # Leases and the host's clock -/

namespace AgentycHost

open Shared

/-- The space has an active lease that has not expired at this time. -/
def leaseLives (state : LedgerState) (spaceId : SpaceId) (time : Timestamp) : Bool :=
  (state.spaces.get? spaceId).any fun space => isLeased space.lease time

/-- The space whose lease a request is made under. An action that has ended is not dispatched again. -/
def LocalRequest.actsIn (state : LedgerState) (request : LocalRequest) : Option SpaceId :=
  match request.method with
  | .leaseRenew spaceId _ _ | .spaceReturn spaceId _ | .spaceFinish spaceId _ | .spaceRelease spaceId _
  | .pageCreate spaceId _ _ | .pageCreateManaged spaceId _ _ | .pageClose spaceId _ _
  | .refsIssue spaceId _ _ _ _ | .snapshotRead spaceId _ _ => some spaceId
  | .actionExecute action => some action.spaceId
  | .dispatchQueued actionId _ =>
      ((state.actions.get? actionId).filter fun receipt => receipt.status == .queued).bind fun _ =>
        (state.actionRequests.get? actionId).map (·.spaceId)
  | .actionReconcile actionId _ => (state.actions.get? actionId).map (·.spaceId)
  | .leaseAcquire _ _ | .spaceTakeover _ _ | .spaceAcknowledgeFence _ _ _ | .spaceSuspend _ _ _
  | .spaceTakeoverWithControlTicket _ _ _ => none

/-- The space whose lease decides a request. -/
def LocalRequest.decidedIn (state : LedgerState) (request : LocalRequest) : Option SpaceId :=
  match request.method with
  | .leaseAcquire spaceId _ => some spaceId
  | _ => request.actsIn state

section Lives

variable {state next : LedgerState} {spaceId : SpaceId} {pageId : PageId} {actionId : ActionId}
  {authority : AuthorityTicket} {leaseEpoch : LeaseEpoch} {now clock : Timestamp} {mutation : Bool}

theorem leaseLives_iff : leaseLives state spaceId now = true <->
    ∃ space lease, state.spaces.get? spaceId = some space ∧ space.lease = some lease ∧ lease.state = .active ∧
      now < lease.expiresAt := by
  simp only [leaseLives, isLeased, Option.any_eq_true, Bool.and_eq_true, beq_iff_eq, decide_eq_true_eq]
  constructor
  · rintro ⟨space, found, lease, leased, active, unexpired⟩
    exact ⟨space, lease, found, leased, active, unexpired⟩
  · rintro ⟨space, lease, found, leased, active, unexpired⟩
    exact ⟨space, found, lease, leased, active, unexpired⟩

theorem authorizeSpace_lives (allowed : authorizeSpace state spaceId authority leaseEpoch now mutation = .ok ()) :
    leaseLives state spaceId now = true := by
  obtain ⟨space, lease, authorized⟩ := authorizeSpace_ok.mp allowed
  exact leaseLives_iff.mpr ⟨space, lease, authorized.found, authorized.leased, authorized.active, authorized.unexpired⟩

theorem authorizePage_lives {generation : PageGeneration}
    (allowed : authorizePage state spaceId pageId authority leaseEpoch now mutation = .ok generation) :
    leaseLives state spaceId now = true := by
  simp only [authorizePage, bind_ok] at allowed
  obtain ⟨_, inside, _⟩ := allowed
  exact authorizeSpace_lives inside

theorem authorizeFinishClaim_lives {allowDraining : Bool}
    (allowed : authorizeFinishClaim state spaceId authority leaseEpoch now allowDraining = .ok ()) :
    leaseLives state spaceId now = true := by
  simp only [authorizeFinishClaim, bind_ok, require_ok, orElse_ok, findSpace_ok, beq_iff_eq,
    decide_eq_true_eq] at allowed
  obtain ⟨_, _, _, _, space, found, _, _, _, _, lease, leased, _, _, _, _, _, _, _, active, unexpired⟩ := allowed
  exact leaseLives_iff.mpr ⟨space, lease, found, leased, active, unexpired⟩

theorem authorizeReconciliationAuthority_lives {receipt : ActionReceipt}
    (allowed : authorizeReconciliationAuthority state actionId authority leaseEpoch now = .ok receipt) :
    leaseLives state receipt.spaceId now = true := by
  simp only [authorizeReconciliationAuthority, bind_ok, pure_ok, require_ok, orElse_ok, findSpace_ok, beq_iff_eq,
    Bool.and_eq_true, decide_eq_true_eq] at allowed
  obtain ⟨_, _, stored, _, _, _, _, _, space, found, _, _, _, _, lease, leased, _, _, _, _, _, ⟨active, unexpired⟩, _,
    _, rfl⟩ := allowed
  exact leaseLives_iff.mpr ⟨space, lease, found, leased, active, unexpired⟩

theorem authorizeSpace_alike (agree : leaseLives state spaceId now = leaseLives state spaceId clock)
    (mutation : Bool) : authorizeSpace state spaceId authority leaseEpoch now mutation = .ok () <->
      authorizeSpace state spaceId authority leaseEpoch clock mutation = .ok () := by
  have one : ∀ first second, leaseLives state spaceId first = leaseLives state spaceId second ->
      authorizeSpace state spaceId authority leaseEpoch first mutation = .ok () ->
      authorizeSpace state spaceId authority leaseEpoch second mutation = .ok () := by
    intro first second same allowed
    have lives := authorizeSpace_lives allowed
    rw [same] at lives
    obtain ⟨space, lease, authorized⟩ := authorizeSpace_ok.mp allowed
    obtain ⟨again, other, found, leased, _, unexpired⟩ := leaseLives_iff.mp lives
    obtain rfl := Option.some.inj (authorized.found.symm.trans found)
    obtain rfl := Option.some.inj (authorized.leased.symm.trans leased)
    exact authorizeSpace_ok.mpr ⟨space, lease, { authorized with unexpired }⟩
  exact ⟨one _ _ agree, one _ _ agree.symm⟩

end Lives

section Replies

variable {config : HostConfig} {env : Environment} {before after : System} {A : Type} {transition : Transition A}
  {refTransition : RefTransition A} {check : Except HostError Unit} {reply : Reply A}

theorem done_ok (ended : System.done reply = (after, .ok ())) : ∃ value, reply = (after, .ok value) := by
  obtain ⟨last, result⟩ := reply
  cases result with
  | error _ => cases ended
  | ok value =>
    cases ended
    exact ⟨value, rfl⟩

theorem commit_runs {value : A} (committed : (before.commit config env transition).2 = .ok value) :
    ∃ state, transition before.ledger.state = .ok (value, state) := by
  obtain ⟨state, run, _⟩ := commit_ok (Prod.ext rfl committed)
  exact ⟨state, run⟩

theorem goOn_runs {key : Nat} {next : A -> Except HostError (Option Call)}
    (ended : System.goOn key next (before.commit config env transition) = (after, .ok ())) :
    ∃ value state, transition before.ledger.state = .ok (value, state) := by
  obtain ⟨value, committed, _⟩ := goOn_ok ended
  obtain ⟨state, run⟩ := commit_runs committed
  exact ⟨value, state, run⟩

theorem done_runs (ended : System.done (before.commit config env transition) = (after, .ok ())) :
    ∃ value state, transition before.ledger.state = .ok (value, state) := by
  obtain ⟨value, committed⟩ := done_ok ended
  obtain ⟨state, run, _⟩ := commit_ok committed
  exact ⟨value, state, run⟩

theorem withLeaseTimes_ok {now ttl : Nat} {next : Timestamp -> Timestamp -> Reply Unit}
    (ended : withLeaseTimes before now ttl next = (after, .ok ())) :
    ∃ expiresAt renewBy, next expiresAt renewBy = (after, .ok ()) := by
  unfold withLeaseTimes at ended
  split at ended
  next => cases ended
  next expiresAt renewBy _ => exact ⟨expiresAt, renewBy, ended⟩

end Replies

section Requests

variable {config : HostConfig} {before after : System} {request : LocalRequest} {serving : Serving} {spaceId : SpaceId}

def Unexpired (state : LedgerState) (spaceId : SpaceId) (time : Timestamp) : Prop :=
  ∀ space lease, state.spaces.get? spaceId = some space -> space.lease = some lease -> lease.state = .active ->
    time < lease.expiresAt

theorem unexpired_of_lives {state : LedgerState} {time : Timestamp} (lives : leaseLives state spaceId time = true) :
    Unexpired state spaceId time := by
  intro space lease found leased _
  obtain ⟨again, other, located, held, _, unexpired⟩ := leaseLives_iff.mp lives
  obtain rfl := Option.some.inj (located.symm.trans found)
  obtain rfl := Option.some.inj (held.symm.trans leased)
  exact unexpired

section Operations

variable {state next : LedgerState} {authority : AuthorityTicket} {leaseEpoch : LeaseEpoch} {now : Timestamp}
  {action : ActionRequest}

theorem authorizeReleaseClaim_unexpired (allowed : authorizeReleaseClaim state spaceId authority leaseEpoch = .ok ())
    (time : Timestamp) : Unexpired state spaceId time := by
  simp only [authorizeReleaseClaim, bind_ok, require_ok, orElse_ok, findSpace_ok, beq_iff_eq] at allowed
  obtain ⟨_, _, _, _, space, found, _, _, _, _, lease, leased, _, _, _, _, _, _, released⟩ := allowed
  intro again other located held active
  obtain rfl := Option.some.inj (located.symm.trans found)
  obtain rfl := Option.some.inj (held.symm.trans leased)
  rw [released] at active
  cases active

theorem createPage_unexpired {label : String} {pageId : PageId}
    (run : createPage spaceId authority leaseEpoch label now state = .ok (pageId, next)) :
    Unexpired state spaceId now := by
  simp only [createPage, bind_ok] at run
  obtain ⟨_, allowed, _⟩ := run
  exact unexpired_of_lives (authorizeSpace_lives allowed)

theorem enqueue_unexpired {env : Environment} {ticket : Option UserIntentTicket}
    (ended : enqueue config env action authority now ticket before = (after, .ok ())) :
    Unexpired before.ledger.state action.spaceId now := by
  unfold enqueue at ended
  cases replied : before.commitRefs config env (enqueueAction config.ledger action authority now) with
  | mk system result =>
    rw [replied] at ended
    cases result with
    | error _ => cases ended
    | ok receipt =>
      obtain ⟨last, run, _⟩ := (commitRefs_ok replied).run
      unfold enqueueAction at run
      split at run
      next => cases run
      next admitted => exact unexpired_of_lives (authorizeSpace_lives (admitEnqueue_ok admitted).1)
      next admitted => exact unexpired_of_lives (authorizeSpace_lives (admitEnqueue_ok admitted).1)

theorem beginDispatch_unexpired {codec : Codec} {registry : RefRegistry} {actionId : ActionId}
    {receipt : ActionReceipt} {found : Option ActionRequest} (present : state.actions.get? actionId = some receipt)
    (queued : receipt.status = .queued) (requested : state.actionRequests.get? actionId = some action)
    (run : (beginDispatch codec actionId authority leaseEpoch now registry state).2 = .ok (found, next)) :
    Unexpired state action.spaceId now := by
  have admits : ∃ kept, admitDispatch actionId authority leaseEpoch now state = .ok kept := by
    unfold beginDispatch at run
    split at run
    next => cases run
    next admitted => exact ⟨_, admitted⟩
    next admitted => exact ⟨_, admitted⟩
  obtain ⟨kept, admitted⟩ := admits
  simp only [admitDispatch, bind_ok, orElse_ok, requested, present, Option.some.injEq, exists_eq_left', queued] at admitted
  obtain ⟨_, _, _, allowed, _⟩ := admitted
  exact unexpired_of_lives (authorizeSpace_lives allowed)

theorem issueFrom_ok {claim : Claim} {frameId : FrameId} {elementKey : ElementKey} {reply : Reply SnapshotEnvelope}
    (ended : issueFrom config claim frameId elementKey reply = (after, .ok ())) :
    ∃ envelope, reply.2 = .ok envelope := by
  unfold issueFrom at ended
  split at ended
  next => cases ended
  next envelope committed => exact ⟨envelope, committed⟩

end Operations

theorem LocalRequest.accepted_unexpired (acts : request.actsIn before.ledger.state = some spaceId)
    (taken : step config serving.environment (request.command serving) before = some (after, .ok ())) :
    Unexpired before.ledger.state spaceId (request.time serving.environment.clock) := by
  obtain ⟨method, now⟩ := request
  cases method with
  | leaseRenew _ leaseEpoch ttl =>
    obtain rfl := Option.some.inj acts
    obtain ⟨expiresAt, renewBy, ended⟩ := withLeaseTimes_ok (Option.some.inj taken)
    obtain ⟨_, _, run⟩ := done_runs (afterCheck_ok ended).2
    exact unexpired_of_lives (authorizeSpace_lives (renewLease_ok run).1)
  | spaceReturn _ leaseEpoch =>
    obtain rfl := Option.some.inj acts
    simp only [LocalRequest.command, step, leaseStep] at taken
    split_ifs at taken
    obtain ⟨_, _, run⟩ := goOn_runs (afterCheck_ok (Option.some.inj taken)).2
    obtain ⟨space, lease, _, _, _, authorized, _⟩ := returnControl_ok run
    exact unexpired_of_lives (authorizeSpace_lives (authorizeSpace_ok.mpr ⟨space, lease, authorized⟩))
  | spaceFinish _ leaseEpoch =>
    obtain rfl := Option.some.inj acts
    simp only [LocalRequest.command, step, finishStep] at taken
    split_ifs at taken
    obtain ⟨_, _, run⟩ := goOn_runs (afterCheck_ok (Option.some.inj taken)).2
    simp only [missingCleanupPages, bind_ok] at run
    obtain ⟨_, allowed, _⟩ := run
    exact unexpired_of_lives (authorizeFinishClaim_lives allowed)
  | spaceRelease _ leaseEpoch =>
    obtain rfl := Option.some.inj acts
    obtain ⟨_, _, run⟩ := done_runs (afterCheck_ok (Option.some.inj taken)).2
    simp only [releaseSpace, bind_ok] at run
    obtain ⟨_, allowed, _⟩ := run
    exact authorizeReleaseClaim_unexpired allowed _
  | pageCreate _ leaseEpoch label =>
    obtain rfl := Option.some.inj acts
    obtain ⟨_, _, run⟩ := done_runs (afterCheck_ok (Option.some.inj taken)).2
    exact createPage_unexpired run
  | pageCreateManaged _ leaseEpoch label =>
    obtain rfl := Option.some.inj acts
    simp only [LocalRequest.command, step, pageStep] at taken
    split_ifs at taken
    obtain ⟨_, _, run⟩ := goOn_runs (afterCheck_ok (Option.some.inj taken)).2
    exact createPage_unexpired run
  | pageClose _ pageId leaseEpoch =>
    obtain rfl := Option.some.inj acts
    simp only [LocalRequest.command, step, pageStep] at taken
    split_ifs at taken
    obtain ⟨_, _, run⟩ := goOn_runs (afterCheck_ok (Option.some.inj taken)).2
    simp only [beginClosePage, bind_ok] at run
    obtain ⟨_, allowed, _⟩ := run
    exact unexpired_of_lives (authorizePage_lives allowed)
  | actionExecute action =>
    obtain rfl := Option.some.inj acts
    have ended := (afterCheck_ok (Option.some.inj taken)).2
    exact enqueue_unexpired ended
  | dispatchQueued actionId leaseEpoch =>
    simp only [LocalRequest.actsIn, Option.bind_eq_some_iff, Option.filter_eq_some_iff, Option.map_eq_some_iff,
      beq_iff_eq] at acts
    obtain ⟨receipt, ⟨found, queued⟩, action, requested, rfl⟩ := acts
    simp only [LocalRequest.command, step, dispatchStep] at taken
    split_ifs at taken
    obtain ⟨_, attempted, _⟩ := goOn_ok (Option.some.inj taken)
    obtain ⟨state, run, _⟩ := (attemptDispatch_ok (Prod.ext rfl attempted)).run
    exact beginDispatch_unexpired found queued requested run
  | refsIssue _ pageId frameId elementKey leaseEpoch =>
    obtain rfl := Option.some.inj acts
    obtain ⟨_, committed⟩ := issueFrom_ok (Option.some.inj taken)
    obtain ⟨_, run⟩ := commit_runs committed
    simp only [issuingEnvelope, bind_ok] at run
    obtain ⟨_, allowed, _⟩ := run
    exact unexpired_of_lives (authorizePage_lives allowed)
  | snapshotRead _ pageId leaseEpoch =>
    obtain rfl := Option.some.inj acts
    simp only [LocalRequest.command, step, snapshotStep] at taken
    split_ifs at taken
    obtain ⟨_, _, run⟩ := goOn_runs (afterCheck_ok (Option.some.inj taken)).2
    simp only [captureGeneration, bind_ok] at run
    obtain ⟨_, allowed, _⟩ := run
    exact unexpired_of_lives (authorizePage_lives allowed)
  | actionReconcile actionId leaseEpoch =>
    obtain ⟨stored, found, rfl⟩ := Option.map_eq_some_iff.mp acts
    simp only [LocalRequest.command, step, actionStep] at taken
    split_ifs at taken
    obtain ⟨_, _, run⟩ := goOn_runs (afterCheck_ok (Option.some.inj taken)).2
    simp only [beginReconcile, bind_ok] at run
    obtain ⟨receipt, allowed, _⟩ := run
    obtain ⟨present, _⟩ := authorizeReconciliationAuthority_ok allowed
    obtain rfl := Option.some.inj (present.symm.trans found)
    exact unexpired_of_lives (authorizeReconciliationAuthority_lives allowed)
  | leaseAcquire | spaceTakeover | spaceAcknowledgeFence | spaceSuspend | spaceTakeoverWithControlTicket => cases acts

end Requests

section Runs

variable {config : HostConfig} {start last before after : System} {trace : List (Moment System LocalLabel)}
  {request : LocalRequest} {serving : Serving} {spaceId : SpaceId} {state : LedgerState} {space : SpaceDescriptor}

/-- The time of the request is on the same side of the lease's expiry as the host's clock. -/
def AgreesWithClock (state : LedgerState) (request : LocalRequest) (serving : Serving) : Prop :=
  ∀ spaceId, request.decidedIn state = some spaceId ->
    leaseLives state spaceId (request.time serving.environment.clock) = leaseLives state spaceId serving.environment.clock

/-- What a request may do is decided by the host's clock. -/
structure FollowsClock (config : HostConfig) (before : System) (request : LocalRequest) (serving : Serving) : Prop where
  acquires : ∀ spaceId ttl space after, request.method = .leaseAcquire spaceId ttl ->
    step config serving.environment (request.command serving) before = some (after, .ok ()) ->
    before.ledger.state.spaces.get? spaceId = some space -> space.lifecycle = .agentOwned ->
    before.ledger.state.leaseHolders.get? spaceId ≠ some serving.authority.connectionEpoch ->
    ∃ lease, space.lease = some lease ∧ lease.state = .active ∧ lease.expiresAt ≤ serving.environment.clock
  refuses : ∀ spaceId space lease after result, request.actsIn before.ledger.state = some spaceId ->
    before.ledger.state.spaces.get? spaceId = some space -> space.lease = some lease -> lease.state = .active ->
    lease.expiresAt ≤ serving.environment.clock ->
    step config serving.environment (request.command serving) before = some (after, result) -> result ≠ .ok ()
  alike : ∀ spaceId leaseEpoch mutation, request.decidedIn before.ledger.state = some spaceId ->
    (authorizeSpace before.ledger.state spaceId serving.authority leaseEpoch
        (request.time serving.environment.clock) mutation = .ok () <->
      authorizeSpace before.ledger.state spaceId serving.authority leaseEpoch serving.environment.clock mutation = .ok ())

theorem Valid.agent_leased (valid : Valid config.ledger state) (located : state.spaces.get? spaceId = some space)
    (lifecycle : space.lifecycle = .agentOwned) :
    ∃ lease, space.lease = some lease ∧ lease.state = .active := by
  have matched := valid.matches_lease located
  simp only [lifecycleMatchesLease, lifecycle, leaseStateIn, Bool.and_eq_true, Option.any_eq_true, List.contains_cons,
    List.contains_nil, Bool.or_false, beq_iff_eq] at matched
  obtain ⟨⟨lease, leased, active⟩, _⟩ := matched
  exact ⟨lease, leased, active⟩

theorem acquireLease_other {next : LedgerState} {authority : AuthorityTicket} {now expiresAt renewBy : Timestamp}
    {granted : Lease} (run : acquireLease spaceId authority now expiresAt renewBy state = .ok (granted, next))
    (other : state.leaseHolders.get? spaceId ≠ some authority.connectionEpoch) :
    leaseLives state spaceId now = false := by
  simp only [acquireLease, bind_ok, findSpace_ok] at run
  obtain ⟨_, _, _, _, space, found, granting⟩ := run
  split at granting
  next current live =>
    -- a live lease is only given back to its holder
    split_ifs at granting
    simp only [bind_ok, authorizeLeaseHolder, require_ok, beq_iff_eq] at granting
    obtain ⟨_, holder, _⟩ := granting
    exact absurd holder other
  next none =>
    cases leased : space.lease with
    | none => simp [leaseLives, isLeased, found, leased]
    | some lease =>
      rw [leased] at none
      simpa [leaseLives, isLeased, found, leased, Option.filter_eq_none_iff] using none

theorem LocalRequest.acquires (valid : Valid config.ledger before.ledger.state) {ttl : Nat}
    (agrees : AgreesWithClock before.ledger.state request serving)
    (acquires : request.method = .leaseAcquire spaceId ttl)
    (taken : step config serving.environment (request.command serving) before = some (after, .ok ()))
    (found : before.ledger.state.spaces.get? spaceId = some space) (owned : space.lifecycle = .agentOwned)
    (other : before.ledger.state.leaseHolders.get? spaceId ≠ some serving.authority.connectionEpoch) :
    ∃ lease, space.lease = some lease ∧ lease.state = .active ∧ lease.expiresAt ≤ serving.environment.clock := by
  obtain ⟨lease, leased, active⟩ := valid.agent_leased found owned
  refine ⟨lease, leased, active, ?_⟩
  have agree := agrees spaceId (by simp [LocalRequest.decidedIn, acquires])
  obtain ⟨method, now⟩ := request
  obtain rfl : method = .leaseAcquire spaceId ttl := acquires
  obtain ⟨expiresAt, renewBy, ended⟩ := withLeaseTimes_ok (Option.some.inj taken)
  obtain ⟨granted, next, run⟩ := done_runs (afterCheck_ok ended).2
  have dead := acquireLease_other run other
  change leaseLives before.ledger.state spaceId (LocalRequest.time _ _) = false at dead
  rw [agree] at dead
  by_contra alive
  have lives := leaseLives_iff.mpr ⟨space, lease, found, leased, active, Nat.lt_of_not_le alive⟩
  rw [lives] at dead
  cases dead

theorem LocalRequest.follows (valid : Valid config.ledger before.ledger.state)
    (agrees : AgreesWithClock before.ledger.state request serving) : FollowsClock config before request serving where
  acquires _ _ _ _ acquires taken found owned other := request.acquires valid agrees acquires taken found owned other
  refuses spaceId space lease after result acts found leased active expired taken accepted := by
    subst accepted
    have decided : request.decidedIn before.ledger.state = some spaceId := by
      unfold LocalRequest.decidedIn
      split
      next acquires => simp [LocalRequest.actsIn, acquires] at acts
      next => exact acts
    have unexpired := request.accepted_unexpired acts taken space lease found leased active
    have lives := leaseLives_iff.mpr ⟨space, lease, found, leased, active, unexpired⟩
    rw [agrees spaceId decided] at lives
    obtain ⟨again, held, located, leases, _, later⟩ := leaseLives_iff.mp lives
    obtain rfl := Option.some.inj (located.symm.trans found)
    obtain rfl := Option.some.inj (leases.symm.trans leased)
    exact Nat.not_le_of_lt later expired
  alike spaceId leaseEpoch mutation decided := authorizeSpace_alike (agrees spaceId decided) mutation

theorem LocalRun.sound (run : LocalRun config start trace last) (initial : Initial config start) :
    Sound config.ledger last.ledger :=
  run.keeps (fun system => Sound config.ledger system.ledger) initial.sound fun _ _ taken sound => sound.step taken

/-- A host whose requests agree with its clock about the leases they touch lets the clock decide them. -/
theorem leases_follow_the_clock (initial : Initial config start) (run : LocalRun config start trace last)
    (agrees : ∀ moment request serving, moment ∈ trace -> moment.label = .request request serving ->
      AgreesWithClock moment.before.ledger.state request serving) :
    ∀ moment request serving, moment ∈ trace -> moment.label = .request request serving ->
      FollowsClock config moment.before request serving := by
  intro moment request serving inside asked
  obtain ⟨earlier, later, before, _, _⟩ := run.at_moment inside
  have sound : Sound config.ledger moment.before.ledger := LocalRun.sound before initial
  exact request.follows sound.valid (agrees moment request serving inside asked)

end Runs

section Samples

variable {asked : LocalRequest} {before : System} {clock : Timestamp}

def secondNonce : ConnectionNonce := ⟨"second", by decide⟩

def secondTicket : AuthorityTicket := { sampleTicket with connectionEpoch := 2, connectionNonce := secondNonce }

def secondServing (clock : Timestamp) : Serving where
  environment := { sampleEnv with clock }
  authority := secondTicket
  call := 1
  present := []

def connectedTwice : List LocalLabel :=
  sampleStart.map .host ++
    [.host (sampleEnv, .hello { principalId := samplePrincipal, connectionNonce := secondNonce, profileBindingId := none,
                                isExtension := false })]

def acquiresAt (now : Option Timestamp) : LocalRequest := { method := .leaseAcquire ⟨1⟩ 1000, now }

def localNext (label : LocalLabel) (system : System) : Option System := next sampleConfig label.label system

def takesLease (clock : Timestamp) (asked : LocalRequest) (before : System) : Bool :=
  ((step sampleConfig (secondServing clock).environment (asked.command (secondServing clock)) before).any
    fun reply => reply.2.toBool) &&
  !(before.ledger.state.leaseHolders.get? ⟨1⟩ == some secondTicket.connectionEpoch) &&
  (before.ledger.state.spaces.get? ⟨1⟩).any fun space => space.lifecycle == .agentOwned

theorem takesLease_iff :
    takesLease clock asked before = true <->
      (∃ after, step sampleConfig (secondServing clock).environment (asked.command (secondServing clock)) before =
        some (after, .ok ())) ∧
      before.ledger.state.leaseHolders.get? ⟨1⟩ ≠ some secondTicket.connectionEpoch ∧
      ∃ space, before.ledger.state.spaces.get? ⟨1⟩ = some space ∧ space.lifecycle = .agentOwned := by
  simp only [takesLease, Bool.and_eq_true, Option.any_eq_true, toBool_ok, Bool.not_eq_true', beq_eq_false_iff_ne,
    beq_iff_eq, Prod.exists, and_assoc]
  constructor
  · rintro ⟨⟨after, _, taken, rfl⟩, other, space, found, owned⟩
    exact ⟨⟨after, taken⟩, other, space, found, owned⟩
  · rintro ⟨⟨after, taken⟩, other, space, found, owned⟩
    exact ⟨⟨after, _, taken, rfl⟩, other, space, found, owned⟩

theorem LocalRun.granted {trace : List (Moment System LocalLabel)} {start after : System} (run : LocalRun sampleConfig start trace before)
    (taken : step sampleConfig (secondServing clock).environment (asked.command (secondServing clock)) before =
      some (after, .ok ())) :
    LocalRun sampleConfig start (⟨before, .request asked (secondServing clock), after⟩ :: trace) after := by
  apply Run.step run
  exact Option.map_eq_some_iff.mpr ⟨_, taken, rfl⟩

theorem lease_taken_early :
    ¬ ∀ start last trace, Initial sampleConfig start -> LocalRun sampleConfig start trace last ->
      ∀ moment request serving, moment ∈ trace -> moment.label = .request request serving ->
        FollowsClock sampleConfig moment.before request serving := by
  intro claim
  -- the second connection comes at 20 and says that it is 5000
  obtain ⟨before, run, passed⟩ := advance_reaches localNext (.fresh sampleConfig) connectedTwice
    (fun before => takesLease 20 (acquiresAt (some 5000)) before && leaseLives before.ledger.state ⟨1⟩ 20)
    (by decide)
  rw [Bool.and_eq_true, takesLease_iff, leaseLives_iff] at passed
  obtain ⟨⟨⟨after, taken⟩, other, space, found, owned⟩, again, lease, located, leased, _, alive⟩ := passed
  have follows := claim _ after _ sample_initial (LocalRun.granted run taken) _ _ _ List.mem_cons_self rfl
  obtain ⟨held, same, _, expired⟩ := follows.acquires _ _ space after rfl taken found owned other
  obtain rfl := Option.some.inj (located.symm.trans found)
  obtain rfl := Option.some.inj (leased.symm.trans same)
  exact Nat.not_le_of_lt alive expired

/-- At 5000 the second connection is granted the space, and the lease of the first is over. -/
theorem leases_follow_the_clock_sample : ∃ (before : System) (space : SpaceDescriptor) (lease : Lease),
    before.ledger.state.spaces.get? ⟨1⟩ = some space ∧ space.lease = some lease ∧ lease.expiresAt ≤ 5000 ∧
      FollowsClock sampleConfig before (acquiresAt (some 5000)) (secondServing 5000) := by
  obtain ⟨before, run, passed⟩ := advance_reaches localNext (.fresh sampleConfig) connectedTwice
    (takesLease 5000 (acquiresAt (some 5000))) (by decide)
  obtain ⟨⟨after, taken⟩, other, space, found, owned⟩ := takesLease_iff.mp passed
  have follows := leases_follow_the_clock sample_initial (LocalRun.granted run taken)
    (fun moment request serving inside asked => by
      obtain rfl | inside := List.mem_cons.mp inside
      · cases asked
        exact fun _ _ => rfl
      · have label := visits_label (List.mem_reverse.mp inside)
        rw [asked] at label
        simp [connectedTwice] at label) _ _ _ List.mem_cons_self rfl
  obtain ⟨lease, leased, _, expired⟩ := follows.acquires _ _ space after rfl taken found owned other
  exact ⟨before, space, lease, found, leased, expired, follows⟩

end Samples

end AgentycHost
