import AgentycHost.System.Commits

set_option autoImplicit false

/-! # What each transition does -/

namespace AgentycHost

open Shared

variable {before after : LedgerState} {spaceId : SpaceId} {pageId : PageId} {authority : AuthorityTicket}
  {leaseEpoch : LeaseEpoch} {now expiresAt renewBy : Timestamp} {epochs : Option ExtensionEpochs} {done : Unit}
  {actionId : ActionId} {registry : RefRegistry} {proof : CleanupProof} {event : BridgeEvent}
  {envelope : SnapshotEnvelope} {codec : Codec}

section Authority

theorem findSpace_ok {space : SpaceDescriptor} :
    findSpace before spaceId = .ok space <-> before.spaces.get? spaceId = some space := orElse_ok

theorem findPage_ok {page : PageDescriptor} :
    findPage before spaceId pageId = .ok page <-> before.page spaceId pageId = some page := orElse_ok

structure Authorized (state : LedgerState) (spaceId : SpaceId) (authority : AuthorityTicket)
    (leaseEpoch : LeaseEpoch) (now : Timestamp) (mutation : Bool) (space : SpaceDescriptor) (lease : Lease) : Prop where
  ticket : authorizeTicket state authority = .ok ()
  profile : authorizeProfileForMutation state spaceId authority = .ok ()
  found : state.spaces.get? spaceId = some space
  notUserOwned : space.lifecycle ≠ .userOwned
  leased : space.lease = some lease
  principal : lease.principalId = authority.principalId
  holder : state.leaseHolders.get? spaceId = some authority.connectionEpoch
  epoch : lease.leaseEpoch = leaseEpoch
  unexpired : now < lease.expiresAt
  active : lease.state = .active
  admits : mutation = true -> space.lifecycle = .agentOwned

theorem authorizeSpace_ok {mutation : Bool} :
    authorizeSpace before spaceId authority leaseEpoch now mutation = .ok () <->
      ∃ space lease, Authorized before spaceId authority leaseEpoch now mutation space lease := by
  simp only [authorizeSpace, bind_ok, require_ok, orElse_ok, findSpace_ok, authorizeLeaseHolder,
    Bool.and_eq_true, beq_iff_eq, decide_eq_true_eq, Bool.not_eq_true', beq_eq_false_iff_ne, ne_eq,
    Bool.and_eq_false_iff, SpaceLifecycle.admitsMutations, Bool.not_eq_false']
  constructor
  · rintro ⟨_, ticket, _, profile, space, found, _, notUser, lease, leased, _, principal, _, holder, _, epoch, _,
      ⟨_, unexpired⟩, _, active, admits⟩
    exact ⟨space, lease, ticket, profile, found, notUser, leased, principal, holder, epoch, unexpired, active,
      fun mutation => admits.resolve_left (by simp [mutation])⟩
  · rintro ⟨space, lease, allowed⟩
    refine ⟨(), allowed.ticket, (), allowed.profile, space, allowed.found, (), allowed.notUserOwned, lease,
      allowed.leased, (), allowed.principal, (), allowed.holder, (), allowed.epoch, (),
      ⟨by simp [allowed.active], allowed.unexpired⟩, (), allowed.active, ?_⟩
    cases mutation
    · exact .inl rfl
    · exact .inr (allowed.admits rfl)

end Authority

section Sessions

variable {request : Hello}

def SameButSessions (before after : LedgerState) : Prop :=
  ∃ epoch connections nonces principal nonce profile extensionProfile worker session,
    after = { before with
      connectionEpoch := epoch, activeConnections := connections, usedConnectionNonces := nonces,
      connectionPrincipalId := principal, connectionNonce := nonce, connectionProfileBindingId := profile,
      extensionProfileBindingId := extensionProfile, extensionWorkerInstanceEpoch := worker,
      extensionBrowserSessionEpoch := session }

theorem admitExtension_ok (run : admitExtension before request epochs = .ok after) :
    SameButSessions before after := by
  cases epochs with
  | none =>
    simp only [admitExtension, bind_ok, pure_ok] at run
    obtain ⟨_, rfl, rfl⟩ := run
    exact ⟨_, _, _, _, _, _, _, _, _, rfl⟩
  | some epochs =>
    simp only [admitExtension, admitExtensionEpochs, bind_ok, pure_ok] at run
    obtain ⟨_, ⟨_, _, _, _, _, _, rfl⟩, rfl⟩ := run
    exact ⟨_, _, _, _, _, _, _, _, _, rfl⟩

theorem hello_ok {ticket : AuthorityTicket} (run : hello request epochs before = .ok (ticket, after)) :
    SameButSessions before after := by
  cases extension : request.isExtension <;>
    simp only [hello, extension, bind_ok, pure_ok, Prod.mk.injEq, if_true, Bool.false_eq_true, if_false] at run
  · obtain ⟨_, _, _, _, _, rfl, _, rfl⟩ := run
    exact ⟨_, _, _, _, _, _, _, _, _, rfl⟩
  · obtain ⟨_, _, _, _, _, admitted, _, rfl⟩ := run
    obtain ⟨_, _, _, _, _, _, _, _, _, rfl⟩ := admitExtension_ok admitted
    exact ⟨_, _, _, _, _, _, _, _, _, rfl⟩

theorem disconnect_ok (run : disconnect authority before = .ok (done, after)) :
    SameButSessions before after := by
  unfold disconnect at run
  split_ifs at run <;> (cases run; exact ⟨_, _, _, _, _, _, _, _, _, rfl⟩)

theorem markDegraded_ok (run : markDegraded before = .ok (done, after)) :
    SameButEvents { before with snapshots := ∅ } after := by
  simp only [markDegraded, bind_ok, pure_ok, Prod.mk.injEq] at run
  obtain ⟨_, appended, _, rfl⟩ := run
  exact appendEvent_same appended

theorem foldlM_events {A : Type} {items : List A} {append : LedgerState -> A -> Except HostError LedgerState}
    (one : ∀ state item next, append state item = .ok next -> SameButEvents state next)
    (run : items.foldlM append before = .ok after) : SameButEvents before after :=
  foldlM_keeps (SameButEvents before)
    (fun _ _ _ _ earlier appended => earlier.trans (one _ _ _ appended)) (.refl before) run

theorem markProfileRebindRequired_ok {observed : ProfileBindingId} {count : Nat}
    (run : markProfileRebindRequired observed before = .ok (count, after)) :
    SameButEvents { before with
      spaces := before.spaces.mapValues fun spaceId space =>
        if needsRebind before observed spaceId space then rebindSpace space else space
      snapshots := before.snapshots.filter fun spaceId _ =>
        !((before.spaces.filter (needsRebind before observed)).keys).contains spaceId } after := by
  simp only [markProfileRebindRequired, bind_ok, pure_ok, Prod.mk.injEq] at run
  obtain ⟨_, appended, _, rfl⟩ := run
  exact foldlM_events (fun _ _ _ => appendEvent_same) appended

theorem createSpace_ok {label : String} {retention : RetentionPolicy} {space : SpaceDescriptor}
    (run : createSpace authority label retention before = .ok (space, after)) :
    ∃ number profiles, number = before.nextSpaceNumber + 1 ∧ before.spaces.contains ⟨number⟩ = false ∧
      SameButEvents { before with
        nextSpaceNumber := number
        spaces := before.spaces.insert ⟨number⟩ (createdSpace ⟨number⟩ label retention authority)
        profileBindings := profiles } after := by
  simp only [createSpace, createSpaceInState, bind_ok, pure_ok, require_ok, orElse_ok, checkedNext_eq_some,
    Prod.mk.injEq, Bool.not_eq_true'] at run
  obtain ⟨_, _, number, ⟨_, rfl⟩, _, absent, next, appended, _, rfl⟩ := run
  obtain ⟨sequence, generations, events, rfl⟩ := appendEvent_same appended
  exact ⟨_, _, rfl, absent, ⟨sequence, generations, events, rfl⟩⟩

theorem publishEvent_ok {scope : EventScope} {event : EventKind} {payload : Payload}
    (run : publishEvent authority scope event payload before = .ok (done, after)) : SameButEvents before after := by
  simp only [publishEvent, bind_ok, pure_ok, Prod.mk.injEq] at run
  obtain ⟨_, _, _, _, _, _, _, appended, _, rfl⟩ := run
  exact appendEventWithAttribution_same appended

theorem recordFenceWarning_ok {text : String} (run : recordFenceWarning spaceId text before = .ok (done, after)) :
    after = before.changeSpace spaceId (·.warn text) := by
  simp only [recordFenceWarning, bind_ok, pure_ok, Prod.mk.injEq] at run
  obtain ⟨_, _, _, rfl⟩ := run
  rfl

end Sessions

section Leases

variable {resync : Bool} {status : String}

theorem actionChanged_same (appended : actionChanged before spaceId actionId status resync = .ok after) :
    SameButEvents before after :=
  appendEvent_same appended

theorem leaseChanged_same {epoch : LeaseEpoch} {phase : String}
    (appended : leaseChanged before spaceId epoch phase resync = .ok after) : SameButEvents before after :=
  appendEvent_same appended

theorem spaceChanged_same {lifecycle : String} (appended : spaceChanged before spaceId lifecycle resync = .ok after) :
    SameButEvents before after :=
  appendEvent_same appended

theorem pageChanged_same {payload : Payload} (appended : pageChanged before spaceId pageId payload resync = .ok after) :
    SameButEvents before after :=
  appendEvent_same appended

def SpaceDescriptor.epoch (space : SpaceDescriptor) : LeaseEpoch := (space.lease.map (·.leaseEpoch)).getD 0

/-- A lease that an acquisition at that time leaves in place. -/
def isLeased (lease : Option Lease) (now : Timestamp) : Bool :=
  lease.any fun current => current.state == .active && decide (now < current.expiresAt)

def granted (state : LedgerState) (spaceId : SpaceId) (authority : AuthorityTicket) (lease : Lease) : LedgerState :=
  { state.changeSpace spaceId (grantedSpace · authority.principalId lease) with
    leaseHolders := state.leaseHolders.insert spaceId authority.connectionEpoch }

theorem acquireLease_ok {lease : Lease}
    (run : acquireLease spaceId authority now expiresAt renewBy before = .ok (lease, after)) :
    after = before ∨ ∃ space, before.spaces.get? spaceId = some space ∧ space.lifecycle ≠ .userOwned ∧
      isFenceLifecycle space.lifecycle = false ∧ isLeased space.lease now = false ∧
      SameButEvents (granted before spaceId authority
        (.active authority.principalId (space.epoch + 1) expiresAt renewBy)) after := by
  simp only [acquireLease, bind_ok, findSpace_ok] at run
  obtain ⟨_, _, _, _, space, found, granting⟩ := run
  split at granting
  · split_ifs at granting
    simp only [bind_ok, pure_ok, Prod.mk.injEq] at granting
    obtain ⟨_, _, _, rfl⟩ := granting
    exact .inl rfl
  · next lapsed =>
    simp only [bind_ok, pure_ok, require_ok, orElse_ok, checkedNext_eq_some, Prod.mk.injEq, Bool.not_eq_true',
      decide_eq_true_eq] at granting
    obtain ⟨_, notUser, _, notFence, _, _, epoch, ⟨_, rfl⟩, first, leased, second, changed, _, rfl⟩ := granting
    have free : isLeased space.lease now = false := by
      unfold isLeased
      cases held : space.lease with
      | none => rfl
      | some lease => simpa [held, Option.filter] using lapsed
    exact .inr ⟨space, found, notUser, notFence, free, (leaseChanged_same leased).trans (spaceChanged_same changed)⟩

theorem renewLease_ok (run : renewLease spaceId authority leaseEpoch now expiresAt renewBy before = .ok (done, after)) :
    authorizeSpace before spaceId authority leaseEpoch now true = .ok () ∧
      SameButEvents (before.changeSpace spaceId fun space =>
        { space with lease := space.lease.map (renewedLease expiresAt renewBy) }) after := by
  simp only [renewLease, bind_ok, pure_ok, Prod.mk.injEq] at run
  obtain ⟨_, _, _, allowed, _, leased, _, rfl⟩ := run
  exact ⟨allowed, leaseChanged_same leased⟩

inductive FenceChange (spaceId : SpaceId) (now : Timestamp) (token : ReconcileToken) :
    Option ActionReceipt -> Option ActionReceipt -> Prop where
  | keep (receipt : Option ActionReceipt) : FenceChange spaceId now token receipt receipt
  | cancelled {receipt next : ActionReceipt} (moved : receipt.cancel (some now) = .ok next) :
      FenceChange spaceId now token (some receipt) (some next)
  | interrupted {receipt next : ActionReceipt} (inside : receipt.spaceId = spaceId)
      (moved : receipt.markUnknown .fenceInterrupted token = .ok next) :
      FenceChange spaceId now token (some receipt) (some next)

def FencedReceipts (spaceId : SpaceId) (now : Timestamp) (token : ReconcileToken) (before after : LedgerState) : Prop :=
  ∃ actions, (∀ actionId, FenceChange spaceId now token (before.actions.get? actionId) (actions.get? actionId)) ∧
    SameButEvents { before with actions } after

variable {token : ReconcileToken} {middle : LedgerState} {space : SpaceDescriptor} {request : FenceRequest}
  {ticket : ControlTicket} {lifecycle : SpaceLifecycle}

theorem FencedReceipts.refl (state : LedgerState) : FencedReceipts spaceId now token state state :=
  ⟨state.actions, fun _ => .keep _, .refl state⟩

theorem FencedReceipts.push {next : LedgerState} {moved : ActionReceipt} (earlier : FencedReceipts spaceId now token before middle)
    (change : FenceChange spaceId now token (before.actions.get? actionId) (some moved))
    (appended : actionChanged { middle with actions := middle.actions.insert actionId moved } spaceId actionId status
      resync = .ok next) : FencedReceipts spaceId now token before next := by
  obtain ⟨actions, changes, _, _, _, rfl⟩ := earlier
  obtain ⟨sequence, generations, events, rfl⟩ := actionChanged_same appended
  refine ⟨actions.insert actionId moved, fun other => ?_, ⟨sequence, generations, events, rfl⟩⟩
  rw [Table.get?_insert]
  split_ifs with same
  · exact same ▸ change
  · exact changes other

theorem FencedReceipts.actions (fenced : FencedReceipts spaceId now token before middle) (actionId : ActionId) :
    FenceChange spaceId now token (before.actions.get? actionId) (middle.actions.get? actionId) := by
  obtain ⟨actions, changes, _, _, _, rfl⟩ := fenced
  exact changes actionId

theorem cancelQueue_ok (run : cancelQueue spaceId now before = .ok after) :
    FencedReceipts spaceId now token { before with actionQueues := before.actionQueues.erase spaceId } after := by
  unfold cancelQueue at run
  refine foldlM_keeps (FencedReceipts spaceId now token _) ?_ (.refl _) run
  intro middle actionId next _ earlier cancelling
  split at cancelling
  · exact pure_ok.mp cancelling ▸ earlier
  · next receipt queued =>
    simp only [bind_ok, mapError_ok] at cancelling
    obtain ⟨moved, cancelled, appended⟩ := cancelling
    obtain ⟨found, isQueued⟩ := Option.filter_eq_some_iff.mp queued
    refine earlier.push ?_ appended
    -- a receipt that an earlier turn cancelled is not queued any more
    have change := earlier.actions actionId
    rw [found] at change
    cases same : before.actions.get? actionId with
    | none => rw [same] at change; cases change
    | some original =>
      rw [same] at change
      cases change with
      | keep => exact .cancelled cancelled
      | cancelled moved =>
        have ended := (ActionReceipt.cancel_ok moved).2.1
        simp [ended] at isQueued
      | interrupted _ moved =>
        have ended := (ActionReceipt.markUnknown_ok moved).2.1
        simp [ended] at isQueued

theorem mem_runningIn (member : actionId ∈ runningIn before spaceId) :
    ∃ receipt, before.actions.get? actionId = some receipt ∧ receipt.spaceId = spaceId ∧
      receipt.status = .running := by
  rw [runningIn, Table.mem_keys, Table.contains_iff, Table.get?_filter] at member
  obtain ⟨receipt, found⟩ := member
  obtain ⟨found, kept⟩ := Option.filter_eq_some_iff.mp found
  simp only [Bool.and_eq_true, beq_iff_eq] at kept
  exact ⟨receipt, found, kept⟩

theorem interruptRunning_ok (run : interruptRunning spaceId token before = .ok after) :
    FencedReceipts spaceId now token before after := by
  unfold interruptRunning at run
  refine foldlM_keeps (FencedReceipts spaceId now token before) ?_ (.refl _) run
  intro middle actionId next member earlier interrupting
  split at interrupting
  · exact pure_ok.mp interrupting ▸ earlier
  · next receipt found =>
    simp only [bind_ok, mapError_ok] at interrupting
    obtain ⟨moved, interrupted, appended⟩ := interrupting
    refine earlier.push ?_ appended
    obtain ⟨original, same, inside, _⟩ := mem_runningIn member
    have change := earlier.actions actionId
    rw [found, same] at change
    have running := (ActionReceipt.markUnknown_ok interrupted).1
    rw [same]
    cases change with
    | keep => exact .interrupted inside interrupted
    | cancelled moved =>
      have ended := (ActionReceipt.cancel_ok moved).2.1
      simp [ended] at running
    | interrupted _ moved =>
      have ended := (ActionReceipt.markUnknown_ok moved).2.1
      simp [ended] at running

theorem FenceChange.trans {first second third : Option ActionReceipt} (left : FenceChange spaceId now token first second)
    (right : FenceChange spaceId now token second third) : FenceChange spaceId now token first third := by
  cases right with
  | keep => exact left
  | cancelled again =>
    have queued := (ActionReceipt.cancel_ok again).1
    cases left with
    | keep => exact .cancelled again
    | cancelled moved => simp [(ActionReceipt.cancel_ok moved).2.1] at queued
    | interrupted _ moved => simp [(ActionReceipt.markUnknown_ok moved).2.1] at queued
  | interrupted inside again =>
    have running := (ActionReceipt.markUnknown_ok again).1
    cases left with
    | keep => exact .interrupted inside again
    | cancelled moved => simp [(ActionReceipt.cancel_ok moved).2.1] at running
    | interrupted _ moved => simp [(ActionReceipt.markUnknown_ok moved).2.1] at running

theorem FencedReceipts.trans {first second third : LedgerState} (left : FencedReceipts spaceId now token first second)
    (right : FencedReceipts spaceId now token second third) : FencedReceipts spaceId now token first third := by
  have early := left.actions
  have late := right.actions
  obtain ⟨_, _, _, _, _, rfl⟩ := left
  obtain ⟨_, _, _, _, _, rfl⟩ := right
  exact ⟨_, fun actionId => (early actionId).trans (late actionId), ⟨_, _, _, rfl⟩⟩

theorem bumpPages_ok {next : SpaceDescriptor} (run : bumpPages space = .ok next) :
    ∃ pages, space.pages.mapM bumpPageGenerations = .ok pages ∧ next = { space with pages } := by
  simp only [bumpPages, bind_ok, pure_ok] at run
  obtain ⟨pages, bumped, rfl⟩ := run
  exact ⟨pages, bumped, rfl⟩

def fenceStarted (state : LedgerState) (request : FenceRequest) (space : SpaceDescriptor)
    (actions : Table ActionId ActionReceipt) (pending : PendingFenceRecord) : LedgerState :=
  { state with
    spaces := state.spaces.insert request.spaceId { space with lifecycle := .fencePending }
    snapshots := state.snapshots.erase request.spaceId
    actionQueues := state.actionQueues.erase request.spaceId
    actions := actions
    pendingFences := state.pendingFences.insert request.spaceId pending }

theorem startFence_ok {principalId : PrincipalId} {purpose : FencePurpose}
    (run : startFence before space request principalId purpose now token = .ok after) :
    ∃ pages actions pending, pending = pendingFence before request principalId purpose ∧
      space.pages.mapM bumpPageGenerations = .ok pages ∧
      (∀ actionId, FenceChange request.spaceId now token (before.actions.get? actionId) (actions.get? actionId)) ∧
      SameButEvents (fenceStarted before request { space with pages } actions pending) after := by
  simp only [startFence, bind_ok, pure_ok] at run
  obtain ⟨bumped, bumping, middle, cancelled, last, interrupted, rfl⟩ := run
  obtain ⟨pages, moved, rfl⟩ := bumpPages_ok bumping
  obtain ⟨actions, changes, _, _, _, rfl⟩ := (cancelQueue_ok cancelled).trans (interruptRunning_ok interrupted)
  exact ⟨pages, actions, _, rfl, moved, changes, ⟨_, _, _, rfl⟩⟩

structure FencesFrom (epoch : LeaseEpoch) (request : FenceRequest) (pending : PendingFenceRecord) : Prop where
  oldEpoch : request.oldEpoch = some epoch
  fenceEpoch : request.fenceEpoch = epoch + 1
  recorded : pending.oldEpoch = request.oldEpoch
  numbered : pending.fenceEpoch = request.fenceEpoch

theorem returnControl_ok (run : returnControl spaceId authority leaseEpoch now before = .ok (request, after)) :
    ∃ space lease pages actions pending,
      Authorized before spaceId authority leaseEpoch now true space lease ∧
      space.pages.mapM bumpPageGenerations = .ok pages ∧ request.spaceId = spaceId ∧
      FencesFrom leaseEpoch request pending ∧
      (∀ actionId, FenceChange spaceId now (.returned (leaseEpoch + 1)) (before.actions.get? actionId)
        (actions.get? actionId)) ∧
      SameButEvents (fenceStarted before request
        { space with lease := some { lease with leaseEpoch := leaseEpoch + 1, state := .fenced }, pages }
        actions pending) after := by
  simp only [returnControl, bind_ok, pure_ok, orElse_ok, findSpace_ok, checkedNext_eq_some, Prod.mk.injEq] at run
  obtain ⟨_, _, _, allowed, fenceEpoch, ⟨_, rfl⟩, space, found, lease, leased, middle, started, last, changed, rfl,
    rfl⟩ := run
  obtain ⟨space', lease', authorized⟩ := authorizeSpace_ok.mp allowed
  obtain rfl : space' = space := Option.some.inj (authorized.found.symm.trans found)
  obtain rfl : lease' = lease := Option.some.inj (authorized.leased.symm.trans leased)
  obtain ⟨pages, actions, pending, recorded, bumped, changes, same⟩ := startFence_ok started
  exact ⟨space', lease', pages, actions, pending, authorized, bumped, rfl, ⟨rfl, rfl, recorded ▸ rfl, recorded ▸ rfl⟩, changes,
    same.trans (leaseChanged_same changed)⟩

theorem takeover_ok (run : takeover spaceId authority now expiresAt renewBy before = .ok (request, after)) :
    ∃ space lease pages actions pending, before.spaces.get? spaceId = some space ∧ space.lease = some lease ∧
      space.lifecycle ≠ .userOwned ∧ isFenceLifecycle space.lifecycle = false ∧
      lease.principalId = authority.principalId ∧
      space.pages.mapM bumpPageGenerations = .ok pages ∧ request.spaceId = spaceId ∧
      FencesFrom lease.leaseEpoch request pending ∧
      (∀ actionId, FenceChange spaceId now (.fence (lease.leaseEpoch + 1)) (before.actions.get? actionId)
        (actions.get? actionId)) ∧
      SameButEvents (fenceStarted
        { before with leaseHolders := before.leaseHolders.insert spaceId authority.connectionEpoch } request
        { space with
          owner := authority.principalId
          lease := some (.active authority.principalId (lease.leaseEpoch + 1) expiresAt renewBy)
          pages } actions pending) after := by
  simp only [takeover, bind_ok, pure_ok, require_ok, orElse_ok, findSpace_ok, checkedNext_eq_some, Prod.mk.injEq,
    Bool.and_eq_true, beq_iff_eq, Bool.not_eq_true', decide_eq_true_eq] at run
  obtain ⟨_, _, _, _, space, found, _, notUser, _, notFence, lease, leased, _, owned, _, _, _, ⟨_, rfl⟩, middle,
    started, last, changed, rfl, rfl⟩ := run
  obtain ⟨pages, actions, pending, recorded, bumped, changes, same⟩ := startFence_ok started
  exact ⟨space, lease, pages, actions, pending, found, leased, notUser, notFence, owned.1, bumped, rfl,
    ⟨rfl, rfl, recorded ▸ rfl, recorded ▸ rfl⟩, changes,
    same.trans (leaseChanged_same changed)⟩

theorem takeoverWithControlTicket_ok
    (run : takeoverWithControlTicket spaceId authority ticket expiresAt renewBy before = .ok (request, after)) :
    ∃ space lease pages pending, before.spaces.get? spaceId = some space ∧ space.lease = some lease ∧
      space.lifecycle = .userOwned ∧ space.pages.mapM bumpPageGenerations = .ok pages ∧
      request.spaceId = spaceId ∧ FencesFrom lease.leaseEpoch request pending ∧
      SameButEvents { before with
        spaces := before.spaces.insert spaceId { space with
          owner := authority.principalId
          lease := some (.active authority.principalId (lease.leaseEpoch + 1) expiresAt renewBy)
          lifecycle := .fencePending
          pages }
        leaseHolders := before.leaseHolders.insert spaceId authority.connectionEpoch
        controlTickets := before.controlTickets.erase spaceId
        takeoverProofs := before.takeoverProofs.erase spaceId
        snapshots := before.snapshots.erase spaceId
        pendingFences := before.pendingFences.insert spaceId pending } after := by
  simp only [takeoverWithControlTicket, bind_ok, pure_ok, require_ok, orElse_ok, findSpace_ok, checkedNext_eq_some,
    Prod.mk.injEq, Bool.and_eq_true, beq_iff_eq] at run
  obtain ⟨_, _, _, _, space, found, lease, leased, _, ⟨⟨⟨⟨userOwned, _⟩, _⟩, _⟩, _⟩, _, ⟨_, rfl⟩, bumped, bumping, last,
    changed, rfl, rfl⟩ := run
  obtain ⟨pages, moved, rfl⟩ := bumpPages_ok bumping
  exact ⟨space, lease, pages, _, found, leased, userOwned, moved, rfl, ⟨rfl, rfl, rfl, rfl⟩, leaseChanged_same changed⟩

theorem acknowledgeFence_ok {renewal : Option (Timestamp × Timestamp)} {request : FenceRequest × Bool}
    (run : acknowledgeFence spaceId authority leaseEpoch renewal before = .ok (request, after)) :
    after = before ∨ ∃ space expiresAt renewBy,
      before.spaces.get? spaceId = some space ∧ space.lifecycle = .fencePending ∧
      SameButEvents (before.changeSpace spaceId fun space =>
        { space with lease := space.lease.map (renewedLease expiresAt renewBy) }) after := by
  simp only [acknowledgeFence, bind_ok, require_ok, orElse_ok, Bool.and_eq_true, Option.any_eq_true,
    beq_iff_eq] at run
  obtain ⟨_, _, _, _, _, ⟨⟨_, space, found, pending, _⟩, _⟩, _, _, rest⟩ := run
  split at rest
  · simp only [pure_ok, Prod.mk.injEq] at rest
    exact .inl rest.2.symm
  · simp only [bind_ok, pure_ok, Prod.mk.injEq] at rest
    obtain ⟨_, changed, _, rfl⟩ := rest
    exact .inr ⟨space, _, _, found, pending, leaseChanged_same changed⟩

theorem finishFence_ok {acknowledged : Bool} {error : Option String}
    (run : finishFence request authority acknowledged error before = .ok (lifecycle, after)) :
    before.pendingFences.contains request.spaceId = true ∧ ∃ space,
      before.spaces.get? request.spaceId = some space ∧ space.epoch = request.fenceEpoch ∧
      ((acknowledged = true ∧ ∃ proofs, SameButEvents { before.changeSpace request.spaceId reclaimedSpace with
          pendingFences := before.pendingFences.erase request.spaceId
          takeoverProofs := proofs } after) ∨
        SameButEvents (before.changeSpace request.spaceId (stillFencedSpace error)) after) := by
  simp only [finishFence, bind_ok, require_ok, orElse_ok, findSpace_ok, ownedFence, Option.any_eq_true,
    Bool.and_eq_true, beq_iff_eq] at run
  obtain ⟨_, _, pending, found, _, _, space, located, _, ⟨⟨lease, leased, _, epoch⟩, _⟩, rest⟩ := run
  refine ⟨Table.contains_iff _ _ |>.mpr ⟨pending, found⟩, space, located, by simp [SpaceDescriptor.epoch, leased, epoch], ?_⟩
  split_ifs at rest with acknowledged
  · simp only [bind_ok, pure_ok, Prod.mk.injEq] at rest
    obtain ⟨_, _, _, changed, _, rfl⟩ := rest
    exact .inl ⟨acknowledged, _, spaceChanged_same changed⟩
  · simp only [bind_ok, pure_ok, Prod.mk.injEq] at rest
    obtain ⟨_, changed, _, rfl⟩ := rest
    exact .inr (spaceChanged_same changed)

theorem finishUserReturn_ok {releasedEpoch : LeaseEpoch}
    (run : finishUserReturn request releasedEpoch authority before = .ok (ticket, after)) :
    ∃ space lease record, before.spaces.get? request.spaceId = some space ∧ space.lifecycle = .fencePending ∧
      space.lease = some lease ∧
      SameButEvents { before.changeSpace request.spaceId returnedSpace with
        leaseHolders := before.leaseHolders.erase request.spaceId
        pendingFences := before.pendingFences.erase request.spaceId
        controlTickets := before.controlTickets.insert request.spaceId record } after := by
  simp only [finishUserReturn, bind_ok, pure_ok, require_ok, orElse_ok, findSpace_ok, Prod.mk.injEq,
    Bool.and_eq_true, beq_iff_eq, leaseStateIn, Option.any_eq_true] at run
  obtain ⟨_, _, _, _, _, _, _, _, space, found, _, ⟨⟨pending, _⟩, lease, held, _⟩, _, leased, _, changed, _, rfl⟩ := run
  exact ⟨space, lease, _, found, pending, held, (leaseChanged_same leased).trans (spaceChanged_same changed)⟩

theorem setFencedSpaceLifecycle_ok
    (run : setFencedSpaceLifecycle spaceId authority leaseEpoch lifecycle now before = .ok (done, after)) :
    authorizeSpace before spaceId authority leaseEpoch now true = .ok () ∧
      SameButEvents { before.changeSpace spaceId (fencedSpace lifecycle) with
        takeoverProofs := before.takeoverProofs.erase spaceId } after := by
  simp only [setFencedSpaceLifecycle, bind_ok, pure_ok, Prod.mk.injEq] at run
  obtain ⟨_, allowed, _, changed, _, rfl⟩ := run
  exact ⟨allowed, spaceChanged_same changed⟩

end Leases

section Pages

variable {page : PageDescriptor} {generation : PageGeneration}

inductive PagesChanged : Option SpaceDescriptor -> Option SpaceDescriptor -> Prop where
  | none : PagesChanged none none
  | some (space : SpaceDescriptor) (pages : List PageDescriptor) (warnings : List String) :
      PagesChanged (some space) (some { space with pages, warnings })

theorem PagesChanged.refl (space : Option SpaceDescriptor) : PagesChanged space space := by
  cases space with
  | none => exact .none
  | some space => exact .some space space.pages space.warnings

theorem PagesChanged.trans {first second third : Option SpaceDescriptor} (left : PagesChanged first second)
    (right : PagesChanged second third) : PagesChanged first third := by
  cases left with
  | none => exact right
  | some space pages warnings =>
    cases right
    exact .some space _ _

def PageWork (before after : LedgerState) : Prop :=
  ∃ spaces snapshots nextPageNumber,
    (∀ spaceId, PagesChanged (before.spaces.get? spaceId) (spaces.get? spaceId)) ∧
    SameButEvents { before with spaces, snapshots, nextPageNumber } after

theorem PageWork.refl (state : LedgerState) : PageWork state state :=
  ⟨state.spaces, state.snapshots, state.nextPageNumber, fun _ => .refl _, .refl state⟩

theorem PageWork.of_events (same : SameButEvents before after) : PageWork before after :=
  ⟨before.spaces, before.snapshots, before.nextPageNumber, fun _ => .refl _, same⟩

theorem PageWork.trans {first second third : LedgerState} (left : PageWork first second)
    (right : PageWork second third) : PageWork first third := by
  obtain ⟨_, _, _, early, _, _, _, rfl⟩ := left
  obtain ⟨spaces, snapshots, number, late, _, _, _, rfl⟩ := right
  exact ⟨spaces, snapshots, number, fun spaceId => (early spaceId).trans (late spaceId), ⟨_, _, _, rfl⟩⟩

theorem PageWork.snapshots (state : LedgerState) (snapshots : Table SpaceId (Table PageId SnapshotCacheRecord)) :
    PageWork state { state with snapshots } :=
  ⟨state.spaces, snapshots, state.nextPageNumber, fun _ => .refl _, .refl _⟩

theorem PageWork.nextPageNumber (state : LedgerState) (nextPageNumber : Nat) :
    PageWork state { state with nextPageNumber } :=
  ⟨state.spaces, state.snapshots, nextPageNumber, fun _ => .refl _, .refl _⟩

theorem PageWork.changeSpace (state : LedgerState) (spaceId : SpaceId) {change : SpaceDescriptor -> SpaceDescriptor}
    (pagesOnly : ∀ space, ∃ pages warnings, change space = { space with pages, warnings }) :
    PageWork state (state.changeSpace spaceId change) := by
  refine ⟨state.spaces.modify spaceId change, state.snapshots, state.nextPageNumber, fun other => ?_, .refl _⟩
  rw [Table.get?_modify]
  split_ifs with same
  · subst same
    cases found : state.spaces.get? other with
    | none => exact .none
    | some space =>
      obtain ⟨pages, warnings, changed⟩ := pagesOnly space
      rw [Option.map_some, changed]
      exact .some space pages warnings
  · exact .refl _

theorem PageWork.setPage (state : LedgerState) (spaceId : SpaceId) (page : PageDescriptor) :
    PageWork state (state.setPage spaceId page) :=
  .changeSpace state spaceId fun space => ⟨_, space.warnings, rfl⟩

theorem PageWork.warn (state : LedgerState) (spaceId : SpaceId) (text : String) :
    PageWork state (state.changeSpace spaceId (·.warn text)) :=
  .changeSpace state spaceId fun space => ⟨space.pages, _, rfl⟩

theorem PageWork.appended {middle : LedgerState} {scope : EventScope} {event : EventKind} {payload : Payload}
    {reason : Option DirtyReason} {resync : Bool} (work : PageWork before middle)
    (appended : appendEvent middle scope event payload reason resync = .ok after) : PageWork before after :=
  work.trans (.of_events (appendEvent_same appended))

def SnapshotWork (before after : LedgerState) : Prop :=
  ∃ snapshots, SameButEvents { before with snapshots } after

theorem SnapshotWork.refl (state : LedgerState) : SnapshotWork state state := ⟨state.snapshots, .refl state⟩

theorem SnapshotWork.of_snapshots (state : LedgerState) (snapshots : Table SpaceId (Table PageId SnapshotCacheRecord)) :
    SnapshotWork state { state with snapshots } :=
  ⟨snapshots, .refl _⟩

theorem SnapshotWork.pageWork (work : SnapshotWork before after) : PageWork before after := by
  obtain ⟨snapshots, same⟩ := work
  exact (PageWork.snapshots before snapshots).trans (.of_events same)

theorem SnapshotWork.spaces (work : SnapshotWork before after) : after.spaces = before.spaces := by
  obtain ⟨_, same⟩ := work
  exact same.spaces

theorem createPage_work {label : String} {created : PageId}
    (run : createPage spaceId authority leaseEpoch label now before = .ok (created, after)) : PageWork before after := by
  simp only [createPage, bind_ok, pure_ok, Prod.mk.injEq] at run
  obtain ⟨_, _, number, _, _, _, _, _, _, appended, _, rfl⟩ := run
  refine PageWork.appended ?_ appended
  exact (PageWork.changeSpace before spaceId fun space => ⟨_, space.warnings, rfl⟩).trans (.nextPageNumber _ number)

theorem bindPage_work {target : BoundTarget}
    (run : bindPage spaceId pageId authority leaseEpoch now target before = .ok (page, after)) :
    PageWork before after := by
  simp only [bindPage, bind_ok, pure_ok, Prod.mk.injEq] at run
  obtain ⟨_, _, _, _, _, _, _, _, _, _, _, _, _, _, _, _, _, appended, _, rfl⟩ := run
  exact PageWork.appended ((PageWork.setPage before spaceId _).trans (.snapshots _ _)) appended

theorem storeLostPage_work (run : storeLostPage spaceId page before = .ok (done, after)) : PageWork before after := by
  simp only [storeLostPage, bind_ok, pure_ok, Prod.mk.injEq] at run
  obtain ⟨_, appended, _, rfl⟩ := run
  exact PageWork.appended ((PageWork.setPage before spaceId page).trans (.snapshots _ _)) appended

theorem markPageLost_work
    (run : (markPageLost spaceId pageId authority leaseEpoch now registry before).2 = .ok (done, after)) :
    PageWork before after := by
  unfold markPageLost at run
  split at run
  · cases run
  · exact storeLostPage_work run

theorem beginClosePage_work
    (run : beginClosePage spaceId pageId authority leaseEpoch now before = .ok (generation, after)) :
    PageWork before after := by
  simp only [beginClosePage, bind_ok, pure_ok, Prod.mk.injEq] at run
  obtain ⟨_, _, _, appended, _, rfl⟩ := run
  exact PageWork.appended (.changeSpace before spaceId fun space => ⟨_, space.warnings, rfl⟩) appended

theorem completeClosePage_work
    (run : completeClosePage spaceId pageId generation authority leaseEpoch now before = .ok (done, after)) :
    PageWork before after := by
  simp only [completeClosePage, bind_ok, pure_ok, Prod.mk.injEq] at run
  obtain ⟨_, _, _, _, _, _, _, _, _, appended, _, rfl⟩ := run
  exact PageWork.appended ((PageWork.setPage before spaceId _).trans (.snapshots _ _)) appended

theorem missingCleanupPages_snapshots {present : List PageId} {proofs : List CleanupProof}
    (run : missingCleanupPages spaceId authority leaseEpoch now present before = .ok (proofs, after)) :
    SnapshotWork before after := by
  simp only [missingCleanupPages, bind_ok, pure_ok, Prod.mk.injEq] at run
  obtain ⟨_, _, _, _, _, rfl⟩ := run
  exact .refl before

theorem authorizeCleanup_snapshots
    (run : authorizeCleanup spaceId proof authority leaseEpoch now before = .ok (done, after)) :
    SnapshotWork before after := by
  simp only [authorizeCleanup, bind_ok, pure_ok, Prod.mk.injEq] at run
  obtain ⟨_, _, _, rfl⟩ := run
  exact .refl before

theorem finishPageCleanup_work
    (run : finishPageCleanup spaceId proof authority leaseEpoch now before = .ok (done, after)) :
    PageWork before after := by
  simp only [finishPageCleanup, bind_ok, pure_ok, Prod.mk.injEq] at run
  obtain ⟨_, _, _, _, _, _, _, appended, _, rfl⟩ := run
  exact PageWork.appended ((PageWork.setPage before spaceId _).trans (.snapshots _ _)) appended

theorem recordCleanupFailure_work {code : String}
    (run : recordCleanupFailure spaceId proof authority leaseEpoch now code before = .ok (done, after)) :
    PageWork before after := by
  simp only [recordCleanupFailure, bind_ok, pure_ok, Prod.mk.injEq] at run
  obtain ⟨_, _, _, _, _, _, _, first, _, second, _, rfl⟩ := run
  refine PageWork.appended (PageWork.appended ?_ first) second
  exact ((PageWork.setPage before spaceId _).trans (.snapshots _ _)).trans (.warn _ _ _)

theorem adoptObservation_work {record : ObservedPage} {changed : Bool}
    (run : adoptObservation before record = .ok (after, changed)) : PageWork before after := by
  unfold adoptObservation at run
  split at run
  · obtain ⟨rfl, _⟩ := Prod.mk.inj (pure_ok.mp run)
    exact .refl before
  · simp only [bind_ok, pure_ok, Prod.mk.injEq] at run
    obtain ⟨_, _, _, _, rfl, _⟩ := run
    exact (PageWork.setPage before record.spaceId _).trans (.snapshots _ _)

theorem adoptObservations_work {records changed : List ObservedPage}
    (run : adoptObservations before records = .ok (after, changed)) : PageWork before after := by
  induction records generalizing before changed with
  | nil =>
    obtain ⟨rfl, _⟩ := Prod.mk.inj (pure_ok.mp run)
    exact .refl before
  | cons record rest ih =>
    simp only [adoptObservations, bind_ok, pure_ok, Prod.exists, Prod.mk.injEq] at run
    obtain ⟨middle, _, first, last, _, others, rfl, _⟩ := run
    exact (adoptObservation_work first).trans (ih others)

theorem reconcileBridgePages_work {observation : List ObservedPage}
    (run : reconcileBridgePages observation before = .ok (done, after)) : PageWork before after := by
  simp only [reconcileBridgePages, bind_ok, pure_ok, Prod.exists, Prod.mk.injEq] at run
  obtain ⟨middle, _, adopted, _, appended, _, rfl⟩ := run
  exact (adoptObservations_work adopted).trans (.of_events (foldlM_events (fun _ _ _ => pageChanged_same) appended))

theorem applyScopedEvent_work
    (run : (applyScopedEvent event authority epochs spaceId pageId now registry before).2 = .ok (done, after)) :
    PageWork before after := by
  unfold applyScopedEvent at run
  split at run
  · cases run
  · cases run
    exact .refl before
  · simp only [bind_ok, pure_ok, Prod.mk.injEq] at run
    obtain ⟨_, appended, _, rfl⟩ := run
    refine PageWork.trans ?_ (.of_events (appendEventWithAttribution_same appended))
    split_ifs
    · exact (PageWork.setPage before spaceId _).trans (.snapshots _ _)
    · exact .setPage before spaceId _

theorem applyGlobalEvent_work
    (run : (applyGlobalEvent event authority epochs now registry before).2 = .ok (done, after)) :
    PageWork before after := by
  unfold applyGlobalEvent at run
  split at run
  · cases run
  · simp only [bind_ok, pure_ok, Prod.mk.injEq] at run
    obtain ⟨_, appended, _, rfl⟩ := run
    exact (PageWork.snapshots before ∅).trans (.of_events (appendEventWithAttribution_same appended))

theorem applyBridgeEvent_work
    (run : (applyBridgeEvent event authority epochs now registry before).2 = .ok (done, after)) :
    PageWork before after := by
  unfold applyBridgeEvent at run
  cases space : event.spaceId with
  | none =>
    rw [space] at run
    exact applyGlobalEvent_work run
  | some spaceId =>
    cases page : event.pageId with
    | none =>
      rw [space, page] at run
      exact applyGlobalEvent_work run
    | some pageId =>
      rw [space, page] at run
      exact applyScopedEvent_work run

theorem recheckDispatch_snapshots {codec : Codec} {actionId : ActionId} {request : ActionRequest}
    (run : (recheckDispatch codec actionId request authority leaseEpoch now registry before).2 = .ok (done, after)) :
    SnapshotWork before after := by
  unfold recheckDispatch at run
  split at run
  · cases run
  · split at run
    · simp only [refuseRunning, bind_ok] at run
      obtain ⟨_, _, _, _, refused⟩ := run
      cases refused
    · cases run
      exact .refl before

theorem issuingEnvelope_snapshots
    (run : issuingEnvelope spaceId pageId authority leaseEpoch now before = .ok (envelope, after)) :
    SnapshotWork before after := by
  simp only [issuingEnvelope, bind_ok, pure_ok, Prod.mk.injEq] at run
  obtain ⟨_, _, _, _, _, _, _, _, _, rfl⟩ := run
  exact .refl before

theorem captureGeneration_snapshots
    (run : captureGeneration spaceId pageId authority leaseEpoch now before = .ok (generation, after)) :
    SnapshotWork before after := by
  simp only [captureGeneration, bind_ok, pure_ok, Prod.mk.injEq] at run
  obtain ⟨_, _, _, rfl⟩ := run
  exact .refl before

theorem commitSnapshot_snapshots
    (run : commitSnapshot spaceId pageId authority leaseEpoch now generation envelope before = .ok (done, after)) :
    SnapshotWork before after := by
  simp only [commitSnapshot, bind_ok, pure_ok, Prod.mk.injEq] at run
  obtain ⟨_, _, _, _, _, appended, _, rfl⟩ := run
  exact ⟨_, appendEvent_same appended⟩

theorem putSnapshot_snapshots
    (run : (putSnapshot authority envelope leaseEpoch now registry before).2 = .ok (done, after)) :
    SnapshotWork before after := by
  unfold putSnapshot at run
  split at run
  · cases run
  · cases run
    exact .of_snapshots before _

theorem markSnapshotDirty_snapshots {marked : Bool}
    (run : (markSnapshotDirty authority spaceId pageId leaseEpoch now registry before).2 = .ok (marked, after)) :
    SnapshotWork before after := by
  unfold markSnapshotDirty at run
  split at run
  · cases run
  · split_ifs at run
    · cases run
      exact .of_snapshots before _
    · cases run
      exact .refl before

-- The transitions that do no more than page work, for the case analyses of a step.
class Works {A : Type} (transition : Transition A) : Prop where
  pageWork : ∀ {value before after}, transition before = .ok (value, after) -> PageWork before after

theorem Committable.works {A : Type} {transition : Transition A} [Works transition] {config : LedgerConfig} {value : A}
    {next : LedgerState} (_ : Committable config transition before after)
    (run : transition before = .ok (value, next)) : PageWork before next :=
  Works.pageWork run

section Works

variable {observation : List ObservedPage} {text label code : String} {target : BoundTarget} {present : List PageId}
  {request : ActionRequest}

instance : Works fun state => (applyBridgeEvent event authority epochs now registry state).2 := ⟨applyBridgeEvent_work⟩

instance : Works (reconcileBridgePages observation) := ⟨reconcileBridgePages_work⟩

instance : Works (recordFenceWarning spaceId text) := ⟨fun run => recordFenceWarning_ok run ▸ .warn _ _ _⟩

instance : Works (createPage spaceId authority leaseEpoch label now) := ⟨createPage_work⟩

instance : Works (bindPage spaceId pageId authority leaseEpoch now target) := ⟨bindPage_work⟩

instance : Works fun state => (markPageLost spaceId pageId authority leaseEpoch now registry state).2 :=
  ⟨markPageLost_work⟩

instance : Works (beginClosePage spaceId pageId authority leaseEpoch now) := ⟨beginClosePage_work⟩

instance : Works (completeClosePage spaceId pageId generation authority leaseEpoch now) := ⟨completeClosePage_work⟩

instance : Works (missingCleanupPages spaceId authority leaseEpoch now present) :=
  ⟨fun run => (missingCleanupPages_snapshots run).pageWork⟩

instance : Works (authorizeCleanup spaceId proof authority leaseEpoch now) :=
  ⟨fun run => (authorizeCleanup_snapshots run).pageWork⟩

instance : Works (finishPageCleanup spaceId proof authority leaseEpoch now) := ⟨finishPageCleanup_work⟩

instance : Works (recordCleanupFailure spaceId proof authority leaseEpoch now code) := ⟨recordCleanupFailure_work⟩

instance : Works fun state => (recheckDispatch codec actionId request authority leaseEpoch now registry state).2 :=
  ⟨fun run => (recheckDispatch_snapshots run).pageWork⟩

instance : Works (issuingEnvelope spaceId pageId authority leaseEpoch now) :=
  ⟨fun run => (issuingEnvelope_snapshots run).pageWork⟩

instance : Works (captureGeneration spaceId pageId authority leaseEpoch now) :=
  ⟨fun run => (captureGeneration_snapshots run).pageWork⟩

instance : Works (commitSnapshot spaceId pageId authority leaseEpoch now generation envelope) :=
  ⟨fun run => (commitSnapshot_snapshots run).pageWork⟩

instance : Works fun state => (putSnapshot authority envelope leaseEpoch now registry state).2 :=
  ⟨fun run => (putSnapshot_snapshots run).pageWork⟩

instance : Works fun state => (markSnapshotDirty authority spaceId pageId leaseEpoch now registry state).2 :=
  ⟨fun run => (markSnapshotDirty_snapshots run).pageWork⟩

end Works

end Pages

section Finishing

variable {maxCount : Nat}

theorem claimFinish_ok {claimed : List CleanupProof × RetentionPolicy}
    (run : claimFinish spaceId authority leaseEpoch now before = .ok (claimed, after)) :
    ∃ draining space, draining = (space.lifecycle == SpaceLifecycle.draining) ∧
      before.spaces.get? spaceId = some space ∧
      authorizeFinishClaim before spaceId authority leaseEpoch now draining = .ok () ∧
      spaceHasUnresolvedActions before spaceId = false ∧
      SameButEvents ((before.changeSpace spaceId (drainingSpace draining)).dropSnapshots spaceId) after := by
  simp only [claimFinish, bind_ok, pure_ok, require_ok, findSpace_ok, Prod.mk.injEq, Bool.not_eq_true'] at run
  obtain ⟨_, allowed, _, resolved, space, found, _, closed, _, changed, _, rfl⟩ := run
  rw [found] at allowed closed
  refine ⟨_, space, rfl, found, allowed, resolved, ?_⟩
  exact (foldlM_events (fun _ _ _ => pageChanged_same) closed).trans (spaceChanged_same changed)

theorem authorizeFinishClaim_ok {allowDraining : Bool}
    (run : authorizeFinishClaim before spaceId authority leaseEpoch now allowDraining = .ok done) :
    ∃ space lease, before.spaces.get? spaceId = some space ∧ space.lease = some lease ∧
      (space.lifecycle = .agentOwned ∨ space.lifecycle = .recovering ∨
        allowDraining = true ∧ space.lifecycle = .draining) ∧
      lease.leaseEpoch = leaseEpoch := by
  simp only [authorizeFinishClaim, bind_ok, require_ok, orElse_ok, findSpace_ok, Bool.or_eq_true, Bool.and_eq_true,
    beq_iff_eq] at run
  obtain ⟨_, _, _, _, space, found, _, _, _, lifecycle, lease, leased, _, _, _, _, _, epoch, _⟩ := run
  exact ⟨space, lease, found, leased, or_assoc.mp lifecycle, epoch⟩

theorem completeFinish_ok {retention : RetentionPolicy} {final : SpaceLifecycle}
    (run : completeFinish spaceId authority leaseEpoch now retention before = .ok (final, after)) :
    (final = .finished ∨ final = .released) ∧
      authorizeFinishClaim before spaceId authority leaseEpoch now true = .ok () ∧
      SameButEvents { (before.changeSpace spaceId (finishedSpace final)).dropSnapshots spaceId with
        takeoverProofs := before.takeoverProofs.erase spaceId } after := by
  simp only [completeFinish, bind_ok, pure_ok, Prod.mk.injEq] at run
  obtain ⟨_, allowed, _, _, _, _, _, leased, _, changed, rfl, rfl⟩ := run
  refine ⟨?_, allowed, (leaseChanged_same leased).trans (spaceChanged_same changed)⟩
  split_ifs <;> simp

theorem releaseSpace_ok (run : releaseSpace spaceId authority leaseEpoch now before = .ok (done, after)) :
    after = before ∨ ∃ space, before.spaces.get? spaceId = some space ∧ space.lifecycle = .finished ∧
      SameButEvents { (before.changeSpace spaceId fun space => { space with lifecycle := .released }).dropSnapshots
          spaceId with
        takeoverProofs := before.takeoverProofs.erase spaceId } after := by
  simp only [releaseSpace, bind_ok, findSpace_ok] at run
  obtain ⟨_, allowed, space, found, rest⟩ := run
  split_ifs at rest with already
  · simp only [pure_ok, Prod.mk.injEq] at rest
    exact .inl rest.2.symm
  · simp only [bind_ok, pure_ok, Prod.mk.injEq] at rest
    obtain ⟨_, _, _, _, _, changed, _, rfl⟩ := rest
    simp only [authorizeReleaseClaim, bind_ok, require_ok, findSpace_ok, Bool.or_eq_true, beq_iff_eq] at allowed
    obtain ⟨_, _, _, _, claimed, same, _, lifecycle, _⟩ := allowed
    obtain rfl : claimed = space := Option.some.inj (same.symm.trans found)
    exact .inr ⟨claimed, found, lifecycle.resolve_right already, spaceChanged_same changed⟩

structure PrunedBy (pruned : List SpaceId) (before after : LedgerState) : Prop where
  actions : ∀ actionId, after.actions.get? actionId =
    (before.actions.get? actionId).filter fun receipt => !pruned.contains receipt.spaceId
  spaces : ∀ spaceId, after.spaces.get? spaceId =
    if spaceId ∈ pruned then none else before.spaces.get? spaceId
  queues : ∀ spaceId, after.actionQueues.get? spaceId =
    if spaceId ∈ pruned then none else before.actionQueues.get? spaceId
  leaseHolders : after.leaseHolders = before.leaseHolders
  nextSpaceNumber : after.nextSpaceNumber = before.nextSpaceNumber
  brokerEpoch : after.brokerEpoch = before.brokerEpoch
  pendingFences : after.pendingFences = before.pendingFences
  controlTickets : after.controlTickets = before.controlTickets
  takeoverProofs : ∀ spaceId, after.takeoverProofs.get? spaceId =
    if spaceId ∈ pruned then none else before.takeoverProofs.get? spaceId
  connections : after.activeConnections = before.activeConnections ∧ after.connectionEpoch = before.connectionEpoch ∧
    after.usedConnectionNonces = before.usedConnectionNonces

theorem PrunedBy.nil (state : LedgerState) : PrunedBy [] state state where
  actions actionId := by cases state.actions.get? actionId <;> simp [Option.filter]
  spaces _ := by simp
  queues _ := by simp
  leaseHolders := rfl
  nextSpaceNumber := rfl
  brokerEpoch := rfl
  pendingFences := rfl
  controlTickets := rfl
  takeoverProofs _ := by simp
  connections := ⟨rfl, rfl, rfl⟩

theorem withoutSpace_actions (state : LedgerState) (spaceId : SpaceId) (actionId : ActionId) :
    (withoutSpace state spaceId).actions.get? actionId =
      (state.actions.get? actionId).filter fun receipt => !(receipt.spaceId == spaceId) := by
  simp only [withoutSpace, Table.get?_filter, Table.contains]
  cases state.actions.get? actionId with
  | none => rfl
  | some receipt => by_cases inside : receipt.spaceId = spaceId <;> simp [inside, Option.filter]

theorem PrunedBy.cons {pruned : List SpaceId} {middle next : LedgerState} (earlier : PrunedBy pruned before middle)
    (run : pruneSpace middle spaceId = .ok next) : PrunedBy (spaceId :: pruned) before next := by
  simp only [pruneSpace, bind_ok, pure_ok] at run
  obtain ⟨last, appended, rfl⟩ := run
  obtain ⟨_, _, _, rfl⟩ := appendEvent_same appended
  refine ⟨fun actionId => ?_, fun other => ?_, fun other => ?_, earlier.leaseHolders, earlier.nextSpaceNumber,
    earlier.brokerEpoch, earlier.pendingFences, earlier.controlTickets, fun other => ?_, earlier.connections⟩
  · change (withoutSpace middle spaceId).actions.get? actionId = _
    rw [withoutSpace_actions, earlier.actions, Option.filter_filter]
    congr 1
    funext receipt
    simp [Bool.and_comm, beq_eq_decide]
  · change (middle.spaces.erase spaceId).get? other = _
    rw [Table.get?_erase, earlier.spaces]
    by_cases same : other = spaceId <;> simp [same]
  · change (middle.actionQueues.erase spaceId).get? other = _
    rw [Table.get?_erase, earlier.queues]
    by_cases same : other = spaceId <;> simp [same]
  · change (middle.takeoverProofs.erase spaceId).get? other = _
    rw [Table.get?_erase, earlier.takeoverProofs]
    by_cases same : other = spaceId <;> simp [same]

theorem mem_pruneCandidates {principalId : PrincipalId}
    (member : spaceId ∈ pruneCandidates before principalId maxCount) :
    ∃ space, before.spaces.get? spaceId = some space ∧ isPrunable before principalId spaceId space = true := by
  have kept := List.mem_of_mem_take member
  rw [List.mem_insertionSort, Table.mem_keys, Table.contains_iff, Table.get?_filter] at kept
  obtain ⟨space, found⟩ := kept
  obtain ⟨found, prunable⟩ := Option.filter_eq_some_iff.mp found
  exact ⟨space, found, prunable⟩

theorem pruneReleasedSpaces_ok {gone : List SpaceId}
    (run : pruneReleasedSpaces authority maxCount before = .ok (gone, after)) :
    ∃ pruned, PrunedBy pruned before after ∧ ∀ spaceId, spaceId ∈ pruned ->
      ∃ space, before.spaces.get? spaceId = some space ∧ space.lifecycle = .released ∧
        spaceHasUnresolvedActions before spaceId = false := by
  simp only [pruneReleasedSpaces, bind_ok, pure_ok, Prod.mk.injEq] at run
  obtain ⟨_, _, last, pruning, _, rfl⟩ := run
  refine foldlM_keeps (fun state => ∃ pruned, PrunedBy pruned before state ∧ ∀ spaceId,
    spaceId ∈ pruned -> ∃ space, before.spaces.get? spaceId = some space ∧ space.lifecycle = .released ∧
      spaceHasUnresolvedActions before spaceId = false) ?_ ⟨[], .nil before, by simp⟩ pruning
  rintro middle spaceId next member ⟨pruned, earlier, candidates⟩ one
  refine ⟨spaceId :: pruned, earlier.cons one, fun other inside => ?_⟩
  obtain rfl | inside := List.mem_cons.mp inside
  · obtain ⟨space, found, prunable⟩ := mem_pruneCandidates member
    simp only [isPrunable, Bool.and_eq_true, beq_iff_eq, Bool.not_eq_true'] at prunable
    exact ⟨space, found, prunable.1.1.2, prunable.2⟩
  · exact candidates other inside

end Finishing

section Actions

variable {request : ActionRequest} {config : LedgerConfig} {receipt : ActionReceipt} {found : Option ActionRequest}
  {lifecycle : HostLifecycle}

def admitted (state : LedgerState) (request : ActionRequest) (now : Timestamp) : LedgerState :=
  { state with
    idempotency := state.idempotency.insert request.idempotencyKey request.actionId
    actionRequests := state.actionRequests.insert request.actionId request
    actions := state.actions.insert request.actionId (.queued request (some now))
    actionQueues := state.actionQueues.insert request.spaceId (state.queue request.spaceId ++ [request.actionId]) }

theorem existingReceipt_none (run : existingReceipt before request = .ok none) :
    before.idempotency.get? request.idempotencyKey = none ∧ before.actions.get? request.actionId = none := by
  unfold existingReceipt at run
  split at run
  · simp only [bind_ok, pure_ok] at run
    obtain ⟨_, _, _, _, _, _, impossible⟩ := run
    cases impossible
  · next unindexed =>
    split at run
    · next absent => exact ⟨unindexed, absent⟩
    · simp only [bind_ok, pure_ok] at run
      obtain ⟨_, _, impossible⟩ := run
      cases impossible

theorem admitEnqueue_ok {found : Option ActionReceipt} (run : admitEnqueue request authority now before = .ok found) :
    authorizeSpace before request.spaceId authority request.leaseEpoch now true = .ok () ∧
      (found = none -> before.idempotency.get? request.idempotencyKey = none ∧
        before.actions.get? request.actionId = none ∧ checkTarget before request = .ok ()) := by
  simp only [admitEnqueue, bind_ok] at run
  obtain ⟨_, allowed, existing, looked, rest⟩ := run
  refine ⟨allowed, fun absent => ?_⟩
  subst absent
  cases existing with
  | some _ => cases pure_ok.mp rest
  | none =>
    obtain ⟨unindexed, fresh⟩ := existingReceipt_none looked
    simp only [bind_ok] at rest
    obtain ⟨_, target, _⟩ := rest
    exact ⟨unindexed, fresh, target⟩

theorem enqueueAction_ok
    (run : (enqueueAction config request authority now registry before).2 = .ok (receipt, after)) :
    after = before ∨ authorizeSpace before request.spaceId authority request.leaseEpoch now true = .ok () ∧
      before.idempotency.get? request.idempotencyKey = none ∧ before.actions.get? request.actionId = none ∧
      SameButEvents (admitted before request now) after := by
  unfold enqueueAction at run
  split at run
  · cases run
  · cases run
    exact .inl rfl
  · next fresh =>
    obtain ⟨allowed, isNew⟩ := admitEnqueue_ok fresh
    obtain ⟨unindexed, absent, _⟩ := isNew rfl
    split at run
    · cases run
    · simp only [insertQueued, bind_ok, pure_ok, Prod.mk.injEq] at run
      obtain ⟨_, _, _, appended, _, rfl⟩ := run
      exact .inr ⟨allowed, unindexed, absent, actionChanged_same appended⟩

structure Dispatchable (state : LedgerState) (actionId : ActionId) (authority : AuthorityTicket)
    (leaseEpoch : LeaseEpoch) (now : Timestamp) (request : ActionRequest) (receipt : ActionReceipt) : Prop where
  requested : state.actionRequests.get? actionId = some request
  present : state.actions.get? actionId = some receipt
  queued : receipt.status = .queued
  epoch : leaseEpoch = request.leaseEpoch
  allowed : authorizeSpace state request.spaceId authority leaseEpoch now true = .ok ()
  head : (state.queue request.spaceId).head? = some actionId

theorem admitDispatch_ok (run : admitDispatch actionId authority leaseEpoch now before = .ok found) :
    found = none ∨ ∃ request receipt,
      found = some request ∧ Dispatchable before actionId authority leaseEpoch now request receipt := by
  simp only [admitDispatch, bind_ok, orElse_ok] at run
  obtain ⟨request, requested, receipt, present, rest⟩ := run
  cases status : receipt.status <;> rw [status] at rest
  case queued =>
    simp only [bind_ok, pure_ok, require_ok, orElse_ok, beq_iff_eq] at rest
    obtain ⟨_, epoch, _, allowed, queue, queued, _, head, rfl⟩ := rest
    refine .inr ⟨request, receipt, rfl, requested, present, status, epoch, allowed, ?_⟩
    simp [LedgerState.queue, queued, head]
  case running => cases rest
  case unknown => cases rest
  all_goals exact .inl (pure_ok.mp rest).symm

theorem Dispatchable.admitted (dispatchable : Dispatchable before actionId authority leaseEpoch now request receipt) :
    admitDispatch actionId authority leaseEpoch now before = .ok (some request) := by
  obtain ⟨requested, present, queued, epoch, allowed, head⟩ := dispatchable
  simp only [admitDispatch, bind_ok, orElse_ok]
  refine ⟨request, requested, receipt, present, ?_⟩
  rw [queued]
  simp only [bind_ok, pure_ok, require_ok, orElse_ok, beq_iff_eq]
  unfold LedgerState.queue at head
  cases stored : before.actionQueues.get? request.spaceId with
  | none => simp [stored] at head
  | some queue => exact ⟨(), epoch, (), allowed, queue, rfl, (), by simpa [stored] using head, trivial⟩

def markedRunning (state : LedgerState) (actionId : ActionId) (spaceId : SpaceId) (receipt : ActionReceipt) :
    LedgerState :=
  { popQueue state spaceId with
    actions := state.actions.insert actionId { receipt with status := .running, dispatchState := .dispatched } }

theorem moveReceipt_ok {move : ActionReceipt -> Except ActionTransitionError ActionReceipt}
    (run : moveReceipt before actionId move = .ok after) :
    ∃ receipt moved, before.actions.get? actionId = some receipt ∧ move receipt = .ok moved ∧
      after = { before with actions := before.actions.insert actionId moved } := by
  simp only [moveReceipt, bind_ok, pure_ok, orElse_ok, mapError_ok] at run
  obtain ⟨receipt, found, moved, moving, rfl⟩ := run
  exact ⟨receipt, moved, found, moving, rfl⟩

theorem beginDispatch_ok
    (run : (beginDispatch codec actionId authority leaseEpoch now registry before).2 = .ok (found, after)) :
    (found = none ∧ after = before) ∨ ∃ request receipt,
      found = some request ∧ Dispatchable before actionId authority leaseEpoch now request receipt ∧
      (isMutating request.operation = true ->
        (before.actions.any fun _ receipt => runsMutation request.spaceId receipt) = false) ∧
      SameButEvents (markedRunning before actionId request.spaceId receipt) after := by
  unfold beginDispatch at run
  split at run
  · cases run
  · cases run
    exact .inl ⟨rfl, rfl⟩
  · next request admitted =>
    obtain impossible | ⟨_, receipt, same, dispatchable⟩ := admitDispatch_ok admitted
    · cases impossible
    cases same
    split at run
    · simp only [refuseHead, bind_ok] at run
      obtain ⟨_, _, _, _, refused⟩ := run
      cases refused
    · simp only [markRunning, bind_ok, pure_ok, require_ok, Prod.mk.injEq, Bool.not_eq_true',
        Bool.and_eq_false_iff] at run
      obtain ⟨_, alone, _, moving, _, appended, rfl, rfl⟩ := run
      obtain ⟨stored, moved, present, marking, rfl⟩ := moveReceipt_ok moving
      obtain rfl : stored = receipt := Option.some.inj (present.symm.trans dispatchable.present)
      obtain ⟨_, rfl⟩ := ActionReceipt.markDispatched_ok marking
      refine .inr ⟨request, stored, rfl, dispatchable, fun mutating => ?_, actionChanged_same appended⟩
      exact alone.resolve_left (by simp [mutating])

theorem dirtySnapshot_snapshots (state : LedgerState) (request : ActionRequest) :
    SnapshotWork state (dirtySnapshot state request) := by
  unfold dirtySnapshot
  split
  · exact .refl state
  · exact .of_snapshots state _

theorem finishDispatch_ok {outcome : BridgeDispatchResult}
    (run : (finishDispatch lifecycle actionId request authority outcome now registry before).2
      = .ok (receipt, after)) :
    ∃ stored, before.actions.get? actionId = some stored ∧
      (stored.status ≠ .running ∧ receipt = stored ∧ after = before ∨
        stored.status = .running ∧
          settle (recordedOutcome lifecycle before request authority outcome now) actionId now stored = .ok receipt ∧
          SameButEvents (dirtySnapshot { before with actions := before.actions.insert actionId receipt } request)
            after) := by
  unfold finishDispatch at run
  split at run
  · cases run
  · next stored found =>
    refine ⟨stored, found, ?_⟩
    split_ifs at run with ended
    · cases run
      exact .inl ⟨ended, rfl, rfl⟩
    · split at run
      · cases run
      · next settled settling =>
        simp only [bind_ok, pure_ok, Prod.mk.injEq] at run
        obtain ⟨_, appended, rfl, rfl⟩ := run
        exact .inr ⟨not_not.mp ended, settling, appendEvent_same appended⟩

theorem authorizeReconciliationAuthority_ok
    (run : authorizeReconciliationAuthority before actionId authority leaseEpoch now = .ok receipt) :
    before.actions.get? actionId = some receipt ∧ receipt.status = .unknown := by
  simp only [authorizeReconciliationAuthority, bind_ok, pure_ok, require_ok, orElse_ok, beq_iff_eq] at run
  obtain ⟨_, _, stored, found, _, unknown, _, _, _, _, _, _, _, _, _, _, _, _, _, _, _, _, _, _, rfl⟩ := run
  exact ⟨found, unknown⟩

theorem beginReconcile_ok (run : beginReconcile actionId authority leaseEpoch now before = .ok (receipt, after)) :
    ∃ stored, before.actions.get? actionId = some stored ∧ stored.status = .unknown ∧
      stored.beginReconciliation = .ok receipt ∧
      SameButEvents { before with actions := before.actions.insert actionId receipt } after := by
  simp only [beginReconcile, bind_ok, pure_ok, mapError_ok, Prod.mk.injEq] at run
  obtain ⟨stored, allowed, moved, moving, _, appended, rfl, rfl⟩ := run
  obtain ⟨found, unknown⟩ := authorizeReconciliationAuthority_ok allowed
  exact ⟨stored, found, unknown, moving, actionChanged_same appended⟩

theorem finishReconcile_ok {answer : Option BridgeReconcileResult}
    (run : finishReconcile lifecycle actionId authority leaseEpoch answer now before = .ok (receipt, after)) :
    ∃ stored, before.actions.get? actionId = some stored ∧
      (after = before ∨ stored.status = .unknown ∧
        (∃ current, reconciled current answer now stored = .ok receipt) ∧
        SameButEvents { before with actions := before.actions.insert actionId receipt } after) := by
  simp only [finishReconcile, bind_ok, orElse_ok] at run
  obtain ⟨stored, found, rest⟩ := run
  refine ⟨stored, found, ?_⟩
  split_ifs at rest with ended
  · simp only [pure_ok, Prod.mk.injEq] at rest
    exact .inl rest.2.symm
  · simp only [bind_ok, pure_ok, mapError_ok, Prod.mk.injEq] at rest
    obtain ⟨moved, moving, _, appended, rfl, rfl⟩ := rest
    exact .inr ⟨not_not.mp ended, ⟨_, moving⟩, actionChanged_same appended⟩

inductive ShutdownChange (actionId : ActionId) : Option ActionReceipt -> Option ActionReceipt -> Prop where
  | keep (receipt : Option ActionReceipt) : ShutdownChange actionId receipt receipt
  | interrupted {receipt next : ActionReceipt}
      (moved : receipt.markUnknown .hostRestarted (.shutdown (actionSequence actionId)) = .ok next) :
      ShutdownChange actionId (some receipt) (some next)

theorem shutdown_ok {done : Unit} (run : shutdown now before = .ok (done, after)) :
    ∃ actions, (∀ actionId, ShutdownChange actionId (before.actions.get? actionId) (actions.get? actionId)) ∧
      SameButEvents { before with actions } after := by
  simp only [shutdown, bind_ok, pure_ok, Prod.mk.injEq] at run
  obtain ⟨middle, interrupting, _, appended, _, rfl⟩ := run
  have interrupted : ∃ actions,
      (∀ actionId, ShutdownChange actionId (before.actions.get? actionId) (actions.get? actionId)) ∧
      SameButEvents { before with actions } middle := by
    refine foldlM_keeps (fun state => ∃ actions,
      (∀ actionId, ShutdownChange actionId (before.actions.get? actionId) (actions.get? actionId)) ∧
      SameButEvents { before with actions } state) ?_ ⟨before.actions, fun _ => .keep _, .refl before⟩ interrupting
    rintro state actionId next _ ⟨actions, changes, _, _, _, rfl⟩ one
    dsimp only at one
    split at one
    · exact pure_ok.mp one ▸ ⟨actions, changes, ⟨_, _, _, rfl⟩⟩
    · next receipt found =>
      simp only [bind_ok, mapError_ok] at one
      obtain ⟨moved, moving, appended⟩ := one
      obtain ⟨_, _, _, rfl⟩ := actionChanged_same appended
      refine ⟨actions.insert actionId moved, fun other => ?_, ⟨_, _, _, rfl⟩⟩
      rw [Table.get?_insert]
      split_ifs with same
      · subst same
        have change := changes other
        rw [found] at change
        have running := (ActionReceipt.markUnknown_ok moving).1
        generalize before.actions.get? other = start at change
        cases change with
        | keep => exact .interrupted moving
        | interrupted earlier =>
          have ended := (ActionReceipt.markUnknown_ok earlier).2.1
          simp [ended] at running
      · exact changes other
  obtain ⟨actions, changes, same⟩ := interrupted
  exact ⟨actions, changes, same.trans (appendEvent_same appended)⟩

theorem SnapshotWork.of_dirty {state : LedgerState} (same : SameButEvents (dirtySnapshot state request) after) :
    SnapshotWork state after := by
  obtain ⟨snapshots, dirty⟩ := dirtySnapshot_snapshots state request
  exact ⟨snapshots, dirty.trans same⟩

def ActionWork (before after : LedgerState) : Prop :=
  ∃ actions actionRequests idempotency actionQueues snapshots,
    SameButEvents { before with actions, actionRequests, idempotency, actionQueues, snapshots } after

theorem ActionWork.of_events (same : SameButEvents before after) : ActionWork before after :=
  ⟨before.actions, before.actionRequests, before.idempotency, before.actionQueues, before.snapshots, same⟩

-- The transitions that change no more than the actions, their queues and the snapshots.
class Acts {A : Type} (transition : Transition A) : Prop where
  actionWork : ∀ {value before after}, transition before = .ok (value, after) -> ActionWork before after

theorem Committable.acts {A : Type} {transition : Transition A} [Acts transition] {config : LedgerConfig} {value : A}
    {next : LedgerState} (_ : Committable config transition before after)
    (run : transition before = .ok (value, next)) : ActionWork before next :=
  Acts.actionWork run

section Acts

variable {scope : EventScope} {event : EventKind} {payload : Payload} {outcome : BridgeDispatchResult}
  {answer : Option BridgeReconcileResult}

instance : Acts markDegraded := ⟨fun run => ⟨_, _, _, _, _, markDegraded_ok run⟩⟩

instance : Acts (publishEvent authority scope event payload) := ⟨fun run => .of_events (publishEvent_ok run)⟩

instance : Acts fun state => (enqueueAction config request authority now registry state).2 where
  actionWork run := by
    obtain rfl | ⟨_, _, _, same⟩ := enqueueAction_ok run
    · exact .of_events (.refl _)
    · exact ⟨_, _, _, _, _, same⟩

instance : Acts fun state => (beginDispatch codec actionId authority leaseEpoch now registry state).2 where
  actionWork run := by
    obtain ⟨_, rfl⟩ | ⟨_, _, _, _, _, same⟩ := beginDispatch_ok run
    · exact .of_events (.refl _)
    · exact ⟨_, _, _, _, _, same⟩

instance : Acts fun state => (finishDispatch lifecycle actionId request authority outcome now registry state).2 where
  actionWork run := by
    obtain ⟨_, _, ⟨_, _, rfl⟩ | ⟨_, _, same⟩⟩ := finishDispatch_ok run
    · exact .of_events (.refl _)
    · obtain ⟨_, dirtied⟩ := SnapshotWork.of_dirty same
      exact ⟨_, _, _, _, _, dirtied⟩

instance : Acts (beginReconcile actionId authority leaseEpoch now) where
  actionWork run := by
    obtain ⟨_, _, _, _, same⟩ := beginReconcile_ok run
    exact ⟨_, _, _, _, _, same⟩

instance : Acts (finishReconcile lifecycle actionId authority leaseEpoch answer now) where
  actionWork run := by
    obtain ⟨_, _, rfl | ⟨_, _, same⟩⟩ := finishReconcile_ok run
    · exact .of_events (.refl _)
    · exact ⟨_, _, _, _, _, same⟩

instance : Acts (shutdown now) where
  actionWork run := by
    obtain ⟨_, _, same⟩ := shutdown_ok run
    exact ⟨_, _, _, _, _, same⟩

end Acts

end Actions

end AgentycHost
