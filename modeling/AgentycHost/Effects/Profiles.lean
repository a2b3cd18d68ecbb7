import AgentycHost.Effects.Reopening

set_option autoImplicit false

/-! # Spaces whose profile is gone -/

namespace AgentycHost

open Shared

variable {config : LedgerConfig} {calls : Table Nat Call} {command : Command} {before middle after : LedgerState}
  {spaceId : SpaceId} {authority : AuthorityTicket} {leaseEpoch : LeaseEpoch} {now expiresAt renewBy : Timestamp}
  {space : SpaceDescriptor}

def SpaceDescriptor.barred (space : SpaceDescriptor) : Bool :=
  space.profileBinding == .rebindRequired || space.profileBinding == .revoked

def SpaceLifecycle.atRest : SpaceLifecycle -> Bool
  | .created | .orphaned | .released | .finished | .paused => true
  | _ => false

def Rests (state : LedgerState) (spaceId : SpaceId) : Prop :=
  ∀ space, state.spaces.get? spaceId = some space -> space.barred = true -> space.lifecycle.atRest = true

def RestEffect (before after : LedgerState) : Prop := ∀ spaceId, Rests before spaceId -> Rests after spaceId

theorem Valid.rest_inactive {lease : Lease} (valid : Valid config before)
    (found : before.spaces.get? spaceId = some space) (rests : space.lifecycle.atRest = true)
    (leased : space.lease = some lease) : lease.state ≠ .active := by
  have matched := valid.matches_lease found
  intro active
  cases lifecycle : space.lifecycle <;> simp only [lifecycle, SpaceLifecycle.atRest, Bool.false_eq_true] at rests
  all_goals simp [lifecycleMatchesLease, lifecycle, leased, leaseStateIn, active] at matched

theorem Valid.unleased_rests (valid : Valid config before) (found : before.spaces.get? spaceId = some space)
    (unleased : space.lease = none) : space.lifecycle.atRest = true := by
  have matched := valid.matches_lease found
  cases lifecycle : space.lifecycle <;>
    first
    | rfl
    | simp [lifecycleMatchesLease, lifecycle, unleased, leaseStateIn] at matched

section Effects

variable {changed : SpaceDescriptor}

theorem RestEffect.of_spaces (spaces : after.spaces = before.spaces) : RestEffect before after := by
  intro spaceId rests space found
  rw [spaces] at found
  exact rests space found

theorem RestEffect.events (appended : SameButEvents middle after) (effect : RestEffect before middle) :
    RestEffect before after := by
  obtain ⟨_, _, _, rfl⟩ := appended
  exact effect

theorem RestEffect.sessions (same : SameButSessions before after) : RestEffect before after := by
  obtain ⟨_, _, _, _, _, _, _, _, _, rfl⟩ := same
  exact .of_spaces rfl

theorem RestEffect.work (work : PageWork before after) : RestEffect before after := by
  obtain ⟨spaces, _, _, changes, _, _, _, rfl⟩ := work
  intro spaceId rests space found
  have change := changes spaceId
  change spaces.get? spaceId = some space at found
  rw [found] at change
  generalize located : before.spaces.get? spaceId = old at change
  cases change with
  | some old => exact rests old located

theorem Committable.restEffect {A : Type} {transition : Transition A} (made : Committable config transition before after)
    (run : ∀ value next, transition before = .ok (value, next) -> RestEffect before next) :
    RestEffect before after := by
  obtain ⟨value, next, moved, rfl, _⟩ := made
  exact .events (drainEvents_same _ _) (run value next moved)

theorem RestEffect.at_space (found : before.spaces.get? spaceId = some space)
    (spaces : ∀ other, after.spaces.get? other = if other = spaceId then some changed else before.spaces.get? other)
    (kept : changed.barred = true -> space.barred = true)
    (rests : space.barred = true -> space.lifecycle.atRest = true -> changed.lifecycle.atRest = true) :
    RestEffect before after := by
  intro other earlier new present barred
  rw [spaces] at present
  split_ifs at present with same
  · cases present
    subst same
    exact rests (kept barred) (earlier space found (kept barred))
  · exact earlier new present barred

theorem RestEffect.changeSpace (found : before.spaces.get? spaceId = some space)
    (change : SpaceDescriptor -> SpaceDescriptor) (spaces : after.spaces = (before.changeSpace spaceId change).spaces)
    (kept : (change space).barred = true -> space.barred = true)
    (rests : space.barred = true -> space.lifecycle.atRest = true -> (change space).lifecycle.atRest = true) :
    RestEffect before after := by
  refine .at_space found (fun other => ?_) kept rests
  rw [spaces, LedgerState.changeSpace, Table.get?_modify, found, Option.map_some]

theorem authorizeProfileForMutation_unbarred (allowed : authorizeProfileForMutation before spaceId authority = .ok ())
    (found : before.spaces.get? spaceId = some space) : space.barred = false := by
  simp only [authorizeProfileForMutation, findSpace, found, orElse, bind, Except.bind] at allowed
  cases binding : space.profileBinding <;> rw [binding] at allowed
  case rebindRequired | revoked => cases allowed
  all_goals simp [SpaceDescriptor.barred, binding]

theorem authorizeSpace_unbarred {mutation : Bool}
    (allowed : authorizeSpace before spaceId authority leaseEpoch now mutation = .ok ())
    (found : before.spaces.get? spaceId = some space) : space.barred = false := by
  obtain ⟨_, _, authorized⟩ := authorizeSpace_ok.mp allowed
  exact authorizeProfileForMutation_unbarred authorized.profile found

theorem RestEffect.authorized (found : before.spaces.get? spaceId = some space) (unbarred : space.barred = false)
    (spaces : ∀ other, after.spaces.get? other = if other = spaceId then some changed else before.spaces.get? other)
    (binding : changed.profileBinding = space.profileBinding) : RestEffect before after := by
  refine .at_space found spaces (fun barred => ?_) fun barred => ?_
  · rwa [SpaceDescriptor.barred, binding] at barred
  · rw [unbarred] at barred
    cases barred

end Effects

section Moves

variable {retention : RetentionPolicy} {request : FenceRequest} {ticket : ControlTicket} {lifecycle : SpaceLifecycle}
  {done : Unit}

theorem createSpace_rests {label : String} {created : SpaceDescriptor}
    (run : createSpace authority label retention before = .ok (created, after)) : RestEffect before after := by
  obtain ⟨number, _, _, _, same⟩ := createSpace_ok run
  refine .events same fun spaceId rests space found barred => ?_
  dsimp only at found
  rw [Table.get?_insert] at found
  split_ifs at found
  · cases found
    rfl
  · exact rests space found barred

theorem markProfileRebindRequired_rests {observed : ProfileBindingId} {count : Nat} (valid : Valid config before)
    (run : markProfileRebindRequired observed before = .ok (count, after)) : RestEffect before after := by
  refine .events (markProfileRebindRequired_ok run) fun spaceId rests space found barred => ?_
  dsimp only at found
  rw [Table.get?_mapValues, Option.map_eq_some_iff] at found
  obtain ⟨old, present, rfl⟩ := found
  split_ifs at barred ⊢ with needed
  · cases leased : old.lease with
    | none => simpa [rebindSpace, leased] using valid.unleased_rests present leased
    | some lease => simp [rebindSpace, leased, SpaceLifecycle.atRest]
  · exact rests old present barred

theorem acquireLease_rests {lease : Lease}
    (run : acquireLease spaceId authority now expiresAt renewBy before = .ok (lease, after)) :
    RestEffect before after := by
  have allowed : authorizeProfileForMutation before spaceId authority = .ok () := by
    simp only [acquireLease, bind_ok] at run
    obtain ⟨_, _, _, allowed, _⟩ := run
    exact allowed
  obtain rfl | ⟨space, found, _, _, _, same⟩ := acquireLease_ok run
  · exact .of_spaces rfl
  · refine .events same (.changeSpace found (grantedSpace · authority.principalId _) rfl id fun barred => ?_)
    rw [authorizeProfileForMutation_unbarred allowed found] at barred
    cases barred

theorem takeover_rests (run : takeover spaceId authority now expiresAt renewBy before = .ok (request, after)) :
    RestEffect before after := by
  have allowed : authorizeProfileForMutation before spaceId authority = .ok () := by
    simp only [takeover, bind_ok] at run
    obtain ⟨_, _, _, allowed, _⟩ := run
    exact allowed
  obtain ⟨space, _, _, _, _, found, _, _, _, _, _, rfl, _, _, same⟩ := takeover_ok run
  exact .events same (.authorized found (authorizeProfileForMutation_unbarred allowed found)
    (fun other => Table.get?_insert _ _ _ _) rfl)

theorem takeoverWithControlTicket_rests
    (run : takeoverWithControlTicket spaceId authority ticket expiresAt renewBy before = .ok (request, after)) :
    RestEffect before after := by
  obtain ⟨space, _, _, _, found, _, user, _, _, _, same⟩ := takeoverWithControlTicket_ok run
  refine .events same (.at_space found (fun other => Table.get?_insert _ _ _ _) id fun _ rests => ?_)
  rw [user] at rests
  cases rests

theorem returnControl_rests (run : returnControl spaceId authority leaseEpoch now before = .ok (request, after)) :
    RestEffect before after := by
  obtain ⟨space, _, _, _, _, allowed, _, rfl, _, _, same⟩ := returnControl_ok run
  exact .events same (.authorized allowed.found (authorizeProfileForMutation_unbarred allowed.profile allowed.found)
    (fun other => Table.get?_insert _ _ _ _) rfl)

theorem acknowledgeFence_rests {renewal : Option (Timestamp × Timestamp)} {request : FenceRequest × Bool}
    (run : acknowledgeFence spaceId authority leaseEpoch renewal before = .ok (request, after)) :
    RestEffect before after := by
  obtain rfl | ⟨_, _, _, found, _, same⟩ := acknowledgeFence_ok run
  · exact .of_spaces rfl
  · exact .events same (.changeSpace found _ rfl id fun _ => id)

theorem finishFence_rests {acknowledged : Bool} {error : Option String} (valid : Valid config before)
    (run : finishFence request authority acknowledged error before = .ok (lifecycle, after)) :
    RestEffect before after := by
  obtain ⟨pending, space, found, _, change⟩ := finishFence_ok run
  obtain ⟨_, waiting⟩ := (Table.contains_iff _ _).mp pending
  obtain ⟨fenced, same, lifecycle⟩ := valid.pendingFence waiting
  obtain rfl : fenced = space := Option.some.inj (same.symm.trans found)
  -- a space with a pending fence is not at rest
  have busy : fenced.barred = true -> fenced.lifecycle.atRest = true -> False := by
    intro _ rests
    rw [lifecycle] at rests
    cases rests
  obtain ⟨_, _, same⟩ | same := change
  · exact .events same (.changeSpace found _ rfl id fun barred rests => (busy barred rests).elim)
  · refine .events same (.changeSpace found _ rfl (fun barred => ?_) fun barred rests => (busy barred rests).elim)
    cases error <;> exact barred

theorem finishUserReturn_rests {releasedEpoch : LeaseEpoch}
    (run : finishUserReturn request releasedEpoch authority before = .ok (ticket, after)) :
    RestEffect before after := by
  obtain ⟨space, _, _, found, pending, _, same⟩ := finishUserReturn_ok run
  refine .events same (.changeSpace found _ rfl id fun _ rests => ?_)
  rw [pending] at rests
  cases rests

theorem renewLease_rests
    (run : renewLease spaceId authority leaseEpoch now expiresAt renewBy before = .ok (done, after)) :
    RestEffect before after := by
  obtain ⟨allowed, same⟩ := renewLease_ok run
  obtain ⟨_, _, authorized⟩ := authorizeSpace_ok.mp allowed
  exact .events same (.changeSpace authorized.found _ rfl id fun _ => id)

theorem setFencedSpaceLifecycle_rests
    (run : setFencedSpaceLifecycle spaceId authority leaseEpoch lifecycle now before = .ok (done, after)) :
    RestEffect before after := by
  obtain ⟨allowed, same⟩ := setFencedSpaceLifecycle_ok run
  obtain ⟨space, _, authorized⟩ := authorizeSpace_ok.mp allowed
  refine .events same (.changeSpace authorized.found _ rfl id fun barred => ?_)
  rw [authorizeSpace_unbarred allowed authorized.found] at barred
  cases barred

theorem claimFinish_rests {claimed : List CleanupProof × RetentionPolicy}
    (run : claimFinish spaceId authority leaseEpoch now before = .ok (claimed, after)) : RestEffect before after := by
  obtain ⟨_, space, _, found, allowed, _, same⟩ := claimFinish_ok run
  obtain ⟨claimed, _, located, _, open_, _⟩ := authorizeFinishClaim_ok allowed
  obtain rfl : claimed = space := Option.some.inj (located.symm.trans found)
  refine .events same (.changeSpace found _ rfl id fun _ rests => ?_)
  obtain owned | recovering | ⟨_, draining⟩ := open_
  · rw [owned] at rests
    cases rests
  · rw [recovering] at rests
    cases rests
  · rw [draining] at rests
    cases rests

theorem completeFinish_rests {final : SpaceLifecycle}
    (run : completeFinish spaceId authority leaseEpoch now retention before = .ok (final, after)) :
    RestEffect before after := by
  obtain ⟨ended, allowed, same⟩ := completeFinish_ok run
  obtain ⟨_, _, found, _⟩ := authorizeFinishClaim_ok allowed
  refine .events same (.changeSpace found _ rfl id fun _ _ => ?_)
  obtain rfl | rfl := ended <;> rfl

theorem releaseSpace_rests (run : releaseSpace spaceId authority leaseEpoch now before = .ok (done, after)) :
    RestEffect before after := by
  obtain rfl | ⟨_, found, _, same⟩ := releaseSpace_ok run
  · exact .of_spaces rfl
  · exact .events same (.changeSpace found (fun space => { space with lifecycle := .released }) rfl id fun _ _ => rfl)

theorem pruneReleasedSpaces_rests {maxCount : Nat} {gone : List SpaceId}
    (run : pruneReleasedSpaces authority maxCount before = .ok (gone, after)) : RestEffect before after := by
  obtain ⟨_, update, _⟩ := pruneReleasedSpaces_ok run
  intro spaceId rests space found
  rw [update.spaces] at found
  split_ifs at found
  exact rests space found

end Moves

theorem LedgerStep.rests (valid : Valid config before) (taken : LedgerStep config calls command before after) :
    RestEffect before after := by
  cases taken with
  | hello _ made => exact made.restEffect fun _ _ run => .sessions (hello_ok run)
  | disconnect _ made => exact made.restEffect fun _ _ run => .sessions (disconnect_ok run)
  | markProfileRebindRequired made => exact made.restEffect fun _ _ run => markProfileRebindRequired_rests valid run
  | createSpace made => exact made.restEffect fun _ _ run => createSpace_rests run
  | acquireLease _ made => exact made.restEffect fun _ _ run => acquireLease_rests run
  | renewLease made => exact made.restEffect fun _ _ run => renewLease_rests run
  | takeover made => exact made.restEffect fun _ _ run => takeover_rests run
  | takeoverWithControlTicket _ made => exact made.restEffect fun _ _ run => takeoverWithControlTicket_rests run
  | returnControl made => exact made.restEffect fun _ _ run => returnControl_rests run
  | acknowledgeFence made => exact made.restEffect fun _ _ run => acknowledgeFence_rests run
  | finishFence _ _ _ _ made => exact made.restEffect fun _ _ run => finishFence_rests valid run
  | finishUserReturn _ _ _ _ made => exact made.restEffect fun _ _ run => finishUserReturn_rests run
  | setFencedSpaceLifecycle made => exact made.restEffect fun _ _ run => setFencedSpaceLifecycle_rests run
  | claimFinish made => exact made.restEffect fun _ _ run => claimFinish_rests run
  | completeFinish _ made => exact made.restEffect fun _ _ run => completeFinish_rests run
  | releaseSpace made => exact made.restEffect fun _ _ run => releaseSpace_rests run
  | pruneReleasedSpaces _ made => exact made.restEffect fun _ _ run => pruneReleasedSpaces_rests run
  | bridgeEvent made | observePages made | recordFenceWarning made | createPage made | bindPage _ made
  | markPageLost _ made | beginClosePage made | completeClosePage _ made | missingCleanupPages made
  | authorizeCleanup made | finishPageCleanup _ made | recordCleanupFailure made | recheckDispatch made
  | issuingEnvelope made | captureGeneration made | commitSnapshot made | putSnapshot made | markSnapshotDirty made =>
    exact made.restEffect fun _ _ run => .work (made.works run)
  | markDegraded made | publishEvent made | enqueueAction made | beginDispatch _ made | finishDispatch made
  | beginReconcile _ made | finishReconcile _ made | shutdown made =>
    refine made.restEffect fun _ _ run => ?_
    obtain ⟨_, _, _, _, _, same⟩ := made.acts run
    exact .events same (.of_spaces rfl)

theorem openLedger_rests {disk state : LedgerState} (opened : openLedger config disk = .ok state) :
    RestEffect disk state := by
  intro spaceId rests space found barred
  rw [openLedger_ok opened] at found
  change (disk.spaces.mapValues fun _ space => recoverSpace space).get? spaceId = some space at found
  rw [Table.get?_mapValues, Option.map_eq_some_iff] at found
  obtain ⟨old, present, rfl⟩ := found
  unfold recoverSpace at barred ⊢
  dsimp only at barred ⊢
  split_ifs at barred ⊢ with lost
  · rfl
  · exact rests old present barred

theorem HostRun.rests {config : HostConfig} {start last : System} {trace : List (Moment System Label)}
    (run : HostRun config start trace last) (initial : Initial config start) (spaceId : SpaceId) :
    Rests last.ledger.state spaceId := by
  have kept := run.ledger_keeps (fun state => ∀ spaceId, Rests state spaceId) initial
    (fun _ _ found => by simp [LedgerState.new] at found)
    (fun _ _ _ valid rests taken spaceId => taken.rests valid spaceId (rests spaceId))
    fun _ _ _ rests opened spaceId => openLedger_rests opened spaceId (rests spaceId)
  exact kept.2.1 spaceId

end AgentycHost
