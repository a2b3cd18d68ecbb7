import AgentycHost.Effects.Specs
import AgentycHost.System.Runs

set_option autoImplicit false

/-! # What a step does to a space -/

namespace AgentycHost

open Shared

variable {config : LedgerConfig} {calls : Table Nat Call} {command : Command} {before middle after : LedgerState} {spaceId : SpaceId}
  {space : SpaceDescriptor} {A : Type}

structure Standing where
  lifecycle : SpaceLifecycle
  lease : Option Lease
  holder : Option ConnectionEpoch
  deriving DecidableEq

def Standing.epoch (standing : Standing) : LeaseEpoch := (standing.lease.map (·.leaseEpoch)).getD 0

def SpaceDescriptor.standing (space : SpaceDescriptor) (holder : Option ConnectionEpoch) : Standing :=
  { lifecycle := space.lifecycle, lease := space.lease, holder }

def LedgerState.standing (state : LedgerState) (spaceId : SpaceId) : Option Standing :=
  (state.spaces.get? spaceId).map (·.standing (state.leaseHolders.get? spaceId))

def SpaceLifecycle.finishable : SpaceLifecycle -> Bool
  | .agentOwned | .recovering | .draining => true
  | _ => false

/-- The moves of a space; `queue` is its queue after the step. -/
inductive StandingMove (calls : Table Nat Call) (command : Command) (before : LedgerState) (queue : List ActionId) (spaceId : SpaceId) :
    Option Standing -> Option Standing -> Prop where
  | keep (standing : Option Standing) : StandingMove calls command before queue spaceId standing standing
  | created {holder : Option ConnectionEpoch} (number : spaceId.number = before.nextSpaceNumber + 1) :
      StandingMove calls command before queue spaceId none (some { lifecycle := .created, lease := none, holder })
  | granted {old : Standing} {lease : Lease} {holder : ConnectionEpoch} {authority : AuthorityTicket} {now ttl : Nat}
      (made_by : command = .acquireLease spaceId authority now ttl) (notUser : old.lifecycle ≠ .userOwned)
      (notFence : isFenceLifecycle old.lifecycle = false) (lapsed : isLeased old.lease now = false)
      (epoch : lease.leaseEpoch = old.epoch + 1) :
      StandingMove calls command before queue spaceId (some old)
        (some { lifecycle := .agentOwned, lease := some lease, holder := some holder })
  -- the deadlines move and the lease is active
  | renewed {old : Standing} {lease next : Lease} (leased : old.lease = some lease)
      (open_ : old.lifecycle = .agentOwned ∨ old.lifecycle = .fencePending)
      (epoch : next.leaseEpoch = lease.leaseEpoch) (principal : next.principalId = lease.principalId) :
      StandingMove calls command before queue spaceId (some old) (some { old with lease := some next })
  | fenced {old : Standing} {lease : Lease} {holder : Option ConnectionEpoch} (notUser : old.lifecycle ≠ .userOwned)
      (emptied : queue = []) (epoch : lease.leaseEpoch = old.epoch + 1) :
      StandingMove calls command before queue spaceId (some old) (some { lifecycle := .fencePending, lease := some lease, holder })
  | ticketed {old : Standing} {lease : Lease} {holder : Option ConnectionEpoch} (user : old.lifecycle = .userOwned)
      (epoch : lease.leaseEpoch = old.epoch + 1) :
      StandingMove calls command before queue spaceId (some old) (some { lifecycle := .fencePending, lease := some lease, holder })
  | reclaimed {old : Standing} {call : Nat} {fence : FenceCall} {answer : FenceAnswer}
      (made_by : command = .fenceAnswered call answer) (call_at : calls.get? call = some (.fence fence))
      (acknowledged : answer.acknowledged = true) (inside : fence.request.spaceId = spaceId)
      (epoch : old.epoch = fence.request.fenceEpoch) (pending : old.lifecycle = .fencePending) :
      StandingMove calls command before queue spaceId (some old) (some { old with lifecycle := .agentOwned })
  | returned {old : Standing} {lease : Lease} (pending : old.lifecycle = .fencePending) (leased : old.lease = some lease) :
      StandingMove calls command before queue spaceId (some old)
        (some { lifecycle := .userOwned, lease := some { lease with state := .released }, holder := none })
  | suspended {old : Standing} {lease : Lease} {lifecycle : SpaceLifecycle} (owned : old.lifecycle = .agentOwned)
      (leased : old.lease = some lease) (kind : lifecycle = .paused ∨ lifecycle = .handoffRequested) :
      StandingMove calls command before queue spaceId (some old)
        (some { old with lifecycle, lease := some { lease with state := .fenced } })
  | drained {old : Standing} (open_ : old.lifecycle.finishable = true)
      (resolved : spaceHasUnresolvedActions before spaceId = false) :
      StandingMove calls command before queue spaceId (some old) (some { old with lifecycle := .draining })
  | finished {old : Standing} {lease : Lease} {lifecycle : SpaceLifecycle} {call : Nat}
      (made_by : command = .completeFinish call) (open_ : old.lifecycle.finishable = true)
      (leased : old.lease = some lease) (final : lifecycle = .finished ∨ lifecycle = .released) :
      StandingMove calls command before queue spaceId (some old)
        (some { old with lifecycle, lease := some { lease with state := .released } })
  | released {old : Standing} (finished : old.lifecycle = .finished) :
      StandingMove calls command before queue spaceId (some old) (some { old with lifecycle := .released })
  -- another profile connected
  | orphaned {old : Standing} {lease : Lease} (leased : old.lease = some lease) :
      StandingMove calls command before queue spaceId (some old)
        (some { old with lifecycle := .orphaned, lease := some { lease with state := .fenced } })
  | pruned {old : Standing} (released : old.lifecycle = .released)
      (resolved : spaceHasUnresolvedActions before spaceId = false) :
      StandingMove calls command before queue spaceId (some old) none

structure SpaceEffect (calls : Table Nat Call) (command : Command) (before after : LedgerState) : Prop where
  brokerEpoch : after.brokerEpoch = before.brokerEpoch
  numbers : before.nextSpaceNumber ≤ after.nextSpaceNumber
  numbered : ∀ spaceId, before.standing spaceId = none -> after.standing spaceId ≠ none ->
    spaceId.number ≤ after.nextSpaceNumber
  standing : ∀ spaceId, StandingMove calls command before (after.queue spaceId) spaceId (before.standing spaceId)
    (after.standing spaceId)

structure SameStanding (before after : LedgerState) : Prop where
  brokerEpoch : after.brokerEpoch = before.brokerEpoch
  numbers : after.nextSpaceNumber = before.nextSpaceNumber
  standing : ∀ spaceId, after.standing spaceId = before.standing spaceId

theorem SameStanding.of_spaces (brokerEpoch : after.brokerEpoch = before.brokerEpoch)
    (numbers : after.nextSpaceNumber = before.nextSpaceNumber) (spaces : after.spaces = before.spaces)
    (holders : after.leaseHolders = before.leaseHolders) : SameStanding before after :=
  ⟨brokerEpoch, numbers, fun _ => by rw [LedgerState.standing, LedgerState.standing, spaces, holders]⟩

theorem SameStanding.of_events (same : SameButEvents before after) : SameStanding before after := by
  obtain ⟨_, _, _, rfl⟩ := same
  exact .of_spaces rfl rfl rfl rfl

theorem SameStanding.of_sessions (same : SameButSessions before after) : SameStanding before after := by
  obtain ⟨_, _, _, _, _, _, _, _, _, rfl⟩ := same
  exact .of_spaces rfl rfl rfl rfl

theorem SameStanding.of_work (work : PageWork before after) : SameStanding before after := by
  obtain ⟨spaces, _, _, changes, _, _, _, rfl⟩ := work
  refine ⟨rfl, rfl, fun spaceId => ?_⟩
  have change := changes spaceId
  unfold LedgerState.standing
  dsimp only
  generalize before.spaces.get? spaceId = first at change
  generalize spaces.get? spaceId = second at change
  cases change with
  | none => rfl
  | some => rfl

theorem SpaceEffect.of_same (same : SameStanding before after) : SpaceEffect calls command before after where
  brokerEpoch := same.brokerEpoch
  numbers := same.numbers.ge
  numbered spaceId absent present := absurd absent (same.standing spaceId ▸ present)
  standing spaceId := same.standing spaceId ▸ .keep _

theorem SpaceEffect.events (appended : SameButEvents middle after) (effect : SpaceEffect calls command before middle) :
    SpaceEffect calls command before after := by
  have same := SameStanding.of_events appended
  refine ⟨same.brokerEpoch.trans effect.brokerEpoch, same.numbers ▸ effect.numbers, fun spaceId absent present => ?_,
    fun spaceId => ?_⟩
  · rw [same.numbers]
    exact effect.numbered spaceId absent (same.standing spaceId ▸ present)
  · rw [same.standing, appended.queue]
    exact effect.standing spaceId

theorem SpaceEffect.at_space (spaceId : SpaceId) (brokerEpoch : after.brokerEpoch = before.brokerEpoch)
    (numbers : after.nextSpaceNumber = before.nextSpaceNumber)
    (others : ∀ other, other ≠ spaceId -> after.standing other = before.standing other)
    (present : before.standing spaceId ≠ none)
    (move : StandingMove calls command before (after.queue spaceId) spaceId (before.standing spaceId)
      (after.standing spaceId)) :
    SpaceEffect calls command before after := by
  refine ⟨brokerEpoch, numbers.ge, fun other absent found => ?_, fun other => ?_⟩
  · by_cases same : other = spaceId
    · exact absurd absent (same ▸ present)
    · exact absurd absent (others other same ▸ found)
  · by_cases same : other = spaceId
    · exact same ▸ move
    · exact others other same ▸ .keep _

theorem standing_some (found : before.spaces.get? spaceId = some space) :
    before.standing spaceId = some (space.standing (before.leaseHolders.get? spaceId)) := by
  simp [LedgerState.standing, found]

theorem SpaceEffect.of_space (found : before.spaces.get? spaceId = some space)
    (changed : SpaceDescriptor) (brokerEpoch : after.brokerEpoch = before.brokerEpoch)
    (numbers : after.nextSpaceNumber = before.nextSpaceNumber)
    (spaces : ∀ other, after.spaces.get? other = if other = spaceId then some changed else before.spaces.get? other)
    (holders : ∀ other, other ≠ spaceId -> after.leaseHolders.get? other = before.leaseHolders.get? other)
    (move : StandingMove calls command before (after.queue spaceId) spaceId
      (some (space.standing (before.leaseHolders.get? spaceId)))
      (some (changed.standing (after.leaseHolders.get? spaceId)))) :
    SpaceEffect calls command before after := by
  have standing := standing_some found
  refine .at_space spaceId brokerEpoch numbers (fun other distinct => ?_) (by simp [standing]) ?_
  · simp only [LedgerState.standing, spaces, if_neg distinct, holders other distinct]
  · rw [standing, standing_some (by rw [spaces, if_pos rfl])]
    exact move

theorem SpaceEffect.changeSpace (found : before.spaces.get? spaceId = some space)
    (change : SpaceDescriptor -> SpaceDescriptor) (brokerEpoch : after.brokerEpoch = before.brokerEpoch)
    (numbers : after.nextSpaceNumber = before.nextSpaceNumber)
    (spaces : after.spaces = (before.changeSpace spaceId change).spaces)
    (holders : ∀ other, other ≠ spaceId -> after.leaseHolders.get? other = before.leaseHolders.get? other)
    (move : StandingMove calls command before (after.queue spaceId) spaceId
      (some (space.standing (before.leaseHolders.get? spaceId)))
      (some ((change space).standing (after.leaseHolders.get? spaceId)))) :
    SpaceEffect calls command before after := by
  refine .of_space found (change space) brokerEpoch numbers (fun other => ?_) holders move
  rw [spaces, LedgerState.changeSpace, Table.get?_modify, found, Option.map_some]

theorem Committable.spaceEffect {transition : Transition A} (made : Committable config transition before after)
    (run : ∀ value next, transition before = .ok (value, next) -> SpaceEffect calls command before next) :
    SpaceEffect calls command before after := by
  obtain ⟨value, next, moved, rfl, _⟩ := made
  exact (run value next moved).events (drainEvents_same _ _)

theorem Committable.standing_work {transition : Transition A} (made : Committable config transition before after)
    (run : ∀ value next, transition before = .ok (value, next) -> PageWork before next) :
    SpaceEffect calls command before after :=
  made.spaceEffect fun value next moved => .of_same (.of_work (run value next moved))

section Moves

variable {authority : AuthorityTicket} {leaseEpoch : LeaseEpoch} {now expiresAt renewBy : Timestamp}
  {retention : RetentionPolicy} {space : SpaceDescriptor} {lease : Lease} {done : Unit} {request : FenceRequest}
  {ticket : ControlTicket} {call : Nat}

theorem createSpace_effect {label : String} (run : createSpace authority label retention before = .ok (space, after)) :
    SpaceEffect calls command before after := by
  obtain ⟨number, profiles, rfl, absent, same⟩ := createSpace_ok run
  refine .events same ⟨rfl, Nat.le_succ _, fun other missing present => ?_, fun other => ?_⟩
  all_goals
    by_cases here : other = ⟨before.nextSpaceNumber + 1⟩
  · subst here
    exact le_rfl
  · -- no other space is new
    simp only [LedgerState.standing, Table.get?_insert_ne _ _ _ _ here] at missing present
    exact absurd missing present
  · subst here
    have gone : before.spaces.get? ⟨before.nextSpaceNumber + 1⟩ = none := by simpa [Table.contains] using absent
    simp only [LedgerState.standing, gone, Table.get?_insert_self]
    exact .created rfl
  · simp only [LedgerState.standing, Table.get?_insert_ne _ _ _ _ here]
    exact .keep _

theorem markProfileRebindRequired_effect {observed : ProfileBindingId} {count : Nat}
    (run : markProfileRebindRequired observed before = .ok (count, after)) : SpaceEffect calls command before after := by
  refine .events (markProfileRebindRequired_ok run) ⟨rfl, le_rfl, fun spaceId absent present => ?_, fun spaceId => ?_⟩
  · simp only [LedgerState.standing, Option.map_eq_none_iff] at absent
    simp [LedgerState.standing, absent] at present
  · simp only [LedgerState.standing, Table.get?_mapValues, Option.map_map]
    cases found : before.spaces.get? spaceId with
    | none => exact .keep _
    | some space =>
      simp only [Option.map_some, Function.comp_apply]
      split_ifs
      · unfold rebindSpace
        dsimp only
        split
        · exact .keep _
        · next lease leased => exact .orphaned leased
      · exact .keep _

theorem acquireLease_effect {ttl : Nat} (made_by : command = .acquireLease spaceId authority now ttl)
    (run : acquireLease spaceId authority now expiresAt renewBy before = .ok (lease, after)) :
    SpaceEffect calls command before after := by
  obtain rfl | ⟨space, found, notUser, notFence, lapsed, same⟩ := acquireLease_ok run
  · exact .of_same (.of_spaces rfl rfl rfl rfl)
  · refine .events same (.changeSpace found (grantedSpace · authority.principalId _) rfl rfl rfl
      (fun other distinct => ?_) ?_)
    · exact Table.get?_insert_ne _ _ _ _ distinct
    · rw [granted, Table.get?_insert_self]
      exact .granted made_by notUser notFence lapsed rfl

theorem authorizeSpace_owned (allowed : authorizeSpace before spaceId authority leaseEpoch now true = .ok ()) :
    ∃ space lease, before.spaces.get? spaceId = some space ∧ space.lifecycle = .agentOwned ∧
      space.lease = some lease := by
  obtain ⟨space, lease, authorized⟩ := authorizeSpace_ok.mp allowed
  exact ⟨space, lease, authorized.found, authorized.admits rfl, authorized.leased⟩

theorem renewLease_effect
    (run : renewLease spaceId authority leaseEpoch now expiresAt renewBy before = .ok (done, after)) :
    SpaceEffect calls command before after := by
  obtain ⟨allowed, same⟩ := renewLease_ok run
  obtain ⟨space, lease, found, owned, leased⟩ := authorizeSpace_owned allowed
  refine .events same (.changeSpace found _ rfl rfl rfl (fun _ _ => rfl) ?_)
  simp only [leased, Option.map_some]
  exact .renewed leased (.inl owned) rfl rfl

theorem fenceStarted_effect {changed : SpaceDescriptor} {actions : Table ActionId ActionReceipt}
    {pending : PendingFenceRecord} (holders : Table SpaceId ConnectionEpoch)
    (found : before.spaces.get? request.spaceId = some space) (notUser : space.lifecycle ≠ .userOwned)
    (leased : changed.lease = some lease) (epoch : lease.leaseEpoch = space.epoch + 1)
    (others : ∀ other, other ≠ request.spaceId -> holders.get? other = before.leaseHolders.get? other)
    (same : SameButEvents (fenceStarted { before with leaseHolders := holders } request changed actions pending) after) :
    SpaceEffect calls command before after := by
  refine .events same (.of_space found { changed with lifecycle := .fencePending } rfl rfl (fun other => ?_) others ?_)
  · exact Table.get?_insert _ _ _ _
  · simp only [leased]
    exact .fenced notUser (by simp [LedgerState.queue, fenceStarted, Table.get?_erase]) epoch

theorem takeover_effect (run : takeover spaceId authority now expiresAt renewBy before = .ok (request, after)) :
    SpaceEffect calls command before after := by
  obtain ⟨space, lease, _, _, _, found, leased, notUser, _, _, _, rfl, _, _, same⟩ := takeover_ok run
  refine fenceStarted_effect _ found notUser rfl ?_ (fun other distinct => Table.get?_insert_ne _ _ _ _ distinct) same
  simp [Lease.active, SpaceDescriptor.epoch, leased]

theorem returnControl_effect (run : returnControl spaceId authority leaseEpoch now before = .ok (request, after)) :
    SpaceEffect calls command before after := by
  obtain ⟨space, lease, _, _, _, allowed, _, rfl, _, _, same⟩ := returnControl_ok run
  have notUser : space.lifecycle ≠ .userOwned := allowed.notUserOwned
  refine fenceStarted_effect before.leaseHolders allowed.found notUser rfl ?_ (fun _ _ => rfl) same
  simp [SpaceDescriptor.epoch, allowed.leased, allowed.epoch]

theorem takeoverWithControlTicket_effect
    (run : takeoverWithControlTicket spaceId authority ticket expiresAt renewBy before = .ok (request, after)) :
    SpaceEffect calls command before after := by
  obtain ⟨space, lease, pages, pending, found, leased, user, _, _, _, same⟩ := takeoverWithControlTicket_ok run
  refine .events same (.of_space found _ rfl rfl (fun other => Table.get?_insert _ _ _ _)
    (fun other distinct => Table.get?_insert_ne _ _ _ _ distinct) ?_)
  exact .ticketed user (by simp [Lease.active, Standing.epoch, SpaceDescriptor.standing, leased])

theorem acknowledgeFence_effect {renewal : Option (Timestamp × Timestamp)} {request : FenceRequest × Bool}
    (run : acknowledgeFence spaceId authority leaseEpoch renewal before = .ok (request, after)) :
    SpaceEffect calls command before after := by
  obtain rfl | ⟨space, _, _, found, pending, same⟩ := acknowledgeFence_ok run
  · exact .of_same (.of_spaces rfl rfl rfl rfl)
  · refine .events same (.changeSpace found _ rfl rfl rfl (fun _ _ => rfl) ?_)
    cases leased : space.lease with
    | none =>
      simp only [SpaceDescriptor.standing, leased, Option.map_none]
      exact .keep _
    | some lease => exact .renewed leased (.inr pending) rfl rfl

theorem finishFence_effect {fence : FenceCall} {answer : FenceAnswer} {error : Option String}
    {lifecycle : SpaceLifecycle} (valid : Valid config before) (made_by : command = .fenceAnswered call answer)
    (call_at : calls.get? call = some (.fence fence))
    (run : finishFence fence.request authority answer.acknowledged error before = .ok (lifecycle, after)) :
    SpaceEffect calls command before after := by
  obtain ⟨pending, space, found, epoch, change⟩ := finishFence_ok run
  obtain ⟨_, waiting⟩ := (Table.contains_iff _ _).mp pending
  obtain ⟨fenced, same, lifecycle⟩ := valid.pendingFence waiting
  obtain rfl : fenced = space := Option.some.inj (same.symm.trans found)
  obtain ⟨acknowledged, _, same⟩ | same := change
  · refine .events same (.changeSpace found _ rfl rfl rfl (fun _ _ => rfl) ?_)
    exact .reclaimed made_by call_at acknowledged rfl epoch lifecycle
  · refine .events same (.changeSpace found _ rfl rfl rfl (fun _ _ => rfl) ?_)
    have unmoved : (stillFencedSpace error fenced).lifecycle = fenced.lifecycle ∧
        (stillFencedSpace error fenced).lease = fenced.lease := by
      cases error <;> simp [stillFencedSpace, SpaceDescriptor.warn, lifecycle]
    simp only [SpaceDescriptor.standing, unmoved.1, unmoved.2]
    exact .keep _

theorem finishUserReturn_effect {releasedEpoch : LeaseEpoch}
    (run : finishUserReturn request releasedEpoch authority before = .ok (ticket, after)) :
    SpaceEffect calls command before after := by
  obtain ⟨space, lease, _, found, pending, leased, same⟩ := finishUserReturn_ok run
  refine .events same (.changeSpace found _ rfl rfl rfl (fun other distinct => ?_) ?_)
  · dsimp only
    rw [Table.get?_erase, if_neg distinct]
  · simp only [Table.get?_erase, if_true, returnedSpace, leased, Option.map_some]
    exact .returned pending leased

theorem setFencedSpaceLifecycle_effect {suspension : Suspension}
    (run : setFencedSpaceLifecycle spaceId authority leaseEpoch suspension.lifecycle now before = .ok (done, after)) :
    SpaceEffect calls command before after := by
  obtain ⟨allowed, same⟩ := setFencedSpaceLifecycle_ok run
  obtain ⟨space, lease, found, owned, leased⟩ := authorizeSpace_owned allowed
  refine .events same (.changeSpace found _ rfl rfl rfl (fun _ _ => rfl) ?_)
  simp only [fencedSpace, leased, Option.map_some]
  exact .suspended owned leased (by cases suspension <;> simp [Suspension.lifecycle])

theorem authorizeFinishClaim_finishable {allowDraining : Bool}
    (run : authorizeFinishClaim before spaceId authority leaseEpoch now allowDraining = .ok done) :
    ∃ space lease, before.spaces.get? spaceId = some space ∧ space.lifecycle.finishable = true ∧
      space.lease = some lease ∧ lease.leaseEpoch = leaseEpoch := by
  obtain ⟨space, lease, found, leased, lifecycle, epoch⟩ := authorizeFinishClaim_ok run
  refine ⟨space, lease, found, ?_, leased, epoch⟩
  obtain owned | recovering | ⟨_, draining⟩ := lifecycle
  · simp [owned, SpaceLifecycle.finishable]
  · simp [recovering, SpaceLifecycle.finishable]
  · simp [draining, SpaceLifecycle.finishable]

theorem claimFinish_effect {claimed : List CleanupProof × RetentionPolicy}
    (run : claimFinish spaceId authority leaseEpoch now before = .ok (claimed, after)) :
    SpaceEffect calls command before after := by
  obtain ⟨_, space, _, found, allowed, resolved, same⟩ := claimFinish_ok run
  obtain ⟨claimed, _, lookup, finishable, _, _⟩ := authorizeFinishClaim_finishable allowed
  obtain rfl : claimed = space := Option.some.inj (lookup.symm.trans found)
  refine .events same (.changeSpace found _ rfl rfl rfl (fun _ _ => rfl) ?_)
  exact .drained finishable resolved

theorem completeFinish_effect {final : SpaceLifecycle} (made_by : command = .completeFinish call)
    (run : completeFinish spaceId authority leaseEpoch now retention before = .ok (final, after)) :
    SpaceEffect calls command before after := by
  obtain ⟨ended, allowed, same⟩ := completeFinish_ok run
  obtain ⟨space, lease, found, finishable, leased, _⟩ := authorizeFinishClaim_finishable allowed
  refine .events same (.changeSpace found _ rfl rfl rfl (fun _ _ => rfl) ?_)
  simp only [finishedSpace, leased, Option.map_some]
  exact .finished made_by finishable leased ended

theorem releaseSpace_effect (run : releaseSpace spaceId authority leaseEpoch now before = .ok (done, after)) :
    SpaceEffect calls command before after := by
  obtain rfl | ⟨space, found, finished, same⟩ := releaseSpace_ok run
  · exact .of_same (.of_spaces rfl rfl rfl rfl)
  · refine .events same (.changeSpace found (fun space => { space with lifecycle := .released }) rfl rfl rfl
      (fun _ _ => rfl) ?_)
    exact .released finished

theorem pruneReleasedSpaces_effect {maxCount : Nat} {gone : List SpaceId}
    (run : pruneReleasedSpaces authority maxCount before = .ok (gone, after)) : SpaceEffect calls command before after := by
  obtain ⟨pruned, update, prunable⟩ := pruneReleasedSpaces_ok run
  have standing : ∀ spaceId, after.standing spaceId =
      if spaceId ∈ pruned then none else before.standing spaceId := by
    intro spaceId
    rw [LedgerState.standing, LedgerState.standing, update.spaces, update.leaseHolders]
    split_ifs <;> rfl
  refine ⟨update.brokerEpoch, update.nextSpaceNumber.ge, fun spaceId absent present => ?_, fun spaceId => ?_⟩
  · simp [standing, absent] at present
  · rw [standing]
    split_ifs with inside
    · obtain ⟨space, found, released, resolved⟩ := prunable spaceId inside
      rw [standing_some found]
      exact .pruned released resolved
    · exact .keep _

end Moves

theorem Committable.standing_same {transition : Transition A} (made : Committable config transition before after)
    (run : ∀ value next, transition before = .ok (value, next) -> SameStanding before next) :
    SpaceEffect calls command before after :=
  made.spaceEffect fun value next moved => .of_same (run value next moved)

theorem SameStanding.refl (state : LedgerState) : SameStanding state state := .of_spaces rfl rfl rfl rfl

theorem SameStanding.trans (first : SameStanding before middle) (second : SameStanding middle after) :
    SameStanding before after :=
  ⟨second.brokerEpoch.trans first.brokerEpoch, second.numbers.trans first.numbers,
    fun spaceId => (second.standing spaceId).trans (first.standing spaceId)⟩

theorem SameStanding.events (appended : SameButEvents middle after) (same : SameStanding before middle) :
    SameStanding before after :=
  same.trans (.of_events appended)

theorem LedgerStep.spaceEffect (valid : Valid config before) (taken : LedgerStep config calls command before after) :
    SpaceEffect calls command before after := by
  cases taken with
  | hello _ made => exact made.standing_same fun _ _ run => .of_sessions (hello_ok run)
  | disconnect _ made => exact made.standing_same fun _ _ run => .of_sessions (disconnect_ok run)
  | markProfileRebindRequired made => exact made.spaceEffect fun _ _ run => markProfileRebindRequired_effect run
  | createSpace made => exact made.spaceEffect fun _ _ run => createSpace_effect run
  | acquireLease made_by made => exact made.spaceEffect fun _ _ run => acquireLease_effect made_by run
  | renewLease made => exact made.spaceEffect fun _ _ run => renewLease_effect run
  | takeover made => exact made.spaceEffect fun _ _ run => takeover_effect run
  | takeoverWithControlTicket _ made => exact made.spaceEffect fun _ _ run => takeoverWithControlTicket_effect run
  | returnControl made => exact made.spaceEffect fun _ _ run => returnControl_effect run
  | acknowledgeFence made => exact made.spaceEffect fun _ _ run => acknowledgeFence_effect run
  | finishFence made_by call_at about acknowledged made =>
    subst about acknowledged
    exact made.spaceEffect fun _ _ run => finishFence_effect valid made_by call_at run
  | finishUserReturn _ _ _ _ made => exact made.spaceEffect fun _ _ run => finishUserReturn_effect run
  | setFencedSpaceLifecycle made => exact made.spaceEffect fun _ _ run => setFencedSpaceLifecycle_effect run
  | claimFinish made => exact made.spaceEffect fun _ _ run => claimFinish_effect run
  | completeFinish made_by made => exact made.spaceEffect fun _ _ run => completeFinish_effect made_by run
  | releaseSpace made => exact made.spaceEffect fun _ _ run => releaseSpace_effect run
  | pruneReleasedSpaces _ made => exact made.spaceEffect fun _ _ run => pruneReleasedSpaces_effect run
  | bridgeEvent made | observePages made | recordFenceWarning made | createPage made | bindPage _ made
  | markPageLost _ made | beginClosePage made | completeClosePage _ made | missingCleanupPages made
  | authorizeCleanup made | finishPageCleanup _ made | recordCleanupFailure made | recheckDispatch made
  | issuingEnvelope made | captureGeneration made | commitSnapshot made | putSnapshot made | markSnapshotDirty made =>
    exact made.standing_work fun _ _ run => made.works run
  | markDegraded made | publishEvent made | enqueueAction made | beginDispatch _ made | finishDispatch made
  | beginReconcile _ made | finishReconcile _ made | shutdown made =>
    refine made.standing_same fun _ _ run => ?_
    obtain ⟨_, _, _, _, _, same⟩ := made.acts run
    exact .events same (.of_spaces rfl rfl rfl rfl)

end AgentycHost
