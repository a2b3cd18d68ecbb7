import AgentycHost.Effects.Fences

set_option autoImplicit false

/-! # What a step does to the records beside a space -/

namespace AgentycHost

open Shared

structure Companions where
  ticket : Option ControlTicketRecord
  pending : Option PendingFenceRecord
  proofs : List TakeoverProofRecord

def LedgerState.companions (state : LedgerState) (spaceId : SpaceId) : Companions where
  ticket := state.controlTickets.get? spaceId
  pending := state.pendingFences.get? spaceId
  proofs := (state.takeoverProofs.get? spaceId).getD []

structure Presents (before : LedgerState) (spaceId : SpaceId) (ticket : ControlTicket) (record : ControlTicketRecord) :
    Prop where
  stored : before.controlTickets.get? spaceId = some record
  token : ticket.token = record.token
  inside : ticket.spaceId = spaceId
  brokerEpoch : ticket.brokerEpoch = before.brokerEpoch
  fenceEpoch : ∃ standing, before.standing spaceId = some standing ∧ ticket.fenceEpoch = standing.epoch

/-- The moves of the records of one space; `new` is where the space stands after the step. -/
inductive CompanionMove (command : Command) (before : LedgerState) (spaceId : SpaceId) (new : Option Standing) :
    Companions -> Companions -> Prop where
  | keep (records : Companions) : CompanionMove command before spaceId new records records
  | fenced {records : Companions} {pending : PendingFenceRecord} {epoch : LeaseEpoch}
      (recorded : pending.oldEpoch = some epoch) (numbered : pending.fenceEpoch = epoch + 1) :
      CompanionMove command before spaceId new records { records with pending := some pending }
  | ticketed {records : Companions} {call now ttl : Nat} {authority : AuthorityTicket} {ticket : ControlTicket}
      {record : ControlTicketRecord} {pending : PendingFenceRecord} {epoch : LeaseEpoch}
      (made_by : command = .takeoverWithControlTicket call spaceId authority ticket now ttl)
      (presented : Presents before spaceId ticket record) (recorded : pending.oldEpoch = some epoch)
      (numbered : pending.fenceEpoch = epoch + 1) :
      CompanionMove command before spaceId new records { ticket := none, pending := some pending, proofs := [] }
  | acknowledged {records : Companions} {pending : PendingFenceRecord} {proof : TakeoverProofRecord}
      (waiting : records.pending = some pending) (previous : pending.oldEpoch = some proof.previousEpoch)
      (current : proof.currentEpoch = pending.fenceEpoch) :
      CompanionMove command before spaceId new records
        { records with pending := none, proofs := addTakeoverProof records.proofs proof }
  | returned {records : Companions} (record : ControlTicketRecord) :
      CompanionMove command before spaceId new records { records with pending := none, ticket := some record }
  -- the proofs go when the space leaves its agent
  | left {records : Companions} (left : new.all (fun standing => standing.lifecycle != .agentOwned) = true) :
      CompanionMove command before spaceId new records { records with proofs := [] }

section Effects

variable {config : LedgerConfig} {calls : Table Nat Call} {command : Command} {before middle after : LedgerState}
  {spaceId : SpaceId} {authority : AuthorityTicket} {leaseEpoch : LeaseEpoch} {now expiresAt renewBy : Timestamp}
  {request : FenceRequest} {ticket : ControlTicket}

def CompanionEffect (command : Command) (before after : LedgerState) : Prop :=
  ∀ spaceId, CompanionMove command before spaceId (after.standing spaceId) (before.companions spaceId)
    (after.companions spaceId)

theorem CompanionEffect.of_same (tickets : after.controlTickets = before.controlTickets)
    (fences : after.pendingFences = before.pendingFences) (proofs : after.takeoverProofs = before.takeoverProofs) :
    CompanionEffect command before after := by
  intro spaceId
  rw [LedgerState.companions, LedgerState.companions, tickets, fences, proofs]
  exact .keep _

theorem CompanionEffect.events (appended : SameButEvents middle after)
    (effect : CompanionEffect command before middle) : CompanionEffect command before after := by
  intro spaceId
  rw [(SameStanding.of_events appended).standing]
  obtain ⟨_, _, _, rfl⟩ := appended
  exact effect spaceId

theorem CompanionEffect.sessions (same : SameButSessions before after) : CompanionEffect command before after := by
  obtain ⟨_, _, _, _, _, _, _, _, _, rfl⟩ := same
  exact .of_same rfl rfl rfl

theorem CompanionEffect.work (work : PageWork before after) : CompanionEffect command before after := by
  obtain ⟨_, _, _, _, _, _, _, rfl⟩ := work
  exact .of_same rfl rfl rfl

theorem Committable.companionEffect {A : Type} {transition : Transition A}
    (made : Committable config transition before after)
    (run : ∀ value next, transition before = .ok (value, next) -> CompanionEffect command before next) :
    CompanionEffect command before after := by
  obtain ⟨value, next, moved, rfl, _⟩ := made
  exact .events (drainEvents_same _ _) (run value next moved)

theorem CompanionEffect.at_space {records : Companions} (spaceId : SpaceId)
    (others : ∀ other, other ≠ spaceId -> after.companions other = before.companions other)
    (changed : after.companions spaceId = records)
    (move : CompanionMove command before spaceId (after.standing spaceId) (before.companions spaceId) records) :
    CompanionEffect command before after := by
  intro other
  by_cases here : other = spaceId
  · rw [here, changed]
    exact move
  · rw [others other here]
    exact .keep _

theorem CompanionEffect.fenced {pending : PendingFenceRecord} {epoch : LeaseEpoch}
    (fences : FencesFrom epoch request pending) (tickets : after.controlTickets = before.controlTickets)
    (inserted : after.pendingFences = before.pendingFences.insert spaceId pending)
    (proofs : after.takeoverProofs = before.takeoverProofs) : CompanionEffect command before after := by
  refine .at_space spaceId (fun other here => ?_) ?_
    (.fenced (fences.recorded.trans fences.oldEpoch) (fences.numbered.trans fences.fenceEpoch))
  · simp [LedgerState.companions, tickets, inserted, proofs, Table.get?_insert_ne _ _ _ _ here]
  · simp [LedgerState.companions, tickets, inserted, proofs]

theorem takeoverWithControlTicket_presents
    (run : takeoverWithControlTicket spaceId authority ticket expiresAt renewBy before = .ok (request, after)) :
    ∃ record, Presents before spaceId ticket record := by
  simp only [takeoverWithControlTicket, bind_ok, require_ok, orElse_ok, findSpace_ok, Bool.and_eq_true, beq_iff_eq,
    Option.any_eq_true] at run
  obtain ⟨_, _, _, _, space, found, lease, leased, _, ⟨⟨⟨⟨_, inside⟩, broker⟩, epoch⟩, record, stored, token⟩, _⟩ := run
  refine ⟨record, stored, token.symm, inside, broker, _, standing_some found, ?_⟩
  simp [Standing.epoch, SpaceDescriptor.standing, leased, epoch]

theorem takeoverWithControlTicket_companions {call now ttl : Nat}
    (made_by : command = .takeoverWithControlTicket call spaceId authority ticket now ttl)
    (run : takeoverWithControlTicket spaceId authority ticket expiresAt renewBy before = .ok (request, after)) :
    CompanionEffect command before after := by
  obtain ⟨record, presented⟩ := takeoverWithControlTicket_presents run
  obtain ⟨_, _, _, pending, _, _, _, _, _, fences, same⟩ := takeoverWithControlTicket_ok run
  refine .events same (.at_space spaceId (fun other here => ?_) ?_
    (.ticketed made_by presented (fences.recorded.trans fences.oldEpoch) (fences.numbered.trans fences.fenceEpoch)))
  · simp [LedgerState.companions, Table.get?_insert_ne _ _ _ _ here, Table.get?_erase, here]
  · simp [LedgerState.companions, Table.get?_erase]

theorem finishFence_companions {acknowledged : Bool} {error : Option String} {lifecycle : SpaceLifecycle}
    (run : finishFence request authority acknowledged error before = .ok (lifecycle, after)) :
    CompanionEffect command before after := by
  simp only [finishFence, bind_ok, require_ok, orElse_ok, findSpace_ok, Bool.and_eq_true, beq_iff_eq] at run
  obtain ⟨_, _, pending, found, _, ⟨⟨_, numbered⟩, _⟩, _, _, _, _, rest⟩ := run
  split_ifs at rest with acknowledged
  · simp only [bind_ok, pure_ok, orElse_ok, Prod.mk.injEq] at rest
    obtain ⟨previous, old, _, changed, _, rfl⟩ := rest
    refine .events (spaceChanged_same changed) (.at_space request.spaceId (fun other here => ?_) rfl ?_)
    · simp [LedgerState.companions, LedgerState.changeSpace, Table.get?_insert_ne _ _ _ _ here, Table.get?_erase, here]
    · simp only [LedgerState.companions, LedgerState.changeSpace, Table.get?_erase, Table.get?_insert_self, if_true,
        Option.getD_some]
      exact .acknowledged found old numbered.symm
  · simp only [bind_ok, pure_ok, Prod.mk.injEq] at rest
    obtain ⟨_, changed, _, rfl⟩ := rest
    exact .events (spaceChanged_same changed) (.of_same rfl rfl rfl)

theorem finishUserReturn_companions {releasedEpoch : LeaseEpoch}
    (run : finishUserReturn request releasedEpoch authority before = .ok (ticket, after)) :
    CompanionEffect command before after := by
  obtain ⟨_, _, record, _, _, _, same⟩ := finishUserReturn_ok run
  refine .events same (.at_space request.spaceId (fun other here => ?_) ?_ (.returned record))
  · simp [LedgerState.companions, LedgerState.changeSpace, Table.get?_insert_ne _ _ _ _ here, Table.get?_erase, here]
  · simp [LedgerState.companions, LedgerState.changeSpace, Table.get?_erase]

theorem CompanionEffect.left (tickets : after.controlTickets = before.controlTickets)
    (fences : after.pendingFences = before.pendingFences)
    (proofs : after.takeoverProofs = before.takeoverProofs.erase spaceId)
    (left : (after.standing spaceId).all (fun standing => standing.lifecycle != .agentOwned) = true) :
    CompanionEffect command before after := by
  refine .at_space spaceId (fun other here => ?_) ?_ (.left left)
  · simp [LedgerState.companions, tickets, fences, proofs, Table.get?_erase, here]
  · simp [LedgerState.companions, tickets, fences, proofs, Table.get?_erase]

theorem PrunedBy.companions {pruned : List SpaceId} (update : PrunedBy pruned before after) :
    CompanionEffect command before after := by
  intro spaceId
  by_cases inside : spaceId ∈ pruned
  · have records : after.companions spaceId = { before.companions spaceId with proofs := [] } := by
      simp [LedgerState.companions, update.controlTickets, update.pendingFences, update.takeoverProofs, inside]
    rw [records]
    refine .left ?_
    simp [LedgerState.standing, update.spaces, inside]
  · have records : after.companions spaceId = before.companions spaceId := by
      simp [LedgerState.companions, update.controlTickets, update.pendingFences, update.takeoverProofs, inside]
    rw [records]
    exact .keep _

theorem left_changeSpace (change : SpaceDescriptor -> SpaceDescriptor)
    (left : ∀ space, (change space).lifecycle ≠ .agentOwned) :
    ((before.changeSpace spaceId change).standing spaceId).all (fun standing => standing.lifecycle != .agentOwned) =
      true := by
  rw [LedgerState.standing, LedgerState.changeSpace, Table.get?_modify_self]
  cases before.spaces.get? spaceId with
  | none => rfl
  | some space => simpa [SpaceDescriptor.standing] using left space

theorem LedgerStep.companions (taken : LedgerStep config calls command before after) :
    CompanionEffect command before after := by
  cases taken with
  | hello _ made => exact made.companionEffect fun _ _ run => .sessions (hello_ok run)
  | disconnect _ made => exact made.companionEffect fun _ _ run => .sessions (disconnect_ok run)
  | markProfileRebindRequired made =>
    exact made.companionEffect fun _ _ run => .events (markProfileRebindRequired_ok run) (.of_same rfl rfl rfl)
  | createSpace made =>
    refine made.companionEffect fun _ _ run => ?_
    obtain ⟨_, _, _, _, same⟩ := createSpace_ok run
    exact .events same (.of_same rfl rfl rfl)
  | acquireLease _ made =>
    refine made.companionEffect fun _ _ run => ?_
    obtain rfl | ⟨_, _, _, _, _, same⟩ := acquireLease_ok run
    · exact .of_same rfl rfl rfl
    · exact .events same (.of_same rfl rfl rfl)
  | renewLease made => exact made.companionEffect fun _ _ run => .events (renewLease_ok run).2 (.of_same rfl rfl rfl)
  | takeover made =>
    refine made.companionEffect fun _ _ run => ?_
    obtain ⟨_, _, _, _, _, _, _, _, _, _, _, rfl, fences, _, same⟩ := takeover_ok run
    exact .events same (.fenced fences rfl rfl rfl)
  | takeoverWithControlTicket made_by made =>
    exact made.companionEffect fun _ _ run => takeoverWithControlTicket_companions made_by run
  | returnControl made =>
    refine made.companionEffect fun _ _ run => ?_
    obtain ⟨_, _, _, _, _, _, _, rfl, fences, _, same⟩ := returnControl_ok run
    exact .events same (.fenced fences rfl rfl rfl)
  | acknowledgeFence made =>
    refine made.companionEffect fun _ _ run => ?_
    obtain rfl | ⟨_, _, _, _, _, same⟩ := acknowledgeFence_ok run
    · exact .of_same rfl rfl rfl
    · exact .events same (.of_same rfl rfl rfl)
  | finishFence _ _ _ _ made => exact made.companionEffect fun _ _ run => finishFence_companions run
  | finishUserReturn _ _ _ _ made => exact made.companionEffect fun _ _ run => finishUserReturn_companions run
  | @setFencedSpaceLifecycle spaceId _ _ suspension _ made =>
    refine made.companionEffect fun _ _ run => .events (setFencedSpaceLifecycle_ok run).2 (.left rfl rfl rfl ?_)
    refine left_changeSpace (fencedSpace suspension.lifecycle) fun space => ?_
    cases suspension <;> exact SpaceLifecycle.noConfusion
  | claimFinish made =>
    refine made.companionEffect fun _ _ run => ?_
    obtain ⟨_, _, _, _, _, _, same⟩ := claimFinish_ok run
    exact .events same (.of_same rfl rfl rfl)
  | completeFinish _ made =>
    refine made.companionEffect fun _ _ run => ?_
    obtain ⟨final, _, same⟩ := completeFinish_ok run
    refine .events same (.left rfl rfl rfl (left_changeSpace (finishedSpace _) fun space => ?_))
    obtain rfl | rfl := final <;> exact SpaceLifecycle.noConfusion
  | releaseSpace made =>
    refine made.companionEffect fun _ _ run => ?_
    obtain rfl | ⟨_, _, _, same⟩ := releaseSpace_ok run
    · exact .of_same rfl rfl rfl
    · refine .events same (.left rfl rfl rfl ?_)
      exact left_changeSpace (fun space => { space with lifecycle := .released }) fun _ => SpaceLifecycle.noConfusion
  | pruneReleasedSpaces _ made =>
    refine made.companionEffect fun _ _ run => ?_
    obtain ⟨_, update, _⟩ := pruneReleasedSpaces_ok run
    exact update.companions
  | bridgeEvent made | observePages made | recordFenceWarning made | createPage made | bindPage _ made
  | markPageLost _ made | beginClosePage made | completeClosePage _ made | missingCleanupPages made
  | authorizeCleanup made | finishPageCleanup _ made | recordCleanupFailure made | recheckDispatch made
  | issuingEnvelope made | captureGeneration made | commitSnapshot made | putSnapshot made | markSnapshotDirty made =>
    exact made.companionEffect fun _ _ run => .work (made.works run)
  | markDegraded made | publishEvent made | enqueueAction made | beginDispatch _ made | finishDispatch made
  | beginReconcile _ made | finishReconcile _ made | shutdown made =>
    refine made.companionEffect fun _ _ run => ?_
    obtain ⟨_, _, _, _, _, same⟩ := made.acts run
    exact .events same (.of_same rfl rfl rfl)

end Effects

end AgentycHost
