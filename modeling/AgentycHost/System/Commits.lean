import AgentycHost.System.Host

set_option autoImplicit false

/-!
# What one step does to the ledger

Every step leaves the ledger alone, commits one of the transitions listed here
or writes its result to the file alone; a restart opens the file again.
-/

namespace AgentycHost

open Shared

variable {config : HostConfig} {env : Environment} {command : Command}

inductive BindsPage (calls : Table Nat Call) (command : Command) (spaceId : SpaceId) (pageId : PageId)
    (target : BoundTarget) : Prop where
  | observed {call : Nat} {claim : Claim} (made_by : command = .bindManagedPage call target)
      (call_at : calls.get? call = some (.managedPage claim pageId)) (inside : claim.spaceId = spaceId)
  | blind {claim : Claim} {bound : BoundTarget} (made_by : command = .bindPage claim pageId bound)
      (inside : claim.spaceId = spaceId) (target_ : target.targetGeneration = none) (navigation : target.navigationGeneration = none)
      (document : target.documentGeneration = none)

inductive LosesPage (calls : Table Nat Call) (command : Command) (spaceId : SpaceId) (pageId : PageId) : Prop where
  | named {claim : Claim} (made_by : command = .markPageLost claim pageId) (inside : claim.spaceId = spaceId)
  | unclosed {call : Nat} {claim : Claim} {generation : PageGeneration} (made_by : command = .closeAnswered call false)
      (call_at : calls.get? call = some (.closePage claim pageId generation)) (inside : claim.spaceId = spaceId)

inductive ClosesPage (calls : Table Nat Call) (command : Command) (spaceId : SpaceId) (pageId : PageId) : Prop where
  | closed {call : Nat} {claim : Claim} {generation : PageGeneration} (made_by : command = .closeAnswered call true)
      (call_at : calls.get? call = some (.closePage claim pageId generation)) (inside : claim.spaceId = spaceId)
  | missing {call : Nat} {claim : Claim} {proof : CleanupProof} {rest : List CleanupProof}
      (made_by : command = .finishMissing call)
      (call_at : calls.get? call = some (.finish claim (.missing (proof :: rest)))) (inside : claim.spaceId = spaceId)
      (about : proof.pageId = pageId)
  | cleaned {call : Nat} {claim : Claim} {proof : CleanupProof} {rest : List CleanupProof}
      {retention : RetentionPolicy} {answer : CloseAnswer} (made_by : command = .cleanupAnswered call answer)
      (call_at : calls.get? call = some (.finish claim (.closing proof rest retention)))
      (answered : answer = .closed ∨ answer = .gone) (inside : claim.spaceId = spaceId) (about : proof.pageId = pageId)

inductive LedgerStep (config : LedgerConfig) (calls : Table Nat Call) (command : Command) (before after : LedgerState) :
    Prop where
  | hello {request : Hello} {epochs : Option ExtensionEpochs} (made_by : command = .hello request)
      (made : Committable config (hello request epochs) before after)
  | disconnect {authority : AuthorityTicket} (made_by : command = .disconnect authority)
      (made : Committable config (disconnect authority) before after)
  | markDegraded (made : Committable config markDegraded before after)
  | markProfileRebindRequired {observed : ProfileBindingId}
      (made : Committable config (markProfileRebindRequired observed) before after)
  | createSpace {authority : AuthorityTicket} {label : String} {retention : RetentionPolicy}
      (made : Committable config (createSpace authority label retention) before after)
  | publishEvent {authority : AuthorityTicket} {scope : EventScope} {event : EventKind} {payload : Payload}
      (made : Committable config (publishEvent authority scope event payload) before after)
  | bridgeEvent {event : BridgeEvent} {authority : AuthorityTicket} {epochs : Option ExtensionEpochs}
      {now : Timestamp} {registry : RefRegistry}
      (made : Committable config (fun state => (applyBridgeEvent event authority epochs now registry state).2)
        before after)
  | observePages {observation : List ObservedPage}
      (made : Committable config (reconcileBridgePages observation) before after)
  | acquireLease {spaceId : SpaceId} {authority : AuthorityTicket} {now expiresAt renewBy : Timestamp} {ttl : Nat}
      (made_by : command = .acquireLease spaceId authority now ttl)
      (made : Committable config (acquireLease spaceId authority now expiresAt renewBy) before after)
  | renewLease {spaceId : SpaceId} {authority : AuthorityTicket} {leaseEpoch : LeaseEpoch}
      {now expiresAt renewBy : Timestamp}
      (made : Committable config (renewLease spaceId authority leaseEpoch now expiresAt renewBy) before after)
  | takeover {spaceId : SpaceId} {authority : AuthorityTicket} {now expiresAt renewBy : Timestamp}
      (made : Committable config (takeover spaceId authority now expiresAt renewBy) before after)
  | takeoverWithControlTicket {spaceId : SpaceId} {authority : AuthorityTicket} {ticket : ControlTicket}
      {expiresAt renewBy : Timestamp} {call now ttl : Nat}
      (made_by : command = .takeoverWithControlTicket call spaceId authority ticket now ttl)
      (made : Committable config (takeoverWithControlTicket spaceId authority ticket expiresAt renewBy) before after)
  | returnControl {spaceId : SpaceId} {authority : AuthorityTicket} {leaseEpoch : LeaseEpoch} {now : Timestamp}
      (made : Committable config (returnControl spaceId authority leaseEpoch now) before after)
  | acknowledgeFence {spaceId : SpaceId} {authority : AuthorityTicket} {leaseEpoch : LeaseEpoch}
      {renewal : Option (Timestamp × Timestamp)}
      (made : Committable config (acknowledgeFence spaceId authority leaseEpoch renewal) before after)
  | finishFence {request : FenceRequest} {authority : AuthorityTicket} {acknowledged : Bool} {error : Option String}
      {call : Nat} {fence : FenceCall} {answer : FenceAnswer} (made_by : command = .fenceAnswered call answer)
      (call_at : calls.get? call = some (.fence fence)) (about : request = fence.request)
      (answered : acknowledged = answer.acknowledged)
      (made : Committable config (finishFence request authority acknowledged error) before after)
  | finishUserReturn {request : FenceRequest} {releasedEpoch : LeaseEpoch} {authority : AuthorityTicket} {call : Nat}
      {fence : FenceCall} {answer : FenceAnswer} (made_by : command = .fenceAnswered call answer)
      (call_at : calls.get? call = some (.fence fence)) (returned : fence.completion answer = .userReturn)
      (about : request = fence.request)
      (made : Committable config (finishUserReturn request releasedEpoch authority) before after)
  | recordFenceWarning {spaceId : SpaceId} {text : String}
      (made : Committable config (recordFenceWarning spaceId text) before after)
  | setFencedSpaceLifecycle {spaceId : SpaceId} {authority : AuthorityTicket} {leaseEpoch : LeaseEpoch}
      {suspension : Suspension} {now : Timestamp}
      (made : Committable config
        (setFencedSpaceLifecycle spaceId authority leaseEpoch suspension.lifecycle now) before after)
  | createPage {spaceId : SpaceId} {authority : AuthorityTicket} {leaseEpoch : LeaseEpoch} {label : String}
      {now : Timestamp} (made : Committable config (createPage spaceId authority leaseEpoch label now) before after)
  | bindPage {spaceId : SpaceId} {pageId : PageId} {authority : AuthorityTicket} {leaseEpoch : LeaseEpoch}
      {now : Timestamp} {target : BoundTarget}
      (made_by : BindsPage calls command spaceId pageId target)
      (made : Committable config (bindPage spaceId pageId authority leaseEpoch now target) before after)
  | markPageLost {spaceId : SpaceId} {pageId : PageId} {authority : AuthorityTicket} {leaseEpoch : LeaseEpoch}
      {now : Timestamp} {registry : RefRegistry} (made_by : LosesPage calls command spaceId pageId)
      (made : Committable config (fun state => (markPageLost spaceId pageId authority leaseEpoch now registry state).2)
        before after)
  | beginClosePage {spaceId : SpaceId} {pageId : PageId} {authority : AuthorityTicket} {leaseEpoch : LeaseEpoch}
      {now : Timestamp} (made : Committable config (beginClosePage spaceId pageId authority leaseEpoch now) before after)
  | completeClosePage {spaceId : SpaceId} {pageId : PageId} {generation : PageGeneration}
      {authority : AuthorityTicket} {leaseEpoch : LeaseEpoch} {now : Timestamp}
      (made_by : ClosesPage calls command spaceId pageId)
      (made : Committable config (completeClosePage spaceId pageId generation authority leaseEpoch now) before after)
  | missingCleanupPages {spaceId : SpaceId} {authority : AuthorityTicket} {leaseEpoch : LeaseEpoch}
      {now : Timestamp} {present : List PageId}
      (made : Committable config (missingCleanupPages spaceId authority leaseEpoch now present) before after)
  | claimFinish {spaceId : SpaceId} {authority : AuthorityTicket} {leaseEpoch : LeaseEpoch} {now : Timestamp}
      (made : Committable config (claimFinish spaceId authority leaseEpoch now) before after)
  | authorizeCleanup {spaceId : SpaceId} {proof : CleanupProof} {authority : AuthorityTicket}
      {leaseEpoch : LeaseEpoch} {now : Timestamp}
      (made : Committable config (authorizeCleanup spaceId proof authority leaseEpoch now) before after)
  | finishPageCleanup {spaceId : SpaceId} {proof : CleanupProof} {authority : AuthorityTicket}
      {leaseEpoch : LeaseEpoch} {now : Timestamp} (made_by : ClosesPage calls command spaceId proof.pageId)
      (made : Committable config (finishPageCleanup spaceId proof authority leaseEpoch now) before after)
  | recordCleanupFailure {spaceId : SpaceId} {proof : CleanupProof} {authority : AuthorityTicket}
      {leaseEpoch : LeaseEpoch} {now : Timestamp} {code : String}
      (made : Committable config (recordCleanupFailure spaceId proof authority leaseEpoch now code) before after)
  | completeFinish {spaceId : SpaceId} {authority : AuthorityTicket} {leaseEpoch : LeaseEpoch} {now : Timestamp}
      {retention : RetentionPolicy} {call : Nat} (made_by : command = .completeFinish call)
      (made : Committable config (completeFinish spaceId authority leaseEpoch now retention) before after)
  | releaseSpace {spaceId : SpaceId} {authority : AuthorityTicket} {leaseEpoch : LeaseEpoch} {now : Timestamp}
      (made : Committable config (releaseSpace spaceId authority leaseEpoch now) before after)
  | pruneReleasedSpaces {authority : AuthorityTicket} {maxCount : Nat}
      (made_by : command = .pruneReleasedSpaces authority maxCount)
      (made : Committable config (pruneReleasedSpaces authority maxCount) before after)
  | enqueueAction {request : ActionRequest} {authority : AuthorityTicket} {now : Timestamp} {registry : RefRegistry}
      (made : Committable config (fun state => (enqueueAction config request authority now registry state).2)
        before after)
  | beginDispatch {actionId : ActionId} {authority : AuthorityTicket} {leaseEpoch : LeaseEpoch} {now : Timestamp}
      {registry : RefRegistry} {call : Nat}
      (made_by : command = .dispatchAction call actionId authority leaseEpoch now)
      (made : Committable config
        (fun state => (beginDispatch config.codec actionId authority leaseEpoch now registry state).2) before after)
  | recheckDispatch {actionId : ActionId} {request : ActionRequest} {authority : AuthorityTicket}
      {leaseEpoch : LeaseEpoch} {now : Timestamp} {registry : RefRegistry}
      (made : Committable config
        (fun state => (recheckDispatch config.codec actionId request authority leaseEpoch now registry state).2)
        before after)
  | finishDispatch {lifecycle : HostLifecycle} {actionId : ActionId} {request : ActionRequest}
      {authority : AuthorityTicket} {outcome : BridgeDispatchResult} {now : Timestamp} {registry : RefRegistry}
      (made : Committable config
        (fun state => (finishDispatch lifecycle actionId request authority outcome now registry state).2) before after)
  | beginReconcile {actionId : ActionId} {authority : AuthorityTicket} {leaseEpoch : LeaseEpoch} {now : Timestamp}
      {call : Nat} (made_by : command = .reconcileAction call actionId authority leaseEpoch now)
      (made : Committable config (beginReconcile actionId authority leaseEpoch now) before after)
  | finishReconcile {lifecycle : HostLifecycle} {actionId : ActionId} {authority : AuthorityTicket}
      {leaseEpoch : LeaseEpoch} {answer : Option BridgeReconcileResult} {now : Timestamp} {call : Nat}
      (made_by : command = .reconcileAnswered call answer)
      (made : Committable config (finishReconcile lifecycle actionId authority leaseEpoch answer now) before after)
  | issuingEnvelope {spaceId : SpaceId} {pageId : PageId} {authority : AuthorityTicket} {leaseEpoch : LeaseEpoch}
      {now : Timestamp}
      (made : Committable config (issuingEnvelope spaceId pageId authority leaseEpoch now) before after)
  | captureGeneration {spaceId : SpaceId} {pageId : PageId} {authority : AuthorityTicket} {leaseEpoch : LeaseEpoch}
      {now : Timestamp}
      (made : Committable config (captureGeneration spaceId pageId authority leaseEpoch now) before after)
  | commitSnapshot {spaceId : SpaceId} {pageId : PageId} {authority : AuthorityTicket} {leaseEpoch : LeaseEpoch}
      {now : Timestamp} {generation : PageGeneration} {envelope : SnapshotEnvelope}
      (made : Committable config (commitSnapshot spaceId pageId authority leaseEpoch now generation envelope)
        before after)
  | putSnapshot {authority : AuthorityTicket} {envelope : SnapshotEnvelope} {leaseEpoch : LeaseEpoch}
      {now : Timestamp} {registry : RefRegistry}
      (made : Committable config (fun state => (putSnapshot authority envelope leaseEpoch now registry state).2)
        before after)
  | markSnapshotDirty {authority : AuthorityTicket} {spaceId : SpaceId} {pageId : PageId} {leaseEpoch : LeaseEpoch}
      {now : Timestamp} {registry : RefRegistry}
      (made : Committable config
        (fun state => (markSnapshotDirty authority spaceId pageId leaseEpoch now registry state).2) before after)
  | shutdown {now : Timestamp} (made : Committable config (shutdown now) before after)

inductive LedgerMove (config : LedgerConfig) (calls : Table Nat Call) (command : Command) (before : Ledger) :
    Ledger -> Prop where
  | same : LedgerMove config calls command before before
  | committed {after : LedgerState} (taken : LedgerStep config calls command before.state after)
      (fits : config.codec.prettyBytes after ≤ config.limits.maxLedgerBytes) :
      LedgerMove config calls command before { state := after, disk := after }
  -- the rename happened and its sync failed
  | written {after : LedgerState} (taken : LedgerStep config calls command before.state after) :
      LedgerMove config calls command before { before with disk := after }

section Replies

variable {calls : Table Nat Call} {system : System} {A : Type}

@[simp]
theorem System.done_fst (reply : Reply A) : (System.done reply).1 = reply.1 := rfl

@[simp]
theorem System.goOn_ledger (call : Nat) (next : A -> Except HostError (Option Call)) (reply : Reply A) :
    (System.goOn call next reply).1.ledger = reply.1.ledger := by
  unfold System.goOn
  split <;> rfl

@[simp]
theorem endDispatch_ledger (call : Nat) (dispatch : DispatchCall) :
    (endDispatch call dispatch system).ledger = system.ledger := by
  unfold endDispatch
  split_ifs <;> rfl

theorem update_move {transition : Transition A} {ledger : Ledger}
    (known : ∀ after, Committable config.ledger transition ledger.state after ->
      LedgerStep config.ledger calls command ledger.state after) :
    LedgerMove config.ledger calls command ledger (ledger.update config.ledger env.io transition).1 := by
  obtain ⟨_, same⟩ | ⟨value, next, after, moved, drained, valid, done | ⟨_, written⟩⟩ :=
    ledger.update_cases config.ledger env.io transition
  · rw [same]
    exact .same
  · have fits := ledger.update_fits done
    rw [done]
    exact .committed (known after ⟨value, next, moved, drained, valid⟩) fits
  · rw [written]
    exact .written (known after ⟨value, next, moved, drained, valid⟩)

theorem commit_move {transition : Transition A}
    (known : ∀ after, Committable config.ledger transition system.ledger.state after ->
      LedgerStep config.ledger calls command system.ledger.state after) :
    LedgerMove config.ledger calls command system.ledger (system.commit config env transition).1.ledger :=
  update_move known

theorem commitRefs_move {transition : RefTransition A}
    (known : ∀ after,
      Committable config.ledger (fun state => (transition system.registry state).2) system.ledger.state after ->
      LedgerStep config.ledger calls command system.ledger.state after) :
    LedgerMove config.ledger calls command system.ledger (system.commitRefs config env transition).1.ledger :=
  update_move known

theorem afterCheck_move {check : Except HostError Unit} {next : Reply A}
    (moved : LedgerMove config.ledger calls command system.ledger next.1.ledger) :
    LedgerMove config.ledger calls command system.ledger (system.afterCheck check next).1.ledger := by
  unfold System.afterCheck
  split
  · exact .same
  · exact moved

theorem withLeaseTimes_move {now ttl : Nat} {next : Timestamp -> Timestamp -> Reply Unit}
    (moved : ∀ expiresAt renewBy,
      LedgerMove config.ledger calls command system.ledger (next expiresAt renewBy).1.ledger) :
    LedgerMove config.ledger calls command system.ledger (withLeaseTimes system now ttl next).1.ledger := by
  unfold withLeaseTimes
  split
  · exact .same
  · exact moved _ _

end Replies

section Steps

variable {before after : System} {result : Except HostError Unit}

theorem replied {reply : Reply Unit} (taken : some reply = some (after, result)) : after = reply.1 := by
  cases taken
  rfl

theorem connect_ledger (request : Hello) (system : System) :
    (connect config env request system).1.ledger =
      (system.commit config env (hello request env.extensionEpochs)).1.ledger := by
  unfold connect
  dsimp only
  split
  · rfl
  · split_ifs <;> rfl

theorem sessionStep_ledger (taken : sessionStep config env command before = some (after, result)) :
    LedgerMove config.ledger before.calls command before.ledger after.ledger := by
  unfold sessionStep at taken
  split at taken
  · rw [replied taken]
    rw [connect_ledger]
    exact commit_move fun _ made => .hello rfl made
  · rw [replied taken]
    exact commit_move fun _ made => .disconnect rfl made
  · split_ifs at taken <;> (rw [replied taken]; exact .same)
  · split_ifs at taken
    · rw [replied taken]
      exact update_move fun _ made => .markDegraded made
    · rw [replied taken]
      exact .same
  · rw [replied taken]
    exact commit_move fun _ made => .markProfileRebindRequired made
  · rw [replied taken]
    exact afterCheck_move (commit_move fun _ made => .createSpace made)
  · rw [replied taken]
    exact commit_move fun _ made => .publishEvent made
  · rw [replied taken]
    exact afterCheck_move (commitRefs_move fun _ made => .bridgeEvent made)
  · rw [replied taken]
    exact commit_move fun _ made => .observePages made
  · cases taken

theorem leaseStep_ledger (taken : leaseStep config env command before = some (after, result)) :
    LedgerMove config.ledger before.calls command before.ledger after.ledger := by
  unfold leaseStep at taken
  split at taken
  · rw [replied taken]
    exact withLeaseTimes_move fun _ _ => afterCheck_move (commit_move fun _ made => .acquireLease rfl made)
  · rw [replied taken]
    exact withLeaseTimes_move fun _ _ => afterCheck_move (commit_move fun _ made => .renewLease made)
  · split_ifs at taken
    rw [replied taken]
    refine withLeaseTimes_move fun _ _ => afterCheck_move ?_
    rw [System.goOn_ledger]
    exact commit_move fun _ made => .takeover made
  · split_ifs at taken
    rw [replied taken]
    refine withLeaseTimes_move fun _ _ => afterCheck_move ?_
    rw [System.goOn_ledger]
    exact commit_move fun _ made => .takeoverWithControlTicket rfl made
  · split_ifs at taken
    rw [replied taken]
    refine afterCheck_move ?_
    rw [System.goOn_ledger]
    exact commit_move fun _ made => .returnControl made
  · split_ifs at taken
    rw [replied taken]
    refine afterCheck_move ?_
    rw [System.goOn_ledger]
    exact .same
  · split_ifs at taken
    split at taken
    · rw [replied taken]
      refine afterCheck_move ?_
      rw [System.goOn_ledger]
      exact commit_move fun _ made => .acknowledgeFence made
    · rw [replied taken]
      refine withLeaseTimes_move fun _ _ => afterCheck_move ?_
      rw [System.goOn_ledger]
      exact commit_move fun _ made => .acknowledgeFence made
  · split at taken
    · split at taken
      · next fence found _ _ =>
        rw [replied taken, System.goOn_ledger]
        exact commit_move fun _ made => .finishFence rfl found rfl rfl made
      · next fence found _ returned =>
        rw [replied taken, System.goOn_ledger]
        exact commit_move fun _ made => .finishUserReturn rfl found returned rfl made
      · rw [replied taken, System.goOn_ledger]
        exact commit_move fun _ made => .recordFenceWarning made
      · rw [replied taken]
        exact .same
    · cases taken
  · split at taken
    · rw [replied taken, System.goOn_ledger]
      exact commit_move fun _ made => .setFencedSpaceLifecycle made
    · cases taken
  · cases taken

theorem pageStep_ledger (taken : pageStep config env command before = some (after, result)) :
    LedgerMove config.ledger before.calls command before.ledger after.ledger := by
  unfold pageStep at taken
  split at taken
  · rw [replied taken]
    exact afterCheck_move (commit_move fun _ made => .createPage made)
  · split_ifs at taken
    rw [replied taken]
    refine afterCheck_move ?_
    rw [System.goOn_ledger]
    exact commit_move fun _ made => .createPage made
  · split at taken
    · next found =>
      split_ifs at taken
      · rw [replied taken, System.goOn_ledger]
        exact afterCheck_move (commit_move fun _ made => .bindPage (.observed rfl found rfl) made)
      · rw [replied taken]
        exact .same
    · cases taken
  · rw [replied taken]
    exact afterCheck_move (commit_move fun _ made => .bindPage (.blind rfl rfl rfl rfl rfl) made)
  · rw [replied taken]
    exact commitRefs_move fun _ made => .markPageLost (.named rfl rfl) made
  · split_ifs at taken
    rw [replied taken]
    refine afterCheck_move ?_
    rw [System.goOn_ledger]
    exact commit_move fun _ made => .beginClosePage made
  · split at taken
    · next found =>
      split_ifs at taken with closed
      · rw [replied taken, System.goOn_ledger]
        exact commit_move fun _ made => .completeClosePage (.closed (closed ▸ rfl) found rfl) made
      · rw [replied taken, System.goOn_ledger]
        rw [Bool.not_eq_true] at closed
        exact commitRefs_move fun _ made => .markPageLost (.unclosed (closed ▸ rfl) found rfl) made
    · cases taken
  · cases taken

theorem finishStep_ledger (taken : finishStep config env command before = some (after, result)) :
    LedgerMove config.ledger before.calls command before.ledger after.ledger := by
  unfold finishStep at taken
  split at taken
  · split_ifs at taken
    rw [replied taken]
    refine afterCheck_move ?_
    rw [System.goOn_ledger]
    exact commit_move fun _ made => .missingCleanupPages made
  · split at taken
    · next found =>
      rw [replied taken, System.goOn_ledger]
      exact afterCheck_move (commit_move fun _ made => .finishPageCleanup (.missing rfl found rfl rfl) made)
    · cases taken
  · split at taken
    · rw [replied taken, System.goOn_ledger]
      exact afterCheck_move (commit_move fun _ made => .claimFinish made)
    · cases taken
  · split at taken
    · rw [replied taken, System.goOn_ledger]
      exact afterCheck_move (commit_move fun _ made => .authorizeCleanup made)
    · cases taken
  · split at taken
    · next found =>
      split at taken
      · rw [replied taken, System.goOn_ledger]
        exact afterCheck_move
          (commit_move fun _ made => .finishPageCleanup (.cleaned rfl found (.inl rfl) rfl rfl) made)
      · rw [replied taken, System.goOn_ledger]
        exact afterCheck_move
          (commit_move fun _ made => .finishPageCleanup (.cleaned rfl found (.inr rfl) rfl rfl) made)
      · rw [replied taken, System.goOn_ledger]
        exact commit_move fun _ made => .recordCleanupFailure made
    · cases taken
  · split at taken
    · rw [replied taken, System.goOn_ledger]
      exact afterCheck_move (commit_move fun _ made => .completeFinish rfl made)
    · cases taken
  · rw [replied taken]
    exact afterCheck_move (commit_move fun _ made => .releaseSpace made)
  · split_ifs at taken
    · rw [replied taken]
      exact .same
    · rw [replied taken]
      exact afterCheck_move (commit_move fun _ made => .pruneReleasedSpaces rfl made)
  · cases taken

theorem acquirePermit_ledger (call : Nat) (dispatch : DispatchCall) (system : System) :
    (acquirePermit call dispatch system).1.ledger = system.ledger := by
  unfold acquirePermit
  split_ifs
  · split <;> rfl
  · rfl

theorem recheck_ledger {calls : Table Nat Call} (call : Nat) (dispatch : DispatchCall) (system : System) :
    LedgerMove config.ledger calls command system.ledger (recheck config env call dispatch system).1.ledger := by
  have moved : LedgerMove config.ledger calls command system.ledger (attemptRecheck config env dispatch system).1.ledger :=
    afterCheck_move (commitRefs_move fun _ made => .recheckDispatch made)
  unfold recheck
  dsimp only
  split
  · exact moved
  · rw [endDispatch_ledger]
    exact moved

theorem dispatchStep_ledger (taken : dispatchStep config env command before = some (after, result)) :
    LedgerMove config.ledger before.calls command before.ledger after.ledger := by
  unfold dispatchStep at taken
  split at taken
  · split_ifs at taken
    rw [replied taken, System.goOn_ledger]
    exact afterCheck_move (commitRefs_move fun _ made => .beginDispatch rfl made)
  · split at taken
    · rw [replied taken, acquirePermit_ledger]
      exact .same
    · cases taken
  · split at taken
    · obtain ⟨scheduler, _, woken⟩ := Option.map_eq_some_iff.mp taken
      cases woken
      exact .same
    · cases taken
  · split at taken
    · rw [replied taken]
      exact recheck_ledger _ _ _
    · cases taken
  · split at taken
    · rw [replied taken]
      exact .same
    · cases taken
  · split at taken
    · rw [replied taken]
      exact .same
    · cases taken
  · split at taken
    · rw [replied taken]
      unfold recordOutcome
      rw [endDispatch_ledger]
      exact commitRefs_move fun _ made => .finishDispatch made
    · cases taken
  · cases taken

theorem enqueue_ledger (request : ActionRequest) (authority : AuthorityTicket) (now : Timestamp)
    (ticket : Option UserIntentTicket) (system : System) :
    (enqueue config env request authority now ticket system).1.ledger =
      (system.commitRefs config env (enqueueAction config.ledger request authority now)).1.ledger := by
  unfold enqueue
  dsimp only
  split <;> rfl

theorem issueFrom_ledger (claim : Claim) (frameId : FrameId) (elementKey : ElementKey)
    (reply : Reply SnapshotEnvelope) :
    (issueFrom config claim frameId elementKey reply).1.ledger = reply.1.ledger := by
  unfold issueFrom
  split
  · rfl
  · split <;> rfl

theorem actionStep_ledger (taken : actionStep config env command before = some (after, result)) :
    LedgerMove config.ledger before.calls command before.ledger after.ledger := by
  unfold actionStep at taken
  split at taken
  · rw [replied taken]
    unfold confirmIntent
    split
    · exact .same
    · dsimp only
      split <;> exact .same
  · rw [replied taken]
    refine afterCheck_move ?_
    rw [enqueue_ledger]
    exact commitRefs_move fun _ made => .enqueueAction made
  · split_ifs at taken
    rw [replied taken]
    refine afterCheck_move ?_
    rw [System.goOn_ledger]
    exact commit_move fun _ made => .beginReconcile rfl made
  · split at taken
    · rw [replied taken, System.goOn_ledger]
      exact commit_move fun _ made => .finishReconcile rfl made
    · cases taken
  · cases taken

theorem snapshotStep_ledger (taken : snapshotStep config env command before = some (after, result)) :
    LedgerMove config.ledger before.calls command before.ledger after.ledger := by
  unfold snapshotStep at taken
  split at taken
  · rw [replied taken, issueFrom_ledger]
    exact commit_move fun _ made => .issuingEnvelope made
  · split_ifs at taken
    rw [replied taken]
    refine afterCheck_move ?_
    rw [System.goOn_ledger]
    exact commit_move fun _ made => .captureGeneration made
  · split at taken
    · split at taken <;> (rw [replied taken]; exact .same)
    · cases taken
  · split at taken
    · rw [replied taken, System.goOn_ledger]
      exact commit_move fun _ made => .commitSnapshot made
    · cases taken
  · rw [replied taken]
    exact afterCheck_move (commitRefs_move fun _ made => .putSnapshot made)
  · rw [replied taken]
    exact commitRefs_move fun _ made => .markSnapshotDirty made
  · cases taken

theorem hostStep_ledger (taken : hostStep config env command before = some (after, result)) :
    LedgerMove config.ledger before.calls command before.ledger after.ledger ∨
      ∃ failures state, command = .restart failures ∧
        reopenLedger config.ledger before.ledger.disk failures = .ok state ∧ after = System.opened config state := by
  unfold hostStep at taken
  split at taken
  · split at taken
    all_goals first
      | (rw [replied taken]; exact .inl .same)
      | cases taken
  · split_ifs at taken
    · rw [replied taken]
      exact .inl .same
    · dsimp only at taken
      split at taken <;> (rw [replied taken]; exact .inl (commit_move fun _ made => .shutdown made))
  · split at taken
    · cases taken
    · next state opened =>
      exact .inr ⟨_, state, rfl, opened, replied taken⟩
  · cases taken

theorem step_ledger (taken : step config env command before = some (after, result)) :
    LedgerMove config.ledger before.calls command before.ledger after.ledger ∨
      ∃ failures state, command = .restart failures ∧
        reopenLedger config.ledger before.ledger.disk failures = .ok state ∧ after = System.opened config state := by
  unfold step at taken
  split at taken
  all_goals first
    | exact .inl (sessionStep_ledger taken)
    | exact .inl (leaseStep_ledger taken)
    | exact .inl (pageStep_ledger taken)
    | exact .inl (finishStep_ledger taken)
    | exact .inl (dispatchStep_ledger taken)
    | exact .inl (actionStep_ledger taken)
    | exact .inl (snapshotStep_ledger taken)
    | exact hostStep_ledger taken

end Steps

end AgentycHost
