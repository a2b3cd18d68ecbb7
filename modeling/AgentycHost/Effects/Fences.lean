import AgentycHost.Effects.Finishing
import AgentycHost.Safety.LeaseEpochs

set_option autoImplicit false

/-! # What a step does to the fences in progress -/

namespace AgentycHost

variable {request : FenceRequest} {before after : LedgerState} {command : Command} {pending : PendingFenceRecord}
  {spaceId : SpaceId}

open Shared

def OldEpochs (state : LedgerState) : Prop :=
  ∀ spaceId pending, state.pendingFences.get? spaceId = some pending -> pending.oldEpoch.isSome = true

section States

variable {config : LedgerConfig} {calls : Table Nat Call} {before middle after : LedgerState}

theorem OldEpochs.of_same (old : OldEpochs before) (same : after.pendingFences = before.pendingFences) :
    OldEpochs after := by
  intro spaceId pending found
  rw [same] at found
  exact old spaceId pending found

theorem OldEpochs.events (same : SameButEvents before after) (old : OldEpochs before) : OldEpochs after := by
  obtain ⟨_, _, _, rfl⟩ := same
  exact old

theorem OldEpochs.sessions (old : OldEpochs before) (same : SameButSessions before after) : OldEpochs after := by
  obtain ⟨_, _, _, _, _, _, _, _, _, rfl⟩ := same
  exact old

theorem OldEpochs.work (old : OldEpochs before) (work : PageWork before after) : OldEpochs after := by
  obtain ⟨_, _, _, _, _, _, _, rfl⟩ := work
  exact old

theorem OldEpochs.insert (old : OldEpochs before) (recorded : pending.oldEpoch.isSome = true)
    (fences : after.pendingFences = before.pendingFences.insert spaceId pending) : OldEpochs after := by
  intro other record found
  rw [fences, Table.get?_insert] at found
  split_ifs at found
  · cases found
    exact recorded
  · exact old other record found

theorem OldEpochs.erase (old : OldEpochs before) (fences : after.pendingFences = before.pendingFences.erase spaceId) :
    OldEpochs after := by
  intro other record found
  rw [fences, Table.get?_erase] at found
  split_ifs at found
  exact old other record found

theorem Committable.oldEpochs {A : Type} {transition : Transition A} (made : Committable config transition before after)
    (run : ∀ value next, transition before = .ok (value, next) -> OldEpochs next) : OldEpochs after := by
  obtain ⟨value, next, moved, rfl, _⟩ := made
  exact .events (drainEvents_same _ _) (run value next moved)

theorem FencesFrom.recorded_isSome {epoch : LeaseEpoch} {request : FenceRequest}
    (fences : FencesFrom epoch request pending) : pending.oldEpoch.isSome = true := by
  rw [fences.recorded, fences.oldEpoch]
  rfl

theorem LedgerStep.oldEpochs (old : OldEpochs before) (taken : LedgerStep config calls command before after) :
    OldEpochs after := by
  cases taken with
  | hello _ made => exact made.oldEpochs fun _ _ run => old.sessions (hello_ok run)
  | disconnect _ made => exact made.oldEpochs fun _ _ run => old.sessions (disconnect_ok run)
  | markProfileRebindRequired made =>
    exact made.oldEpochs fun _ _ run => .events (markProfileRebindRequired_ok run) (old.of_same rfl)
  | createSpace made =>
    refine made.oldEpochs fun _ _ run => ?_
    obtain ⟨_, _, _, _, same⟩ := createSpace_ok run
    exact .events same (old.of_same rfl)
  | acquireLease _ made =>
    refine made.oldEpochs fun _ _ run => ?_
    obtain rfl | ⟨_, _, _, _, _, same⟩ := acquireLease_ok run
    · exact old
    · exact .events same (old.of_same rfl)
  | renewLease made => exact made.oldEpochs fun _ _ run => .events (renewLease_ok run).2 (old.of_same rfl)
  | takeover made =>
    refine made.oldEpochs fun _ _ run => ?_
    obtain ⟨_, _, _, _, _, _, _, _, _, _, _, _, fences, _, same⟩ := takeover_ok run
    exact .events same (old.insert fences.recorded_isSome rfl)
  | takeoverWithControlTicket _ made =>
    refine made.oldEpochs fun _ _ run => ?_
    obtain ⟨_, _, _, _, _, _, _, _, _, fences, same⟩ := takeoverWithControlTicket_ok run
    exact .events same (old.insert fences.recorded_isSome rfl)
  | returnControl made =>
    refine made.oldEpochs fun _ _ run => ?_
    obtain ⟨_, _, _, _, _, _, _, _, fences, _, same⟩ := returnControl_ok run
    exact .events same (old.insert fences.recorded_isSome rfl)
  | acknowledgeFence made =>
    refine made.oldEpochs fun _ _ run => ?_
    obtain rfl | ⟨_, _, _, _, _, same⟩ := acknowledgeFence_ok run
    · exact old
    · exact .events same (old.of_same rfl)
  | finishFence _ _ _ _ made =>
    refine made.oldEpochs fun _ _ run => ?_
    obtain ⟨_, _, _, _, ⟨_, _, same⟩ | same⟩ := finishFence_ok run
    · exact .events same (old.erase rfl)
    · exact .events same (old.of_same rfl)
  | finishUserReturn _ _ _ _ made =>
    refine made.oldEpochs fun _ _ run => ?_
    obtain ⟨_, _, _, _, _, _, same⟩ := finishUserReturn_ok run
    exact .events same (old.erase rfl)
  | setFencedSpaceLifecycle made => exact made.oldEpochs fun _ _ run => .events (setFencedSpaceLifecycle_ok run).2 (old.of_same rfl)
  | claimFinish made =>
    refine made.oldEpochs fun _ _ run => ?_
    obtain ⟨_, _, _, _, _, _, same⟩ := claimFinish_ok run
    exact .events same (old.of_same rfl)
  | completeFinish _ made => exact made.oldEpochs fun _ _ run => .events (completeFinish_ok run).2.2 (old.of_same rfl)
  | releaseSpace made =>
    refine made.oldEpochs fun _ _ run => ?_
    obtain rfl | ⟨_, _, _, same⟩ := releaseSpace_ok run
    · exact old
    · exact .events same (old.of_same rfl)
  | pruneReleasedSpaces _ made =>
    refine made.oldEpochs fun _ _ run => ?_
    obtain ⟨_, update, _⟩ := pruneReleasedSpaces_ok run
    exact old.of_same update.pendingFences
  | bridgeEvent made | observePages made | recordFenceWarning made | createPage made | bindPage _ made
  | markPageLost _ made | beginClosePage made | completeClosePage _ made | missingCleanupPages made
  | authorizeCleanup made | finishPageCleanup _ made | recordCleanupFailure made | recheckDispatch made
  | issuingEnvelope made | captureGeneration made | commitSnapshot made | putSnapshot made | markSnapshotDirty made =>
    exact made.oldEpochs fun _ _ run => old.work (made.works run)
  | markDegraded made | publishEvent made | enqueueAction made | beginDispatch _ made | finishDispatch made
  | beginReconcile _ made | finishReconcile _ made | shutdown made =>
    refine made.oldEpochs fun _ _ run => ?_
    obtain ⟨_, _, _, _, _, same⟩ := made.acts run
    exact .events same (old.of_same rfl)

end States

theorem reopenLedger_pendingFences {config : LedgerConfig} {disk state : LedgerState} {failures : Nat}
    (opened : reopenLedger config disk failures = .ok state) : state.pendingFences = ∅ := by
  obtain ⟨_, opened⟩ := reopenLedger_last opened
  rw [openLedger_ok opened]
  rfl

structure FenceRequest.Timely (request : FenceRequest) (state : LedgerState) : Prop where
  older : ∃ old, request.oldEpoch = some old ∧ old < request.fenceEpoch
  numbered : request.spaceId.number ≤ state.nextSpaceNumber
  reached : ∀ standing, state.standing request.spaceId = some standing -> request.fenceEpoch ≤ standing.epoch

theorem FenceRequest.Timely.later (timely : request.Timely before) (later : LedgerLater before after) :
    request.Timely after := by
  refine ⟨timely.older, timely.numbered.trans later.numbers, fun standing found => ?_⟩
  have moved := later.standing request.spaceId timely.numbered
  rw [found] at moved
  cases earlier : before.standing request.spaceId with
  | none =>
    rw [earlier] at moved
    cases moved
  | some old =>
    rw [earlier] at moved
    have bound := timely.reached old earlier
    cases moved with
    | advanced epoch => exact bound.trans epoch.le
    | vacated epoch => exact bound.trans epoch.ge
    | held epoch => exact bound.trans epoch.ge

theorem FenceRequest.Timely.unmoved {standing : Standing} (timely : request.Timely before)
    (later : LedgerLater before after) (found : after.standing request.spaceId = some standing)
    (current : standing.epoch = request.fenceEpoch) :
    ∃ old, before.standing request.spaceId = some old ∧ old.epoch = standing.epoch := by
  have moved := later.standing request.spaceId timely.numbered
  rw [found] at moved
  cases earlier : before.standing request.spaceId with
  | none =>
    rw [earlier] at moved
    cases moved
  | some old =>
    rw [earlier] at moved
    have bound := timely.reached old earlier
    refine ⟨old, rfl, ?_⟩
    cases moved with
    | advanced epoch => exact absurd (epoch.trans_le (current.le.trans bound)) (lt_irrefl _)
    | vacated epoch => exact epoch.symm
    | held epoch => exact epoch.symm

section Calls

variable {config : HostConfig} {env : Environment} {before after : System} {key : Nat}
  {result : Except HostError Unit} {fence : FenceCall} {authority : AuthorityTicket} {state : LedgerState}
  {space : SpaceDescriptor} {next : System} {expiresAt renewBy : Timestamp}

theorem retried_timely (valid : Valid config.ledger state) (old : OldEpochs state) (numbered : SpacesNumbered state)
    (found : state.pendingFences.get? request.spaceId = some pending)
    (located : state.spaces.get? request.spaceId = some space)
    (owned : ownedFence authority space request.fenceEpoch = true) (same : request.oldEpoch = pending.oldEpoch)
    (fences : pending.fenceEpoch = request.fenceEpoch) : request.Timely state := by
  obtain ⟨epoch, recorded⟩ := Option.isSome_iff_exists.mp (old request.spaceId pending found)
  have standing := standing_some located
  refine ⟨⟨epoch, same.trans recorded, ?_⟩, numbered _ (by simp [standing]), fun other there => ?_⟩
  · rw [← fences]
    exact valid.pendingFence_older found recorded
  · cases standing.symm.trans there
    simp only [ownedFence, Option.any_eq_true, Bool.and_eq_true, beq_iff_eq] at owned
    obtain ⟨lease, leased, _, epoch⟩ := owned
    simp [Standing.epoch, SpaceDescriptor.standing, leased, epoch]

theorem started_call {A : Type} {check : Except HostError Unit} {call : Nat} {next : A -> Except HostError (Option Call)}
    {reply : Reply A} {found : Call} (ended : after = (before.afterCheck check (System.goOn call next reply)).1)
    (present : after.calls.get? key = some found) (same : reply.1.calls = before.calls) :
    before.calls.get? key = some found ∨
      ∃ value, reply.2 = .ok value ∧ next value = .ok (some found) ∧ after.ledger = reply.1.ledger := by
  subst ended
  unfold System.afterCheck at present ⊢
  split at present
  · exact .inl present
  · obtain ⟨_, earlier⟩ | ⟨_, value, done, made⟩ := goOn_calls present
    · rw [same] at earlier
      exact .inl earlier
    · exact .inr ⟨value, done, made, System.goOn_ledger _ _ _⟩

theorem withLeaseTimes_cases {now ttl : Nat} {next : Timestamp -> Timestamp -> Reply Unit}
    (ended : after = (withLeaseTimes before now ttl next).1) :
    after = before ∨ ∃ expiresAt renewBy, after = (next expiresAt renewBy).1 := by
  unfold withLeaseTimes at ended
  split at ended
  · exact .inl ended
  · exact .inr ⟨_, _, ended⟩

theorem FenceRequest.Timely.of_started {epoch : LeaseEpoch} {old new : LedgerState} {changed : SpaceDescriptor}
    (fences : FencesFrom epoch request pending) (numbered : SpacesNumbered old)
    (found : old.spaces.get? request.spaceId = some space) (numbers : new.nextSpaceNumber = old.nextSpaceNumber)
    (moved : new.spaces.get? request.spaceId = some changed) (leased : changed.epoch = epoch + 1) :
    request.Timely new := by
  refine ⟨⟨epoch, fences.oldEpoch, ?_⟩, ?_, fun standing there => ?_⟩
  · rw [fences.fenceEpoch]
    exact Nat.lt_succ_self epoch
  · rw [numbers]
    exact numbered _ (by simp [standing_some found])
  · cases (standing_some moved).symm.trans there
    rw [fences.fenceEpoch, ← leased]
    exact le_rfl

variable (valid : Valid config.ledger before.ledger.state) (old : OldEpochs before.ledger.state)
  (numbered : SpacesNumbered before.ledger.state)

include numbered

theorem takeover_timely {now : Timestamp}
    (committed : before.commit config env (takeover spaceId authority now expiresAt renewBy) = (next, .ok request)) :
    request.Timely next.ledger.state := by
  obtain ⟨state, run, drained⟩ := commit_ok committed
  obtain ⟨space, lease, _, _, _, found, _, _, _, _, _, rfl, fences, _, same⟩ := takeover_ok run
  obtain ⟨_, _, _, moved⟩ := same.trans (drainEvents_same config.ledger.limits state)
  rw [drained, moved]
  exact .of_started fences numbered found rfl (Table.get?_insert_self _ _ _) rfl

theorem takeoverWithControlTicket_timely {ticket : ControlTicket}
    (committed : before.commit config env (takeoverWithControlTicket spaceId authority ticket expiresAt renewBy) =
      (next, .ok request)) : request.Timely next.ledger.state := by
  obtain ⟨state, run, drained⟩ := commit_ok committed
  obtain ⟨space, lease, _, _, found, _, _, _, rfl, fences, same⟩ := takeoverWithControlTicket_ok run
  obtain ⟨_, _, _, moved⟩ := same.trans (drainEvents_same config.ledger.limits state)
  rw [drained, moved]
  exact .of_started fences numbered found rfl (Table.get?_insert_self _ _ _) rfl

theorem returnControl_timely {claim : Claim}
    (committed : before.commit config env
      (returnControl claim.spaceId claim.authority claim.leaseEpoch claim.now) = (next, .ok request)) :
    request.Timely next.ledger.state := by
  obtain ⟨state, run, drained⟩ := commit_ok committed
  obtain ⟨space, lease, _, _, _, allowed, _, about, fences, _, same⟩ := returnControl_ok run
  obtain ⟨_, _, _, moved⟩ := same.trans (drainEvents_same config.ledger.limits state)
  rw [drained, moved]
  exact .of_started fences numbered (about ▸ allowed.found) rfl (Table.get?_insert_self _ _ _) rfl

include valid old

theorem acknowledgeFence_timely {leaseEpoch : LeaseEpoch} {renewal : Option (Timestamp × Timestamp)}
    {found : FenceRequest × Bool}
    (run : acknowledgeFence spaceId authority leaseEpoch renewal before.ledger.state = .ok (found, state)) :
    found.1.Timely before.ledger.state := by
  simp only [acknowledgeFence, bind_ok, require_ok, orElse_ok, Bool.and_eq_true, Option.any_eq_true,
    beq_iff_eq] at run
  obtain ⟨_, _, pending, waiting, _, ⟨⟨⟨fences, _⟩, space, located, _, owned⟩, _⟩, _, _, rest⟩ := run
  have same : found.1 =
      { spaceId, oldEpoch := pending.oldEpoch, fenceEpoch := leaseEpoch, token := pending.requestToken } := by
    split at rest
    · simp only [pure_ok, Prod.mk.injEq] at rest
      rw [← rest.1]
    · simp only [bind_ok, pure_ok, Prod.mk.injEq] at rest
      obtain ⟨_, _, rfl, _⟩ := rest
      rfl
  rw [same]
  exact retried_timely valid old numbered waiting located owned rfl fences

theorem acknowledgeReturnControl_timely {fenceEpoch : LeaseEpoch} {found : FenceRequest × LeaseEpoch}
    (run : acknowledgeReturnControl spaceId authority fenceEpoch before.ledger.state = .ok found) :
    found.1.Timely before.ledger.state := by
  simp only [acknowledgeReturnControl, bind_ok, pure_ok, require_ok, orElse_ok, findSpace_ok, Bool.and_eq_true,
    beq_iff_eq] at run
  obtain ⟨_, _, space, located, pending, waiting, _, ⟨⟨⟨⟨⟨⟨_, fences⟩, _⟩, owned⟩, _⟩, _⟩, _⟩, rfl⟩ := run
  exact retried_timely valid old numbered waiting located owned rfl fences

theorem leaseStep_timely (later : LedgerLater before.ledger.state after.ledger.state)
    (taken : leaseStep config env command before = some (after, result))
    (present : after.calls.get? key = some (.fence fence)) :
    before.calls.get? key = some (.fence fence) ∨ fence.request.Timely after.ledger.state := by
  unfold leaseStep at taken
  split at taken
  case h_1 | h_2 =>
    refine .inl ?_
    obtain same | ⟨_, _, ended⟩ := withLeaseTimes_cases (replied taken)
    · exact same ▸ present
    · have same : after.calls = before.calls := by
        rw [ended]
        exact afterCheck_calls rfl
      exact same ▸ present
  case h_3 =>
    split_ifs at taken
    obtain same | ⟨_, _, ended⟩ := withLeaseTimes_cases (replied taken)
    · exact .inl (same ▸ present)
    · obtain earlier | ⟨request, done, made, ledger⟩ := started_call ended present rfl
      · exact .inl earlier
      · cases made
        rw [ledger]
        exact .inr (takeover_timely numbered (Prod.ext rfl done))
  case h_4 =>
    split_ifs at taken
    obtain same | ⟨_, _, ended⟩ := withLeaseTimes_cases (replied taken)
    · exact .inl (same ▸ present)
    · obtain earlier | ⟨request, done, made, ledger⟩ := started_call ended present rfl
      · exact .inl earlier
      · cases made
        rw [ledger]
        exact .inr (takeoverWithControlTicket_timely numbered (Prod.ext rfl done))
  case h_5 =>
    split_ifs at taken
    obtain earlier | ⟨request, done, made, ledger⟩ := started_call (replied taken) present rfl
    · exact .inl earlier
    · cases made
      rw [ledger]
      exact .inr (returnControl_timely numbered (Prod.ext rfl done))
  case h_6 =>
    split_ifs at taken
    obtain earlier | ⟨found, done, made, _⟩ := started_call (replied taken) present rfl
    · exact .inl earlier
    · cases made
      exact .inr ((acknowledgeReturnControl_timely valid old numbered done).later later)
  case h_7 =>
    split_ifs at taken
    -- with and without a renewal
    have retried : ∀ {renewal : Option (Timestamp × Timestamp)} {check : Except HostError Unit} {call : Nat}
        {next : FenceRequest × Bool -> Except HostError (Option Call)} {spaceId : SpaceId}
        {authority : AuthorityTicket} {leaseEpoch : LeaseEpoch},
        (∀ found, next found = .ok (some (.fence fence)) -> fence.request = found.1) ->
        after = (before.afterCheck check (System.goOn call next
          (before.commit config env (acknowledgeFence spaceId authority leaseEpoch renewal)))).1 ->
        before.calls.get? key = some (.fence fence) ∨ fence.request.Timely after.ledger.state := by
      intro renewal check call next spaceId authority leaseEpoch about ended
      obtain earlier | ⟨found, done, made, _⟩ := started_call ended present rfl
      · exact .inl earlier
      · obtain ⟨_, run, _⟩ := commit_ok (Prod.ext rfl done)
        rw [about found made]
        exact .inr ((acknowledgeFence_timely valid old numbered run).later later)
    split at taken
    · refine retried (fun found made => ?_) (replied taken)
      cases made
      rfl
    · obtain same | ⟨_, _, ended⟩ := withLeaseTimes_cases (replied taken)
      · exact .inl (same ▸ present)
      · refine retried (fun found made => ?_) ended
        cases made
        rfl
  case h_8 =>
    -- an answer starts no fence
    refine .inl ?_
    split at taken
    · split at taken
      · rw [replied taken] at present
        obtain ⟨_, earlier⟩ | ⟨_, _, _, made⟩ := goOn_calls present
        · exact earlier
        · unfold FenceCall.resume at made
          split at made
          · cases made
          · split_ifs at made
            cases made
      · rw [replied taken] at present
        obtain ⟨_, earlier⟩ | ⟨_, _, _, made⟩ := goOn_calls present
        · exact earlier
        · cases made
      · rw [replied taken] at present
        obtain ⟨_, earlier⟩ | ⟨_, _, _, made⟩ := goOn_calls present
        · exact earlier
        · exact (FenceCall.warned_kind made).elim
      · rw [replied taken, System.endCall, Table.get?_erase] at present
        split_ifs at present
        exact present
    · cases taken
  case h_9 =>
    refine .inl ?_
    split at taken
    · rw [replied taken] at present
      obtain ⟨_, earlier⟩ | ⟨_, _, _, made⟩ := goOn_calls present
      · exact earlier
      · cases made
    · cases taken
  case h_10 => cases taken

theorem step_timely (later : LedgerLater before.ledger.state after.ledger.state)
    (taken : step config env command before = some (after, result))
    (present : after.calls.get? key = some (.fence fence)) :
    before.calls.get? key = some (.fence fence) ∨ fence.request.Timely after.ledger.state := by
  by_cases other : CallKind.fence ∈ command.kinds
  · cases command
    case restart failures =>
      obtain ⟨state, _, rfl⟩ := restart_cases taken
      simp [System.opened] at present
    case takeover | takeoverWithControlTicket | returnControl | acknowledgeReturnControl | acknowledgeFence |
        fenceAnswered | setFencedSpaceLifecycle =>
      simp only [step] at taken
      exact leaseStep_timely valid old numbered later taken present
    all_goals simp [Command.kinds] at other
  · exact .inl (((step_untouched other taken).calls key _ rfl).mp present)

end Calls

end AgentycHost
