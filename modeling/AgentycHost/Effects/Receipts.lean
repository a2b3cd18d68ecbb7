import AgentycHost.Effects.Specs

set_option autoImplicit false

/-! # What a step does to the receipts -/

namespace AgentycHost

open Shared

variable {config : LedgerConfig} {calls : Table Nat Call} {command : Command} {before after : LedgerState} {A : Type}

structure SameActions (before after : LedgerState) : Prop where
  actions : after.actions = before.actions
  requests : after.actionRequests = before.actionRequests
  idempotency : after.idempotency = before.idempotency
  queues : after.actionQueues = before.actionQueues

theorem SameActions.refl (state : LedgerState) : SameActions state state := ⟨rfl, rfl, rfl, rfl⟩

theorem SameActions.of_events (same : SameButEvents before after) : SameActions before after := by
  obtain ⟨_, _, _, rfl⟩ := same
  exact ⟨rfl, rfl, rfl, rfl⟩

theorem SameActions.of_work (work : PageWork before after) : SameActions before after := by
  obtain ⟨_, _, _, _, _, _, _, rfl⟩ := work
  exact ⟨rfl, rfl, rfl, rfl⟩

theorem SameActions.of_sessions (same : SameButSessions before after) : SameActions before after := by
  obtain ⟨_, _, _, _, _, _, _, _, _, rfl⟩ := same
  exact ⟨rfl, rfl, rfl, rfl⟩

theorem SameActions.events {middle : LedgerState} (appended : SameButEvents middle after)
    (same : SameActions before middle) : SameActions before after := by
  obtain ⟨_, _, _, rfl⟩ := appended
  exact ⟨same.actions, same.requests, same.idempotency, same.queues⟩

inductive ActionEffect (command : Command) (before after : LedgerState) : Prop where
  | same (unchanged : SameActions before after)
  | admitted {request : ActionRequest} {authority : AuthorityTicket} {now : Timestamp}
      (allowed : authorizeSpace before request.spaceId authority request.leaseEpoch now true = .ok ())
      (unindexed : before.idempotency.get? request.idempotencyKey = none)
      (fresh : before.actions.get? request.actionId = none) (spaces : after.spaces = before.spaces)
      (update : SameActions (admitted before request now) after)
  | marked {call : Nat} {actionId : ActionId} {authority : AuthorityTicket} {leaseEpoch : LeaseEpoch}
      {now : Timestamp} {request : ActionRequest} {receipt : ActionReceipt}
      (made_by : command = .dispatchAction call actionId authority leaseEpoch now)
      (dispatchable : Dispatchable before actionId authority leaseEpoch now request receipt)
      (alone : isMutating request.operation = true ->
        (before.actions.any fun _ receipt => runsMutation request.spaceId receipt) = false)
      (update : SameActions (markedRunning before actionId request.spaceId receipt) after)
  | settled {actionId : ActionId} {outcome : BridgeDispatchResult} {now : Timestamp} {stored receipt : ActionReceipt}
      (found : before.actions.get? actionId = some stored) (running : stored.status = .running)
      (moved : settle outcome actionId now stored = .ok receipt)
      (update : SameActions { before with actions := before.actions.insert actionId receipt } after)
  | fenced {spaceId : SpaceId} {now : Timestamp} {token : ReconcileToken}
      (changes : ∀ actionId,
        FenceChange spaceId now token (before.actions.get? actionId) (after.actions.get? actionId))
      (queues : after.actionQueues = before.actionQueues.erase spaceId)
      (requests : after.actionRequests = before.actionRequests)
  | reconciling {call : Nat} {actionId : ActionId} {authority : AuthorityTicket} {leaseEpoch : LeaseEpoch}
      {now : Timestamp} {stored receipt : ActionReceipt}
      (made_by : command = .reconcileAction call actionId authority leaseEpoch now)
      (found : before.actions.get? actionId = some stored) (moved : stored.beginReconciliation = .ok receipt)
      (update : SameActions { before with actions := before.actions.insert actionId receipt } after)
  | reconciled {call : Nat} {actionId : ActionId} {answer : Option BridgeReconcileResult} {current : Bool}
      {now : Timestamp} {stored receipt : ActionReceipt} (made_by : command = .reconcileAnswered call answer)
      (found : before.actions.get? actionId = some stored) (unknown : stored.status = .unknown)
      (moved : reconciled current answer now stored = .ok receipt)
      (update : SameActions { before with actions := before.actions.insert actionId receipt } after)
  | pruned {authority : AuthorityTicket} {maxCount : Nat} {spaces : List SpaceId}
      (made_by : command = .pruneReleasedSpaces authority maxCount) (update : PrunedBy spaces before after)
      (prunable : ∀ spaceId, spaceId ∈ spaces -> ∃ space, before.spaces.get? spaceId = some space ∧
        space.lifecycle = .released ∧ spaceHasUnresolvedActions before spaceId = false)
  | stopped
      (changes : ∀ actionId, ShutdownChange actionId (before.actions.get? actionId) (after.actions.get? actionId))
      (requests : after.actionRequests = before.actionRequests) (queues : after.actionQueues = before.actionQueues)

theorem ActionEffect.drained {limits : LedgerLimits} (effect : ActionEffect command before after) :
    ActionEffect command before (drainEvents limits after) := by
  have drop := drainEvents_same limits after
  cases effect with
  | same unchanged => exact .same (.events drop unchanged)
  | admitted allowed unindexed fresh spaces update =>
    exact .admitted allowed unindexed fresh spaces (.events drop update)
  | marked made_by dispatchable alone update => exact .marked made_by dispatchable alone (.events drop update)
  | settled found running moved update => exact .settled found running moved (.events drop update)
  | fenced changes queues requests => exact .fenced changes queues requests
  | reconciling made_by found moved update => exact .reconciling made_by found moved (.events drop update)
  | reconciled made_by found unknown moved update =>
    exact .reconciled made_by found unknown moved (.events drop update)
  | pruned made_by update prunable =>
    exact .pruned made_by ⟨update.actions, update.spaces, update.queues, update.leaseHolders, update.nextSpaceNumber,
      update.brokerEpoch, update.pendingFences, update.controlTickets, update.takeoverProofs, update.connections⟩ prunable
  | stopped changes requests queues => exact .stopped changes requests queues

theorem Committable.effect {transition : Transition A} (made : Committable config transition before after)
    (run : ∀ value next, transition before = .ok (value, next) -> ActionEffect command before next) :
    ActionEffect command before after := by
  obtain ⟨value, next, moved, rfl, _⟩ := made
  exact (run value next moved).drained

theorem Committable.work {transition : Transition A} (made : Committable config transition before after)
    (run : ∀ value next, transition before = .ok (value, next) -> PageWork before next) :
    ActionEffect command before after :=
  made.effect fun value next moved => .same (.of_work (run value next moved))

theorem LedgerStep.actionEffect (taken : LedgerStep config calls command before after) :
    ActionEffect command before after := by
  cases taken with
  | hello _ made => exact made.effect fun _ _ run => .same (.of_sessions (hello_ok run))
  | disconnect _ made => exact made.effect fun _ _ run => .same (.of_sessions (disconnect_ok run))
  | markDegraded made =>
    exact made.work fun _ _ run => (PageWork.snapshots before ∅).trans (.of_events (markDegraded_ok run))
  | markProfileRebindRequired made =>
    exact made.effect fun _ _ run =>
      .same (SameActions.events (markProfileRebindRequired_ok run) ⟨rfl, rfl, rfl, rfl⟩)
  | createSpace made =>
    refine made.effect fun _ _ run => ?_
    obtain ⟨_, _, _, _, same⟩ := createSpace_ok run
    exact .same (SameActions.events same ⟨rfl, rfl, rfl, rfl⟩)
  | publishEvent made => exact made.work fun _ _ run => .of_events (publishEvent_ok run)
  | acquireLease _ made =>
    refine made.effect fun _ _ run => ?_
    obtain rfl | ⟨_, _, _, _, _, same⟩ := acquireLease_ok run
    · exact .same (.refl _)
    · exact .same (SameActions.events same ⟨rfl, rfl, rfl, rfl⟩)
  | renewLease made =>
    exact made.effect fun _ _ run => .same (SameActions.events (renewLease_ok run).2 ⟨rfl, rfl, rfl, rfl⟩)
  | takeover made =>
    refine made.effect fun _ _ run => ?_
    obtain ⟨_, _, _, _, _, _, _, _, _, _, _, rfl, _, changes, _, _, _, rfl⟩ := takeover_ok run
    exact .fenced changes rfl rfl
  | takeoverWithControlTicket _ made =>
    refine made.effect fun _ _ run => ?_
    obtain ⟨_, _, _, _, _, _, _, _, _, _, same⟩ := takeoverWithControlTicket_ok run
    exact .same (SameActions.events same ⟨rfl, rfl, rfl, rfl⟩)
  | returnControl made =>
    refine made.effect fun _ _ run => ?_
    obtain ⟨_, _, _, _, _, _, _, rfl, _, changes, _, _, _, rfl⟩ := returnControl_ok run
    exact .fenced changes rfl rfl
  | acknowledgeFence made =>
    refine made.effect fun _ _ run => ?_
    obtain rfl | ⟨_, _, _, _, _, same⟩ := acknowledgeFence_ok run
    · exact .same (.refl _)
    · exact .same (SameActions.events same ⟨rfl, rfl, rfl, rfl⟩)
  | finishFence _ _ _ _ made =>
    refine made.effect fun _ _ run => ?_
    obtain ⟨_, _, _, _, ⟨_, _, same⟩ | same⟩ := finishFence_ok run
    · exact .same (SameActions.events same ⟨rfl, rfl, rfl, rfl⟩)
    · exact .same (SameActions.events same ⟨rfl, rfl, rfl, rfl⟩)
  | finishUserReturn _ _ _ _ made =>
    refine made.effect fun _ _ run => ?_
    obtain ⟨_, _, _, _, _, _, same⟩ := finishUserReturn_ok run
    exact .same (SameActions.events same ⟨rfl, rfl, rfl, rfl⟩)
  | setFencedSpaceLifecycle made =>
    exact made.effect fun _ _ run =>
      .same (SameActions.events (setFencedSpaceLifecycle_ok run).2 ⟨rfl, rfl, rfl, rfl⟩)
  | claimFinish made =>
    refine made.effect fun _ _ run => ?_
    obtain ⟨_, _, _, _, _, _, same⟩ := claimFinish_ok run
    exact .same (SameActions.events same ⟨rfl, rfl, rfl, rfl⟩)
  | completeFinish _ made =>
    exact made.effect fun _ _ run => .same (SameActions.events (completeFinish_ok run).2.2 ⟨rfl, rfl, rfl, rfl⟩)
  | releaseSpace made =>
    refine made.effect fun _ _ run => ?_
    obtain rfl | ⟨_, _, _, same⟩ := releaseSpace_ok run
    · exact .same (.refl _)
    · exact .same (SameActions.events same ⟨rfl, rfl, rfl, rfl⟩)
  | pruneReleasedSpaces made_by made =>
    refine made.effect fun _ _ run => ?_
    obtain ⟨spaces, update, prunable⟩ := pruneReleasedSpaces_ok run
    exact .pruned made_by update prunable
  | enqueueAction made =>
    refine made.effect fun _ _ run => ?_
    obtain rfl | ⟨allowed, unindexed, fresh, same⟩ := enqueueAction_ok run
    · exact .same (.refl _)
    · exact .admitted allowed unindexed fresh same.spaces (.of_events same)
  | beginDispatch made_by made =>
    refine made.effect fun _ _ run => ?_
    obtain ⟨_, rfl⟩ | ⟨_, _, _, dispatchable, alone, same⟩ := beginDispatch_ok run
    · exact .same (.refl _)
    · exact .marked made_by dispatchable alone (.of_events same)
  | finishDispatch made =>
    refine made.effect fun _ _ run => ?_
    obtain ⟨stored, found, ⟨_, _, rfl⟩ | ⟨running, moved, same⟩⟩ := finishDispatch_ok run
    · exact .same (.refl _)
    · refine .settled found running moved (.events same ?_)
      exact .of_work (dirtySnapshot_snapshots _ _).pageWork
  | beginReconcile made_by made =>
    refine made.effect fun _ _ run => ?_
    obtain ⟨_, found, _, moved, same⟩ := beginReconcile_ok run
    exact .reconciling made_by found moved (.of_events same)
  | finishReconcile made_by made =>
    refine made.effect fun _ _ run => ?_
    obtain ⟨_, found, rfl | ⟨unknown, ⟨_, moved⟩, same⟩⟩ := finishReconcile_ok run
    · exact .same (.refl _)
    · exact .reconciled made_by found unknown moved (.of_events same)
  | shutdown made =>
    refine made.effect fun _ _ run => ?_
    obtain ⟨actions, changes, _, _, _, rfl⟩ := shutdown_ok run
    exact .stopped changes rfl rfl
  | bridgeEvent made | observePages made | recordFenceWarning made | createPage made | bindPage _ made
  | markPageLost _ made | beginClosePage made | completeClosePage _ made | missingCleanupPages made
  | authorizeCleanup made | finishPageCleanup _ made | recordCleanupFailure made | recheckDispatch made
  | issuingEnvelope made | captureGeneration made | commitSnapshot made | putSnapshot made | markSnapshotDirty made =>
    exact made.work fun _ _ run => made.works run

section Receipts

variable {old : ActionStatus}

inductive StatusMove : ActionStatus -> ActionStatus -> Prop where
  | cancelled : StatusMove .queued .cancelled
  | succeeded : StatusMove .running .succeeded
  | failed : StatusMove .running .failed
  | lost : StatusMove .running .unknown
  | reconciling : StatusMove .unknown .unknown
  | reconciledSucceeded : StatusMove .unknown .succeeded
  | reconciledFailed : StatusMove .unknown .failed

theorem StatusMove.to_queued (move : StatusMove old .queued) : False := by
  cases move

theorem StatusMove.to_running (move : StatusMove old .running) : False := by
  cases move

theorem StatusMove.not_terminal {new : ActionStatus} (move : StatusMove old new) : old.isTerminal = false := by
  cases move <;> rfl

inductive ReceiptMove : ActionReceipt -> ActionReceipt -> Prop where
  | keep (receipt : ActionReceipt) : ReceiptMove receipt receipt
  | move {receipt moved : ActionReceipt} (same : receipt.SameRequest moved)
      (status : StatusMove receipt.status moved.status) : ReceiptMove receipt moved

inductive ReceiptChange (command : Command) (before after : LedgerState) (actionId : ActionId) :
    Option ActionReceipt -> Option ActionReceipt -> Prop where
  | absent : ReceiptChange command before after actionId none none
  | admitted {request : ActionRequest} {authority : AuthorityTicket} {now : Timestamp}
      (named : request.actionId = actionId)
      (allowed : authorizeSpace before request.spaceId authority request.leaseEpoch now true = .ok ())
      (spaces : after.spaces = before.spaces) :
      ReceiptChange command before after actionId none (some (.queued request (some now)))
  | started {call : Nat} {authority : AuthorityTicket} {leaseEpoch : LeaseEpoch} {now : Timestamp}
      {request : ActionRequest} {receipt : ActionReceipt}
      (made_by : command = .dispatchAction call actionId authority leaseEpoch now)
      (dispatchable : Dispatchable before actionId authority leaseEpoch now request receipt)
      (alone : isMutating request.operation = true ->
        (before.actions.any fun _ receipt => runsMutation request.spaceId receipt) = false) :
      ReceiptChange command before after actionId (some receipt)
        (some { receipt with status := .running, dispatchState := .dispatched })
  | moved {receipt next : ActionReceipt} (move : ReceiptMove receipt next) :
      ReceiptChange command before after actionId (some receipt) (some next)
  | pruned {receipt : ActionReceipt} {authority : AuthorityTicket} {maxCount : Nat}
      (made_by : command = .pruneReleasedSpaces authority maxCount) (ended : receipt.status.isTerminal = true)
      (released : (before.spaces.get? receipt.spaceId).map (·.lifecycle) = some .released)
      (emptied : after.spaces.get? receipt.spaceId = none) :
      ReceiptChange command before after actionId (some receipt) none

variable {actionId : ActionId} {receipt moved : ActionReceipt} {now : Timestamp}

theorem ReceiptChange.refl (receipt : Option ActionReceipt) : ReceiptChange command before after actionId receipt receipt := by
  cases receipt with
  | none => exact .absent
  | some receipt => exact .moved (.keep receipt)

theorem ReceiptMove.same (move : ReceiptMove receipt moved) : receipt.SameRequest moved := by
  cases move with
  | keep => exact .refl receipt
  | move same _ => exact same

theorem ReceiptMove.status (move : ReceiptMove receipt moved) :
    moved.status = receipt.status ∨ StatusMove receipt.status moved.status := by
  cases move with
  | keep => exact .inl rfl
  | move _ status => exact .inr status

theorem ReceiptMove.queued (move : ReceiptMove receipt moved) (queued : moved.status = .queued) :
    receipt.status = .queued := by
  obtain same | status := move.status
  · exact same ▸ queued
  · exact (queued ▸ status).to_queued.elim

theorem cancel_move {completedAt : Option Timestamp} (run : receipt.cancel completedAt = .ok moved) :
    ReceiptMove receipt moved := by
  obtain ⟨queued, cancelled, same⟩ := ActionReceipt.cancel_ok run
  exact .move same (by rw [queued, cancelled]; exact .cancelled)

theorem markUnknown_move {reason : UnknownReason} {token : ReconcileToken}
    (run : receipt.markUnknown reason token = .ok moved) : ReceiptMove receipt moved := by
  obtain ⟨running, unknown, same⟩ := ActionReceipt.markUnknown_ok run
  exact .move same (by rw [running, unknown]; exact .lost)

theorem settle_move {outcome : BridgeDispatchResult} (run : settle outcome actionId now receipt = .ok moved) :
    ReceiptMove receipt moved := by
  cases outcome with
  | succeeded =>
    obtain ⟨running, ended, same⟩ := ActionReceipt.markSucceeded_ok run
    exact .move same (by rw [running, ended]; exact .succeeded)
  | failed =>
    obtain ⟨running, ended, same⟩ := ActionReceipt.markFailed_ok run
    exact .move same (by rw [running, ended]; exact .failed)
  | unknown => exact markUnknown_move run

theorem beginReconciliation_move (run : receipt.beginReconciliation = .ok moved) : ReceiptMove receipt moved := by
  obtain ⟨unknown, _, rfl⟩ := ActionReceipt.beginReconciliation_ok run
  exact .move ⟨rfl, rfl, rfl, rfl, rfl, rfl, rfl, rfl, rfl⟩ (by dsimp only; rw [unknown]; exact .reconciling)

theorem stillRequired_move (unknown : receipt.status = .unknown) : ReceiptMove receipt (stillRequired receipt) :=
  .move ⟨rfl, rfl, rfl, rfl, rfl, rfl, rfl, rfl, rfl⟩ (by simp only [stillRequired, unknown]; exact .reconciling)

theorem reconciled_move {current : Bool} {answer : Option BridgeReconcileResult} (unknown : receipt.status = .unknown)
    (run : reconciled current answer now receipt = .ok moved) :
    ReceiptMove receipt moved := by
  unfold reconciled at run
  split_ifs at run
  · cases run
    exact stillRequired_move unknown
  · split at run
    · obtain ⟨_, ended, same⟩ := ActionReceipt.reconcileSucceeded_ok run
      exact .move same (by rw [unknown, ended]; exact .reconciledSucceeded)
    · obtain ⟨_, ended, same⟩ := ActionReceipt.reconcileFailed_ok run
      exact .move same (by rw [unknown, ended]; exact .reconciledFailed)
    all_goals
      cases run
      exact stillRequired_move unknown

theorem ReceiptChange.insert {changed : ActionId} (found : before.actions.get? changed = some receipt)
    (move : ReceiptMove receipt moved) (actionId : ActionId) :
    ReceiptChange command before after actionId (before.actions.get? actionId)
      ((before.actions.insert changed moved).get? actionId) := by
  rw [Table.get?_insert]
  split_ifs with same
  · rw [same, found]
    exact .moved move
  · exact .refl _

theorem isTerminal_of_resolved (found : before.actions.get? actionId = some receipt)
    (resolved : spaceHasUnresolvedActions before receipt.spaceId = false) : receipt.status.isTerminal = true := by
  have ended := (Table.any_eq_false _ _).mp resolved actionId receipt found
  simp only [isUnresolved, beq_self_eq_true, Bool.true_and, Bool.or_eq_false_iff, beq_eq_false_iff_ne] at ended
  obtain ⟨⟨⟨notQueued, notRunning⟩, notUnknown⟩, _⟩ := ended
  revert notQueued notRunning notUnknown
  cases receipt.status <;> simp [ActionStatus.isTerminal]

theorem ActionEffect.change (effect : ActionEffect command before after) (actionId : ActionId) :
    ReceiptChange command before after actionId (before.actions.get? actionId) (after.actions.get? actionId) := by
  cases effect with
  | same unchanged =>
    rw [unchanged.actions]
    exact .refl _
  | admitted allowed _ fresh spaces update =>
    rw [update.actions, AgentycHost.admitted, Table.get?_insert]
    split_ifs with same
    · rw [same, fresh]
      exact .admitted rfl allowed spaces
    · exact .refl _
  | marked made_by dispatchable alone update =>
    rw [update.actions, markedRunning, Table.get?_insert]
    split_ifs with same
    · rw [same, dispatchable.present]
      exact .started made_by dispatchable alone
    · exact .refl _
  | settled found _ moved update =>
    rw [update.actions]
    exact .insert found (settle_move moved) actionId
  | fenced changes _ _ =>
    have change := changes actionId
    generalize before.actions.get? actionId = first at change
    generalize after.actions.get? actionId = second at change
    cases change with
    | keep => exact .refl _
    | cancelled moved => exact .moved (cancel_move moved)
    | interrupted _ moved => exact .moved (markUnknown_move moved)
  | reconciling _ found moved update =>
    rw [update.actions]
    exact .insert found (beginReconciliation_move moved) actionId
  | reconciled _ found unknown moved update =>
    rw [update.actions]
    exact .insert found (reconciled_move unknown moved) actionId
  | @pruned _ _ spaces made_by update prunable =>
    rw [update.actions]
    cases found : before.actions.get? actionId with
    | none => exact .absent
    | some receipt =>
      by_cases inside : receipt.spaceId ∈ spaces
      · rw [Option.filter_some_neg (by simpa using inside)]
        obtain ⟨space, located, released, resolved⟩ := prunable _ inside
        exact .pruned made_by (isTerminal_of_resolved found resolved) (by rw [located, Option.map_some, released])
          (by rw [update.spaces, if_pos inside])
      · rw [Option.filter_some_pos (by simpa using inside)]
        exact .refl _
  | stopped changes _ _ =>
    have change := changes actionId
    generalize before.actions.get? actionId = first at change
    generalize after.actions.get? actionId = second at change
    cases change with
    | keep => exact .refl _
    | interrupted moved => exact .moved (markUnknown_move moved)

structure LaterReceipt (receipt later : ActionReceipt) : Prop where
  same : receipt.SameRequest later
  left : receipt.status ≠ .queued -> later.status ≠ .queued
  final : receipt.status.isTerminal = true -> later = receipt

theorem LaterReceipt.refl (receipt : ActionReceipt) : LaterReceipt receipt receipt := ⟨.refl receipt, id, fun _ => rfl⟩

theorem LaterReceipt.trans {first second third : ActionReceipt} (early : LaterReceipt first second)
    (late : LaterReceipt second third) : LaterReceipt first third where
  same := early.same.trans late.same
  left out := late.left (early.left out)
  final ended := by
    have unchanged := early.final ended
    rw [← unchanged]
    exact late.final (unchanged ▸ ended)

theorem ReceiptMove.later {moved : ActionReceipt} (move : ReceiptMove receipt moved) : LaterReceipt receipt moved := by
  refine ⟨move.same, fun out queued => out (move.queued queued), fun ended => ?_⟩
  cases move with
  | keep => rfl
  | move _ status =>
    rw [status.not_terminal] at ended
    cases ended

theorem LedgerStep.receipt_later (taken : LedgerStep config calls command before after)
    (found : before.actions.get? actionId = some receipt) :
    (∃ later, after.actions.get? actionId = some later ∧ LaterReceipt receipt later) ∨
      after.actions.get? actionId = none ∧ (∃ authority maxCount, command = .pruneReleasedSpaces authority maxCount) ∧
        (before.spaces.get? receipt.spaceId).map (·.lifecycle) = some .released ∧
        after.spaces.get? receipt.spaceId = none := by
  have change := taken.actionEffect.change actionId
  rw [found] at change
  generalize after.actions.get? actionId = next at change
  cases change with
  | started _ dispatchable =>
    refine .inl ⟨_, rfl, ⟨rfl, rfl, rfl, rfl, rfl, rfl, rfl, rfl, rfl⟩, (fun _ impossible => by cases impossible), fun ended => ?_⟩
    rw [dispatchable.queued] at ended
    cases ended
  | moved move => exact .inl ⟨_, rfl, move.later⟩
  | pruned made_by _ released emptied => exact .inr ⟨rfl, ⟨_, _, made_by⟩, released, emptied⟩

end Receipts

end AgentycHost
