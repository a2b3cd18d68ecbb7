import AgentycHost.Core.Receipts

set_option autoImplicit false

/-! # Every history of a receipt -/

namespace AgentycHost

open Shared

namespace ActionReceipt

variable {receipt next : ActionReceipt}

theorem validateInvariants_queued (status : receipt.status = .queued) :
    receipt.validateInvariants = .ok () <-> receipt.inTime = true ∧
      (receipt.dispatchState = .notDispatched ∨ receipt.dispatchState = .queued) ∧ receipt.withoutOutcome = true := by
  simp [validateInvariants, status, bind_ok, require_ok]

theorem validateInvariants_running (status : receipt.status = .running) :
    receipt.validateInvariants = .ok () <->
      receipt.inTime = true ∧ receipt.inFlight = true ∧ receipt.withoutOutcome = true := by
  simp [validateInvariants, status, bind_ok, require_ok]

theorem validateInvariants_unknown (status : receipt.status = .unknown) :
    receipt.validateInvariants = .ok () <-> receipt.inTime = true ∧ receipt.inFlight = true ∧
      receipt.unknown = true ∧ receipt.unknownReason.isSome = true ∧ receipt.requiresReconciliation = true ∧
      receipt.completionSource = .none ∧ receipt.errorCode = some .unknownOutcome ∧ receipt.retryable = false ∧
      receipt.nextAction = .reconcile ∧ receipt.reconcileToken.isSome = true ∧ receipt.completedAt = none := by
  simp [validateInvariants, status, bind_ok, require_ok, and_assoc]

theorem validateInvariants_succeeded (status : receipt.status = .succeeded) :
    receipt.validateInvariants = .ok () <-> receipt.inTime = true ∧ receipt.inFlight = true ∧
      receipt.unknown = false ∧ receipt.unknownReason = none ∧ isDefinitive receipt.completionSource = true ∧
      receipt.retryable = false ∧ receipt.errorCode = none ∧ receipt.nextAction = .none ∧
      (receipt.reconciliationState = .reconciledSucceeded ∧ receipt.completionSource = .reconciliation ∧
          receipt.reconcileToken.isSome = true ∨
        receipt.reconciliationState = .notRequired ∧ receipt.reconcileToken = none) := by
  by_cases reconciled : receipt.reconciliationState = .reconciledSucceeded
  · simp [validateInvariants, validateSucceeded, status, bind_ok, require_ok, reconciled, and_assoc]
  · simp [validateInvariants, validateSucceeded, status, bind_ok, require_ok, reconciled, and_assoc]

theorem validateInvariants_failed (status : receipt.status = .failed) :
    receipt.validateInvariants = .ok () <-> receipt.inTime = true ∧ receipt.inFlight = true ∧
      receipt.unknown = false ∧ receipt.unknownReason = none ∧ receipt.errorCode.isSome = true ∧
      receipt.errorCode ≠ some .unknownOutcome ∧ isDefinitive receipt.completionSource = true ∧
      (receipt.nextAction = if receipt.retryable then .retry else .none) ∧
      (receipt.reconciliationState = .notRequired ∧ receipt.reconcileToken = none ∨
        (receipt.reconciliationState = .reconciledFailed ∨ receipt.reconciliationState = .requiresConfirmation) ∧
          receipt.completionSource = .reconciliation ∧ receipt.reconcileToken.isSome = true) := by
  cases reconciliation : receipt.reconciliationState <;>
    cases token : receipt.reconcileToken <;>
      simp [validateInvariants, validateFailed, status, bind_ok, require_ok, reconciliation, token, and_assoc]

theorem validateInvariants_cancelled (status : receipt.status = .cancelled) :
    receipt.validateInvariants = .ok () <-> receipt.inTime = true ∧ receipt.dispatchState = .rejected ∧
      receipt.unknown = false ∧ receipt.unknownReason = none ∧ receipt.reconciliationState = .notRequired ∧
      receipt.completionSource = .ledger ∧ receipt.errorCode = some .cancelled ∧ receipt.retryable = false ∧
      receipt.reconcileToken = none ∧ receipt.nextAction = .none := by
  simp [validateInvariants, status, bind_ok, require_ok, and_assoc]

theorem withoutOutcome_iff : receipt.withoutOutcome = true <-> receipt.unknown = false ∧
    receipt.unknownReason = none ∧ receipt.reconciliationState = .notRequired ∧ receipt.completionSource = .none ∧
    receipt.errorCode = none ∧ receipt.retryable = false ∧ receipt.reconcileToken = none ∧
    receipt.nextAction = .none ∧ receipt.completedAt = none := by
  simp [withoutOutcome, and_assoc]

theorem inTime_iff : receipt.inTime = true <-> ∀ started completed,
    receipt.startedAt = some started -> receipt.completedAt = some completed -> started ≤ completed := by
  unfold inTime
  cases receipt.startedAt with
  | none => simp
  | some started => cases receipt.completedAt <;> simp

section Transitions

variable {completedAt : Option Timestamp} (valid : receipt.validateInvariants = .ok ()) {code : ErrorCode}

include valid

theorem markDispatched_valid (moved : receipt.markDispatched = .ok next) : next.validateInvariants = .ok () := by
  obtain ⟨queued, rfl⟩ := markDispatched_ok moved
  obtain ⟨timely, _, unsettled⟩ := (validateInvariants_queued queued).mp valid
  exact (validateInvariants_running rfl).mpr ⟨timely, rfl, unsettled⟩

theorem markAcknowledged_valid (moved : receipt.markAcknowledged = .ok next) :
    next.validateInvariants = .ok () := by
  unfold markAcknowledged at moved
  split_ifs at moved with refused
  push Not at refused
  cases moved
  obtain ⟨timely, _, unsettled⟩ := (validateInvariants_running refused.1).mp valid
  refine (validateInvariants_running ?_).mpr ⟨timely, rfl, unsettled⟩
  exact refused.1

theorem markSucceeded_valid {source : CompletionSource} (moved : receipt.markSucceeded completedAt source = .ok next)
    (timely : next.inTime = true) : next.validateInvariants = .ok () := by
  unfold markSucceeded at moved
  split_ifs at moved with running unfit
  cases moved
  push Not at running unfit
  obtain ⟨_, flying, unsettled⟩ := (validateInvariants_running running).mp valid
  obtain ⟨_, _, _, _, code, _, token, _⟩ := withoutOutcome_iff.mp unsettled
  have definitive : isDefinitive source = true := by
    cases source <;> first | rfl | simp at unfit
  exact (validateInvariants_succeeded rfl).mpr
    ⟨timely, flying, rfl, rfl, definitive, rfl, code, rfl, .inr ⟨rfl, token⟩⟩

theorem markFailed_valid {retryable : Bool} (moved : receipt.markFailed code retryable completedAt = .ok next)
    (known : code ≠ .unknownOutcome) (timely : next.inTime = true) : next.validateInvariants = .ok () := by
  unfold markFailed at moved
  by_cases running : receipt.status = .running
  next =>
    rw [if_neg (not_not.mpr running)] at moved
    cases moved
    obtain ⟨_, flying, unsettled⟩ := (validateInvariants_running running).mp valid
    obtain ⟨unknown, reason, reconciliation, _, _, _, token, _⟩ := withoutOutcome_iff.mp unsettled
    refine (validateInvariants_failed rfl).mpr
      ⟨timely, flying, unknown, reason, rfl, ?_, rfl, rfl, .inl ⟨reconciliation, token⟩⟩
    simpa using known
  next =>
    rw [if_pos running] at moved
    cases moved

theorem cancel_valid (moved : receipt.cancel completedAt = .ok next) (timely : next.inTime = true) :
    next.validateInvariants = .ok () := by
  unfold cancel at moved
  split_ifs at moved with queued
  push Not at queued
  cases moved
  obtain ⟨_, _, unsettled⟩ := (validateInvariants_queued queued).mp valid
  obtain ⟨unknown, reason, reconciliation, _, _, retryable, token, _⟩ := withoutOutcome_iff.mp unsettled
  exact (validateInvariants_cancelled rfl).mpr
    ⟨timely, rfl, unknown, reason, reconciliation, rfl, rfl, retryable, token, rfl⟩

theorem markUnknown_valid {reason : UnknownReason} {token : ReconcileToken}
    (moved : receipt.markUnknown reason token = .ok next) : next.validateInvariants = .ok () := by
  unfold markUnknown at moved
  split_ifs at moved with running
  push Not at running
  cases moved
  obtain ⟨timely, flying, unsettled⟩ := (validateInvariants_running running.1).mp valid
  obtain ⟨_, _, _, source, _, _, _, _, unfinished⟩ := withoutOutcome_iff.mp unsettled
  exact (validateInvariants_unknown rfl).mpr
    ⟨timely, flying, rfl, rfl, rfl, source, rfl, rfl, rfl, rfl, unfinished⟩

theorem beginReconciliation_valid (moved : receipt.beginReconciliation = .ok next) :
    next.validateInvariants = .ok () := by
  obtain ⟨status, _, rfl⟩ := beginReconciliation_ok moved
  obtain ⟨timely, flying, unknown, reason, _, rest⟩ := (validateInvariants_unknown status).mp valid
  refine (validateInvariants_unknown ?_).mpr ⟨timely, flying, unknown, reason, rfl, rest⟩
  exact status

theorem reconcileSucceeded_valid (moved : receipt.reconcileSucceeded completedAt = .ok next)
    (timely : next.inTime = true) : next.validateInvariants = .ok () := by
  unfold reconcileSucceeded at moved
  split_ifs at moved with progress
  push Not at progress
  cases moved
  obtain ⟨_, flying, _, _, _, _, _, _, _, token, _⟩ := (validateInvariants_unknown progress.1).mp valid
  exact (validateInvariants_succeeded rfl).mpr
    ⟨timely, flying, rfl, rfl, rfl, rfl, rfl, rfl, .inl ⟨rfl, rfl, token⟩⟩

theorem reconcileFailed_valid (moved : receipt.reconcileFailed code false completedAt = .ok next)
    (known : code ≠ .unknownOutcome) (timely : next.inTime = true) : next.validateInvariants = .ok () := by
  unfold reconcileFailed at moved
  split at moved
  · cases moved
  next progress =>
  push Not at progress
  cases moved
  obtain ⟨_, flying, _, _, _, _, _, _, _, token, _⟩ := (validateInvariants_unknown progress.1).mp valid
  refine (validateInvariants_failed rfl).mpr
    ⟨timely, flying, rfl, rfl, rfl, ?_, rfl, rfl, .inr ⟨.inl rfl, rfl, token⟩⟩
  simpa using known

end Transitions

theorem reconcileFailed_confirms {code : ErrorCode} {completedAt : Option Timestamp}
    (moved : receipt.reconcileFailed code true completedAt = .ok next) :
    next.status = .failed ∧ next.validateInvariants ≠ .ok () := by
  unfold reconcileFailed at moved
  split at moved
  · cases moved
  · cases moved
    refine ⟨rfl, fun valid => ?_⟩
    obtain ⟨_, _, _, _, _, _, _, guidance, _⟩ := (validateInvariants_failed rfl).mp valid
    simp at guidance

end ActionReceipt

namespace ReceiptTransition

variable {transition : ReceiptTransition} {receipt next : ActionReceipt}

theorem apply_times (moved : transition.apply receipt = .ok next) : next.startedAt = receipt.startedAt ∧
    (next.completedAt = transition.completedAt ∨
      next.completedAt = receipt.completedAt ∧ transition.completedAt = none) := by
  cases transition with
  | markDispatched =>
    obtain ⟨_, rfl⟩ := ActionReceipt.markDispatched_ok moved
    exact ⟨rfl, .inr ⟨rfl, rfl⟩⟩
  | markAcknowledged =>
    simp only [apply, ActionReceipt.markAcknowledged] at moved
    split_ifs at moved
    cases moved
    exact ⟨rfl, .inr ⟨rfl, rfl⟩⟩
  | markSucceeded completedAt source =>
    simp only [apply, ActionReceipt.markSucceeded] at moved
    split_ifs at moved
    cases moved
    exact ⟨rfl, .inl rfl⟩
  | markFailed code retryable completedAt =>
    simp only [apply, ActionReceipt.markFailed] at moved
    split at moved <;> cases moved
    exact ⟨rfl, .inl rfl⟩
  | cancel completedAt =>
    simp only [apply, ActionReceipt.cancel] at moved
    split_ifs at moved
    cases moved
    exact ⟨rfl, .inl rfl⟩
  | markUnknown reason token =>
    simp only [apply, ActionReceipt.markUnknown] at moved
    split_ifs at moved
    cases moved
    exact ⟨rfl, .inr ⟨rfl, rfl⟩⟩
  | beginReconciliation =>
    obtain ⟨_, _, rfl⟩ := ActionReceipt.beginReconciliation_ok moved
    exact ⟨rfl, .inr ⟨rfl, rfl⟩⟩
  | reconcileSucceeded completedAt =>
    simp only [apply, ActionReceipt.reconcileSucceeded] at moved
    split_ifs at moved
    cases moved
    exact ⟨rfl, .inl rfl⟩
  | reconcileFailed code confirmation completedAt =>
    simp only [apply, ActionReceipt.reconcileFailed] at moved
    split at moved <;> cases moved
    exact ⟨rfl, .inl rfl⟩

theorem apply_failed (failed : receipt.status = .failed) : transition.apply receipt ≠ .ok next := by
  intro moved
  cases transition with
  | markDispatched => simp [(ActionReceipt.markDispatched_ok moved).1] at failed
  | markAcknowledged => simp [apply, ActionReceipt.markAcknowledged, failed] at moved
  | markSucceeded completedAt source => simp [(ActionReceipt.markSucceeded_ok moved).1] at failed
  | markFailed code retryable completedAt => simp [(ActionReceipt.markFailed_ok moved).1] at failed
  | cancel completedAt => simp [(ActionReceipt.cancel_ok moved).1] at failed
  | markUnknown reason token => simp [(ActionReceipt.markUnknown_ok moved).1] at failed
  | beginReconciliation => simp [(ActionReceipt.beginReconciliation_ok moved).1] at failed
  | reconcileSucceeded completedAt => simp [(ActionReceipt.reconcileSucceeded_ok moved).1] at failed
  | reconcileFailed code confirmation completedAt => simp [(ActionReceipt.reconcileFailed_ok moved).1] at failed

theorem apply_valid (valid : receipt.validateInvariants = .ok ()) (moved : transition.apply receipt = .ok next)
    (timely : next.inTime = true) (known : transition.failure ≠ some .unknownOutcome)
    (plain : transition.asksConfirmation = false) : next.validateInvariants = .ok () := by
  cases transition with
  | markDispatched => exact ActionReceipt.markDispatched_valid valid moved
  | markAcknowledged => exact ActionReceipt.markAcknowledged_valid valid moved
  | markSucceeded completedAt source => exact ActionReceipt.markSucceeded_valid valid moved timely
  | markFailed code retryable completedAt =>
    exact ActionReceipt.markFailed_valid valid moved (by simpa [failure] using known) timely
  | cancel completedAt => exact ActionReceipt.cancel_valid valid moved timely
  | markUnknown reason token => exact ActionReceipt.markUnknown_valid valid moved
  | beginReconciliation => exact ActionReceipt.beginReconciliation_valid valid moved
  | reconcileSucceeded completedAt => exact ActionReceipt.reconcileSucceeded_valid valid moved timely
  | reconcileFailed code confirmation completedAt =>
    obtain rfl : confirmation = false := plain
    exact ActionReceipt.reconcileFailed_valid valid moved (by simpa [failure] using known) timely

theorem apply_confirms (moved : transition.apply receipt = .ok next) (confirms : transition.asksConfirmation = true) :
    next.status = .failed ∧ next.validateInvariants ≠ .ok () := by
  cases transition with
  | reconcileFailed code confirmation completedAt =>
    obtain rfl : confirmation = true := confirms
    exact ActionReceipt.reconcileFailed_confirms moved
  | _ => cases confirms

end ReceiptTransition

section Histories

variable {request : ActionRequest} {startedAt : Option Timestamp} {trace : List ReceiptMoment} {last : ActionReceipt}

theorem ActionReceipt.queued_valid (request : ActionRequest) (startedAt : Option Timestamp) :
    (ActionReceipt.queued request startedAt).validateInvariants = .ok () := by
  refine (ActionReceipt.validateInvariants_queued rfl).mpr ⟨?_, .inl rfl, rfl⟩
  rw [ActionReceipt.inTime_iff]
  intro _ _ _ completed
  cases completed

theorem ReceiptHistory.keeps_start (history : ReceiptHistory (.queued request startedAt) trace last) :
    last.startedAt = startedAt :=
  history.keeps (fun receipt => receipt.startedAt = startedAt) rfl
    fun _ _ moved earlier => (ReceiptTransition.apply_times moved).1.trans earlier

theorem ReceiptHistory.confirms {start : ActionReceipt} (history : ReceiptHistory start trace last)
    {moment : ReceiptMoment} (inside : moment ∈ trace) (confirms : moment.label.asksConfirmation = true) :
    last.status = .failed ∧ last.validateInvariants ≠ .ok () := by
  induction history with
  | nil => cases inside
  | step earlier moved ih =>
    rcases List.mem_cons.mp inside with rfl | inside
    · exact ReceiptTransition.apply_confirms moved confirms
    · -- the receipt had failed by then, so nothing moved it
      exact (ReceiptTransition.apply_failed (ih inside).1 moved).elim

/-- With times in order and known codes, a history ends in a receipt that the validator accepts
exactly if no reconciliation in it asks for a confirmation. -/
theorem receipt_history_valid_iff (history : ReceiptHistory (.queued request startedAt) trace last)
    (ordered : (timestamps startedAt trace).Pairwise (· ≥ ·))
    (known : ∀ moment, moment ∈ trace -> moment.label.failure ≠ some .unknownOutcome) :
    last.validateInvariants = .ok () <->
      ∀ moment, moment ∈ trace -> moment.label.asksConfirmation = false := by
  constructor
  · intro valid moment inside
    by_contra confirms
    exact (history.confirms inside (by simpa using confirms)).2 valid
  · intro plain
    induction history with
    | nil => exact ActionReceipt.queued_valid request startedAt
    | @step trace before after label earlier moved ih =>
      have started := ReceiptHistory.keeps_start earlier
      obtain ⟨kept, completes⟩ := ReceiptTransition.apply_times moved
      -- the start is among the times that come before the completion
      have punctual (completed : Timestamp) (own : label.completedAt = some completed) (first : Timestamp)
          (begun : startedAt = some first) : first ≤ completed := by
        have times : timestamps startedAt (⟨before, label, after⟩ :: trace) =
            completed :: timestamps startedAt trace := by
          simp [timestamps, own]
        rw [times, List.pairwise_cons] at ordered
        exact ordered.1 first (by simp [timestamps, begun])
      have rest : (timestamps startedAt trace).Pairwise (· ≥ ·) := by
        refine ordered.sublist ?_
        exact ((List.sublist_cons_self _ trace).filterMap _).append_right _
      have valid := ih rest (fun moment inside => known moment (List.mem_cons_of_mem _ inside))
        fun moment inside => plain moment (List.mem_cons_of_mem _ inside)
      have timely : after.inTime = true := by
        rw [ActionReceipt.inTime_iff, kept, started]
        intro first completed begun ended
        rcases completes with own | ⟨same, _⟩
        · exact punctual completed (own ▸ ended) first begun
        · have early : before.inTime = true := by
            simp only [ActionReceipt.validateInvariants, bind_ok, require_ok] at valid
            exact valid.choose_spec.1
          exact ActionReceipt.inTime_iff.mp early first completed (started.trans begun) (same ▸ ended)
      exact ReceiptTransition.apply_valid valid moved timely (known _ List.mem_cons_self)
        (plain _ List.mem_cons_self)

def lostClick : ActionRequest where
  requestId := ⟨"lost", by decide⟩
  actionId := ⟨"lost", by decide⟩
  idempotencyKey := ⟨"lost", by decide⟩
  requestHash := ⟨0⟩
  spaceId := ⟨1⟩
  pageId := none
  leaseEpoch := 1
  operation := .click
  payload := []
  postcondition := none

def lostClickSteps (requiresConfirmation : Bool) : List ReceiptTransition :=
  [.markDispatched, .markAcknowledged, .markUnknown .lostResponse (.control 1), .beginReconciliation,
    .reconcileFailed .cancelled requiresConfirmation (some 20)]

def ReceiptTransition.follow (transition : ReceiptTransition) (receipt : ActionReceipt) : Option ActionReceipt :=
  (transition.apply receipt).toOption

theorem ReceiptTransition.follow_iff {transition : ReceiptTransition} {before after : ActionReceipt} :
    transition.follow before = some after <-> transition.apply before = .ok after := by
  unfold ReceiptTransition.follow
  cases transition.apply before <;> simp [Except.toOption]

def lostClickTrace (requiresConfirmation : Bool) : List ReceiptMoment :=
  (visits ReceiptTransition.follow (lostClickSteps requiresConfirmation) (.queued lostClick (some 10))).reverse

theorem lostClick_history (requiresConfirmation : Bool) : ∃ last,
    ReceiptHistory (.queued lostClick (some 10)) (lostClickTrace requiresConfirmation) last := by
  obtain ⟨last, run, _⟩ := advance_reaches ReceiptTransition.follow (.queued lostClick (some 10))
    (lostClickSteps requiresConfirmation) (fun _ => true) (by cases requiresConfirmation <;> decide)
  exact ⟨last, run.imp fun _ _ _ => ReceiptTransition.follow_iff.mp⟩

/-- Reconciled as a plain failure, the click passes the validator. -/
theorem receipt_history_valid_iff_lost : ∃ last,
    ReceiptHistory (.queued lostClick (some 10)) (lostClickTrace false) last ∧ last.validateInvariants = .ok () := by
  obtain ⟨last, history⟩ := lostClick_history false
  refine ⟨last, history, (receipt_history_valid_iff history (by decide) (by decide)).mpr ?_⟩
  decide

/-- Reconciled as a failure to confirm, it does not. -/
theorem confirmed_failure_invalid : ∃ last,
    ReceiptHistory (.queued lostClick (some 10)) (lostClickTrace true) last ∧
      (timestamps (some 10) (lostClickTrace true)).Pairwise (· ≥ ·) ∧
      (∀ moment, moment ∈ lostClickTrace true -> moment.label.failure ≠ some .unknownOutcome) ∧
      last.validateInvariants = .error (.invariant "failed receipt has an invalid outcome state") := by
  obtain ⟨last, run, refused⟩ := advance_reaches ReceiptTransition.follow (.queued lostClick (some 10))
    (lostClickSteps true)
    (fun last => decide (last.validateInvariants = .error (.invariant "failed receipt has an invalid outcome state")))
    (by decide)
  exact ⟨last, run.imp fun _ _ _ => ReceiptTransition.follow_iff.mp, by decide, by decide,
    of_decide_eq_true refused⟩

end Histories

end AgentycHost
