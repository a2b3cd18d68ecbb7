import AgentycHost.Effects.Recovery

set_option autoImplicit false

/-! # Restarts -/

namespace AgentycHost

open Shared

/-- The counters that a restart advances have a next value. -/
structure CountersRemain (state : LedgerState) : Prop where
  brokerEpoch : state.brokerEpoch < u64Max
  pages : ∀ spaceId space page, state.spaces.get? spaceId = some space -> page ∈ space.pages ->
    page.targetGeneration < u64Max ∧ page.navigationGeneration < u64Max ∧ page.documentGeneration < u64Max

/-- The file that is read and the one that is written are within the limit. -/
structure SizesFit (config : LedgerConfig) (state : LedgerState) : Prop where
  read : config.codec.compactBytes state.persisted ≤ config.limits.maxLedgerBytes
  compact : config.codec.compactBytes (recovered state) ≤ config.limits.maxLedgerBytes
  pretty : config.codec.prettyBytes (recovered state) ≤ config.limits.maxLedgerBytes

section States

variable {config : LedgerConfig} {disk state : LedgerState}

theorem persisted_accepted (valid : Valid config disk) : Accepted config disk.persisted where
  bounds := (valid_iff.mp valid).bounds
  spaces := (valid_iff.mp valid).spaces
  indexes := (valid_iff.mp valid).indexes
  controlTickets := (valid_iff.mp valid).controlTickets
  pendingFences := (valid_iff.mp valid).pendingFences
  takeoverProofs := (valid_iff.mp valid).takeoverProofs
  queues := (valid_iff.mp valid).queues
  actions := (valid_iff.mp valid).actions
  snapshots := by
    have none : disk.persisted.snapshots.values = [] := rfl
    simp only [validateSnapshots, bind_ok, require_ok, none]
    exact ⟨(), rfl, by simp⟩
  events := (valid_iff.mp valid).events

theorem recoverAfterRestart_total (counters : CountersRemain disk) :
    recoverAfterRestart (reopened disk) = .ok (recovered disk) := by
  simp only [recoverAfterRestart, bind_ok, pure_ok]
  refine ⟨(), forEach_ok.mpr fun space inside => ?_, rfl⟩
  split_ifs
  · refine forEach_ok.mpr fun page member => ?_
    obtain ⟨spaceId, found⟩ := (Table.mem_values _ _).mp inside
    obtain ⟨target, navigation, document⟩ := counters.pages spaceId space page found member
    simp only [checkRecoverPage, checkedNext, if_pos target, if_pos navigation, if_pos document]
    rfl
  · rfl

theorem openLedger_total (valid : Valid config disk) (open_ : RunningOpen disk) (counters : CountersRemain disk)
    (sizes : SizesFit config disk) : openLedger config disk = .ok (recovered disk) := by
  have stored : validateState config.codec config.limits disk.persisted = .ok () :=
    valid_iff.mpr { persisted_accepted valid with bytes := sizes.read }
  have checked : validateState config.codec config.limits (recovered disk) = .ok () :=
    valid_iff.mpr { recovered_accepted valid open_ with bytes := sizes.compact }
  simp only [openLedger, bind_ok, pure_ok, orElse_ok, require_ok, decide_eq_true_eq, checkedNext_eq_some]
  exact ⟨(), stored, _, ⟨counters.brokerEpoch, rfl⟩, _, recoverAfterRestart_total counters, (), checked, (),
    sizes.pretty, rfl⟩

/-- What a recovered state has left behind. -/
structure Recovered (before after : LedgerState) : Prop where
  leases : ∀ spaceId space lease, after.spaces.get? spaceId = some space -> space.lease = some lease ->
    lease.state ≠ .active ∧ lease.state ≠ .renewing
  running : ∀ actionId receipt, after.actions.get? actionId = some receipt -> receipt.status ≠ .running
  queued : ∀ actionId receipt, after.actions.get? actionId = some receipt ->
    isLostSpace before receipt.spaceId = true -> receipt.status ≠ .queued ∧ actionId ∉ queuedIds after
  generations : ∀ spaceId pageId page, isLostSpace before spaceId = true ->
    before.page spaceId pageId = some page -> ∃ later, after.page spaceId pageId = some later ∧
      page.targetGeneration < later.targetGeneration ∧ page.navigationGeneration < later.navigationGeneration ∧
      page.documentGeneration < later.documentGeneration

theorem recovered_leaves (valid : Valid config disk) : Recovered disk (recovered disk) where
  leases spaceId space lease found leased := by
    rw [recovered_space, Option.map_eq_some_iff] at found
    obtain ⟨stored, _, rfl⟩ := found
    obtain ⟨_, _, same, _⟩ := recoverSpace_eq stored
    rw [same, Option.map_eq_some_iff] at leased
    obtain ⟨held, _, rfl⟩ := leased
    obtain ended | ended | ended := recoverLease_ended held <;> simp [ended]
  running actionId receipt found := by
    rw [recovered_action, Option.map_eq_some_iff] at found
    obtain ⟨stored, _, rfl⟩ := found
    exact recoverReceipt_stopped _ _
  queued actionId receipt found lost := by
    rw [recovered_action, Option.map_eq_some_iff] at found
    obtain ⟨stored, present, rfl⟩ := found
    have move : ReceiptMove stored _ := recoverReceipt_move
      ((lostQueuedIds (reopened disk)).contains actionId) (recoveryNumber (reopened disk) actionId)
    rw [move.same.spaceId] at lost
    constructor
    · intro waits
      have queued := move.queued waits
      have inside : actionId ∈ lostQueuedIds (reopened disk) :=
        (mem_lostQueuedIds valid).mpr ⟨stored, present, queued, lost⟩
      rw [List.contains_iff_mem.mpr inside, recoverReceipt, queued] at waits
      cases waits
    · rw [mem_recovered_queuedIds valid]
      rintro ⟨other, there, _, kept⟩
      cases present.symm.trans there
      rw [kept] at lost
      cases lost
  generations spaceId pageId page lost located := by
    obtain ⟨space, found, there⟩ := Option.bind_eq_some_iff.mp located
    rw [isLostSpace, found, Option.any_some] at lost
    refine ⟨recoverPage page, ?_, Nat.lt_succ_self _, Nat.lt_succ_self _, Nat.lt_succ_self _⟩
    rw [LedgerState.page, recovered_space, found, Option.map_some, Option.bind_some, recoverSpace_page, there, lost]
    rfl

/-- No reconciliation was in progress. -/
def NoneReconciling (state : LedgerState) : Prop :=
  ∀ actionId receipt, state.actions.get? actionId = some receipt -> receipt.status = .unknown ->
    receipt.reconciliationState ≠ .inProgress

/-- Every unknown outcome can be reconciled. -/
def Reconcilable (state : LedgerState) : Prop :=
  ∀ actionId receipt, state.actions.get? actionId = some receipt -> receipt.status = .unknown ->
    receipt.reconciliationState = .required ∧ ∃ begun, receipt.beginReconciliation = .ok begun

theorem reconcilable_iff (valid : Valid config state) : Reconcilable state <-> NoneReconciling state := by
  constructor
  · intro able actionId receipt found unknown
    rw [(able actionId receipt found unknown).1]
    simp
  · intro none actionId receipt found unknown
    have idle := none actionId receipt found unknown
    obtain ⟨_, _, checked⟩ := valid.checked found
    have status := checked.status
    simp only [validateReceiptStatus, unknown, require_ok, Bool.and_eq_true, Bool.or_eq_true, beq_iff_eq] at status
    have required := status.1.1.1.2.resolve_right idle
    exact ⟨required, _, if_neg (by simp [unknown, required])⟩

theorem openLedger_reconciling (opened : openLedger config disk = .ok state) :
    NoneReconciling state <-> NoneReconciling disk := by
  constructor
  · intro none actionId receipt found unknown
    refine none actionId receipt ?_ unknown
    rw [openLedger_actions opened, found, Option.map_some]
    simp [recoverReceipt, unknown]
  · intro none actionId receipt found unknown
    rw [openLedger_actions opened, Option.map_eq_some_iff] at found
    obtain ⟨stored, present, rfl⟩ := found
    cases status : stored.status
    case unknown =>
      simp only [recoverReceipt, status]
      exact none actionId stored present status
    case running =>
      simp only [recoverReceipt, status]
      split_ifs <;> simp
    case queued =>
      simp only [recoverReceipt, status] at unknown
      split_ifs at unknown
      rw [status] at unknown
      cases unknown
    all_goals
      simp only [recoverReceipt, status] at unknown
      cases unknown

theorem reopenLedger_reconciling {failures : Nat} (opened : reopenLedger config disk failures = .ok state) :
    NoneReconciling state <-> NoneReconciling disk := by
  induction failures generalizing disk with
  | zero => exact openLedger_reconciling opened
  | succ failures ih =>
    simp only [reopenLedger, bind_ok] at opened
    obtain ⟨middle, first, others⟩ := opened
    exact (ih others).trans (openLedger_reconciling first)

end States

section Runs

variable {config : HostConfig} {start last : System} {trace : List (Moment System Label)} {state opened : LedgerState}

/-- Every state in memory or in the file along a run can be opened again. -/
theorem restart_recovery_total (initial : Initial config start) (run : HostRun config start trace last)
    (reached : state = last.ledger.state ∨ state = last.ledger.disk) (counters : CountersRemain state)
    (sizes : SizesFit config.ledger state) :
    ∃ next, openLedger config.ledger state = .ok next ∧ Valid config.ledger next ∧ Recovered state next := by
  have sound := run.sound initial
  obtain ⟨memory, file⟩ := run.running_open initial
  have both : Valid config.ledger state ∧ RunningOpen state := by
    obtain rfl | rfl := reached
    · exact ⟨sound.valid, memory⟩
    · exact ⟨sound.disk, file⟩
  have opened := openLedger_total both.1 both.2 counters sizes
  exact ⟨recovered state, opened, openLedger_valid opened, recovered_leaves both.1⟩

/-- The host stops while the first request is at the bridge. -/
theorem restart_recovery_total_running :
    ∃ last next, openLedger sampleConfig.ledger last = .ok next ∧ Valid sampleConfig.ledger next ∧
      (last.actions.get? firstRequest.actionId).map (·.status) = some .running ∧ Recovered last next := by
  obtain ⟨last, run, passed⟩ := advance_reaches (next sampleConfig) (.fresh sampleConfig) sentOnce
    (fun last => decide (last.ledger.disk.brokerEpoch < u64Max) &&
      (last.ledger.disk.spaces.all fun _ space => space.pages.isEmpty) &&
      decide (sampleCodec.compactBytes last.ledger.disk.persisted ≤ sampleConfig.ledger.limits.maxLedgerBytes) &&
      decide (sampleCodec.compactBytes (recovered last.ledger.disk) ≤ sampleConfig.ledger.limits.maxLedgerBytes) &&
      decide (sampleCodec.prettyBytes (recovered last.ledger.disk) ≤ sampleConfig.ledger.limits.maxLedgerBytes) &&
      decide ((last.ledger.disk.actions.get? firstRequest.actionId).map (·.status) = some .running)) (by decide +kernel)
  simp only [Bool.and_eq_true, decide_eq_true_eq, Table.all_eq_true, List.isEmpty_iff] at passed
  obtain ⟨⟨⟨⟨⟨epoch, empty⟩, read⟩, compact⟩, pretty⟩, running⟩ := passed
  have counters : CountersRemain last.ledger.disk :=
    ⟨epoch, fun spaceId space page found inside => by simp [empty spaceId space found] at inside⟩
  obtain ⟨next, opened, valid, left⟩ :=
    restart_recovery_total sample_initial run (.inr rfl) counters ⟨read, compact, pretty⟩
  exact ⟨last.ledger.disk, next, opened, valid, running, left⟩

/-- After a restart over any file of a run, all unknown outcomes can be reconciled if and only if
the file has none whose reconciliation is in progress. -/
theorem restart_reconcilable_iff {failures : Nat} (initial : Initial config start)
    (run : HostRun config start trace last)
    (restarted : reopenLedger config.ledger last.ledger.disk failures = .ok opened) :
    Reconcilable opened <-> NoneReconciling last.ledger.disk := by
  obtain ⟨valid, _⟩ := reopenLedger_keeps (fun _ => True) (fun _ _ _ _ _ => trivial) (run.sound initial).disk trivial
    restarted
  exact (reconcilable_iff valid).trans (reopenLedger_reconciling restarted)

theorem restart_reconcilable_iff_lost :
    ∃ last opened : LedgerState, (last.actions.get? firstRequest.actionId).map (·.status) = some .running ∧
      openLedger sampleConfig.ledger last = .ok opened ∧ Reconcilable opened := by
  obtain ⟨last, run, passed⟩ := advance_reaches (next sampleConfig) (.fresh sampleConfig) sentOnce
    (fun last => (openLedger sampleConfig.ledger last.ledger.disk).toBool &&
      decide ((last.ledger.disk.actions.get? firstRequest.actionId).map (·.status) = some .running) &&
      last.ledger.disk.actions.all fun _ receipt => receipt.status != .unknown) (by decide +kernel)
  simp only [Bool.and_eq_true, decide_eq_true_eq, Table.all_eq_true, bne_iff_ne] at passed
  obtain ⟨⟨ran, running⟩, none⟩ := passed
  cases opens : openLedger sampleConfig.ledger last.ledger.disk with
  | error => simp [opens, Except.toBool] at ran
  | ok opened =>
    have restarted : reopenLedger sampleConfig.ledger last.ledger.disk 0 = .ok opened := opens
    refine ⟨last.ledger.disk, opened, running, opens, (restart_reconcilable_iff sample_initial run restarted).mpr ?_⟩
    exact fun actionId receipt found unknown => absurd unknown (none actionId receipt found)

def reconcilingOnce : List Label := lostOnce ++
  [(reconcilingEnv, .reconcileAction 8 firstRequest.actionId sampleTicket 1 40)]

def reopensStranded (last : System) : Bool :=
  match openLedger sampleConfig.ledger last.ledger.disk with
  | .error _ => false
  | .ok opened => (opened.actions.get? firstRequest.actionId).any fun receipt =>
      receipt.status == .unknown && receipt.reconciliationState == .inProgress

theorem restart_strands_reconciliation :
    ¬ ∀ start trace last opened failures, Initial sampleConfig start -> HostRun sampleConfig start trace last ->
      reopenLedger sampleConfig.ledger last.ledger.disk failures = .ok opened -> Reconcilable opened := by
  intro claim
  obtain ⟨last, run, passed⟩ := advance_reaches (next sampleConfig) (.fresh sampleConfig) reconcilingOnce
    reopensStranded (by decide +kernel)
  unfold reopensStranded at passed
  split at passed
  · cases passed
  · next opened opens =>
    obtain ⟨receipt, found, held⟩ := (Option.any_eq_true _ _).mp passed
    simp only [Bool.and_eq_true, beq_iff_eq] at held
    obtain ⟨required, _⟩ := claim _ _ _ opened 0 sample_initial run opens _ receipt found held.1
    rw [held.2] at required
    cases required

end Runs

end AgentycHost
