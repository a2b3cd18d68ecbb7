import AgentycHost.Effects.Receipts
import AgentycHost.Effects.Spaces
import AgentycHost.System.Runs

set_option autoImplicit false

/-! # What a restart does -/

namespace AgentycHost

open Shared

variable {config : LedgerConfig} {disk state before after : LedgerState} {spaceId : SpaceId} {actionId : ActionId}
  {receipt : ActionReceipt} {failures : Nat} {calls : Table Nat Call} {command : Command}

def reopened (disk : LedgerState) : LedgerState :=
  { disk.persisted with brokerEpoch := disk.brokerEpoch + 1, connectionEpoch := 0, eventSequence := 0, events := [] }

theorem openLedger_ok (opened : openLedger config disk = .ok state) : state = recoverState (reopened disk) := by
  simp only [openLedger, recoverAfterRestart, bind_ok, pure_ok, orElse_ok, checkedNext_eq_some] at opened
  obtain ⟨_, _, _, ⟨_, rfl⟩, _, ⟨_, _, rfl⟩, _, _, _, _, rfl⟩ := opened
  rfl

theorem recoverReceipt_move (lost : Bool) (number : Nat) : ReceiptMove receipt (recoverReceipt lost number receipt) := by
  unfold recoverReceipt
  split
  · next queued =>
    split_ifs
    · exact .move ⟨rfl, rfl, rfl, rfl, rfl, rfl, rfl, rfl, rfl⟩ (by dsimp only; rw [queued]; exact .cancelled)
    · exact .keep _
  · next running =>
    dsimp only
    split_ifs
    all_goals
      exact .move ⟨rfl, rfl, rfl, rfl, rfl, rfl, rfl, rfl, rfl⟩ (by dsimp only; rw [running]; exact .lost)
  · exact .keep _

theorem recoverReceipt_stopped (lost : Bool) (number : Nat) : (recoverReceipt lost number receipt).status ≠ .running := by
  unfold recoverReceipt
  split
  · next queued => split_ifs <;> simp [queued]
  · dsimp only
    split_ifs <;> simp
  · assumption

theorem openLedger_actions (opened : openLedger config disk = .ok state) (actionId : ActionId) :
    state.actions.get? actionId = (disk.actions.get? actionId).map
      (recoverReceipt ((lostQueuedIds (reopened disk)).contains actionId)
        (recoveryNumber (reopened disk) actionId)) := by
  rw [openLedger_ok opened]
  exact Table.get?_mapValues _ _ _

theorem openLedger_receipt (opened : openLedger config disk = .ok state)
    (found : state.actions.get? actionId = some receipt) :
    ∃ stored, disk.actions.get? actionId = some stored ∧ ReceiptMove stored receipt ∧
      receipt.status ≠ .running := by
  rw [openLedger_actions opened, Option.map_eq_some_iff] at found
  obtain ⟨stored, present, rfl⟩ := found
  exact ⟨stored, present, recoverReceipt_move _ _, recoverReceipt_stopped _ _⟩

theorem openLedger_later_receipt (opened : openLedger config disk = .ok state)
    (found : disk.actions.get? actionId = some receipt) :
    ∃ later, state.actions.get? actionId = some later ∧ LaterReceipt receipt later := by
  have recovered := openLedger_actions opened actionId
  rw [found, Option.map_some] at recovered
  exact ⟨_, recovered, (recoverReceipt_move _ _).later⟩

theorem reopenLedger_later_receipt (valid : Valid config disk)
    (opened : reopenLedger config disk failures = .ok state) (found : disk.actions.get? actionId = some receipt) :
    ∃ later, state.actions.get? actionId = some later ∧ LaterReceipt receipt later := by
  refine (reopenLedger_keeps (fun state => ∃ later, state.actions.get? actionId = some later ∧
    LaterReceipt receipt later) ?_ valid ⟨receipt, found, .refl receipt⟩ opened).2
  rintro disk state _ ⟨middle, present, early⟩ opened
  obtain ⟨later, there, late⟩ := openLedger_later_receipt opened present
  exact ⟨later, there, early.trans late⟩

def Standing.recover (standing : Standing) : Standing where
  lifecycle := if isLostByRestart standing.lifecycle then .orphaned else standing.lifecycle
  lease := standing.lease.map recoverLease
  holder := none

theorem openLedger_standing (opened : openLedger config disk = .ok state) (spaceId : SpaceId) :
    state.standing spaceId = (disk.standing spaceId).map Standing.recover := by
  rw [openLedger_ok opened, LedgerState.standing, LedgerState.standing]
  change ((disk.spaces.mapValues fun _ space => recoverSpace space).get? spaceId).map _ = _
  rw [Table.get?_mapValues, Option.map_map, Option.map_map]
  refine congrArg (Option.map · (disk.spaces.get? spaceId)) ?_
  funext space
  simp only [Function.comp_apply, recoverSpace, Standing.recover, SpaceDescriptor.standing]
  split_ifs <;> rfl

theorem reopenLedger_last (opened : reopenLedger config disk failures = .ok state) :
    ∃ last, openLedger config last = .ok state := by
  induction failures generalizing disk with
  | zero => exact ⟨disk, opened⟩
  | succ failures ih =>
    simp only [reopenLedger, bind_ok] at opened
    obtain ⟨_, _, others⟩ := opened
    exact ih others

theorem reopenLedger_events (opened : reopenLedger config disk failures = .ok state) :
    state.events = [] ∧ state.eventSequence = 0 := by
  obtain ⟨last, opened⟩ := reopenLedger_last opened
  rw [openLedger_ok opened]
  exact ⟨rfl, rfl⟩

theorem openLedger_brokerEpoch (opened : openLedger config disk = .ok state) :
    state.brokerEpoch = disk.brokerEpoch + 1 := by
  rw [openLedger_ok opened]
  rfl

theorem reopenLedger_brokerEpoch (opened : reopenLedger config disk failures = .ok state) :
    disk.brokerEpoch < state.brokerEpoch := by
  induction failures generalizing disk with
  | zero =>
    rw [openLedger_brokerEpoch opened]
    exact Nat.lt_succ_self _
  | succ failures ih =>
    simp only [reopenLedger, bind_ok] at opened
    obtain ⟨middle, first, others⟩ := opened
    have one := openLedger_brokerEpoch first
    exact Nat.lt_trans (one ▸ Nat.lt_succ_self _) (ih others)

theorem Sound.restarted {ledger : Ledger} (sound : Sound config ledger)
    (opened : reopenLedger config ledger.disk failures = .ok state) :
    ledger.state.brokerEpoch < state.brokerEpoch := by
  have file : ledger.disk.brokerEpoch = ledger.state.brokerEpoch := by
    rcases sound.ahead with same | ⟨_, _, taken⟩
    · rw [same]
    · exact (taken.spaceEffect sound.valid).brokerEpoch
  exact file ▸ reopenLedger_brokerEpoch opened

theorem openLedger_numbers (opened : openLedger config disk = .ok state) :
    state.nextSpaceNumber = disk.nextSpaceNumber := by
  rw [openLedger_ok opened]
  rfl

@[simp]
theorem recoverLease_epoch (lease : Lease) : (recoverLease lease).leaseEpoch = lease.leaseEpoch := by
  unfold recoverLease
  split_ifs <;> rfl

@[simp]
theorem Standing.recover_epoch (standing : Standing) : standing.recover.epoch = standing.epoch := by
  simp [Standing.epoch, Standing.recover, Option.map_map, Function.comp_def]

section Running

def RunningOpen (state : LedgerState) : Prop :=
  ∀ actionId receipt, state.actions.get? actionId = some receipt -> receipt.status = .running ->
    receipt.completionSource = .none

theorem LedgerStep.running_open (valid : Valid config before) (before_open : RunningOpen before)
    (taken : LedgerStep config calls command before after) : RunningOpen after := by
  intro actionId receipt found running
  have change := taken.actionEffect.change actionId
  rw [found] at change
  generalize earlier : before.actions.get? actionId = old at change
  cases change with
  | admitted => cases running
  | started _ dispatchable =>
    -- the validator has seen the queued receipt
    obtain ⟨_, _, checked⟩ := valid.checked earlier
    have status := checked.status
    simp only [validateReceiptStatus, dispatchable.queued, require_ok, Bool.and_eq_true, beq_iff_eq] at status
    exact status.2
  | moved move =>
    cases move with
    | keep => exact before_open actionId receipt earlier running
    | move _ status => exact (running ▸ status).to_running.elim

theorem openLedger_running_open (opened : openLedger config disk = .ok state) : RunningOpen state := by
  intro actionId receipt found running
  obtain ⟨_, _, _, stopped⟩ := openLedger_receipt opened found
  exact absurd running stopped

theorem HostRun.running_open {config : HostConfig} {start last : System} {trace : List (Moment System Label)}
    (run : HostRun config start trace last) (initial : Initial config start) :
    RunningOpen last.ledger.state ∧ RunningOpen last.ledger.disk :=
  (run.ledger_keeps RunningOpen initial (fun _ _ found => by simp [LedgerState.new] at found)
    (fun _ _ _ valid earlier taken => taken.running_open valid earlier)
    fun _ _ _ _ opened => openLedger_running_open opened).2

end Running

section Numbers

def SpacesNumbered (state : LedgerState) : Prop :=
  ∀ spaceId, state.standing spaceId ≠ none -> spaceId.number ≤ state.nextSpaceNumber

theorem LedgerStep.numbered (valid : Valid config before) (numbered : SpacesNumbered before)
    (taken : LedgerStep config calls command before after) : SpacesNumbered after := by
  intro spaceId present
  have effect := taken.spaceEffect valid
  by_cases absent : before.standing spaceId = none
  · exact effect.numbered spaceId absent present
  · exact (numbered spaceId absent).trans effect.numbers

theorem openLedger_numbered (numbered : SpacesNumbered disk) (opened : openLedger config disk = .ok state) :
    SpacesNumbered state := by
  intro spaceId present
  rw [openLedger_standing opened, ne_eq, Option.map_eq_none_iff] at present
  rw [openLedger_numbers opened]
  exact numbered spaceId present

theorem HostRun.numbered {config : HostConfig} {start last : System} {trace : List (Moment System Label)}
    (run : HostRun config start trace last) (initial : Initial config start) : SpacesNumbered last.ledger.state :=
  (run.ledger_keeps SpacesNumbered initial (fun _ present => absurd rfl present) (fun _ _ _ valid numbered taken =>
    taken.numbered valid numbered) fun _ _ _ numbered opened => openLedger_numbered numbered opened).2.1

end Numbers

end AgentycHost
