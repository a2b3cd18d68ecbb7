import AgentycHost.Effects.Reopening

set_option autoImplicit false

/-! # Queued actions and the current epoch -/

namespace AgentycHost

open Shared

/-- Every queued identity has a queued receipt of the space's current epoch. -/
def QueuedCurrent (state : LedgerState) : Prop :=
  ∀ spaceId actionId, actionId ∈ state.queue spaceId ->
    ∃ receipt, state.actions.get? actionId = some receipt ∧ receipt.status = .queued ∧
      state.leaseEpoch spaceId = some receipt.leaseEpoch

structure QueueInvariant (state : LedgerState) : Prop where
  current : ∀ actionId receipt, state.actions.get? actionId = some receipt -> receipt.status = .queued ->
    state.leaseEpoch receipt.spaceId = some receipt.leaseEpoch
  fenced : ∀ actionId receipt standing, state.actions.get? actionId = some receipt ->
    state.standing receipt.spaceId = some standing -> receipt.status = .queued ->
    standing.lifecycle ≠ .userOwned ∧ standing.lifecycle ≠ .fencePending

/-- A grant of a new lease does not meet a queue. -/
def grantsNoQueue (state : LedgerState) : Command -> Bool
  | .acquireLease spaceId _ now _ =>
      (state.queue spaceId).isEmpty || (state.spaces.get? spaceId).any fun space => isLeased space.lease now
  | _ => true

variable {config : LedgerConfig} {calls : Table Nat Call} {command : Command} {before after disk state : LedgerState}
  {actionId : ActionId}
  {receipt : ActionReceipt} {spaceId : SpaceId}

theorem leaseEpoch_standing (state : LedgerState) (spaceId : SpaceId) :
    state.leaseEpoch spaceId = (state.standing spaceId).bind fun standing => standing.lease.map (·.leaseEpoch) := by
  unfold LedgerState.leaseEpoch LedgerState.standing
  cases state.spaces.get? spaceId <;> rfl

theorem ReceiptChange.queued {old : Option ActionReceipt}
    (change : ReceiptChange command before after actionId old (some receipt)) (queued : receipt.status = .queued) :
    (∃ stored, old = some stored ∧ stored.status = .queued ∧ stored.SameRequest receipt) ∨
      (∃ authority now, authorizeSpace before receipt.spaceId authority receipt.leaseEpoch now true = .ok ()) ∧
        after.spaces = before.spaces := by
  cases change with
  | admitted _ allowed spaces => exact .inr ⟨⟨_, _, allowed⟩, spaces⟩
  | started => cases queued
  | moved move => exact .inl ⟨_, rfl, move.queued queued, move.same⟩

theorem StandingMove.queued_epoch {queue : List ActionId} {old : Standing} {new : Option Standing} {epoch : LeaseEpoch}
    (move : StandingMove calls command before queue spaceId (some old) new) (member : queue ≠ [])
    (grants : grantsNoQueue before command = true) (waiting : before.queue spaceId ≠ [])
    (found : before.standing spaceId = some old) (leased : old.lease.map (·.leaseEpoch) = some epoch)
    (notUser : old.lifecycle ≠ .userOwned) (notFence : old.lifecycle ≠ .fencePending) :
    new = none ∨ ∃ next, new = some next ∧ next.lease.map (·.leaseEpoch) = some epoch ∧
      next.lifecycle ≠ .userOwned ∧ next.lifecycle ≠ .fencePending := by
  cases move with
  | keep => exact .inr ⟨old, rfl, leased, notUser, notFence⟩
  | granted made_by _ _ lapsed =>
    rw [made_by, grantsNoQueue, Bool.or_eq_true, List.isEmpty_iff] at grants
    obtain empty | unlapsed := grants
    · exact absurd empty waiting
    · obtain ⟨space, present, rfl⟩ := Option.map_eq_some_iff.mp found
      simp [present, SpaceDescriptor.standing] at unlapsed lapsed
      simp [unlapsed] at lapsed
  | renewed held _ same =>
    refine .inr ⟨_, rfl, ?_, notUser, notFence⟩
    simp only [held, Option.map_some, Option.some.injEq] at leased ⊢
    exact same.trans leased
  | fenced _ emptied => exact absurd emptied member
  | ticketed user => exact absurd user notUser
  | reclaimed _ _ _ _ _ pending => exact absurd pending notFence
  | returned pending => exact absurd pending notFence
  | suspended _ held kind =>
    refine .inr ⟨_, rfl, ?_, ?_, ?_⟩
    · simpa [held] using leased
    all_goals obtain rfl | rfl := kind <;> simp
  | drained => exact .inr ⟨_, rfl, leased, by simp, by simp⟩
  | finished _ _ held final =>
    refine .inr ⟨_, rfl, ?_, ?_, ?_⟩
    · simpa [held] using leased
    all_goals obtain rfl | rfl := final <;> simp
  | released => exact .inr ⟨_, rfl, leased, by simp, by simp⟩
  | orphaned held => exact .inr ⟨_, rfl, by simpa [held] using leased, by simp, by simp⟩
  | pruned => exact .inl rfl

theorem ne_nil_of_queued (valid : Valid config state) (found : state.actions.get? actionId = some receipt)
    (queued : receipt.status = .queued) : state.queue receipt.spaceId ≠ [] :=
  List.ne_nil_of_mem (valid.receipt_queued found queued)

theorem Valid.receipt_standing (valid : Valid config state) (found : state.actions.get? actionId = some receipt) :
    ∃ standing, state.standing receipt.spaceId = some standing := by
  obtain ⟨_, space, checked⟩ := valid.checked found
  exact ⟨_, standing_some checked.located⟩

theorem LedgerStep.queued_receipt (valid : Valid config before) (invariant : QueueInvariant before)
    (grants : grantsNoQueue before command = true) (taken : LedgerStep config calls command before after)
    (found : after.actions.get? actionId = some receipt) (queued : receipt.status = .queued) :
    ∃ standing, after.standing receipt.spaceId = some standing ∧
      standing.lease.map (·.leaseEpoch) = some receipt.leaseEpoch ∧
      standing.lifecycle ≠ .userOwned ∧ standing.lifecycle ≠ .fencePending := by
  have change := taken.actionEffect.change actionId
  rw [found] at change
  obtain ⟨stored, present, waiting, same⟩ | ⟨⟨authority, now, allowed⟩, spaces⟩ := change.queued queued
  · -- the receipt was queued before: follow its space through the step
    obtain ⟨old, standing⟩ := valid.receipt_standing present
    have epoch := invariant.current actionId stored present waiting
    obtain ⟨notUser, notFence⟩ := invariant.fenced actionId stored old present standing waiting
    rw [leaseEpoch_standing, standing, Option.bind_some] at epoch
    have move := (taken.spaceEffect valid).standing receipt.spaceId
    have located : receipt.spaceId = stored.spaceId := same.spaceId
    rw [located, standing] at move
    obtain gone | ⟨next, after_, leased, user, fence⟩ :=
      move.queued_epoch (located ▸ ne_nil_of_queued taken.valid found queued) grants
        (ne_nil_of_queued valid present waiting) standing epoch notUser notFence
    · obtain ⟨last, there⟩ := taken.valid.receipt_standing found
      rw [located, gone] at there
      cases there
    · exact ⟨next, located ▸ after_, by rw [leased, same.leaseEpoch], user, fence⟩
  · -- the receipt is new: its space is owned under its epoch, and the step leaves the spaces
    obtain ⟨space, lease, authorized⟩ := authorizeSpace_ok.mp allowed
    have owned := authorized.admits rfl
    refine ⟨_, standing_some (spaces ▸ authorized.found), ?_, ?_, ?_⟩
    · simp [SpaceDescriptor.standing, authorized.leased, authorized.epoch]
    all_goals simp [SpaceDescriptor.standing, owned]

theorem LedgerStep.queueInvariant (valid : Valid config before) (invariant : QueueInvariant before)
    (grants : grantsNoQueue before command = true) (taken : LedgerStep config calls command before after) : QueueInvariant after := by
  constructor
  · intro actionId receipt found queued
    obtain ⟨standing, there, leased, _, _⟩ := taken.queued_receipt valid invariant grants found queued
    rw [leaseEpoch_standing, there, Option.bind_some, leased]
  · intro actionId receipt standing found located queued
    obtain ⟨next, there, _, user, fence⟩ := taken.queued_receipt valid invariant grants found queued
    cases located.symm.trans there
    exact ⟨user, fence⟩

theorem openLedger_leaseEpoch (opened : openLedger config disk = .ok state) (spaceId : SpaceId) :
    state.leaseEpoch spaceId = disk.leaseEpoch spaceId := by
  rw [leaseEpoch_standing, leaseEpoch_standing, openLedger_standing opened]
  cases disk.standing spaceId with
  | none => rfl
  | some standing => simp [Standing.recover, Function.comp_def]

theorem openLedger_queueInvariant (invariant : QueueInvariant disk)
    (opened : openLedger config disk = .ok state) : QueueInvariant state := by
  have stored : ∀ actionId receipt, state.actions.get? actionId = some receipt -> receipt.status = .queued ->
      ∃ stored, disk.actions.get? actionId = some stored ∧ stored.status = .queued ∧
        stored.SameRequest receipt := by
    intro actionId receipt found queued
    obtain ⟨stored, present, move, _⟩ := openLedger_receipt opened found
    exact ⟨stored, present, move.queued queued, move.same⟩
  constructor
  · intro actionId receipt found queued
    obtain ⟨stored, present, waiting, same⟩ := stored actionId receipt found queued
    have epoch := invariant.current actionId stored present waiting
    rw [same.spaceId, same.leaseEpoch, openLedger_leaseEpoch opened]
    exact epoch
  · intro actionId receipt standing found located queued
    obtain ⟨stored, present, waiting, same⟩ := stored actionId receipt found queued
    rw [openLedger_standing opened, same.spaceId, Option.map_eq_some_iff] at located
    obtain ⟨old, there, rfl⟩ := located
    obtain ⟨user, fence⟩ := invariant.fenced actionId stored old present there waiting
    unfold Standing.recover
    dsimp only
    split_ifs
    · exact ⟨by simp, by simp⟩
    · exact ⟨user, fence⟩

section Runs

variable {config : HostConfig} {start last : System} {trace : List (Moment System Label)}

theorem QueueInvariant.new : QueueInvariant (.new 1) := by
  constructor
  · intro actionId receipt found
    simp [LedgerState.new] at found
  · intro actionId receipt standing found
    simp [LedgerState.new] at found

theorem HostRun.queueInvariant (run : HostRun config start trace last) (initial : Initial config start)
    (grants : ∀ moment, moment ∈ trace -> grantsNoQueue moment.before.ledger.state moment.label.2 = true) :
    Sound config.ledger last.ledger ∧ QueueInvariant last.ledger.state := by
  obtain ⟨sound, memory, _⟩ := run.ledger_keeps QueueInvariant initial .new
    (fun moment _ inside valid invariant taken => taken.queueInvariant valid invariant (grants moment inside))
    fun _ _ _ invariant opened => openLedger_queueInvariant invariant opened
  exact ⟨sound, memory⟩

theorem QueueInvariant.queuedCurrent {config : LedgerConfig} {state : LedgerState} (valid : Valid config state)
    (invariant : QueueInvariant state) : QueuedCurrent state := by
  intro spaceId actionId member
  obtain ⟨receipt, found, rfl, queued⟩ := valid.queued_receipt member
  exact ⟨receipt, found, queued, invariant.current actionId receipt found queued⟩

theorem QueueInvariant.head_admitted {config : LedgerConfig} {state : LedgerState} {spaceId : SpaceId}
    {actionId : ActionId} {authority : AuthorityTicket} {leaseEpoch : LeaseEpoch} {now : Timestamp}
    (valid : Valid config state) (invariant : QueueInvariant state)
    (head : (state.queue spaceId).head? = some actionId)
    (allowed : authorizeSpace state spaceId authority leaseEpoch now true = .ok ()) :
    ∃ request, admitDispatch actionId authority leaseEpoch now state = .ok (some request) := by
  have member : actionId ∈ state.queue spaceId := List.mem_of_mem_head? head
  obtain ⟨receipt, found, rfl, queued⟩ := valid.queued_receipt member
  obtain ⟨request, space, checked⟩ := valid.checked found
  have epoch := invariant.current actionId receipt found queued
  obtain ⟨located, lease, authorized⟩ := authorizeSpace_ok.mp allowed
  obtain ⟨inside, _, requested, _⟩ := checked.fields
  rw [LedgerState.leaseEpoch, authorized.found, Option.bind_some, authorized.leased, Option.map_some,
    Option.some.injEq, authorized.epoch] at epoch
  rw [← inside] at head allowed
  exact ⟨request, Dispatchable.admitted
    ⟨checked.requested, found, queued, epoch.trans requested.symm, allowed, head⟩⟩

/-- In every run whose grants meet no queue, the queued actions are of the current epoch, and the
head of a queue is admitted for whoever holds the lease. -/
theorem queued_actions_current (initial : Initial config start) (run : HostRun config start trace last)
    (grants : ∀ moment, moment ∈ trace -> grantsNoQueue moment.before.ledger.state moment.label.2 = true) :
    QueuedCurrent last.ledger.state ∧
      ∀ spaceId actionId authority leaseEpoch now, (last.ledger.state.queue spaceId).head? = some actionId ->
        authorizeSpace last.ledger.state spaceId authority leaseEpoch now true = .ok () ->
        ∃ request, admitDispatch actionId authority leaseEpoch now last.ledger.state = .ok (some request) := by
  obtain ⟨sound, invariant⟩ := run.queueInvariant initial grants
  exact ⟨invariant.queuedCurrent sound.valid,
    fun _ _ _ _ _ head allowed => invariant.head_admitted sound.valid head allowed⟩

theorem queued_actions_current_once :
    ∃ last : System, last.ledger.state.queue ⟨1⟩ = [firstRequest.actionId] ∧ QueuedCurrent last.ledger.state := by
  obtain ⟨last, run, passed⟩ := advance_reaches (next sampleConfig) (.fresh sampleConfig) queuedOnce
    (fun last => decide (last.ledger.state.queue ⟨1⟩ = [firstRequest.actionId])) (by decide +kernel)
  have grants := visits_all (next sampleConfig) queuedOnce (.fresh sampleConfig)
    (fun moment => grantsNoQueue moment.before.ledger.state moment.label.2) (by decide +kernel)
  exact ⟨last, of_decide_eq_true passed, (queued_actions_current sample_initial run grants).1⟩

def queuedOverLapse : List Label := queuedOnce ++ [(sampleEnv, .acquireLease ⟨1⟩ sampleTicket 2000 1000)]

theorem queued_actions_outlive_epoch :
    ¬ ∀ system, Reachable sampleConfig system -> QueuedCurrent system.ledger.state := by
  obtain ⟨last, run, passed⟩ := advance_reaches (next sampleConfig) (.fresh sampleConfig) queuedOverLapse
    (fun last => decide (last.ledger.state.queue ⟨1⟩ = [firstRequest.actionId]) &&
      decide (last.ledger.state.leaseEpoch ⟨1⟩ = some 2) &&
      ((last.ledger.state.actions.get? firstRequest.actionId).all fun receipt => receipt.leaseEpoch == 1))
    (by decide +kernel)
  simp only [Bool.and_eq_true, decide_eq_true_eq] at passed
  obtain ⟨⟨queue, epoch⟩, old⟩ := passed
  intro claim
  obtain ⟨receipt, found, _, current⟩ :=
    claim last ⟨_, _, sample_initial, run⟩ ⟨1⟩ firstRequest.actionId (by simp [queue])
  rw [found, Option.all_some, beq_iff_eq] at old
  rw [epoch, old] at current
  cases current

end Runs

end AgentycHost
