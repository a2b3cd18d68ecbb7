import AgentycHost.Cdp.Bridge
import AgentycHost.Effects.Finishing

set_option autoImplicit false

/-! # Unknown outcomes over the CDP bridge -/

namespace AgentycHost

open Shared

variable {actionId : ActionId} {receipt : ActionReceipt}

/-- What `BridgeRouter` offers over that bridge. -/
def routerCapabilities (connected : Bool) : List Capability := if connected then cdpCapabilities else []

def OverCdp (label : Label) : Prop := ∃ connected, label.1.capabilities = routerCapabilities connected

section States

variable {config : LedgerConfig} {command : Command} {before after disk state : LedgerState}

/-- The commands of `reconcile_action`. -/
def Command.reconciles : Command -> Bool
  | .reconcileAction _ _ _ _ _ | .reconcileAnswered _ _ => true
  | _ => false

theorem ActionEffect.unknown_kept (effect : ActionEffect command before after) (other : command.reconciles = false)
    (found : before.actions.get? actionId = some receipt) (unknown : receipt.status = .unknown) :
    after.actions.get? actionId = some receipt := by
  have elsewhere : ∀ {changed : ActionId} {stored moved : ActionReceipt},
      before.actions.get? changed = some stored -> stored.status ≠ .unknown ->
      (before.actions.insert changed moved).get? actionId = some receipt := by
    intro changed stored moved present known
    rw [Table.get?_insert_ne, found]
    rintro rfl
    cases found.symm.trans present
    exact known unknown
  cases effect with
  | same unchanged => rw [unchanged.actions, found]
  | admitted _ _ fresh _ update =>
    rw [update.actions, AgentycHost.admitted, Table.get?_insert_ne, found]
    rintro rfl
    rw [found] at fresh
    cases fresh
  | marked _ dispatchable _ update =>
    rw [update.actions]
    exact elsewhere dispatchable.present (by simp [dispatchable.queued])
  | settled present running _ update =>
    rw [update.actions]
    exact elsewhere present (by simp [running])
  | reconciling made_by => simp [made_by, Command.reconciles] at other
  | reconciled made_by => simp [made_by, Command.reconciles] at other
  | fenced changes =>
    have change := changes actionId
    rw [found] at change
    generalize after.actions.get? actionId = last at change ⊢
    cases change with
    | keep => rfl
    | cancelled moved =>
      obtain ⟨queued, _⟩ := ActionReceipt.cancel_ok moved
      simp [unknown] at queued
    | interrupted _ moved =>
      obtain ⟨running, _⟩ := ActionReceipt.markUnknown_ok moved
      simp [unknown] at running
  | stopped changes =>
    have change := changes actionId
    rw [found] at change
    generalize after.actions.get? actionId = last at change ⊢
    cases change with
    | keep => rfl
    | interrupted moved =>
      obtain ⟨running, _⟩ := ActionReceipt.markUnknown_ok moved
      simp [unknown] at running
  | @pruned _ _ spaces _ update prunable =>
    rw [update.actions, found, Option.filter_some_pos]
    by_contra inside
    obtain ⟨_, _, _, resolved⟩ := prunable receipt.spaceId (by simpa using inside)
    have ended := isTerminal_of_resolved found resolved
    simp [unknown, ActionStatus.isTerminal] at ended

theorem openLedger_unknown (opened : openLedger config disk = .ok state)
    (found : disk.actions.get? actionId = some receipt) (unknown : receipt.status = .unknown) :
    state.actions.get? actionId = some receipt := by
  rw [openLedger_actions opened, found, Option.map_some]
  simp [recoverReceipt, unknown]

end States

section Runs

variable {config : HostConfig} {env : Environment} {label : Label} {before after start middle last : System}
  {trace later : List (Moment System Label)} {result : Except HostError Unit}

/-- The receipt is not unknown any more, or its space is finished, released or pruned. -/
def leftUnknown (state : LedgerState) (actionId : ActionId) (spaceId : SpaceId) : Bool :=
  ((state.actions.get? actionId).all fun receipt => !(receipt.status == .unknown)) ||
    (state.spaces.get? spaceId).all fun space => space.lifecycle == .finished || space.lifecycle == .released

structure Unreconciled (system : System) : Prop where
  idle : ∀ key claim actionId, system.calls.get? key ≠ some (.reconcile claim actionId)
  written : ∀ actionId receipt, system.ledger.state.actions.get? actionId = some receipt ->
    receipt.status = .unknown -> system.ledger.disk.actions.get? actionId = some receipt

theorem OverCdp.no_reconcile (cdp : OverCdp label) : requireCapability label.1.capabilities .reconcile ≠ .ok () := by
  obtain ⟨connected, offers⟩ := cdp
  rw [offers]
  cases connected <;> decide

theorem Unreconciled.refused (unreconciled : Unreconciled before) (cdp : OverCdp label)
    (taken : next config label before = some after) :
    after = before ∨ label.2.reconciles = false := by
  obtain ⟨_, replied⟩ := next_step taken
  obtain ⟨env, command⟩ := label
  cases command
  case reconcileAction call actionId authority leaseEpoch now =>
    refine .inl ?_
    simp only [step, actionStep] at replied
    split_ifs at replied
    rw [AgentycHost.replied replied]
    unfold System.afterCheck
    split
    · rfl
    · next allowed => exact absurd allowed cdp.no_reconcile
  case reconcileAnswered call answer =>
    simp only [step, actionStep] at replied
    split at replied
    · next claim actionId waiting => exact absurd waiting (unreconciled.idle call claim actionId)
    · cases replied
  all_goals exact .inr rfl

theorem Unreconciled.step (unreconciled : Unreconciled before) (cdp : OverCdp label)
    (taken : next config label before = some after) : Unreconciled after := by
  obtain rfl | other := unreconciled.refused cdp taken
  · exact unreconciled
  · obtain ⟨_, replied⟩ := next_step taken
    obtain ⟨env, command⟩ := label
    constructor
    · intro key claim actionId waiting
      by_cases foreign : CallKind.reconcile ∈ command.kinds
      · cases command
        case restart =>
          obtain ⟨state, _, rfl⟩ := restart_cases replied
          simp [System.opened] at waiting
        case reconcileAction | reconcileAnswered => cases other
        all_goals simp [Command.kinds] at foreign
      · exact unreconciled.idle key claim actionId
          (((step_untouched foreign replied).calls key _ rfl).mp waiting)
    · obtain moved | ⟨_, state, _, _, rfl⟩ := next_ledger taken
      · generalize after.ledger = changed at moved
        cases moved with
        | same => exact unreconciled.written
        | committed => exact fun _ _ found _ => found
        | written made => exact fun _ _ found unknown => made.actionEffect.unknown_kept other found unknown
      · exact fun _ _ found _ => found

theorem HostRun.unreconciled (run : HostRun config start trace last) (initial : Initial config start)
    (cdp : ∀ moment, moment ∈ trace -> OverCdp moment.label) : Unreconciled last := by
  refine run.keeps Unreconciled ?_ fun moment inside taken unreconciled => unreconciled.step (cdp moment inside) taken
  obtain ⟨rfl, _⟩ := initial
  refine ⟨fun key claim actionId waiting => ?_, fun _ _ found _ => found⟩
  simp [System.fresh, System.opened] at waiting

theorem Unreconciled.unknown_kept (unreconciled : Unreconciled before) (sound : Sound config.ledger before.ledger)
    (cdp : OverCdp label) (taken : next config label before = some after)
    (found : before.ledger.state.actions.get? actionId = some receipt) (unknown : receipt.status = .unknown) :
    after.ledger.state.actions.get? actionId = some receipt := by
  obtain rfl | other := unreconciled.refused cdp taken
  · exact found
  · obtain moved | ⟨_, state, _, opened, rfl⟩ := next_ledger taken
    · generalize after.ledger = changed at moved
      cases moved with
      | same => exact found
      | committed made => exact made.actionEffect.unknown_kept other found unknown
      | written => exact found
    · exact (reopenLedger_keeps (fun state => state.actions.get? actionId = some receipt)
        (fun _ _ _ found opened => openLedger_unknown opened found unknown) sound.disk
        (unreconciled.written actionId receipt found unknown) opened).2

theorem HostRun.unknown_kept (initial : Initial config start) (run : HostRun config start trace middle)
    (cdp : ∀ moment, moment ∈ trace -> OverCdp moment.label)
    (found : middle.ledger.state.actions.get? actionId = some receipt) (unknown : receipt.status = .unknown)
    (rest : HostRun config middle later last) (still : ∀ moment, moment ∈ later -> OverCdp moment.label) :
    last.ledger.state.actions.get? actionId = some receipt := by
  induction rest with
  | nil => exact found
  | @step past before after label earlier taken ih =>
    have before := ih fun moment inside => still moment (List.mem_cons_of_mem _ inside)
    have whole : ∀ moment, moment ∈ past ++ trace -> OverCdp moment.label := by
      intro moment inside
      obtain late | early := List.mem_append.mp inside
      · exact still moment (List.mem_cons_of_mem _ late)
      · exact cdp moment early
    have both := run.append earlier
    exact (HostRun.unreconciled both initial whole).unknown_kept (HostRun.sound both initial)
      (still _ List.mem_cons_self) taken before unknown

theorem HostRun.stays_unknown (initial : Initial config start) (run : HostRun config start trace middle)
    (cdp : ∀ moment, moment ∈ trace -> OverCdp moment.label)
    (found : middle.ledger.state.actions.get? actionId = some receipt) (unknown : receipt.status = .unknown)
    (rest : HostRun config middle later last) (still : ∀ moment, moment ∈ later -> OverCdp moment.label) :
    leftUnknown last.ledger.state actionId receipt.spaceId = false := by
  have kept := HostRun.unknown_kept initial run cdp found unknown rest still
  have both := run.append rest
  obtain ⟨_, space, checked⟩ := (HostRun.sound both initial).valid.checked kept
  -- a space past its end has settled actions only
  have open_ : space.lifecycle.isEnding ≠ true := by
    intro ending
    have settled := (HostRun.finishing both initial).memory receipt.spaceId _ (standing_some checked.located) ending
    have ended := settled actionId receipt kept rfl
    simp [unknown, ActionStatus.isTerminal] at ended
  rw [leftUnknown, kept, checked.located, Option.all_some, Option.all_some, unknown]
  revert open_
  cases space.lifecycle <;> simp [SpaceLifecycle.isEnding]

/-- For every reachable unknown outcome over the CDP bridge, no calls lead out of it. -/
theorem unknown_is_dead_end {receipt : ActionReceipt} (initial : Initial config start)
    (run : HostRun config start trace middle) (cdp : ∀ moment, moment ∈ trace -> OverCdp moment.label)
    (found : middle.ledger.state.actions.get? actionId = some receipt) (unknown : receipt.status = .unknown) :
    ¬ ∃ later last, HostRun config middle later last ∧ (∀ moment, moment ∈ later -> OverCdp moment.label) ∧
      leftUnknown last.ledger.state actionId receipt.spaceId = true := by
  rintro ⟨later, last, rest, still, left⟩
  rw [HostRun.stays_unknown initial run cdp found unknown rest still] at left
  cases left

theorem lostOnce_run :
    ∃ (last : System) (trace : List (Moment System Label)) (receipt : ActionReceipt),
      HostRun sampleConfig (.fresh sampleConfig) trace last ∧ (∀ moment, moment ∈ trace -> OverCdp moment.label) ∧
        last.ledger.state.actions.get? firstRequest.actionId = some receipt ∧ receipt.status = .unknown := by
  obtain ⟨last, run, passed⟩ := advance_reaches (next sampleConfig) (.fresh sampleConfig) lostOnce
    (fun last => (last.ledger.state.actions.get? firstRequest.actionId).any fun receipt => receipt.status == .unknown)
    (by decide +kernel)
  have cdp := visits_all (next sampleConfig) lostOnce (.fresh sampleConfig)
    (fun moment => moment.label.1.capabilities == cdpCapabilities) (by decide +kernel)
  obtain ⟨receipt, found, unknown⟩ := (Option.any_eq_true _ _).mp passed
  exact ⟨last, _, receipt, run, fun moment inside => ⟨true, beq_iff_eq.mp (cdp moment inside)⟩, found,
    beq_iff_eq.mp unknown⟩

theorem unknown_is_dead_end_once :
    ∃ (middle : System) (receipt : ActionReceipt),
      middle.ledger.state.actions.get? firstRequest.actionId = some receipt ∧ receipt.status = .unknown ∧
        ¬ ∃ later last, HostRun sampleConfig middle later last ∧
          (∀ moment, moment ∈ later -> OverCdp moment.label) ∧
          leftUnknown last.ledger.state firstRequest.actionId receipt.spaceId = true := by
  obtain ⟨middle, trace, receipt, run, cdp, found, unknown⟩ := lostOnce_run
  exact ⟨middle, receipt, found, unknown, unknown_is_dead_end sample_initial run cdp found unknown⟩

theorem unknown_outcome_never_left :
    ¬ ∀ start trace middle actionId receipt, Initial sampleConfig start -> HostRun sampleConfig start trace middle ->
      (∀ moment, moment ∈ trace -> OverCdp moment.label) ->
      middle.ledger.state.actions.get? actionId = some receipt -> receipt.status = .unknown ->
      ∃ later last, HostRun sampleConfig middle later last ∧
        (∀ moment, moment ∈ later -> OverCdp moment.label) ∧
        leftUnknown last.ledger.state actionId receipt.spaceId = true := by
  intro claim
  obtain ⟨middle, trace, receipt, run, cdp, found, unknown⟩ := lostOnce_run
  obtain ⟨later, last, rest, still, left⟩ :=
    claim _ trace middle firstRequest.actionId receipt sample_initial run cdp found unknown
  rw [HostRun.stays_unknown sample_initial run cdp found unknown rest still] at left
  cases left

end Runs

end AgentycHost
