import AgentycHost.Effects.Reopening
import AgentycHost.System.Dispatch

set_option autoImplicit false

/-! # Dispatches in progress and the ledger -/

namespace AgentycHost

open Shared

structure HeldUnder (state : LedgerState) (dispatch : DispatchCall) (space : SpaceDescriptor) (lease : Lease) :
    Prop where
  found : state.spaces.get? dispatch.request.spaceId = some space
  owned : space.lifecycle = .agentOwned
  leased : space.lease = some lease
  active : lease.state = .active
  unexpired : dispatch.now < lease.expiresAt
  epoch : lease.leaseEpoch = dispatch.leaseEpoch
  principal : lease.principalId = dispatch.authority.principalId
  holder : state.leaseHolders.get? dispatch.request.spaceId = some dispatch.authority.connectionEpoch

structure Begun (moment : Moment System Label) (key : Nat) (dispatch : DispatchCall) : Prop where
  made_by : moment.label.2 =
    .dispatchAction key dispatch.actionId dispatch.authority dispatch.leaseEpoch dispatch.now
  dispatchable : ∃ receipt, Dispatchable moment.before.ledger.state dispatch.actionId dispatch.authority
    dispatch.leaseEpoch dispatch.now dispatch.request receipt
  held : ∃ space lease, HeldUnder moment.before.ledger.state dispatch space lease

def Carries (dispatch : DispatchCall) (receipt : ActionReceipt) : Prop :=
  receipt.spaceId = dispatch.request.spaceId ∧ receipt.pageId = dispatch.request.pageId ∧
    receipt.leaseEpoch = dispatch.request.leaseEpoch ∧ receipt.operation = dispatch.request.operation

def Carried (state : LedgerState) (dispatch : DispatchCall) : Prop :=
  (∃ receipt, state.actions.get? dispatch.actionId = some receipt ∧ Carries dispatch receipt) ∨
    state.spaces.get? dispatch.request.spaceId = none ∧
      dispatch.request.spaceId.number ≤ state.nextSpaceNumber

variable {config : HostConfig} {label : Label} {before after start last : System} {key : Nat}
  {dispatch : DispatchCall} {phase : DispatchPhase} {trace : List (Moment System Label)} {receipt : ActionReceipt}
  {state : LedgerState} {actionId : ActionId} {request : ActionRequest} {authority : AuthorityTicket}
  {leaseEpoch : LeaseEpoch} {now : Timestamp} {command : Command} {calls : Table Nat Call}

theorem Dispatchable.held
    (dispatchable : Dispatchable state dispatch.actionId dispatch.authority dispatch.leaseEpoch dispatch.now
      dispatch.request receipt) : ∃ space lease, HeldUnder state dispatch space lease := by
  obtain ⟨space, lease, allowed⟩ := authorizeSpace_ok.mp dispatchable.allowed
  exact ⟨space, lease, allowed.found, allowed.admits rfl, allowed.leased, allowed.active, allowed.unexpired,
    allowed.epoch, allowed.principal, allowed.holder⟩

theorem Dispatchable.fields {config : LedgerConfig}
    (dispatchable : Dispatchable state actionId authority leaseEpoch now request receipt) (valid : Valid config state) :
    request.spaceId = receipt.spaceId ∧ request.pageId = receipt.pageId ∧
      request.leaseEpoch = receipt.leaseEpoch ∧ request.operation = receipt.operation := by
  obtain ⟨found, _, checked⟩ := valid.checked dispatchable.present
  cases dispatchable.requested.symm.trans checked.requested
  exact checked.fields

theorem next_carried (taken : next config label before = some after)
    (found : after.calls.get? key = some (.dispatch dispatch phase)) :
    (∃ earlier, before.calls.get? key = some (.dispatch dispatch earlier) ∧
        (phase.awaits = true -> earlier.awaits = true)) ∨
      label.2 = .dispatchAction key dispatch.actionId dispatch.authority dispatch.leaseEpoch dispatch.now ∧
        ∃ next, after.ledger = next.ledger ∧
          CommittedRefs config (beginDispatch config.ledger.codec dispatch.actionId dispatch.authority
            dispatch.leaseEpoch dispatch.now) before next (some dispatch.request) := by
  obtain ⟨_, replied⟩ := next_step taken
  obtain dispatched | ⟨_, untouched⟩ | ⟨_, _, _, _, rfl⟩ := step_dispatch replied
  · exact dispatched.carried found
  · exact .inl ⟨phase, (untouched.calls key _ rfl).mp found, id⟩
  · simp [System.opened] at found

theorem begun_ok {next : System}
    (committed : CommittedRefs config (beginDispatch config.ledger.codec actionId authority leaseEpoch now) before next
      (some request)) :
    ∃ receipt, Dispatchable before.ledger.state actionId authority leaseEpoch now request receipt ∧
      (isMutating request.operation = true ->
        (before.ledger.state.actions.any fun _ receipt => runsMutation request.spaceId receipt) = false) ∧
      SameActions (markedRunning before.ledger.state actionId request.spaceId receipt) next.ledger.state := by
  obtain ⟨state, moved, drained⟩ := committed.run
  obtain ⟨none, _⟩ | ⟨_, receipt, same, dispatchable, alone, marked⟩ := beginDispatch_ok moved
  · cases none
  · cases same
    refine ⟨receipt, dispatchable, alone, ?_⟩
    rw [drained]
    exact SameActions.events (drainEvents_same config.ledger.limits state) (.of_events marked)

theorem HostRun.begun (run : HostRun config start trace last) (initial : Initial config start)
    (found : last.calls.get? key = some (.dispatch dispatch phase)) :
    ∃ moment, moment ∈ trace ∧ Begun moment key dispatch := by
  induction run generalizing phase with
  | nil =>
    obtain ⟨rfl, _⟩ := initial
    simp [System.fresh, System.opened] at found
  | step earlier taken ih =>
    obtain ⟨_, present, _⟩ | ⟨made_by, _, _, committed⟩ := next_carried taken found
    · obtain ⟨moment, inside, begun⟩ := ih present
      exact ⟨moment, List.mem_cons_of_mem _ inside, begun⟩
    · obtain ⟨receipt, dispatchable, _⟩ := begun_ok committed
      exact ⟨_, List.mem_cons_self, made_by, ⟨receipt, dispatchable⟩, dispatchable.held⟩

theorem Carries.later {later : ActionReceipt} (carries : Carries dispatch receipt) (same : receipt.SameRequest later) :
    Carries dispatch later :=
  ⟨same.spaceId.trans carries.1, same.pageId.trans carries.2.1, same.leaseEpoch.trans carries.2.2.1,
    same.operation.trans carries.2.2.2⟩

theorem LedgerStep.gone {config : LedgerConfig} {before after : LedgerState} {spaceId : SpaceId}
    (valid : Valid config before) (taken : LedgerStep config calls command before after)
    (gone : before.spaces.get? spaceId = none) (known : spaceId.number ≤ before.nextSpaceNumber) :
    after.spaces.get? spaceId = none := by
  have move := (taken.spaceEffect valid).standing spaceId
  have absent : before.standing spaceId = none := by simp [LedgerState.standing, gone]
  rw [absent] at move
  generalize standing : after.standing spaceId = new at move
  cases move with
  | keep => simpa [LedgerState.standing] using standing
  | created number => omega

theorem LedgerStep.carried {config : LedgerConfig} {before after : LedgerState} (valid : Valid config before)
    (numbered : SpacesNumbered before) (taken : LedgerStep config calls command before after)
    (carried : Carried before dispatch) : Carried after dispatch := by
  have effect := taken.spaceEffect valid
  obtain ⟨receipt, found, carries⟩ | ⟨gone, known⟩ := carried
  · obtain ⟨later, there, follows⟩ | ⟨_, _, _, emptied⟩ := taken.receipt_later found
    · exact .inl ⟨later, there, carries.later follows.same⟩
    · obtain ⟨_, space, checked⟩ := valid.checked found
      have present := numbered receipt.spaceId (by simp [standing_some checked.located])
      rw [carries.1] at present emptied
      exact .inr ⟨emptied, present.trans effect.numbers⟩
  · exact .inr ⟨taken.gone valid gone known, known.trans effect.numbers⟩

theorem HostRun.carried (run : HostRun config start trace last) (initial : Initial config start)
    (found : last.calls.get? key = some (.dispatch dispatch phase)) : Carried last.ledger.state dispatch := by
  induction run generalizing phase with
  | nil =>
    obtain ⟨rfl, _⟩ := initial
    simp [System.fresh, System.opened] at found
  | @step trace before after label earlier taken ih =>
    have valid := (HostRun.sound earlier initial).valid
    obtain ⟨_, present, _⟩ | ⟨_, _, same, committed⟩ := next_carried taken found
    · have carried := ih present
      obtain moved | ⟨_, state, _, _, rfl⟩ := next_ledger taken
      · generalize after.ledger = ledger at moved
        cases moved with
        | same => exact carried
        | committed made => exact made.carried valid (HostRun.numbered earlier initial) carried
        | written => exact carried
      · simp [System.opened] at found
    · obtain ⟨receipt, dispatchable, _, marked⟩ := begun_ok committed
      obtain ⟨space, page, epoch, operation⟩ := dispatchable.fields valid
      refine .inl ⟨{ receipt with status := .running, dispatchState := .dispatched }, ?_, space.symm, page.symm,
        epoch.symm, operation.symm⟩
      rw [same, marked.actions, markedRunning, Table.get?_insert_self]

end AgentycHost
