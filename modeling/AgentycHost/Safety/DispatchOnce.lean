import AgentycHost.Effects.Reopening
import AgentycHost.System.Dispatch

set_option autoImplicit false

/-! # At most one dispatch of an action -/

namespace AgentycHost

open Shared

def Call.carries (actionId : ActionId) : Call -> Bool
  | .dispatch carried _ => carried.actionId == actionId
  | _ => false

def Call.awaits (actionId : ActionId) : Call -> Bool
  | .dispatch carried phase => phase.awaits && carried.actionId == actionId
  | _ => false

def pending (system : System) (actionId : ActionId) : Nat := system.calls.count fun _ call => call.awaits actionId

def isSpent (state : LedgerState) (actionId : ActionId) : Bool :=
  (state.actions.get? actionId).any fun receipt => receipt.status != .queued

/-- A step that invokes `bridge.dispatch` for an action. -/
def handsOver (actionId : ActionId) (moment : Moment System Label) : Bool :=
  match moment.label.2 with
  | .sendDispatch call => (moment.before.calls.get? call).any (Call.carries actionId)
  | _ => false

/-- A step after which the ledger no longer has the receipt of an action. -/
def drops (actionId : ActionId) (moment : Moment System Label) : Bool :=
  moment.before.ledger.state.actions.contains actionId && !moment.after.ledger.state.actions.contains actionId

def handed (actionId : ActionId) (trace : List (Moment System Label)) : Nat := trace.countP (handsOver actionId)

def dropped (actionId : ActionId) (trace : List (Moment System Label)) : Nat := trace.countP (drops actionId)

variable {config : HostConfig} {env : Environment} {command : Command} {before after start last : System}
  {result : Except HostError Unit} {actionId : ActionId} {label : Label} {trace : List (Moment System Label)}

section Calls

variable {key : Nat}

theorem pending_setCall {call : Call} (calls : after.calls = before.calls.insert key call) (actionId : ActionId) :
    pending after actionId + ((before.calls.get? key).any (Call.awaits actionId)).toNat =
      pending before actionId + (call.awaits actionId).toNat := by
  unfold pending
  rw [calls]
  exact before.calls.count_insert (fun _ call => call.awaits actionId) key call

theorem pending_endCall (calls : after.calls = before.calls.erase key) (actionId : ActionId) :
    pending after actionId ≤ pending before actionId := by
  have split := before.calls.count_erase (fun _ call => call.awaits actionId) key
  unfold pending
  rw [calls]
  omega

theorem pending_moved {dispatch : DispatchCall} {from_ : DispatchPhase} (phase : DispatchPhase)
    (found : before.calls.get? key = some (.dispatch dispatch from_)) (same : phase.awaits = from_.awaits)
    (calls : after.calls = before.calls.insert key (.dispatch dispatch phase)) :
    pending after actionId ≤ pending before actionId := by
  have split := pending_setCall calls actionId
  rw [found, Option.any_some, Call.awaits, Call.awaits, same] at split
  omega

theorem dispatchStep_pending (taken : DispatchStep config env before command after result) (actionId : ActionId) :
    (handsOver actionId ⟨before, (env, command), after⟩).toNat + pending after actionId ≤ pending before actionId ∨
      handsOver actionId ⟨before, (env, command), after⟩ = false ∧
        pending after actionId ≤ pending before actionId + 1 ∧ isSpent before.ledger.state actionId = false ∧
        isSpent after.ledger.state actionId = true := by
  have quiet : (∀ call, command ≠ .sendDispatch call) -> pending after actionId ≤ pending before actionId ->
      (handsOver actionId ⟨before, (env, command), after⟩).toNat + pending after actionId ≤
        pending before actionId := by
    intro other fewer
    have still : handsOver actionId ⟨before, (env, command), after⟩ = false := by
      unfold handsOver
      split
      · next call sends => exact absurd sends (other call)
      · rfl
    rw [still, Bool.toNat_false, Nat.zero_add]
    exact fewer
  cases taken with
  | returned _ attempt =>
    exact .inl (quiet (by simp) (pending_endCall ((attemptDispatch_same attempt).endCall _) actionId))
  | @begun call started authority leaseEpoch now request next fresh attempt =>
    have calls := (attemptDispatch_same attempt).setCall call
      (.dispatch { actionId := started, request, authority, leaseEpoch, now } .marked)
    have split := pending_setCall calls actionId
    rw [fresh, Option.any_none, Bool.toNat_false, Nat.add_zero] at split
    by_cases same : started = actionId
    · -- this call marks the action, which was queued until now
      subst same
      obtain ⟨_, ⟨state, moved, drained⟩, _, _⟩ := attemptDispatch_ok attempt
      obtain ⟨none, _⟩ | ⟨_, receipt, _, dispatchable, _, marked⟩ := beginDispatch_ok moved
      · cases none
      · have running := SameActions.events (drainEvents_same config.ledger.limits state) (.of_events marked)
        refine .inr ⟨rfl, by simpa [Call.awaits, DispatchPhase.awaits] using split.le, ?_, ?_⟩
        · simp [isSpent, dispatchable.present, dispatchable.queued]
        · change isSpent next.ledger.state started = true
          simp [isSpent, drained, running.actions, markedRunning]
    · have foreign : (started == actionId) = false := beq_false_of_ne same
      simp only [Call.awaits, foreign, Bool.and_false, Bool.toNat_false, Nat.add_zero] at split
      exact .inl (quiet (by simp) split.le)
  | unlimited found => exact .inl (quiet (by simp) (pending_moved .permitted found rfl rfl))
  | acquired found => exact .inl (quiet (by simp) (pending_moved .permitted found rfl rfl))
  | queued found => exact .inl (quiet (by simp) (pending_moved .waiting found rfl rfl))
  | turnedAway => exact .inl (quiet (by simp) (pending_endCall rfl actionId))
  | woken found => exact .inl (quiet (by simp) (pending_moved .permitted found rfl rfl))
  | rechecked found attempt =>
    exact .inl (quiet (by simp) (pending_moved .rechecked found rfl ((attemptRecheck_same attempt).setCall _ _)))
  | @refused call _ _ _ found attempt =>
    have calls := (attemptRecheck_same attempt).calls
    exact .inl (quiet (by simp) (pending_endCall (by rw [endDispatch_calls call, calls]) actionId))
  | @sent call dispatch found =>
    have split := pending_setCall (show (before.setCall call (.dispatch dispatch .sent)).calls = _ from rfl) actionId
    rw [found, Option.any_some] at split
    refine .inl (le_of_eq ?_)
    simpa [handsOver, found, Call.awaits, Call.carries, DispatchPhase.awaits, Nat.add_comm] using split
  | @answered _ dispatch answer proof found =>
    exact .inl (quiet (by simp) (pending_moved
      (.answered (verifyFinalPostcondition dispatch.request (dispatchOutcome answer) proof)) found rfl rfl))
  | @finished call _ _ _ _ found committed =>
    have calls := (commitRefs_same committed).calls
    exact .inl (quiet (by simp) (pending_endCall (by rw [endDispatch_calls call, calls]) actionId))

end Calls

section Runs

variable {receipt : ActionReceipt}

/-- A step that wrote a file without the receipt of an action, whose space was released. -/
def Prunes (actionId : ActionId) (moment : Moment System Label) : Prop :=
  (∃ authority maxCount, moment.label.2 = .pruneReleasedSpaces authority maxCount) ∧
    ∃ receipt, moment.before.ledger.state.actions.get? actionId = some receipt ∧
      (moment.before.ledger.state.spaces.get? receipt.spaceId).map (·.lifecycle) = some .released ∧
      moment.after.ledger.disk.actions.get? actionId = none ∧
      moment.after.ledger.disk.spaces.get? receipt.spaceId = none

theorem HostRun.receipt_later (run : HostRun config start trace before) (initial : Initial config start)
    (taken : next config label before = some after) (found : before.ledger.state.actions.get? actionId = some receipt) :
    (∃ later, after.ledger.state.actions.get? actionId = some later ∧ LaterReceipt receipt later) ∨
      after.ledger.state.actions.get? actionId = none ∧
        ∃ cause, cause ∈ (⟨before, label, after⟩ :: trace) ∧ Prunes actionId cause := by
  obtain moved | ⟨failures, state, _, opened, rfl⟩ := next_ledger taken
  · generalize changed : after.ledger = ledger at moved
    cases moved with
    | same => exact .inl ⟨receipt, found, .refl receipt⟩
    | written => exact .inl ⟨receipt, found, .refl receipt⟩
    | committed made =>
      obtain kept | ⟨gone, prune, released, emptied⟩ := made.receipt_later found
      · exact .inl kept
      · refine .inr ⟨gone, _, List.mem_cons_self, prune, receipt, found, released, ?_, ?_⟩ <;> rw [changed]
        · exact gone
        · exact emptied
  · -- a restart reads the file, which is this state or one step ahead of it
    have disk := (run.sound initial).disk
    have reopen : ∀ {stored : ActionReceipt}, before.ledger.disk.actions.get? actionId = some stored ->
        LaterReceipt receipt stored ->
        ∃ later, state.actions.get? actionId = some later ∧ LaterReceipt receipt later := by
      intro stored present early
      obtain ⟨later, there, late⟩ := reopenLedger_later_receipt disk opened present
      exact ⟨later, there, early.trans late⟩
    obtain same | ⟨cause, inside, about, wrote, made⟩ := run.ahead initial
    · exact .inl (reopen (same ▸ found) (.refl receipt))
    · obtain ⟨stored, present, early⟩ | ⟨gone, prune, released, emptied⟩ := made.receipt_later found
      · exact .inl (reopen present early)
      · have absent : state.actions.get? actionId = none :=
          (reopenLedger_keeps (fun state => state.actions.get? actionId = none)
            (fun _ _ _ none opened => by rw [openLedger_actions opened, none]; rfl) disk gone opened).2
        refine .inr ⟨absent, cause, List.mem_cons_of_mem _ inside, prune, receipt, ?_, ?_, ?_, ?_⟩
        · rw [about, found]
        · rw [about, released]
        · rw [wrote, gone]
        · rw [wrote, emptied]

theorem HostRun.spent_or_dropped (run : HostRun config start trace before) (initial : Initial config start)
    (taken : next config label before = some after) (actionId : ActionId) :
    (isSpent before.ledger.state actionId).toNat ≤
      (drops actionId ⟨before, label, after⟩).toNat + (isSpent after.ledger.state actionId).toNat := by
  cases found : before.ledger.state.actions.get? actionId with
  | none => simp [isSpent, found]
  | some receipt =>
    obtain ⟨later, there, life⟩ | ⟨gone, _⟩ := run.receipt_later initial taken found
    · by_cases queued : receipt.status = .queued
      · simp [isSpent, found, queued]
      · have out : (later.status != .queued) = true := bne_iff_ne.mpr (life.left queued)
        simp [isSpent, found, there, out, Bool.toNat_le, Nat.le_add_left_of_le]
    · simp [isSpent, drops, Table.contains, found, gone, Bool.toNat_le]

theorem HostRun.account_step (run : HostRun config start trace before) (initial : Initial config start)
    (taken : next config label before = some after) (actionId : ActionId) :
    (handsOver actionId ⟨before, label, after⟩).toNat + pending after actionId +
        (isSpent before.ledger.state actionId).toNat ≤
      pending before actionId + (drops actionId ⟨before, label, after⟩).toNat +
        (isSpent after.ledger.state actionId).toNat := by
  have spent := run.spent_or_dropped initial taken actionId
  obtain ⟨_, replied⟩ := next_step taken
  have silent : CallKind.dispatch ∉ label.2.kinds ∨ (∃ failures, label.2 = .restart failures) ->
      handsOver actionId ⟨before, label, after⟩ = false := by
    intro other
    unfold handsOver
    split
    · next call sends =>
      dsimp only at sends
      simp [sends, Command.kinds] at other
    · rfl
  obtain dispatched | ⟨other, untouched⟩ | ⟨failures, state, restart, _, rfl⟩ := step_dispatch replied
  · obtain handover | ⟨quiet, more, queued, running⟩ := dispatchStep_pending dispatched actionId
    · have weight : (handsOver actionId ⟨before, label, after⟩).toNat + pending after actionId ≤
          pending before actionId := handover
      omega
    · have still : handsOver actionId ⟨before, label, after⟩ = false := quiet
      rw [still, queued, running, Bool.toNat_false, Bool.toNat_true]
      omega
  · have same : pending after actionId = pending before actionId := by
      refine Table.count_congr fun key call awaits => untouched.calls key call ?_
      cases call with
      | dispatch => rfl
      | _ => cases awaits
    rw [silent (.inl other), same, Bool.toNat_false]
    omega
  · have idle : pending (System.opened config state) actionId = 0 := rfl
    rw [silent (.inr ⟨failures, restart⟩), idle, Bool.toNat_false]
    omega

theorem HostRun.account (run : HostRun config start trace last) (initial : Initial config start)
    (actionId : ActionId) :
    handed actionId trace + pending last actionId ≤
      dropped actionId trace + (isSpent last.ledger.state actionId).toNat := by
  induction run with
  | nil =>
    obtain ⟨rfl, _⟩ := initial
    exact Nat.zero_le _
  | step earlier taken ih =>
    have one := HostRun.account_step earlier initial taken actionId
    have weight : ∀ counts : Bool, (if counts = true then 1 else 0) = counts.toNat := by decide
    simp only [handed, dropped, List.countP_cons, weight] at ih ⊢
    omega

theorem HostRun.kept {middle : System} {later : List (Moment System Label)} (run : HostRun config start trace middle)
    (initial : Initial config start) (rest : HostRun config middle later last)
    (found : middle.ledger.state.actions.get? actionId = some receipt) (whole : dropped actionId later = 0) :
    ∃ final, last.ledger.state.actions.get? actionId = some final ∧ LaterReceipt receipt final := by
  induction rest with
  | nil => exact ⟨receipt, found, .refl receipt⟩
  | step earlier taken ih =>
    rw [dropped, List.countP_cons, Nat.add_eq_zero_iff] at whole
    obtain ⟨present, there, early⟩ := ih whole.1
    obtain ⟨next, after, late⟩ | ⟨gone, _⟩ := HostRun.receipt_later (run.append earlier) initial taken there
    · exact ⟨next, after, early.trans late⟩
    · simp [drops, Table.contains, there, gone] at whole

theorem HostRun.dropped_cause {moment : Moment System Label} (run : HostRun config start trace last)
    (initial : Initial config start) (inside : moment ∈ trace) (drop : drops actionId moment = true) :
    ∃ cause, cause ∈ trace ∧ Prunes actionId cause := by
  obtain ⟨earlier, later, before, taken, rfl⟩ := run.at_moment inside
  rw [drops, Bool.and_eq_true, Bool.not_eq_true', Table.contains_iff] at drop
  obtain ⟨⟨receipt, found⟩, absent⟩ := drop
  obtain ⟨next, there, _⟩ | ⟨_, cause, member, prunes⟩ := HostRun.receipt_later before initial taken found
  · simp [Table.contains, there] at absent
  · exact ⟨cause, List.mem_append_right later member, prunes⟩

/-- Along every run, an action is handed to the bridge once, and once more for each time its receipt
was dropped; a receipt is dropped because it was pruned with its released space; and as long as it
is not, it never returns to its queue and never changes after its end. -/
theorem dispatched_at_most_once {middle : System} {later : List (Moment System Label)}
    (initial : Initial config start) (run : HostRun config start trace middle)
    (rest : HostRun config middle later last) (actionId : ActionId) :
    handed actionId (later ++ trace) ≤ 1 + dropped actionId (later ++ trace) ∧
      (∀ moment, moment ∈ later ++ trace -> drops actionId moment = true ->
        ∃ cause, cause ∈ later ++ trace ∧ Prunes actionId cause) ∧
      ∀ receipt, middle.ledger.state.actions.get? actionId = some receipt -> dropped actionId later = 0 ->
        ∃ final, last.ledger.state.actions.get? actionId = some final ∧ LaterReceipt receipt final := by
  have whole := run.append rest
  refine ⟨?_, fun moment inside drop => HostRun.dropped_cause whole initial inside drop,
    fun receipt found kept => HostRun.kept run initial rest found kept⟩
  have account := HostRun.account whole initial actionId
  have most := (isSpent last.ledger.state actionId).toNat_le
  omega

theorem dispatched_at_most_once_over_restart :
    ∃ (middle last : System) (receipt final : ActionReceipt),
      middle.ledger.state.actions.get? firstRequest.actionId = some receipt ∧ receipt.status = .succeeded ∧
        last.ledger.state.actions.get? firstRequest.actionId = some final ∧ final = receipt := by
  obtain ⟨middle, last, later, early, late, passed⟩ := HostRun.of_advances sampleConfig (.fresh sampleConfig) settledOnce
    [(sampleEnv, .restart 0)] (fun middle last later => (middle.ledger.state.actions.get? firstRequest.actionId).any
      (fun receipt => receipt.status == .succeeded) && dropped firstRequest.actionId later.reverse == 0) (by decide +kernel)
  rw [Bool.and_eq_true, beq_iff_eq] at passed
  obtain ⟨receipt, found, succeeded⟩ := (Option.any_eq_true _ _).mp passed.1
  rw [beq_iff_eq] at succeeded
  obtain ⟨_, _, kept⟩ := dispatched_at_most_once sample_initial early late firstRequest.actionId
  obtain ⟨final, there, life⟩ := kept receipt found passed.2
  exact ⟨middle, last, receipt, final, found, succeeded, there, life.final (by rw [succeeded]; rfl)⟩

end Runs

end AgentycHost
