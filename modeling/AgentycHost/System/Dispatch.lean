import AgentycHost.System.Calls

set_option autoImplicit false

/-!
# The phases of a dispatch

What each command of `dispatch_action` does to its call, the permits and the
ledger, said once for all the arguments about dispatches in progress.
-/

namespace AgentycHost

open Shared

variable {config : HostConfig} {env : Environment} {command : Command} {before after : System}
  {result : Except HostError Unit} {call : Nat} {next : System} {A : Type} {error : HostError}
  {check : Except HostError Unit} {actionId : ActionId} {authority : AuthorityTicket} {leaseEpoch : LeaseEpoch}
  {now : Timestamp} {dispatch : DispatchCall} {kind : CallKind}

def DispatchPhase.awaits : DispatchPhase -> Bool
  | .marked | .waiting | .permitted | .rechecked => true
  | .sent | .answered _ => false

inductive DispatchStep (config : HostConfig) (env : Environment) (before : System) :
    Command -> System -> Except HostError Unit -> Prop where
  -- the first commit failed, or found the action at its end
  | returned {call : Nat} {actionId : ActionId} {authority : AuthorityTicket} {leaseEpoch : LeaseEpoch}
      {now : Timestamp} {next : System} {outcome : Except HostError (Option ActionRequest)}
      (fresh : before.calls.get? call = none)
      (attempt : attemptDispatch config env actionId authority leaseEpoch now before = (next, outcome))
      (ended : ∀ request, outcome ≠ .ok (some request)) :
      DispatchStep config env before (.dispatchAction call actionId authority leaseEpoch now) (next.endCall call)
        (outcome.map fun _ => ())
  | begun {call : Nat} {actionId : ActionId} {authority : AuthorityTicket} {leaseEpoch : LeaseEpoch}
      {now : Timestamp} {request : ActionRequest} {next : System} (fresh : before.calls.get? call = none)
      (attempt : attemptDispatch config env actionId authority leaseEpoch now before = (next, .ok (some request))) :
      DispatchStep config env before (.dispatchAction call actionId authority leaseEpoch now)
        (next.setCall call (.dispatch { actionId, request, authority, leaseEpoch, now } .marked)) (.ok ())
  | unlimited {call : Nat} {dispatch : DispatchCall} (found : before.calls.get? call = some (.dispatch dispatch .marked))
      (reading : isMutating dispatch.request.operation = false) :
      DispatchStep config env before (.acquirePermit call)
        (before.setCall call (.dispatch dispatch .permitted)) (.ok ())
  | acquired {call : Nat} {dispatch : DispatchCall} {scheduler : Scheduler}
      (found : before.calls.get? call = some (.dispatch dispatch .marked))
      (mutating : isMutating dispatch.request.operation = true)
      (granted : before.scheduler.acquireMutation dispatch.request.spaceId call = (scheduler, .permit)) :
      DispatchStep config env before (.acquirePermit call)
        ({ before with scheduler }.setCall call (.dispatch dispatch .permitted)) (.ok ())
  | queued {call : Nat} {dispatch : DispatchCall} {scheduler : Scheduler}
      (found : before.calls.get? call = some (.dispatch dispatch .marked))
      (mutating : isMutating dispatch.request.operation = true)
      (waits : before.scheduler.acquireMutation dispatch.request.spaceId call = (scheduler, .waiting)) :
      DispatchStep config env before (.acquirePermit call)
        ({ before with scheduler }.setCall call (.dispatch dispatch .waiting)) (.ok ())
  | turnedAway {call : Nat} {dispatch : DispatchCall} {scheduler : Scheduler} {kind : BackpressureKind}
      (found : before.calls.get? call = some (.dispatch dispatch .marked))
      (mutating : isMutating dispatch.request.operation = true)
      (full : before.scheduler.acquireMutation dispatch.request.spaceId call = (scheduler, .backpressure kind)) :
      DispatchStep config env before (.acquirePermit call) ({ before with scheduler }.endCall call)
        (.error (backpressure kind))
  | woken {call : Nat} {dispatch : DispatchCall} {scheduler : Scheduler}
      (found : before.calls.get? call = some (.dispatch dispatch .waiting))
      (granted : before.scheduler.wake dispatch.request.spaceId call = some scheduler) :
      DispatchStep config env before (.wakeUp call)
        ({ before with scheduler }.setCall call (.dispatch dispatch .permitted)) (.ok ())
  | rechecked {call : Nat} {dispatch : DispatchCall} {next : System}
      (found : before.calls.get? call = some (.dispatch dispatch .permitted))
      (attempt : attemptRecheck config env dispatch before = (next, .ok ())) :
      DispatchStep config env before (.recheckDispatch call)
        (next.setCall call (.dispatch dispatch .rechecked)) (.ok ())
  | refused {call : Nat} {dispatch : DispatchCall} {next : System} {error : HostError}
      (found : before.calls.get? call = some (.dispatch dispatch .permitted))
      (attempt : attemptRecheck config env dispatch before = (next, .error error)) :
      DispatchStep config env before (.recheckDispatch call) (endDispatch call dispatch next) (.error error)
  | sent {call : Nat} {dispatch : DispatchCall}
      (found : before.calls.get? call = some (.dispatch dispatch .rechecked)) :
      DispatchStep config env before (.sendDispatch call) (before.setCall call (.dispatch dispatch .sent)) (.ok ())
  | answered {call : Nat} {dispatch : DispatchCall} {answer : Except CoreError BridgeDispatchResult}
      {proof : Option (Generation × ContentHash)} (found : before.calls.get? call = some (.dispatch dispatch .sent)) :
      DispatchStep config env before (.dispatchAnswered call answer proof)
        (before.setCall call (.dispatch dispatch
          (.answered (verifyFinalPostcondition dispatch.request (dispatchOutcome answer) proof)))) (.ok ())
  | finished {call : Nat} {dispatch : DispatchCall} {outcome : BridgeDispatchResult} {next : System}
      {recorded : Except HostError ActionReceipt}
      (found : before.calls.get? call = some (.dispatch dispatch (.answered outcome)))
      (committed : before.commitRefs config env
        (finishDispatch before.lifecycle dispatch.actionId dispatch.request dispatch.authority outcome dispatch.now)
          = (next, recorded)) :
      DispatchStep config env before (.finishDispatch call) (endDispatch call dispatch next)
        (recorded.map fun _ => ())

theorem dispatchStep_cases (taken : dispatchStep config env command before = some (after, result)) :
    DispatchStep config env before command after result := by
  unfold dispatchStep at taken
  split at taken
  · next call actionId authority leaseEpoch now =>
    split_ifs at taken with absent
    have fresh : before.calls.get? call = none := by simpa [Table.contains] using absent
    rw [Option.some.injEq] at taken
    rcases attempt : attemptDispatch config env actionId authority leaseEpoch now before with ⟨next, error | _ | request⟩
    all_goals
      rw [attempt] at taken
      cases taken
    · exact .returned fresh attempt (by simp)
    · exact .returned fresh attempt (by simp)
    · exact .begun fresh attempt
  · split at taken
    next dispatch found =>
      unfold acquirePermit at taken
      split_ifs at taken with mutating
      · rcases asked : before.scheduler.acquireMutation dispatch.request.spaceId _ with ⟨scheduler, _ | _ | kind⟩
        all_goals
          rw [asked] at taken
          cases taken
        · exact .acquired found mutating asked
        · exact .queued found mutating asked
        · exact .turnedAway found mutating asked
      · cases taken
        exact .unlimited found (by simpa using mutating)
    · cases taken
  · split at taken
    next found =>
      obtain ⟨scheduler, granted, same⟩ := Option.map_eq_some_iff.mp taken
      cases same
      exact .woken found granted
    · cases taken
  · split at taken
    next dispatch found =>
      unfold recheck at taken
      rcases attempt : attemptRecheck config env dispatch before with ⟨next, error | _⟩
      all_goals
        rw [attempt] at taken
        cases taken
      · exact .refused found attempt
      · exact .rechecked found attempt
    · cases taken
  · split at taken
    next found =>
      cases taken
      exact .sent found
    · cases taken
  · split at taken
    next found =>
      cases taken
      exact .answered found
    · cases taken
  · split at taken
    next found =>
      cases taken
      exact .finished found rfl
    · cases taken
  · cases taken

theorem sendDispatch_cases (taken : step config env (.sendDispatch call) before = some (after, result)) :
    ∃ dispatch, before.calls.get? call = some (.dispatch dispatch .rechecked) ∧
      after = before.setCall call (.dispatch dispatch .sent) := by
  have phases := dispatchStep_cases (show dispatchStep config env (.sendDispatch call) before = _ from taken)
  generalize sending : Command.sendDispatch call = command at phases
  cases phases with
  | sent found =>
    cases sending
    exact ⟨_, found, rfl⟩
  | _ => cases sending

theorem finishDispatch_cases (taken : step config env (.finishDispatch call) before = some (after, result)) :
    ∃ dispatch outcome next recorded, before.calls.get? call = some (.dispatch dispatch (.answered outcome)) ∧
      before.commitRefs config env (finishDispatch before.lifecycle dispatch.actionId dispatch.request
        dispatch.authority outcome dispatch.now) = (next, recorded) ∧
      after = endDispatch call dispatch next ∧ result = recorded.map fun _ => () := by
  have phases := dispatchStep_cases (show dispatchStep config env (.finishDispatch call) before = _ from taken)
  generalize finishing : Command.finishDispatch call = command at phases
  cases phases with
  | finished found committed =>
    cases finishing
    exact ⟨_, _, _, _, found, committed, rfl, rfl⟩
  | _ => cases finishing

structure SameCalls (before after : System) : Prop where
  lifecycle : after.lifecycle = before.lifecycle
  scheduler : after.scheduler = before.scheduler
  calls : after.calls = before.calls

theorem SameCalls.setCall (same : SameCalls before after) (key : Nat) (call : Call) :
    (after.setCall key call).calls = before.calls.insert key call := by
  rw [System.setCall, same.calls]

theorem SameCalls.endCall (same : SameCalls before after) (key : Nat) :
    (after.endCall key).calls = before.calls.erase key := by
  rw [System.endCall, same.calls]

structure CommittedRefs {A : Type} (config : HostConfig) (transition : RefTransition A) (before next : System)
    (value : A) : Prop extends SameCalls before next where
  run : ∃ state, (transition before.registry before.ledger.state).2 = .ok (value, state) ∧
    next.ledger.state = drainEvents config.ledger.limits state
  disk : next.ledger.disk = next.ledger.state
  registry : next.registry = (transition before.registry before.ledger.state).1

theorem commitRefs_ok {transition : RefTransition A} {value : A}
    (committed : before.commitRefs config env transition = (next, .ok value)) :
    CommittedRefs config transition before next value := by
  unfold System.commitRefs at committed
  obtain ⟨error, failed⟩ | ⟨found, state, last, moved, drained, _, done | ⟨error, failed⟩⟩ :=
    before.ledger.update_cases config.ledger env.io fun state => (transition before.registry state).2
  · rw [failed] at committed
    cases committed
  · have locked : env.io ≠ .lockLost := by
      intro lost
      simp [Ledger.update, lost] at done
    rw [done, if_neg locked] at committed
    cases committed
    exact ⟨⟨rfl, rfl, rfl⟩, ⟨state, moved, drained⟩, rfl, rfl⟩
  · rw [failed] at committed
    cases committed

theorem commitRefs_error {transition : RefTransition A}
    (committed : before.commitRefs config env transition = (next, .error error)) :
    next.ledger.state = before.ledger.state := by
  unfold System.commitRefs at committed
  obtain ⟨_, failed⟩ | ⟨found, state, last, moved, _, _, done | ⟨_, failed⟩⟩ :=
    before.ledger.update_cases config.ledger env.io fun state => (transition before.registry state).2
  · rw [failed] at committed
    cases committed
    rfl
  · rw [done] at committed
    cases committed
  · rw [failed] at committed
    cases committed
    rfl

theorem afterCheck_error {reply : Reply A} (failed : before.afterCheck check reply = (next, .error error)) :
    next = before ∨ reply = (next, .error error) := by
  cases check with
  | error _ =>
    cases failed
    exact .inl rfl
  | ok => exact .inr failed

theorem afterCheck_ok {reply : Reply A} {value : A} (passed : before.afterCheck check reply = (next, .ok value)) :
    check = .ok () ∧ reply = (next, .ok value) := by
  cases check with
  | error _ => cases passed
  | ok => exact ⟨rfl, passed⟩

theorem attemptDispatch_ok {request : Option ActionRequest}
    (attempt : attemptDispatch config env actionId authority leaseEpoch now before = (next, .ok request)) :
    CommittedRefs config (beginDispatch config.ledger.codec actionId authority leaseEpoch now) before next request :=
  commitRefs_ok (afterCheck_ok attempt).2

theorem commitRefs_same {transition : RefTransition A} {outcome : Except HostError A}
    (committed : before.commitRefs config env transition = (next, outcome)) : SameCalls before next := by
  cases committed
  exact ⟨rfl, rfl, rfl⟩

theorem afterCheck_same {reply : Reply A} {outcome : Except HostError A} (same : SameCalls before reply.1)
    (passed : before.afterCheck check reply = (next, outcome)) : SameCalls before next := by
  cases check with
  | error _ =>
    cases passed
    exact ⟨rfl, rfl, rfl⟩
  | ok =>
    cases passed
    exact same

theorem attemptDispatch_same {outcome : Except HostError (Option ActionRequest)}
    (attempt : attemptDispatch config env actionId authority leaseEpoch now before = (next, outcome)) :
    SameCalls before next :=
  afterCheck_same (commitRefs_same rfl) attempt

theorem attemptRecheck_same {outcome : Except HostError Unit}
    (attempt : attemptRecheck config env dispatch before = (next, outcome)) : SameCalls before next :=
  afterCheck_same (commitRefs_same rfl) attempt

theorem endDispatch_calls (call : Nat) (dispatch : DispatchCall) :
    (endDispatch call dispatch before).calls = before.calls.erase call := by
  unfold endDispatch
  split_ifs <;> rfl

theorem DispatchStep.at_key (taken : DispatchStep config env before command after result) :
    ∃ key, (∀ call, before.calls.get? key = some call -> call.kind = .dispatch) ∧
      (after.calls = before.calls.erase key ∨
        ∃ dispatch phase, after.calls = before.calls.insert key (.dispatch dispatch phase)) := by
  have occupied : ∀ {key : Nat} {present : Call}, before.calls.get? key = some present ->
      present.kind = .dispatch -> ∀ call, before.calls.get? key = some call -> call.kind = .dispatch := by
    intro key present found kind call again
    cases found.symm.trans again
    exact kind
  cases taken with
  | @returned call _ _ _ _ _ _ fresh attempt =>
    refine ⟨call, by simp [fresh], .inl ?_⟩
    rw [System.endCall, (attemptDispatch_same attempt).calls]
  | @begun call _ _ _ _ _ _ fresh attempt =>
    exact ⟨call, by simp [fresh], .inr ⟨_, _, (attemptDispatch_same attempt).setCall call _⟩⟩
  | @unlimited call _ found => exact ⟨call, occupied found rfl, .inr ⟨_, _, rfl⟩⟩
  | @acquired call _ _ found => exact ⟨call, occupied found rfl, .inr ⟨_, _, rfl⟩⟩
  | @queued call _ _ found => exact ⟨call, occupied found rfl, .inr ⟨_, _, rfl⟩⟩
  | @turnedAway call _ _ _ found => exact ⟨call, occupied found rfl, .inl rfl⟩
  | @woken call _ _ found => exact ⟨call, occupied found rfl, .inr ⟨_, _, rfl⟩⟩
  | @rechecked call _ _ found attempt =>
    exact ⟨call, occupied found rfl, .inr ⟨_, _, (attemptRecheck_same attempt).setCall call _⟩⟩
  | @refused call _ _ _ found attempt =>
    refine ⟨call, occupied found rfl, .inl ?_⟩
    rw [endDispatch_calls, (attemptRecheck_same attempt).calls]
  | @sent call _ found => exact ⟨call, occupied found rfl, .inr ⟨_, _, rfl⟩⟩
  | @answered call _ _ _ found => exact ⟨call, occupied found rfl, .inr ⟨_, _, rfl⟩⟩
  | @finished call _ _ _ _ found committed =>
    refine ⟨call, occupied found rfl, .inl ?_⟩
    rw [endDispatch_calls, (commitRefs_same committed).calls]

theorem DispatchStep.untouched (other : kind ≠ .dispatch)
    (taken : DispatchStep config env before command after result) : Untouched kind before after := by
  obtain ⟨key, present, change⟩ := taken.at_key
  have old : ∀ call, before.calls.get? key = some call -> call.kind ≠ kind :=
    fun call found same => other (same ▸ present call found)
  refine ⟨fun at_ call same => ?_, fun dispatch => absurd dispatch other⟩
  obtain erased | ⟨dispatch, phase, inserted⟩ := change
  · rw [erased]
    exact (Untouched.endCall old).calls at_ call same
  · rw [inserted]
    have set : Untouched kind before (before.setCall key (.dispatch dispatch phase)) := .setCall old other.symm
    exact set.calls at_ call same

theorem DispatchStep.carried {key : Nat} {phase : DispatchPhase}
    (taken : DispatchStep config env before command after result)
    (found : after.calls.get? key = some (.dispatch dispatch phase)) :
    (∃ earlier, before.calls.get? key = some (.dispatch dispatch earlier) ∧
        (phase.awaits = true -> earlier.awaits = true)) ∨
      command = .dispatchAction key dispatch.actionId dispatch.authority dispatch.leaseEpoch dispatch.now ∧
        ∃ next, after.ledger = next.ledger ∧
          CommittedRefs config (beginDispatch config.ledger.codec dispatch.actionId dispatch.authority
            dispatch.leaseEpoch dispatch.now) before next (some dispatch.request) := by
  have moved : ∀ {call : Nat} {carried : DispatchCall} {from_ to_ : DispatchPhase},
      before.calls.get? call = some (.dispatch carried from_) ->
      after.calls = before.calls.insert call (.dispatch carried to_) -> (to_.awaits = true -> from_.awaits = true) ->
      ∃ earlier, before.calls.get? key = some (.dispatch dispatch earlier) ∧
        (phase.awaits = true -> earlier.awaits = true) := by
    intro call carried from_ to_ present calls awaits
    rw [calls, Table.get?_insert] at found
    by_cases same : key = call
    · rw [if_pos same, Option.some.injEq, Call.dispatch.injEq] at found
      obtain ⟨rfl, rfl⟩ := found
      exact ⟨from_, by rw [same, present], awaits⟩
    · rw [if_neg same] at found
      exact ⟨phase, found, id⟩
  have ended : ∀ {call : Nat}, after.calls = before.calls.erase call ->
      ∃ earlier, before.calls.get? key = some (.dispatch dispatch earlier) ∧
        (phase.awaits = true -> earlier.awaits = true) := by
    intro call calls
    rw [calls, Table.get?_erase] at found
    by_cases same : key = call
    · rw [if_pos same] at found
      cases found
    · rw [if_neg same] at found
      exact ⟨phase, found, id⟩
  cases taken with
  | returned _ attempt => exact .inl (ended ((attemptDispatch_same attempt).endCall _))
  | @begun call _ _ _ _ _ next fresh attempt =>
    rw [(attemptDispatch_same attempt).setCall, Table.get?_insert] at found
    by_cases same : key = call
    · rw [if_pos same, Option.some.injEq, Call.dispatch.injEq] at found
      obtain ⟨rfl, _⟩ := found
      exact .inr ⟨by rw [same], next, rfl, attemptDispatch_ok attempt⟩
    · rw [if_neg same] at found
      exact .inl ⟨phase, found, id⟩
  | unlimited present => exact .inl (moved present rfl fun _ => rfl)
  | acquired present => exact .inl (moved present rfl fun _ => rfl)
  | queued present => exact .inl (moved present rfl fun _ => rfl)
  | turnedAway => exact .inl (ended rfl)
  | woken present => exact .inl (moved present rfl fun _ => rfl)
  | rechecked present attempt =>
    exact .inl (moved present ((attemptRecheck_same attempt).setCall _ _) fun _ => rfl)
  | refused _ attempt =>
    exact .inl (ended ((endDispatch_calls _ _).trans (by rw [(attemptRecheck_same attempt).calls])))
  | sent present => exact .inl (moved present rfl fun _ => rfl)
  | answered present => exact .inl (moved present rfl (fun retried => by cases retried))
  | finished _ committed =>
    exact .inl (ended ((endDispatch_calls _ _).trans (by rw [(commitRefs_same committed).calls])))

theorem restart_cases {failures : Nat} (taken : step config env (.restart failures) before = some (after, result)) :
    ∃ state, reopenLedger config.ledger before.ledger.disk failures = .ok state ∧
      after = System.opened config state := by
  change hostStep config env (.restart failures) before = _ at taken
  unfold hostStep at taken
  dsimp only at taken
  split at taken
  · cases taken
  · next state opened => exact ⟨state, opened, replied taken⟩

theorem step_untouched (other : kind ∉ command.kinds) (taken : step config env command before = some (after, result)) :
    Untouched kind before after := by
  unfold step at taken
  split at taken
  all_goals first
    | exact sessionStep_untouched taken
    | exact leaseStep_untouched other taken
    | exact pageStep_untouched other taken
    | exact finishStep_untouched other taken
    | exact (dispatchStep_cases taken).untouched (by simpa [Command.kinds] using other)
    | exact actionStep_untouched other taken
    | exact snapshotStep_untouched other taken
    | exact hostStep_untouched other taken

theorem step_dispatch (taken : step config env command before = some (after, result)) :
    DispatchStep config env before command after result ∨
      CallKind.dispatch ∉ command.kinds ∧ Untouched .dispatch before after ∨
      ∃ failures state, command = .restart failures ∧
        reopenLedger config.ledger before.ledger.disk failures = .ok state ∧ after = System.opened config state := by
  by_cases other : CallKind.dispatch ∈ command.kinds
  · cases command
    case restart failures =>
      obtain ⟨state, opened, rfl⟩ := restart_cases taken
      exact .inr (.inr ⟨failures, state, rfl, opened, rfl⟩)
    case dispatchAction | acquirePermit | wakeUp | recheckDispatch | sendDispatch | dispatchAnswered
        | finishDispatch =>
      exact .inl (dispatchStep_cases taken)
    all_goals simp [Command.kinds] at other
  · exact .inr (.inl ⟨other, step_untouched other taken⟩)

end AgentycHost
