import AgentycHost.Effects.Dispatches
import AgentycHost.System.Dispatch
import AgentycHost.System.Runs

set_option autoImplicit false

/-! # One mutating dispatch per space -/

namespace AgentycHost

open Shared

def DispatchPhase.holdsPermit : DispatchPhase -> Bool
  | .permitted | .rechecked | .sent | .answered _ => true
  | .marked | .waiting => false

/-- A call that has the permit of a space. -/
def Holds (system : System) (key : Nat) (spaceId : SpaceId) : Prop :=
  ∃ dispatch phase, system.calls.get? key = some (.dispatch dispatch phase) ∧
    DispatchPhase.holdsPermit phase = true ∧ isMutating dispatch.request.operation = true ∧
    dispatch.request.spaceId = spaceId

structure Exclusive (system : System) : Prop where
  active : ∀ key spaceId, Holds system key spaceId -> (system.scheduler.queue spaceId).active = true
  alone : ∀ key other spaceId, Holds system key spaceId -> Holds system other spaceId -> other = key

variable {config : HostConfig} {env : Environment} {command : Command} {before after : System}
  {result : Except HostError Unit} {key : Nat}

section Steps

variable {dispatch : DispatchCall} {phase : DispatchPhase} {other : Nat} {spaceId : SpaceId} {scheduler : Scheduler}

theorem holds_setCall (calls : after.calls = before.calls.insert key (.dispatch dispatch phase))
    (held : Holds after other spaceId) :
    Holds before other spaceId ∨ other = key ∧ DispatchPhase.holdsPermit phase = true ∧
      isMutating dispatch.request.operation = true ∧ dispatch.request.spaceId = spaceId := by
  obtain ⟨carried, reached, found, permit, mutating, inside⟩ := held
  rw [calls, Table.get?_insert] at found
  by_cases same : other = key
  · rw [if_pos same, Option.some.injEq, Call.dispatch.injEq] at found
    obtain ⟨rfl, rfl⟩ := found
    exact .inr ⟨same, permit, mutating, inside⟩
  · rw [if_neg same] at found
    exact .inl ⟨carried, reached, found, permit, mutating, inside⟩

theorem holds_endCall (calls : after.calls = before.calls.erase key) (held : Holds after other spaceId) :
    Holds before other spaceId ∧ other ≠ key := by
  obtain ⟨dispatch, phase, found, rest⟩ := held
  rw [calls, Table.get?_erase] at found
  by_cases same : other = key
  · rw [if_pos same] at found
    cases found
  · rw [if_neg same] at found
    exact ⟨⟨dispatch, phase, found, rest⟩, same⟩

theorem Exclusive.fewer (exclusive : Exclusive before)
    (holders : ∀ key spaceId, Holds after key spaceId -> Holds before key spaceId)
    (active : ∀ key spaceId, Holds after key spaceId ->
      (after.scheduler.queue spaceId).active = (before.scheduler.queue spaceId).active) : Exclusive after where
  active key spaceId held := (active key spaceId held).trans (exclusive.active key spaceId (holders key spaceId held))
  alone key other spaceId held again :=
    exclusive.alone key other spaceId (holders key spaceId held) (holders other spaceId again)

theorem Exclusive.moved {from_ : DispatchPhase} (exclusive : Exclusive before)
    (found : before.calls.get? key = some (.dispatch dispatch from_))
    (calls : after.calls = before.calls.insert key (.dispatch dispatch phase))
    (same : isMutating dispatch.request.operation = true -> phase.holdsPermit = true -> from_.holdsPermit = true)
    (scheduler : ∀ spaceId,
      (after.scheduler.queue spaceId).active = (before.scheduler.queue spaceId).active) : Exclusive after := by
  refine exclusive.fewer ?_ fun _ spaceId _ => scheduler spaceId
  intro other spaceId held
  obtain earlier | ⟨rfl, permit, mutating, inside⟩ := holds_setCall calls held
  · exact earlier
  · exact ⟨dispatch, from_, found, same mutating permit, mutating, inside⟩

theorem Exclusive.taken (exclusive : Exclusive before)
    (calls : after.calls = before.calls.insert key (.dispatch dispatch .permitted))
    (free : (before.scheduler.queue dispatch.request.spaceId).active = false)
    (scheduler : ∀ spaceId, (after.scheduler.queue spaceId).active =
      if spaceId = dispatch.request.spaceId then true else (before.scheduler.queue spaceId).active) :
    Exclusive after := by
  -- nobody held the permit, so the call is the only holder now
  have nobody : ∀ other, ¬ Holds before other dispatch.request.spaceId := by
    intro other held
    rw [exclusive.active other _ held] at free
    cases free
  constructor
  · intro other spaceId held
    rw [scheduler]
    split_ifs with inside
    · rfl
    · obtain earlier | ⟨_, _, _, same⟩ := holds_setCall calls held
      · exact exclusive.active other spaceId earlier
      · exact absurd same.symm inside
  · intro one other spaceId held again
    obtain first | ⟨rfl, _, _, rfl⟩ := holds_setCall calls held
    · obtain second | ⟨_, _, _, rfl⟩ := holds_setCall calls again
      · exact exclusive.alone one other spaceId first second
      · exact absurd first (nobody one)
    · obtain second | ⟨rfl, _⟩ := holds_setCall calls again
      · exact absurd second (nobody other)
      · rfl

theorem Exclusive.ended {next : System} (exclusive : Exclusive before) (same : SameCalls before next)
    (found : before.calls.get? key = some (.dispatch dispatch phase)) (permit : phase.holdsPermit = true) :
    Exclusive (endDispatch key dispatch next) := by
  have calls : (endDispatch key dispatch next).calls = before.calls.erase key := by
    rw [endDispatch_calls, same.calls]
  refine exclusive.fewer (fun other spaceId held => (holds_endCall calls held).1) fun other spaceId held => ?_
  obtain ⟨held, distinct⟩ := holds_endCall calls held
  unfold endDispatch
  split_ifs with mutating
  · -- a holder that remains is one of another space
    have elsewhere : spaceId ≠ dispatch.request.spaceId := by
      rintro rfl
      exact distinct (exclusive.alone key other _ ⟨dispatch, phase, found, permit, mutating, rfl⟩ held)
    change ((next.scheduler.release dispatch.request.spaceId).queue spaceId).active = _
    rw [Scheduler.active_release, if_neg elsewhere, same.scheduler]
  · rw [System.endCall, same.scheduler]

theorem acquireMutation_permit {next : Scheduler} (asked : scheduler.acquireMutation spaceId key = (next, .permit)) :
    (scheduler.queue spaceId).active = false ∧ ∀ other, (next.queue other).active =
      if other = spaceId then true else (scheduler.queue other).active := by
  unfold Scheduler.acquireMutation at asked
  dsimp only at asked
  split_ifs at asked with free
  · cases asked
    refine ⟨free.1, fun other => ?_⟩
    rw [Scheduler.queue_setQueue]
    split_ifs <;> rfl
  all_goals cases asked

theorem acquireMutation_refused {next : Scheduler} {answer : Acquired}
    (asked : scheduler.acquireMutation spaceId key = (next, answer)) (refused : answer ≠ .permit) (other : SpaceId) :
    (next.queue other).active = (scheduler.queue other).active := by
  unfold Scheduler.acquireMutation at asked
  dsimp only at asked
  split_ifs at asked
  · cases asked
    exact absurd rfl refused
  all_goals
    cases asked
    rw [Scheduler.queue_setQueue]
    split_ifs with same
    · rw [same]
    · rfl

theorem wake_permit {next : Scheduler} (woken : scheduler.wake spaceId key = some next) :
    (scheduler.queue spaceId).active = false ∧ ∀ other, (next.queue other).active =
      if other = spaceId then true else (scheduler.queue other).active := by
  unfold Scheduler.wake at woken
  dsimp only at woken
  split_ifs at woken with free
  cases woken
  refine ⟨free.1, fun other => ?_⟩
  rw [Scheduler.queue_setQueue]
  split_ifs <;> rfl

theorem DispatchStep.exclusive (exclusive : Exclusive before)
    (taken : DispatchStep config env before command after result) : Exclusive after := by
  cases taken with
  | returned fresh attempt =>
    have same := attemptDispatch_same attempt
    refine exclusive.fewer (fun _ _ held => (holds_endCall (same.endCall _) held).1) fun _ _ _ => ?_
    rw [System.endCall, same.scheduler]
  | begun fresh attempt =>
    have same := attemptDispatch_same attempt
    refine exclusive.fewer (fun _ _ held => ?_) fun _ _ _ => ?_
    · obtain earlier | ⟨_, permit, _⟩ := holds_setCall (same.setCall _ _) held
      · exact earlier
      · cases permit
    · rw [System.setCall, same.scheduler]
  | unlimited found reading =>
    exact exclusive.moved found rfl (fun mutating => by simp [reading] at mutating) fun _ => rfl
  | acquired found mutating granted =>
    obtain ⟨free, scheduler⟩ := acquireMutation_permit granted
    exact exclusive.taken rfl free scheduler
  | queued found mutating waits =>
    exact exclusive.moved found rfl (fun _ impossible => by cases impossible) (acquireMutation_refused waits (by simp))
  | turnedAway found mutating full =>
    refine exclusive.fewer (fun _ _ held => (holds_endCall rfl held).1) fun _ spaceId _ => ?_
    exact acquireMutation_refused full (by simp) spaceId
  | woken found granted =>
    obtain ⟨free, scheduler⟩ := wake_permit granted
    exact exclusive.taken rfl free scheduler
  | rechecked found attempt =>
    have same := attemptRecheck_same attempt
    refine exclusive.moved found (same.setCall _ _) (fun _ _ => rfl) fun _ => ?_
    rw [System.setCall, same.scheduler]
  | refused found attempt => exact exclusive.ended (attemptRecheck_same attempt) found rfl
  | sent found => exact exclusive.moved found rfl (fun _ _ => rfl) fun _ => rfl
  | answered found => exact exclusive.moved found rfl (fun _ _ => rfl) fun _ => rfl
  | finished found committed => exact exclusive.ended (commitRefs_same committed) found rfl

end Steps

theorem Untouched.exclusive (exclusive : Exclusive before) (untouched : Untouched .dispatch before after) :
    Exclusive after := by
  refine exclusive.fewer ?_ fun _ _ _ => by rw [untouched.scheduler rfl]
  rintro key spaceId ⟨dispatch, phase, found, rest⟩
  exact ⟨dispatch, phase, (untouched.calls key _ rfl).mp found, rest⟩

theorem Exclusive.opened (state : LedgerState) : Exclusive (System.opened config state) := by
  have idle : ∀ key spaceId, ¬ Holds (System.opened config state) key spaceId := by
    rintro key spaceId ⟨dispatch, phase, found, _⟩
    simp [System.opened] at found
  exact ⟨fun key spaceId held => (idle key spaceId held).elim, fun key _ spaceId held => (idle key spaceId held).elim⟩

theorem Exclusive.next {label : Label} (exclusive : Exclusive before)
    (taken : AgentycHost.next config label before = some after) : Exclusive after := by
  obtain ⟨_, replied⟩ := next_step taken
  obtain dispatched | ⟨_, untouched⟩ | ⟨_, state, _, _, rfl⟩ := step_dispatch replied
  · exact dispatched.exclusive exclusive
  · exact untouched.exclusive exclusive
  · exact .opened state

/-- In every reachable state, two mutating `bridge.dispatch` calls in progress for one space are
one call, under whichever epochs they were started. -/
theorem one_mutating_dispatch_in_flight {system : System} (reachable : Reachable config system)
    {one other : Nat} {first second : DispatchCall}
    (sent : system.calls.get? one = some (.dispatch first .sent))
    (again : system.calls.get? other = some (.dispatch second .sent))
    (mutating : isMutating first.request.operation = true) (too : isMutating second.request.operation = true)
    (same : second.request.spaceId = first.request.spaceId) : other = one := by
  obtain ⟨start, trace, initial, run⟩ := reachable
  have exclusive : Exclusive system := by
    refine run.keeps Exclusive ?_ fun _ _ taken exclusive => exclusive.next taken
    rw [initial.fresh]
    exact .opened _
  exact exclusive.alone one other _ ⟨first, .sent, sent, rfl, mutating, rfl⟩ ⟨second, .sent, again, rfl, too, same⟩

def Call.sentMutation : Call -> Bool
  | .dispatch handed .sent => isMutating handed.request.operation
  | _ => false

theorem one_mutating_dispatch_in_flight_once :
    ∃ (system : System) (dispatch : DispatchCall), system.calls.get? 7 = some (.dispatch dispatch .sent) ∧
      ∀ other second, system.calls.get? other = some (.dispatch second .sent) ->
        isMutating second.request.operation = true -> second.request.spaceId = dispatch.request.spaceId ->
        other = 7 := by
  obtain ⟨last, run, passed⟩ := advance_reaches (next sampleConfig) (.fresh sampleConfig) sentOnce
    (fun last => (last.calls.get? 7).any Call.sentMutation) (by decide +kernel)
  obtain ⟨call, found, sending⟩ := (Option.any_eq_true _ _).mp passed
  unfold Call.sentMutation at sending
  split at sending
  · next dispatch =>
    have reachable : Reachable sampleConfig last := ⟨_, _, sample_initial, run⟩
    exact ⟨last, dispatch, found, fun _ _ again too same =>
      one_mutating_dispatch_in_flight reachable found again sending too same⟩
  · cases sending

end AgentycHost

/-! # Completion under the lease of the dispatch -/

namespace AgentycHost

open Shared

variable {config : HostConfig} {env : Environment} {before after start last : System} {key : Nat}
  {dispatch : DispatchCall} {outcome : BridgeDispatchResult} {trace : List (Moment System Label)}
  {result : Except HostError Unit} {lifecycle : HostLifecycle} {state : LedgerState}

theorem leaseCurrent_held (epoch : dispatch.leaseEpoch = dispatch.request.leaseEpoch)
    (current : leaseCurrent lifecycle state dispatch.request dispatch.authority dispatch.now = true) :
    ∃ space lease, HeldUnder state dispatch space lease := by
  simp only [leaseCurrent, Bool.and_eq_true, Option.any_eq_true, beq_iff_eq, decide_eq_true_eq,
    SpaceLifecycle.admitsMutations] at current
  obtain ⟨_, space, found, owned, lease, leased, ⟨⟨⟨principal, holder⟩, same⟩, active⟩, unexpired⟩ := current
  exact ⟨space, lease, found, owned, leased, active, unexpired, same.trans epoch.symm, principal, holder⟩

theorem settle_recorded {stored settled : ActionReceipt}
    (epoch : dispatch.leaseEpoch = dispatch.request.leaseEpoch)
    (run : settle (recordedOutcome lifecycle state dispatch.request dispatch.authority outcome dispatch.now)
      dispatch.actionId dispatch.now stored = .ok settled) :
    settled.status = .unknown ∨ (settled.status = .succeeded ∨ settled.status = .failed) ∧
      ∃ space lease, HeldUnder state dispatch space lease := by
  unfold recordedOutcome at run
  split_ifs at run with current
  · have held := leaseCurrent_held epoch current
    cases outcome with
    | succeeded =>
      obtain ⟨_, ended, _⟩ := ActionReceipt.markSucceeded_ok run
      exact .inr ⟨.inl ended, held⟩
    | failed =>
      obtain ⟨_, ended, _⟩ := ActionReceipt.markFailed_ok run
      exact .inr ⟨.inr ended, held⟩
    | unknown =>
      obtain ⟨_, ended, _⟩ := ActionReceipt.markUnknown_ok run
      exact .inl ended
  · obtain ⟨_, ended, _⟩ := ActionReceipt.markUnknown_ok run
    exact .inl ended

/-- In every run, the last commit of a dispatch that was begun under a lease leaves its receipt as
it is when another step has settled it or the commit fails; else it settles the running receipt,
as a success or a failure only if that lease still stands in the state it commits over. -/
theorem fenced_completion (initial : Initial config start) (run : HostRun config start trace before)
    (found : before.calls.get? key = some (.dispatch dispatch (.answered outcome)))
    (taken : step config env (.finishDispatch key) before = some (after, result)) :
    (∃ moment, moment ∈ trace ∧ Begun moment key dispatch) ∧
      ∀ stored, before.ledger.state.actions.get? dispatch.actionId = some stored ->
        ∃ settled, after.ledger.state.actions.get? dispatch.actionId = some settled ∧
          (settled = stored ∧ (stored.status ≠ .running ∨ result ≠ .ok ()) ∨
            stored.status = .running ∧ stored.SameRequest settled ∧
              (settled.status = .unknown ∨ (settled.status = .succeeded ∨ settled.status = .failed) ∧
                ∃ space lease, HeldUnder before.ledger.state dispatch space lease)) := by
  have began := run.begun initial found
  refine ⟨began, fun stored present => ?_⟩
  obtain ⟨_, _, begun⟩ := began
  obtain ⟨_, dispatchable⟩ := begun.dispatchable
  obtain ⟨_, _, next, recorded, again, committed, rfl, rfl⟩ := finishDispatch_cases taken
  cases again.symm.trans found
  rw [endDispatch_ledger]
  cases recorded with
  | error error =>
    rw [commitRefs_error committed]
    exact ⟨stored, present, .inl ⟨rfl, .inr ((fun done => by cases done))⟩⟩
  | ok receipt =>
    obtain ⟨_, ⟨state, moved, drained⟩, _, _⟩ := commitRefs_ok committed
    have drop := drainEvents_same config.ledger.limits state
    obtain ⟨old, there, ⟨ended, _, rfl⟩ | ⟨running, settles, same⟩⟩ := finishDispatch_ok moved
    all_goals cases present.symm.trans there
    · refine ⟨stored, ?_, .inl ⟨rfl, .inl ended⟩⟩
      rw [drained, (SameActions.of_events drop).actions]
      exact present
    · have actions := (SameActions.events drop (.of_events same)).actions
      have dirtied := (SameActions.of_work (dirtySnapshot_snapshots
        { before.ledger.state with actions := before.ledger.state.actions.insert dispatch.actionId receipt }
        dispatch.request).pageWork).actions
      refine ⟨receipt, ?_, .inr ⟨running, (settle_move settles).same, settle_recorded dispatchable.epoch settles⟩⟩
      rw [drained, actions, dirtied, Table.get?_insert_self]

def answeredOnce : List Label := sentOnce ++ [(sampleEnv, .dispatchAnswered 7 (.ok .succeeded) none)]

def recordsSuccess (last : System) : Bool :=
  match last.calls.get? 7, step sampleConfig sampleEnv (.finishDispatch 7) last with
  | some (.dispatch dispatch (.answered _)), some (after, .ok ()) =>
      (last.ledger.state.actions.get? dispatch.actionId).any (fun stored => stored.status == .running) &&
        (after.ledger.state.actions.get? dispatch.actionId).all fun settled => settled.status == .succeeded
  | _, _ => false

theorem fenced_completion_succeeded :
    ∃ (before after : System) (dispatch : DispatchCall) (settled : ActionReceipt) (space : SpaceDescriptor)
      (lease : Lease), step sampleConfig sampleEnv (.finishDispatch 7) before = some (after, .ok ()) ∧
        after.ledger.state.actions.get? dispatch.actionId = some settled ∧ settled.status = .succeeded ∧
        HeldUnder before.ledger.state dispatch space lease := by
  obtain ⟨before, run, passed⟩ := advance_reaches (next sampleConfig) (.fresh sampleConfig) answeredOnce
    recordsSuccess (by decide +kernel)
  unfold recordsSuccess at passed
  split at passed
  · next dispatch outcome after found taken =>
    rw [Bool.and_eq_true, Option.any_eq_true] at passed
    obtain ⟨⟨stored, present, running⟩, recorded⟩ := passed
    rw [beq_iff_eq] at running
    obtain ⟨_, completion⟩ := fenced_completion sample_initial run found taken
    obtain ⟨settled, there, ⟨_, kept⟩ | ⟨_, _, finished⟩⟩ := completion stored present
    · simp [running] at kept
    · rw [there, Option.all_some, beq_iff_eq] at recorded
      obtain lost | ⟨_, space, lease, held⟩ := finished
      · rw [recorded] at lost
        cases lost
      · exact ⟨before, after, dispatch, settled, space, lease, taken, there, recorded, held⟩
  · cases passed

end AgentycHost
