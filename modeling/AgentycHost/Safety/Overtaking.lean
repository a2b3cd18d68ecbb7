import AgentycHost.Effects.Dispatches

set_option autoImplicit false

/-! # Mutations and unknown outcomes -/

namespace AgentycHost

open Shared

/-- Another mutating action of a space that has an unknown outcome. -/
def unknownBeside (spaceId : SpaceId) (actionId : ActionId) (state : LedgerState) : Bool :=
  state.actions.any fun other receipt => !decide (other = actionId) && receipt.spaceId == spaceId &&
    isMutating receipt.operation && receipt.status == .unknown

/-- A step that hands a mutation to the bridge past an unknown outcome. -/
def overtakes (moment : Moment System Label) : Bool :=
  match moment.label.2 with
  | .sendDispatch call =>
      (moment.before.calls.get? call).any fun
        | .dispatch dispatch _ => isMutating dispatch.request.operation &&
            unknownBeside dispatch.request.spaceId dispatch.actionId moment.before.ledger.state
        | _ => false
  | _ => false

/-- A mutating dispatch of a space that has not been handed over. -/
def Call.awaitsIn (spaceId : SpaceId) : Call -> Bool
  | .dispatch carried phase =>
      phase.awaits && isMutating carried.request.operation && carried.request.spaceId == spaceId
  | _ => false

/-- The first commit of a mutation finds no unknown one, and none on its way to the bridge. -/
def dispatchesAlone (system : System) : Command -> Bool
  | .dispatchAction _ actionId _ _ _ =>
      (system.ledger.state.actions.get? actionId).all fun receipt =>
        !(receipt.status == .queued && isMutating receipt.operation) ||
          !(unknownBeside receipt.spaceId actionId system.ledger.state ||
            system.calls.any fun _ call => call.awaitsIn receipt.spaceId)
  | _ => true

def Unovertaken (system : System) : Prop :=
  ∀ key dispatch phase, system.calls.get? key = some (.dispatch dispatch phase) -> phase.awaits = true ->
    isMutating dispatch.request.operation = true -> ∀ other receipt,
      system.ledger.state.actions.get? other = some receipt -> other ≠ dispatch.actionId ->
      receipt.spaceId = dispatch.request.spaceId -> isMutating receipt.operation = true ->
      receipt.status ≠ .running ∧ receipt.status ≠ .unknown

section Receipts

variable {command : Command} {before after : LedgerState} {actionId : ActionId} {receipt : ActionReceipt}

theorem ReceiptChange.unsettled {old : Option ActionReceipt}
    (change : ReceiptChange command before after actionId old (some receipt))
    (unsettled : receipt.status = .running ∨ receipt.status = .unknown) :
    ∃ stored, old = some stored ∧ stored.SameRequest receipt ∧
      ((stored.status = .running ∨ stored.status = .unknown) ∨
        stored.status = .queued ∧ ∃ call authority leaseEpoch now,
          command = .dispatchAction call actionId authority leaseEpoch now) := by
  cases change with
  | admitted => simp [ActionReceipt.queued] at unsettled
  | @started call authority leaseEpoch now _ stored made_by dispatchable =>
    exact ⟨stored, rfl, ⟨rfl, rfl, rfl, rfl, rfl, rfl, rfl, rfl, rfl⟩,
      .inr ⟨dispatchable.queued, call, authority, leaseEpoch, now, made_by⟩⟩
  | @moved stored _ move =>
    refine ⟨stored, rfl, move.same, .inl ?_⟩
    obtain same | status := move.status
    · exact same ▸ unsettled
    · -- only running and unknown receipts become unknown, and none becomes running
      obtain running | unknown := unsettled
      · exact (running ▸ status).to_running.elim
      · rw [unknown] at status
        generalize stored.status = old at status ⊢
        cases status with
        | lost => exact .inl rfl
        | reconciling => exact .inr rfl

end Receipts

variable {config : HostConfig} {label : Label} {before after start last : System} {trace : List (Moment System Label)}
  {other : ActionId} {receipt : ActionReceipt} {state : LedgerState}

theorem unknownBeside_of {spaceId : SpaceId} {actionId : ActionId} (found : state.actions.get? other = some receipt)
    (distinct : other ≠ actionId) (inside : receipt.spaceId = spaceId)
    (mutating : isMutating receipt.operation = true) (unknown : receipt.status = .unknown) :
    unknownBeside spaceId actionId state = true :=
  (Table.any_eq_true _ _).mpr ⟨other, receipt, found, by simp [distinct, inside, mutating, unknown]⟩

theorem Unovertaken.committed {key : Nat} {dispatch : DispatchCall} {phase : DispatchPhase} {calls : Table Nat Call}
    {command : Command} (unovertaken : Unovertaken before) (alone : dispatchesAlone before command = true)
    (taken : LedgerStep config.ledger calls command before.ledger.state state)
    (found : before.calls.get? key = some (.dispatch dispatch phase)) (awaits : phase.awaits = true)
    (mutating : isMutating dispatch.request.operation = true) (present : state.actions.get? other = some receipt)
    (distinct : other ≠ dispatch.actionId) (inside : receipt.spaceId = dispatch.request.spaceId)
    (mutates : isMutating receipt.operation = true) : receipt.status ≠ .running ∧ receipt.status ≠ .unknown := by
  have change := taken.actionEffect.change other
  rw [present] at change
  rw [← not_or]
  intro unsettled
  obtain ⟨stored, there, same, still | ⟨queued, call, authority, leaseEpoch, now, rfl⟩⟩ := change.unsettled unsettled
  · have settled := unovertaken key dispatch phase found awaits mutating other stored there distinct
      (same.spaceId ▸ inside) (same.operation ▸ mutates)
    exact still.elim settled.1 settled.2
  · -- the step would have started it beside the mutation on its way
    have waiting : (before.calls.any fun _ call => call.awaitsIn stored.spaceId) = true := by
      refine (Table.any_eq_true _ _).mpr ⟨key, _, found, ?_⟩
      simp [Call.awaitsIn, awaits, mutating, ← inside, same.spaceId]
    have started : isMutating stored.operation = true := same.operation ▸ mutates
    simp [dispatchesAlone, there, queued, started, waiting] at alone

theorem HostRun.unovertaken (run : HostRun config start trace last) (initial : Initial config start)
    (alone : ∀ moment, moment ∈ trace -> dispatchesAlone moment.before moment.label.2 = true) :
    Sound config.ledger last.ledger ∧ Unovertaken last := by
  refine run.keeps (fun system => Sound config.ledger system.ledger ∧ Unovertaken system) ⟨initial.sound, ?_⟩ ?_
  · obtain ⟨rfl, _⟩ := initial
    intro key dispatch phase found
    simp [System.fresh, System.opened] at found
  · rintro moment member taken ⟨sound, unovertaken⟩
    refine ⟨sound.step taken, ?_⟩
    intro key dispatch phase found awaits mutating other receipt present distinct inside mutates
    have careful := alone moment member
    obtain ⟨earlier, carried, waited⟩ | ⟨made_by, next, ledger, committed⟩ := next_carried taken found
    · obtain moved | ⟨_, state, _, _, opened⟩ := next_ledger taken
      · generalize moment.after.ledger = changed at moved present
        cases moved with
        | same =>
          exact unovertaken key dispatch earlier carried (waited awaits) mutating other receipt present distinct inside mutates
        | written =>
          exact unovertaken key dispatch earlier carried (waited awaits) mutating other receipt present distinct inside mutates
        | committed made =>
          exact unovertaken.committed careful made carried (waited awaits) mutating present distinct inside mutates
      · rw [opened] at found
        simp [System.opened] at found
    · -- the dispatch starts here: running mutations are refused, and unknown ones are ruled out
      obtain ⟨stored, dispatchable, noneRunning, marked⟩ := begun_ok committed
      rw [ledger, marked.actions, markedRunning, Table.get?_insert_ne _ _ _ _ distinct] at present
      obtain ⟨space, _, _, operation⟩ := dispatchable.fields sound.valid
      constructor
      · intro running
        have none := (Table.any_eq_false _ _).mp (noneRunning mutating) other receipt present
        simp [runsMutation, running, mutates, inside] at none
      · intro unknown
        have beside := unknownBeside_of present distinct (inside.trans space) mutates unknown
        rw [operation] at mutating
        simp [made_by, dispatchesAlone, dispatchable.present, dispatchable.queued, mutating, beside] at careful

/-- In every run whose mutations are begun beside no unknown one and none on its way to the bridge,
no mutation is handed over past an unknown outcome. -/
theorem mutations_never_overtake (initial : Initial config start) (run : HostRun config start trace last)
    (alone : ∀ moment, moment ∈ trace -> dispatchesAlone moment.before moment.label.2 = true)
    (moment : Moment System Label) (inside : moment ∈ trace) : overtakes moment = false := by
  obtain ⟨earlier, later, early, taken, rfl⟩ := run.at_moment inside
  have careful : ∀ past, past ∈ earlier -> dispatchesAlone past.before past.label.2 = true :=
    fun past member => alone past (List.mem_append_right later (List.mem_cons_of_mem _ member))
  obtain ⟨_, unovertaken⟩ := HostRun.unovertaken early initial careful
  unfold overtakes
  split
  · next call sends =>
    obtain ⟨_, replied⟩ := next_step taken
    rw [sends] at replied
    obtain ⟨dispatch, found, _⟩ := sendDispatch_cases replied
    rw [found, Option.any_some, Bool.and_eq_false_iff, unknownBeside, Table.any_eq_false]
    by_cases mutating : isMutating dispatch.request.operation = true
    · refine .inr fun other receipt present => ?_
      by_contra beside
      simp only [Bool.not_eq_false, Bool.and_eq_true, Bool.not_eq_true', decide_eq_false_iff_not, beq_iff_eq] at beside
      obtain ⟨⟨⟨distinct, inside⟩, mutates⟩, unknown⟩ := beside
      exact (unovertaken call dispatch .rechecked found rfl mutating other receipt present distinct inside mutates).2
        unknown
    · exact .inl (by simpa using mutating)
  · rfl

def Call.isSent : Call -> Bool
  | .dispatch _ .sent => true
  | _ => false

theorem mutations_never_overtake_once :
    ∃ (last : System) (trace : List (Moment System Label)) (dispatch : DispatchCall),
      HostRun sampleConfig (.fresh sampleConfig) trace last ∧ last.calls.get? 7 = some (.dispatch dispatch .sent) ∧
        ∀ moment, moment ∈ trace -> overtakes moment = false := by
  obtain ⟨last, run, passed⟩ := advance_reaches (next sampleConfig) (.fresh sampleConfig) sentOnce
    (fun last => (last.calls.get? 7).any Call.isSent) (by decide +kernel)
  have alone := visits_all (next sampleConfig) sentOnce (.fresh sampleConfig)
    (fun moment => dispatchesAlone moment.before moment.label.2) (by decide +kernel)
  obtain ⟨call, found, sent⟩ := (Option.any_eq_true _ _).mp passed
  unfold Call.isSent at sent
  split at sent
  · next dispatch => exact ⟨last, _, dispatch, run, found, mutations_never_overtake sample_initial run alone⟩
  · cases sent

def overtaken : List Label := sentOnce ++
  [(sampleEnv, .dispatchAnswered 7 (.ok (.unknown .bridgeLost)) none),
   (sampleEnv, .finishDispatch 7),
   (sampleEnv, .enqueueAction secondRequest sampleTicket 40 none),
   (sampleEnv, .dispatchAction 8 secondRequest.actionId sampleTicket 1 50),
   (sampleEnv, .acquirePermit 8),
   (sampleEnv, .recheckDispatch 8),
   (sampleEnv, .sendDispatch 8)]

theorem mutation_overtakes_unknown :
    ¬ ∀ start last trace, Initial sampleConfig start -> HostRun sampleConfig start trace last ->
      ∀ moment, moment ∈ trace -> overtakes moment = false := by
  obtain ⟨last, run, _⟩ := advance_reaches (next sampleConfig) (.fresh sampleConfig) overtaken (fun _ => true) (by decide +kernel)
  have one : (visits (next sampleConfig) overtaken (.fresh sampleConfig)).any overtakes = true := by decide +kernel
  obtain ⟨moment, inside, overtaking⟩ := List.any_eq_true.mp one
  intro claim
  have none := claim _ _ _ sample_initial run moment (List.mem_reverse.mpr inside)
  rw [overtaking] at none
  cases none

end AgentycHost

/-! # Dispatches that fail before the bridge -/

namespace AgentycHost

open Shared

/-- The action of a step that can fail before the bridge is called. -/
def unsentAction (system : System) : Command -> Option ActionId
  | .dispatchAction _ actionId _ _ _ => some actionId
  | .acquirePermit call =>
      match system.calls.get? call with
      | some (.dispatch dispatch .marked) => some dispatch.actionId
      | _ => none
  | .recheckDispatch call =>
      match system.calls.get? call with
      | some (.dispatch dispatch .permitted) => some dispatch.actionId
      | _ => none
  | _ => none

/-- A call is made for a queued action; the later steps of the call are about the action it marked. -/
def startsQueued (system : System) : Command -> Bool
  | .dispatchAction _ actionId _ _ _ =>
      (system.ledger.state.actions.get? actionId).any fun receipt => receipt.status == .queued
  | _ => true

section Refusals

variable (config : HostConfig) (env : Environment) (system : System)

def refusesAction (request : ActionRequest) (now : Timestamp) : Bool :=
  !(validateActionabilityForState config.ledger.codec system.registry system.ledger.state request now).2.toBool

/-- The step comes to its actionability check, and the check fails. -/
def refusedByActionability : Command -> Bool
  | .dispatchAction _ actionId authority leaseEpoch now =>
      !decide (env.io = .lockLost) && (ensureReady system.lifecycle).toBool &&
        (dispatchCapabilities env actionId system).toBool &&
        match admitDispatch actionId authority leaseEpoch now system.ledger.state with
        | .ok (some request) => refusesAction config system request now
        | _ => false
  | .recheckDispatch call =>
      match system.calls.get? call with
      | some (.dispatch dispatch .permitted) =>
          !decide (env.io = .lockLost) && (ensureReady system.lifecycle).toBool &&
            (admitRecheck dispatch.actionId dispatch.request dispatch.authority dispatch.leaseEpoch dispatch.now
              system.ledger.state).toBool &&
            refusesAction config system dispatch.request dispatch.now
      | _ => false
  | _ => false

end Refusals

/-- The status a refused action is to get. -/
def refusedStatus : Command -> ActionStatus
  | .dispatchAction _ _ _ _ _ => .cancelled
  | _ => .failed

/-- A failed step leaves no running receipt, and settles a refused one. -/
structure Unstranded (config : HostConfig) (env : Environment) (before : System) (command : Command)
    (actionId : ActionId) (after : LedgerState) : Prop where
  stopped : ∀ receipt, after.actions.get? actionId = some receipt -> receipt.status ≠ .running
  refused : refusedByActionability config env before command = true ->
    (∃ receipt, after.actions.get? actionId = some receipt ∧ receipt.status = refusedStatus command) ∧
      ∀ spaceId, actionId ∉ after.queue spaceId

/-- The first commit refuses no head; the later steps find the receipt settled by another step. -/
def failsSafely (config : HostConfig) (env : Environment) (before : System) (command : Command)
    (actionId : ActionId) : Bool :=
  match command with
  | .dispatchAction _ _ _ _ _ => !refusedByActionability config env before command
  | _ => (before.ledger.state.actions.get? actionId).all fun receipt => !(receipt.status == .running)

variable {config : HostConfig} {env : Environment} {before after : System} {command : Command} {actionId : ActionId}
  {error : HostError}

theorem DispatchStep.failed_state (taken : DispatchStep config env before command after (.error error))
    (unsent : unsentAction before command = some actionId) : after.ledger.state = before.ledger.state := by
  have discarded : ∀ {A : Type} {check : Except HostError Unit} {transition : RefTransition A} {next : System},
      before.afterCheck check (before.commitRefs config env transition) = (next, .error error) ->
      next.ledger.state = before.ledger.state := by
    intro A check transition next failed
    obtain rfl | committed := afterCheck_error failed
    · rfl
    · exact commitRefs_error committed
  generalize failure : Except.error error = result at taken
  cases taken with
  | @returned _ _ _ _ _ _ outcome _ attempt =>
    cases outcome with
    | ok => cases failure
    | error =>
      cases failure
      have kept := discarded attempt
      exact kept
  | turnedAway => rfl
  | refused _ attempt =>
    cases failure
    rw [endDispatch_ledger]
    exact discarded attempt
  | finished => cases unsent
  | _ => cases failure

theorem step_failed (taken : step config env command before = some (after, .error error))
    (unsent : unsentAction before command = some actionId) : after.ledger.state = before.ledger.state := by
  have dispatched : dispatchStep config env command before = some (after, .error error) := by
    cases command <;> first | exact taken | cases unsent
  exact (dispatchStep_cases dispatched).failed_state unsent

theorem running_of_refused (unsent : unsentAction before command = some actionId)
    (later : ∀ call actionId authority leaseEpoch now, command ≠ .dispatchAction call actionId authority leaseEpoch now)
    (refused : refusedByActionability config env before command = true) :
    ∃ receipt, before.ledger.state.actions.get? actionId = some receipt ∧ receipt.status = .running := by
  unfold refusedByActionability at refused
  split at refused
  · exact absurd rfl (later _ _ _ _ _)
  · split at refused
    · next dispatch found =>
      simp only [unsentAction, found, Option.some.injEq] at unsent
      subst unsent
      simp only [Bool.and_eq_true, toBool_ok] at refused
      obtain ⟨⟨_, admitted⟩, _⟩ := refused
      simp only [admitRecheck, bind_ok, orElse_ok, require_ok, beq_iff_eq] at admitted
      obtain ⟨_, _, receipt, present, running⟩ := admitted
      exact ⟨receipt, present, running⟩
    · cases refused
  · cases refused

/-- A dispatch of a queued action that fails before the bridge is called settles its receipt if and
only if the first commit did not refuse the head, and a later step found the receipt settled. -/
theorem failed_dispatch_unstranded_iff (taken : step config env command before = some (after, .error error))
    (unsent : unsentAction before command = some actionId) (queued : startsQueued before command = true) :
    Unstranded config env before command actionId after.ledger.state <->
      failsSafely config env before command actionId = true := by
  rw [step_failed taken unsent]
  by_cases first : ∃ call actionId authority leaseEpoch now,
      command = .dispatchAction call actionId authority leaseEpoch now
  · obtain ⟨call, named, authority, leaseEpoch, now, rfl⟩ := first
    cases unsent
    obtain ⟨receipt, present, waiting⟩ := (Option.any_eq_true _ _).mp queued
    rw [beq_iff_eq] at waiting
    rw [failsSafely, Bool.not_eq_true']
    constructor
    · -- a refused head is still queued, not cancelled
      rintro ⟨_, settled⟩
      by_contra refused
      obtain ⟨⟨last, there, cancelled⟩, _⟩ := settled (by simpa using refused)
      cases present.symm.trans there
      rw [waiting] at cancelled
      cases cancelled
    · intro accepted
      refine ⟨fun last there => ?_, fun refused => ?_⟩
      · cases present.symm.trans there
        simp [waiting]
      · rw [accepted] at refused
        cases refused
  · have later : ∀ call actionId authority leaseEpoch now,
        command ≠ .dispatchAction call actionId authority leaseEpoch now :=
      fun call actionId authority leaseEpoch now same => first ⟨call, actionId, authority, leaseEpoch, now, same⟩
    have safely : failsSafely config env before command actionId = true <->
        ∀ receipt, before.ledger.state.actions.get? actionId = some receipt -> receipt.status ≠ .running := by
      unfold failsSafely
      split
      · exact absurd rfl (later _ _ _ _ _)
      · simp [Option.all_eq_true]
    rw [safely]
    refine ⟨fun unstranded => unstranded.stopped, fun stopped => ⟨stopped, fun refused => ?_⟩⟩
    obtain ⟨receipt, present, running⟩ := running_of_refused unsent later refused
    exact absurd running (stopped receipt present)

def failsOn (command : Command) (last : System) : Bool :=
  match step sampleConfig sampleEnv command last with
  | some (_, .error _) => true
  | _ => false

/-- The first request is asked for under an epoch that was never granted. -/
theorem failed_dispatch_unstranded_iff_stale :
    ∃ (before after : System) (error : HostError),
      step sampleConfig sampleEnv (.dispatchAction 7 firstRequest.actionId sampleTicket 2 30) before =
        some (after, .error error) ∧
      Unstranded sampleConfig sampleEnv before (.dispatchAction 7 firstRequest.actionId sampleTicket 2 30)
        firstRequest.actionId after.ledger.state := by
  obtain ⟨before, _, passed⟩ := advance_reaches (next sampleConfig) (.fresh sampleConfig) queuedOnce
    (fun last => startsQueued last (.dispatchAction 7 firstRequest.actionId sampleTicket 2 30) &&
      failsSafely sampleConfig sampleEnv last (.dispatchAction 7 firstRequest.actionId sampleTicket 2 30)
        firstRequest.actionId &&
      failsOn (.dispatchAction 7 firstRequest.actionId sampleTicket 2 30) last) (by decide +kernel)
  simp only [Bool.and_eq_true] at passed
  obtain ⟨⟨queued, safely⟩, failed⟩ := passed
  unfold failsOn at failed
  split at failed
  · next after error taken =>
    exact ⟨before, after, error, taken, (failed_dispatch_unstranded_iff taken rfl queued).mpr safely⟩
  · cases failed

def strandedOnce : List Label := queuedOnce ++
  [(sampleEnv, .dispatchAction 7 firstRequest.actionId sampleTicket 1 30),
   (sampleEnv, .acquirePermit 7),
   (sampleEnv, .disconnect sampleTicket)]

def failsRunning (last : System) : Bool :=
  match step sampleConfig sampleEnv (.recheckDispatch 7) last with
  | some (after, .error _) =>
      (after.ledger.state.actions.get? firstRequest.actionId).any fun receipt => receipt.status == .running
  | _ => false

theorem failed_dispatch_strands_receipt :
    ¬ ∀ before, Reachable sampleConfig before -> ∀ env command after error actionId,
      step sampleConfig env command before = some (after, .error error) ->
      unsentAction before command = some actionId -> startsQueued before command = true ->
      Unstranded sampleConfig env before command actionId after.ledger.state := by
  obtain ⟨before, run, passed⟩ := advance_reaches (next sampleConfig) (.fresh sampleConfig) strandedOnce
    (fun last => decide (unsentAction last (.recheckDispatch 7) = some firstRequest.actionId) &&
      failsRunning last) (by decide +kernel)
  rw [Bool.and_eq_true, decide_eq_true_eq] at passed
  obtain ⟨unsent, failed⟩ := passed
  unfold failsRunning at failed
  split at failed
  · next after error taken =>
    intro claim
    have unstranded := claim before ⟨_, _, sample_initial, run⟩ sampleEnv (.recheckDispatch 7) after error
      firstRequest.actionId taken unsent rfl
    obtain ⟨receipt, present, running⟩ := (Option.any_eq_true _ _).mp failed
    exact unstranded.stopped receipt present (beq_iff_eq.mp running)
  · cases failed

end AgentycHost
