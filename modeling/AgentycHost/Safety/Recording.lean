import AgentycHost.Effects.Dispatches
import AgentycHost.Ledger.Kept

set_option autoImplicit false

/-! # Outcomes are recorded -/

namespace AgentycHost

open Shared

section Settling

variable {config : LedgerConfig} {state : LedgerState} {actionId : ActionId} {receipt : ActionReceipt}

theorem Valid.settles (valid : Valid config state) (found : state.actions.get? actionId = some receipt)
    (running : receipt.status = .running) (source : receipt.completionSource = .none)
    (outcome : BridgeDispatchResult) (now : Timestamp) :
    ∃ settled, settle outcome actionId now receipt = .ok settled ∧ Settles receipt settled := by
  obtain ⟨_, _, checked⟩ := valid.checked found
  have status := checked.status
  simp only [validateReceiptStatus, running, require_ok, Bool.and_eq_true, Bool.not_eq_true', beq_iff_eq] at status
  obtain ⟨⟨⟨flying, _⟩, certain⟩, settled⟩ := status
  have accept : ∀ moved, settle outcome actionId now receipt = .ok moved ->
      validateReceiptStatus false moved = .ok () -> moved.status ≠ .queued -> moved.status ≠ .running ->
      ∃ settled, settle outcome actionId now receipt = .ok settled ∧ Settles receipt settled :=
    fun moved run accepted notQueued notRunning =>
      ⟨moved, run, running, (settle_move run).same, notQueued, notRunning, accepted⟩
  have started : ¬ receipt.status ≠ .running := not_not.mpr running
  cases outcome with
  | succeeded =>
    refine accept _ ((if_neg started).trans (if_neg (by decide))) ?_ (by simp) (by simp)
    simpa [validateReceiptStatus, require_ok, ActionReceipt.inFlight] using flying
  | failed code retryable =>
    refine accept _ (if_neg started) ?_ (by simp) (by simp)
    simpa [validateReceiptStatus, require_ok, ActionReceipt.inFlight, certain, settled] using flying
  | unknown reason =>
    refine accept _ (if_neg (by simp [running, flying])) ?_ (by simp) (by simp)
    simp [validateReceiptStatus, require_ok, source]

theorem actionSettled_payload (actionId : ActionId) (status : ActionStatus) :
    validatePublicPayloadShape [("action_id", actionId.text), ("status", statusName status)] 512 = .ok () := by
  have short := actionId.text_size
  have plain : isRawIdentityKey "action_id" = false ∧ isRawIdentityKey "status" = false := by decide
  have named : (statusName status).utf8ByteSize ≤ 512 := by cases status <;> decide
  have bounded : actionId.text.utf8ByteSize ≤ 512 := short.trans (by decide)
  simp only [validatePublicPayloadShape, forEach, bind_ok, require_ok, decide_eq_true_eq, plain, Bool.not_false]
  exact ⟨(), ⟨(), ⟨by decide, by decide, bounded⟩, trivial⟩, (), ⟨(), ⟨by decide, by decide, named⟩, trivial⟩, trivial⟩

theorem Accepted.dirtySnapshot (accepted : Accepted config state) (request : ActionRequest) :
    Accepted config (AgentycHost.dirtySnapshot state request) := by
  unfold AgentycHost.dirtySnapshot
  split
  · exact accepted
  · exact accepted.dirtied _ _

theorem dirtySnapshot_eq (state : LedgerState) (request : ActionRequest) :
    ∃ snapshots, dirtySnapshot state request = { state with snapshots } := by
  unfold dirtySnapshot
  split
  · exact ⟨_, rfl⟩
  · exact ⟨_, rfl⟩

theorem Accepted.drainEvents_eq (accepted : Accepted config state) : drainEvents config.limits state = state := by
  have bounds := accepted.bounds
  simp only [validateBounds, bind_ok, require_ok, decide_eq_true_eq] at bounds
  obtain ⟨_, _, _, _, _, _, _, events, _⟩ := bounds
  rw [drainEvents, Nat.sub_eq_zero_of_le events, List.drop_zero]

end Settling

/-- The counters have a next value, and the file has room for the outcome of a dispatch. -/
structure Room (config : LedgerConfig) (system : System) (dispatch : DispatchCall) (outcome : BridgeDispatchResult) :
    Prop where
  sequence : system.ledger.state.eventSequence < u64Max
  generation : (system.ledger.state.spaceGenerations.get? dispatch.request.spaceId).getD 0 < u64Max
  fits : ∀ receipt next,
    (finishDispatch system.lifecycle dispatch.actionId dispatch.request dispatch.authority outcome dispatch.now
      system.registry system.ledger.state).2 = .ok (receipt, next) ->
    config.codec.compactBytes (drainEvents config.limits next) ≤ config.limits.maxLedgerBytes ∧
      config.codec.prettyBytes (drainEvents config.limits next) ≤ config.limits.maxLedgerBytes

section Committing

variable {config : HostConfig} {env : Environment} {before after start last : System} {key : Nat}
  {dispatch : DispatchCall} {outcome : BridgeDispatchResult} {trace : List (Moment System Label)}
  {receipt : ActionReceipt} {result : Except HostError Unit}

theorem finishDispatch_accepted (valid : Valid config.ledger before.ledger.state)
    (open_ : RunningOpen before.ledger.state) (epoch : before.ledger.state.brokerEpoch ≠ 0)
    (found : before.ledger.state.actions.get? dispatch.actionId = some receipt) (carries : Carries dispatch receipt)
    (room : Room config.ledger before dispatch outcome) :
    ∃ recorded next,
      (finishDispatch before.lifecycle dispatch.actionId dispatch.request dispatch.authority outcome dispatch.now
        before.registry before.ledger.state).2 = .ok (recorded, next) ∧
      Accepted config.ledger (drainEvents config.ledger.limits next) ∧
      (drainEvents config.ledger.limits next).actions.get? dispatch.actionId = some recorded ∧
      Carries dispatch recorded ∧ recorded.status ≠ .running := by
  have accepted := (valid_iff.mp valid).toAccepted
  by_cases running : receipt.status = .running
  · obtain ⟨settled, moved, settles⟩ := valid.settles found running (open_ _ _ found running)
      (recordedOutcome before.lifecycle before.ledger.state dispatch.request dispatch.authority outcome dispatch.now)
      dispatch.now
    obtain ⟨_, space, checked⟩ := valid.checked found
    -- settle the receipt, mark the snapshot, append the event
    have recorded := (accepted.settling found settles).dirtySnapshot dispatch.request
    obtain ⟨snapshots, marked⟩ := dirtySnapshot_eq
      { before.ledger.state with actions := before.ledger.state.actions.insert dispatch.actionId settled }
      dispatch.request
    have known : before.ledger.state.spaces.contains dispatch.request.spaceId = true := by
      rw [Table.contains, ← carries.1, checked.located]
      rfl
    rw [marked] at recorded
    have shape := actionSettled_payload dispatch.actionId settled.status
    have announces : Announces _ _ (.space dispatch.request.spaceId) .actionChanged _ := recorded.announces epoch rfl (by simp)
    have appended : actionSettled _ dispatch.request.spaceId dispatch.actionId (statusName settled.status)
        settled.unknown = .ok _ :=
      announces.appends_iff.mpr ⟨⟨shape, room.sequence, room.generation⟩, rfl⟩
    obtain ⟨_, drained⟩ := announced_appended config.ledger.limits announces.inside (fun _ paged => by cases paged) shape
    refine ⟨settled, _, ?_, recorded.appending known drained, ?_, carries.later settles.same, settles.notRunning⟩
    · simp only [finishDispatch, found, running, ne_eq, not_true_eq_false, if_false, moved]
      rw [marked, appended]
      rfl
    · obtain ⟨⟨_, result⟩, _⟩ := drained
      rw [result]
      exact Table.get?_insert_self _ _ _
  · refine ⟨receipt, before.ledger.state, ?_, ?_, ?_, carries, running⟩
    · simp [finishDispatch, found, running]
    · rw [accepted.drainEvents_eq]
      exact accepted
    · exact found

theorem commitRefs_written {A : Type} {transition : RefTransition A} {value : A} {next : LedgerState}
    (moved : (transition before.registry before.ledger.state).2 = .ok (value, next))
    (accepted : Accepted config.ledger (drainEvents config.ledger.limits next))
    (compact : config.ledger.codec.compactBytes (drainEvents config.ledger.limits next) ≤
      config.ledger.limits.maxLedgerBytes)
    (pretty : config.ledger.codec.prettyBytes (drainEvents config.ledger.limits next) ≤
      config.ledger.limits.maxLedgerBytes)
    (written : env.io = .written) :
    (before.commitRefs config env transition).2 = .ok value ∧
      (before.commitRefs config env transition).1.ledger.state = drainEvents config.ledger.limits next := by
  have committed : before.ledger.update config.ledger .written (fun state => (transition before.registry state).2) =
      (_, .ok value) := Ledger.update_written.mpr ⟨next, moved, accepted, compact, pretty, rfl⟩
  simp [System.commitRefs, written, committed]

theorem HostRun.brokerEpoch_pos (run : HostRun config start trace last) (initial : Initial config start) :
    last.ledger.state.brokerEpoch ≠ 0 :=
  (run.ledger_keeps (fun state => state.brokerEpoch ≠ 0) initial (by simp [LedgerState.new])
    (fun _ _ _ valid positive taken => (taken.spaceEffect valid).brokerEpoch ▸ positive)
    fun _ _ _ _ opened => openLedger_brokerEpoch opened ▸ Nat.succ_ne_zero _).2.1

def outcomeFits (config : LedgerConfig) (system : System) (dispatch : DispatchCall) (outcome : BridgeDispatchResult) : Bool :=
  match (finishDispatch system.lifecycle dispatch.actionId dispatch.request dispatch.authority outcome dispatch.now
      system.registry system.ledger.state).2 with
  | .error _ => true
  | .ok (_, next) =>
      decide (config.codec.compactBytes (drainEvents config.limits next) ≤ config.limits.maxLedgerBytes) &&
        decide (config.codec.prettyBytes (drainEvents config.limits next) ≤ config.limits.maxLedgerBytes)

theorem Room.of_fits (sequence : before.ledger.state.eventSequence < u64Max)
    (generation : (before.ledger.state.spaceGenerations.get? dispatch.request.spaceId).getD 0 < u64Max)
    (fit : outcomeFits config.ledger before dispatch outcome = true) : Room config.ledger before dispatch outcome := by
  refine ⟨sequence, generation, fun receipt next moved => ?_⟩
  rw [outcomeFits, moved] at fit
  simpa using fit

def fencedOnce : List Label := sentOnce ++
  [(sampleEnv, .takeover 1 ⟨1⟩ sampleTicket 40 1000 none),
   (sampleEnv, .dispatchAnswered 7 (.ok .succeeded) none)]

def hasRoom (last : System) : Bool :=
  match last.calls.get? 7, step sampleConfig sampleEnv (.finishDispatch 7) last with
  | some (.dispatch dispatch (.answered outcome)), some _ =>
      decide (dispatch.actionId = firstRequest.actionId) &&
        last.ledger.state.spaces.contains dispatch.request.spaceId &&
        decide (last.ledger.state.eventSequence < u64Max) &&
        decide ((last.ledger.state.spaceGenerations.get? dispatch.request.spaceId).getD 0 < u64Max) &&
        outcomeFits sampleConfig.ledger last dispatch outcome
  | _, _ => false

def finishClaim : Claim := { spaceId := ⟨1⟩, authority := sampleTicket, leaseEpoch := 2, now := 50 }

def prunedOnce : List Label := sentOnce ++
  [(reconcilingEnv, .takeover 1 ⟨1⟩ sampleTicket 40 1000 none),
   (reconcilingEnv, .fenceAnswered 1 { acknowledged := true, error := none }),
   (reconcilingEnv, .reconcileAction 2 firstRequest.actionId sampleTicket 2 50),
   (reconcilingEnv, .reconcileAnswered 2 (some .succeeded)),
   (reconcilingEnv, .finishSpace 3 finishClaim []),
   (reconcilingEnv, .claimFinish 3),
   (reconcilingEnv, .completeFinish 3),
   (reconcilingEnv, .releaseSpace finishClaim),
   (reconcilingEnv, .pruneReleasedSpaces sampleTicket 1),
   (reconcilingEnv, .dispatchAnswered 7 (.ok .succeeded) none)]

def finishFails (last : System) : Bool :=
  match last.calls.get? 7, step sampleConfig reconcilingEnv (.finishDispatch 7) last with
  | some (.dispatch _ (.answered _)), some (_, .error _) => true
  | _, _ => false

end Committing

end AgentycHost
