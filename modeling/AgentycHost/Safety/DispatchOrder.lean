import AgentycHost.Effects.Dispatches
import AgentycHost.Effects.Recovery

set_option autoImplicit false

/-! # Queues and receipts over whole runs -/

namespace AgentycHost

open Shared

variable {config : LedgerConfig} {calls : Table Nat Call} {command : Command} {before after disk state : LedgerState}
  {spaceId : SpaceId} {first second actionId : ActionId} {receipt : ActionReceipt}

/-- The receipt went on, or its space is pruned. -/
def LastsIn (actionId : ActionId) (receipt : ActionReceipt) (state : LedgerState) : Prop :=
  (∃ now, state.actions.get? actionId = some now ∧ LaterReceipt receipt now) ∨
    state.spaces.get? receipt.spaceId = none ∧ receipt.spaceId.number ≤ state.nextSpaceNumber

/-- An action that will not be in the queue of the space again. -/
def OutOf (spaceId : SpaceId) (actionId : ActionId) (state : LedgerState) : Prop :=
  ∃ receipt : ActionReceipt, receipt.spaceId = spaceId ∧ receipt.status ≠ .queued ∧ LastsIn actionId receipt state

/-- The first action is ahead of the second one in the queue, or one of them has left it. -/
structure AheadOf (spaceId : SpaceId) (first second : ActionId) (state : LedgerState) : Prop where
  numbered : SpacesNumbered state
  line : [first, second].Sublist (state.queue spaceId) ∨ OutOf spaceId first state ∨ OutOf spaceId second state

section Lasting

theorem LedgerStep.lasts (valid : Valid config before) (numbered : SpacesNumbered before)
    (taken : LedgerStep config calls command before after) (lasts : LastsIn actionId receipt before) :
    LastsIn actionId receipt after := by
  have effect := taken.spaceEffect valid
  obtain ⟨now, found, follows⟩ | ⟨gone, known⟩ := lasts
  · obtain ⟨later, there, more⟩ | ⟨_, _, _, emptied⟩ := taken.receipt_later found
    · exact .inl ⟨later, there, follows.trans more⟩
    · obtain ⟨_, space, checked⟩ := valid.checked found
      have present := numbered now.spaceId (by simp [standing_some checked.located])
      rw [follows.same.spaceId] at emptied present
      exact .inr ⟨emptied, present.trans effect.numbers⟩
  · exact .inr ⟨taken.gone valid gone known, known.trans effect.numbers⟩

theorem openLedger_lasts (opened : openLedger config disk = .ok state) (lasts : LastsIn actionId receipt disk) :
    LastsIn actionId receipt state := by
  obtain ⟨now, found, follows⟩ | ⟨gone, known⟩ := lasts
  · obtain ⟨later, there, more⟩ := openLedger_later_receipt opened found
    exact .inl ⟨later, there, follows.trans more⟩
  · refine .inr ⟨?_, ?_⟩
    · simpa [LedgerState.standing, gone] using openLedger_standing opened receipt.spaceId
    · rw [openLedger_numbers opened]
      exact known

theorem AheadOf.later {between : LedgerState} (valid : Valid config between) (after : Valid config state)
    (numbered : SpacesNumbered state)
    (lasts : ∀ actionId receipt, LastsIn actionId receipt between -> LastsIn actionId receipt state)
    (order : [first, second].Sublist (between.queue spaceId) -> first ∈ state.queue spaceId ->
      [first, second].Sublist (state.queue spaceId))
    (line : AheadOf spaceId first second between) : AheadOf spaceId first second state := by
  have out {actionId : ActionId} (out : OutOf spaceId actionId between) : OutOf spaceId actionId state := by
    obtain ⟨receipt, located, left, kept⟩ := out
    exact ⟨receipt, located, left, lasts actionId receipt kept⟩
  refine ⟨numbered, ?_⟩
  obtain queued | left | left := line.line
  · obtain ⟨receipt, found, rfl, _⟩ := valid.queued_receipt (queued.subset List.mem_cons_self)
    obtain ⟨now, there, follows⟩ | gone := lasts first receipt (.inl ⟨receipt, found, .refl receipt⟩)
    · by_cases waits : now.status = .queued
      · exact .inl (order queued (after.mem_queue_iff.mpr ⟨now, there, waits, follows.same.spaceId⟩))
      · exact .inr (.inl ⟨now, follows.same.spaceId, waits, .inl ⟨now, there, .refl now⟩⟩)
    · -- any receipt of a pruned space is out
      exact .inr (.inl ⟨{ receipt with status := .cancelled }, rfl, ActionStatus.noConfusion, .inr gone⟩)
  · exact .inr (.inl (out left))
  · exact .inr (.inr (out left))

end Lasting

section Steps

theorem Valid.head_once {tail : List ActionId} (valid : Valid config state)
    (queue : state.queue spaceId = actionId :: tail) : actionId ∉ tail := by
  intro again
  unfold LedgerState.queue at queue
  cases found : state.actionQueues.get? spaceId with
  | none => simp [found] at queue
  | some ids =>
    rw [found, Option.getD_some] at queue
    subst queue
    obtain ⟨_, checked⟩ := forEachAfter_mem valid.checks.queues ((Table.mem_entries _ _ _).mpr found)
    simp only [validateQueue, bind_ok] at checked
    obtain ⟨_, _, _, _, each⟩ := checked
    obtain ⟨between, rest, rfl⟩ := List.append_of_mem again
    have one := forEachAfter_ok.mp each (actionId :: between) actionId rest rfl
    simp [validateQueuedId, bind_ok, require_ok] at one

theorem SameActions.queue (same : SameActions before after) (spaceId : SpaceId) :
    after.queue spaceId = before.queue spaceId := by
  unfold LedgerState.queue
  rw [same.queues]

/-- A step appends to a queue, starts its head, or empties it. -/
theorem ActionEffect.queue (effect : ActionEffect command before after) (spaceId : SpaceId) :
    (∃ new, after.queue spaceId = before.queue spaceId ++ new) ∨
      (∃ head receipt, before.queue spaceId = head :: after.queue spaceId ∧
        after.actions.get? head = some receipt ∧ receipt.status = .running) ∨ after.queue spaceId = [] := by
  have kept (same : after.actionQueues = before.actionQueues) :
      ∃ new, after.queue spaceId = before.queue spaceId ++ new := by
    refine ⟨[], ?_⟩
    unfold LedgerState.queue
    rw [same, List.append_nil]
  cases effect with
  | same unchanged => exact .inl (kept unchanged.queues)
  | settled _ _ _ update | reconciling _ _ _ update | reconciled _ _ _ _ update => exact .inl (kept update.queues)
  | stopped _ _ queues => exact .inl (kept queues)
  | @admitted request _ _ _ _ _ _ update =>
    rw [update.queue]
    unfold LedgerState.queue AgentycHost.admitted
    dsimp only
    rw [Table.get?_insert]
    split_ifs with own
    · exact .inl ⟨[request.actionId], by rw [own]; rfl⟩
    · exact .inl ⟨[], (List.append_nil _).symm⟩
  | @marked _ actionId _ _ _ request receipt _ dispatchable _ update =>
    have marked : after.actions.get? actionId =
        some { receipt with status := .running, dispatchState := .dispatched } := by
      rw [update.actions, markedRunning, Table.get?_insert, if_pos rfl]
    have head := dispatchable.head
    rw [update.queue]
    unfold LedgerState.queue at head ⊢
    unfold markedRunning popQueue
    dsimp only
    rw [Table.get?_modify]
    split_ifs with own
    · subst own
      cases stored : before.actionQueues.get? request.spaceId with
      | none => exact .inr (.inr rfl)
      | some queue =>
        obtain ⟨tail, rfl⟩ := List.head?_eq_some_iff.mp (stored ▸ head)
        exact .inr (.inl ⟨actionId, _, rfl, marked, rfl⟩)
    · exact .inl ⟨[], (List.append_nil _).symm⟩
  | fenced _ queues =>
    unfold LedgerState.queue
    rw [queues, Table.get?_erase]
    split_ifs with own
    · exact .inr (.inr rfl)
    · exact .inl ⟨[], (List.append_nil _).symm⟩
  | pruned _ update =>
    unfold LedgerState.queue
    rw [update.queues]
    split_ifs with inside
    · exact .inr (.inr rfl)
    · exact .inl ⟨[], (List.append_nil _).symm⟩

theorem LedgerStep.aheadOf (valid : Valid config before) (taken : LedgerStep config calls command before after)
    (line : AheadOf spaceId first second before) : AheadOf spaceId first second after := by
  refine line.later valid taken.valid (taken.numbered valid line.numbered)
    (fun _ _ => taken.lasts valid line.numbered) ?_
  intro queued stays
  obtain ⟨new, appended⟩ | ⟨head, _, popped, there, started⟩ | emptied := taken.actionEffect.queue spaceId
  · rw [appended]
    exact queued.trans (List.sublist_append_left _ _)
  · rw [popped] at queued
    cases queued with
    | cons _ behind => exact behind
    | cons_cons =>
      -- the head is no longer queued
      obtain ⟨receipt, found, _, queued⟩ := taken.valid.queued_receipt stays
      rw [there] at found
      rw [← Option.some.inj found, started] at queued
      cases queued
  · rw [emptied] at stays
    cases stays

theorem openLedger_aheadOf (valid : Valid config disk) (opened : openLedger config disk = .ok state)
    (line : AheadOf spaceId first second disk) : AheadOf spaceId first second state := by
  refine line.later valid (openLedger_valid opened) (openLedger_numbered line.numbered opened)
    (fun _ _ => openLedger_lasts opened) ?_
  intro queued stays
  have queue : (recovered disk).queue spaceId = _ := recovered_queue spaceId
  rw [recovered, ← openLedger_ok opened] at queue
  rw [queue] at stays ⊢
  split_ifs at stays ⊢
  · cases stays
  · exact queued

end Steps

section Runs

variable {config : HostConfig} {start middle last : System} {trace later : List (Moment System Label)}
  {moment : Moment System Label}

theorem started_first {config : LedgerConfig} (valid : Valid config before)
    (taken : LedgerStep config calls command before after) (found : before.actions.get? second = some receipt)
    (queued : receipt.status = .queued) (running : (after.actions.get? second).map (·.status) = some .running) :
    (before.queue receipt.spaceId).head? = some second := by
  have change := taken.actionEffect.change second
  rw [found] at change
  generalize after.actions.get? second = now at change running
  cases change with
  | started _ dispatchable =>
    have head := dispatchable.head
    obtain ⟨_, there, located, _⟩ := valid.queued_receipt (List.mem_of_mem_head? head)
    rw [found] at there
    rw [Option.some.inj there, located]
    exact head
  | @moved _ next move =>
    have runs : next.status = .running := Option.some.inj running
    obtain same | status := move.status
    · rw [same, queued] at runs
      cases runs
    · exact (runs ▸ status).to_running.elim
  | pruned => cases running

/-- When an action of a space is started, every action that was once ahead of it in the queue of the space has left the
queue, whichever steps and restarts came between. -/
theorem dispatched_in_order (initial : Initial config start) (early : HostRun config start trace middle)
    (late : HostRun config middle later last) (line : [first, second].Sublist (middle.ledger.state.queue spaceId))
    (inside : moment ∈ later) (found : moment.before.ledger.state.actions.get? second = some receipt)
    (queued : receipt.status = .queued) (located : receipt.spaceId = spaceId)
    (running : (moment.after.ledger.state.actions.get? second).map (·.status) = some .running) :
    ∃ ahead, moment.before.ledger.state.actions.get? first = some ahead ∧ ahead.status ≠ .queued := by
  obtain ⟨earlier, rest, before, taken, _⟩ := late.at_moment inside
  have valid := (HostRun.sound (early.append before) initial).valid
  have kept : AheadOf spaceId first second moment.before.ledger.state :=
    early.ledger_keeps_from (AheadOf spaceId first second) initial before ⟨early.numbered initial, .inl line⟩
      (fun _ _ _ valid line made => made.aheadOf valid line) fun _ _ valid line opened => openLedger_aheadOf valid opened line
  -- the space is there, so that a receipt that lasts is there
  have present {actionId : ActionId} (out : OutOf spaceId actionId moment.before.ledger.state) :
      ∃ now, moment.before.ledger.state.actions.get? actionId = some now ∧ now.status ≠ .queued := by
    obtain ⟨old, rfl, left, ⟨now, there, follows⟩ | ⟨gone, _⟩⟩ := out
    · exact ⟨now, there, follows.left left⟩
    · obtain ⟨_, _, checked⟩ := valid.checked found
      rw [← located, checked.located] at gone
      cases gone
  obtain ahead | out | out := kept.line
  · exfalso
    obtain moved | ⟨failures, state, _, opened, same⟩ := next_ledger taken
    · generalize moment.after.ledger = ledger at moved running
      cases moved with
      | same | written => simp [found, queued] at running
      | committed made =>
        obtain ⟨tail, queue⟩ := List.head?_eq_some_iff.mp (started_first valid made found queued running)
        rw [located] at queue
        -- the second action is the head, so that it stands in the queue once
        refine valid.head_once queue ?_
        rw [queue] at ahead
        cases ahead with
        | cons _ behind => exact behind.subset (List.mem_cons_of_mem _ (List.mem_singleton_self _))
        | cons_cons _ behind => exact behind.subset (List.mem_singleton_self _)
    · -- nothing runs after a restart
      rw [same] at running
      obtain ⟨receipt, there, runs⟩ := Option.map_eq_some_iff.mp running
      obtain ⟨_, last⟩ := reopenLedger_last opened
      obtain ⟨_, _, _, stopped⟩ := openLedger_receipt last there
      exact stopped runs
  · exact present out
  · obtain ⟨now, there, left⟩ := present out
    rw [found] at there
    exact absurd (Option.some.inj there ▸ queued) left

/-- A receipt keeps its request, does not come back to the queue, and once settled stays as it is, until its space is
pruned. -/
theorem receipts_last (initial : Initial config start) (early : HostRun config start trace middle)
    (late : HostRun config middle later last) (found : middle.ledger.state.actions.get? actionId = some receipt) :
    (∃ now, last.ledger.state.actions.get? actionId = some now ∧ LaterReceipt receipt now) ∨
      last.ledger.state.spaces.get? receipt.spaceId = none := by
  have kept := early.ledger_keeps_from (fun state => SpacesNumbered state ∧ LastsIn actionId receipt state) initial late
    ⟨early.numbered initial, .inl ⟨receipt, found, .refl receipt⟩⟩
    (fun _ _ _ valid held taken => ⟨taken.numbered valid held.1, taken.lasts valid held.1 held.2⟩)
    fun _ _ _ held opened => ⟨openLedger_numbered held.1 opened, openLedger_lasts opened held.2⟩
  exact kept.2.imp_right And.left

end Runs

section Sample

def queuedTwice : List Label := queuedOnce ++ [(sampleEnv, .enqueueAction secondRequest sampleTicket 20 none)]

def startedInOrder : List Label :=
  [(sampleEnv, .dispatchAction 7 firstRequest.actionId sampleTicket 1 30),
   (sampleEnv, .acquirePermit 7),
   (sampleEnv, .recheckDispatch 7),
   (sampleEnv, .sendDispatch 7),
   (sampleEnv, .dispatchAnswered 7 (.ok .succeeded) none),
   (sampleEnv, .finishDispatch 7),
   (sampleEnv, .dispatchAction 8 secondRequest.actionId sampleTicket 1 50)]

def startsSecond (moment : Moment System Label) : Bool :=
  ((moment.before.ledger.state.actions.get? secondRequest.actionId).any fun receipt =>
      receipt.status == .queued && receipt.spaceId == ⟨1⟩) &&
    (moment.after.ledger.state.actions.get? secondRequest.actionId).map (·.status) == some .running

theorem dispatched_in_order_sample :
    ∃ moment : Moment System Label, startsSecond moment = true ∧
      ∃ ahead, moment.before.ledger.state.actions.get? firstRequest.actionId = some ahead ∧ ahead.status ≠ .queued := by
  obtain ⟨middle, last, later, early, late, passed⟩ := HostRun.of_advances sampleConfig (.fresh sampleConfig) queuedTwice
    startedInOrder (fun middle _ later =>
      middle.ledger.state.queue ⟨1⟩ == [firstRequest.actionId, secondRequest.actionId] && later.any startsSecond)
    (by decide +kernel)
  obtain ⟨queue, starting⟩ := Bool.and_eq_true_iff.mp passed
  obtain ⟨moment, inside, starts⟩ := List.any_eq_true.mp starting
  obtain ⟨waits, running⟩ := Bool.and_eq_true_iff.mp starts
  obtain ⟨receipt, found, queued⟩ := (Option.any_eq_true _ _).mp waits
  obtain ⟨queued, located⟩ := Bool.and_eq_true_iff.mp queued
  refine ⟨moment, starts, ?_⟩
  exact dispatched_in_order sample_initial early late (eq_of_beq queue ▸ .refl _) (List.mem_reverse.mpr inside) found
    (eq_of_beq queued) (eq_of_beq located) (eq_of_beq running)

/-- A settled receipt outlives a restart as it is. -/
theorem receipts_last_sample :
    ∃ middle last : System, ∃ receipt, middle.ledger.state.actions.get? firstRequest.actionId = some receipt ∧
      last.ledger.state.actions.get? firstRequest.actionId = some receipt := by
  obtain ⟨middle, last, later, early, late, passed⟩ := HostRun.of_advances sampleConfig (.fresh sampleConfig) settledOnce
    [(sampleEnv, .restart 0)] (fun middle last _ =>
      ((middle.ledger.state.actions.get? firstRequest.actionId).any fun receipt =>
        receipt.status == .succeeded && receipt.spaceId == ⟨1⟩) && (last.ledger.state.spaces.get? ⟨1⟩).isSome)
    (by decide +kernel)
  obtain ⟨settled, there⟩ := Bool.and_eq_true_iff.mp passed
  obtain ⟨receipt, found, ended⟩ := (Option.any_eq_true _ _).mp settled
  obtain ⟨ended, located⟩ := Bool.and_eq_true_iff.mp ended
  obtain ⟨now, placed, follows⟩ | gone := receipts_last sample_initial early late found
  · have same := follows.final (by rw [eq_of_beq ended]; rfl)
    exact ⟨middle, last, receipt, found, same ▸ placed⟩
  · rw [eq_of_beq located] at gone
    rw [gone] at there
    cases there

end Sample

end AgentycHost
