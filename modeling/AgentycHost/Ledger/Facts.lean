import AgentycHost.Ledger.Commit
import Mathlib.Data.List.Induction

set_option autoImplicit false

/-!
# What the validator guarantees

A state that a commit or an opening put in memory passed `validateState`; the
facts about queues, receipts and fences used later are read off it here.
-/

namespace AgentycHost

open Shared

def Valid (config : LedgerConfig) (state : LedgerState) : Prop :=
  validateState config.codec config.limits state = .ok ()

variable {config : LedgerConfig} {state : LedgerState} {spaceId : SpaceId} {actionId : ActionId}
  {receipt : ActionReceipt} {A : Type} {space : SpaceDescriptor} {pending : PendingFenceRecord}
  {page : PageDescriptor} {event : EventRecord}

theorem Committable.valid {transition : Transition A} {before after : LedgerState}
    (made : Committable config transition before after) : Valid config after := by
  obtain ⟨_, _, _, _, valid⟩ := made
  exact valid

structure Accepted (config : LedgerConfig) (state : LedgerState) : Prop where
  bounds : validateBounds config.limits state = .ok ()
  spaces : forEachAfter (validateSpace config.limits state) [] state.spaces.entries = .ok ()
  indexes : validateIndexes state = .ok ()
  controlTickets : validateControlTickets state = .ok ()
  pendingFences : forEach (validatePendingFence state) state.pendingFences.entries = .ok ()
  takeoverProofs : forEach (validateTakeoverProofs state) state.takeoverProofs.entries = .ok ()
  queues : forEachAfter (validateQueue config.limits state) [] state.actionQueues.entries = .ok ()
  actions : validateActions config.codec state = .ok ()
  snapshots : validateSnapshots config.codec config.limits state = .ok ()
  events : validateEvents config.limits state = .ok ()

structure Checked (config : LedgerConfig) (state : LedgerState) : Prop extends Accepted config state where
  bytes : config.codec.compactBytes state ≤ config.limits.maxLedgerBytes

theorem valid_iff : Valid config state <-> Checked config state := by
  simp only [Valid, validateState, bind_ok, require_ok, decide_eq_true_eq]
  constructor
  · rintro ⟨_, bounds, _, spaces, _, indexes, _, tickets, _, fences, _, proofs, _, queues, _, actions, _, snapshots, _,
      events, bytes⟩
    exact ⟨⟨bounds, spaces, indexes, tickets, fences, proofs, queues, actions, snapshots, events⟩, bytes⟩
  · intro checked
    exact ⟨_, checked.bounds, _, checked.spaces, _, checked.indexes, _, checked.controlTickets, _,
      checked.pendingFences, _, checked.takeoverProofs, _, checked.queues, _, checked.actions, _, checked.snapshots, _,
      checked.events, checked.bytes⟩

theorem Valid.checks (valid : Valid config state) : Checked config state := valid_iff.mp valid

theorem Ledger.update_written {transition : Transition A} {ledger committed : Ledger} {value : A} :
    ledger.update config .written transition = (committed, .ok value) <->
      ∃ next, transition ledger.state = .ok (value, next) ∧
        Accepted config (drainEvents config.limits next) ∧
        config.codec.compactBytes (drainEvents config.limits next) ≤ config.limits.maxLedgerBytes ∧
        config.codec.prettyBytes (drainEvents config.limits next) ≤ config.limits.maxLedgerBytes ∧
        committed = { state := drainEvents config.limits next, disk := drainEvents config.limits next } := by
  unfold Ledger.update
  rw [if_neg (by decide)]
  constructor
  · intro done
    split at done
    · cases done
    · next moved =>
      dsimp only at done
      split at done
      · cases done
      · next valid =>
        split_ifs at done with large
        · cases done
        · cases done
          have checked := Valid.checks valid
          exact ⟨_, moved, checked.toAccepted, checked.bytes, Nat.le_of_not_lt large, rfl⟩
  · rintro ⟨next, moved, accepted, compact, pretty, rfl⟩
    have valid : validateState config.codec config.limits (drainEvents config.limits next) = .ok () :=
      valid_iff.mpr { accepted with bytes := compact }
    simp [moved, valid, Nat.not_lt.mpr pretty]

theorem forEachAfter_mem {E : Type} {check : List A -> A -> Except E Unit} {items : List A} {item : A}
    (checked : forEachAfter check [] items = .ok ()) (member : item ∈ items) :
    ∃ earlier, check earlier item = .ok () := by
  obtain ⟨before, after, split⟩ := List.append_of_mem member
  have one := forEachAfter_ok.mp checked before item after split
  rw [List.nil_append] at one
  exact ⟨before, one⟩

theorem Accepted.lifecycle (accepted : Accepted config state) (found : state.spaces.get? spaceId = some space) :
    validateSpaceLifecycle state spaceId space = .ok () := by
  obtain ⟨earlier, checked⟩ := forEachAfter_mem accepted.spaces ((Table.mem_entries _ _ _).mpr found)
  simp only [validateSpace, bind_ok, require_ok] at checked
  obtain ⟨_, _, _, _, _, _, _, _, _, _, _, _, _, _, ⟨⟩, lifecycle, _⟩ := checked
  exact lifecycle

theorem Valid.matches_lease (valid : Valid config state) (found : state.spaces.get? spaceId = some space) :
    lifecycleMatchesLease state spaceId space = true := by
  have lifecycle := valid.checks.lifecycle found
  simp only [validateSpaceLifecycle, bind_ok, require_ok] at lifecycle
  obtain ⟨_, matched, _⟩ := lifecycle
  exact matched

theorem Valid.pendingFence (valid : Valid config state) (found : state.pendingFences.get? spaceId = some pending) :
    ∃ space, state.spaces.get? spaceId = some space ∧ space.lifecycle = .fencePending := by
  have one := forEach_ok.mp valid.checks.pendingFences _ ((Table.mem_entries _ _ _).mpr found)
  simp only [validatePendingFence, bind_ok, orElse_ok, require_ok, Bool.and_eq_true, beq_iff_eq] at one
  obtain ⟨space, known, _, _, _, ⟨⟨_, pending⟩, _⟩, _⟩ := one
  exact ⟨space, known, pending⟩

theorem Valid.pendingFence_older {epoch : LeaseEpoch} (valid : Valid config state)
    (found : state.pendingFences.get? spaceId = some pending) (old : pending.oldEpoch = some epoch) :
    epoch < pending.fenceEpoch := by
  have one := forEach_ok.mp valid.checks.pendingFences _ ((Table.mem_entries _ _ _).mpr found)
  simp only [validatePendingFence, bind_ok, orElse_ok, require_ok, Bool.and_eq_true, old, Option.all_some,
    decide_eq_true_eq] at one
  obtain ⟨_, _, _, _, _, ⟨_, older⟩, _⟩ := one
  exact older

theorem Valid.page_checked (valid : Valid config state) (found : state.spaces.get? spaceId = some space)
    (inside : page ∈ space.pages) :
    ∃ seen before after, space.pages = before ++ page :: after ∧
      validatePage spaceId (seen ++ pageIds before) page = .ok () := by
  obtain ⟨earlier, checked⟩ := forEachAfter_mem valid.checks.spaces ((Table.mem_entries _ _ _).mpr found)
  simp only [validateSpace, bind_ok] at checked
  obtain ⟨_, _, _, _, _, _, _, _, _, _, _, _, _, _, _, _, pages⟩ := checked
  obtain ⟨before, after, split⟩ := List.append_of_mem inside
  have one := forEachAfter_ok.mp pages before page after split
  exact ⟨_, before, after, split, one⟩

theorem Valid.page_of_mem (valid : Valid config state) (found : state.spaces.get? spaceId = some space)
    (inside : page ∈ space.pages) :
    space.page page.pageId = some page := by
  obtain ⟨_, before, after, split, one⟩ := valid.page_checked found inside
  simp only [validatePage, pageIds, bind_ok, require_ok, Bool.not_eq_true', List.contains_eq_mem,
    decide_eq_false_iff_not, List.mem_append, not_or] at one
  obtain ⟨_, _, _, _, _, _, _, _, _, ⟨_, fresh⟩, _⟩ := one
  rw [SpaceDescriptor.page, split, List.find?_append, List.find?_cons]
  have absent : before.find? (fun other => other.pageId == page.pageId) = none := by
    rw [List.find?_eq_none]
    intro other earlier same
    exact fresh (List.mem_map.mpr ⟨other, earlier, by simpa using same⟩)
  rw [absent]
  simp

theorem Valid.managed_admits {pageId : PageId} (valid : Valid config state)
    (found : state.page spaceId pageId = some page) (managed : page.lifecycle = .managed) :
    page.admitsAgentMutations = true := by
  obtain ⟨space, located, listed⟩ := Option.bind_eq_some_iff.mp found
  obtain ⟨_, _, _, _, one⟩ := valid.page_checked located (List.mem_of_find?_eq_some listed)
  simp only [validatePage, bind_ok, require_ok] at one
  obtain ⟨_, _, _, _, _, _, _, _, _, _, fits⟩ := one
  simpa [validPageLifecycle, managed] using fits

theorem Valid.queued_receipt (valid : Valid config state) (member : actionId ∈ state.queue spaceId) :
    ∃ receipt, state.actions.get? actionId = some receipt ∧ receipt.spaceId = spaceId ∧
      receipt.status = .queued := by
  unfold LedgerState.queue at member
  cases found : state.actionQueues.get? spaceId with
  | none => simp [found] at member
  | some queue =>
    rw [found, Option.getD_some] at member
    obtain ⟨earlier, checked⟩ :=
      forEachAfter_mem valid.checks.queues ((Table.mem_entries _ _ _).mpr found)
    simp only [validateQueue, bind_ok] at checked
    obtain ⟨_, _, _, _, ids⟩ := checked
    obtain ⟨before, one⟩ := forEachAfter_mem ids member
    simp only [validateQueuedId, bind_ok, orElse_ok, require_ok, Bool.and_eq_true, beq_iff_eq] at one
    obtain ⟨_, _, receipt, present, inside, queued⟩ := one
    exact ⟨receipt, present, inside, queued⟩

structure ReceiptChecked (config : LedgerConfig) (state : LedgerState) (actionId : ActionId)
    (receipt : ActionReceipt) (request : ActionRequest) (space : SpaceDescriptor) : Prop where
  named : receipt.actionId = actionId
  requested : state.actionRequests.get? actionId = some request
  matched : requestMatches config.codec actionId receipt request = true
  payload : validatePublicPayloadShape request.payload 65536 = .ok ()
  located : state.spaces.get? receipt.spaceId = some space
  target : validateActionTarget space receipt = .ok ()
  status : validateReceiptStatus ((queuedIds state).contains actionId) receipt = .ok ()
  indexed : state.idempotency.get? receipt.idempotencyKey = some actionId

theorem Valid.checked (valid : Valid config state) (found : state.actions.get? actionId = some receipt) :
    ∃ request space, ReceiptChecked config state actionId receipt request space := by
  have actions := valid.checks.actions
  simp only [validateActions, bind_ok] at actions
  obtain ⟨_, _, every⟩ := actions
  obtain ⟨_, one⟩ := forEachAfter_mem every ((Table.mem_entries _ _ _).mpr found)
  simp only [validateAction, bind_ok, require_ok, orElse_ok, Bool.and_eq_true, beq_iff_eq] at one
  obtain ⟨_, same, request, requested, _, matched, _, payload, space, located, _, target, _, status, _, _, other, known,
    ⟨rfl, _⟩⟩ := one
  exact ⟨request, space, same, requested, matched, payload, located, target, status, known⟩

theorem ReceiptChecked.fields {request : ActionRequest}
    (checked : ReceiptChecked config state actionId receipt request space) :
    request.spaceId = receipt.spaceId ∧ request.pageId = receipt.pageId ∧
      request.leaseEpoch = receipt.leaseEpoch ∧ request.operation = receipt.operation := by
  have matched := checked.matched
  simp only [requestMatches, Bool.and_eq_true, beq_iff_eq] at matched
  exact ⟨matched.1.1.1.1.1.2, matched.1.1.1.1.2, matched.1.1.1.2, matched.1.1.2⟩

theorem Valid.event_bounded (valid : Valid config state) (member : event ∈ state.events) :
    event.sequence ≤ state.eventSequence := by
  have events := valid.checks.events
  simp only [validateEvents, bind_ok] at events
  obtain ⟨_, checked, _⟩ := events
  obtain ⟨_, one⟩ := forEachAfter_mem checked member
  simp only [validateEvent, bind_ok, require_ok, Bool.and_eq_true, decide_eq_true_eq] at one
  obtain ⟨_, ⟨_, bounded⟩, _⟩ := one
  exact bounded

theorem Valid.event_epoch (valid : Valid config state) (member : event ∈ state.events) :
    event.brokerEpoch = state.brokerEpoch := by
  have events := valid.checks.events
  simp only [validateEvents, bind_ok] at events
  obtain ⟨_, checked, _⟩ := events
  obtain ⟨_, one⟩ := forEachAfter_mem checked member
  simp only [validateEvent, bind_ok, require_ok, Bool.and_eq_true, beq_iff_eq] at one
  obtain ⟨_, ⟨⟨⟨_, epoch⟩, _⟩, _⟩, _⟩ := one
  exact epoch

theorem Valid.events_length (valid : Valid config state) : state.events.length ≤ config.limits.maxEvents := by
  have bounds := valid.checks.bounds
  simp only [validateBounds, bind_ok, require_ok, decide_eq_true_eq] at bounds
  obtain ⟨_, _, _, _, _, _, _, fits, _⟩ := bounds
  exact fits

theorem lastSequence_concat (earlier : List EventRecord) (event : EventRecord) :
    lastSequence (earlier ++ [event]) = event.sequence := by
  simp [lastSequence]

theorem Valid.event_first {first : EventRecord} (valid : Valid config state) (head : state.events.head? = some first)
    (member : event ∈ state.events) : first.sequence ≤ event.sequence := by
  have events := valid.checks.events
  simp only [validateEvents, bind_ok] at events
  obtain ⟨_, checked, _⟩ := events
  have later : ∀ before after item, state.events = before ++ item :: after ->
      lastSequence before < item.sequence := by
    intro before after item split
    have one := forEachAfter_ok.mp checked before item after split
    simp only [validateEvent, bind_ok, require_ok, Bool.and_eq_true, decide_eq_true_eq, List.nil_append] at one
    obtain ⟨_, ⟨⟨_, above⟩, _⟩, _⟩ := one
    exact above
  -- on the prefixes of the history, from the last event backwards
  have ordered : ∀ before after, state.events = before ++ after -> ∀ item, item ∈ before ->
      (∀ first, before.head? = some first -> first.sequence ≤ item.sequence) ∧
        item.sequence ≤ lastSequence before := by
    intro before
    induction before using List.reverseRecOn with
    | nil => exact fun _ _ _ member => by cases member
    | append_singleton before last ih =>
      intro after split item member
      rw [List.append_assoc] at split
      have earlier := ih ([last] ++ after) split
      have above := later before after last split
      rw [lastSequence_concat]
      obtain member | only := List.mem_append.mp member
      · obtain ⟨least, below⟩ := earlier item member
        refine ⟨fun first head => ?_, Nat.le_trans below (Nat.le_of_lt above)⟩
        rw [List.head?_append_of_ne_nil _ (List.ne_nil_of_mem member)] at head
        exact least first head
      · obtain rfl := List.mem_singleton.mp only
        refine ⟨fun first head => ?_, Nat.le_refl _⟩
        cases before with
        | nil =>
          obtain rfl : item = first := Option.some.inj head
          exact Nat.le_refl _
        | cons lead rest =>
          obtain rfl : lead = first := Option.some.inj head
          exact Nat.le_trans (earlier lead List.mem_cons_self).2 (Nat.le_of_lt above)
  exact (ordered state.events [] (List.append_nil _).symm event member).1 first head

theorem mem_queue {state : LedgerState} {spaceId : SpaceId} {actionId : ActionId} :
    actionId ∈ state.queue spaceId <->
      ∃ queue, (spaceId, queue) ∈ state.actionQueues.entries ∧ actionId ∈ queue := by
  simp only [Table.mem_entries, LedgerState.queue]
  cases state.actionQueues.get? spaceId with
  | none => simp
  | some queue => simp

theorem mem_queuedIds {state : LedgerState} {actionId : ActionId} :
    actionId ∈ queuedIds state <-> ∃ spaceId, actionId ∈ state.queue spaceId := by
  simp only [queuedIds, List.mem_flatMap, Prod.exists, mem_queue]

theorem Valid.receipt_queued (valid : Valid config state) (found : state.actions.get? actionId = some receipt)
    (queued : receipt.status = .queued) : actionId ∈ state.queue receipt.spaceId := by
  obtain ⟨_, _, checked⟩ := valid.checked found
  have status := checked.status
  simp only [validateReceiptStatus, queued, require_ok, Bool.and_eq_true, List.contains_iff_mem] at status
  obtain ⟨spaceId, member⟩ := mem_queuedIds.mp status.1.1.1.2
  obtain ⟨same, lookup, rfl, _⟩ := valid.queued_receipt member
  rw [Option.some.inj (found.symm.trans lookup)]
  exact member

structure Indexed (state : LedgerState) : Prop where
  named : ∀ actionId receipt, state.actions.get? actionId = some receipt ->
    state.idempotency.get? receipt.idempotencyKey = some actionId
  resolved : ∀ key actionId, state.idempotency.get? key = some actionId ->
    ∃ receipt, state.actions.get? actionId = some receipt ∧ receipt.idempotencyKey = key

theorem Valid.indexed (valid : Valid config state) : Indexed state := by
  have named : ∀ actionId receipt, state.actions.get? actionId = some receipt ->
      state.idempotency.get? receipt.idempotencyKey = some actionId := by
    intro actionId receipt found
    obtain ⟨_, _, checked⟩ := valid.checked found
    exact checked.indexed
  have actions := valid.checks.actions
  simp only [validateActions, bind_ok, require_ok, Bool.and_eq_true, beq_iff_eq] at actions
  obtain ⟨_, ⟨_, sizes⟩, _⟩ := actions
  exact ⟨named, fun key actionId found => Table.index_exact sizes named found⟩

theorem Valid.drained (valid : Valid config state) :
    drainEvents config.limits state = state := by
  have bounds := valid.checks.bounds
  simp only [validateBounds, bind_ok, require_ok, decide_eq_true_eq] at bounds
  obtain ⟨_, _, _, _, _, _, _, few, _⟩ := bounds
  simp [drainEvents, Nat.sub_eq_zero_of_le few]

end AgentycHost
