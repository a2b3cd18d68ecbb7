import AgentycHost.Ledger.Kept
import Mathlib.Algebra.Order.BigOperators.Group.List
import Mathlib.Algebra.Order.Group.Nat

set_option autoImplicit false

/-!
# A ledger without some of its spaces

What is left when spaces go with every record that is indexed by them, by their
pages or by their actions, and why the validator still takes it.
-/

namespace AgentycHost

open Shared

section Histories

variable {state : LedgerState} {events : List EventRecord} {event : EventRecord}

theorem le_lastSequence (ordered : events.Pairwise fun one other => one.sequence < other.sequence)
    (member : event ∈ events) : event.sequence ≤ lastSequence events := by
  induction events using List.reverseRecOn with
  | nil => cases member
  | append_singleton before last ih =>
    rw [lastSequence_concat]
    obtain earlier | only := List.mem_append.mp member
    · apply Nat.le_of_lt
      exact (List.pairwise_append.mp ordered).2.2 event earlier last List.mem_cons_self
    · rw [List.mem_singleton.mp only]

theorem history_ok : forEachAfter (validateEvent state) [] events = .ok () <->
    (∀ event, event ∈ events -> validateEvent state [] event = .ok ()) ∧
      events.Pairwise fun one other => one.sequence < other.sequence := by
  constructor
  · intro checked
    constructor
    · intro event member
      obtain ⟨earlier, one⟩ := forEachAfter_mem checked member
      apply validateEvent_forget earlier []
      rwa [List.append_nil]
    · induction events using List.reverseRecOn with
      | nil => exact List.Pairwise.nil
      | append_singleton before last ih =>
        obtain ⟨first, second⟩ := forEachAfter_append.mp checked
        have ordered := ih first
        refine List.pairwise_append.mpr ⟨ordered, List.pairwise_singleton _ _, ?_⟩
        intro one member other only
        rw [List.mem_singleton.mp only]
        -- the last event is above the one before it, and that one above all others
        simp only [forEachAfter, validateEvent, bind_ok, require_ok, Bool.and_eq_true, decide_eq_true_eq,
          List.nil_append] at second
        obtain ⟨_, ⟨_, ⟨⟨_, above⟩, _⟩, _⟩, _⟩ := second
        exact Nat.lt_of_le_of_lt (le_lastSequence ordered member) above
  · rintro ⟨every, ordered⟩
    rw [forEachAfter_ok]
    intro before item after split
    have one := every item (by simp [split])
    simp only [validateEvent, bind_ok, require_ok, Bool.and_eq_true, decide_eq_true_eq] at one ⊢
    obtain ⟨_, ⟨⟨known, positive⟩, bounded⟩, rest⟩ := one
    refine ⟨(), ⟨⟨known, ?_⟩, bounded⟩, rest⟩
    rw [List.nil_append]
    unfold lastSequence
    cases last : before.getLast? with
    | none => exact positive
    | some event =>
      rw [split] at ordered
      exact (List.pairwise_append.mp ordered).2.2 event (List.mem_of_getLast? last) item List.mem_cons_self

end Histories

def LedgerState.without (state : LedgerState) (gone : List SpaceId) : LedgerState :=
  { state with
    spaces := state.spaces.filter fun spaceId _ => !gone.contains spaceId
    spaceGenerations := state.spaceGenerations.filter fun spaceId _ => !gone.contains spaceId
    actionQueues := state.actionQueues.filter fun spaceId _ => !gone.contains spaceId
    profileBindings := state.profileBindings.filter fun spaceId _ => !gone.contains spaceId
    snapshots := state.snapshots.filter fun spaceId _ => !gone.contains spaceId
    takeoverProofs := state.takeoverProofs.filter fun spaceId _ => !gone.contains spaceId
    actions := state.actions.filter fun _ receipt => !gone.contains receipt.spaceId
    actionRequests := state.actionRequests.filter fun actionId _ =>
      !(state.actions.get? actionId).any fun receipt => gone.contains receipt.spaceId
    idempotency := state.idempotency.filter fun key _ =>
      !state.actions.any fun _ receipt => gone.contains receipt.spaceId && receipt.idempotencyKey == key
    events := state.events.filter fun event => !event.scope.spaceId.any gone.contains }

def LedgerState.noticed (state : LedgerState) (notices : List EventRecord) : LedgerState :=
  { state with
    eventSequence := state.eventSequence + notices.length
    events := state.events ++ notices }

variable {config : LedgerConfig} {state : LedgerState} {gone : List SpaceId} {spaceId : SpaceId} {actionId : ActionId}
  {receipt : ActionReceipt} {notices : List EventRecord}

section Lookups

variable {V : Type}

theorem get?_kept (table : Table SpaceId V) (kept : spaceId ∉ gone) :
    (table.filter fun spaceId _ => !gone.contains spaceId).get? spaceId = table.get? spaceId := by
  rw [Table.get?_filter]
  cases table.get? spaceId with
  | none => rfl
  | some value => simp [kept]

theorem get?_dropped (table : Table SpaceId V) (dropped : spaceId ∈ gone) :
    (table.filter fun spaceId _ => !gone.contains spaceId).get? spaceId = none := by
  rw [Table.get?_filter]
  cases table.get? spaceId with
  | none => rfl
  | some value => simp [dropped]

theorem contains_kept (table : Table SpaceId V) :
    (table.filter fun spaceId _ => !gone.contains spaceId).contains spaceId = true <->
      spaceId ∉ gone ∧ table.contains spaceId = true := by
  by_cases inside : spaceId ∈ gone
  · simp [Table.contains, inside]
  · simp [Table.contains, inside]

theorem without_space {space : SpaceDescriptor} : (state.without gone).spaces.get? spaceId = some space <->
    state.spaces.get? spaceId = some space ∧ spaceId ∉ gone := by
  simp [LedgerState.without, Option.filter_eq_some_iff]

theorem without_action : (state.without gone).actions.get? actionId = some receipt <->
    state.actions.get? actionId = some receipt ∧ receipt.spaceId ∉ gone := by
  simp [LedgerState.without, Option.filter_eq_some_iff]

theorem without_request {request : ActionRequest} :
    (state.without gone).actionRequests.get? actionId = some request <->
      state.actionRequests.get? actionId = some request ∧
        ∀ receipt, state.actions.get? actionId = some receipt -> receipt.spaceId ∉ gone := by
  simp [LedgerState.without, Option.filter_eq_some_iff, Option.any_eq_false]

theorem without_key {key : IdempotencyKey} : (state.without gone).idempotency.get? key = some actionId <->
    state.idempotency.get? key = some actionId ∧
      ∀ other receipt, state.actions.get? other = some receipt -> receipt.idempotencyKey = key ->
        receipt.spaceId ∉ gone := by
  simp only [LedgerState.without, Table.get?_filter, Option.filter_eq_some_iff, Bool.not_eq_true', Table.any_eq_false,
    Bool.and_eq_false_iff, List.contains_eq_mem, decide_eq_false_iff_not, beq_eq_false_iff_ne]
  refine and_congr_right fun _ => forall_congr' fun other => forall_congr' fun receipt => ?_
  tauto

theorem space_kept (state : LedgerState) (notices : List EventRecord) (limits : LedgerLimits) (kept : spaceId ∉ gone) :
    (drainEvents limits ((state.without gone).noticed notices)).spaces.get? spaceId = state.spaces.get? spaceId :=
  get?_kept state.spaces kept

end Lookups

section Acceptance

variable (valid : Valid config state)
  (released : ∀ spaceId, spaceId ∈ gone ->
    ∃ space, state.spaces.get? spaceId = some space ∧ space.lifecycle = .released)

include valid released in
theorem Valid.ticket_kept {ticket : ControlTicketRecord}
    (stored : state.controlTickets.get? spaceId = some ticket) :
    spaceId ∉ gone ∧ state.spaces.contains spaceId = true := by
  have tickets := (valid_iff.mp valid).controlTickets
  rw [validateControlTickets, require_ok, Table.all_eq_true] at tickets
  have matched := tickets spaceId ticket stored
  simp only [controlTicketMatches, Bool.and_eq_true, Option.any_eq_true, beq_iff_eq] at matched
  obtain ⟨_, owner, located, user, _⟩ := matched
  refine ⟨?_, (Table.contains_iff _ _).mpr ⟨owner, located⟩⟩
  intro inside
  obtain ⟨space, found, lifecycle⟩ := released spaceId inside
  obtain rfl : owner = space := Option.some.inj (located.symm.trans found)
  rw [lifecycle] at user
  cases user

include valid released in
theorem Valid.fence_kept {pending : PendingFenceRecord}
    (stored : state.pendingFences.get? spaceId = some pending) :
    spaceId ∉ gone ∧ state.spaces.contains spaceId = true := by
  obtain ⟨owner, located, waiting⟩ := valid.pendingFence stored
  refine ⟨?_, (Table.contains_iff _ _).mpr ⟨owner, located⟩⟩
  intro inside
  obtain ⟨space, found, lifecycle⟩ := released spaceId inside
  obtain rfl : owner = space := Option.some.inj (located.symm.trans found)
  rw [lifecycle] at waiting
  cases waiting

include valid in
theorem Valid.proofs_known {proofs : List TakeoverProofRecord}
    (stored : state.takeoverProofs.get? spaceId = some proofs) : state.spaces.contains spaceId = true := by
  have one := forEach_ok.mp (valid_iff.mp valid).takeoverProofs _ ((Table.mem_entries _ _ _).mpr stored)
  simp only [validateTakeoverProofs, bind_ok, orElse_ok] at one
  obtain ⟨space, found, _⟩ := one
  exact (Table.contains_iff _ _).mpr ⟨space, found⟩

include valid in
theorem Valid.generation_known (found : state.spaceGenerations.contains spaceId = true) :
    state.spaces.contains spaceId = true := by
  have indexes := (valid_iff.mp valid).indexes
  simp only [validateIndexes, bind_ok, require_ok, Bool.and_eq_true, beq_iff_eq, Table.all_eq_true] at indexes
  obtain ⟨_, ⟨sizes, every⟩, _⟩ := indexes
  refine Table.contains_of_size sizes (fun spaceId present => ?_) found
  obtain ⟨space, located⟩ := (Table.contains_iff _ _).mp present
  exact every spaceId space located

include valid in
theorem Valid.request_known (found : state.actionRequests.contains actionId = true) :
    state.actions.contains actionId = true := by
  have actions := (valid_iff.mp valid).actions
  simp only [validateActions, bind_ok, require_ok, Bool.and_eq_true, beq_iff_eq] at actions
  obtain ⟨_, ⟨sizes, _⟩, _⟩ := actions
  refine Table.contains_of_size sizes (fun actionId present => ?_) found
  obtain ⟨receipt, stored⟩ := (Table.contains_iff _ _).mp present
  obtain ⟨request, _, checked⟩ := valid.checked stored
  exact (Table.contains_iff _ _).mpr ⟨request, checked.requested⟩

include valid released in
theorem Valid.bounds_without :
    validateBounds config.limits (drainEvents config.limits ((state.without gone).noticed notices)) = .ok () := by
  have bounds := (valid_iff.mp valid).bounds
  simp only [validateBounds, bind_ok, require_ok, decide_eq_true_eq, Bool.and_eq_true, beq_iff_eq] at bounds ⊢
  obtain ⟨_, schema, _, spaces, _, actions, _⟩ := bounds
  refine ⟨(), schema, (), ?_, (), ?_, (), ?_, (), ?_, ?_, ?_⟩
  · exact Nat.le_trans (Table.size_filter_le _ _) spaces
  · exact Nat.le_trans (Table.size_filter_le _ _) actions
  · simp only [LedgerState.noticed, drainEvents, List.length_drop]
    omega
  · apply Table.size_le_of_contains
    intro spaceId present
    obtain ⟨ticket, stored⟩ := (Table.contains_iff _ _).mp present
    exact (contains_kept _).mpr (valid.ticket_kept released stored)
  · apply Table.size_le_of_contains
    intro spaceId present
    obtain ⟨pending, stored⟩ := (Table.contains_iff _ _).mp present
    exact (contains_kept _).mpr (valid.fence_kept released stored)
  · apply Table.size_le_of_contains
    intro spaceId present
    obtain ⟨kept, there⟩ := (contains_kept _).mp present
    obtain ⟨proofs, stored⟩ := (Table.contains_iff _ _).mp there
    exact (contains_kept _).mpr ⟨kept, valid.proofs_known stored⟩

include valid in
theorem Valid.spaces_without : forEachAfter
    (validateSpace config.limits (drainEvents config.limits ((state.without gone).noticed notices))) []
      (state.without gone).spaces.entries = .ok () := by
  refine forEachAfter_filter (fun entry => !gone.contains entry.1) ?_ (valid_iff.mp valid).spaces
  intro before entry member kept checked
  simp only [validateSpace, bind_ok] at checked ⊢
  obtain ⟨_, named, _, pages, _, label, _, text, _, warnings, _, warned, _, hint, _, lifecycle, listed⟩ := checked
  refine ⟨_, named, _, pages, _, label, _, text, _, warnings, _, warned, _, hint, _, lifecycle, ?_⟩
  refine forEachAfter_mono (fun seen page _ checked => ?_) listed
  simp only [validatePage, bind_ok] at checked ⊢
  obtain ⟨_, inside, _, label, _, text, _, metadata, _, fresh, rest⟩ := checked
  refine ⟨_, inside, _, label, _, text, _, metadata, (), ?_, rest⟩
  -- fewer pages were seen than before
  rw [require_ok, Bool.not_eq_true', List.contains_eq_mem, decide_eq_false_iff_not, List.mem_append] at fresh ⊢
  rintro (earlier | here)
  · obtain ⟨other, there, listed⟩ := List.mem_flatMap.mp earlier
    exact fresh (.inl (List.mem_flatMap.mpr ⟨other, (List.mem_filter.mp there).1, listed⟩))
  · exact fresh (.inr here)

include valid in
theorem Valid.indexes_without :
    validateIndexes (drainEvents config.limits ((state.without gone).noticed notices)) = .ok () := by
  have indexes := (valid_iff.mp valid).indexes
  simp only [validateIndexes, bind_ok, require_ok, Bool.and_eq_true, beq_iff_eq, Table.all_eq_true] at indexes ⊢
  obtain ⟨_, ⟨_, every⟩, _, ⟨bindings, bound⟩, _, floors, fences⟩ := indexes
  have generated {spaceId : SpaceId} (present : state.spaces.contains spaceId = true) :
      state.spaceGenerations.contains spaceId = true := by
    obtain ⟨space, found⟩ := (Table.contains_iff _ _).mp present
    exact every spaceId space found
  refine ⟨(), ⟨?_, ?_⟩, (), ⟨?_, ?_⟩, (), floors, ?_⟩
  · apply Nat.le_antisymm
    · apply Table.size_le_of_contains
      intro spaceId present
      obtain ⟨kept, there⟩ := (contains_kept _).mp present
      exact (contains_kept _).mpr ⟨kept, valid.generation_known there⟩
    · apply Table.size_le_of_contains
      intro spaceId present
      obtain ⟨kept, there⟩ := (contains_kept _).mp present
      exact (contains_kept _).mpr ⟨kept, generated there⟩
  · intro spaceId space found
    obtain ⟨kept, there⟩ := (contains_kept _).mp ((Table.contains_iff _ _).mpr ⟨space, found⟩)
    exact (contains_kept _).mpr ⟨kept, generated there⟩
  · intro spaceId binding found
    obtain ⟨kept, there⟩ := (contains_kept _).mp ((Table.contains_iff _ _).mpr ⟨binding, found⟩)
    obtain ⟨stored, located⟩ := (Table.contains_iff _ _).mp there
    exact (contains_kept _).mpr ⟨kept, bindings spaceId stored located⟩
  · intro spaceId space found
    obtain ⟨located, kept⟩ := without_space.mp found
    have indexed := bound spaceId space located
    have same : (drainEvents config.limits ((state.without gone).noticed notices)).profileBindings.get? spaceId =
        state.profileBindings.get? spaceId := get?_kept _ kept
    simp only [bindingIndexed, Table.contains, same] at indexed ⊢
    exact indexed
  · intro spaceId space found
    exact fences spaceId space (without_space.mp found).1

include valid released in
theorem Valid.tickets_without :
    validateControlTickets (drainEvents config.limits ((state.without gone).noticed notices)) = .ok () := by
  have tickets := (valid_iff.mp valid).controlTickets
  simp only [validateControlTickets, require_ok, Table.all_eq_true] at tickets ⊢
  intro spaceId ticket stored
  have matched := tickets spaceId ticket stored
  have same := space_kept state notices config.limits (valid.ticket_kept released stored).1
  simp only [controlTicketMatches, same] at matched ⊢
  exact matched

include valid released in
theorem Valid.fences_without : forEach
    (validatePendingFence (drainEvents config.limits ((state.without gone).noticed notices)))
      state.pendingFences.entries = .ok () := by
  rw [forEach_ok]
  rintro ⟨spaceId, pending⟩ member
  have checked := forEach_ok.mp (valid_iff.mp valid).pendingFences _ member
  have kept := (valid.fence_kept released ((Table.mem_entries _ _ _).mp member)).1
  have same := space_kept state notices config.limits kept
  simp only [validatePendingFence, same] at checked ⊢
  exact checked

include valid in
theorem Valid.proofs_without : forEach
    (validateTakeoverProofs (drainEvents config.limits ((state.without gone).noticed notices)))
      (state.without gone).takeoverProofs.entries = .ok () := by
  rw [forEach_ok]
  rintro ⟨spaceId, proofs⟩ member
  obtain ⟨there, kept⟩ := List.mem_filter.mp member
  have checked := forEach_ok.mp (valid_iff.mp valid).takeoverProofs _ there
  have kept : spaceId ∉ gone := by simpa using kept
  have same := space_kept state notices config.limits kept
  simp only [validateTakeoverProofs, same] at checked ⊢
  exact checked

include valid in
theorem Valid.queues_without : forEachAfter
    (validateQueue config.limits (drainEvents config.limits ((state.without gone).noticed notices))) []
      (state.without gone).actionQueues.entries = .ok () := by
  refine forEachAfter_filter (fun entry => !gone.contains entry.1) ?_ (valid_iff.mp valid).queues
  rintro before ⟨spaceId, queue⟩ member kept checked
  have kept : spaceId ∉ gone := by simpa using kept
  simp only [validateQueue, bind_ok, require_ok] at checked ⊢
  obtain ⟨_, known, _, bounded, listed⟩ := checked
  refine ⟨(), (contains_kept _).mpr ⟨kept, known⟩, (), bounded, ?_⟩
  refine forEachAfter_mono (fun seen actionId _ checked => ?_) listed
  simp only [validateQueuedId, bind_ok, orElse_ok, require_ok, Bool.and_eq_true, beq_iff_eq, Bool.not_eq_true',
    List.contains_eq_mem, decide_eq_false_iff_not, List.mem_append] at checked ⊢
  obtain ⟨_, fresh, receipt, found, inside, queued⟩ := checked
  refine ⟨(), ?_, receipt, without_action.mpr ⟨found, inside ▸ kept⟩, inside, queued⟩
  rintro (earlier | here)
  · obtain ⟨other, there, listed⟩ := List.mem_flatMap.mp earlier
    exact fresh (.inl (List.mem_flatMap.mpr ⟨other, (List.mem_filter.mp there).1, listed⟩))
  · exact fresh (.inr here)

include valid in
theorem Valid.queued_without (found : state.actions.get? actionId = some receipt) (kept : receipt.spaceId ∉ gone) :
    (queuedIds (drainEvents config.limits ((state.without gone).noticed notices))).contains actionId =
      (queuedIds state).contains actionId := by
  rw [Bool.eq_iff_iff, List.contains_iff_mem, List.contains_iff_mem]
  constructor
  · intro member
    obtain ⟨entry, inside, listed⟩ := List.mem_flatMap.mp member
    exact List.mem_flatMap.mpr ⟨entry, (List.mem_filter.mp inside).1, listed⟩
  · intro member
    obtain ⟨spaceId, queued⟩ := mem_queuedIds.mp member
    obtain ⟨owner, stored, inside, _⟩ := valid.queued_receipt queued
    obtain rfl : owner = receipt := Option.some.inj (stored.symm.trans found)
    obtain ⟨queue, listed, there⟩ := mem_queue.mp queued
    refine List.mem_flatMap.mpr ⟨(spaceId, queue), List.mem_filter.mpr ⟨listed, ?_⟩, there⟩
    simpa [← inside] using kept

include valid in
theorem Valid.key_kept (found : (state.without gone).actions.get? actionId = some receipt) :
    (state.without gone).idempotency.get? receipt.idempotencyKey = some actionId := by
  obtain ⟨stored, kept⟩ := without_action.mp found
  have named := valid.indexed.named
  refine without_key.mpr ⟨named actionId receipt stored, fun other second there same => ?_⟩
  have key := named other second there
  rw [same, named actionId receipt stored, Option.some.injEq] at key
  subst key
  obtain rfl : second = receipt := Option.some.inj (there.symm.trans stored)
  exact kept

include valid in
theorem Valid.requests_without : (state.without gone).actionRequests.size = (state.without gone).actions.size := by
  apply Nat.le_antisymm
  · apply Table.size_le_of_contains
    intro actionId present
    obtain ⟨request, found⟩ := (Table.contains_iff _ _).mp present
    obtain ⟨requested, kept⟩ := without_request.mp found
    have known := valid.request_known ((Table.contains_iff _ _).mpr ⟨request, requested⟩)
    obtain ⟨receipt, stored⟩ := (Table.contains_iff _ _).mp known
    exact (Table.contains_iff _ _).mpr ⟨receipt, without_action.mpr ⟨stored, kept receipt stored⟩⟩
  · apply Table.size_le_of_contains
    intro actionId present
    obtain ⟨receipt, found⟩ := (Table.contains_iff _ _).mp present
    obtain ⟨stored, kept⟩ := without_action.mp found
    obtain ⟨request, _, checked⟩ := valid.checked stored
    refine (Table.contains_iff _ _).mpr ⟨request, without_request.mpr ⟨checked.requested, ?_⟩⟩
    intro other there
    obtain rfl : receipt = other := Option.some.inj (stored.symm.trans there)
    exact kept

include valid in
theorem Valid.keys_without : (state.without gone).idempotency.size = (state.without gone).actions.size := by
  have named (actionId : ActionId) (receipt : ActionReceipt)
      (found : (state.without gone).actions.get? actionId = some receipt) := valid.key_kept found
  refine Table.index_size named ?_
  intro key actionId found
  obtain ⟨indexed, kept⟩ := without_key.mp found
  obtain ⟨receipt, stored, same⟩ := valid.indexed.resolved key actionId indexed
  exact ⟨receipt, without_action.mpr ⟨stored, kept actionId receipt stored same⟩, same⟩

include valid in
theorem Valid.actions_without :
    validateActions config.codec (drainEvents config.limits ((state.without gone).noticed notices)) = .ok () := by
  have actions := (valid_iff.mp valid).actions
  simp only [validateActions, bind_ok, require_ok, Bool.and_eq_true, beq_iff_eq] at actions ⊢
  obtain ⟨_, _, every⟩ := actions
  refine ⟨(), ⟨valid.requests_without, valid.keys_without⟩, ?_⟩
  refine forEachAfter_filter (fun entry => !gone.contains entry.2.spaceId) ?_ every
  rintro before ⟨actionId, receipt⟩ member kept checked
  have kept : receipt.spaceId ∉ gone := by simpa using kept
  have stored := (Table.mem_entries _ _ _).mp member
  have found := without_action.mpr ⟨stored, kept⟩
  simp only [validateAction, bind_ok, orElse_ok] at checked ⊢
  obtain ⟨_, named, request, requested, _, matched, _, payload, space, located, _, target, _, status, _, alone, key,
    _, indexed⟩ := checked
  have asked : (state.without gone).actionRequests.get? actionId = some request := by
    refine without_request.mpr ⟨requested, fun other there => ?_⟩
    obtain rfl : receipt = other := Option.some.inj (stored.symm.trans there)
    exact kept
  refine ⟨_, named, request, asked, _, matched, _, payload, space, without_space.mpr ⟨located, kept⟩, _, target, (), ?_,
    (), ?_, actionId, valid.key_kept found, ?_⟩
  · rw [valid.queued_without stored kept]
    exact status
  · -- no fewer receipts came before this one in the whole table
    rw [require_ok, Bool.not_eq_true', Bool.and_eq_false_iff] at alone ⊢
    refine alone.imp_right fun none => ?_
    rw [List.any_eq_false] at none ⊢
    exact fun other inside => none other (List.mem_filter.mp inside).1
  · rw [require_ok, Bool.and_eq_true, Bool.not_eq_true', List.any_eq_false] at indexed ⊢
    exact ⟨beq_self_eq_true _, fun other inside => indexed.2 other (List.mem_filter.mp inside).1⟩

include valid in
theorem Valid.snapshots_without :
    validateSnapshots config.codec config.limits
      (drainEvents config.limits ((state.without gone).noticed notices)) = .ok () := by
  have snapshots := (valid_iff.mp valid).snapshots
  simp only [validateSnapshots, bind_ok, require_ok, decide_eq_true_eq] at snapshots ⊢
  obtain ⟨_, every, bounded⟩ := snapshots
  refine ⟨(), ?_, ?_⟩
  · rw [forEach_ok] at every ⊢
    rintro ⟨spaceId, pages⟩ member
    obtain ⟨there, kept⟩ := List.mem_filter.mp member
    have checked := every _ there
    have kept : spaceId ∉ gone := by simpa using kept
    have same := space_kept state notices config.limits kept
    simp only [same] at checked ⊢
    exact checked
  · refine Nat.le_trans ?_ bounded
    exact ((List.filter_sublist.map Prod.snd).map Table.size).sum_le_sum (fun _ _ => Nat.zero_le _)

include valid in
theorem Valid.event_without {event : EventRecord} (member : event ∈ (state.without gone).events) :
    validateEvent (drainEvents config.limits ((state.without gone).noticed notices)) [] event = .ok () := by
  obtain ⟨there, kept⟩ := List.mem_filter.mp member
  have events := (valid_iff.mp valid).events
  simp only [validateEvents, bind_ok] at events
  obtain ⟨_, every, _⟩ := events
  have checked := (history_ok.mp every).1 event there
  simp only [validateEvent, bind_ok, require_ok, Bool.and_eq_true, decide_eq_true_eq] at checked ⊢
  obtain ⟨_, ⟨known, bounded⟩, _, payload, rest⟩ := checked
  refine ⟨(), ⟨known, Nat.le_add_right_of_le bounded⟩, (), payload, ?_⟩
  -- an event of a space finds its space and page where they were
  have same {spaceId : SpaceId} (inside : event.scope.spaceId = some spaceId) :=
    space_kept state notices config.limits
      (by simpa [inside] using kept)
  cases paged : event.scope.pageId <;> cases located : event.scope.spaceId <;> rw [paged, located] at rest
  case some.none => cases rest
  case none.some => simpa [Table.contains, same located] using rest
  case some.some => simpa [LedgerState.page, same located] using rest

structure Notices (state : LedgerState) (notices : List EventRecord) : Prop where
  numbered : notices.map (·.sequence) = List.range' (state.eventSequence + 1) notices.length
  checked : ∀ notice, notice ∈ notices -> notice.protocol = protocolVersion ∧
    notice.brokerEpoch = state.brokerEpoch ∧ notice.scope = .global ∧
      validatePublicPayloadShape notice.payload 512 = .ok ()

theorem Notices.later (noticed : Notices state notices) {notice : EventRecord} (member : notice ∈ notices) :
    state.eventSequence < notice.sequence ∧ notice.sequence ≤ state.eventSequence + notices.length := by
  have listed : notice.sequence ∈ notices.map (·.sequence) := List.mem_map_of_mem member
  rw [noticed.numbered, List.mem_range'_1, Nat.add_right_comm] at listed
  exact ⟨listed.1, Nat.le_of_lt_succ listed.2⟩

theorem Notices.ordered (noticed : Notices state notices) :
    notices.Pairwise fun one other => one.sequence < other.sequence := by
  have numbers : (notices.map (·.sequence)).Pairwise (· < ·) := noticed.numbered ▸ List.pairwise_lt_range'
  exact List.pairwise_map.mp numbers

include valid in
theorem Valid.events_without (noticed : Notices state notices) (told : notices = [] -> gone = []) :
    validateEvents config.limits (drainEvents config.limits ((state.without gone).noticed notices)) = .ok () := by
  have events := (valid_iff.mp valid).events
  simp only [validateEvents, bind_ok, require_ok] at events ⊢
  obtain ⟨_, every, history⟩ := events
  obtain ⟨_, ordered⟩ := history_ok.mp every
  refine ⟨(), history_ok.mpr ⟨?_, ?_⟩, ?_⟩
  · intro event member
    obtain earlier | notice := List.mem_append.mp (List.mem_of_mem_drop member)
    · exact valid.event_without earlier
    · obtain ⟨protocol, epoch, scope, payload⟩ := noticed.checked event notice
      obtain ⟨later, bounded⟩ := noticed.later notice
      have positive := Nat.zero_lt_of_lt later
      simp [validateEvent, bind_ok, require_ok, protocol, epoch, scope, payload, lastSequence, EventScope.global,
        positive, LedgerState.noticed, drainEvents, LedgerState.without, bounded]
  · apply List.Pairwise.drop
    refine List.pairwise_append.mpr ⟨ordered.filter _, noticed.ordered, ?_⟩
    intro event member notice there
    have bounded := valid.event_bounded (List.mem_filter.mp member).1
    exact Nat.lt_of_le_of_lt bounded (noticed.later there).1
  · by_cases silent : notices = []
    · -- nothing went, so the history is the one from before
      have whole : (state.without gone).events = state.events := by
        rw [told silent]
        apply List.filter_eq_self.mpr
        intro event _
        cases event.scope.spaceId <;> rfl
      have drained := congrArg LedgerState.events valid.drained
      simp only [LedgerState.noticed, drainEvents, silent, whole, List.append_nil, List.length_nil, Nat.add_zero]
        at drained ⊢
      rw [drained]
      exact history
    · by_cases unbounded : config.limits.maxEvents = 0
      · simp [unbounded]
      · have some := List.length_pos_iff.mpr silent
        have kept : (drainEvents config.limits ((state.without gone).noticed notices)).events.isEmpty = false := by
          rw [List.isEmpty_eq_false_iff, <- List.length_pos_iff]
          simp only [LedgerState.noticed, drainEvents, List.length_drop, List.length_append]
          omega
        simp [kept]

include valid released in
theorem Valid.accepts_without (noticed : Notices state notices) (told : notices = [] -> gone = []) :
    Accepted config (drainEvents config.limits ((state.without gone).noticed notices)) where
  bounds := valid.bounds_without released
  spaces := valid.spaces_without
  indexes := valid.indexes_without
  controlTickets := valid.tickets_without released
  pendingFences := valid.fences_without released
  takeoverProofs := valid.proofs_without
  queues := valid.queues_without
  actions := valid.actions_without
  snapshots := valid.snapshots_without
  events := valid.events_without noticed told

end Acceptance

end AgentycHost
