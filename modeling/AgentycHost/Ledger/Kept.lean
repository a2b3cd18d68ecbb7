import AgentycHost.Ledger.Facts

set_option autoImplicit false

/-!
# What keeps a state acceptable

Three changes that the validator accepts over an accepted state, up to the size
of the file: a running receipt is settled, a snapshot is marked dirty, and an
event of a space is appended.
-/

namespace AgentycHost

open Shared

variable {config : LedgerConfig} {state : LedgerState} {spaceId : SpaceId} {actionId : ActionId}
  {receipt settled : ActionReceipt}

section Settling

variable {entry : ActionId × ActionReceipt}

def replaced (actionId : ActionId) (settled : ActionReceipt) (entry : ActionId × ActionReceipt) :
    ActionId × ActionReceipt :=
  (entry.1, if entry.1 = actionId then settled else entry.2)

theorem entries_insert (found : state.actions.get? actionId = some receipt) :
    (state.actions.insert actionId settled).entries = state.actions.entries.map (replaced actionId settled) := by
  rw [Table.insert_of_found _ _ _ found]
  rfl

theorem size_settled (found : state.actions.get? actionId = some receipt) :
    (state.actions.insert actionId settled).size = state.actions.size := by
  rw [Table.insert_of_found _ _ _ found, Table.size_modify]

structure Settles (receipt settled : ActionReceipt) : Prop where
  running : receipt.status = .running
  same : receipt.SameRequest settled
  notQueued : settled.status ≠ .queued
  notRunning : settled.status ≠ .running
  accepted : validateReceiptStatus false settled = .ok ()

theorem replaced_runs (settles : Settles receipt settled)
    (runs : runsMutation spaceId (replaced actionId settled entry).2 = true) :
    runsMutation spaceId entry.2 = true := by
  unfold replaced at runs
  dsimp only at runs
  split_ifs at runs
  · simp [runsMutation, settles.notRunning] at runs
  · exact runs

theorem Accepted.queues_settled (accepted : Accepted config state)
    (found : state.actions.get? actionId = some receipt) (settles : Settles receipt settled) :
    forEachAfter (validateQueue config.limits { state with actions := state.actions.insert actionId settled }) []
      state.actionQueues.entries = .ok () := by
  refine forEachAfter_mono ?_ accepted.queues
  rintro before ⟨spaceId, queue⟩ _ checked
  simp only [validateQueue, bind_ok] at checked ⊢
  obtain ⟨_, known, _, bounded, ids⟩ := checked
  refine ⟨(), known, (), bounded, forEachAfter_mono ?_ ids⟩
  intro earlier other _ one
  simp only [validateQueuedId, bind_ok, orElse_ok, require_ok, Bool.and_eq_true, beq_iff_eq] at one ⊢
  obtain ⟨_, fresh, queued, present, inside, waiting⟩ := one
  refine ⟨(), fresh, queued, ?_, inside, waiting⟩
  -- the settled receipt was running, so it is in no queue
  have distinct : other ≠ actionId := by
    rintro rfl
    cases found.symm.trans present
    rw [settles.running] at waiting
    cases waiting
  rw [Table.get?_insert_ne _ _ _ _ distinct, present]

theorem replaced_key (settles : Settles receipt settled) (whole : entry.1 = actionId -> entry.2 = receipt) :
    (replaced actionId settled entry).2.idempotencyKey = entry.2.idempotencyKey := by
  unfold replaced
  dsimp only
  split_ifs with here
  · rw [whole here]
    exact settles.same.idempotencyKey
  · rfl

variable {earlier : List (ActionId × ActionReceipt)} (whole : ∀ entry, entry ∈ earlier -> entry.1 = actionId ->
  entry.2 = receipt)

include whole in
theorem replaced_keys (settles : Settles receipt settled) (key : IdempotencyKey) :
    ((earlier.map (replaced actionId settled)).any fun other => other.2.idempotencyKey == key) =
      earlier.any fun other => other.2.idempotencyKey == key := by
  rw [List.any_map, Bool.eq_iff_iff, List.any_eq_true, List.any_eq_true]
  refine exists_congr fun entry => and_congr_right fun inside => ?_
  rw [Function.comp_apply, replaced_key settles (whole entry inside)]

theorem replaced_any_runs (settles : Settles receipt settled)
    (none : (earlier.any fun other => runsMutation spaceId other.2) = false) :
    ((earlier.map (replaced actionId settled)).any fun other => runsMutation spaceId other.2) = false := by
  rw [List.any_map, List.any_eq_false] at *
  intro entry inside runs
  exact none entry inside (replaced_runs settles runs)

include whole in
theorem validateAction_settled (settles : Settles receipt settled)
    (checked : validateAction config.codec state earlier (actionId, receipt) = .ok ()) :
    validateAction config.codec { state with actions := state.actions.insert actionId settled }
      (earlier.map (replaced actionId settled)) (actionId, settled) = .ok () := by
  simp only [validateAction, bind_ok, require_ok, orElse_ok] at checked ⊢
  obtain ⟨_, named, request, requested, _, matched, _, payload, space, located, _, target, _, status, _, _, other,
    indexed, unique⟩ := checked
  have same := settles.same
  refine ⟨(), ?_, request, requested, (), ?_, (), payload, space, ?_, (), ?_, (), ?_, (), ?_, other, ?_, ?_⟩
  · rwa [same.actionId]
  · unfold requestMatches at matched ⊢
    rwa [same.requestId, same.idempotencyKey, same.requestHash, same.spaceId, same.pageId, same.leaseEpoch,
      same.operation, same.postcondition]
  · rwa [same.spaceId]
  · unfold validateActionTarget at target ⊢
    rw [same.pageId, same.operation]
    split at target
    · simp only [bind_ok, orElse_ok, require_ok] at target ⊢
      obtain ⟨page, there, _⟩ := target
      exact ⟨page, there, by simp [settles.notQueued]⟩
    · exact target
  · -- a running action is in no queue
    have idle : (queuedIds state).contains actionId = false := by
      simp only [validateReceiptStatus, settles.running, require_ok, Bool.and_eq_true, Bool.not_eq_true'] at status
      exact status.1.1.2
    change validateReceiptStatus ((queuedIds state).contains actionId) settled = .ok ()
    rw [idle]
    exact settles.accepted
  · simp [settles.notRunning]
  · rwa [same.idempotencyKey]
  · rw [replaced_keys whole settles, same.idempotencyKey]
    exact unique

include whole in
theorem validateAction_other (settles : Settles receipt settled)
    (checked : validateAction config.codec state earlier entry = .ok ()) :
    validateAction config.codec { state with actions := state.actions.insert actionId settled }
      (earlier.map (replaced actionId settled)) entry = .ok () := by
  simp only [validateAction, bind_ok, require_ok, orElse_ok] at checked ⊢
  obtain ⟨_, named, request, requested, _, matched, _, payload, space, located, _, target, _, status, _, alone, other,
    indexed, unique⟩ := checked
  refine ⟨(), named, request, requested, (), matched, (), payload, space, located, (), target, (), status, (), ?_, other,
    indexed, ?_⟩
  · rw [Bool.not_eq_true', Bool.and_eq_false_iff] at alone ⊢
    exact alone.imp_right (replaced_any_runs settles)
  · rw [replaced_keys whole settles]
    exact unique

omit whole in
theorem Accepted.actions_settled (accepted : Accepted config state)
    (found : state.actions.get? actionId = some receipt) (settles : Settles receipt settled) :
    validateActions config.codec { state with actions := state.actions.insert actionId settled } = .ok () := by
  have actions := accepted.actions
  simp only [validateActions, bind_ok] at actions ⊢
  obtain ⟨_, sizes, every⟩ := actions
  refine ⟨(), ?_, ?_⟩
  · rw [size_settled found]
    exact sizes
  · rw [entries_insert found]
    refine forEachAfter_map (replaced actionId settled) ?_ every
    intro before entry after split checked
    have known : ∀ other, other ∈ state.actions.entries -> other.1 = actionId -> other.2 = receipt := by
      rintro ⟨other, stored⟩ inside rfl
      exact Option.some.inj (((Table.mem_entries _ _ _).mp inside).symm.trans found)
    have whole : ∀ other, other ∈ before -> other.1 = actionId -> other.2 = receipt :=
      fun other inside => known other (by simp [split, inside])
    obtain ⟨name, stored⟩ := entry
    by_cases here : name = actionId
    · subst here
      obtain rfl : stored = receipt := known (name, stored) (by simp [split]) rfl
      simpa [replaced] using validateAction_settled whole settles checked
    · have other := validateAction_other whole settles checked
      simpa [replaced, here] using other

omit whole in
theorem Accepted.settling (accepted : Accepted config state) (found : state.actions.get? actionId = some receipt)
    (settles : Settles receipt settled) :
    Accepted config { state with actions := state.actions.insert actionId settled } where
  bounds := by
    have bounds := accepted.bounds
    simp only [validateBounds, bind_ok] at bounds ⊢
    rw [size_settled found]
    exact bounds
  spaces := accepted.spaces
  indexes := accepted.indexes
  controlTickets := accepted.controlTickets
  pendingFences := accepted.pendingFences
  takeoverProofs := accepted.takeoverProofs
  queues := accepted.queues_settled found settles
  actions := accepted.actions_settled found settles
  snapshots := accepted.snapshots
  events := accepted.events

end Settling

section Dirtying

def dirtied (state : LedgerState) (spaceId : SpaceId) (pageId : PageId) : LedgerState :=
  { state with snapshots := state.snapshots.modify spaceId fun pages =>
      pages.modify pageId fun record => { record with dirty := true } }

theorem Accepted.snapshots_dirtied (accepted : Accepted config state) (spaceId : SpaceId) (pageId : PageId) :
    validateSnapshots config.codec config.limits (dirtied state spaceId pageId) = .ok () := by
  have snapshots := accepted.snapshots
  simp only [validateSnapshots, bind_ok, require_ok] at snapshots ⊢
  obtain ⟨⟨⟩, every, bounded⟩ := snapshots
  refine ⟨(), ?_, ?_⟩
  · simp only [forEach_ok, bind_ok, orElse_ok] at every ⊢
    intro entry inside
    obtain ⟨⟨other, pages⟩, member, rfl⟩ := List.mem_map.mp inside
    obtain ⟨space, located, checked⟩ := every _ member
    refine ⟨space, located, ?_⟩
    dsimp only
    split_ifs
    · intro entry inside
      obtain ⟨⟨name, record⟩, present, rfl⟩ := List.mem_map.mp inside
      have one := checked _ present
      dsimp only
      split_ifs
      · exact one
      · exact one
    · exact checked
  · have sizes : (dirtied state spaceId pageId).snapshots.values.map Table.size =
        state.snapshots.values.map Table.size := by
      change ((state.snapshots.entries.map _).map Prod.snd).map Table.size = _
      rw [List.map_map, List.map_map, Table.values, List.map_map]
      refine List.map_congr_left fun entry _ => ?_
      simp only [Function.comp_apply]
      split_ifs
      · exact Table.size_modify _ _ _
      · rfl
    rw [sizes]
    exact bounded

theorem Accepted.dirtied (accepted : Accepted config state) (spaceId : SpaceId) (pageId : PageId) :
    Accepted config (AgentycHost.dirtied state spaceId pageId) where
  bounds := accepted.bounds
  spaces := accepted.spaces
  indexes := accepted.indexes
  controlTickets := accepted.controlTickets
  pendingFences := accepted.pendingFences
  takeoverProofs := accepted.takeoverProofs
  queues := accepted.queues
  actions := accepted.actions
  snapshots := accepted.snapshots_dirtied spaceId pageId
  events := accepted.events

end Dirtying

section Appending

variable {scope : EventScope} {event : EventKind} {payload : Payload} {dirtyReason : Option DirtyReason}
  {resyncRequired : Bool} {attribution : EventAttribution} {next after : LedgerState} {record : EventRecord}

def announced (spaceId : SpaceId) (scope : EventScope) (event : EventKind) (payload : Payload)
    (dirtyReason : Option DirtyReason) (resyncRequired : Bool) (attribution : EventAttribution) (state : LedgerState) :
    LedgerState :=
  let state := { state with
    eventSequence := state.eventSequence + 1
    spaceGenerations := state.spaceGenerations.insert spaceId ((state.spaceGenerations.get? spaceId).getD 0 + 1) }
  { state with
    events := state.events ++ [eventRecord state scope event payload dirtyReason resyncRequired attribution] }

structure Appended (limits : LedgerLimits) (before after : LedgerState) (spaceId : SpaceId) (record : EventRecord) :
    Prop where
  result : ∃ generation, after = { before with
    eventSequence := before.eventSequence + 1
    spaceGenerations := before.spaceGenerations.insert spaceId generation
    events := (before.events ++ [record]).drop ((before.events ++ [record]).length - limits.maxEvents) }
  protocol : record.protocol = protocolVersion
  brokerEpoch : record.brokerEpoch = before.brokerEpoch
  sequence : record.sequence = before.eventSequence + 1
  scope : record.scope.spaceId = some spaceId
  paged : ∀ pageId, record.scope.pageId = some pageId -> (before.page spaceId pageId).isSome = true
  payload : validatePublicPayloadShape record.payload 512 = .ok ()

structure Announces (state : LedgerState) (spaceId : SpaceId) (scope : EventScope) (event : EventKind)
    (attribution : EventAttribution) : Prop where
  inside : scope.spaceId = some spaceId
  attributed : attribution.validateForScope scope = .ok ()
  kind : event ≠ .heartbeat
  epoch : state.brokerEpoch ≠ 0

theorem Announces.appends_iff (announces : Announces state spaceId scope event attribution) :
    appendEventWithAttribution state scope event payload dirtyReason resyncRequired attribution = .ok next <->
      (validatePublicPayloadShape payload 512 = .ok () ∧ state.eventSequence < u64Max ∧
        (state.spaceGenerations.get? spaceId).getD 0 < u64Max) ∧
      announced spaceId scope event payload dirtyReason resyncRequired attribution state = next := by
  obtain ⟨inside, attributed, kind, epoch⟩ := announces
  have admitted : (eventRecord (announced spaceId scope event payload dirtyReason resyncRequired attribution state)
      scope event payload dirtyReason resyncRequired attribution).validateAdmission = .ok () := by
    simp [EventRecord.validateAdmission, EventRecord.validateRouting, eventRecord, EventScope.valid, epoch,
      generationWatermark, EventMetadata.validate, EventMetadata.forEvent, kind, attributed, inside, announced, bind_ok]
  simp only [appendEventWithAttribution, nextSpaceGeneration, inside, bind_ok, pure_ok, orElse_ok, mapError_ok,
    checkedNext_eq_some]
  constructor
  · rintro ⟨⟨⟩, shape, _, ⟨sequence, rfl⟩, _, ⟨_, ⟨generation, rfl⟩, rfl⟩, _, _, rfl⟩
    exact ⟨⟨shape, sequence, generation⟩, rfl⟩
  · rintro ⟨⟨shape, sequence, generation⟩, rfl⟩
    exact ⟨(), shape, _, ⟨sequence, rfl⟩, _, ⟨_, ⟨generation, rfl⟩, rfl⟩, (), admitted, rfl⟩

theorem drainEvents_announced (limits : LedgerLimits) :
    drainEvents limits (announced spaceId scope event payload dirtyReason resyncRequired attribution
        (drainEvents limits state)) =
      drainEvents limits (announced spaceId scope event payload dirtyReason resyncRequired attribution state) := by
  simp only [announced, drainEvents, eventRecord, generationWatermark, LedgerState.page, LedgerState.snapshot,
    List.length_append, List.length_drop, List.length_singleton, LedgerState.mk.injEq, true_and, and_true]
  by_cases short : state.events.length ≤ limits.maxEvents
  · simp [Nat.sub_eq_zero_of_le short]
  · rw [← List.drop_append_of_le_length (by omega), List.drop_drop]
    congr 1
    omega

theorem announced_appended (limits : LedgerLimits) (inside : scope.spaceId = some spaceId)
    (paged : ∀ pageId, scope.pageId = some pageId -> (state.page spaceId pageId).isSome = true)
    (shape : validatePublicPayloadShape payload 512 = .ok ()) :
    ∃ record, Appended limits state
      (drainEvents limits (announced spaceId scope event payload dirtyReason resyncRequired attribution state))
      spaceId record :=
  ⟨_, ⟨_, rfl⟩, rfl, rfl, rfl, inside, paged, shape⟩

theorem lastSequence_forget (earlier before : List EventRecord) :
    lastSequence before ≤ lastSequence (earlier ++ before) := by
  unfold lastSequence
  rw [List.getLast?_append]
  cases before.getLast? with
  | none => exact Nat.zero_le _
  | some last => exact Nat.le_refl _

theorem validateEvent_forget (earlier before : List EventRecord) (record : EventRecord)
    (checked : validateEvent state (earlier ++ before) record = .ok ()) :
    validateEvent state before record = .ok () := by
  simp only [validateEvent, bind_ok, require_ok, Bool.and_eq_true, decide_eq_true_eq] at checked ⊢
  obtain ⟨_, ⟨⟨known, order⟩, bounded⟩, rest⟩ := checked
  exact ⟨(), ⟨⟨known, Nat.lt_of_le_of_lt (lastSequence_forget earlier before) order⟩, bounded⟩, rest⟩

theorem Accepted.lastSequence_le (accepted : Accepted config state) :
    lastSequence state.events ≤ state.eventSequence := by
  have events := accepted.events
  simp only [validateEvents, bind_ok] at events
  obtain ⟨⟨⟩, every, _⟩ := events
  unfold lastSequence
  cases last : state.events.getLast? with
  | none => exact Nat.zero_le _
  | some record =>
    obtain ⟨_, one⟩ := forEachAfter_mem every (List.mem_of_getLast? last)
    simp only [validateEvent, bind_ok, require_ok, Bool.and_eq_true, decide_eq_true_eq] at one
    obtain ⟨_, ⟨_, bounded⟩, _⟩ := one
    exact bounded

theorem Accepted.events_appended (accepted : Accepted config state) (known : state.spaces.contains spaceId = true)
    (appended : Appended config.limits state after spaceId record) :
    validateEvents config.limits after = .ok () := by
  obtain ⟨⟨generation, rfl⟩, protocol, epoch, sequence, scope, paged, payload⟩ := appended
  have events := accepted.events
  simp only [validateEvents, bind_ok, require_ok] at events ⊢
  obtain ⟨⟨⟩, every, _⟩ := events
  refine ⟨(), ?_, ?_⟩
  · -- the history with the new event at its end passes, and then what is left of it does
    refine forEachAfter_drop _ validateEvent_forget (forEachAfter_append.mpr ⟨?_, ?_⟩)
    · refine forEachAfter_mono (fun before event _ checked => ?_) every
      simp only [validateEvent, bind_ok, require_ok, Bool.and_eq_true, decide_eq_true_eq] at checked ⊢
      obtain ⟨_, ⟨earlier, bounded⟩, rest⟩ := checked
      exact ⟨(), ⟨earlier, Nat.le_succ_of_le bounded⟩, rest⟩
    · have order := accepted.lastSequence_le
      simp only [forEachAfter, validateEvent, bind_ok, protocol, epoch, sequence, scope, payload, List.nil_append]
      refine ⟨(), ⟨(), by simp [require_ok, Nat.lt_succ_of_le order], (), trivial, ?_⟩, trivial⟩
      cases located : record.scope.pageId with
      | none => exact require_ok.mpr known
      | some pageId => exact require_ok.mpr (paged pageId located)
  · by_cases bounded : config.limits.maxEvents = 0
    · simp [bounded]
    · have short : state.events.length + 1 - config.limits.maxEvents < state.events.length + 1 := by omega
      simpa using Or.inl short

theorem Accepted.indexes_appended (accepted : Accepted config state) (known : state.spaces.contains spaceId = true)
    (appended : Appended config.limits state after spaceId record) : validateIndexes after = .ok () := by
  obtain ⟨⟨generation, rfl⟩, _⟩ := appended
  have indexes := accepted.indexes
  simp only [validateIndexes, bind_ok, require_ok, Bool.and_eq_true, beq_iff_eq] at indexes ⊢
  obtain ⟨_, ⟨sizes, every⟩, rest⟩ := indexes
  rw [Table.all_eq_true] at every
  obtain ⟨space, found⟩ := (Table.contains_iff _ _).mp known
  obtain ⟨old, present⟩ := (Table.contains_iff _ _).mp (every spaceId space found)
  refine ⟨(), ⟨?_, ?_⟩, rest⟩
  · rw [Table.insert_of_found _ _ _ present, Table.size_modify]
    exact sizes
  · rw [Table.all_eq_true]
    intro other value located
    simp only [Table.contains, Table.get?_insert]
    split_ifs
    · rfl
    · exact every other value located

theorem Accepted.appending (accepted : Accepted config state) (known : state.spaces.contains spaceId = true)
    (appended : Appended config.limits state after spaceId record) : Accepted config after := by
  have indexes := accepted.indexes_appended known appended
  have events := accepted.events_appended known appended
  obtain ⟨⟨generation, rfl⟩, _⟩ := appended
  refine ⟨?_, accepted.spaces, indexes, accepted.controlTickets, accepted.pendingFences, accepted.takeoverProofs,
    accepted.queues, accepted.actions, accepted.snapshots, events⟩
  have bounds := accepted.bounds
  simp only [validateBounds, bind_ok, require_ok, decide_eq_true_eq] at bounds ⊢
  obtain ⟨_, schema, _, spaces, _, actions, _, _, rest⟩ := bounds
  refine ⟨(), schema, (), spaces, (), actions, (), ?_, rest⟩
  rw [List.length_drop]
  omega

theorem Accepted.announces (accepted : Accepted config state) (epoch : state.brokerEpoch ≠ 0)
    (inside : scope.spaceId = some spaceId) (kind : event ≠ .heartbeat) :
    Announces state spaceId scope event (brokerEventAttribution state scope) := by
  have indexes := accepted.indexes
  simp only [validateIndexes, bind_ok, require_ok, decide_eq_true_eq] at indexes
  obtain ⟨_, _, _, _, _, ⟨worker, session⟩, _⟩ := indexes
  exact ⟨inside, EventAttribution.validateForScope_broker _ _ rfl rfl session worker rfl rfl rfl, kind, epoch⟩

end Appending

end AgentycHost
