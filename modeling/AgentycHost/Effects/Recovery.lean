import AgentycHost.Effects.Reopening

set_option autoImplicit false

/-! # Recovery passes the validator -/

namespace AgentycHost

open Shared

variable {config : LedgerConfig} {disk : LedgerState} {spaceId : SpaceId} {actionId : ActionId}
  {receipt : ActionReceipt} {space : SpaceDescriptor}

def recovered (disk : LedgerState) : LedgerState := recoverState (reopened disk)

theorem recovered_space (spaceId : SpaceId) :
    (recovered disk).spaces.get? spaceId = (disk.spaces.get? spaceId).map recoverSpace :=
  Table.get?_mapValues _ _ _

theorem isLostSpace_reopened (spaceId : SpaceId) :
    isLostSpace (reopened disk) spaceId = isLostSpace disk spaceId := rfl

section Spaces

variable {lease : Option Lease} {states : List LeaseState}

theorem recoverLease_ended (lease : Lease) :
    (recoverLease lease).state = .fenced ∨ (recoverLease lease).state = .expired ∨
      (recoverLease lease).state = .released := by
  unfold recoverLease
  split_ifs with live
  · exact .inl rfl
  · revert live
    cases lease.state <;> simp

theorem recoverSpace_pageIds (space : SpaceDescriptor) : pageIds (recoverSpace space).pages = pageIds space.pages := by
  unfold recoverSpace
  dsimp only
  split_ifs
  · simp [pageIds, Function.comp_def, recoverPage]
  · rfl

theorem leaseStateIn_recover (leased : lease.isSome = true) :
    leaseStateIn (lease.map recoverLease) [.fenced, .expired, .released] = true := by
  obtain ⟨held, rfl⟩ := Option.isSome_iff_exists.mp leased
  have ended := recoverLease_ended held
  simpa [leaseStateIn] using ended

theorem leaseStateIn_kept (active : LeaseState.active ∉ states) (renewing : LeaseState.renewing ∉ states)
    (inside : leaseStateIn lease states = true) :
    leaseStateIn (lease.map recoverLease) states = true := by
  simp only [leaseStateIn, Option.any_eq_true, List.contains_iff_mem] at inside
  obtain ⟨held, rfl, member⟩ := inside
  have still : recoverLease held = held := by
    unfold recoverLease
    rw [if_neg]
    rintro (live | live) <;> rw [live] at member
    · exact active member
    · exact renewing member
  simpa [leaseStateIn, still] using member

theorem isSome_of_stateIn (inside : leaseStateIn lease states = true) :
    lease.isSome = true := by
  cases lease with
  | none => cases inside
  | some => rfl

theorem recoverSpace_lifecycle (checked : lifecycleMatchesLease disk spaceId space = true) :
    lifecycleMatchesLease (recovered disk) spaceId (recoverSpace space) = true := by
  have tickets : (recovered disk).controlTickets.contains spaceId = disk.controlTickets.contains spaceId := by
    simp [recovered, recoverState, reopened, LedgerState.persisted, Table.contains]
  -- a lost space is orphaned over a lease that has ended, any other keeps its lease
  cases found : space.lifecycle
  case created =>
    simpa [lifecycleMatchesLease, recoverSpace, isLostByRestart, found] using checked
  case userOwned =>
    simp only [lifecycleMatchesLease, found, Bool.and_eq_true] at checked
    simp [lifecycleMatchesLease, recoverSpace, isLostByRestart, found, tickets, checked.2,
      leaseStateIn_kept (by decide) (by decide) checked.1]
  case orphaned =>
    simp only [lifecycleMatchesLease, found] at checked
    simp [lifecycleMatchesLease, recoverSpace, isLostByRestart, found, leaseStateIn_kept (by decide) (by decide) checked]
  case released | finished | paused =>
    simp only [lifecycleMatchesLease, found, Bool.or_eq_true] at checked
    simp only [lifecycleMatchesLease, recoverSpace, isLostByRestart, found, Bool.false_eq_true, if_false, Bool.or_eq_true,
      Option.isNone_map]
    exact checked.imp_right (leaseStateIn_kept (by decide) (by decide))
  all_goals
    have leased : space.lease.isSome = true := by
      simp only [lifecycleMatchesLease, found, Bool.and_eq_true] at checked
      first
        | exact checked
        | exact isSome_of_stateIn checked.1
    simp [lifecycleMatchesLease, recoverSpace, isLostByRestart, found, leaseStateIn_recover leased]

theorem recoverSpace_eq (space : SpaceDescriptor) :
    ∃ lifecycle pages, recoverSpace space = { space with lease := space.lease.map recoverLease, lifecycle, pages } ∧
      (lifecycle = space.lifecycle ∨ lifecycle = .orphaned) ∧
      (pages = space.pages ∨ pages = space.pages.map recoverPage) := by
  unfold recoverSpace
  dsimp only
  split_ifs
  · exact ⟨_, _, rfl, .inr rfl, .inr rfl⟩
  · exact ⟨_, _, rfl, .inl rfl, .inl rfl⟩

theorem recoverPages_checked {seen : List PageId} {pages : List PageDescriptor}
    (checked : forEachAfter (fun before page => validatePage spaceId (seen ++ pageIds before) page) [] pages = .ok ()) :
    forEachAfter (fun before page => validatePage spaceId (seen ++ pageIds before) page) []
      (pages.map recoverPage) = .ok () := by
  refine forEachAfter_map recoverPage (fun before page after _ one => ?_) checked
  have same : pageIds (before.map recoverPage) = pageIds before := by
    simp [pageIds, Function.comp_def, recoverPage]
  rw [same]
  exact one

theorem recoverSpace_checked {limits : LedgerLimits} {earlier : List (SpaceId × SpaceDescriptor)}
    (checked : validateSpace limits disk earlier (spaceId, space) = .ok ()) :
    validateSpace limits (recovered disk) (earlier.map fun entry => (entry.1, recoverSpace entry.2))
      (spaceId, recoverSpace space) = .ok () := by
  have seen : (earlier.map fun entry => (entry.1, recoverSpace entry.2)).flatMap
      (fun other => pageIds other.2.pages) = earlier.flatMap fun other => pageIds other.2.pages := by
    simp only [List.flatMap_map, recoverSpace_pageIds]
  simp only [validateSpace, validateSpaceLifecycle, bind_ok, require_ok] at checked ⊢
  rw [seen]
  obtain ⟨_, named, _, bounded, _, labelled, _, label, _, warnings, _, texts, _, hint, _, ⟨_, matched, binding⟩, pages⟩ :=
    checked
  have lifecycle := recoverSpace_lifecycle matched
  obtain ⟨_, _, same, kept, moved⟩ := recoverSpace_eq space
  rw [same] at lifecycle ⊢
  refine ⟨(), named, (), ?_, (), labelled, (), label, (), warnings, (), texts, (), hint, (), ⟨(), lifecycle, ?_⟩, ?_⟩
  · obtain rfl | rfl := moved
    · exact bounded
    · simpa using bounded
  · obtain rfl | rfl := kept
    · exact binding
    · simp
  · obtain rfl | rfl := moved
    · exact pages
    · exact recoverPages_checked pages

end Spaces

section Actions

theorem Valid.mem_queue_iff (valid : Valid config disk) :
    actionId ∈ disk.queue spaceId <->
      ∃ receipt, disk.actions.get? actionId = some receipt ∧ receipt.status = .queued ∧ receipt.spaceId = spaceId := by
  constructor
  · intro inside
    obtain ⟨receipt, there, located, queued⟩ := valid.queued_receipt inside
    exact ⟨receipt, there, queued, located⟩
  · rintro ⟨receipt, there, queued, rfl⟩
    exact valid.receipt_queued there queued

theorem mem_lostQueuedIds (valid : Valid config disk) :
    actionId ∈ lostQueuedIds (reopened disk) <->
      ∃ receipt, disk.actions.get? actionId = some receipt ∧ receipt.status = .queued ∧
        isLostSpace disk receipt.spaceId = true := by
  have split : actionId ∈ lostQueuedIds (reopened disk) <->
      ∃ spaceId, actionId ∈ disk.queue spaceId ∧ isLostSpace disk spaceId = true := by
    simp only [lostQueuedIds, List.mem_flatMap, Prod.exists, mem_queue]
    refine exists_congr fun spaceId => ?_
    change (∃ queue, _ ∈ disk.actionQueues.entries.filter _ ∧ _) <-> _
    simp only [List.mem_filter, isLostSpace_reopened]
    constructor
    · rintro ⟨queue, ⟨member, lost⟩, inside⟩
      exact ⟨⟨queue, member, inside⟩, lost⟩
    · rintro ⟨⟨queue, member, inside⟩, lost⟩
      exact ⟨queue, ⟨member, lost⟩, inside⟩
  rw [split]
  simp only [valid.mem_queue_iff]
  constructor
  · rintro ⟨_, ⟨receipt, there, queued, rfl⟩, lost⟩
    exact ⟨receipt, there, queued, lost⟩
  · rintro ⟨receipt, there, queued, lost⟩
    exact ⟨_, ⟨receipt, there, queued, rfl⟩, lost⟩

theorem recovered_queue (spaceId : SpaceId) :
    (recovered disk).queue spaceId = if isLostSpace disk spaceId = true then [] else disk.queue spaceId := by
  change (((disk.actionQueues.filter _).get? spaceId).getD []) = _
  rw [Table.get?_filter, isLostSpace_reopened]
  cases isLostSpace disk spaceId with
  | true => cases disk.actionQueues.get? spaceId <;> rfl
  | false =>
    rw [LedgerState.queue]
    cases disk.actionQueues.get? spaceId <;> rfl

theorem mem_recovered_queuedIds (valid : Valid config disk) :
    actionId ∈ queuedIds (recovered disk) <->
      ∃ receipt, disk.actions.get? actionId = some receipt ∧ receipt.status = .queued ∧
        isLostSpace disk receipt.spaceId = false := by
  simp only [mem_queuedIds, recovered_queue]
  constructor
  · rintro ⟨spaceId, inside⟩
    split_ifs at inside with lost
    · cases inside
    · obtain ⟨receipt, there, queued, rfl⟩ := valid.mem_queue_iff.mp inside
      exact ⟨receipt, there, queued, by simpa using lost⟩
  · rintro ⟨receipt, there, queued, kept⟩
    exact ⟨receipt.spaceId, by simpa [kept] using valid.receipt_queued there queued⟩

theorem recovered_action (actionId : ActionId) :
    (recovered disk).actions.get? actionId = (disk.actions.get? actionId).map
      (recoverReceipt ((lostQueuedIds (reopened disk)).contains actionId)
        (recoveryNumber (reopened disk) actionId)) :=
  Table.get?_mapValues _ _ _

theorem recoverReceipt_status (valid : Valid config disk) (open_ : RunningOpen disk)
    (found : disk.actions.get? actionId = some receipt) :
    validateReceiptStatus ((queuedIds (recovered disk)).contains actionId)
      (recoverReceipt ((lostQueuedIds (reopened disk)).contains actionId) (recoveryNumber (reopened disk) actionId)
        receipt) = .ok () := by
  obtain ⟨_, _, checked⟩ := valid.checked found
  have status := checked.status
  have again : (queuedIds (recovered disk)).contains actionId =
      (receipt.status == .queued && !isLostSpace disk receipt.spaceId) := by
    rw [Bool.eq_iff_iff, List.contains_iff_mem, mem_recovered_queuedIds valid]
    simp [found]
  have lost : (lostQueuedIds (reopened disk)).contains actionId =
      (receipt.status == .queued && isLostSpace disk receipt.spaceId) := by
    rw [Bool.eq_iff_iff, List.contains_iff_mem, mem_lostQueuedIds valid]
    simp [found]
  rw [again, lost]
  cases state : receipt.status
  case queued =>
    simp only [validateReceiptStatus, state, require_ok, Bool.and_eq_true] at status
    obtain ⟨⟨⟨⟨dispatch, _⟩, known⟩, settled⟩, source⟩ := status
    cases isLostSpace disk receipt.spaceId with
    | true =>
      -- the receipt is cancelled
      simp [recoverReceipt, validateReceiptStatus, state, require_ok, known, settled]
    | false =>
      -- the receipt stays as it is
      simp [recoverReceipt, validateReceiptStatus, state, require_ok, dispatch, known, settled, source]
  case running =>
    have source := open_ actionId receipt found state
    simp only [validateReceiptStatus, state, require_ok, Bool.and_eq_true, Bool.not_eq_true'] at status
    have flying := status.1.1.1
    unfold ActionReceipt.inFlight at flying
    simp [recoverReceipt, validateReceiptStatus, state, require_ok, ActionReceipt.inFlight, flying, source]
  all_goals
    simp only [recoverReceipt, state]
    simp only [validateReceiptStatus, state, require_ok, Bool.and_eq_true, Bool.not_eq_true'] at status ⊢
    simp [status]

theorem recoverSpace_page (space : SpaceDescriptor) (pageId : PageId) :
    (recoverSpace space).page pageId =
      (space.page pageId).map fun page => if isLostByRestart space.lifecycle then recoverPage page else page := by
  unfold recoverSpace SpaceDescriptor.page
  dsimp only
  split_ifs
  · rw [List.find?_map]
    rfl
  · simp

theorem recoverReceipt_target {later : ActionReceipt} (checked : validateActionTarget space receipt = .ok ())
    (same : receipt.SameRequest later) (queued : later.status = .queued -> receipt.status = .queued) :
    validateActionTarget (recoverSpace space) later = .ok () := by
  unfold validateActionTarget at checked ⊢
  rw [same.pageId, same.operation]
  cases target : receipt.pageId with
  | none => simpa only [target] using checked
  | some pageId =>
    simp only [target, bind_ok, orElse_ok, require_ok, Bool.not_eq_true', Bool.and_eq_false_iff] at checked ⊢
    obtain ⟨page, located, admits⟩ := checked
    rw [recoverSpace_page, located]
    refine ⟨_, rfl, admits.imp ?_ fun other => ?_⟩
    · -- a recovered page is managed as before
      split_ifs
      · exact id
      · exact id
    · rw [beq_eq_false_iff_ne] at other ⊢
      exact fun waits => other (queued waits)

def recoverEntry (disk : LedgerState) (entry : ActionId × ActionReceipt) : ActionId × ActionReceipt :=
  (entry.1, recoverReceipt ((lostQueuedIds (reopened disk)).contains entry.1)
    (recoveryNumber (reopened disk) entry.1) entry.2)

theorem recoverEntry_move (entry : ActionId × ActionReceipt) : ReceiptMove entry.2 (recoverEntry disk entry).2 :=
  recoverReceipt_move _ _

theorem recoverEntry_keys (earlier : List (ActionId × ActionReceipt)) (key : IdempotencyKey) :
    ((earlier.map (recoverEntry disk)).any fun other => other.2.idempotencyKey == key) =
      earlier.any fun other => other.2.idempotencyKey == key := by
  rw [List.any_map]
  refine congrArg earlier.any (funext fun entry => ?_)
  rw [Function.comp_apply, (recoverEntry_move entry).same.idempotencyKey]

theorem recoverEntry_checked {earlier : List (ActionId × ActionReceipt)} (valid : Valid config disk)
    (open_ : RunningOpen disk) (found : disk.actions.get? actionId = some receipt)
    (checked : validateAction config.codec disk earlier (actionId, receipt) = .ok ()) :
    validateAction config.codec (recovered disk) (earlier.map (recoverEntry disk))
      (recoverEntry disk (actionId, receipt)) = .ok () := by
  have move : ReceiptMove (actionId, receipt).2 (recoverEntry disk (actionId, receipt)).2 := recoverEntry_move _
  have same := move.same
  have stopped : (recoverEntry disk (actionId, receipt)).2.status ≠ .running := recoverReceipt_stopped _ _
  have status : validateReceiptStatus ((queuedIds (recovered disk)).contains actionId)
      (recoverEntry disk (actionId, receipt)).2 = .ok () := recoverReceipt_status valid open_ found
  simp only [validateAction, bind_ok, require_ok, orElse_ok] at checked ⊢
  obtain ⟨_, named, request, requested, _, matched, _, payload, space, located, _, target, _, _, _, _, other, indexed,
    unique⟩ := checked
  refine ⟨(), ?_, request, requested, (), ?_, (), payload, recoverSpace space, ?_, (),
    recoverReceipt_target target same move.queued, (), status, (), ?_, other, ?_, ?_⟩
  · rwa [same.actionId]
  · unfold requestMatches at matched ⊢
    rwa [same.requestId, same.idempotencyKey, same.requestHash, same.spaceId, same.pageId, same.leaseEpoch,
      same.operation, same.postcondition]
  · rw [recovered_space, same.spaceId, located, Option.map_some]
  · simp [stopped]
  · rwa [same.idempotencyKey]
  · rw [recoverEntry_keys, same.idempotencyKey]
    exact unique

theorem recovered_actions (valid : Valid config disk) (open_ : RunningOpen disk) :
    validateActions config.codec (recovered disk) = .ok () := by
  have actions := (valid_iff.mp valid).actions
  simp only [validateActions, bind_ok] at actions ⊢
  obtain ⟨⟨⟩, sizes, every⟩ := actions
  refine ⟨(), ?_, ?_⟩
  · have same : (recovered disk).actions.size = disk.actions.size := Table.size_mapValues _ _
    rw [same]
    exact sizes
  · change forEachAfter _ [] (disk.actions.entries.map (recoverEntry disk)) = _
    refine forEachAfter_map (recoverEntry disk) (fun before entry after split checked => ?_) every
    have found : disk.actions.get? entry.1 = some entry.2 := by
      rw [← Table.mem_entries, split]
      simp
    exact recoverEntry_checked valid open_ found checked

theorem recovered_queues (valid : Valid config disk) :
    forEachAfter (validateQueue config.limits (recovered disk)) [] (recovered disk).actionQueues.entries = .ok () := by
  have queues := (valid_iff.mp valid).queues
  change forEachAfter _ [] (disk.actionQueues.entries.filter _) = _
  refine forEachAfter_filter _ (fun before entry inside kept checked => ?_) queues
  obtain ⟨spaceId, queue⟩ := entry
  rw [Bool.not_eq_true', isLostSpace_reopened] at kept
  simp only [validateQueue, bind_ok, require_ok] at checked ⊢
  obtain ⟨_, known, _, bounded, ids⟩ := checked
  refine ⟨(), ?_, (), bounded, forEachAfter_mono (fun earlier actionId member one => ?_) ids⟩
  · rw [Table.contains, recovered_space, Option.isSome_map]
    exact known
  · simp only [validateQueuedId, bind_ok, orElse_ok, require_ok, Bool.and_eq_true, beq_iff_eq, Bool.not_eq_true',
      List.contains_eq_mem, decide_eq_false_iff_not, List.mem_append, List.mem_flatMap, not_or, not_exists, not_and]
      at one ⊢
    obtain ⟨_, ⟨fresh, alone⟩, receipt, present, rfl, waiting⟩ := one
    refine ⟨(), ⟨fun other among => fresh other (List.mem_filter.mp among).1, alone⟩, receipt, ?_, rfl, waiting⟩
    -- the space is not lost, so its queued receipts stay
    have stays : (lostQueuedIds (reopened disk)).contains actionId = false := by
      rw [Bool.eq_false_iff, ne_eq, List.contains_iff_mem, mem_lostQueuedIds valid]
      rintro ⟨other, there, _, lost⟩
      cases present.symm.trans there
      rw [kept] at lost
      cases lost
    rw [recovered_action, present, Option.map_some, stays, recoverReceipt, waiting]
    rfl

end Actions

theorem isFenceLifecycle_recover (space : SpaceDescriptor) : isFenceLifecycle (recoverSpace space).lifecycle = false := by
  unfold recoverSpace
  dsimp only
  cases space.lifecycle <;> simp [isLostByRestart, isFenceLifecycle]

theorem recovered_spaces_all {test : SpaceId -> SpaceDescriptor -> Bool} :
    (recovered disk).spaces.all test = disk.spaces.all fun spaceId space => test spaceId (recoverSpace space) := by
  change (disk.spaces.entries.map _).all _ = _
  rw [List.all_map]
  rfl

theorem recovered_indexes (valid : Valid config disk) : validateIndexes (recovered disk) = .ok () := by
  have indexes := (valid_iff.mp valid).indexes
  simp only [validateIndexes, bind_ok, require_ok, Bool.and_eq_true, recovered_spaces_all] at indexes ⊢
  obtain ⟨_, ⟨sizes, generations⟩, _, ⟨bindings, bound⟩, _, floors, _⟩ := indexes
  refine ⟨(), ⟨?_, generations⟩, (), ⟨?_, ?_⟩, (), floors, ?_⟩
  · have same : (recovered disk).spaces.size = disk.spaces.size := Table.size_mapValues _ _
    rw [same]
    exact sizes
  · rw [Table.all_eq_true] at bindings ⊢
    intro spaceId binding found
    rw [Table.contains, recovered_space, Option.isSome_map]
    exact bindings spaceId binding found
  · have same : (fun spaceId space => bindingIndexed (recovered disk) spaceId (recoverSpace space)) =
        bindingIndexed disk := by
      funext spaceId space
      obtain ⟨_, _, kept, _⟩ := recoverSpace_eq space
      rw [kept]
      rfl
    rw [same]
    exact bound
  · simp [isFenceLifecycle_recover, Table.all]

theorem recovered_tickets (valid : Valid config disk) : validateControlTickets (recovered disk) = .ok () := by
  have tickets := (valid_iff.mp valid).controlTickets
  simp only [validateControlTickets, require_ok] at tickets ⊢
  change (disk.controlTickets.entries.map _).all _ = true
  rw [List.all_map]
  refine List.all_eq_true.mpr fun entry inside => ?_
  have matched := List.all_eq_true.mp tickets entry inside
  simp only [controlTicketMatches, Bool.and_eq_true, Option.any_eq_true, beq_iff_eq] at matched
  obtain ⟨⟨named, _⟩, space, located, user, lease, leased, epoch⟩ := matched
  have kept : (recoverSpace space).lifecycle = .userOwned := by simp [recoverSpace, isLostByRestart, user]
  have held : (recoverSpace space).lease = some (recoverLease lease) := by
    obtain ⟨_, _, same, _⟩ := recoverSpace_eq space
    rw [same, leased, Option.map_some]
  have broker : (recovered disk).brokerEpoch = (reopened disk).brokerEpoch := rfl
  simp [controlTicketMatches, recovered_space, located, kept, held, named, epoch, broker]

theorem recovered_accepted (valid : Valid config disk) (open_ : RunningOpen disk) : Accepted config (recovered disk) where
  bounds := by
    have bounds := (valid_iff.mp valid).bounds
    simp only [validateBounds, bind_ok, require_ok] at bounds ⊢
    obtain ⟨_, schema, _, spaces, _, actions, _, _, _, tickets, _⟩ := bounds
    have sameSpaces : (recovered disk).spaces.size = disk.spaces.size := Table.size_mapValues _ _
    have sameActions : (recovered disk).actions.size = disk.actions.size := Table.size_mapValues _ _
    have sameTickets : (recovered disk).controlTickets.size = disk.controlTickets.size := Table.size_mapValues _ _
    rw [sameSpaces, sameActions, sameTickets]
    exact ⟨(), schema, (), spaces, (), actions, (), by simp [recovered, recoverState, reopened], (), tickets,
      by simp [recovered, recoverState, Table.size, EmptyCollection.emptyCollection, Table.empty]⟩
  spaces := by
    change forEachAfter _ [] (disk.spaces.entries.map fun entry => (entry.1, recoverSpace entry.2)) = _
    exact forEachAfter_map _ (fun _ _ _ _ checked => recoverSpace_checked checked) (valid_iff.mp valid).spaces
  indexes := recovered_indexes valid
  controlTickets := recovered_tickets valid
  pendingFences := rfl
  takeoverProofs := rfl
  queues := recovered_queues valid
  actions := recovered_actions valid open_
  snapshots := by
    have none : (recovered disk).snapshots.values = [] := rfl
    simp only [validateSnapshots, bind_ok, require_ok, none]
    exact ⟨(), rfl, by simp⟩
  events := by
    simp [validateEvents, recovered, recoverState, reopened, forEachAfter, bind_ok, require_ok]

end AgentycHost
