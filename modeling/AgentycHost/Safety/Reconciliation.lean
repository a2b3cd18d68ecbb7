import AgentycHost.Effects.Companions
import AgentycHost.Effects.Finishing
import AgentycHost.Safety.PageLives
import AgentycHost.Safety.QueuedEpochs

set_option autoImplicit false

/-! # Reconciling an action of an older epoch -/

namespace AgentycHost

open Shared

structure Companions.Adjacent (records : Companions) : Prop where
  pending : ∀ pending, records.pending = some pending ->
    ∃ epoch, pending.oldEpoch = some epoch ∧ pending.fenceEpoch = epoch + 1
  proofs : ∀ proof, proof ∈ records.proofs -> proof.currentEpoch = proof.previousEpoch + 1

def ReceiptsBehind (state : LedgerState) : Prop :=
  ∀ actionId receipt standing, state.actions.get? actionId = some receipt ->
    state.standing receipt.spaceId = some standing -> receipt.leaseEpoch ≤ standing.epoch ∧
      (standing.lifecycle = .fencePending -> receipt.leaseEpoch < standing.epoch)

def KeepsProof (spaceId : SpaceId) (previous current : LeaseEpoch) (state : LedgerState) : Prop :=
  ∀ standing, state.standing spaceId = some standing -> current < standing.epoch ∨
    standing.epoch = current ∧ standing.lifecycle ≠ .fencePending ∧
      (standing.lifecycle = .agentOwned -> ∃ proof, proof ∈ (state.companions spaceId).proofs ∧
        proof.previousEpoch = previous ∧ proof.currentEpoch = current)

variable {config : LedgerConfig} {calls : Table Nat Call} {command : Command} {before after disk state : LedgerState}
  {spaceId : SpaceId} {actionId : ActionId} {receipt : ActionReceipt}

theorem mem_addTakeoverProof {proofs : List TakeoverProofRecord} {proof other : TakeoverProofRecord}
    (member : other ∈ addTakeoverProof proofs proof) : other ∈ proofs ∨ other = proof := by
  unfold addTakeoverProof at member
  dsimp only at member
  split_ifs at member
  · simpa using List.mem_of_mem_drop member
  · simpa using member

theorem addTakeoverProof_mem (proofs : List TakeoverProofRecord) (proof : TakeoverProofRecord) :
    proof ∈ addTakeoverProof proofs proof := by
  unfold addTakeoverProof
  dsimp only
  split_ifs with long
  · -- one proof is dropped from the front, and more than one is there
    cases proofs with
    | nil => simp at long
    | cons first rest => simp
  · simp

theorem Companions.Adjacent.none (ticket : Option ControlTicketRecord) :
    Companions.Adjacent { ticket, pending := .none, proofs := [] } where
  pending _ waiting := by cases waiting
  proofs _ member := by cases member

theorem CompanionMove.adjacent {new : Option Standing} {old next : Companions} (adjacent : old.Adjacent)
    (move : CompanionMove command before spaceId new old next) : next.Adjacent := by
  cases move with
  | keep => exact adjacent
  | fenced recorded numbered =>
    refine ⟨fun pending same => ?_, adjacent.proofs⟩
    cases same
    exact ⟨_, recorded, numbered⟩
  | ticketed _ _ recorded numbered =>
    refine ⟨fun pending same => ?_, by simp⟩
    cases same
    exact ⟨_, recorded, numbered⟩
  | acknowledged waiting previous current =>
    refine ⟨by simp, fun proof member => ?_⟩
    rcases mem_addTakeoverProof member with old | rfl
    · exact adjacent.proofs proof old
    · obtain ⟨epoch, recorded, numbered⟩ := adjacent.pending _ waiting
      rw [recorded, Option.some.injEq] at previous
      rw [current, numbered, previous]
  | returned => exact ⟨by simp, adjacent.proofs⟩
  | left => exact ⟨adjacent.pending, by simp⟩

theorem openLedger_companions (opened : openLedger config disk = .ok state) (spaceId : SpaceId) :
    (state.companions spaceId).Adjacent := by
  rw [openLedger_ok opened]
  exact .none _

theorem StandingMove.enters {queue : List ActionId} {old new : Standing}
    (move : StandingMove calls command before queue spaceId (some old) (some new)) :
    old.epoch < new.epoch ∨ new.epoch = old.epoch ∧
      (new.lifecycle = .fencePending -> old.lifecycle = .fencePending) ∧
      (new.lifecycle = .agentOwned -> old.lifecycle = .agentOwned ∨ old.lifecycle = .fencePending) := by
  generalize first : some old = one at move
  generalize second : some new = other at move
  cases move with
  | keep =>
    obtain rfl : old = new := Option.some.inj (first.trans second.symm)
    exact .inr ⟨rfl, id, .inl⟩
  | granted _ _ _ _ epoch | fenced _ _ epoch | ticketed _ epoch =>
    cases first
    cases second
    exact .inl (by simp [Standing.epoch, epoch])
  | renewed leased open_ epoch =>
    cases first
    cases second
    exact .inr ⟨by simp [Standing.epoch, leased, epoch], id, .inl⟩
  | reclaimed _ _ _ _ _ pending =>
    cases first
    cases second
    exact .inr ⟨rfl, by simp, fun _ => .inr pending⟩
  | returned pending leased =>
    cases first
    cases second
    exact .inr ⟨by simp [Standing.epoch, leased], by simp, by simp⟩
  | suspended _ leased kind =>
    cases first
    cases second
    refine .inr ⟨by simp [Standing.epoch, leased], ?_⟩
    rcases kind with rfl | rfl <;> exact ⟨by simp, by simp⟩
  | finished _ _ leased final =>
    cases first
    cases second
    refine .inr ⟨by simp [Standing.epoch, leased], ?_⟩
    rcases final with rfl | rfl <;> exact ⟨by simp, by simp⟩
  | orphaned leased =>
    cases first
    cases second
    exact .inr ⟨by simp [Standing.epoch, leased], by simp, by simp⟩
  | drained | released =>
    cases first
    cases second
    exact .inr ⟨rfl, by simp, by simp⟩
  | created => cases first
  | pruned => cases second

theorem LedgerStep.receiptsBehind (valid : Valid config before) (taken : LedgerStep config calls command before after)
    (behind : ReceiptsBehind before) : ReceiptsBehind after := by
  intro actionId receipt standing found located
  -- a receipt that was there before follows its space through the step
  have follows : ∀ stored : ActionReceipt, before.actions.get? actionId = some stored ->
      receipt.spaceId = stored.spaceId -> receipt.leaseEpoch = stored.leaseEpoch ->
      receipt.leaseEpoch ≤ standing.epoch ∧ (standing.lifecycle = .fencePending -> receipt.leaseEpoch < standing.epoch) := by
    intro stored present space epoch
    obtain ⟨old, there⟩ := valid.receipt_standing present
    have move := (taken.spaceEffect valid).standing receipt.spaceId
    rw [located, space, there] at move
    obtain ⟨bound, strict⟩ := behind actionId stored old present there
    rw [epoch]
    rcases move.enters with grown | ⟨same, fenced, _⟩
    · exact ⟨Nat.le_of_lt (Nat.lt_of_le_of_lt bound grown), fun _ => Nat.lt_of_le_of_lt bound grown⟩
    · rw [same]
      exact ⟨bound, fun pending => strict (fenced pending)⟩
  have change := taken.actionEffect.change actionId
  rw [found] at change
  generalize earlier : before.actions.get? actionId = old at change
  cases change with
  | @admitted request _ _ _ allowed spaces =>
    obtain ⟨space, lease, authorized⟩ := authorizeSpace_ok.mp allowed
    have same : standing = space.standing (after.leaseHolders.get? request.spaceId) := by
      change after.standing request.spaceId = some standing at located
      rw [standing_some (spaces ▸ authorized.found)] at located
      exact (Option.some.inj located).symm
    have epoch : standing.epoch = request.leaseEpoch := by
      simp [same, Standing.epoch, SpaceDescriptor.standing, authorized.leased, authorized.epoch]
    have owned : standing.lifecycle = .agentOwned := by
      rw [same]
      exact authorized.admits rfl
    refine ⟨Nat.le_of_eq epoch.symm, fun pending => ?_⟩
    rw [owned] at pending
    cases pending
  | started => exact follows _ earlier rfl rfl
  | moved move => exact follows _ earlier move.same.spaceId move.same.leaseEpoch

theorem Valid.fence_standing {pending : PendingFenceRecord} {standing : Standing} (valid : Valid config state)
    (waiting : state.pendingFences.get? spaceId = some pending) (found : state.standing spaceId = some standing) :
    standing.lifecycle = .fencePending := by
  obtain ⟨space, located, fenced⟩ := valid.pendingFence waiting
  rw [standing_some located, Option.some.injEq] at found
  rw [← found]
  exact fenced

theorem LedgerStep.keepsProof {previous current : LeaseEpoch} (valid : Valid config before)
    (taken : LedgerStep config calls command before after) (numbered : spaceId.number ≤ before.nextSpaceNumber)
    (keeps : KeepsProof spaceId previous current before) : KeepsProof spaceId previous current after := by
  intro standing found
  have effect := taken.spaceEffect valid
  have move := effect.standing spaceId
  rw [found] at move
  cases present : before.standing spaceId with
  | none =>
    -- identities are numbered, so a space that is gone does not come back
    have later := (taken.later valid).standing spaceId numbered
    rw [present, found] at later
    cases later
  | some old =>
    rw [present] at move
    rcases move.enters with grown | ⟨same, fenced, owned⟩
    · rcases keeps old present with past | ⟨rfl, _⟩
      · exact .inl (past.trans grown)
      · exact .inl grown
    rw [same]
    obtain past | ⟨here, unfenced, proven⟩ := keeps old present
    · exact .inl past
    refine .inr ⟨here, unfenced ∘ fenced, fun owns => ?_⟩
    obtain ⟨proof, member, ends⟩ := proven ((owned owns).resolve_right unfenced)
    have unfenced_after : standing.lifecycle ≠ .fencePending := unfenced ∘ fenced
    have kept := taken.companions spaceId
    generalize changed : after.companions spaceId = records at kept ⊢
    cases kept with
    | keep => exact ⟨proof, member, ends⟩
    | returned => exact ⟨proof, member, ends⟩
    | fenced => exact absurd (taken.valid.fence_standing (congrArg Companions.pending changed) found) unfenced_after
    | ticketed => exact absurd (taken.valid.fence_standing (congrArg Companions.pending changed) found) unfenced_after
    | acknowledged waiting => exact absurd (valid.fence_standing waiting present) unfenced
    | left gone =>
      rw [found] at gone
      simp [owns] at gone

theorem openLedger_receiptsBehind (opened : openLedger config disk = .ok state) (behind : ReceiptsBehind disk) :
    ReceiptsBehind state := by
  intro actionId receipt standing found located
  obtain ⟨stored, present, move, _⟩ := openLedger_receipt opened found
  rw [openLedger_standing opened, Option.map_eq_some_iff] at located
  obtain ⟨old, there, rfl⟩ := located
  rw [move.same.spaceId] at there
  obtain ⟨bound, _⟩ := behind actionId stored old present there
  rw [Standing.recover_epoch, move.same.leaseEpoch]
  refine ⟨bound, fun pending => ?_⟩
  -- no fence outlives a restart
  simp only [Standing.recover] at pending
  split_ifs at pending with lost
  simp [pending, isLostByRestart] at lost

section Runs

variable {config : HostConfig} {start middle last : System} {trace later : List (Moment System Label)}
  {authority : AuthorityTicket} {leaseEpoch : LeaseEpoch} {now : Timestamp}

theorem HostRun.adjacent (run : HostRun config start trace last) (initial : Initial config start)
    (spaceId : SpaceId) : (last.ledger.state.companions spaceId).Adjacent := by
  obtain ⟨_, memory, _⟩ := run.ledger_keeps (fun state => (state.companions spaceId).Adjacent) initial (.none _)
    (fun _ _ _ _ adjacent taken => (taken.companions spaceId).adjacent adjacent)
    (fun _ _ _ _ opened => openLedger_companions opened spaceId)
  exact memory

theorem HostRun.receiptsBehind (run : HostRun config start trace last) (initial : Initial config start) :
    ReceiptsBehind last.ledger.state := by
  obtain ⟨_, memory, _⟩ := run.ledger_keeps ReceiptsBehind initial
    (fun actionId receipt _ found => by simp [LedgerState.new] at found)
    (fun _ _ _ valid behind taken => taken.receiptsBehind valid behind)
    (fun _ _ _ behind opened => openLedger_receiptsBehind opened behind)
  exact memory

theorem HostRun.keepsProof {previous current : LeaseEpoch} (sound : Sound config.ledger middle.ledger)
    (numbered : spaceId.number ≤ middle.ledger.state.nextSpaceNumber) (run : HostRun config middle later last)
    (sameBroker : last.ledger.state.brokerEpoch = middle.ledger.state.brokerEpoch)
    (keeps : KeepsProof spaceId previous current middle.ledger.state) :
    KeepsProof spaceId previous current last.ledger.state := by
  refine HostRun.keeps_within_broker (fun system => KeepsProof spaceId previous current system.ledger.state) sound run
    sameBroker keeps ?_
  intro moment _ sound earlier taken unrestarted kept
  rcases next_ledger taken with moved | ⟨failures, _, restarts, _⟩
  · generalize moment.after.ledger = ledger at moved
    cases moved with
    | same => exact kept
    | committed made => exact made.keepsProof sound.valid (numbered.trans earlier.numbers) kept
    | written => exact kept
  · exact absurd restarts (unrestarted failures)

/-- The step records that the bridge acknowledged a takeover of the space. -/
def acknowledgesTakeover (config : HostConfig) (spaceId : SpaceId) (moment : Moment System Label) : Bool :=
  match moment.label.2 with
  | .fenceAnswered call answer =>
      match moment.before.calls.get? call with
      | some (.fence fence) =>
          fence.purpose == .takeover && fence.request.spaceId == spaceId && answer.acknowledged &&
            (step config moment.label.1 moment.label.2 moment.before).any fun reply => reply.2.toBool
      | _ => false
  | _ => false

theorem finishFence_keepsProof {before after final : LedgerState} {request : FenceRequest} {error : Option String}
    {lifecycle : SpaceLifecycle} (adjacent : (before.companions request.spaceId).Adjacent)
    (valid : Valid config.ledger before) (same : SameButEvents after final)
    (run : finishFence request authority true error before = .ok (lifecycle, after)) :
    ∃ standing previous, before.standing request.spaceId = some standing ∧ standing.lifecycle = .fencePending ∧
      standing.epoch = previous + 1 ∧ KeepsProof request.spaceId previous (previous + 1) final := by
  simp only [finishFence, bind_ok, require_ok, orElse_ok, findSpace_ok, ownedFence, Option.any_eq_true,
    Bool.and_eq_true, beq_iff_eq, if_true, pure_ok, Prod.mk.injEq] at run
  obtain ⟨_, _, pending, waiting, _, ⟨⟨_, numbered⟩, _⟩, space, found, _, ⟨⟨lease, leased, _, epoch⟩, _⟩, previous, old,
    _, changed, _, rfl⟩ := run
  obtain ⟨recorded, again, next⟩ := adjacent.pending pending waiting
  obtain rfl : recorded = previous := Option.some.inj (again.symm.trans old)
  have standing := standing_some found
  refine ⟨_, recorded, standing, valid.fence_standing waiting standing, ?_, fun last located => .inr ?_⟩
  · simp [Standing.epoch, SpaceDescriptor.standing, leased, epoch, ← numbered, next]
  obtain ⟨_, _, _, rfl⟩ := (spaceChanged_same changed).trans same
  rw [LedgerState.standing, LedgerState.changeSpace, Table.get?_modify_self, found] at located
  obtain rfl := Option.some.inj located
  refine ⟨?_, SpaceLifecycle.noConfusion, fun _ => ?_⟩
  · simp [Standing.epoch, SpaceDescriptor.standing, reclaimedSpace, leased, epoch, ← numbered, next]
  · simp only [LedgerState.companions, LedgerState.changeSpace, Table.get?_insert_self, Option.getD_some]
    exact ⟨_, addTakeoverProof_mem _ _, rfl, by rw [← numbered, next]⟩

theorem acknowledgesTakeover_proof {moment : Moment System Label} (sound : Sound config.ledger moment.before.ledger)
    (adjacent : (moment.before.ledger.state.companions spaceId).Adjacent)
    (taken : next config moment.label moment.before = some moment.after)
    (acknowledges : acknowledgesTakeover config spaceId moment = true) :
    ∃ standing previous, moment.before.ledger.state.standing spaceId = some standing ∧
      standing.lifecycle = .fencePending ∧ standing.epoch = previous + 1 ∧
      KeepsProof spaceId previous (previous + 1) moment.after.ledger.state := by
  unfold acknowledgesTakeover at acknowledges
  split at acknowledges
  · next call answer command =>
    split at acknowledges
    · next fence found =>
      simp only [Bool.and_eq_true, beq_iff_eq, Option.any_eq_true] at acknowledges
      obtain ⟨⟨⟨purpose, inside⟩, acknowledged⟩, ⟨last, result⟩, replied, done⟩ := acknowledges
      obtain rfl : result = .ok () := toBool_ok.mp done
      obtain rfl : last = moment.after := by
        simpa [next, replied] using taken
      rw [command] at replied
      have completion : fence.completion answer = .takeover := by
        unfold FenceCall.completion
        rw [purpose]
      simp only [step, leaseStep, found, completion, acknowledged, Option.some.injEq] at replied
      obtain ⟨lifecycle, committed, ledger⟩ := goOn_ok replied
      obtain ⟨state, moved, drained⟩ := commit_ok (Prod.ext rfl committed)
      rw [ledger, drained, ← inside]
      exact finishFence_keepsProof (inside ▸ adjacent) sound.valid (drainEvents_same config.ledger.limits state) moved
    · cases acknowledges
  · cases acknowledges

/-- The holder's request passes every check of a reconciliation but the one of its epoch. -/
structure HoldsReconciliation (state : LedgerState) (spaceId : SpaceId) (actionId : ActionId)
    (authority : AuthorityTicket) (leaseEpoch : LeaseEpoch) (now : Timestamp) (receipt : ActionReceipt) : Prop where
  ticket : authorizeTicket state authority = .ok ()
  present : state.actions.get? actionId = some receipt
  inside : receipt.spaceId = spaceId
  unknown : receipt.status = .unknown
  profile : authorizeProfileForMutation state spaceId authority = .ok ()
  holder : state.leaseHolders.get? spaceId = some authority.connectionEpoch
  space : ∃ space lease, state.spaces.get? spaceId = some space ∧ space.lifecycle = .agentOwned ∧
    space.owner = authority.principalId ∧ space.lease = some lease ∧ lease.principalId = authority.principalId ∧
    lease.leaseEpoch = leaseEpoch ∧ lease.state = .active ∧ now < lease.expiresAt

theorem HoldsReconciliation.accepted
    (holds : HoldsReconciliation last.ledger.state spaceId actionId authority leaseEpoch now receipt) :
    authorizeReconciliationAuthority last.ledger.state actionId authority leaseEpoch now = .ok receipt <->
      receipt.leaseEpoch = leaseEpoch ∨ receipt.leaseEpoch ≤ leaseEpoch ∧
        takeoverProofExists last.ledger.state spaceId receipt.leaseEpoch leaseEpoch authority.principalId = true := by
  obtain ⟨ticket, present, rfl, unknown, profile, holder, space, lease, found, owned, owner, leased, principal, rfl, active,
    unexpired⟩ := holds
  simp [-bind_pure_comp, authorizeReconciliationAuthority, bind_ok, require_ok, orElse_ok, findSpace_ok, pure_ok,
    authorizeLeaseHolder, ticket, present, unknown, profile, holder, found, owned, owner, leased, principal, active, unexpired,
    SpaceLifecycle.admitsMutations]

theorem HostRun.action_stays {old : ActionReceipt} (early : HostRun config start trace middle)
    (initial : Initial config start) (late : HostRun config middle later last)
    (present : middle.ledger.state.actions.get? actionId = some old) :
    (∃ receipt, last.ledger.state.actions.get? actionId = some receipt ∧ LaterReceipt old receipt) ∨
      last.ledger.state.standing old.spaceId = none := by
  obtain ⟨standing, located⟩ := (HostRun.sound early initial).valid.receipt_standing present
  have numbered := HostRun.numbered early initial old.spaceId (by simp [located])
  refine (HostRun.ledger_keeps_from (fun state => old.spaceId.number ≤ state.nextSpaceNumber ∧
    ((∃ receipt, state.actions.get? actionId = some receipt ∧ LaterReceipt old receipt) ∨
      state.standing old.spaceId = none)) early initial late ⟨numbered, .inl ⟨old, present, .refl old⟩⟩ ?_ ?_).2
  · rintro moment state _ valid ⟨numbered, there⟩ taken
    have order := taken.later valid
    refine ⟨numbered.trans order.numbers, ?_⟩
    rcases there with ⟨receipt, found, after⟩ | gone
    · rcases taken.receipt_later found with ⟨next, kept, more⟩ | ⟨_, _, _, emptied⟩
      · exact .inl ⟨next, kept, after.trans more⟩
      · rw [after.same.spaceId] at emptied
        exact .inr (by simp [LedgerState.standing, emptied])
    · have later := order.standing old.spaceId numbered
      rw [gone] at later
      generalize state.standing old.spaceId = new at later ⊢
      cases later
      exact .inr rfl
  · rintro disk state _ ⟨numbered, there⟩ opened
    refine ⟨numbered.trans (openLedger_numbers opened).ge, ?_⟩
    rcases there with ⟨receipt, found, after⟩ | gone
    · obtain ⟨next, kept, more⟩ := openLedger_later_receipt opened found
      exact .inl ⟨next, kept, after.trans more⟩
    · exact .inr (by rw [openLedger_standing opened, gone]; rfl)

theorem Valid.takeoverProof {config : LedgerConfig} {state : LedgerState} {space : SpaceDescriptor}
    {proof : TakeoverProofRecord} (valid : Valid config state) (found : state.spaces.get? spaceId = some space)
    (member : proof ∈ (state.companions spaceId).proofs) :
    proof.brokerEpoch = state.brokerEpoch ∧ proof.principalId = space.owner := by
  change proof ∈ (state.takeoverProofs.get? spaceId).getD [] at member
  cases stored : state.takeoverProofs.get? spaceId with
  | none => simp [stored] at member
  | some proofs =>
    rw [stored, Option.getD_some] at member
    have one := forEach_ok.mp (valid_iff.mp valid).takeoverProofs _ ((Table.mem_entries _ _ _).mpr stored)
    simp only [validateTakeoverProofs, bind_ok, orElse_ok] at one
    obtain ⟨again, located, _, _, loop⟩ := one
    obtain rfl : again = space := Option.some.inj (located.symm.trans found)
    obtain ⟨earlier, checked⟩ := forEachAfter_mem loop member
    simp only [validateTakeoverProof, bind_ok, require_ok, Bool.and_eq_true, beq_iff_eq] at checked
    obtain ⟨_, ⟨⟨⟨⟨_, broker⟩, _⟩, _⟩, principal⟩, _⟩ := checked
    exact ⟨broker, principal⟩

/-- A takeover between two states of one broker lets the holder reconcile an action that was unknown
before it, exactly when the holder's epoch is the one after the action's. -/
theorem reconciliation_spans_one_epoch (initial : Initial config start) (early : HostRun config start trace middle)
    (late : HostRun config middle later last)
    (sameBroker : last.ledger.state.brokerEpoch = middle.ledger.state.brokerEpoch)
    (unknown : ∃ old, middle.ledger.state.actions.get? actionId = some old ∧ old.spaceId = spaceId ∧
      old.status = .unknown)
    (takeovers : 1 ≤ later.countP (acknowledgesTakeover config spaceId))
    (holds : HoldsReconciliation last.ledger.state spaceId actionId authority leaseEpoch now receipt) :
    authorizeReconciliationAuthority last.ledger.state actionId authority leaseEpoch now = .ok receipt <->
      leaseEpoch = receipt.leaseEpoch + 1 := by
  obtain ⟨old, present, rfl, _⟩ := unknown
  obtain ⟨space, lease, found, owned, owner, leased, _, epoch, _⟩ := holds.space
  obtain ⟨moment, member, acknowledges⟩ := List.countP_pos_iff.mp takeovers
  obtain ⟨before, after, until_, taken, rfl⟩ := late.at_moment member
  have whole := early.append until_
  have sound := HostRun.sound whole initial
  obtain ⟨standing, previous, located, fenced, fence, keeps⟩ :=
    acknowledgesTakeover_proof sound (HostRun.adjacent whole initial old.spaceId) taken acknowledges
  -- the fence was pending, so the action is from an epoch before it
  have older : old.leaseEpoch ≤ previous := by
    rcases HostRun.action_stays early initial until_ present with ⟨then_, there, same⟩ | gone
    · have behind := (HostRun.receiptsBehind whole initial actionId then_ standing there
        (same.same.spaceId ▸ located)).2 fenced
      rw [same.same.leaseEpoch, fence] at behind
      exact Nat.le_of_lt_succ behind
    · rw [gone] at located
      cases located
  have request : receipt.leaseEpoch = old.leaseEpoch := by
    rcases HostRun.action_stays early initial late present with ⟨final, there, same⟩ | gone
    · obtain rfl : final = receipt := Option.some.inj (there.symm.trans holds.present)
      exact same.same.leaseEpoch
    · rw [standing_some found] at gone
      cases gone
  have onward := late.after_moment
  have sameAfter : last.ledger.state.brokerEpoch = moment.after.ledger.state.brokerEpoch := by
    refine Nat.le_antisymm ?_ (HostRun.later (sound.step taken) onward).brokerEpoch
    rw [sameBroker]
    exact (HostRun.later (HostRun.sound early initial) (.step until_ taken)).brokerEpoch
  have numbered : old.spaceId.number ≤ moment.after.ledger.state.nextSpaceNumber :=
    (HostRun.numbered whole initial old.spaceId (by simp [located])).trans (sound.later taken).numbers
  have proven := HostRun.keepsProof (sound.step taken) numbered onward sameAfter keeps _ (standing_some found)
  have current : (space.standing (last.ledger.state.leaseHolders.get? old.spaceId)).epoch = leaseEpoch := by
    simp [Standing.epoch, SpaceDescriptor.standing, leased, epoch]
  rw [current] at proven
  have above : previous < leaseEpoch := by
    rcases proven with past | ⟨here, _⟩
    · exact Nat.lt_trans (Nat.lt_succ_self _) past
    · exact here ▸ Nat.lt_succ_self _
  have all := early.append late
  rw [holds.accepted, request]
  constructor
  · rintro (same | ⟨_, proof_exists⟩)
    · exact absurd same (Nat.ne_of_lt (Nat.lt_of_le_of_lt older above))
    · simp only [takeoverProofExists, List.any_eq_true, Bool.and_eq_true, beq_iff_eq] at proof_exists
      obtain ⟨proof, member, ⟨⟨_, left⟩, right⟩, _⟩ := proof_exists
      rw [← right, ← left]
      exact (HostRun.adjacent all initial old.spaceId).proofs proof member
  · intro next
    rcases proven with past | ⟨here, _, proof⟩
    · rw [next] at past
      exact absurd (Nat.lt_of_succ_lt_succ past) (Nat.not_lt.mpr older)
    · obtain ⟨proof, member, left, right⟩ := proof owned
      obtain ⟨broker, principal⟩ := (HostRun.sound all initial).valid.takeoverProof found member
      have same : old.leaseEpoch = previous := Nat.succ.inj (next.symm.trans here)
      refine .inr ⟨Nat.le_of_lt (same ▸ above), ?_⟩
      simp only [takeoverProofExists, List.any_eq_true, Bool.and_eq_true, beq_iff_eq]
      exact ⟨proof, member, ⟨⟨broker, left.trans same.symm⟩, right.trans here.symm⟩, principal.trans owner⟩

def mayReconcile (leaseEpoch : LeaseEpoch) (system : System) : Bool :=
  let state := system.ledger.state
  (authorizeTicket state sampleTicket).toBool && (authorizeProfileForMutation state ⟨1⟩ sampleTicket).toBool &&
    state.leaseHolders.get? ⟨1⟩ == some 1 &&
    (state.actions.get? firstRequest.actionId).any (fun receipt =>
      receipt.spaceId == ⟨1⟩ && receipt.status == .unknown && receipt.leaseEpoch == 1) &&
    (state.spaces.get? ⟨1⟩).any fun space =>
      space.lifecycle == .agentOwned && space.owner == samplePrincipal && space.lease.any fun lease =>
        lease.principalId == samplePrincipal && lease.leaseEpoch == leaseEpoch && lease.state == .active &&
          decide (60 < lease.expiresAt)

theorem mayReconcile_holds {system : System} (may : mayReconcile leaseEpoch system = true) :
    ∃ receipt, HoldsReconciliation system.ledger.state ⟨1⟩ firstRequest.actionId sampleTicket leaseEpoch 60 receipt ∧
      receipt.leaseEpoch = 1 := by
  simp only [mayReconcile, Bool.and_eq_true, beq_iff_eq, Option.any_eq_true, decide_eq_true_eq, toBool_ok] at may
  obtain ⟨⟨⟨⟨ticket, profile⟩, holder⟩, receipt, present, ⟨inside, unknown⟩, old⟩, space, found, ⟨owned, owner⟩, lease,
    leased, ⟨⟨principal, epoch⟩, active⟩, unexpired⟩ := may
  exact ⟨receipt, ⟨ticket, present, inside, unknown, profile, holder, space, lease, found, owned, owner, leased, principal,
    epoch, active, unexpired⟩, old⟩

def lostAction (system : System) : Bool :=
  (system.ledger.state.actions.get? firstRequest.actionId).any fun receipt =>
    receipt.spaceId == ⟨1⟩ && receipt.status == .unknown

/-- One takeover after the loss, and the action is reconciled. -/
theorem reconciliation_spans_one_epoch_taken :
    ∃ middle last : System, ∃ receipt, lostAction middle = true ∧
      HoldsReconciliation last.ledger.state ⟨1⟩ firstRequest.actionId sampleTicket 2 60 receipt ∧
      authorizeReconciliationAuthority last.ledger.state firstRequest.actionId sampleTicket 2 60 = .ok receipt := by
  obtain ⟨middle, last, moments, early, late, passed⟩ := HostRun.of_advances sampleConfig (.fresh sampleConfig)
    lostOnce takenOverOnce
    (fun middle last moments => lostAction middle && mayReconcile 2 last &&
      last.ledger.state.brokerEpoch == middle.ledger.state.brokerEpoch &&
      decide (1 ≤ moments.countP (acknowledgesTakeover sampleConfig ⟨1⟩))) (by decide +kernel)
  simp only [Bool.and_eq_true, beq_iff_eq, decide_eq_true_eq] at passed
  obtain ⟨⟨⟨lost, may⟩, broker⟩, one⟩ := passed
  obtain ⟨receipt, holds, old⟩ := mayReconcile_holds may
  refine ⟨middle, last, receipt, lost, holds, ?_⟩
  simp only [lostAction, Option.any_eq_true, Bool.and_eq_true, beq_iff_eq] at lost
  exact (reconciliation_spans_one_epoch sample_initial early late broker lost
    (by rw [List.countP_reverse]; exact one) holds).mpr (by rw [old])

/-- After the second takeover the action is reconciled by nobody. -/
theorem second_takeover_strands_reconciliation :
    ∃ trace middle later last receipt, HostRun sampleConfig (.fresh sampleConfig) trace middle ∧
      HostRun sampleConfig middle later last ∧ lostAction middle = true ∧
      last.ledger.state.brokerEpoch = middle.ledger.state.brokerEpoch ∧
      later.countP (acknowledgesTakeover sampleConfig ⟨1⟩) = 2 ∧
      HoldsReconciliation last.ledger.state ⟨1⟩ firstRequest.actionId sampleTicket 3 60 receipt ∧
      authorizeReconciliationAuthority last.ledger.state firstRequest.actionId sampleTicket 3 60 ≠ .ok receipt := by
  obtain ⟨middle, last, moments, early, late, passed⟩ := HostRun.of_advances sampleConfig (.fresh sampleConfig)
    lostOnce
    (takenOverOnce ++
      [(sampleEnv, .takeover 6 ⟨1⟩ sampleTicket 40 1000 none),
       (sampleEnv, .fenceAnswered 6 { acknowledged := true, error := none })])
    (fun middle last moments => lostAction middle && mayReconcile 3 last &&
      last.ledger.state.brokerEpoch == middle.ledger.state.brokerEpoch &&
      moments.countP (acknowledgesTakeover sampleConfig ⟨1⟩) == 2 &&
      !takeoverProofExists last.ledger.state ⟨1⟩ 1 3 samplePrincipal) (by decide +kernel)
  simp only [Bool.and_eq_true, beq_iff_eq, Bool.not_eq_true'] at passed
  obtain ⟨⟨⟨⟨lost, may⟩, broker⟩, two⟩, unproven⟩ := passed
  obtain ⟨receipt, holds, old⟩ := mayReconcile_holds may
  refine ⟨_, middle, _, last, receipt, early, late, lost, broker, by rw [List.countP_reverse]; exact two, holds, ?_⟩
  rw [Ne, holds.accepted, old]
  change ¬ ((1 : Nat) = 3 ∨ _ ∧ takeoverProofExists last.ledger.state ⟨1⟩ 1 3 samplePrincipal = true)
  simp [unproven]

end Runs

end AgentycHost
