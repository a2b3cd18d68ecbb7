import AgentycHost.Effects.Pages
import AgentycHost.Effects.Reopening
import AgentycHost.System.Dispatch

set_option autoImplicit false

/-! # Finishing a space -/

namespace AgentycHost

open Shared

def SpaceLifecycle.isEnding : SpaceLifecycle -> Bool
  | .draining | .finished | .released => true
  | _ => false

def FinishPhase.claimed : FinishPhase -> Bool
  | .missing _ => false
  | .draining _ _ | .closing _ _ _ => true

def AllSettled (state : LedgerState) (spaceId : SpaceId) : Prop :=
  ∀ actionId receipt, state.actions.get? actionId = some receipt -> receipt.spaceId = spaceId ->
    receipt.status.isTerminal = true

def EndingSettled (state : LedgerState) : Prop :=
  ∀ spaceId standing, state.standing spaceId = some standing -> standing.lifecycle.isEnding = true ->
    AllSettled state spaceId

def ClosedSince (leaseEpoch : LeaseEpoch) (standing : Standing) : Prop :=
  leaseEpoch < standing.epoch ∨ standing.epoch = leaseEpoch ∧
    (standing.lifecycle.isEnding = true ∨ standing.lifecycle = .orphaned)

structure Claimed (state : LedgerState) (claim : Claim) : Prop where
  numbered : claim.spaceId.number ≤ state.nextSpaceNumber
  closed : ∀ standing, state.standing claim.spaceId = some standing -> ClosedSince claim.leaseEpoch standing

structure Finishing (system : System) : Prop where
  memory : EndingSettled system.ledger.state
  file : EndingSettled system.ledger.disk
  claims : ∀ key claim phase, system.calls.get? key = some (.finish claim phase) -> phase.claimed = true ->
    Claimed system.ledger.state claim

section States

variable {config : LedgerConfig} {calls : Table Nat Call} {command : Command} {before after disk state : LedgerState}
  {spaceId : SpaceId}

theorem AllSettled.of_resolved (resolved : spaceHasUnresolvedActions state spaceId = false) :
    AllSettled state spaceId := by
  rintro actionId receipt found rfl
  exact isTerminal_of_resolved found resolved

theorem StandingMove.ending {queue : List ActionId} {old : Option Standing} {new : Standing}
    (move : StandingMove calls command before queue spaceId old (some new)) (ending : new.lifecycle.isEnding = true) :
    AllSettled before spaceId ∨ (∃ prior, old = some prior ∧ prior.lifecycle.isEnding = true) ∨
      ∃ call, command = .completeFinish call ∧ old ≠ some new := by
  generalize last : some new = next at move
  cases move with
  | keep => exact .inr (.inl ⟨new, last.symm, ending⟩)
  | drained _ resolved => exact .inl (.of_resolved resolved)
  | @finished prior lease lifecycle call made_by open_ leased final =>
    by_cases already : prior.lifecycle.isEnding = true
    · exact .inr (.inl ⟨prior, rfl, already⟩)
    · refine .inr (.inr ⟨call, made_by, fun same => already ?_⟩)
      rw [Option.some.inj same, ← Option.some.inj last]
      exact ending
  | released finished => exact .inr (.inl ⟨_, rfl, by rw [finished]; rfl⟩)
  | renewed _ open_ =>
    cases last
    obtain owned | pending := open_
    · simp [owned, SpaceLifecycle.isEnding] at ending
    · simp [pending, SpaceLifecycle.isEnding] at ending
  | suspended _ _ kind =>
    cases last
    obtain rfl | rfl := kind <;> cases ending
  | _ =>
    cases last
    try cases ending

theorem LedgerStep.allSettled (taken : LedgerStep config calls command before after) (settled : AllSettled before spaceId)
    {standing : Standing} (located : after.standing spaceId = some standing)
    (ending : standing.lifecycle.isEnding = true) : AllSettled after spaceId := by
  intro actionId receipt found inside
  have change := taken.actionEffect.change actionId
  cases stored : before.actions.get? actionId with
  | some receipt =>
    obtain ⟨later, there, life⟩ | ⟨gone, _⟩ := taken.receipt_later stored
    · cases there.symm.trans found
      have ended := settled actionId receipt stored (life.same.spaceId ▸ inside)
      rw [life.final ended]
      exact ended
    · rw [gone] at found
      cases found
  | none =>
    -- a new receipt is admitted under the lease of an owned space
    rw [stored, found] at change
    cases change with
    | @admitted request _ _ _ allowed spaces =>
      obtain ⟨space, lease, authorized⟩ := authorizeSpace_ok.mp allowed
      have owned := authorized.admits rfl
      have there := standing_some (spaces ▸ authorized.found)
      have same : request.spaceId = spaceId := inside
      rw [same] at there
      cases located.symm.trans there
      simp [SpaceDescriptor.standing, owned, SpaceLifecycle.isEnding] at ending

theorem LedgerStep.endingSettled (valid : Valid config before) (settled : EndingSettled before)
    (taken : LedgerStep config calls command before after)
    (drained : ∀ call, command = .completeFinish call -> ∀ spaceId standing,
      before.standing spaceId = some standing -> after.standing spaceId ≠ some standing ->
      standing.lifecycle.isEnding = true) : EndingSettled after := by
  intro spaceId standing located ending
  refine taken.allSettled ?_ located ending
  have move := (taken.spaceEffect valid).standing spaceId
  rw [located] at move
  obtain resolved | ⟨prior, earlier, already⟩ | ⟨call, made_by, changed⟩ := move.ending ending
  · exact resolved
  · exact settled spaceId prior earlier already
  · cases earlier : before.standing spaceId with
    | some prior =>
      exact settled spaceId prior earlier (drained call made_by spaceId prior earlier
        (by rw [located]; exact fun same => changed (earlier.trans same.symm)))
    | none =>
      rw [earlier] at move
      generalize last : some standing = next at move
      cases move with
      | keep => cases last
      | created =>
        cases last
        cases ending

theorem openLedger_endingSettled (settled : EndingSettled disk) (opened : openLedger config disk = .ok state) :
    EndingSettled state := by
  intro spaceId standing located ending actionId receipt found inside
  rw [openLedger_standing opened, Option.map_eq_some_iff] at located
  obtain ⟨prior, earlier, rfl⟩ := located
  obtain ⟨stored, present, move, _⟩ := openLedger_receipt opened found
  have already : prior.lifecycle.isEnding = true := by
    unfold Standing.recover at ending
    dsimp only at ending
    split_ifs at ending
    · cases ending
    · exact ending
  have ended := settled spaceId prior earlier already actionId stored present (move.same.spaceId ▸ inside)
  rw [move.later.final ended]
  exact ended

section Epochs

variable {leaseEpoch : LeaseEpoch} {old new : Standing}

theorem ClosedSince.raised (closed : ClosedSince leaseEpoch old) (epoch : new.epoch = old.epoch + 1) :
    ClosedSince leaseEpoch new := by
  refine .inl ?_
  rw [epoch]
  obtain later | ⟨same, _⟩ := closed
  · exact Nat.lt_succ_of_lt later
  · rw [same]
    exact Nat.lt_succ_self _

theorem ClosedSince.ended (closed : ClosedSince leaseEpoch old) (epoch : new.epoch = old.epoch)
    (final : new.lifecycle.isEnding = true ∨ new.lifecycle = .orphaned) : ClosedSince leaseEpoch new := by
  obtain later | ⟨same, _⟩ := closed
  · exact .inl (epoch ▸ later)
  · exact .inr ⟨epoch.trans same, final⟩

theorem ClosedSince.reopened (closed : ClosedSince leaseEpoch old) (epoch : new.epoch = old.epoch)
    (open_ : old.lifecycle = .agentOwned ∨ old.lifecycle = .fencePending) : ClosedSince leaseEpoch new := by
  obtain later | ⟨_, final⟩ := closed
  · exact .inl (epoch ▸ later)
  · obtain owned | pending := open_
    · simp [owned, SpaceLifecycle.isEnding] at final
    · simp [pending, SpaceLifecycle.isEnding] at final

theorem StandingMove.closedSince {queue : List ActionId} (closed : ClosedSince leaseEpoch old)
    (move : StandingMove calls command before queue spaceId (some old) (some new)) : ClosedSince leaseEpoch new := by
  generalize last : some new = next at move
  cases move with
  | keep =>
    cases last
    exact closed
  | granted _ _ _ _ epoch | fenced _ _ epoch | ticketed _ epoch =>
    cases last
    exact closed.raised (by simp [Standing.epoch, epoch])
  | renewed leased open_ epoch =>
    cases last
    exact closed.reopened (by simp [Standing.epoch, leased, epoch]) open_
  | reclaimed _ _ _ _ _ pending =>
    cases last
    exact closed.reopened rfl (.inr pending)
  | returned pending leased =>
    cases last
    exact closed.reopened (by simp [Standing.epoch, leased]) (.inr pending)
  | suspended owned leased =>
    cases last
    exact closed.reopened (by simp [Standing.epoch, leased]) (.inl owned)
  | drained | released =>
    cases last
    exact closed.ended rfl (.inl rfl)
  | finished _ _ leased final =>
    cases last
    refine closed.ended (by simp [Standing.epoch, leased]) (.inl ?_)
    obtain rfl | rfl := final <;> rfl
  | orphaned leased =>
    cases last
    exact closed.ended (by simp [Standing.epoch, leased]) (.inr rfl)
  | pruned => cases last

end Epochs

theorem LedgerStep.claimed {claim : Claim} (valid : Valid config before) (claimed : Claimed before claim)
    (taken : LedgerStep config calls command before after) : Claimed after claim := by
  have effect := taken.spaceEffect valid
  refine ⟨claimed.numbered.trans effect.numbers, fun standing located => ?_⟩
  have move := effect.standing claim.spaceId
  rw [located] at move
  cases earlier : before.standing claim.spaceId with
  | some prior =>
    rw [earlier] at move
    exact move.closedSince (claimed.closed prior earlier)
  | none =>
    -- identities are numbered, so a pruned space is not created again
    rw [earlier] at move
    cases move with
    | created number =>
      have numbered := claimed.numbered
      rw [number] at numbered
      exact absurd numbered (Nat.not_succ_le_self _)

end States

section Calls

variable {config : HostConfig} {env : Environment} {command : Command} {before after : System} {key : Nat}
  {result : Except HostError Unit} {claim : Claim} {phase : FinishPhase} {A : Type} {next : System}

theorem afterCheck_calls {check : Except HostError Unit} {reply : Reply A} (same : reply.1.calls = before.calls) :
    (before.afterCheck check reply).1.calls = before.calls := by
  cases check with
  | error _ => rfl
  | ok => exact same

inductive FinishMove (config : HostConfig) (env : Environment) (command : Command) (before after : System) (key : Nat)
    (claim : Claim) : FinishPhase -> Prop where
  | kept {phase : FinishPhase} (present : before.calls.get? key = some (.finish claim phase)) :
      FinishMove config env command before after key claim phase
  | started {pages : List PageId} {next : System} {proofs : List CleanupProof}
      (made_by : command = .finishSpace key claim pages)
      (committed : before.commit config env
        (missingCleanupPages claim.spaceId claim.authority claim.leaseEpoch claim.now pages) = (next, .ok proofs)) :
      FinishMove config env command before after key claim (.missing proofs)
  | recorded {proof : CleanupProof} {rest : List CleanupProof}
      (present : before.calls.get? key = some (.finish claim (.missing (proof :: rest)))) :
      FinishMove config env command before after key claim (.missing rest)
  | claimed {next : System} {value : List CleanupProof × RetentionPolicy}
      (committed : before.commit config env
        (claimFinish claim.spaceId claim.authority claim.leaseEpoch claim.now) = (next, .ok value))
      (ledger : after.ledger = next.ledger) :
      FinishMove config env command before after key claim (.draining value.1 value.2)
  | authorized {proof : CleanupProof} {rest : List CleanupProof} {retention : RetentionPolicy}
      (present : before.calls.get? key = some (.finish claim (.draining (proof :: rest) retention))) :
      FinishMove config env command before after key claim (.closing proof rest retention)
  | cleaned {proof : CleanupProof} {rest : List CleanupProof} {retention : RetentionPolicy}
      (present : before.calls.get? key = some (.finish claim (.closing proof rest retention))) :
      FinishMove config env command before after key claim (.draining rest retention)

theorem finishStep_move (taken : finishStep config env command before = some (after, result))
    (found : after.calls.get? key = some (.finish claim phase)) :
    FinishMove config env command before after key claim phase := by
  have kept : after.calls = before.calls -> FinishMove config env command before after key claim phase := by
    intro same
    rw [same] at found
    exact .kept found
  -- the call itself, or another one
  have went : ∀ {A : Type} {call : Nat} {next : A -> Except HostError (Option Call)} {reply : Reply A},
      reply.1.calls = before.calls -> after = (System.goOn call next reply).1 ->
      FinishMove config env command before after key claim phase ∨
        key = call ∧ ∃ value, reply.2 = .ok value ∧ next value = .ok (some (.finish claim phase)) := by
    intro A call next reply same ended
    rw [ended] at found
    obtain ⟨_, earlier⟩ | here := goOn_calls found
    · rw [same] at earlier
      exact .inl (.kept earlier)
    · exact .inr here
  unfold finishStep at taken
  split at taken
  · split_ifs at taken
    have ended := replied taken
    unfold System.afterCheck at ended
    split at ended
    · exact kept (by rw [ended])
    · obtain move | ⟨rfl, value, committed, made⟩ := went rfl ended
      · exact move
      · cases made
        exact .started rfl (Prod.ext rfl committed)
  · split at taken
    next present =>
      obtain move | ⟨rfl, _, _, made⟩ := went (afterCheck_calls rfl) (replied taken)
      · exact move
      · cases made
        exact .recorded present
    · cases taken
  · split at taken
    · obtain move | ⟨_, value, committed, made⟩ := went (afterCheck_calls rfl) (replied taken)
      · exact move
      · cases made
        obtain ⟨_, reply⟩ := afterCheck_ok (Prod.ext rfl committed)
        refine .claimed reply ?_
        rw [replied taken, System.goOn_ledger]
    · cases taken
  · split at taken
    next present =>
      obtain move | ⟨rfl, _, _, made⟩ := went (afterCheck_calls rfl) (replied taken)
      · exact move
      · cases made
        exact .authorized present
    · cases taken
  · split at taken
    next present =>
      split at taken
      case h_3 =>
        obtain move | ⟨_, _, _, made⟩ := went rfl (replied taken)
        · exact move
        · cases made
      all_goals
        obtain move | ⟨rfl, _, _, made⟩ := went (afterCheck_calls rfl) (replied taken)
        · exact move
        · cases made
          exact .cleaned present
    · cases taken
  · split at taken
    · obtain move | ⟨_, _, _, made⟩ := went (afterCheck_calls rfl) (replied taken)
      · exact move
      · cases made
    · cases taken
  · rw [replied taken] at kept ⊢
    exact kept (afterCheck_calls rfl)
  · split_ifs at taken
    · rw [replied taken] at kept ⊢
      exact kept rfl
    · rw [replied taken] at kept ⊢
      exact kept (afterCheck_calls rfl)
  · cases taken

theorem finish_move (taken : step config env command before = some (after, result))
    (found : after.calls.get? key = some (.finish claim phase)) :
    FinishMove config env command before after key claim phase := by
  by_cases other : CallKind.finish ∈ command.kinds
  · cases command
    case restart failures =>
      obtain ⟨state, _, rfl⟩ := restart_cases taken
      simp [System.opened] at found
    case abandon call =>
      -- only the end of a call
      have ended : after = before.endCall call := by
        change hostStep config env (.abandon call) before = _ at taken
        unfold hostStep at taken
        dsimp only at taken
        split at taken
        case h_4 => cases taken
        all_goals exact replied taken
      rw [ended, System.endCall, Table.get?_erase] at found
      split_ifs at found
      exact .kept found
    case finishSpace | finishMissing | claimFinish | authorizeCleanup | cleanupAnswered | completeFinish =>
      simp only [step] at taken
      exact finishStep_move taken found
    all_goals simp [Command.kinds] at other
  · exact .kept (((step_untouched other taken).calls key _ rfl).mp found)

theorem finish_carried (taken : step config env command before = some (after, result))
    (found : after.calls.get? key = some (.finish claim phase)) (claimed : phase.claimed = true) :
    (∃ earlier, before.calls.get? key = some (.finish claim earlier) ∧ earlier.claimed = true) ∨
      ∃ next value, before.commit config env
        (claimFinish claim.spaceId claim.authority claim.leaseEpoch claim.now) = (next, .ok value) ∧
        after.ledger = next.ledger := by
  cases finish_move taken found with
  | kept present => exact .inl ⟨_, present, claimed⟩
  | started => cases claimed
  | recorded => cases claimed
  | claimed committed ledger => exact .inr ⟨_, _, committed, ledger⟩
  | authorized present => exact .inl ⟨_, present, rfl⟩
  | cleaned present => exact .inl ⟨_, present, rfl⟩

theorem completeFinish_cases (taken : step config env (.completeFinish key) before = some (after, result)) :
    ∃ claim retention, before.calls.get? key = some (.finish claim (.draining [] retention)) ∧
      (after.ledger = before.ledger ∨ after.ledger = (before.commit config env
        (completeFinish claim.spaceId claim.authority claim.leaseEpoch claim.now retention)).1.ledger) := by
  simp only [step, finishStep] at taken
  split at taken
  next claim retention present =>
    refine ⟨claim, retention, present, ?_⟩
    rw [replied taken, System.goOn_ledger]
    unfold System.afterCheck
    split
    · exact .inl rfl
    · exact .inr rfl
  · cases taken

theorem commit_ok {transition : Transition A} {value : A}
    (committed : before.commit config env transition = (next, .ok value)) :
    ∃ state, transition before.ledger.state = .ok (value, state) ∧
      next.ledger.state = drainEvents config.ledger.limits state := by
  unfold System.commit at committed
  obtain ⟨_, failed⟩ | ⟨found, state, last, moved, drained, _, done | ⟨_, failed⟩⟩ :=
    before.ledger.update_cases config.ledger env.io transition
  · rw [failed] at committed
    cases committed
  · rw [done] at committed
    cases committed
    exact ⟨state, moved, drained⟩
  · rw [failed] at committed
    cases committed

theorem cleanupFailed_lost {proof : CleanupProof} {rest : List CleanupProof} {retention : RetentionPolicy}
    {code : String} (call_at : before.calls.get? key = some (.finish claim (.closing proof rest retention)))
    (taken : step config env (.cleanupAnswered key (.failed code)) before = some (after, result)) :
    after.ledger.state = before.ledger.state ∨ ∃ page,
      after.ledger.state.page claim.spaceId proof.pageId = some page ∧ page.lifecycle = .targetLost := by
  simp only [step, finishStep, call_at] at taken
  rw [replied taken, System.goOn_ledger]
  change (before.ledger.update config.ledger env.io _).1.state = _ ∨ ∃ page,
    (before.ledger.update config.ledger env.io _).1.state.page _ _ = _ ∧ _
  obtain ⟨_, failed⟩ | ⟨_, next, _, moved, rfl, _, done | ⟨_, failed⟩⟩ := before.ledger.update_cases config.ledger env.io
    (recordCleanupFailure claim.spaceId proof claim.authority claim.leaseEpoch claim.now code)
  · rw [failed]
    exact .inl rfl
  · rw [done]
    obtain ⟨page, found, lost⟩ := recordCleanupFailure_lost moved
    obtain ⟨_, _, _, same⟩ := drainEvents_same config.ledger.limits next
    refine .inr ⟨page, ?_, lost⟩
    rw [same]
    exact found
  · rw [failed]
    exact .inl rfl

theorem claimed_of_commit {value : List CleanupProof × RetentionPolicy}
    (numbered : SpacesNumbered before.ledger.state)
    (committed : before.commit config env (claimFinish claim.spaceId claim.authority claim.leaseEpoch claim.now) =
      (next, .ok value)) : Claimed next.ledger.state claim := by
  obtain ⟨state, moved, drained⟩ := commit_ok committed
  obtain ⟨_, space, _, found, allowed, _, same⟩ := claimFinish_ok moved
  obtain ⟨claimed, lease, lookup, _, leased, epoch⟩ := authorizeFinishClaim_finishable allowed
  obtain rfl : claimed = space := Option.some.inj (lookup.symm.trans found)
  have standing := SameStanding.of_events (same.trans (drainEvents_same config.ledger.limits state))
  rw [← drained] at standing
  constructor
  · rw [standing.numbers]
    refine numbered claim.spaceId ?_
    rw [standing_some found]
    exact Option.some_ne_none _
  · intro last located
    rw [standing.standing, LedgerState.standing, Option.map_eq_some_iff] at located
    obtain ⟨descriptor, there, rfl⟩ := located
    change (before.ledger.state.spaces.modify _ _).get? claim.spaceId = some descriptor at there
    rw [Table.get?_modify_self, found, Option.map_some, Option.some.injEq] at there
    subst there
    refine .inr ⟨?_, .inl rfl⟩
    simpa [Standing.epoch, SpaceDescriptor.standing, drainingSpace, leased] using epoch

theorem completeFinish_drained
    (claims : ∀ key claim phase, before.calls.get? key = some (.finish claim phase) -> phase.claimed = true ->
      Claimed before.ledger.state claim)
    (taken : step config env (.completeFinish key) before = some (after, result)) :
    after.ledger = before.ledger ∨ ∀ spaceId standing, before.ledger.state.standing spaceId = some standing ->
      after.ledger.disk.standing spaceId ≠ some standing -> standing.lifecycle.isEnding = true := by
  obtain ⟨claim, retention, present, unmoved | ledger⟩ := completeFinish_cases taken
  · exact .inl (by rw [unmoved])
  have closed := (claims key claim _ present rfl).closed
  change after.ledger = (before.ledger.update config.ledger env.io _).1 at ledger
  obtain ⟨_, failed⟩ | ⟨found, next, state, moved, drained, _, outcome⟩ := before.ledger.update_cases config.ledger env.io
    (completeFinish claim.spaceId claim.authority claim.leaseEpoch claim.now retention)
  · exact .inl (by rw [ledger, failed])
  · have file : after.ledger.disk = state := by
      obtain done | ⟨_, written⟩ := outcome
      · rw [ledger, done]
      · rw [ledger, written]
    refine .inr fun spaceId standing located changed => ?_
    obtain ⟨_, allowed, same⟩ := completeFinish_ok moved
    obtain ⟨space, lease, lookup, finishable, leased, epoch⟩ := authorizeFinishClaim_finishable allowed
    have last := (SameStanding.of_events (same.trans (drainEvents_same config.ledger.limits next))).standing spaceId
    rw [← drained, ← file] at last
    by_cases here : spaceId = claim.spaceId
    · -- the space is still leased under the claim, so it is on its way out
      subst here
      have claimed := closed standing located
      rw [standing_some lookup, Option.some.injEq] at located
      subst located
      obtain later | ⟨_, ending | orphaned⟩ := claimed
      · simp [Standing.epoch, SpaceDescriptor.standing, leased, epoch] at later
      · exact ending
      · simp only [SpaceDescriptor.standing] at orphaned
        simp [orphaned, SpaceLifecycle.finishable] at finishable
    · refine absurd ?_ changed
      rw [last, ← located, LedgerState.standing, LedgerState.standing]
      change ((before.ledger.state.spaces.modify _ _).get? spaceId).map _ = _
      rw [Table.get?_modify_ne _ _ _ _ here]
      rfl

end Calls

section Runs

variable {config : HostConfig} {label : Label} {before after start last : System} {trace : List (Moment System Label)}

theorem Finishing.ledger (finishing : Finishing before) (sound : Sound config.ledger before.ledger)
    (taken : next config label before = some after) :
    EndingSettled after.ledger.state ∧ EndingSettled after.ledger.disk := by
  have drained : after.ledger = before.ledger ∨ ∀ call, label.2 = .completeFinish call ->
      ∀ spaceId standing, before.ledger.state.standing spaceId = some standing ->
        after.ledger.disk.standing spaceId ≠ some standing -> standing.lifecycle.isEnding = true := by
    by_cases completes : ∃ call, label.2 = .completeFinish call
    · obtain ⟨call, completes⟩ := completes
      obtain ⟨_, replied⟩ := next_step taken
      rw [completes] at replied
      exact (completeFinish_drained finishing.claims replied).imp_right fun drained _ _ => drained
    · exact .inr fun call made => absurd ⟨call, made⟩ completes
  obtain same | drained := drained
  · rw [same]
    exact ⟨finishing.memory, finishing.file⟩
  · obtain moved | ⟨_, state, _, opened, rfl⟩ := next_ledger taken
    · generalize after.ledger = changed at moved drained
      cases moved with
      | same => exact ⟨finishing.memory, finishing.file⟩
      | committed made =>
        have settled := made.endingSettled sound.valid finishing.memory drained
        exact ⟨settled, settled⟩
      | written made => exact ⟨finishing.memory, made.endingSettled sound.valid finishing.memory drained⟩
    · obtain ⟨_, settled⟩ := reopenLedger_keeps EndingSettled
        (fun _ _ _ settled opened => openLedger_endingSettled settled opened) sound.disk finishing.file opened
      exact ⟨settled, settled⟩

theorem Finishing.claimed (finishing : Finishing before) (sound : Sound config.ledger before.ledger)
    (numbered : SpacesNumbered before.ledger.state) (taken : next config label before = some after) {key : Nat}
    {claim : Claim} {phase : FinishPhase} (found : after.calls.get? key = some (.finish claim phase))
    (claimed : phase.claimed = true) : Claimed after.ledger.state claim := by
  obtain ⟨_, replied⟩ := next_step taken
  obtain ⟨earlier, present, already⟩ | ⟨next, value, committed, ledger⟩ := finish_carried replied found claimed
  · have closed := finishing.claims key claim earlier present already
    obtain moved | ⟨_, state, _, _, rfl⟩ := next_ledger taken
    · generalize after.ledger = changed at moved
      cases moved with
      | same => exact closed
      | committed made => exact made.claimed sound.valid closed
      | written => exact closed
    · simp [System.opened] at found
  · rw [ledger]
    exact claimed_of_commit numbered committed

theorem HostRun.finishing (run : HostRun config start trace last) (initial : Initial config start) :
    Finishing last := by
  induction run with
  | nil =>
    obtain ⟨rfl, _⟩ := initial
    have empty : EndingSettled (.new 1) := by
      intro spaceId standing located
      simp [LedgerState.new, LedgerState.standing] at located
    refine ⟨empty, empty, fun key claim phase found => ?_⟩
    simp [System.fresh, System.opened] at found
  | step earlier taken ih =>
    have sound := HostRun.sound earlier initial
    obtain ⟨memory, file⟩ := ih.ledger sound taken
    exact ⟨memory, file, fun _ _ _ found claimed =>
      ih.claimed sound (HostRun.numbered earlier initial) taken found claimed⟩

end Runs

end AgentycHost
