import AgentycHost.Broker.Views
import AgentycHost.Effects.Specs
import AgentycHost.Ledger.Pruned
import AgentycHost.Safety.LeaseEpochs
import AgentycHost.System.Runs

set_option autoImplicit false

/-! # What pruning removes -/

namespace AgentycHost

open Shared

variable {state before after next : LedgerState} {gone : List SpaceId} {spaceId : SpaceId}
  {notices : List EventRecord} {notice : EventRecord} {authority : AuthorityTicket} {maxCount : Nat}

/-- The broker's notice that a space was pruned. -/
structure TellsPruned (spaceId : SpaceId) (notice : EventRecord) : Prop where
  scope : notice.scope = .global
  event : notice.event = .spaceChanged
  payload : notice.payload = [("space_id", spaceId.text), ("lifecycle", "pruned")]

section Steps

theorem doomed_contains (actionId : ActionId) :
    ((state.actions.filter fun _ receipt => !gone.contains receipt.spaceId).filter
        fun _ receipt => receipt.spaceId == spaceId).contains actionId =
      (state.actions.get? actionId).any fun receipt => !gone.contains receipt.spaceId && receipt.spaceId == spaceId := by
  simp only [Table.filter_filter, Table.contains, Table.get?_filter]
  cases state.actions.get? actionId with
  | none => rfl
  | some receipt =>
    rw [Option.any_some]
    cases chosen : !gone.contains receipt.spaceId && receipt.spaceId == spaceId
    · rw [Option.filter_some_neg (by simpa using chosen)]
      rfl
    · rw [Option.filter_some_pos (by simpa using chosen)]
      rfl

theorem doomed_any (key : IdempotencyKey) :
    ((state.actions.filter fun _ receipt => !gone.contains receipt.spaceId).filter
        fun _ receipt => receipt.spaceId == spaceId).any (fun _ receipt => receipt.idempotencyKey == key) =
      state.actions.any fun _ receipt =>
        (!gone.contains receipt.spaceId && receipt.spaceId == spaceId) && receipt.idempotencyKey == key := by
  rw [Table.filter_filter]
  simp only [Table.any, Table.filter, List.any_filter]

theorem contains_concat (other : SpaceId) :
    (gone ++ [spaceId]).contains other = (gone.contains other || other == spaceId) := by
  simp [beq_eq_decide, Bool.decide_or]

theorem erase_kept {V : Type} (table : Table SpaceId V) :
    (table.filter fun other _ => !gone.contains other).erase spaceId =
      table.filter fun other _ => !(gone ++ [spaceId]).contains other := by
  rw [Table.erase, Table.filter_filter]
  refine Table.filter_congr _ fun other _ _ => ?_
  rw [contains_concat, Bool.not_or, beq_eq_decide]

theorem withoutSpace_without : withoutSpace (state.without gone) spaceId =
    { state.without (gone ++ [spaceId]) with spaceGenerations := (state.without gone).spaceGenerations } := by
  have actions : (state.actions.filter fun _ receipt => !gone.contains receipt.spaceId).filter (fun actionId _ =>
        !(state.actions.get? actionId).any fun receipt => !gone.contains receipt.spaceId && receipt.spaceId == spaceId) =
      state.actions.filter fun _ receipt => !(gone ++ [spaceId]).contains receipt.spaceId := by
    rw [Table.filter_filter]
    refine Table.filter_congr _ fun actionId receipt found => ?_
    rw [found, Option.any_some, contains_concat]
    cases gone.contains receipt.spaceId <;> rfl
  have requests : (state.actionRequests.filter fun actionId _ =>
        !(state.actions.get? actionId).any fun receipt => gone.contains receipt.spaceId).filter (fun actionId _ =>
        !(state.actions.get? actionId).any fun receipt => !gone.contains receipt.spaceId && receipt.spaceId == spaceId) =
      state.actionRequests.filter fun actionId _ =>
        !(state.actions.get? actionId).any fun receipt => (gone ++ [spaceId]).contains receipt.spaceId := by
    rw [Table.filter_filter]
    refine Table.filter_congr _ fun actionId _ _ => ?_
    cases state.actions.get? actionId with
    | none => rfl
    | some receipt =>
      rw [Option.any_some, Option.any_some, Option.any_some, contains_concat]
      cases gone.contains receipt.spaceId <;> rfl
  have keys : (state.idempotency.filter fun key _ => !state.actions.any fun _ receipt =>
        gone.contains receipt.spaceId && receipt.idempotencyKey == key).filter (fun key _ =>
        !state.actions.any fun _ receipt =>
          (!gone.contains receipt.spaceId && receipt.spaceId == spaceId) && receipt.idempotencyKey == key) =
      state.idempotency.filter fun key _ => !state.actions.any fun _ receipt =>
        (gone ++ [spaceId]).contains receipt.spaceId && receipt.idempotencyKey == key := by
    rw [Table.filter_filter]
    refine Table.filter_congr _ fun key _ _ => ?_
    -- a key goes with one of the earlier spaces or with this one
    rw [<- Bool.not_or, Bool.not_inj_iff, Bool.eq_iff_iff, Bool.or_eq_true, Table.any_eq_true, Table.any_eq_true,
      Table.any_eq_true]
    simp only [<- exists_or, <- and_or_left]
    refine exists_congr fun actionId => exists_congr fun receipt => and_congr_right fun _ => ?_
    rw [<- Bool.or_eq_true, contains_concat]
    cases gone.contains receipt.spaceId <;> simp
  have events : (state.events.filter fun event => !event.scope.spaceId.any gone.contains).filter
        (fun event => !(event.scope.spaceId == some spaceId)) =
      state.events.filter fun event => !event.scope.spaceId.any (gone ++ [spaceId]).contains := by
    rw [List.filter_filter]
    refine List.filter_congr fun event _ => ?_
    cases event.scope.spaceId with
    | none => rfl
    | some inside =>
      rw [Option.any_some, Option.any_some, contains_concat, Option.some_beq_some]
      cases gone.contains inside <;> simp
  simp only [withoutSpace, LedgerState.without, doomed_contains, doomed_any, erase_kept, actions, requests, keys, events]

theorem withoutSpace_noticed (global : ∀ notice, notice ∈ notices -> notice.scope = .global) :
    withoutSpace (state.noticed notices) spaceId = (withoutSpace state spaceId).noticed notices := by
  have kept : notices.filter (fun event => !(event.scope.spaceId == some spaceId)) = notices := by
    apply List.filter_eq_self.mpr
    intro notice member
    rw [global notice member]
    rfl
  simp only [withoutSpace, LedgerState.noticed, List.filter_append, kept]

theorem appendEvent_global {event : EventKind} {payload : Payload} {dirtyReason : Option DirtyReason}
    {resyncRequired : Bool} (run : appendEvent state .global event payload dirtyReason resyncRequired = .ok next) :
    ∃ notice, next = state.noticed [notice] ∧ notice.event = event ∧ notice.payload = payload ∧
      notice.sequence = state.eventSequence + 1 ∧ notice.protocol = protocolVersion ∧
      notice.brokerEpoch = state.brokerEpoch ∧ notice.scope = .global ∧
      validatePublicPayloadShape notice.payload 512 = .ok () := by
  simp only [appendEvent, appendEventWithAttribution, nextSpaceGeneration, EventScope.global, bind_ok, pure_ok, orElse_ok,
    mapError_ok, checkedNext_eq_some] at run
  obtain ⟨_, shape, _, ⟨_, rfl⟩, _, generations, _, _, rfl⟩ := run
  cases generations
  exact ⟨_, rfl, rfl, rfl, rfl, rfl, rfl, rfl, shape⟩

theorem pruneSpace_ok (earlier : Notices before notices)
    (run : pruneSpace ((before.without gone).noticed notices) spaceId = .ok next) :
    ∃ notice, TellsPruned spaceId notice ∧ Notices before (notices ++ [notice]) ∧
      next = (before.without (gone ++ [spaceId])).noticed (notices ++ [notice]) := by
  have global (notice : EventRecord) (member : notice ∈ notices) : notice.scope = .global :=
    (earlier.checked notice member).2.2.1
  rw [pruneSpace, withoutSpace_noticed global, withoutSpace_without] at run
  simp only [bind_ok, pure_ok] at run
  obtain ⟨_, appended, rfl⟩ := run
  obtain ⟨notice, rfl, event, payload, sequence, protocol, epoch, scope, shape⟩ := appendEvent_global appended
  refine ⟨notice, ⟨scope, event, payload⟩, ⟨?_, ?_⟩, ?_⟩
  · rw [List.map_append, earlier.numbered, List.length_append, List.length_singleton, List.range'_concat,
      List.map_singleton, sequence]
    simp [LedgerState.noticed, LedgerState.without, Nat.add_right_comm]
  · intro other member
    obtain early | last := List.mem_append.mp member
    · exact earlier.checked other early
    · rw [List.mem_singleton.mp last]
      exact ⟨protocol, epoch, scope, shape⟩
  · simp only [LedgerState.noticed, LedgerState.without, erase_kept, List.append_assoc, List.length_append,
      List.length_singleton, Nat.add_assoc]

theorem without_nil : (state.without []).noticed [] = state := by
  have whole {K V : Type} (table : Table K V) : (table.filter fun _ _ => true) = table :=
    Table.ext_entries (List.filter_eq_self.mpr fun _ _ => rfl)
  have requests (actionId : ActionId) : (state.actions.get? actionId).any (fun _ => false) = false := by
    simp
  have keys (key : IdempotencyKey) :
      (state.actions.any fun _ receipt => false && receipt.idempotencyKey == key) = false := by
    simp [Table.any_eq_false]
  have events : (state.events.filter fun event => !event.scope.spaceId.any ([] : List SpaceId).contains) =
      state.events := by
    apply List.filter_eq_self.mpr
    intro event _
    cases event.scope.spaceId <;> rfl
  simp only [LedgerState.without, LedgerState.noticed, requests, keys, events, List.contains_nil, Bool.not_false, whole,
    List.append_nil, List.length_nil, Nat.add_zero]

theorem pruneSpaces_ok (run : gone.foldlM pruneSpace before = .ok next) :
    ∃ notices, List.Forall₂ TellsPruned gone notices ∧ Notices before notices ∧
      next = (before.without gone).noticed notices := by
  induction gone using List.reverseRecOn generalizing next with
  | nil =>
    obtain rfl : before = next := by simpa [pure_ok] using run
    exact ⟨[], .nil, ⟨rfl, by simp⟩, without_nil.symm⟩
  | append_singleton earlier spaceId ih =>
    simp only [List.foldlM_append, List.foldlM_cons, List.foldlM_nil, bind_ok, bind_pure] at run
    obtain ⟨middle, first, last⟩ := run
    obtain ⟨notices, told, numbered, rfl⟩ := ih first
    obtain ⟨notice, tells, noticed, rfl⟩ := pruneSpace_ok numbered last
    exact ⟨notices ++ [notice], List.rel_append told (.cons tells .nil), noticed, rfl⟩

end Steps

/-- A space that its owner may prune. -/
structure MayPrune (state : LedgerState) (authority : AuthorityTicket) (spaceId : SpaceId) (space : SpaceDescriptor) :
    Prop where
  located : state.spaces.get? spaceId = some space
  owned : space.owner = authority.principalId
  released : space.lifecycle = .released
  closed : ∀ page, page ∈ space.pages ->
    page.lifecycle = .closed ∧ page.ownership = .broker ∧ page.binding = .closed
  settled : ∀ actionId receipt, state.actions.get? actionId = some receipt -> isUnresolved spaceId receipt = false

theorem mayPrune_iff {space : SpaceDescriptor} : MayPrune state authority spaceId space <->
    state.spaces.get? spaceId = some space ∧ isPrunable state authority.principalId spaceId space = true := by
  simp only [isPrunable, spaceHasUnresolvedActions, Bool.and_eq_true, beq_iff_eq, List.all_eq_true, Bool.not_eq_true',
    Table.any_eq_false, and_assoc]
  constructor
  · rintro ⟨located, owned, released, closed, settled⟩
    exact ⟨located, owned, released, closed, settled⟩
  · rintro ⟨located, owned, released, closed, settled⟩
    exact ⟨located, owned, released, closed, settled⟩

/-- The spaces go with all their records but a lease holder, and nothing else changes but the
history, which tells of each and is cut to its bound. -/
structure PrunesExactly (limits : LedgerLimits) (authority : AuthorityTicket) (maxCount : Nat) (gone : List SpaceId)
    (before after : LedgerState) : Prop where
  bounded : gone.length ≤ min maxCount 64
  distinct : gone.Nodup
  allowed : ∀ spaceId, spaceId ∈ gone -> ∃ space, MayPrune before authority spaceId space ∧
    visibleToPrincipal space authority.principalId = true
  complete : gone.length < min maxCount 64 ->
    ∀ spaceId space, MayPrune before authority spaceId space -> spaceId ∈ gone
  removed : ∀ record spaceId, before.spaceOf record = some spaceId -> spaceId ∈ gone -> after.Holds record ->
    ∃ holder, record = .leaseHolder spaceId holder
  kept : ∀ record, (∀ event, record ≠ .event event) ->
    (∀ spaceId, before.spaceOf record = some spaceId -> spaceId ∉ gone) ->
    (after.Holds record <-> before.Holds record)
  history : ∃ notices, List.Forall₂ TellsPruned gone notices ∧
    let events := before.events.filter (fun event => !event.scope.spaceId.any gone.contains) ++ notices
    after.events = events.drop (events.length - limits.maxEvents)
  header : LedgerState.SameHeader { before with eventSequence := before.eventSequence + gone.length } after

section Records

variable {config : LedgerConfig} {limits : LedgerLimits} {record : LedgerRecord} (valid : Valid config before)
  (released : ∀ spaceId, spaceId ∈ gone ->
    ∃ space, before.spaces.get? spaceId = some space ∧ space.lifecycle = .released)
include valid

theorem Valid.request_owner {actionId : ActionId} {request : ActionRequest}
    (requested : before.actionRequests.get? actionId = some request) :
    ∃ receipt, before.actions.get? actionId = some receipt ∧ request.spaceId = receipt.spaceId := by
  have known := valid.request_known ((Table.contains_iff _ _).mpr ⟨request, requested⟩)
  obtain ⟨receipt, stored⟩ := (Table.contains_iff _ _).mp known
  obtain ⟨other, _, checked⟩ := valid.checked stored
  obtain rfl : other = request := Option.some.inj (checked.requested.symm.trans requested)
  exact ⟨receipt, stored, checked.fields.1⟩

include released in
theorem Valid.removed_without (global : ∀ notice, notice ∈ notices -> notice.scope = .global)
    (owner : before.spaceOf record = some spaceId) (inside : spaceId ∈ gone)
    (held : (drainEvents limits ((before.without gone).noticed notices)).Holds record) :
    ∃ holder, record = .leaseHolder spaceId holder := by
  cases record with
  | controlTicket other ticket =>
    cases owner
    exact absurd inside (valid.ticket_kept released held).1
  | pendingFence other pending =>
    cases owner
    exact absurd inside (valid.fence_kept released held).1
  | leaseHolder other holder =>
    cases owner
    exact ⟨holder, rfl⟩
  | action actionId receipt =>
    cases owner
    exact absurd inside (without_action.mp held).2
  | request actionId request =>
    cases owner
    obtain ⟨requested, kept⟩ := without_request.mp held
    obtain ⟨receipt, stored, same⟩ := valid.request_owner requested
    exact absurd (same ▸ inside) (kept receipt stored)
  | idempotency key actionId =>
    obtain ⟨indexed, kept⟩ := without_key.mp held
    obtain ⟨receipt, stored, same⟩ := valid.indexed.resolved key actionId indexed
    obtain ⟨other, found, rfl⟩ := Option.map_eq_some_iff.mp owner
    obtain rfl : receipt = other := Option.some.inj (stored.symm.trans found)
    exact absurd inside (kept actionId receipt stored same)
  | event event =>
    replace owner : event.scope.spaceId = some spaceId := owner
    obtain earlier | notice := List.mem_append.mp (List.mem_of_mem_drop held)
    · have kept := (List.mem_filter.mp earlier).2
      rw [owner] at kept
      exact absurd inside (by simpa using kept)
    · rw [global event notice] at owner
      cases owner
  | connection => cases owner
  | snapshots other cached =>
    cases owner
    replace held : ((before.without gone).snapshots.get? spaceId).map Table.get? = some cached := held
    rw [LedgerState.without, get?_dropped _ inside] at held
    cases held
  | space other space =>
    cases owner
    cases (get?_dropped before.spaces inside).symm.trans held
  | generation other generation =>
    cases owner
    cases (get?_dropped before.spaceGenerations inside).symm.trans held
  | profileBinding other binding =>
    cases owner
    cases (get?_dropped before.profileBindings inside).symm.trans held
  | takeoverProofs other proofs =>
    cases owner
    cases (get?_dropped before.takeoverProofs inside).symm.trans held
  | queue other queued =>
    cases owner
    cases (get?_dropped before.actionQueues inside).symm.trans held

theorem Valid.kept_without (table : ∀ event, record ≠ .event event)
    (outside : ∀ spaceId, before.spaceOf record = some spaceId -> spaceId ∉ gone) :
    (drainEvents limits ((before.without gone).noticed notices)).Holds record <-> before.Holds record := by
  cases record with
  | controlTicket | pendingFence | leaseHolder | connection => exact Iff.rfl
  | event event => exact absurd rfl (table event)
  | action actionId receipt =>
    exact without_action.trans (and_iff_left (outside receipt.spaceId rfl))
  | request actionId request =>
    refine without_request.trans (and_iff_left_of_imp fun requested receipt found => ?_)
    obtain ⟨other, stored, same⟩ := valid.request_owner requested
    obtain rfl : other = receipt := Option.some.inj (stored.symm.trans found)
    exact same ▸ outside request.spaceId rfl
  | idempotency key actionId =>
    refine without_key.trans (and_iff_left_of_imp fun indexed other receipt found same => ?_)
    have named := valid.indexed.named other receipt found
    rw [same] at named
    obtain rfl : actionId = other := Option.some.inj (indexed.symm.trans named)
    exact outside receipt.spaceId (Option.map_eq_some_iff.mpr ⟨receipt, found, rfl⟩)
  | snapshots other cached =>
    have same := get?_kept before.snapshots (outside other rfl)
    change ((before.without gone).snapshots.get? other).map Table.get? = some cached <-> _
    rw [LedgerState.without, same]
    exact Iff.rfl
  | space other space => exact Eq.congr_left (get?_kept before.spaces (outside other rfl))
  | generation other generation => exact Eq.congr_left (get?_kept before.spaceGenerations (outside other rfl))
  | profileBinding other binding => exact Eq.congr_left (get?_kept before.profileBindings (outside other rfl))
  | takeoverProofs other proofs => exact Eq.congr_left (get?_kept before.takeoverProofs (outside other rfl))
  | queue other queued => exact Eq.congr_left (get?_kept before.actionQueues (outside other rfl))

omit valid in
theorem allowed_released (allowed : ∀ spaceId, spaceId ∈ gone -> ∃ space, MayPrune before authority spaceId space)
    (spaceId : SpaceId) (inside : spaceId ∈ gone) :
    ∃ space, before.spaces.get? spaceId = some space ∧ space.lifecycle = .released := by
  obtain ⟨space, may⟩ := allowed spaceId inside
  exact ⟨space, may.located, may.released⟩

theorem Valid.prunes_without (bounded : gone.length ≤ min maxCount 64) (distinct : gone.Nodup)
    (allowed : ∀ spaceId, spaceId ∈ gone -> ∃ space, MayPrune before authority spaceId space)
    (complete : gone.length < min maxCount 64 ->
      ∀ spaceId space, MayPrune before authority spaceId space -> spaceId ∈ gone)
    (told : List.Forall₂ TellsPruned gone notices) (noticed : Notices before notices) :
    PrunesExactly limits authority maxCount gone before (drainEvents limits ((before.without gone).noticed notices)) where
  bounded := bounded
  distinct := distinct
  allowed spaceId inside := by
    obtain ⟨space, may⟩ := allowed spaceId inside
    exact ⟨space, may, by simp [visibleToPrincipal, may.owned]⟩
  complete := complete
  removed record spaceId owner inside held := by
    have global (notice : EventRecord) (member : notice ∈ notices) := (noticed.checked notice member).2.2.1
    exact valid.removed_without (allowed_released allowed) global owner inside held
  kept record table outside := valid.kept_without table outside
  history := ⟨notices, told, rfl⟩
  header := by
    rw [told.length_eq]
    simp [LedgerState.SameHeader, drainEvents, LedgerState.noticed, LedgerState.without]

theorem pruneReleasedSpaces_exact (run : pruneReleasedSpaces authority maxCount before = .ok (gone, next)) :
    Accepted config (drainEvents config.limits next) ∧
      PrunesExactly config.limits authority maxCount gone before (drainEvents config.limits next) := by
  simp only [pruneReleasedSpaces, bind_ok, pure_ok, Prod.mk.injEq] at run
  obtain ⟨_, _, last, pruning, chosen, rfl⟩ := run
  rw [chosen] at pruning
  obtain ⟨notices, told, noticed, rfl⟩ := pruneSpaces_ok pruning
  have allowed (spaceId : SpaceId) (inside : spaceId ∈ gone) : ∃ space, MayPrune before authority spaceId space := by
    obtain ⟨space, prunable⟩ := mem_pruneCandidates (chosen ▸ inside)
    exact ⟨space, mayPrune_iff.mpr prunable⟩
  have silent : notices = [] -> gone = [] := by
    rintro rfl
    cases told
    rfl
  refine ⟨valid.accepts_without (allowed_released allowed) noticed silent,
    valid.prunes_without ?_ ?_ allowed ?_ told noticed⟩
  · rw [← chosen]
    exact List.length_take_le _ _
  · rw [← chosen]
    apply List.Nodup.sublist (List.take_sublist _ _)
    exact (List.perm_insertionSort _ _).nodup_iff.mpr (Table.nodup _)
  · intro few spaceId space may
    obtain ⟨located, prunable⟩ := mayPrune_iff.mp may
    -- fewer than were asked for, so these are all
    rw [← chosen, pruneCandidates] at few ⊢
    rw [List.length_take] at few
    rw [List.take_of_length_le (by omega), List.mem_insertionSort, Table.mem_keys, Table.contains_iff]
    exact ⟨space, by simp [located, prunable]⟩

theorem prunesExactly_none : PrunesExactly config.limits authority 0 [] before before := by
  have pruned : PrunesExactly config.limits authority 0 [] before
      (drainEvents config.limits ((before.without []).noticed [])) :=
    valid.prunes_without (Nat.zero_le _) List.nodup_nil (by simp) (by simp) .nil ⟨rfl, by simp⟩
  rwa [without_nil, valid.drained] at pruned

end Records

section Runs

variable {config : HostConfig} {env : Environment} {start system later : System}
  {trace : List (Moment System Label)} {result : Except HostError Unit}

theorem commit_replies {A : Type} (config : HostConfig) (env : Environment) (system : System)
    (transition : Transition A) :
    (∃ error, (system.commit config env transition).2 = .error error ∧
      (system.commit config env transition).1.ledger.state = system.ledger.state) ∨
    ∃ value next, transition system.ledger.state = .ok (value, next) ∧
      (system.commit config env transition).2 = .ok value ∧
      (system.commit config env transition).1.ledger.state = drainEvents config.ledger.limits next := by
  unfold System.commit
  obtain ⟨error, failed⟩ | ⟨value, next, _, moved, rfl, _, done | ⟨error, failed⟩⟩ :=
    system.ledger.update_cases config.ledger env.io transition
  · rw [failed]
    exact .inl ⟨error, rfl, rfl⟩
  · rw [done]
    exact .inr ⟨value, next, moved, rfl, rfl⟩
  · rw [failed]
    exact .inl ⟨error, rfl, rfl⟩

/-- A prune from any reachable state takes exactly the spaces it may, with their records, and leaves
a ledger that the validator accepts. -/
theorem prune_removes_exactly (run : HostRun config start trace system) (initial : Initial config start)
    (taken : step config env (.pruneReleasedSpaces authority maxCount) system = some (later, result)) :
    Valid config.ledger later.ledger.state ∧
    (result = .ok () -> ∃ gone, PrunesExactly config.ledger.limits authority maxCount gone system.ledger.state
      later.ledger.state) ∧
    (result ≠ .ok () -> later.ledger.state = system.ledger.state) ∧
    ∀ gone next, pruneReleasedSpaces authority maxCount system.ledger.state = .ok (gone, next) ->
      Accepted config.ledger (drainEvents config.ledger.limits next) := by
  have sound := run.sound initial
  have moved : next config (env, .pruneReleasedSpaces authority maxCount) system = some later := by
    rw [next, taken]
    rfl
  have accepts (gone : List SpaceId) (next : LedgerState)
      (pruned : pruneReleasedSpaces authority maxCount system.ledger.state = .ok (gone, next)) :=
    pruneReleasedSpaces_exact sound.valid pruned
  have moves : (result = .ok () ∧ ∃ gone, PrunesExactly config.ledger.limits authority maxCount gone
      system.ledger.state later.ledger.state) ∨ (result ≠ .ok () ∧ later.ledger.state = system.ledger.state) := by
    simp only [step, finishStep] at taken
    split at taken
    next none =>
      cases taken
      exact .inl ⟨rfl, [], none ▸ prunesExactly_none sound.valid⟩
    next =>
      unfold System.afterCheck System.done at taken
      split at taken
      next =>
        cases taken
        exact .inr ⟨by simp, rfl⟩
      next =>
        cases taken
        obtain ⟨error, failed, same⟩ | ⟨gone, next, pruned, done, moved⟩ :=
          commit_replies config env system (pruneReleasedSpaces authority maxCount)
        · rw [failed]
          exact .inr ⟨by simp [Except.map], same⟩
        · rw [done]
          refine .inl ⟨rfl, gone, ?_⟩
          rw [moved]
          exact (accepts gone next pruned).2
  refine ⟨(sound.step moved).valid, ?_, ?_, fun gone next pruned => (accepts gone next pruned).1⟩
  · intro done
    exact (moves.resolve_right fun failed => failed.1 done).2
  · intro failed
    exact (moves.resolve_left fun done => failed done.1).2

def releasedOnce : List Label := sampleStart ++
  [(sampleEnv, .finishSpace 3 sampleClaim []),
   (sampleEnv, .claimFinish 3),
   (sampleEnv, .completeFinish 3),
   (sampleEnv, .releaseSpace sampleClaim),
   (sampleEnv, .createSpace sampleTicket "other" .retain)]

def prunesFirst (config : HostConfig) (last : System) : Bool :=
  match step config sampleEnv (.pruneReleasedSpaces sampleTicket 1) last with
  | some (later, .ok ()) => last.ledger.state.spaces.contains ⟨1⟩ && !later.ledger.state.spaces.contains ⟨1⟩
  | _ => false

theorem prune_removes_exactly_first :
    ∃ gone before after, PrunesExactly sampleConfig.ledger.limits sampleTicket 1 gone before after ∧
      before.spaces.contains ⟨1⟩ = true ∧ after.spaces.contains ⟨1⟩ = false := by
  obtain ⟨last, run, passed⟩ := advance_reaches (next sampleConfig) (.fresh sampleConfig) releasedOnce
    (prunesFirst sampleConfig) (by decide)
  unfold prunesFirst at passed
  split at passed
  · next later taken =>
    obtain ⟨_, pruned, _⟩ := prune_removes_exactly run sample_initial taken
    obtain ⟨gone, exact⟩ := pruned rfl
    rw [Bool.and_eq_true, Bool.not_eq_true'] at passed
    exact ⟨gone, _, _, exact, passed⟩
  · cases passed

def forgetfulConfig : HostConfig := { sampleConfig with
  ledger := { codec := sampleCodec, limits := { maxEvents := 1 } } }

theorem forgetful_initial : Initial forgetfulConfig (.fresh forgetfulConfig) := ⟨rfl, rfl⟩

def prunesHistory (last : System) : Bool :=
  match step forgetfulConfig sampleEnv (.pruneReleasedSpaces sampleTicket 1) last with
  | some (later, .ok ()) =>
      last.ledger.state.events.any fun event => event.scope.spaceId == some ⟨2⟩ &&
        !later.ledger.state.events.contains event && later.ledger.state.spaces.contains ⟨2⟩
  | _ => false

theorem prune_drops_other_history :
    ¬ ∀ config start trace before env authority maxCount after record spaceId, Initial config start ->
      HostRun config start trace before ->
      step config env (.pruneReleasedSpaces authority maxCount) before = some (after, .ok ()) ->
      before.ledger.state.spaceOf record = some spaceId -> after.ledger.state.spaces.contains spaceId = true ->
      before.ledger.state.Holds record -> after.ledger.state.Holds record := by
  intro claim
  obtain ⟨before, run, passed⟩ := advance_reaches (next forgetfulConfig) (.fresh forgetfulConfig) releasedOnce
    prunesHistory (by decide)
  unfold prunesHistory at passed
  split at passed
  · next after taken =>
    obtain ⟨event, member, lost⟩ := List.any_eq_true.mp passed
    simp only [Bool.and_eq_true, beq_iff_eq, Bool.not_eq_true', List.contains_eq_mem, decide_eq_false_iff_not] at lost
    obtain ⟨⟨owner, gone⟩, stays⟩ := lost
    exact gone (claim _ _ _ _ _ _ _ _ (.event event) ⟨2⟩ forgetful_initial run taken owner stays member)
  · cases passed

end Runs

section Reuse

variable {config : HostConfig} {start middle vanished last : System} {trace passed later : List (Moment System Label)}

theorem Valid.nothing_of {ledger : LedgerConfig} (valid : Valid ledger state) (absent : state.spaces.get? spaceId = none) :
    state.queue spaceId = [] ∧ state.pendingFences.get? spaceId = none ∧
      ∀ actionId receipt, state.actions.get? actionId = some receipt -> receipt.spaceId ≠ spaceId := by
  have settled : ∀ actionId receipt, state.actions.get? actionId = some receipt -> receipt.spaceId ≠ spaceId := by
    rintro actionId receipt found rfl
    obtain ⟨_, _, checked⟩ := valid.checked found
    cases absent.symm.trans checked.located
  refine ⟨List.eq_nil_iff_forall_not_mem.mpr fun actionId member => ?_, ?_, settled⟩
  · obtain ⟨receipt, found, inside, _⟩ := valid.queued_receipt member
    exact settled actionId receipt found inside
  · cases pending : state.pendingFences.get? spaceId with
    | none => rfl
    | some record =>
      obtain ⟨_, located, _⟩ := valid.pendingFence pending
      cases absent.symm.trans located

/-- A space that was there and is gone does not come back under its identity, nor does any work or authority on it. -/
theorem pruned_for_good (initial : Initial config start) (early : HostRun config start trace middle)
    (between : HostRun config middle passed vanished) (late : HostRun config vanished later last)
    (was : middle.ledger.state.spaces.get? spaceId ≠ none)
    (absent : vanished.ledger.state.spaces.get? spaceId = none) :
    last.ledger.state.spaces.get? spaceId = none ∧
      (∀ authority leaseEpoch now mutation,
        authorizeSpace last.ledger.state spaceId authority leaseEpoch now mutation ≠ .ok ()) ∧
      last.ledger.state.queue spaceId = [] ∧ last.ledger.state.pendingFences.get? spaceId = none ∧
      ∀ actionId receipt, last.ledger.state.actions.get? actionId = some receipt -> receipt.spaceId ≠ spaceId := by
  have reached : HostRun config start (passed ++ trace) vanished := early.append between
  have ended : HostRun config start (later ++ (passed ++ trace)) last := reached.append late
  have numbered : spaceId.number ≤ vanished.ledger.state.nextSpaceNumber := by
    refine (early.numbered initial spaceId ?_).trans (between.later (early.sound initial)).numbers
    simpa [LedgerState.standing] using was
  -- a space of a spent number can only go
  have moved := (late.later (reached.sound initial)).standing spaceId numbered
  have stays : last.ledger.state.spaces.get? spaceId = none := by
    cases present : last.ledger.state.spaces.get? spaceId with
    | none => rfl
    | some space =>
      rw [LedgerState.standing, absent, standing_some present] at moved
      cases moved
  refine ⟨stays, fun authority leaseEpoch now mutation allowed => ?_, (ended.sound initial).valid.nothing_of stays⟩
  obtain ⟨_, _, authorized⟩ := authorizeSpace_ok.mp allowed
  cases stays.symm.trans authorized.found

/-- A creation after the pruning takes another identity. -/
theorem pruned_for_good_sample :
    ∃ last : System, last.ledger.state.spaces.contains ⟨3⟩ = true ∧ last.ledger.state.spaces.get? ⟨1⟩ = none ∧
      ∀ authority leaseEpoch now mutation,
        authorizeSpace last.ledger.state ⟨1⟩ authority leaseEpoch now mutation ≠ .ok () := by
  obtain ⟨middle, early, more⟩ := advance_reaches (next sampleConfig) (.fresh sampleConfig) releasedOnce
    (fun middle => middle.ledger.state.spaces.contains ⟨1⟩ &&
      (advance (next sampleConfig) [(sampleEnv, .pruneReleasedSpaces sampleTicket 1)] middle).any fun vanished =>
        !vanished.ledger.state.spaces.contains ⟨1⟩ &&
          (advance (next sampleConfig) [(sampleEnv, .createSpace sampleTicket "third" .retain), (sampleEnv, .restart 0)]
            vanished).any (·.ledger.state.spaces.contains ⟨3⟩)) (by decide +kernel)
  obtain ⟨was, more⟩ := Bool.and_eq_true_iff.mp more
  obtain ⟨vanished, between, more⟩ := advance_reaches (next sampleConfig) middle _ _ more
  obtain ⟨absent, more⟩ := Bool.and_eq_true_iff.mp more
  obtain ⟨last, late, taken⟩ := advance_reaches (next sampleConfig) vanished _ _ more
  have gone : vanished.ledger.state.spaces.get? ⟨1⟩ = none := by simpa [Table.contains] using absent
  have present : middle.ledger.state.spaces.get? ⟨1⟩ ≠ none := by
    intro missing
    simp [Table.contains, missing] at was
  obtain ⟨stays, nobody, _⟩ := pruned_for_good sample_initial early between late present gone
  exact ⟨last, taken, stays, nobody⟩

end Reuse

end AgentycHost
