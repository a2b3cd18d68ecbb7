import AgentycHost.Effects.Profiles
import AgentycHost.Ledger.Reshaped
import AgentycHost.Safety.Recording

set_option autoImplicit false

/-! # The fence of another profile -/

namespace AgentycHost

open Shared

variable {config : LedgerConfig} {state next : LedgerState} {observed : ProfileBindingId} {spaceId : SpaceId}
  {space : SpaceDescriptor} {count : Nat}

/-- The space belongs to a profile, and not to the observed one. -/
def BoundElsewhere (state : LedgerState) (observed : ProfileBindingId) (spaceId : SpaceId) (space : SpaceDescriptor) :
    Prop :=
  space.profileBinding ≠ .unbound ∧ state.profileBindings.get? spaceId ≠ some observed

/-- Nobody acts in the space. -/
structure ShutOff (state : LedgerState) (spaceId : SpaceId) (space : SpaceDescriptor) : Prop where
  unowned : space.lifecycle ≠ .agentOwned
  inactive : ∀ lease, space.lease = some lease -> lease.state ≠ .active
  refused : ∀ authority leaseEpoch now, authorizeSpace state spaceId authority leaseEpoch now true ≠ .ok ()

def ProfileFenced (state : LedgerState) (observed : ProfileBindingId) : Prop :=
  ∀ spaceId space, state.spaces.get? spaceId = some space -> BoundElsewhere state observed spaceId space ->
    ShutOff state spaceId space

section Fence

/-- The spaces that the fence is about. -/
def rebindable (state : LedgerState) (observed : ProfileBindingId) : List SpaceId :=
  (state.spaces.filter (needsRebind state observed)).keys

def reboundSpace (state : LedgerState) (observed : ProfileBindingId) (spaceId : SpaceId) (space : SpaceDescriptor) :
    SpaceDescriptor :=
  if needsRebind state observed spaceId space then rebindSpace space else space

def rebound (state : LedgerState) (observed : ProfileBindingId) : LedgerState :=
  reshapedState state (reboundSpace state observed) fun spaceId => !(rebindable state observed).contains spaceId

def announceRebind (state : LedgerState) (spaceId : SpaceId) : LedgerState :=
  announced spaceId (.space spaceId) .spaceChanged [("profile_binding", "rebind_required")] (some .unknown) true
    (brokerEventAttribution state (.space spaceId)) state

/-- The ledger with the fence in it, as a commit would write it. -/
def fencedLedger (limits : LedgerLimits) (state : LedgerState) (observed : ProfileBindingId) : LedgerState :=
  drainEvents limits ((rebindable state observed).foldl announceRebind (rebound state observed))

theorem mem_rebindable : spaceId ∈ rebindable state observed <->
    ∃ space, state.spaces.get? spaceId = some space ∧ needsRebind state observed spaceId space = true := by
  rw [rebindable, Table.mem_keys, Table.contains_iff, Table.get?_filter]
  simp only [Option.filter_eq_some_iff]

end Fence

structure Attributes (state : LedgerState) : Prop where
  epoch : state.brokerEpoch ≠ 0
  session : state.extensionBrowserSessionEpoch ≠ some 0
  worker : state.extensionWorkerInstanceEpoch ≠ some 0

theorem Accepted.attributes (accepted : Accepted config state) (epoch : state.brokerEpoch ≠ 0) : Attributes state := by
  have indexes := accepted.indexes
  simp only [validateIndexes, bind_ok, require_ok, decide_eq_true_eq] at indexes
  obtain ⟨_, _, _, _, _, ⟨worker, session⟩, _⟩ := indexes
  exact ⟨epoch, session, worker⟩

section Events

variable {spaceIds : List SpaceId}

theorem rebind_payload : validatePublicPayloadShape [("profile_binding", "rebind_required")] 512 = .ok () := by
  decide

theorem Attributes.announces (attributes : Attributes state) (spaceId : SpaceId) :
    Announces state spaceId (.space spaceId) .spaceChanged (brokerEventAttribution state (.space spaceId)) :=
  ⟨rfl, EventAttribution.validateForScope_broker _ _ rfl rfl attributes.session attributes.worker rfl rfl rfl, by simp,
    attributes.epoch⟩

/-- The counters have a next value for one event of each space. -/
structure CountersLast (state : LedgerState) (spaceIds : List SpaceId) : Prop where
  sequence : spaceIds.length ≤ u64Max - state.eventSequence
  generations : ∀ spaceId, spaceId ∈ spaceIds -> (state.spaceGenerations.get? spaceId).getD 0 < u64Max

theorem CountersLast.nil (state : LedgerState) : CountersLast state [] := ⟨Nat.zero_le _, by simp⟩

theorem CountersLast.cons_iff (fresh : spaceId ∉ spaceIds) :
    CountersLast state (spaceId :: spaceIds) <->
      (state.eventSequence < u64Max ∧ (state.spaceGenerations.get? spaceId).getD 0 < u64Max) ∧
      CountersLast (announceRebind state spaceId) spaceIds := by
  have others : ∀ other, other ∈ spaceIds ->
      (announceRebind state spaceId).spaceGenerations.get? other = state.spaceGenerations.get? other := by
    intro other inside
    exact Table.get?_insert_ne _ _ _ _ fun same => fresh (same ▸ inside)
  constructor
  · rintro ⟨sequence, generations⟩
    rw [List.length_cons] at sequence
    refine ⟨⟨?_, generations spaceId List.mem_cons_self⟩, ?_, fun other inside => ?_⟩
    · exact Nat.lt_of_sub_pos (Nat.lt_of_lt_of_le (Nat.succ_pos _) sequence)
    · change spaceIds.length ≤ u64Max - (state.eventSequence + 1)
      omega
    · rw [others other inside]
      exact generations other (List.mem_cons_of_mem _ inside)
  · rintro ⟨⟨one, generation⟩, sequence, generations⟩
    change spaceIds.length ≤ u64Max - (state.eventSequence + 1) at sequence
    have one : 0 < u64Max - state.eventSequence := Nat.sub_pos_of_lt one
    refine ⟨?_, fun other inside => ?_⟩
    · rw [List.length_cons]
      omega
    · obtain rfl | inside := List.mem_cons.mp inside
      · exact generation
      · exact others other inside ▸ generations other inside

theorem announceRebind_loop (distinct : spaceIds.Nodup) (attributes : Attributes state) :
    spaceIds.foldlM (fun next spaceId => appendEvent next (.space spaceId) .spaceChanged
        [("profile_binding", "rebind_required")] (some .unknown) true) state = .ok next <->
      CountersLast state spaceIds ∧ spaceIds.foldl announceRebind state = next := by
  induction spaceIds generalizing state with
  | nil => simpa [pure_ok] using fun _ => CountersLast.nil state
  | cons spaceId rest ih =>
    obtain ⟨fresh, distinct⟩ := List.nodup_cons.mp distinct
    have kept : Attributes (announceRebind state spaceId) := ⟨attributes.epoch, attributes.session, attributes.worker⟩
    rw [List.foldlM_cons, bind_ok, List.foldl_cons, CountersLast.cons_iff fresh]
    constructor
    · rintro ⟨middle, first, others⟩
      obtain ⟨⟨_, counters⟩, rfl⟩ := (attributes.announces spaceId).appends_iff.mp first
      obtain ⟨later, same⟩ := (ih distinct kept).mp others
      exact ⟨⟨counters, later⟩, same⟩
    · rintro ⟨⟨counters, later⟩, same⟩
      refine ⟨_, (attributes.announces spaceId).appends_iff.mpr ⟨⟨rebind_payload, counters⟩, rfl⟩, ?_⟩
      exact (ih distinct kept).mpr ⟨later, same⟩

theorem Accepted.announcing (accepted : Accepted config (drainEvents config.limits state))
    (known : ∀ spaceId, spaceId ∈ spaceIds -> state.spaces.contains spaceId = true) :
    Accepted config (drainEvents config.limits (spaceIds.foldl announceRebind state)) := by
  induction spaceIds generalizing state with
  | nil => exact accepted
  | cons spaceId rest ih =>
    refine ih ?_ fun other inside => known other (List.mem_cons_of_mem _ inside)
    obtain ⟨_, appended⟩ : ∃ record, Appended config.limits (drainEvents config.limits state)
        (drainEvents config.limits (announceRebind (drainEvents config.limits state) spaceId)) spaceId record :=
      announced_appended config.limits rfl (fun _ paged => by cases paged) rebind_payload
    have one := accepted.appending (known spaceId List.mem_cons_self) appended
    rwa [announceRebind, drainEvents_announced] at one

theorem announceRebind_same (spaceIds : List SpaceId) (state : LedgerState) :
    SameButEvents state (spaceIds.foldl announceRebind state) := by
  induction spaceIds generalizing state with
  | nil => exact .refl state
  | cons spaceId rest ih => exact .trans ⟨_, _, _, rfl⟩ (ih (announceRebind state spaceId))

end Events

theorem markProfileRebindRequired_iff (attributes : Attributes state) :
    markProfileRebindRequired observed state = .ok (count, next) <->
      CountersLast state (rebindable state observed) ∧ count = (rebindable state observed).length ∧
        (rebindable state observed).foldl announceRebind (rebound state observed) = next := by
  have kept : Attributes (rebound state observed) := ⟨attributes.epoch, attributes.session, attributes.worker⟩
  have distinct : (rebindable state observed).Nodup := (state.spaces.filter (needsRebind state observed)).nodup
  simp only [markProfileRebindRequired, bind_ok, pure_ok, Prod.mk.injEq]
  constructor
  · rintro ⟨last, announced, rfl, rfl⟩
    obtain ⟨counters, same⟩ := (announceRebind_loop distinct kept).mp announced
    exact ⟨⟨counters.sequence, counters.generations⟩, rfl, same⟩
  · rintro ⟨counters, rfl, same⟩
    exact ⟨next, (announceRebind_loop distinct kept).mpr ⟨⟨counters.sequence, counters.generations⟩, same⟩, rfl, rfl⟩

section Shapes

theorem rebindPage_reshaped (page : PageDescriptor) : ReshapedPage page (rebindPage page) := by
  unfold rebindPage
  split_ifs
  · exact ⟨rfl, rfl, rfl, rfl, rfl, fun _ => rfl⟩
  · exact .refl page

theorem rebindPage_refuses (page : PageDescriptor) : (rebindPage page).admitsAgentMutations = false := by
  unfold rebindPage
  split_ifs with admits
  · rfl
  · simpa using admits

theorem rebindSpace_leased {lease : Lease} (leased : space.lease = some lease) :
    rebindSpace space = { space with
      profileBinding := .rebindRequired
      lease := some { lease with state := .fenced }
      lifecycle := .orphaned
      pages := space.pages.map rebindPage } := by
  simp [rebindSpace, leased]

theorem rebindSpace_unleased (unleased : space.lease = none) :
    rebindSpace space = { space with profileBinding := .rebindRequired } := by
  simp [rebindSpace, unleased]

/-- The records beside a space let it be orphaned: no control ticket, no pending fence, no takeover
proof for the lease it holds, and no queued mutation of one of its pages. -/
structure Orphanable (state : LedgerState) (spaceId : SpaceId) (space : SpaceDescriptor) : Prop where
  alone : Unaccompanied state spaceId space.lease
  idle : ∀ actionId receipt, state.actions.get? actionId = some receipt -> receipt.spaceId = spaceId ->
    receipt.pageId ≠ none -> receipt.status = .queued -> isMutating receipt.operation = false

theorem rebindSpace_targets (orphanable : Orphanable state spaceId space) {changed : SpaceDescriptor}
    (pages : changed.pages = space.pages.map rebindPage) {actionId : ActionId} {receipt : ActionReceipt}
    (present : state.actions.get? actionId = some receipt) (inside : receipt.spaceId = spaceId)
    (target : validateActionTarget space receipt = .ok ()) : validateActionTarget changed receipt = .ok () := by
  unfold validateActionTarget at target ⊢
  cases aimed : receipt.pageId with
  | none =>
    rw [aimed] at target
    exact target
  | some pageId =>
    rw [aimed] at target
    simp only [bind_ok, orElse_ok, require_ok] at target ⊢
    obtain ⟨page, there, _⟩ := target
    have still : (changed.page pageId).isSome = (space.page pageId).isSome := by
      unfold SpaceDescriptor.page
      rw [pages]
      exact find?_reshaped (List.forall₂_map_right_iff.mpr (List.forall₂_same.mpr fun page _ => rebindPage_reshaped page))
    rw [there, Option.isSome_some, Option.isSome_iff_exists] at still
    obtain ⟨new, found⟩ := still
    refine ⟨new, found, ?_⟩
    by_cases queued : receipt.status = .queued
    · simp [orphanable.idle actionId receipt present inside (by simp [aimed]) queued]
    · simp [queued]

theorem Accepted.rebinds (accepted : Accepted config state) (found : state.spaces.get? spaceId = some space)
    (orphanable : needsRebind state observed spaceId space = true -> space.lease ≠ none -> Orphanable state spaceId space) :
    Reshaped state spaceId space (reboundSpace state observed spaceId space) := by
  have unshaped := accepted.unshaped found
  unfold reboundSpace
  split_ifs with needed
  · cases leased : space.lease with
    | none =>
      rw [rebindSpace_unleased leased]
      have lifecycle := unshaped.lifecycle
      simp only [validateSpaceLifecycle, bind_ok, require_ok] at lifecycle
      obtain ⟨⟨⟩, matched, _⟩ := lifecycle
      refine ⟨rfl, unshaped.pages, ?_, rfl, unshaped.fenced, .inl ⟨rfl, rfl⟩, unshaped.targets⟩
      simp only [validateSpaceLifecycle, bind_ok, require_ok]
      exact ⟨(), matched, rfl⟩
    | some lease =>
      have fits := orphanable needed (by simp [leased])
      rw [rebindSpace_leased leased]
      refine ⟨rfl, ?_, ?_, rfl, (fun fenced => by cases fenced), .inr ?_, fun actionId receipt present inside => ?_⟩
      · exact List.forall₂_map_right_iff.mpr (List.forall₂_same.mpr fun page _ => rebindPage_reshaped page)
      · simp [validateSpaceLifecycle, lifecycleMatchesLease, leaseStateIn, bind_ok, require_ok]
      · have alone := fits.alone
        rw [leased] at alone
        exact ⟨alone.ticket, alone.fence, alone.proofs⟩
      · exact rebindSpace_targets fits rfl present inside (unshaped.targets actionId receipt present inside)
  · exact unshaped

end Shapes

/-- When the fence is written: the records beside the leased spaces let them be orphaned, the counters
last for its events, and the ledger with it is within its bound. -/
structure Fenceable (config : LedgerConfig) (state : LedgerState) (observed : ProfileBindingId) : Prop where
  orphanable : ∀ spaceId space, state.spaces.get? spaceId = some space ->
    needsRebind state observed spaceId space = true -> space.lease ≠ none -> Orphanable state spaceId space
  counters : CountersLast state (rebindable state observed)
  compact : config.codec.compactBytes (fencedLedger config.limits state observed) ≤ config.limits.maxLedgerBytes
  pretty : config.codec.prettyBytes (fencedLedger config.limits state observed) ≤ config.limits.maxLedgerBytes

section Acceptance

theorem rebound_space (spaceId : SpaceId) :
    (rebound state observed).spaces.get? spaceId = (state.spaces.get? spaceId).map (reboundSpace state observed spaceId) :=
  Table.get?_mapValues _ _ _

theorem Fenceable.accepted (fenceable : Fenceable config state observed) (accepted : Accepted config state) :
    Accepted config (fencedLedger config.limits state observed) := by
  have rebinds : Accepted config (rebound state observed) := by
    refine accepted.reshaping (fun spaceId space found => ?_) fun spaceId space found kept => ?_
    · exact accepted.rebinds found (fenceable.orphanable spaceId space found)
    · rw [Bool.not_eq_true', List.contains_eq_mem, decide_eq_false_iff_not, mem_rebindable] at kept
      rw [reboundSpace, if_neg fun needed => kept ⟨space, found, needed⟩]
  refine Accepted.announcing (by rwa [rebinds.drainEvents_eq]) fun spaceId inside => ?_
  obtain ⟨space, found, _⟩ := mem_rebindable.mp inside
  rw [Table.contains, rebound_space, found]
  rfl

theorem fencedLedger_same (limits : LedgerLimits) :
    SameButEvents (rebound state observed) (fencedLedger limits state observed) :=
  (announceRebind_same _ _).trans (drainEvents_same _ _)

theorem Accepted.orphanable (accepted : Accepted config (fencedLedger config.limits state observed))
    (found : state.spaces.get? spaceId = some space) (needed : needsRebind state observed spaceId space = true)
    (held : space.lease ≠ none) : Orphanable state spaceId space := by
  obtain ⟨lease, leased⟩ := Option.ne_none_iff_exists'.mp held
  have located : (rebound state observed).spaces.get? spaceId = some (rebindSpace space) := by
    rw [rebound_space, found, Option.map_some, reboundSpace, if_pos needed]
  have same : SameButEvents (rebound state observed) (fencedLedger config.limits state observed) := fencedLedger_same _
  obtain ⟨_, _, _, same⟩ := same
  rw [same] at accepted
  rw [rebindSpace_leased leased] at located
  refine ⟨⟨?_, ?_, ?_⟩, ?_⟩
  · -- a control ticket needs a user
    rw [Option.eq_none_iff_forall_ne_some]
    intro ticket present
    have tickets := accepted.controlTickets
    simp only [validateControlTickets, require_ok, Table.all_eq_true] at tickets
    have one := tickets spaceId ticket present
    simp [controlTicketMatches, located] at one
  · rw [Option.eq_none_iff_forall_ne_some]
    intro pending present
    have one := forEach_ok.mp accepted.pendingFences _ ((Table.mem_entries _ _ _).mpr present)
    simp [validatePendingFence, located, orElse_ok, bind_ok, require_ok] at one
  · -- a proof of the present epoch needs an active lease
    intro proofs proof present member epoch
    have one := forEach_ok.mp accepted.takeoverProofs _ ((Table.mem_entries _ _ _).mpr present)
    simp only [validateTakeoverProofs, bind_ok, orElse_ok] at one
    obtain ⟨again, here, _, _, every⟩ := one
    cases located.symm.trans here
    obtain ⟨_, checked⟩ := forEachAfter_mem every member
    rw [leased] at epoch
    simp [validateTakeoverProof, bind_ok, require_ok, epoch] at checked
  · -- and a queued mutation needs a page that admits it
    intro actionId receipt present inside aimed queued
    have actions := accepted.actions
    simp only [validateActions, bind_ok] at actions
    obtain ⟨_, _, every⟩ := actions
    obtain ⟨_, checked⟩ := forEachAfter_mem every ((Table.mem_entries _ _ _).mpr present)
    simp only [validateAction, bind_ok, orElse_ok] at checked
    obtain ⟨_, _, _, _, _, _, _, _, again, here, _, target, _⟩ := checked
    rw [inside] at here
    cases located.symm.trans here
    obtain ⟨pageId, aimed⟩ := Option.ne_none_iff_exists'.mp aimed
    simp only [validateActionTarget, aimed, bind_ok, orElse_ok, require_ok] at target
    obtain ⟨page, there, admits⟩ := target
    have refuses : page.admitsAgentMutations = false := by
      obtain ⟨old, _, rfl⟩ := List.mem_map.mp (List.mem_of_find?_eq_some there)
      exact rebindPage_refuses old
    simpa [refuses, queued] using admits

end Acceptance

section Fenced

theorem ProfileFenced.of_rests (valid : Valid config state) (rests : ∀ spaceId, Rests state spaceId)
    (rebound : ∀ spaceId space, state.spaces.get? spaceId = some space -> space.profileBinding = .bound ->
      state.profileBindings.get? spaceId = some observed) : ProfileFenced state observed := by
  rintro spaceId space found ⟨bound, elsewhere⟩
  have barred : space.barred = true := by
    cases binding : space.profileBinding with
    | unbound => exact absurd binding bound
    | bound => exact absurd (rebound spaceId space found binding) elsewhere
    | rebindRequired | revoked => simp [SpaceDescriptor.barred, binding]
  have quiet := rests spaceId space found barred
  refine ⟨fun owned => ?_, fun lease leased => valid.rest_inactive found quiet leased, fun _ _ _ allowed => ?_⟩
  · rw [owned] at quiet
    cases quiet
  · rw [authorizeSpace_unbarred allowed found] at barred
    cases barred

theorem fencedLedger_bound {limits : LedgerLimits}
    (found : (fencedLedger limits state observed).spaces.get? spaceId = some space)
    (bound : space.profileBinding = .bound) :
    (fencedLedger limits state observed).profileBindings.get? spaceId = some observed := by
  obtain ⟨_, _, _, same⟩ : SameButEvents (rebound state observed) (fencedLedger limits state observed) :=
    fencedLedger_same limits
  rw [same] at found ⊢
  change (rebound state observed).spaces.get? spaceId = some space at found
  change state.profileBindings.get? spaceId = some observed
  rw [rebound_space, Option.map_eq_some_iff] at found
  obtain ⟨old, _, rfl⟩ := found
  unfold reboundSpace at bound
  split_ifs at bound with needed
  · cases leased : old.lease with
    | none => simp [rebindSpace_unleased leased] at bound
    | some lease => simp [rebindSpace_leased leased] at bound
  · simpa [needsRebind, bound] using needed

end Fenced

section Runs

variable {config : HostConfig} {env : Environment} {start before after : System} {trace : List (Moment System Label)}
  {result : Except HostError Unit}

theorem markProfileRebindRequired_committed {committed : Ledger} (valid : Valid config.ledger before.ledger.state)
    (epoch : before.ledger.state.brokerEpoch ≠ 0) :
    before.ledger.update config.ledger .written (markProfileRebindRequired observed) = (committed, .ok count) <->
      Fenceable config.ledger before.ledger.state observed ∧
        count = (rebindable before.ledger.state observed).length ∧
        committed = { state := fencedLedger config.ledger.limits before.ledger.state observed
                      disk := fencedLedger config.ledger.limits before.ledger.state observed } := by
  have accepted := (valid_iff.mp valid).toAccepted
  rw [Ledger.update_written]
  simp only [markProfileRebindRequired_iff (accepted.attributes epoch)]
  constructor
  · rintro ⟨_, ⟨counters, counted, rfl⟩, fenced, compact, pretty, same⟩
    exact ⟨⟨fun _ _ found needed held => fenced.orphanable found needed held, counters, compact, pretty⟩, counted, same⟩
  · rintro ⟨fenceable, counted, same⟩
    exact ⟨_, ⟨fenceable.counters, counted, rfl⟩, fenceable.accepted accepted, fenceable.compact, fenceable.pretty, same⟩

theorem profile_fence_fenceable (initial : Initial config start) (run : HostRun config start trace before)
    (written : env.io = .written)
    (taken : step config env (.markProfileRebindRequired observed) before = some (after, .ok ())) :
    Fenceable config.ledger before.ledger.state observed := by
  simp only [step, sessionStep, System.done, System.commit, written, Option.some.injEq, Prod.mk.injEq] at taken
  obtain ⟨_, done⟩ := taken
  generalize ended : before.ledger.update config.ledger .written (markProfileRebindRequired observed) = reply at done
  obtain ⟨committed, _ | count⟩ := reply
  · cases done
  · exact ((markProfileRebindRequired_committed (run.sound initial).valid (run.brokerEpoch_pos initial)).mp ended).1

/-- In every run: the fence of another profile is written, and takes every space of a known profile from
its agent, exactly when the records beside the leased spaces let them be orphaned and there is room. -/
theorem profile_fence_applies_iff (initial : Initial config start) (run : HostRun config start trace before)
    (written : env.io = .written)
    (taken : step config env (.markProfileRebindRequired observed) before = some (after, result)) :
    (result = .ok () ∧ ProfileFenced after.ledger.state observed) <->
      Fenceable config.ledger before.ledger.state observed := by
  constructor
  · rintro ⟨rfl, _⟩
    exact profile_fence_fenceable initial run written taken
  · intro fenceable
    have moves : next config (env, .markProfileRebindRequired observed) before = some after := by simp [next, taken]
    have later : HostRun config start (_ :: trace) after := .step run moves
    have committed := (markProfileRebindRequired_committed (run.sound initial).valid (run.brokerEpoch_pos initial)).mpr
      ⟨fenceable, rfl, rfl⟩
    simp only [step, sessionStep, System.done, System.commit, written, committed, Option.some.injEq,
      Prod.mk.injEq] at taken
    obtain ⟨rfl, rfl⟩ := taken
    refine ⟨rfl, .of_rests (later.sound initial).valid (later.rests initial) fun spaceId space found bound => ?_⟩
    exact fencedLedger_bound found bound

def workProfile : ProfileBindingId := ⟨"work", by decide⟩

def otherProfile : ProfileBindingId := ⟨"other", by decide⟩

def profiledTicket : AuthorityTicket := { sampleTicket with profileBindingId := some workProfile }

def profiledStart : List Label :=
  [(sampleEnv, .hello { principalId := samplePrincipal, connectionNonce := sampleNonce,
                        profileBindingId := some workProfile, isExtension := false }),
   (sampleEnv, .createSpace profiledTicket "work" .retain),
   (sampleEnv, .acquireLease ⟨1⟩ profiledTicket 10 1000)]

def boundElsewhere (state : LedgerState) : Bool :=
  (state.spaces.get? ⟨1⟩).any fun space =>
    space.profileBinding == .bound && !(state.profileBindings.get? ⟨1⟩ == some otherProfile)

/-- The space of a lease that was never taken over is shut off. -/
theorem profile_fence_applies_first : ∃ before after, boundElsewhere before.ledger.state = true ∧
    step sampleConfig sampleEnv (.markProfileRebindRequired otherProfile) before = some (after, .ok ()) ∧
    ProfileFenced after.ledger.state otherProfile := by
  obtain ⟨before, run, passed⟩ := advance_reaches (next sampleConfig) (.fresh sampleConfig) profiledStart
    (fun system => boundElsewhere system.ledger.state &&
      (step sampleConfig sampleEnv (.markProfileRebindRequired otherProfile) system).any fun reply => reply.2.toBool)
    (by decide)
  simp only [Bool.and_eq_true, Option.any_eq_true, toBool_ok] at passed
  obtain ⟨bound, ⟨after, result⟩, taken, rfl⟩ := passed
  have fenceable := profile_fence_fenceable sample_initial run rfl taken
  exact ⟨before, after, bound, taken, ((profile_fence_applies_iff sample_initial run rfl taken).mpr fenceable).2⟩

/-- After a takeover the proof of its epoch stands against the fence, and the agent of the work profile goes on. -/
theorem takeover_proof_blocks_profile_fence :
    ∃ trace before after result, HostRun sampleConfig (.fresh sampleConfig) trace before ∧
      step sampleConfig sampleEnv (.markProfileRebindRequired otherProfile) before = some (after, result) ∧
      result ≠ .ok () ∧ boundElsewhere after.ledger.state = true ∧
      authorizeSpace after.ledger.state ⟨1⟩ profiledTicket 2 60 true = .ok () := by
  obtain ⟨before, run, passed⟩ := advance_reaches (next sampleConfig) (.fresh sampleConfig)
    (profiledStart ++
      [(sampleEnv, .takeover 5 ⟨1⟩ profiledTicket 40 1000 none),
       (sampleEnv, .fenceAnswered 5 { acknowledged := true, error := none })])
    (fun system => (step sampleConfig sampleEnv (.markProfileRebindRequired otherProfile) system).any fun reply =>
      !reply.2.toBool && boundElsewhere reply.1.ledger.state &&
        (authorizeSpace reply.1.ledger.state ⟨1⟩ profiledTicket 2 60 true).toBool) (by decide)
  simp only [Bool.and_eq_true, Option.any_eq_true, toBool_ok, Bool.not_eq_true'] at passed
  obtain ⟨⟨after, result⟩, taken, ⟨refused, bound⟩, allowed⟩ := passed
  refine ⟨_, before, after, result, run, taken, ?_, bound, allowed⟩
  rintro rfl
  cases refused

end Runs

end AgentycHost
