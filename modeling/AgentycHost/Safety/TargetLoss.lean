import AgentycHost.Effects.Pages
import AgentycHost.Ledger.Reshaped
import AgentycHost.Safety.Recording

set_option autoImplicit false

/-! # The loss of a target -/

namespace AgentycHost

open Shared

variable {config : LedgerConfig} {state next : LedgerState} {event : BridgeEvent} {authority : AuthorityTicket}
  {epochs : Option ExtensionEpochs} {spaceId : SpaceId} {pageId : PageId} {page : PageDescriptor} {now : Timestamp}
  {registry : RefRegistry}

/-- A scoped event that tells of the loss of a page's target, from whoever may tell it. -/
structure TellsLoss (state : LedgerState) (event : BridgeEvent) (authority : AuthorityTicket)
    (epochs : Option ExtensionEpochs) (spaceId : SpaceId) (pageId : PageId) : Prop where
  loses : event.name.losesTarget = true
  onPage : event.name.isGlobal = false
  inSpace : event.spaceId = some spaceId
  ofPage : event.pageId = some pageId
  admitted : admitBridgeEvent event authority epochs = .ok ()
  ticket : authorizeTicket state authority = .ok ()
  profile : authorizeProfileForMutation state spaceId authority = .ok ()

/-- Nothing can be done with the page: it is lost, no operation of a client is let through to it, no
evidence about it is accepted, and no queued mutation aims at it. -/
structure PageGone (codec : Codec) (registry : RefRegistry) (state : LedgerState) (spaceId : SpaceId)
    (pageId : PageId) : Prop where
  lost : ∃ page, state.page spaceId pageId = some page ∧ page.lifecycle = .targetLost ∧ page.binding = .lost
  snapshot : state.snapshot spaceId pageId = none
  closed : ∀ authority leaseEpoch now mutation generation,
    authorizePage state spaceId pageId authority leaseEpoch now mutation ≠ .ok generation
  refs : ∀ request now, request.spaceId = spaceId -> request.pageId = some pageId ->
    requiresElementActionability request.operation = true ∨ hasActionabilityInput request.payload = true ->
    (validateActionabilityForState codec registry state request now).2 ≠ .ok ()
  idle : ∀ actionId receipt, state.actions.get? actionId = some receipt -> receipt.spaceId = spaceId ->
    receipt.pageId = some pageId -> receipt.status = .queued -> isMutating receipt.operation = false

section Loss

/-- The page that a loss leaves; without a generation of its own the event bumps all three. -/
def lostTo (event : BridgeEvent) (page : PageDescriptor) : PageDescriptor :=
  let raised := raiseGenerations event page
  { (if event.targetGeneration.isNone then recoverPage raised else raised) with lifecycle := .targetLost, binding := .lost }

def withoutPage (state : LedgerState) (event : BridgeEvent) (spaceId : SpaceId) (page : PageDescriptor) : LedgerState :=
  (state.setPage spaceId (lostTo event page)).dropSnapshots spaceId

/-- The ledger with the loss in it, as a commit would write it. -/
def lossLedger (limits : LedgerLimits) (state : LedgerState) (event : BridgeEvent) (authority : AuthorityTicket)
    (epochs : Option ExtensionEpochs) (spaceId : SpaceId) (page : PageDescriptor) : LedgerState :=
  drainEvents limits (announced spaceId (.page spaceId page.pageId) .pageChanged event.payload
    (some event.name.dirtyReason) true (bridgeAttribution event authority epochs) (withoutPage state event spaceId page))

/-- The generations that a loss without one of its own has to bump have a next value. -/
def Bumpable (event : BridgeEvent) (page : PageDescriptor) : Prop :=
  event.targetGeneration = none -> (raiseGenerations event page).targetGeneration < u64Max ∧
    (raiseGenerations event page).navigationGeneration < u64Max ∧
    (raiseGenerations event page).documentGeneration < u64Max

theorem observedPage_lost (loses : event.name.losesTarget = true) (open_ : page.lifecycle ≠ .closed)
    (running : page.lifecycle ≠ .closing) {outcome : PageDescriptor × Bool} :
    observedPage event page = .ok outcome <-> Bumpable event page ∧ outcome = (lostTo event page, true) := by
  have lost : losesPage event page = true := by simp [losesPage, loses, open_, running]
  cases given : event.targetGeneration with
  | none =>
    simp only [observedPage, lost, if_true, given, Option.isNone_none, bind_ok, pure_ok, bumpPageGenerations, orElse_ok,
      checkedNext_eq_some, Bumpable, lostTo, forall_true_left]
    constructor
    · rintro ⟨_, ⟨_, ⟨target, rfl⟩, _, ⟨navigation, rfl⟩, _, ⟨document, rfl⟩, rfl⟩, rfl⟩
      exact ⟨⟨target, navigation, document⟩, rfl⟩
    · rintro ⟨⟨target, navigation, document⟩, rfl⟩
      exact ⟨_, ⟨_, ⟨target, rfl⟩, _, ⟨navigation, rfl⟩, _, ⟨document, rfl⟩, rfl⟩, rfl⟩
  | some value =>
    simp only [observedPage, lost, if_true, given, Option.isNone_some, Bool.false_eq_true, if_false, bind_ok, pure_ok,
      Bumpable, lostTo, reduceCtorEq, false_implies, true_and]
    constructor
    · rintro ⟨_, rfl, rfl⟩
      rfl
    · rintro rfl
      exact ⟨_, rfl, rfl⟩

theorem lostTo_reshaped (event : BridgeEvent) (page : PageDescriptor) : ReshapedPage page (lostTo event page) := by
  unfold lostTo
  dsimp only
  split_ifs <;> exact ⟨rfl, rfl, rfl, rfl, rfl, fun _ => rfl⟩

theorem lostTo_pageId (event : BridgeEvent) (page : PageDescriptor) : (lostTo event page).pageId = page.pageId :=
  (lostTo_reshaped event page).pageId

theorem lostTo_state (event : BridgeEvent) (page : PageDescriptor) :
    (lostTo event page).lifecycle = .targetLost ∧ (lostTo event page).binding = .lost := by
  unfold lostTo
  exact ⟨rfl, rfl⟩

end Loss

section Shape

variable {new : PageDescriptor}

theorem replaceFirst_reshaped {pages : List PageDescriptor} (fits : ReshapedPage page new)
    (found : pages.find? (fun other => other.pageId == pageId) = some page) :
    List.Forall₂ ReshapedPage pages (SpaceDescriptor.changePage.replaceFirst pageId (fun _ => new) pages) := by
  induction pages with
  | nil => cases found
  | cons first rest ih =>
    rw [List.find?_cons] at found
    unfold SpaceDescriptor.changePage.replaceFirst
    cases here : first.pageId == pageId with
    | true =>
      rw [here] at found
      cases found
      exact .cons fits (List.forall₂_same.mpr fun other _ => .refl other)
    | false =>
      rw [here] at found
      exact .cons (.refl first) (ih found)

variable {space : SpaceDescriptor}

theorem changePage_page (found : space.page pageId = some page) (named : new.pageId = pageId) :
    (space.changePage pageId fun _ => new).page pageId = some new := by
  rw [SpaceDescriptor.page_changePage (fun _ => new) (fun _ _ => named), if_pos rfl, found, Option.map_some]

theorem changePage_other (named : new.pageId = pageId) {other : PageId} (distinct : other ≠ pageId) :
    (space.changePage pageId fun _ => new).page other = space.page other := by
  rw [SpaceDescriptor.page_changePage (fun _ => new) (fun _ _ => named), if_neg distinct]

/-- No queued mutation of the space aims at the page. -/
def NoneAimed (state : LedgerState) (spaceId : SpaceId) (pageId : PageId) : Prop :=
  ∀ actionId receipt, state.actions.get? actionId = some receipt -> receipt.spaceId = spaceId ->
    receipt.pageId = some pageId -> receipt.status = .queued -> isMutating receipt.operation = false

theorem Accepted.loses_page (accepted : Accepted config state) (located : state.spaces.get? spaceId = some space)
    (found : space.page pageId = some page) (idle : NoneAimed state spaceId pageId) :
    Reshaped state spaceId space (space.changePage pageId fun _ => lostTo event page) := by
  have unshaped := accepted.unshaped located
  have named : (lostTo event page).pageId = pageId := by
    rw [lostTo_pageId]
    simpa using List.find?_some found
  refine ⟨rfl, replaceFirst_reshaped (lostTo_reshaped event page) found, unshaped.lifecycle, unshaped.binding,
    unshaped.fenced, .inl ⟨rfl, rfl⟩, fun actionId receipt present inside => ?_⟩
  have target := unshaped.targets actionId receipt present inside
  unfold validateActionTarget at target ⊢
  cases aimed : receipt.pageId with
  | none =>
    rw [aimed] at target
    exact target
  | some asked =>
    rw [aimed] at target
    simp only [bind_ok, orElse_ok, require_ok] at target ⊢
    obtain ⟨old, there, admits⟩ := target
    by_cases here : asked = pageId
    · subst here
      refine ⟨_, changePage_page found named, ?_⟩
      by_cases queued : receipt.status = .queued
      · simp [idle actionId receipt present inside aimed queued]
      · simp [queued]
    · exact ⟨old, (changePage_other named here).trans there, admits⟩

theorem Accepted.without_page (accepted : Accepted config state) (found : state.page spaceId page.pageId = some page)
    (idle : NoneAimed state spaceId page.pageId) : Accepted config (withoutPage state event spaceId page) := by
  obtain ⟨space, located, inside⟩ := Option.bind_eq_some_iff.mp found
  have reshaped : Accepted config (reshapedState state
      (fun other space => if other = spaceId then space.changePage page.pageId fun _ => lostTo event page else space)
      fun other => !(other == spaceId)) := by
    refine accepted.reshaping (fun other old present => ?_) fun other old present kept => ?_
    · split_ifs with here
      · subst here
        cases located.symm.trans present
        exact accepted.loses_page located inside idle
      · exact accepted.unshaped present
    · rw [if_neg (by simpa using kept)]
  unfold withoutPage LedgerState.setPage
  rw [lostTo_pageId]
  exact reshaped

end Shape

/-- When the loss is written: no queued mutation aims at the page, the event fits the history, and the
counters and the file have room for it. -/
structure Losable (config : LedgerConfig) (state : LedgerState) (event : BridgeEvent) (authority : AuthorityTicket)
    (epochs : Option ExtensionEpochs) (spaceId : SpaceId) (page : PageDescriptor) : Prop where
  idle : NoneAimed state spaceId page.pageId
  payload : validatePublicPayloadShape event.payload 512 = .ok ()
  attributed : (bridgeAttribution event authority epochs).validateForScope (.page spaceId page.pageId) = .ok ()
  bumpable : Bumpable event page
  sequence : state.eventSequence < u64Max
  generation : (state.spaceGenerations.get? spaceId).getD 0 < u64Max
  compact : config.codec.compactBytes (lossLedger config.limits state event authority epochs spaceId page) ≤
    config.limits.maxLedgerBytes
  pretty : config.codec.prettyBytes (lossLedger config.limits state event authority epochs spaceId page) ≤
    config.limits.maxLedgerBytes

section Transition

theorem appended_attributed {scope : EventScope} {kind : EventKind} {payload : Payload} {reason : Option DirtyReason}
    {resync : Bool} {attribution : EventAttribution}
    (appended : appendEventWithAttribution state scope kind payload reason resync attribution = .ok next) :
    attribution.validateForScope scope = .ok () := by
  simp only [appendEventWithAttribution, bind_ok, mapError_ok] at appended
  obtain ⟨_, _, _, _, _, _, _, admitted, _⟩ := appended
  simp only [EventRecord.validateAdmission, EventRecord.validateRouting, eventRecord, generationWatermark, bind_ok] at admitted
  obtain ⟨_, routed, _⟩ := admitted
  split_ifs at routed
  simp only [EventMetadata.validate, EventMetadata.forEvent, bind_ok] at routed
  obtain ⟨⟨⟩, attributed, _⟩ := routed
  exact attributed

theorem TellsLoss.admits_iff (tells : TellsLoss state event authority epochs spaceId page.pageId)
    (found : state.page spaceId page.pageId = some page) (open_ : page.lifecycle ≠ .closed)
    (running : page.lifecycle ≠ .closing) {outcome : Option (PageDescriptor × Bool)} :
    admitScopedEvent event authority spaceId page.pageId state = .ok outcome <->
      Bumpable event page ∧ outcome = some (lostTo event page, true) := by
  simp only [admitScopedEvent, bind_ok, tells.ticket, tells.profile, findPage_ok, found, exists_const, true_and,
    Option.some.injEq, exists_eq_left', running, false_and, if_false]
  constructor
  · intro admitted
    cases observed : observedPage event page with
    | error error =>
      rw [observed] at admitted
      cases admitted
    | ok result =>
      rw [observed] at admitted
      cases admitted
      obtain ⟨bumpable, rfl⟩ := (observedPage_lost tells.loses open_ running).mp observed
      exact ⟨bumpable, rfl⟩
  · rintro ⟨bumpable, rfl⟩
    rw [(observedPage_lost tells.loses open_ running).mpr ⟨bumpable, rfl⟩]
    rfl

theorem TellsLoss.transition_iff (tells : TellsLoss state event authority epochs spaceId page.pageId)
    (epoch : state.brokerEpoch ≠ 0) (found : state.page spaceId page.pageId = some page)
    (open_ : page.lifecycle ≠ .closed) (running : page.lifecycle ≠ .closing) :
    (applyBridgeEvent event authority epochs now registry state).2 = .ok ((), next) <->
      (validatePublicPayloadShape event.payload 512 = .ok () ∧
        (bridgeAttribution event authority epochs).validateForScope (.page spaceId page.pageId) = .ok () ∧
        Bumpable event page ∧ state.eventSequence < u64Max ∧ (state.spaceGenerations.get? spaceId).getD 0 < u64Max) ∧
      announced spaceId (.page spaceId page.pageId) .pageChanged event.payload (some event.name.dirtyReason) true
        (bridgeAttribution event authority epochs) (withoutPage state event spaceId page) = next := by
  have kind : event.name.kind = .pageChanged := by simp [BridgeEventName.kind, tells.onPage]
  simp only [applyBridgeEvent, tells.inSpace, tells.ofPage, applyScopedEvent]
  constructor
  · intro run
    split at run
    · cases run
    · next admitted =>
      obtain ⟨_, nothing⟩ := (tells.admits_iff found open_ running).mp admitted
      cases nothing
    · next admitted =>
      obtain ⟨bumpable, same⟩ := (tells.admits_iff found open_ running).mp admitted
      cases same
      simp only [Bool.true_or, if_true, bind_ok, pure_ok, Prod.mk.injEq, true_and, exists_eq_right, kind,
        tells.loses] at run
      have attributed := appended_attributed run
      have announces : Announces (withoutPage state event spaceId page) spaceId (.page spaceId page.pageId) .pageChanged _ :=
        ⟨rfl, attributed, (fun impossible => by cases impossible), epoch⟩
      obtain ⟨⟨shape, sequence, generation⟩, rfl⟩ := announces.appends_iff.mp run
      exact ⟨⟨shape, attributed, bumpable, sequence, generation⟩, rfl⟩
  · rintro ⟨⟨shape, attributed, bumpable, sequence, generation⟩, rfl⟩
    rw [(tells.admits_iff found open_ running).mpr ⟨bumpable, rfl⟩]
    have announces : Announces (withoutPage state event spaceId page) spaceId (.page spaceId page.pageId) .pageChanged _ :=
      ⟨rfl, attributed, (fun impossible => by cases impossible), epoch⟩
    simp only [Bool.true_or, if_true, bind_ok, pure_ok, Prod.mk.injEq, true_and, exists_eq_right, kind, tells.loses]
    exact announces.appends_iff.mpr ⟨⟨shape, sequence, generation⟩, rfl⟩

end Transition

section Acceptance

variable {codec : Codec}

theorem withoutPage_page (found : state.page spaceId page.pageId = some page) :
    (withoutPage state event spaceId page).page spaceId page.pageId = some (lostTo event page) := by
  have named := lostTo_pageId event page
  change (state.changePage spaceId (lostTo event page).pageId fun _ => lostTo event page).page spaceId page.pageId = _
  rw [LedgerState.page_changePage (fun _ => lostTo event page) fun _ _ => rfl, if_pos ⟨rfl, named.symm⟩, found,
    Option.map_some]

theorem lossLedger_same (limits : LedgerLimits) : SameButEvents (withoutPage state event spaceId page)
    (lossLedger limits state event authority epochs spaceId page) :=
  .trans ⟨_, _, _, rfl⟩ (drainEvents_same limits _)

theorem Losable.accepted (losable : Losable config state event authority epochs spaceId page)
    (accepted : Accepted config state) (found : state.page spaceId page.pageId = some page) :
    Accepted config (lossLedger config.limits state event authority epochs spaceId page) := by
  have without : Accepted config (withoutPage state event spaceId page) := accepted.without_page found losable.idle
  have there : (withoutPage state event spaceId page).page spaceId page.pageId = some (lostTo event page) :=
    withoutPage_page found
  obtain ⟨_, appended⟩ : ∃ record, Appended config.limits (withoutPage state event spaceId page)
      (lossLedger config.limits state event authority epochs spaceId page) spaceId record := by
    refine announced_appended config.limits rfl (fun asked paged => ?_) losable.payload
    obtain rfl := Option.some.inj paged
    rw [there]
    rfl
  refine without.appending ?_ appended
  obtain ⟨space, located, _⟩ := Option.bind_eq_some_iff.mp there
  rw [Table.contains, located]
  rfl

theorem Accepted.none_aimed (accepted : Accepted config (lossLedger config.limits state event authority epochs spaceId page))
    (found : state.page spaceId page.pageId = some page) : NoneAimed state spaceId page.pageId := by
  intro actionId receipt present inside aimed queued
  have there : (withoutPage state event spaceId page).page spaceId page.pageId = some (lostTo event page) :=
    withoutPage_page found
  obtain ⟨_, _, _, same⟩ : SameButEvents (withoutPage state event spaceId page)
    (lossLedger config.limits state event authority epochs spaceId page) := lossLedger_same config.limits
  rw [same] at accepted
  have actions := accepted.actions
  simp only [validateActions, bind_ok] at actions
  obtain ⟨_, _, every⟩ := actions
  obtain ⟨_, checked⟩ := forEachAfter_mem every ((Table.mem_entries _ _ _).mpr present)
  simp only [validateAction, bind_ok, orElse_ok] at checked
  obtain ⟨_, _, _, _, _, _, _, _, space, here, _, target, _⟩ := checked
  rw [inside] at here
  obtain ⟨again, located, inside⟩ := Option.bind_eq_some_iff.mp there
  cases here.symm.trans located
  simp only [validateActionTarget, aimed, bind_ok, orElse_ok, require_ok] at target
  obtain ⟨old, met, admits⟩ := target
  cases inside.symm.trans met
  have refuses : (lostTo event page).admitsAgentMutations = false := by
    simp [PageDescriptor.admitsAgentMutations, lostTo_state]
  simpa [refuses, queued] using admits

theorem evidenceForState_refused {request : ActionRequest} {outcome : Option ActionabilityInput}
    (needs : requiresElementActionability request.operation = true ∨ hasActionabilityInput request.payload = true)
    (aimed : request.pageId = some pageId) (snapshot : state.snapshot request.spaceId pageId = none) :
    evidenceForState codec state request ≠ .ok outcome := by
  intro checked
  simp only [evidenceForState, bind_ok] at checked
  obtain ⟨input, parsed, rest⟩ := checked
  cases input with
  | none =>
    simp only [bind_ok, require_ok, Bool.not_eq_true'] at rest
    obtain ⟨_, free, _⟩ := rest
    have given : hasActionabilityInput request.payload = true := needs.resolve_left (by simp [free])
    simp only [ActionabilityInput.fromPayload, given, Bool.not_true, Bool.false_eq_true, if_false, bind_ok] at parsed
    obtain ⟨_, _, _, _, _, _, complete⟩ := parsed
    split at complete
    · simp only [bind_ok, pure_ok, reduceCtorEq, and_false, exists_false] at complete
    · simp only [bind_ok, pure_ok, reduceCtorEq, and_false, exists_false] at complete
  | some input =>
    simp only [bind_ok, orElse_ok, aimed, Option.some.injEq] at rest
    obtain ⟨_, rfl, _, _, _, cached, _⟩ := rest
    rw [snapshot] at cached
    cases cached

theorem PageGone.of_lost {lost : PageDescriptor} (found : state.page spaceId pageId = some lost)
    (lifecycle : lost.lifecycle = .targetLost) (binding : lost.binding = .lost)
    (snapshot : state.snapshot spaceId pageId = none) (idle : NoneAimed state spaceId pageId) :
    PageGone codec registry state spaceId pageId where
  lost := ⟨lost, found, lifecycle, binding⟩
  snapshot := snapshot
  closed := by
    intro authority leaseEpoch now mutation generation allowed
    simp only [authorizePage, bind_ok, findPage_ok, require_ok, found] at allowed
    obtain ⟨_, _, _, same, _, managed, _, bound, _⟩ := allowed
    cases same
    cases mutation
    · simp [binding] at bound
    · simp [PageDescriptor.admitsAgentMutations, lifecycle] at managed
  refs := by
    rintro request now rfl aimed needs valid
    unfold validateActionabilityForState at valid
    split at valid
    · cases valid
    · next accepted => exact evidenceForState_refused needs aimed snapshot accepted
    · next accepted => exact evidenceForState_refused needs aimed snapshot accepted
  idle := idle

end Acceptance

section Runs

variable {config : HostConfig} {env : Environment} {start before after : System} {trace : List (Moment System Label)}
  {result : Except HostError Unit}

theorem TellsLoss.committed_iff {committed : Ledger} (valid : Valid config.ledger before.ledger.state)
    (epoch : before.ledger.state.brokerEpoch ≠ 0)
    (tells : TellsLoss before.ledger.state event authority epochs spaceId page.pageId)
    (found : before.ledger.state.page spaceId page.pageId = some page) (open_ : page.lifecycle ≠ .closed)
    (running : page.lifecycle ≠ .closing) :
    before.ledger.update config.ledger .written (fun state => (applyBridgeEvent event authority epochs now registry state).2) =
        (committed, .ok ()) <->
      Losable config.ledger before.ledger.state event authority epochs spaceId page ∧
        committed = { state := lossLedger config.ledger.limits before.ledger.state event authority epochs spaceId page
                      disk := lossLedger config.ledger.limits before.ledger.state event authority epochs spaceId page } := by
  have accepted := (valid_iff.mp valid).toAccepted
  rw [Ledger.update_written]
  constructor
  · rintro ⟨next, moved, lost, compact, pretty, same⟩
    obtain ⟨⟨shape, attributed, bumpable, sequence, generation⟩, rfl⟩ :=
      (tells.transition_iff epoch found open_ running).mp moved
    exact ⟨⟨lost.none_aimed found, shape, attributed, bumpable, sequence, generation, compact, pretty⟩, same⟩
  · rintro ⟨losable, same⟩
    exact ⟨_, (tells.transition_iff epoch found open_ running).mpr ⟨⟨losable.payload, losable.attributed,
      losable.bumpable, losable.sequence, losable.generation⟩, rfl⟩, losable.accepted accepted found, losable.compact,
      losable.pretty, same⟩

theorem target_loss_losable (initial : Initial config start) (run : HostRun config start trace before)
    (written : env.io = .written)
    (tells : TellsLoss before.ledger.state event authority env.extensionEpochs spaceId pageId)
    (found : before.ledger.state.page spaceId pageId = some page) (open_ : page.lifecycle ≠ .closed)
    (running : page.lifecycle ≠ .closing)
    (taken : step config env (.bridgeEvent event authority now) before = some (after, .ok ())) :
    Losable config.ledger before.ledger.state event authority env.extensionEpochs spaceId page ∧
      after.ledger.state =
        lossLedger config.ledger.limits before.ledger.state event authority env.extensionEpochs spaceId page := by
  obtain rfl : page.pageId = pageId := LedgerState.page_pageId found
  simp only [step, sessionStep, System.afterCheck, tells.admitted, System.done, System.commitRefs, written,
    Option.some.injEq, Prod.mk.injEq] at taken
  obtain ⟨same, done⟩ := taken
  generalize ended : before.ledger.update config.ledger .written (fun state =>
    (applyBridgeEvent event authority env.extensionEpochs now before.registry state).2) = reply at same done
  obtain ⟨committed, _ | ⟨⟨⟩⟩⟩ := reply
  · cases done
  · obtain ⟨losable, rfl⟩ := (tells.committed_iff (run.sound initial).valid (run.brokerEpoch_pos initial) found open_
      running).mp ended
    exact ⟨losable, by rw [← same]⟩

theorem lossLedger_gone {codec : Codec} {limits : LedgerLimits} (found : state.page spaceId page.pageId = some page)
    (idle : NoneAimed state spaceId page.pageId) :
    PageGone codec registry (lossLedger limits state event authority epochs spaceId page) spaceId page.pageId := by
  have there : (withoutPage state event spaceId page).page spaceId page.pageId = some (lostTo event page) :=
    withoutPage_page found
  obtain ⟨_, _, _, same⟩ : SameButEvents (withoutPage state event spaceId page)
    (lossLedger limits state event authority epochs spaceId page) := lossLedger_same limits
  obtain ⟨lifecycle, binding⟩ := lostTo_state event page
  refine .of_lost (by rw [same]; exact there) lifecycle binding ?_ (by rw [same]; exact idle)
  rw [same]
  change ((state.snapshots.erase spaceId).get? spaceId).bind _ = none
  rw [Table.get?_erase, if_pos rfl]
  rfl

/-- In every run: an authorized event that tells of the loss of an open page is committed, and puts the page
out of reach, exactly when no queued mutation aims at the page and the event finds room. -/
theorem target_loss_applies_iff (initial : Initial config start) (run : HostRun config start trace before)
    (written : env.io = .written)
    (tells : TellsLoss before.ledger.state event authority env.extensionEpochs spaceId pageId)
    (found : before.ledger.state.page spaceId pageId = some page) (open_ : page.lifecycle ≠ .closed)
    (running : page.lifecycle ≠ .closing)
    (taken : step config env (.bridgeEvent event authority now) before = some (after, result)) :
    (result = .ok () ∧ PageGone config.ledger.codec after.registry after.ledger.state spaceId pageId) <->
      Losable config.ledger before.ledger.state event authority env.extensionEpochs spaceId page := by
  constructor
  · rintro ⟨rfl, _⟩
    exact (target_loss_losable initial run written tells found open_ running taken).1
  · intro losable
    obtain rfl : page.pageId = pageId := LedgerState.page_pageId found
    have committed : before.ledger.update config.ledger .written (fun state =>
        (applyBridgeEvent event authority env.extensionEpochs now before.registry state).2) = (_, .ok ()) :=
      (tells.committed_iff (run.sound initial).valid (run.brokerEpoch_pos initial) found open_ running).mpr
        ⟨losable, rfl⟩
    simp only [step, sessionStep, System.afterCheck, tells.admitted, System.done, System.commitRefs, written, committed,
      Option.some.injEq, Prod.mk.injEq] at taken
    obtain ⟨rfl, rfl⟩ := taken
    exact ⟨rfl, lossLedger_gone found losable.idle⟩

def lostEvent : BridgeEvent where
  name := .targetLost
  brokerEpoch := 1
  connectionEpoch := 1
  workerInstanceEpoch := none
  browserSessionEpoch := none
  spaceId := some ⟨1⟩
  pageId := some ⟨1⟩
  frameId := none
  documentId := none
  navigationId := none
  targetGeneration := none
  navigationGeneration := none
  documentGeneration := none
  payload := [("reason", "page.lost")]

def boundOnce : List Label := sampleStart ++
  [(sampleEnv, .createPage sampleClaim "page"),
   (sampleEnv, .bindPage sampleClaim ⟨1⟩
      { url := none, title := none, frameCount := 1, targetGeneration := none, navigationGeneration := none,
        documentGeneration := none })]

def pageCodec : Codec := { sampleCodec with
  requestJson := fun request => bytes ("[\"" ++ request.requestId.text ++ "\",\"" ++ request.actionId.text ++ "\",\"" ++
    request.idempotencyKey.text ++ "\",\"" ++ request.spaceId.text ++ "\",\"" ++ (PageId.mk 1).text ++ "\"," ++
    toString request.leaseEpoch ++ ",\"navigate\",\x7b\x7d,null]") }

def pageConfig : HostConfig := { ledger := { codec := pageCodec, limits := {} } }

def pageRequest : ActionRequest :=
  let request := { firstRequest with pageId := some ⟨1⟩ }
  { request with requestHash := canonicalActionHash pageCodec request }

def managesPage (state : LedgerState) : Bool :=
  (state.page ⟨1⟩ ⟨1⟩).any fun page => page.lifecycle == .managed

theorem lostEvent_tells (state : LedgerState) (ticket : authorizeTicket state sampleTicket = .ok ())
    (profile : authorizeProfileForMutation state ⟨1⟩ sampleTicket = .ok ()) :
    TellsLoss state lostEvent sampleTicket none ⟨1⟩ ⟨1⟩ :=
  ⟨rfl, rfl, rfl, rfl, rfl, ticket, profile⟩

/-- A page that nothing aims at goes with its target. -/
theorem target_loss_applies_bound : ∃ before after, managesPage before.ledger.state = true ∧
    step pageConfig sampleEnv (.bridgeEvent lostEvent sampleTicket 60) before = some (after, .ok ()) ∧
    PageGone pageCodec after.registry after.ledger.state ⟨1⟩ ⟨1⟩ := by
  obtain ⟨before, run, passed⟩ := advance_reaches (next pageConfig) (.fresh pageConfig) boundOnce
    (fun system => managesPage system.ledger.state && (authorizeTicket system.ledger.state sampleTicket).toBool &&
      (authorizeProfileForMutation system.ledger.state ⟨1⟩ sampleTicket).toBool &&
      (step pageConfig sampleEnv (.bridgeEvent lostEvent sampleTicket 60) system).any fun reply => reply.2.toBool)
    (by decide)
  simp only [Bool.and_eq_true, Option.any_eq_true, toBool_ok] at passed
  obtain ⟨⟨⟨manages, ticket⟩, profile⟩, ⟨after, result⟩, taken, rfl⟩ := passed
  have tells := lostEvent_tells _ ticket profile
  refine ⟨before, after, manages, taken, ?_⟩
  simp only [managesPage, Option.any_eq_true, beq_iff_eq] at manages
  obtain ⟨page, found, managed⟩ := manages
  have open_ : page.lifecycle ≠ .closed := by simp [managed]
  have running : page.lifecycle ≠ .closing := by simp [managed]
  obtain ⟨losable, _⟩ := target_loss_losable ⟨rfl, rfl⟩ run rfl tells found open_ running taken
  exact ((target_loss_applies_iff ⟨rfl, rfl⟩ run rfl tells found open_ running taken).mpr losable).2

/-- One queued navigation of the page, and the broker goes on believing in its target. -/
theorem queued_mutation_keeps_lost_target :
    ∃ trace before after result, HostRun pageConfig (.fresh pageConfig) trace before ∧
      TellsLoss before.ledger.state lostEvent sampleTicket none ⟨1⟩ ⟨1⟩ ∧ managesPage before.ledger.state = true ∧
      step pageConfig sampleEnv (.bridgeEvent lostEvent sampleTicket 60) before = some (after, result) ∧
      result ≠ .ok () ∧ managesPage after.ledger.state = true := by
  obtain ⟨before, run, passed⟩ := advance_reaches (next pageConfig) (.fresh pageConfig)
    (boundOnce ++ [(sampleEnv, .enqueueAction pageRequest sampleTicket 20 none)])
    (fun system => managesPage system.ledger.state && (authorizeTicket system.ledger.state sampleTicket).toBool &&
      (authorizeProfileForMutation system.ledger.state ⟨1⟩ sampleTicket).toBool &&
      (step pageConfig sampleEnv (.bridgeEvent lostEvent sampleTicket 60) system).any fun reply =>
        !reply.2.toBool && managesPage reply.1.ledger.state) (by decide +kernel)
  simp only [Bool.and_eq_true, Option.any_eq_true, toBool_ok, Bool.not_eq_true'] at passed
  obtain ⟨⟨⟨manages, ticket⟩, profile⟩, ⟨after, result⟩, taken, refused, still⟩ := passed
  refine ⟨_, before, after, result, run, lostEvent_tells _ ticket profile, manages, taken, ?_, still⟩
  rintro rfl
  cases refused

end Runs

end AgentycHost
