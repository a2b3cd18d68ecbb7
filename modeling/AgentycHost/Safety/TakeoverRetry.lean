import AgentycHost.Cdp.Deployment
import AgentycHost.Effects.Fences

set_option autoImplicit false

/-! # Takeovers over the bridge to Chrome -/

namespace AgentycHost

open Shared

variable {state : LedgerState} {authority : AuthorityTicket} {space : SpaceDescriptor} {spaceId : SpaceId}
  {now : Timestamp} {extension : Option ExtensionLink} {fence : FenceCall}

/-- The part of a takeover between its two commits: the fence, and the pages after it. -/
def crossBarrier (config : CdpConfig) (outside : CdpOutside) (extension : Option ExtensionLink) (fence : FenceCall)
    (state : LedgerState) (bridge : CdpBridgeState) : FenceAnswer × CdpBridgeState :=
  let { spaceId, oldEpoch, fenceEpoch, .. } := fence.request
  let served := serve config outside (.fence spaceId oldEpoch fenceEpoch) bridge
  match served.reply with
  | .fenced true => (rebindAnswer fence extension state, served.bridge)
  | _ => ({ acknowledged := false, error := none }, served.bridge)

/-- The space is with its agent again, and the pages that are bound in it are managed. -/
structure Reclaimed (spaceId : SpaceId) (state : LedgerState) : Prop where
  owned : ∃ space, state.spaces.get? spaceId = some space ∧ space.lifecycle = .agentOwned ∧
    ∀ page, page ∈ space.pages -> page.binding = .bound -> page.lifecycle = .managed
  pending : state.pendingFences.get? spaceId = none

/-- The last commit of a takeover reclaims the space, and all it can still fail at is its event and its write. -/
structure Completes (fence : FenceCall) (answer : FenceAnswer) (state : LedgerState) : Prop where
  acknowledged : answer.acknowledged = true
  finishes : ∃ reclaimed, Reclaimed fence.request.spaceId reclaimed ∧
    finishFence fence.request fence.authority answer.acknowledged answer.error state = (do
      let next <- spaceChanged reclaimed fence.request.spaceId "agent_owned" false
      pure (.agentOwned, next))

/-- A later state of a ledger in which the fence is still the same one, over the same pages. -/
structure StillPending (spaceId : SpaceId) (state later : LedgerState) : Prop where
  brokerEpoch : later.brokerEpoch = state.brokerEpoch
  pending : later.pendingFences.get? spaceId = state.pendingFences.get? spaceId
  pages : (later.spaces.get? spaceId).map (·.pages) = (state.spaces.get? spaceId).map (·.pages)

/-- The takeover completes, and where it was left pending a retry does. -/
structure TakeoverCompletes (config : CdpConfig) (extension : Option ExtensionLink) (fence : FenceCall)
    (state : LedgerState) (bridge : CdpBridgeState) : Prop where
  first : ∀ outside, Completes fence (crossBarrier config outside extension fence state bridge).1 state
  retry : ∀ outside again later retried authority renewal request left,
    StillPending fence.request.spaceId state later ->
    acknowledgeFence fence.request.spaceId authority fence.request.fenceEpoch renewal later =
      .ok ((request, false), retried) ->
    (∀ pageId, left.pages.get? (fence.request.spaceId, pageId) =
      (crossBarrier config outside extension fence state bridge).2.pages.get? (fence.request.spaceId, pageId)) ->
    let retry : FenceCall := { request, authority, purpose := .takeover, retried := true, afterwards := none }
    Completes retry (crossBarrier config again extension retry retried left).1 retried

section Claims

variable {before later : LedgerState} {request : FenceRequest} {expiresAt renewBy : Timestamp}

structure FenceClaimed (state : LedgerState) (request : FenceRequest) (authority : AuthorityTicket)
    (space : SpaceDescriptor) : Prop where
  ticket : authorizeTicket state authority = .ok ()
  pending : state.pendingFences.get? request.spaceId =
    some (pendingFence state request authority.principalId .takeover)
  located : state.spaces.get? request.spaceId = some space
  fenced : space.lifecycle = .fencePending
  owned : ownedFence authority space request.fenceEpoch = true
  holder : state.leaseHolders.get? request.spaceId = some authority.connectionEpoch

theorem FenceClaimed.events (claimed : FenceClaimed state request authority space) (same : SameButEvents state later) :
    FenceClaimed later request authority space := by
  obtain ⟨_, _, _, rfl⟩ := same
  exact ⟨claimed.ticket, claimed.pending, claimed.located, claimed.fenced, claimed.owned, claimed.holder⟩

theorem takeover_claimed (run : takeover spaceId authority now expiresAt renewBy before = .ok (request, state)) :
    ∃ space pages epoch, before.spaces.get? spaceId = some space ∧
      space.pages.mapM bumpPageGenerations = .ok pages ∧ request.spaceId = spaceId ∧
      request.oldEpoch = some epoch ∧ request.fenceEpoch = epoch + 1 ∧
      ∃ fenced, fenced.pages = pages ∧ FenceClaimed state request authority fenced := by
  simp only [takeover, bind_ok, pure_ok, require_ok, orElse_ok, findSpace_ok, checkedNext_eq_some, Prod.mk.injEq]
    at run
  obtain ⟨_, ticket, _, _, space, found, _, _, _, _, lease, _, _, _, _, _, _, ⟨_, rfl⟩, middle, started, last, changed,
    rfl, rfl⟩ := run
  obtain ⟨pages, actions, pending, rfl, bumped, _, same⟩ := startFence_ok started
  refine ⟨space, pages, lease.leaseEpoch, found, bumped, rfl, rfl, rfl, { space with
    owner := authority.principalId
    lease := some (.active authority.principalId (lease.leaseEpoch + 1) expiresAt renewBy)
    pages
    lifecycle := .fencePending }, rfl, ?_⟩
  refine FenceClaimed.events ?_ (same.trans (leaseChanged_same changed))
  exact ⟨ticket, Table.get?_insert_self _ _ _, Table.get?_insert_self _ _ _, rfl, by simp [ownedFence, Lease.active],
    Table.get?_insert_self _ _ _⟩

theorem acknowledgeFence_claimed {again : AuthorityTicket} {renewal : Option (Timestamp × Timestamp)}
    {retried : LedgerState} {found : FenceRequest} (claimed : FenceClaimed state request authority space)
    (still : StillPending request.spaceId state later)
    (run : acknowledgeFence request.spaceId again request.fenceEpoch renewal later = .ok ((found, false), retried)) :
    found = request ∧ ∃ fenced, fenced.pages = space.pages ∧ FenceClaimed retried request again fenced := by
  have pending := still.pending.trans claimed.pending
  have pages := still.pages
  simp only [acknowledgeFence, bind_ok, require_ok, orElse_ok, pending, Option.some.injEq, Bool.and_eq_true,
    Option.any_eq_true, beq_iff_eq] at run
  obtain ⟨_, ticket, _, rfl, _, ⟨⟨⟨_, principal⟩, fenced, located, waiting, owned⟩, holder⟩, _, _, rest⟩ := run
  rw [located, claimed.located, Option.map_some, Option.map_some, Option.some.injEq] at pages
  have recorded : later.pendingFences.get? request.spaceId =
      some (pendingFence later request again.principalId .takeover) := by
    rw [pending, ← principal]
    simp only [pendingFence, still.brokerEpoch]
  cases renewal with
  | none =>
    simp only [pure_ok, Prod.mk.injEq] at rest
    obtain ⟨⟨rfl, _⟩, rfl⟩ := rest
    exact ⟨rfl, fenced, pages, ticket, recorded, located, waiting, owned, holder⟩
  | some times =>
    simp only [bind_ok, pure_ok, Prod.mk.injEq] at rest
    obtain ⟨_, changed, ⟨rfl, _⟩, rfl⟩ := rest
    refine ⟨rfl, { fenced with lease := fenced.lease.map (renewedLease times.1 times.2) }, pages, ?_⟩
    have renewed : FenceClaimed (later.changeSpace request.spaceId fun space =>
        { space with lease := space.lease.map (renewedLease times.1 times.2) }) request again
        { fenced with lease := fenced.lease.map (renewedLease times.1 times.2) } := by
      refine ⟨ticket, recorded, ?_, waiting, ?_, holder⟩
      · simp [LedgerState.changeSpace, located]
      · obtain ⟨lease, leased, same⟩ := (Option.any_eq_true _ _).mp owned
        simpa [ownedFence, leased, renewedLease] using same
    exact renewed.events (leaseChanged_same changed)

theorem acknowledgeFence_again (claimed : FenceClaimed state request authority space) :
    acknowledgeFence request.spaceId authority request.fenceEpoch none state = .ok ((request, false), state) := by
  simp only [acknowledgeFence, bind_ok, require_ok, orElse_ok, pure_ok]
  refine ⟨(), claimed.ticket, _, claimed.pending, (), ?_, (), rfl, rfl⟩
  simp [claimed.located, claimed.fenced, claimed.owned, claimed.holder, pendingFence]

theorem finishFence_claimed (claimed : FenceClaimed state request authority space) {error : Option String} {epoch : LeaseEpoch}
    (recorded : request.oldEpoch = some epoch)
    (managed : ∀ page, page ∈ space.pages -> page.binding = .bound -> page.lifecycle = .managed) :
    ∃ reclaimed, Reclaimed request.spaceId reclaimed ∧
      finishFence request authority true error state = (do
        let next <- spaceChanged reclaimed request.spaceId "agent_owned" false
        pure (.agentOwned, next)) := by
  obtain ⟨pending, made⟩ : ∃ pending, pending = pendingFence state request authority.principalId .takeover := ⟨_, rfl⟩
  have waiting := claimed.pending
  rw [← made] at waiting
  have matching : (pending.purpose == .takeover && pending.requestToken == request.token &&
      pending.brokerEpoch == state.brokerEpoch && pending.fenceEpoch == request.fenceEpoch &&
      pending.principalId == authority.principalId) = true := by simp [made, pendingFence]
  have earlier : pending.oldEpoch = some epoch := by simp [made, pendingFence, recorded]
  have entitled : (ownedFence authority space request.fenceEpoch &&
      state.leaseHolders.get? request.spaceId == some authority.connectionEpoch) = true := by
    simp [claimed.owned, claimed.holder]
  unfold finishFence
  dsimp only
  rw [bind_of_ok claimed.ticket, bind_of_ok (orElse_ok.mpr waiting), bind_of_ok (require_ok.mpr matching : _ = Except.ok ()),
    bind_of_ok (findSpace_ok.mpr claimed.located), bind_of_ok (require_ok.mpr entitled : _ = Except.ok ()), if_pos rfl,
    bind_of_ok (orElse_ok.mpr earlier)]
  refine ⟨_, ⟨⟨reclaimedSpace space, ?_, rfl, ?_⟩, ?_⟩, rfl⟩
  · simp [LedgerState.changeSpace, claimed.located]
  · intro page inside bound
    obtain ⟨old, listed, rfl⟩ := List.mem_map.mp inside
    by_cases user : old.lifecycle = .userOwned
    · simp [reclaimedPage, user]
    · have kept : (reclaimedPage old).binding = old.binding ∧ (reclaimedPage old).lifecycle = old.lifecycle := by
        unfold reclaimedPage
        rw [if_neg user]
        dsimp only
        split_ifs <;> exact ⟨rfl, rfl⟩
      rw [kept.2]
      exact managed old listed (kept.1 ▸ bound)
  · simp [Table.get?_erase]

theorem rebindAnswer_acknowledged {fence : FenceCall} (claimed : FenceClaimed state fence.request fence.authority space)
    (extension : Option ExtensionLink) :
    (rebindAnswer fence extension state).acknowledged = true <->
      extension = none ∨ space.pages.any needsRebinding = false := by
  have passes : (rebindAnswer fence extension state).acknowledged = true <->
      rebindPagesAfterFence fence.request.spaceId fence.authority extension state = .ok () := by
    unfold rebindAnswer
    split
    next passed => simp [passed]
    next failed => simp [failed]
  rw [passes]
  unfold rebindPagesAfterFence
  rw [bind_of_ok claimed.ticket, bind_of_ok (findSpace_ok.mpr claimed.located)]
  cases extension with
  | none => simp
  | some link =>
    cases needed : space.pages.any needsRebinding with
    | false => simp
    | true => simp [bind_ok]

end Claims

section Barrier

variable {config : CdpConfig} {outside : CdpOutside} {bridge : CdpBridgeState} {old new : LeaseEpoch}
  {pages : Table PageKey ManagedPage}

/-- No record of the space is in the bridge. -/
def HoldsNone (pages : Table PageKey ManagedPage) (spaceId : SpaceId) : Prop :=
  ∀ pageId, pages.get? (spaceId, pageId) = none

theorem crossBarrier_acknowledged :
    (crossBarrier config outside extension fence state bridge).1.acknowledged = true <->
      (AgentycHost.fence fence.request.spaceId fence.request.oldEpoch fence.request.fenceEpoch bridge.pages).1 = true ∧
        (rebindAnswer fence extension state).acknowledged = true := by
  unfold crossBarrier
  simp only [serve, CdpBridgeState.silent]
  generalize AgentycHost.fence fence.request.spaceId fence.request.oldEpoch fence.request.fenceEpoch bridge.pages = fenced
  obtain ⟨acknowledged, pages⟩ := fenced
  cases acknowledged <;> simp

theorem crossBarrier_pages :
    (crossBarrier config outside extension fence state bridge).2.pages =
      (AgentycHost.fence fence.request.spaceId fence.request.oldEpoch fence.request.fenceEpoch bridge.pages).2 := by
  unfold crossBarrier
  simp only [serve, CdpBridgeState.silent]
  generalize AgentycHost.fence fence.request.spaceId fence.request.oldEpoch fence.request.fenceEpoch bridge.pages = fenced
  obtain ⟨acknowledged, pages⟩ := fenced
  cases acknowledged <;> rfl

theorem fence_none {old : Option LeaseEpoch} (free : HoldsNone pages spaceId) :
    (AgentycHost.fence spaceId old new pages).1 = true ∧ HoldsNone (AgentycHost.fence spaceId old new pages).2 spaceId := by
  refine ⟨fence_acknowledged.mpr fun pageId page held => ?_, fun pageId => ?_⟩
  · rw [free pageId] at held
    cases held
  · cases held : (AgentycHost.fence spaceId old new pages).2.get? (spaceId, pageId) with
    | none => rfl
    | some page =>
      obtain ⟨_, present, _⟩ := fence_record held
      rw [free pageId] at present
      cases present

theorem fence_again {left : Table PageKey ManagedPage} (later : old ≠ new)
    (acknowledged : (AgentycHost.fence spaceId (some old) new pages).1 = true)
    (same : ∀ pageId, left.get? (spaceId, pageId) =
      (AgentycHost.fence spaceId (some old) new pages).2.get? (spaceId, pageId))
    (again : (AgentycHost.fence spaceId (some old) new left).1 = true) : HoldsNone pages spaceId := by
  intro pageId
  cases held : pages.get? (spaceId, pageId) with
  | none => rfl
  | some page =>
    have moved : (AgentycHost.fence spaceId (some old) new pages).2.get? (spaceId, pageId) =
        some { page with leaseEpoch := new } := by
      unfold AgentycHost.fence at acknowledged ⊢
      split_ifs at acknowledged ⊢ with refuses
      rw [Table.get?_mapValues, held]
      simp
    -- the bridge sees the page at the new epoch and refuses
    have passes := fence_acknowledged.mp again pageId _ ((same pageId).trans moved)
    simp only [fenceRefuses, Option.any_some, bne_eq_false_iff_eq] at passes
    exact absurd passes later

end Barrier

section Takeovers

variable {config : DeployConfig} {env : Environment} {before : Deployment} {host : System} {call ttl : Nat}
  {afterwards : Option Suspension}

theorem takeover_started
    (started : step config.host env (.takeover call spaceId authority now ttl afterwards) before.host =
      some (host, .ok ())) (call_at : host.calls.get? call = some (.fence fence)) :
    ∃ old pages epoch, before.host.ledger.state.spaces.get? spaceId = some old ∧
      old.pages.mapM bumpPageGenerations = .ok pages ∧ fence.request.spaceId = spaceId ∧
      fence.request.oldEpoch = some epoch ∧ fence.request.fenceEpoch = epoch + 1 ∧ fence.authority = authority ∧
      ∃ fenced, fenced.pages = pages ∧ FenceClaimed host.ledger.state fence.request fence.authority fenced := by
  simp only [step, leaseStep] at started
  split_ifs at started with present
  have absent : before.host.calls.get? call ≠ some (.fence fence) := by
    intro there
    simp [Table.contains, there] at present
  obtain same | ⟨_, _, ended⟩ := withLeaseTimes_cases (replied started)
  · exact absurd (same ▸ call_at) absent
  · obtain earlier | ⟨request, done, made, ledger⟩ := started_call ended call_at rfl
    · exact absurd earlier absent
    · cases made
      obtain ⟨state, run, drained⟩ := commit_ok (Prod.ext rfl done)
      obtain ⟨old, pages, epoch, found, bumped, about, recorded, next, fenced, same, claimed⟩ := takeover_claimed run
      refine ⟨old, pages, epoch, found, bumped, about, recorded, next, rfl, fenced, same, ?_⟩
      rw [ledger, drained]
      exact claimed.events (drainEvents_same _ _)

theorem completes_holdsNone {cdp : CdpConfig} {state : LedgerState} {bridge : CdpBridgeState} {epoch : LeaseEpoch}
    (claimed : FenceClaimed state fence.request fence.authority space) (recorded : fence.request.oldEpoch = some epoch)
    (next : fence.request.fenceEpoch = epoch + 1)
    (completes : TakeoverCompletes cdp extension fence state bridge) : HoldsNone bridge.pages fence.request.spaceId := by
  have first := (completes.first deadLine).acknowledged
  obtain ⟨acknowledged, _⟩ := crossBarrier_acknowledged.mp first
  -- the last commit was refused, so the retry finds the state the fence was started in
  have retry := completes.retry deadLine deadLine state state fence.authority none fence.request
    (crossBarrier cdp deadLine extension fence state bridge).2 ⟨rfl, rfl, rfl⟩ (acknowledgeFence_again claimed) fun _ => rfl
  obtain ⟨again, _⟩ := crossBarrier_acknowledged.mp retry.acknowledged
  simp only [recorded, next] at acknowledged again
  refine fence_again (Nat.ne_of_lt (Nat.lt_succ_self epoch)) acknowledged (fun pageId => ?_) again
  rw [crossBarrier_pages, recorded, next]

/-- A takeover over the bridge to Chrome completes, and completes when it is retried, if and only if the bridge
holds no page of the space and no page has to be rebound through an extension. -/
theorem takeover_completes_iff (found : before.host.ledger.state.spaces.get? spaceId = some space)
    (held : ∀ page, page ∈ space.pages -> page.binding = .bound -> ∃ record,
      before.bridge.pages.get? (spaceId, page.pageId) = some record ∧ record.leaseEpoch = space.epoch)
    (started : step config.host env (.takeover call spaceId authority now ttl afterwards) before.host =
      some (host, .ok ()))
    (call_at : host.calls.get? call = some (.fence fence)) :
    TakeoverCompletes config.cdp extension fence host.ledger.state before.bridge <->
      HoldsNone before.bridge.pages spaceId ∧ (extension = none ∨ space.pages.any needsRebinding = false) := by
  obtain ⟨old, pages, epoch, located, bumped, rfl, recorded, next, rfl, fenced, rfl, claimed⟩ :=
    takeover_started started call_at
  obtain rfl : old = space := Option.some.inj (located.symm.trans found)
  have needed : fenced.pages.any needsRebinding = old.pages.any needsRebinding := by
    rw [bumpPages_map bumped, List.any_map]
    rfl
  constructor
  · intro completes
    obtain ⟨_, rebound⟩ := crossBarrier_acknowledged.mp (completes.first deadLine).acknowledged
    exact ⟨completes_holdsNone claimed recorded next completes,
      needed ▸ (rebindAnswer_acknowledged claimed extension).mp rebound⟩
  · rintro ⟨free, settled⟩
    have bound : ∀ page, page ∈ old.pages -> page.binding ≠ .bound := by
      intro page inside bound
      obtain ⟨_, present, _⟩ := held page inside bound
      rw [free] at present
      cases present
    have managed : ∀ page, page ∈ fenced.pages -> page.binding = .bound -> page.lifecycle = .managed := by
      rw [bumpPages_map bumped]
      intro page inside same
      obtain ⟨first, listed, rfl⟩ := List.mem_map.mp inside
      exact absurd same (bound first listed)
    refine ⟨fun outside => ?_, fun outside again later retried authority renewal request left still run same => ?_⟩
    · have passes : (crossBarrier config.cdp outside extension fence host.ledger.state before.bridge).1.acknowledged =
          true := crossBarrier_acknowledged.mpr ⟨(fence_none free).1, (rebindAnswer_acknowledged claimed extension).mpr
            (needed ▸ settled)⟩
      refine ⟨passes, ?_⟩
      rw [passes]
      exact finishFence_claimed claimed recorded managed
    · obtain ⟨rfl, retaken, pages, taken⟩ := acknowledgeFence_claimed claimed still run
      have freeLeft : HoldsNone left.pages fence.request.spaceId := by
        intro pageId
        rw [same pageId, crossBarrier_pages]
        exact (fence_none free).2 pageId
      intro retry
      have rebound : (rebindAnswer retry extension retried).acknowledged = true :=
        (rebindAnswer_acknowledged taken extension).mpr (pages ▸ needed ▸ settled)
      have passes : (crossBarrier config.cdp again extension retry retried left).1.acknowledged = true :=
        crossBarrier_acknowledged.mpr ⟨(fence_none freeLeft).1, rebound⟩
      refine ⟨passes, ?_⟩
      rw [passes]
      exact finishFence_claimed taken recorded (pages ▸ managed)

end Takeovers

section Sample

variable {deployment : Deployment}

def sampleTakeover : Command := .takeover 9 ⟨1⟩ sampleTicket 30 1000 none

def holdsBound (deployment : Deployment) (spaceId : SpaceId) : Bool :=
  (deployment.host.ledger.state.spaces.get? spaceId).any fun space => space.pages.all fun page =>
    page.binding != .bound ||
      (deployment.bridge.pages.get? (spaceId, page.pageId)).any fun record => record.leaseEpoch == space.epoch

def takesOver (deployment : Deployment) : Bool :=
  (step sampleDeploy.host sampleEnv sampleTakeover deployment.host).any fun reply => reply.2 == .ok () &&
    (reply.1.calls.get? 9).any fun
      | .fence _ => true
      | _ => false

theorem takesOver_cases (taken : takesOver deployment = true) :
    ∃ host fence, step sampleDeploy.host sampleEnv sampleTakeover deployment.host = some (host, .ok ()) ∧
      host.calls.get? 9 = some (.fence fence) := by
  obtain ⟨⟨host, result⟩, stepped, passed⟩ := (Option.any_eq_true _ _).mp taken
  obtain ⟨done, waiting⟩ := Bool.and_eq_true_iff.mp passed
  obtain rfl := beq_iff_eq.mp done
  obtain ⟨found, call_at, fencing⟩ := (Option.any_eq_true _ _).mp waiting
  split at fencing
  next fence => exact ⟨host, fence, stepped, call_at⟩
  next => cases fencing

theorem holdsBound_cases {spaceId : SpaceId} (held : holdsBound deployment spaceId = true) :
    ∃ space, deployment.host.ledger.state.spaces.get? spaceId = some space ∧
      ∀ page, page ∈ space.pages -> page.binding = .bound -> ∃ record,
        deployment.bridge.pages.get? (spaceId, page.pageId) = some record ∧ record.leaseEpoch = space.epoch := by
  obtain ⟨space, found, every⟩ := (Option.any_eq_true _ _).mp held
  refine ⟨space, found, fun page inside bound => ?_⟩
  have one := List.all_eq_true.mp every page inside
  simpa [bound, Option.any_eq_true] using one

/-- Before the space has a page, its takeover completes. -/
theorem takeover_completes_once : ∃ trace before host fence,
    DeployRun sampleDeploy (.fresh sampleDeploy) trace before ∧
      step sampleDeploy.host sampleEnv sampleTakeover before.host = some (host, .ok ()) ∧
      TakeoverCompletes sampleDeploy.cdp none fence host.ledger.state before.bridge := by
  obtain ⟨before, run, passed⟩ := advance_reaches (Deployment.next sampleDeploy) (.fresh sampleDeploy)
    (sampleStart.map fun label => .host label.1 label.2)
    (fun before => holdsBound before ⟨1⟩ && takesOver before && before.bridge.pages.entries.isEmpty) (by decide)
  simp only [Bool.and_eq_true, List.isEmpty_iff] at passed
  obtain ⟨⟨held, taken⟩, empty⟩ := passed
  obtain ⟨space, found, held⟩ := holdsBound_cases held
  obtain ⟨host, fence, stepped, call_at⟩ := takesOver_cases taken
  have free : HoldsNone before.bridge.pages ⟨1⟩ := fun pageId => by simp [Table.get?, empty, Table.find]
  exact ⟨_, before, host, fence, run, stepped, (takeover_completes_iff found held stepped call_at).mpr ⟨free, .inl rfl⟩⟩

/-- With a managed page in the bridge, a takeover that was left pending is never acknowledged again. -/
theorem takeover_retry_refused : ∃ trace before space host fence,
    DeployRun sampleDeploy (.fresh sampleDeploy) trace before ∧ before.bridge.client.usable = true ∧
      before.host.ledger.state.spaces.get? ⟨1⟩ = some space ∧
      (∀ page, page ∈ space.pages -> page.binding = .bound -> ∃ record,
        before.bridge.pages.get? (⟨1⟩, page.pageId) = some record ∧ record.leaseEpoch = space.epoch) ∧
      step sampleDeploy.host sampleEnv sampleTakeover before.host = some (host, .ok ()) ∧
      host.calls.get? 9 = some (.fence fence) ∧
      ¬ TakeoverCompletes sampleDeploy.cdp none fence host.ledger.state before.bridge := by
  obtain ⟨before, run, passed⟩ := advance_reaches (Deployment.next sampleDeploy) (.fresh sampleDeploy) managedOnce
    (fun before => before.bridge.client.usable && holdsBound before ⟨1⟩ && takesOver before &&
      before.bridge.pages.contains (⟨1⟩, ⟨1⟩)) (by decide)
  simp only [Bool.and_eq_true] at passed
  obtain ⟨⟨⟨usable, held⟩, taken⟩, there⟩ := passed
  obtain ⟨space, found, held⟩ := holdsBound_cases held
  obtain ⟨host, fence, stepped, call_at⟩ := takesOver_cases taken
  refine ⟨_, before, space, host, fence, run, usable, found, held, stepped, call_at, fun completes => ?_⟩
  obtain ⟨_, _, epoch, _, _, about, recorded, next, _, _, _, claimed⟩ := takeover_started stepped call_at
  have free := completes_holdsNone claimed recorded next completes
  rw [about] at free
  simp [Table.contains, free ⟨1⟩] at there

end Sample

end AgentycHost
