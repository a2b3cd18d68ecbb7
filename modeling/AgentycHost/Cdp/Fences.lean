import AgentycHost.Cdp.Outcomes

set_option autoImplicit false

/-!
# Calls after a fence

An acknowledged fence moves every page record of the space to the new epoch, and
a call that works on a record presents the record's epoch. A creation works on
no record, so nothing compares its epoch with the fence.
-/

namespace AgentycHost

open Shared

abbrev BridgeLabel := CdpOutside × BridgeCall

abbrev BridgeRun (config : CdpConfig) : CdpBridgeState -> List (Moment CdpBridgeState BridgeLabel) -> CdpBridgeState -> Prop :=
  Run fun label before after => (serve config label.1 label.2 before).bridge = after

def BridgeCall.authority : BridgeCall -> Option (SpaceId × LeaseEpoch)
  | .dispatch request => some (request.spaceId, request.leaseEpoch)
  | .snapshot spaceId _ leaseEpoch | .closePage spaceId _ leaseEpoch => some (spaceId, leaseEpoch)
  | .createPage request => some (request.spaceId, request.leaseEpoch)
  | .observe | .fence .. => none

def Served.Silent (served : Served) : Prop := served.sent = [] ∧ served.tabs = []

def FencedTo (spaceId : SpaceId) (fenceEpoch : LeaseEpoch) (pages : Table PageKey ManagedPage) : Prop :=
  ∀ pageId page, pages.get? (spaceId, pageId) = some page -> fenceEpoch ≤ page.leaseEpoch

/-- A call that respects the fence: no creation of the space with an older epoch passes the bridge's checks,
and no fence moves the space back. -/
def RespectsFence (spaceId : SpaceId) (fenceEpoch : LeaseEpoch) (call : BridgeCall)
    (pages : Table PageKey ManagedPage) : Prop :=
  match call with
  | .createPage request =>
      request.spaceId = spaceId -> request.leaseEpoch < fenceEpoch -> admitCreation pages request ≠ .ok ()
  | .fence fenced _ newEpoch => fenced = spaceId -> fenceEpoch ≤ newEpoch
  | _ => True

section Stale

variable {talk : Talk} {spaceId : SpaceId} {pageId : PageId} {leaseEpoch : LeaseEpoch}

theorem heldPage_refuses
    (stale : ∀ page, talk.pages.get? (spaceId, pageId) = some page -> page.leaseEpoch ≠ leaseEpoch) :
    Attempt.Refuses (heldPage (spaceId, pageId) leaseEpoch) talk := by
  generalize ran : heldPage (spaceId, pageId) leaseEpoch talk = reply
  obtain ⟨error | page, later⟩ := reply
  · obtain rfl := heldPage_error ran
    exact ⟨error, ran⟩
  · obtain ⟨held, current, _⟩ := heldPage_ok.mp ran
    exact absurd current (stale page held)

variable (stale : ∀ pageId page, talk.pages.get? (spaceId, pageId) = some page -> page.leaseEpoch ≠ leaseEpoch)

include stale

theorem closeHeldPage_refuses : Attempt.Refuses (closeHeldPage spaceId pageId leaseEpoch) talk :=
  .bind (heldPage_refuses (stale pageId))

theorem captureSnapshotOf_refuses (config : CdpConfig) :
    Attempt.Refuses (captureSnapshotOf config spaceId pageId leaseEpoch) talk :=
  .bind (heldPage_refuses (stale pageId))

omit stale in
theorem performAction_refuses (config : CdpConfig) {request : ActionRequest}
    (stale : ∀ pageId page, talk.pages.get? (request.spaceId, pageId) = some page ->
      page.leaseEpoch ≠ request.leaseEpoch) : Attempt.Refuses (performAction config request) talk := by
  have navigation : Attempt.Refuses (navigatePage request) talk :=
    .lift_bind fun pageId _ => .lift_bind fun _ _ => .lift_bind fun _ _ => .bind (heldPage_refuses (stale pageId))
  have element : Attempt.Refuses (dispatchElementAction config request) talk :=
    .bind (.lift_bind fun pageId _ => .lift_bind fun _ _ => .lift_bind fun _ _ =>
      .bind (heldPage_refuses (stale pageId)))
  unfold performAction
  split
  · exact navigation
  · exact element
  · exact element
  · exact .lift_bind fun pageId _ => closeHeldPage_refuses stale
  · exact .fail _

end Stale

section Runs

variable {config : CdpConfig} {bridge before last : CdpBridgeState} {trace : List (Moment CdpBridgeState BridgeLabel)}
  {spaceId : SpaceId} {fenceEpoch : LeaseEpoch} {new newEpoch : LeaseEpoch} {old oldEpoch : Option LeaseEpoch}
  {pages : Table PageKey ManagedPage} {call : BridgeCall} {outside : CdpOutside}

theorem perform_silent {A : Type} {turns : List WireTurn} {attempt : Cdp A} {reply : Except CoreError A -> BridgeReply}
    (refused : attempt.Refuses (bridge.talk turns)) : (bridge.perform turns attempt reply).Silent := by
  obtain ⟨error, failed⟩ := refused
  simp only [CdpBridgeState.perform, failed]
  exact ⟨rfl, rfl⟩

def AtEpoch (pages : Table PageKey ManagedPage) (spaceId : SpaceId) (epoch : LeaseEpoch) : Prop :=
  ∀ pageId page, pages.get? (spaceId, pageId) = some page -> page.leaseEpoch = epoch

theorem fence_acknowledged {spaceId : SpaceId} :
    (fence spaceId old new pages).1 = true <->
      ∀ pageId page, pages.get? (spaceId, pageId) = some page -> fenceRefuses old page = false := by
  have refused : (fence spaceId old new pages).1 = !pages.any fun key page => key.1 == spaceId && fenceRefuses old page := by
    unfold fence
    split_ifs with refuses
    · simp [refuses]
    · simpa using refuses
  rw [refused, Bool.not_eq_true', Table.any_eq_false]
  constructor
  · intro passes pageId page held
    simpa using passes (spaceId, pageId) page held
  · rintro passes ⟨other, pageId⟩ page held
    by_cases same : other = spaceId
    · simpa [same] using passes pageId page (same ▸ held)
    · simp [same]

theorem fence_atEpoch (acknowledged : (fence spaceId old new pages).1 = true) :
    AtEpoch (fence spaceId old new pages).2 spaceId new := by
  intro pageId page held
  unfold fence at acknowledged held
  split at acknowledged
  · cases acknowledged
  next kept =>
    rw [if_neg kept, Table.get?_mapValues] at held
    obtain ⟨_, _, rfl⟩ := Option.map_eq_some_iff.mp held
    simp

theorem fence_record {fenced : SpaceId} {key : PageKey} {page : ManagedPage}
    (held : (fence fenced oldEpoch newEpoch pages).2.get? key = some page) :
    ∃ old, pages.get? key = some old ∧ (old = page ∨ key.1 = fenced ∧ { old with leaseEpoch := newEpoch } = page) := by
  unfold fence at held
  split at held
  · exact ⟨page, held, .inl rfl⟩
  · rw [Table.get?_mapValues] at held
    obtain ⟨old, found, changed⟩ := Option.map_eq_some_iff.mp held
    refine ⟨old, found, ?_⟩
    split at changed
    next about => exact .inr ⟨about, changed⟩
    next => exact .inl changed

theorem serve_silent {leaseEpoch : LeaseEpoch} (fenced : FencedTo spaceId fenceEpoch bridge.pages)
    (respects : RespectsFence spaceId fenceEpoch call bridge.pages)
    (acts : call.authority = some (spaceId, leaseEpoch)) (older : leaseEpoch < fenceEpoch) :
    (serve config outside call bridge).Silent := by
  have stale : ∀ pageId page, (bridge.talk outside.turns).pages.get? (spaceId, pageId) = some page ->
      page.leaseEpoch ≠ leaseEpoch := by
    intro pageId page held
    exact Nat.ne_of_gt (Nat.lt_of_lt_of_le older (fenced pageId page held))
  cases call with
  | dispatch request =>
    cases acts
    obtain ⟨error, failed⟩ := performAction_refuses config stale
    simp only [serve, CdpBridgeState.perform, dispatchAttempt, Attempt.afterwards, failed, Served.Silent,
      Talk.sent_invalidated, Talk.tabs_invalidated]
    exact ⟨rfl, rfl⟩
  | snapshot =>
    cases acts
    exact perform_silent (captureSnapshotOf_refuses stale config)
  | closePage =>
    cases acts
    exact perform_silent (closeHeldPage_refuses stale)
  | createPage request =>
    cases acts
    refine perform_silent (.lift_bind fun _ admitted => ?_)
    exact absurd admitted (respects rfl older)
  | observe => cases acts
  | fence => cases acts

theorem FencedTo.step (fenced : FencedTo spaceId fenceEpoch bridge.pages)
    (respects : RespectsFence spaceId fenceEpoch call bridge.pages) :
    FencedTo spaceId fenceEpoch (serve config outside call bridge).bridge.pages := by
  intro pageId page held
  cases serve_pages config outside call bridge with
  | same pages => exact fenced pageId page (pages ▸ held)
  | cleared _ _ pages =>
    rw [pages] at held
    cases held
  | @changed key _ change _ authority pages =>
    rw [pages, Table.get?_modify] at held
    split at held
    next same =>
      obtain ⟨old, found, rfl⟩ := Option.map_eq_some_iff.mp held
      rw [(authority old).leaseEpoch]
      exact fenced pageId old (same ▸ found)
    next => exact fenced pageId page held
  | closed _ _ pages =>
    rw [pages, Table.get?_erase] at held
    split at held
    next => cases held
    next => exact fenced pageId page held
  | @created request targetId sessionId made_by admitted pages =>
    subst made_by
    rw [pages, Table.get?_insert] at held
    split at held
    next same =>
      -- the creation passed, so its epoch is not an older one
      cases held
      refine Nat.not_lt.mp fun older => respects ?_ older admitted
      exact (congrArg Prod.fst same).symm
    next => exact fenced pageId page held
  | @fenced fencedSpace oldEpoch newEpoch made_by pages =>
    subst made_by
    rw [pages] at held
    obtain ⟨old, found, same | ⟨about, rfl⟩⟩ := fence_record held
    · exact same ▸ fenced pageId old found
    · exact respects about.symm

theorem fence_fenced (acknowledged : (fence spaceId oldEpoch newEpoch pages).1 = true) :
    FencedTo spaceId newEpoch (fence spaceId oldEpoch newEpoch pages).2 := by
  intro pageId page held
  unfold fence at acknowledged held
  split at acknowledged
  · cases acknowledged
  next kept =>
    rw [if_neg kept, Table.get?_mapValues] at held
    obtain ⟨old, _, rfl⟩ := Option.map_eq_some_iff.mp held
    simp

end Runs

/-- After an acknowledged fence, calls with an older epoch do nothing, along every run that respects it. -/
theorem fence_is_final {config : CdpConfig} {before last : CdpBridgeState}
    {trace : List (Moment CdpBridgeState BridgeLabel)} {outside : CdpOutside} {spaceId : SpaceId}
    {oldEpoch : Option LeaseEpoch} {newEpoch : LeaseEpoch}
    (acknowledged : (serve config outside (.fence spaceId oldEpoch newEpoch) before).reply = .fenced true)
    (run : BridgeRun config (serve config outside (.fence spaceId oldEpoch newEpoch) before).bridge trace last)
    (respects : ∀ moment, moment ∈ trace ->
      RespectsFence spaceId newEpoch moment.label.2 moment.before.pages) :
    ∀ moment leaseEpoch, moment ∈ trace -> moment.label.2.authority = some (spaceId, leaseEpoch) ->
      leaseEpoch < newEpoch -> (serve config moment.label.1 moment.label.2 moment.before).Silent := by
  intro moment leaseEpoch inside acts older
  obtain ⟨earlier, later, early, _, rfl⟩ := run.at_moment inside
  have start : FencedTo spaceId newEpoch (serve config outside (.fence spaceId oldEpoch newEpoch) before).bridge.pages :=
    fence_fenced (BridgeReply.fenced.inj acknowledged)
  -- the records stay fenced up to the call
  have fenced : FencedTo spaceId newEpoch moment.before.pages := by
    refine early.keeps (fun bridge => FencedTo spaceId newEpoch bridge.pages) start ?_
    intro other known taken fenced
    rw [← taken]
    exact fenced.step (respects other (by simp [known]))
  exact serve_silent fenced (respects moment inside) acts older

section Sample

def deadLine : CdpOutside := { turns := [], tab := { answer := .ok (), polls := 0 } }

def fencedButton : CdpBridgeState := (serve sampleCdp deadLine (.fence ⟨1⟩ (some 1) 2) buttonBridge).bridge

theorem fence_is_final_for_old_close :
    (serve sampleCdp deadLine (.closePage ⟨1⟩ ⟨1⟩ 1) fencedButton).Silent := by
  have acknowledged : (serve sampleCdp deadLine (.fence ⟨1⟩ (some 1) 2) buttonBridge).reply = .fenced true := rfl
  have run : BridgeRun sampleCdp fencedButton [⟨fencedButton, (deadLine, .closePage ⟨1⟩ ⟨1⟩ 1), _⟩] _ := .step .nil rfl
  refine fence_is_final acknowledged run ?_ _ 1 (List.mem_singleton_self _) rfl (by decide)
  intro moment inside
  rw [List.mem_singleton.mp inside]
  trivial

def lateCreation : CreateRequest where
  spaceId := ⟨1⟩
  pageId := ⟨2⟩
  leaseEpoch := 1
  url := some "https://example.com/"
  title := none
  ownershipProof := creationProof ⟨1⟩ ⟨2⟩ 1 none none

theorem late_creation_asks_for_tab :
    ¬ ∀ (before last : CdpBridgeState) (trace : List (Moment CdpBridgeState BridgeLabel)) (outside : CdpOutside)
        (spaceId : SpaceId) (oldEpoch : Option LeaseEpoch) (newEpoch : LeaseEpoch),
      (serve sampleCdp outside (.fence spaceId oldEpoch newEpoch) before).reply = .fenced true ->
      BridgeRun sampleCdp (serve sampleCdp outside (.fence spaceId oldEpoch newEpoch) before).bridge trace last ->
      ∀ moment leaseEpoch, moment ∈ trace -> moment.label.2.authority = some (spaceId, leaseEpoch) ->
        leaseEpoch < newEpoch -> (serve sampleCdp moment.label.1 moment.label.2 moment.before).Silent := by
  intro final
  have run : BridgeRun sampleCdp fencedButton [⟨fencedButton, (deadLine, .createPage lateCreation), _⟩] _ :=
    .step .nil rfl
  have silent := final buttonBridge _ _ deadLine ⟨1⟩ (some 1) 2 rfl run _ 1 (List.mem_singleton_self _) rfl (by decide)
  have asked : (serve sampleCdp deadLine (.createPage lateCreation) fencedButton).tabs.length = 1 := by decide
  rw [silent.2] at asked
  cases asked

end Sample

end AgentycHost
