import AgentycHost.Cdp.Bridge

set_option autoImplicit false

/-!
# What a call of the bridge leaves
-/

namespace AgentycHost

variable {talk later : Talk} {targetId : String} {holds : Talk -> Prop}

open Shared

section Reading

theorem heldPage_keeps (key : PageKey) (leaseEpoch : LeaseEpoch) : Attempt.Keeps holds (heldPage key leaseEpoch) :=
  .bind .get fun _ => .bind (.lift _) fun _ => .bind (.lift _) fun _ => .pure _

-- what every reading command keeps is kept by the checks of an element action
variable (reads : ∀ {command : CdpCommand}, command.changesState = false ->
  Attempt.Keeps holds (sendCommand command))

include reads

theorem climbToNode_keeps (sessionId : String) (targetBackendNodeId targetNodeId : Int) (rounds : Nat) (node : Json) :
    Attempt.Keeps holds (climbToNode sessionId targetBackendNodeId targetNodeId rounds node) := by
  induction rounds generalizing node with
  | zero => exact .fail _
  | succ rounds ih =>
    unfold climbToNode
    split
    · exact .pure _
    · split
      · exact .pure _
      · split
        · exact .pure _
        · exact .bind (reads rfl) fun _ => .bind (.lift _) fun _ => ih _

theorem isNodeWithin_keeps (sessionId : String) (hit backend node : Int) :
    Attempt.Keeps holds (isNodeWithin sessionId hit backend node) := by
  unfold isNodeWithin
  split
  · exact .pure _
  · exact .bind (reads rfl) fun _ => .bind (.lift _) fun _ => climbToNode_keeps reads _ _ _ _ _

theorem locateElement_keeps (config : CdpConfig) (request : ActionRequest) :
    Attempt.Keeps holds (locateElement config request) :=
  .bind (.lift _) fun _ => .bind (.lift _) fun _ => .bind (.lift _) fun _ => .bind (heldPage_keeps _ _) fun _ =>
  .bind (.lift _) fun _ => .bind (.lift _) fun _ => .bind (.bind (reads rfl) fun _ => .pure _) fun _ =>
  .bind (reads rfl) fun _ => .bind (.lift _) fun _ => .bind (.lift _) fun _ => .pure _

theorem aimAtElement_keeps (config : CdpConfig) (element : LiveElement) :
    Attempt.Keeps holds (aimAtElement config element) :=
  .bind (.lift _) fun _ => .bind (.lift _) fun _ => .bind (reads rfl) fun _ => .bind (.lift _) fun _ =>
  .bind (reads rfl) fun _ => .bind (.lift _) fun _ => .bind (isNodeWithin_keeps reads _ _ _ _) fun _ =>
  .bind (.lift _) fun _ => .pure _

end Reading

section Sending

variable {A : Type}

-- what every command keeps, and an asked tab, is kept by the chains of a creation and of a close
variable (sends : ∀ command, Attempt.Keeps holds (sendCommand command))

include sends

theorem navigateSession_keeps (sessionId url : String) : Attempt.Keeps holds (navigateSession sessionId url) :=
  .bind (.lift _) fun _ => .bind (sends _) fun _ => .lift _

theorem closeTarget_keeps (targetId : String) : Attempt.Keeps holds (closeTarget targetId) := by
  refine .bind (sends _) fun result => ?_
  split
  · exact .pure _
  · exact .fail _
  · exact .fail _

theorem dispatchElementAction_keeps (config : CdpConfig) (request : ActionRequest) :
    Attempt.Keeps holds (dispatchElementAction config request) := by
  refine .bind (locateElement_keeps (fun _ => sends _) config request) fun element => ?_
  split
  · exact .bind (aimAtElement_keeps (fun _ => sends _) config element) fun _ =>
      .bind (.bind (sends _) fun _ => .pure _) fun _ => .bind (sends _) fun _ => .pure _
  · exact .bind (.lift _) fun _ =>
      .bind (.bind (sends _) fun _ => .pure _) fun _ => .bind (sends _) fun _ => .pure _
  · exact .fail _

theorem findTarget_keeps (url : String) (polls : Nat) : Attempt.Keeps holds (findTarget url polls) := by
  have poll : Attempt.Keeps holds (pollTargets url) :=
    .bind (.mapError _ (sends _)) fun _ => .bind (.lift _) fun _ => .lift _
  induction polls with
  | zero =>
    refine .bind poll fun found => ?_
    cases found with
    | none => exact .fail _
    | some _ => exact .pure _
  | succ polls ih =>
    refine .bind poll fun found => ?_
    cases found with
    | none => exact ih
    | some _ => exact .pure _

theorem setUpTarget_keeps (targetId : String) (url : Option String) : Attempt.Keeps holds (setUpTarget targetId url) :=
  .bind (.bind (.lift _) fun _ => .bind (sends _) fun _ => .lift _) fun _ =>
  .bind (.bind (sends _) fun _ => .pure _) fun _ =>
  .bind (.bind (sends _) fun _ => .pure _) fun _ =>
  .bind (navigateSession_keeps sends _ _) fun _ => .pure _

theorem cleanupFailedCreation_keeps (targetId : String) (error : CoreError) :
    Attempt.Keeps holds (cleanupFailedCreation targetId error : Cdp A) := by
  refine .bind (.recover (closeTarget_keeps sends _) fun failure => ?_) fun _ => .fail _
  split
  · exact .pure _
  · exact .fail _

variable (asks : ∀ talk tabs, holds talk -> holds { talk with tabs })

include asks

theorem createTabAndFindTarget_keeps (tab : TabCreation) (url : String) :
    Attempt.Keeps holds (createTabAndFindTarget tab url) :=
  .bind (.lift _) fun _ => .bind (fun talk held => asks talk _ held) fun _ => findTarget_keeps sends _ _

-- and a property that does not look at the records is kept by the whole call
variable (records : ∀ talk pages, holds talk -> holds { talk with pages })

include records

theorem createManaged_keeps (tab : TabCreation) (request : CreateRequest) :
    Attempt.Keeps holds (createManaged tab request) :=
  .bind .get fun _ => .bind (.lift _) fun _ => .bind (createTabAndFindTarget_keeps sends asks _ _) fun _ =>
  .bind (.recover (setUpTarget_keeps sends _ _) fun _ => cleanupFailedCreation_keeps sends _ _) fun _ =>
  .bind (fun talk held => records talk _ held) fun _ => .pure _

omit asks

theorem closeHeldPage_keeps (spaceId : SpaceId) (pageId : PageId) (leaseEpoch : LeaseEpoch) :
    Attempt.Keeps holds (closeHeldPage spaceId pageId leaseEpoch) :=
  .bind (heldPage_keeps _ _) fun _ => .bind (closeTarget_keeps sends _) fun _ talk held => records talk _ held

omit sends in
theorem changeHeld_keeps (key : PageKey) (change : ManagedPage -> ManagedPage) (missing : String) :
    Attempt.Keeps holds (changeHeld key change missing) :=
  .bind .get fun _ => .bind (.lift _) fun _ => fun talk held => records talk _ held

theorem navigatePage_keeps (request : ActionRequest) : Attempt.Keeps holds (navigatePage request) :=
  .bind (.lift _) fun _ => .bind (.lift _) fun _ => .bind (.lift _) fun _ => .bind (heldPage_keeps _ _) fun _ =>
  .bind (.lift _) fun _ => .bind (.lift _) fun _ => .bind (navigateSession_keeps sends _ _) fun _ =>
  changeHeld_keeps records _ _ _

theorem performAction_keeps (config : CdpConfig) (request : ActionRequest) :
    Attempt.Keeps holds (performAction config request) := by
  unfold performAction
  split
  · exact navigatePage_keeps sends records request
  · exact dispatchElementAction_keeps sends config request
  · exact dispatchElementAction_keeps sends config request
  · exact .bind (.lift _) fun _ => closeHeldPage_keeps sends records _ _ _
  · exact .fail _

omit sends in
theorem invalidatePages_keeps {attempt : Cdp A} (kept : Attempt.Keeps holds attempt) :
    Attempt.Keeps holds (attempt.afterwards Talk.invalidatePagesIfClientUnusable) := by
  intro talk held
  have later := kept talk held
  unfold Attempt.afterwards Talk.invalidatePagesIfClientUnusable
  dsimp only
  split
  · exact later
  · exact records _ _ later

theorem captureSnapshotOf_keeps (config : CdpConfig) (spaceId : SpaceId) (pageId : PageId) (leaseEpoch : LeaseEpoch) :
    Attempt.Keeps holds (captureSnapshotOf config spaceId pageId leaseEpoch) :=
  .bind (heldPage_keeps _ _) fun _ => .bind (.lift _) fun _ =>
  .bind (invalidatePages_keeps records (sends _)) fun _ => .bind (.lift _) fun _ => .bind (.lift _) fun _ =>
  .bind (.lift _) fun _ => .bind (changeHeld_keeps records _ _ _) fun _ => .pure _

end Sending

section Pages

variable {key : PageKey} {pages : Table PageKey ManagedPage} {page : ManagedPage}

theorem heldPage_ok {leaseEpoch : LeaseEpoch} :
    heldPage key leaseEpoch talk = (.ok page, later) <->
      talk.pages.get? key = some page ∧ page.leaseEpoch = leaseEpoch ∧ talk = later := by
  unfold heldPage
  rw [Attempt.get_bind]
  cases held : talk.pages.get? key with
  | none => simp [orElse]
  | some present =>
    by_cases current : present.leaseEpoch = leaseEpoch
    · simp only [orElse, Attempt.lift_ok_bind, require, current, beq_self_eq_true, if_true, Attempt.pure_apply,
        Prod.mk.injEq, Except.ok.injEq, Option.some.injEq]
      constructor
      · rintro ⟨rfl, rfl⟩
        exact ⟨rfl, current, rfl⟩
      · rintro ⟨rfl, _, rfl⟩
        exact ⟨rfl, rfl⟩
    · have stale : (present.leaseEpoch == leaseEpoch) = false := by simpa using current
      simp only [orElse, Attempt.lift_ok_bind, require, stale, Bool.false_eq_true, if_false, Attempt.lift_error_bind,
        Prod.mk.injEq, reduceCtorEq, false_and, Option.some.injEq, false_iff, not_and]
      rintro rfl same
      exact absurd same current

theorem changeHeld_held {change : ManagedPage -> ManagedPage} {missing : String}
    (held : talk.pages.get? key = some page) :
    changeHeld key change missing talk = (.ok (), { talk with pages := talk.pages.modify key change }) := by
  have present : talk.pages.contains key = true := by simp [Table.contains, held]
  simp [changeHeld, require, present]

theorem sendCommand_pages (command : CdpCommand) :
    Attempt.Keeps (fun talk => talk.pages = pages) (sendCommand command) := by
  intro talk same
  generalize ran : sendCommand command talk = reply
  obtain ⟨outcome, later⟩ := reply
  cases sendCommand_end ran <;> exact same

theorem navigateSession_pages (sessionId url : String) :
    Attempt.Keeps (fun talk => talk.pages = pages) (navigateSession sessionId url) :=
  navigateSession_keeps sendCommand_pages _ _

theorem closeTarget_pages (targetId : String) :
    Attempt.Keeps (fun talk => talk.pages = pages) (closeTarget targetId) :=
  closeTarget_keeps sendCommand_pages _

theorem dispatchElementAction_pages (config : CdpConfig) (request : ActionRequest) :
    Attempt.Keeps (fun talk => talk.pages = pages) (dispatchElementAction config request) :=
  dispatchElementAction_keeps sendCommand_pages _ _

theorem createTabAndFindTarget_pages (tab : TabCreation) (url : String) :
    Attempt.Keeps (fun talk => talk.pages = pages) (createTabAndFindTarget tab url) :=
  createTabAndFindTarget_keeps sendCommand_pages (fun _ _ same => same) _ _

theorem setUpTarget_pages (targetId : String) (url : Option String) :
    Attempt.Keeps (fun talk => talk.pages = pages) (setUpTarget targetId url) :=
  setUpTarget_keeps sendCommand_pages _ _

theorem cleanupFailedCreation_pages {A : Type} (targetId : String) (error : CoreError) :
    Attempt.Keeps (fun talk => talk.pages = pages) (cleanupFailedCreation targetId error : Cdp A) :=
  cleanupFailedCreation_keeps sendCommand_pages _ _

end Pages

structure ManagedPage.Positive (page : ManagedPage) : Prop where
  target : 0 < page.targetGeneration
  navigation : 0 < page.navigationGeneration
  document : 0 < page.documentGeneration

structure SameAuthority (before after : ManagedPage) : Prop where
  targetId : after.targetId = before.targetId
  leaseEpoch : after.leaseEpoch = before.leaseEpoch
  positive : before.Positive -> after.Positive

def ProvesClosed (sent : List SentCommand) (targetId : String) : Prop :=
  ∃ result, { command := .closeTarget targetId, fate := .answered result } ∈ sent ∧
    result.boolAt "success" = some true

theorem sendCommand_logs {command : CdpCommand} {result : Json}
    (answered : sendCommand command talk = (.ok result, later)) :
    { command, fate := .answered result } ∈ later.sent := by
  cases sendCommand_end answered with
  | answered _ fate =>
    rw [← fate]
    exact List.mem_append_right _ (List.mem_singleton_self _)

theorem closeTarget_answered (passed : closeTarget targetId talk = (.ok (), later)) :
    ∃ result, sendCommand (.closeTarget targetId) talk = (.ok result, later) ∧ result.boolAt "success" = some true := by
  obtain ⟨result, middle, answered, rest⟩ := Attempt.bind_passed passed
  cases said : result.boolAt "success" with
  | none =>
    simp only [said] at rest
    cases rest
  | some done =>
    cases done with
    | false =>
      simp only [said] at rest
      cases rest
    | true =>
      simp only [said] at rest
      cases rest
      exact ⟨result, answered, said⟩

theorem closeTarget_ok (passed : closeTarget targetId talk = (.ok (), later)) :
    ProvesClosed later.sent targetId := by
  obtain ⟨result, answered, success⟩ := closeTarget_answered passed
  exact ⟨result, sendCommand_logs answered, success⟩

def BridgeCall.clearsWhenLost : BridgeCall -> Bool
  | .dispatch _ | .snapshot _ _ _ => true
  | _ => false

inductive PagesMove (call : BridgeCall) (before : Table PageKey ManagedPage) (served : Served) : Prop where
  | same (pages : served.bridge.pages = before)
  | cleared (made_by : call.clearsWhenLost = true) (lost : served.bridge.client.usable = false)
      (pages : served.bridge.pages = ∅)
  | changed {key : PageKey} {page : ManagedPage} {change : ManagedPage -> ManagedPage}
      (held : before.get? key = some page) (authority : ∀ page, SameAuthority page (change page))
      (pages : served.bridge.pages = before.modify key change)
  | closed {key : PageKey} {page : ManagedPage} (held : before.get? key = some page)
      (proof : ProvesClosed served.sent page.targetId) (pages : served.bridge.pages = before.erase key)
  | created {request : CreateRequest} {targetId sessionId : String} (made_by : call = .createPage request)
      (admitted : admitCreation before request = .ok ())
      (pages : served.bridge.pages = before.insert (request.spaceId, request.pageId)
        (createdPage targetId sessionId request.leaseEpoch request.url request.title))
  | fenced {spaceId : SpaceId} {oldEpoch : Option LeaseEpoch} {newEpoch : LeaseEpoch}
      (made_by : call = .fence spaceId oldEpoch newEpoch)
      (pages : served.bridge.pages = (fence spaceId oldEpoch newEpoch before).2)

section Calls

variable {config : CdpConfig} {leaseEpoch : LeaseEpoch} {bridge : CdpBridgeState} {outside : CdpOutside}

def Changes (before after : Table PageKey ManagedPage) : Prop :=
  ∃ key page change, before.get? key = some page ∧ (∀ page, SameAuthority page (change page)) ∧
    after = before.modify key change

theorem heldPage_error {key : PageKey} {error : CoreError}
    (failed : heldPage key leaseEpoch talk = (.error error, later)) : talk = later :=
  Attempt.Keeps.ran (heldPage_keeps key leaseEpoch : Attempt.Keeps (talk = ·) _) failed rfl

theorem navigatePage_pages (request : ActionRequest) (talk : Talk) :
    Attempt.Ends (fun _ later => later.pages = talk.pages ∨ Changes talk.pages later.pages) (navigatePage request)
      talk := by
  unfold navigatePage
  refine .lift_bind (fun _ _ => .inl rfl) fun pageId _ => .lift_bind (fun _ _ => .inl rfl) fun url _ =>
    .lift_bind (fun _ _ => .inl rfl) fun _ _ => .bind ?_ ?_
  · rintro _ _ failed
    obtain rfl := heldPage_error failed
    exact .inl rfl
  · rintro page _ present
    obtain ⟨held, _, rfl⟩ := heldPage_ok.mp present
    refine .lift_bind (fun _ _ => .inl rfl) fun navigationGeneration navigation =>
      .lift_bind (fun _ _ => .inl rfl) fun documentGeneration document => .bind ?_ ?_
    · rintro _ _ failed
      exact .inl ((navigateSession_pages _ _).ran failed rfl)
    · rintro _ middle passed
      have pages := (navigateSession_pages page.sessionId url).ran passed rfl
      unfold Attempt.Ends
      rw [changeHeld_held (pages ▸ held)]
      dsimp only
      rw [pages]
      refine .inr ⟨_, page, _, held, ?_, rfl⟩
      refine fun other => ⟨rfl, rfl, fun positive => ⟨positive.target, ?_, ?_⟩⟩
      · simp only [orElse_ok, checkedNext_eq_some] at navigation
        rw [navigation.2]
        exact Nat.succ_pos _
      · simp only [orElse_ok, checkedNext_eq_some] at document
        rw [document.2]
        exact Nat.succ_pos _

theorem closeHeldPage_pages (spaceId : SpaceId) (pageId : PageId) (leaseEpoch : LeaseEpoch) (talk : Talk) :
    Attempt.Ends (fun outcome later =>
      (∃ error, outcome = .error error) ∧ later.pages = talk.pages ∨
        outcome = .ok () ∧ ∃ page, talk.pages.get? (spaceId, pageId) = some page ∧
          page.leaseEpoch = leaseEpoch ∧ ProvesClosed later.sent page.targetId ∧
          later.pages = talk.pages.erase (spaceId, pageId))
      (closeHeldPage spaceId pageId leaseEpoch) talk := by
  unfold closeHeldPage
  refine .bind ?_ ?_
  · rintro error _ failed
    obtain rfl := heldPage_error failed
    exact .inl ⟨⟨error, rfl⟩, rfl⟩
  · rintro page _ present
    obtain ⟨held, current, rfl⟩ := heldPage_ok.mp present
    refine .bind ?_ ?_
    · rintro error _ failed
      exact .inl ⟨⟨error, rfl⟩, (closeTarget_pages _).ran failed rfl⟩
    · rintro _ middle passed
      have pages := (closeTarget_pages page.targetId).ran passed rfl
      have proof := closeTarget_ok passed
      refine .inr ⟨rfl, page, held, current, proof, ?_⟩
      exact congrArg (fun pages => pages.erase (spaceId, pageId)) pages

@[simp]
theorem Talk.sent_invalidated (talk : Talk) : talk.invalidatePagesIfClientUnusable.sent = talk.sent := by
  unfold Talk.invalidatePagesIfClientUnusable
  split <;> rfl

@[simp]
theorem Talk.tabs_invalidated (talk : Talk) : talk.invalidatePagesIfClientUnusable.tabs = talk.tabs := by
  unfold Talk.invalidatePagesIfClientUnusable
  split <;> rfl

theorem Talk.invalidated_pages (talk : Talk) :
    talk.invalidatePagesIfClientUnusable.pages = talk.pages ∨
      talk.invalidatePagesIfClientUnusable.client.usable = false ∧ talk.invalidatePagesIfClientUnusable.pages = ∅ := by
  unfold Talk.invalidatePagesIfClientUnusable
  cases usable : talk.client.usable with
  | true => exact .inl rfl
  | false => exact .inr ⟨usable, rfl⟩

theorem captureSnapshotOf_pages (config : CdpConfig) (spaceId : SpaceId) (pageId : PageId) (leaseEpoch : LeaseEpoch)
    (talk : Talk) :
    Attempt.Ends (fun _ later => later.pages = talk.pages ∨ Changes talk.pages later.pages ∨
        later.client.usable = false ∧ later.pages = ∅)
      (captureSnapshotOf config spaceId pageId leaseEpoch) talk := by
  unfold captureSnapshotOf
  refine .bind ?_ ?_
  · rintro _ _ failed
    obtain rfl := heldPage_error failed
    exact .inl rfl
  · rintro page _ present
    obtain ⟨held, _, rfl⟩ := heldPage_ok.mp present
    refine .lift_bind (fun _ _ => .inl rfl) fun _ _ => ?_
    have sending : Attempt.Keeps (fun later : Talk => later.pages = talk.pages) _ :=
      sendCommand_pages (.captureSnapshot page.sessionId)
    refine .bind ?_ ?_
    · rintro _ _ failed
      obtain ⟨middle, ran, rfl⟩ := Attempt.afterwards_cases failed
      obtain same | cleared := middle.invalidated_pages
      · exact .inl (same.trans (sending.ran ran rfl))
      · exact .inr (.inr cleared)
    · rintro result _ passed
      obtain ⟨middle, ran, rfl⟩ := Attempt.afterwards_cases passed
      have pages := sending.ran ran rfl
      have usable : middle.client.usable = true := by
        cases sendCommand_end ran with
        | answered _ fate => simp [Talk.exchange, fate, Fate.keepsConnection]
      -- the connection is still there, so the records are
      rw [Talk.invalidatePagesIfClientUnusable, if_pos usable]
      refine .lift_bind (fun _ _ => .inl pages) fun dom _ => .lift_bind (fun _ _ => .inl pages) fun version _ =>
        .lift_bind (fun _ _ => .inl pages) fun _ _ => ?_
      unfold Attempt.Ends
      dsimp only
      rw [Attempt.bind_of_ok (changeHeld_held (pages ▸ held))]
      dsimp only [Attempt.pure_apply]
      rw [pages]
      refine .inr (.inl ⟨_, page, _, held, ?_, rfl⟩)
      exact fun _ => ⟨rfl, rfl, fun positive => ⟨positive.target, positive.navigation, positive.document⟩⟩

theorem createManaged_pages (tab : TabCreation) (request : CreateRequest) (talk : Talk) :
    Attempt.Ends (fun outcome later => (∃ error, outcome = .error error) ∧ later.pages = talk.pages ∨
        outcome = .ok (createdRecord request.url request.title) ∧ admitCreation talk.pages request = .ok () ∧
        ∃ targetId sessionId,
          later.pages = talk.pages.insert (request.spaceId, request.pageId)
            (createdPage targetId sessionId request.leaseEpoch request.url request.title))
      (createManaged tab request) talk := by
  have finding : Attempt.Keeps (fun later : Talk => later.pages = talk.pages)
      (createTabAndFindTarget tab (bootstrapUrl request.pageId request.leaseEpoch)) :=
    createTabAndFindTarget_pages _ _
  have setting (targetId : String) : Attempt.Keeps (fun later : Talk => later.pages = talk.pages)
      ((setUpTarget targetId request.url).recover (cleanupFailedCreation targetId)) :=
    .recover (setUpTarget_pages _ _) fun _ => cleanupFailedCreation_pages _ _
  unfold createManaged
  refine .bind (by simp) ?_
  rintro _ _ got
  cases got
  refine .lift_bind (fun error _ => .inl ⟨⟨error, rfl⟩, rfl⟩) fun _ admitted => .bind ?_ ?_
  · rintro error _ failed
    exact .inl ⟨⟨error, rfl⟩, finding.ran failed rfl⟩
  · rintro targetId middle found
    refine .bind ?_ ?_
    · rintro error _ failed
      exact .inl ⟨⟨error, rfl⟩, (setting targetId).ran failed (finding.ran found rfl)⟩
    · rintro sessionId last set
      have pages := (setting targetId).ran set (finding.ran found rfl)
      refine .inr ⟨rfl, admitted, targetId, sessionId, ?_⟩
      exact congrArg (fun pages : Table PageKey ManagedPage => pages.insert _ _) pages

theorem performAction_pages (config : CdpConfig) (request : ActionRequest) (talk : Talk) :
    Attempt.Ends (fun _ later => later.pages = talk.pages ∨ Changes talk.pages later.pages ∨
        ∃ key page, talk.pages.get? key = some page ∧ ProvesClosed later.sent page.targetId ∧
          later.pages = talk.pages.erase key)
      (performAction config request) talk := by
  unfold performAction
  split
  next =>
    obtain same | changed := navigatePage_pages request talk
    · exact .inl same
    · exact .inr (.inl changed)
  next => exact .inl (dispatchElementAction_pages config request talk rfl)
  next => exact .inl (dispatchElementAction_pages config request talk rfl)
  next =>
    refine .lift_bind (fun _ _ => .inl rfl) fun pageId _ => ?_
    obtain ⟨_, same⟩ | ⟨_, page, held, _, proof, erased⟩ :=
      closeHeldPage_pages request.spaceId pageId request.leaseEpoch talk
    · exact .inl same
    · exact .inr (.inr ⟨_, page, held, proof, erased⟩)
  next => exact .inl rfl

theorem serve_pages (config : CdpConfig) (outside : CdpOutside) (call : BridgeCall) (bridge : CdpBridgeState) :
    PagesMove call bridge.pages (serve config outside call bridge) := by
  cases call with
  | dispatch request =>
    generalize ran : performAction config request (bridge.talk outside.turns) = reply
    obtain ⟨outcome, later⟩ := reply
    have served : (serve config outside (.dispatch request) bridge).bridge =
        later.invalidatePagesIfClientUnusable.toCdpBridgeState := by
      simp [serve, CdpBridgeState.perform, dispatchAttempt, Attempt.afterwards, ran]
    have sent : (serve config outside (.dispatch request) bridge).sent = later.sent := by
      simp [serve, CdpBridgeState.perform, dispatchAttempt, Attempt.afterwards, ran, Talk.sent_invalidated]
    obtain kept | ⟨lost, cleared⟩ := later.invalidated_pages
    · obtain same | ⟨key, page, change, held, authority, changed⟩ | ⟨key, page, held, proof, erased⟩ :=
        (performAction_pages config request _).ran ran
      · exact .same (by rw [served, kept, same]; rfl)
      · exact .changed held authority (by rw [served, kept, changed]; rfl)
      · exact .closed held (by rw [sent]; exact proof) (by rw [served, kept, erased]; rfl)
    · exact .cleared rfl (by rw [served, lost]) (by rw [served, cleared])
  | observe => exact .same rfl
  | snapshot spaceId pageId leaseEpoch =>
    obtain same | ⟨key, page, change, held, authority, changed⟩ | ⟨lost, cleared⟩ :=
      captureSnapshotOf_pages config spaceId pageId leaseEpoch (bridge.talk outside.turns)
    · exact .same same
    · exact .changed held authority changed
    · exact .cleared rfl lost cleared
  | fence spaceId oldEpoch newEpoch => exact .fenced rfl rfl
  | closePage spaceId pageId leaseEpoch =>
    obtain ⟨_, same⟩ | ⟨_, page, held, _, proof, erased⟩ :=
      closeHeldPage_pages spaceId pageId leaseEpoch (bridge.talk outside.turns)
    · exact .same same
    · exact .closed held proof erased
  | createPage request =>
    obtain ⟨_, same⟩ | ⟨_, admitted, targetId, sessionId, inserted⟩ :=
      createManaged_pages outside.tab request (bridge.talk outside.turns)
    · exact .same same
    · exact .created rfl admitted inserted

theorem serve_created {request : CreateRequest} {record : BoundTarget}
    (replied : (serve config outside (.createPage request) bridge).reply = .created (.ok record)) :
    (serve config outside (.createPage request) bridge).bridge.pages.contains (request.spaceId, request.pageId) =
      true := by
  have created : (createManaged outside.tab request (bridge.talk outside.turns)).1 = .ok record :=
    BridgeReply.created.inj replied
  obtain ⟨⟨error, failed⟩, _⟩ | ⟨_, _, targetId, sessionId, inserted⟩ :=
    createManaged_pages outside.tab request (bridge.talk outside.turns)
  · rw [failed] at created
    cases created
  · rw [Table.contains]
    change ((createManaged outside.tab request (bridge.talk outside.turns)).2.pages.get? _).isSome = true
    rw [inserted, Table.get?_insert_self]
    rfl

theorem serve_closed {spaceId : SpaceId} {pageId : PageId}
    (replied : (serve config outside (.closePage spaceId pageId leaseEpoch) bridge).reply = .closed (.ok ())) :
    ∃ page, bridge.pages.get? (spaceId, pageId) = some page ∧
      ProvesClosed (serve config outside (.closePage spaceId pageId leaseEpoch) bridge).sent page.targetId := by
  have closed : (closeHeldPage spaceId pageId leaseEpoch (bridge.talk outside.turns)).1 = .ok () :=
    BridgeReply.closed.inj replied
  obtain ⟨⟨error, failed⟩, _⟩ | ⟨_, page, held, _, proof, _⟩ :=
    closeHeldPage_pages spaceId pageId leaseEpoch (bridge.talk outside.turns)
  · rw [failed] at closed
    cases closed
  · exact ⟨page, held, proof⟩

end Calls

end AgentycHost
