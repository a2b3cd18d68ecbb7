import AgentycHost.Cdp.Fences

set_option autoImplicit false

/-! # Pages of a lost connection -/

namespace AgentycHost

open Shared

variable {config : CdpConfig} {outside : CdpOutside} {call : BridgeCall} {bridge : CdpBridgeState} {talk later : Talk}

/-- A bridge whose connection is lost has no page left. -/
def CdpBridgeState.Unbinds (bridge : CdpBridgeState) : Prop := bridge.client.usable = false -> bridge.pages = ∅

section Losses

def Talk.TracksLoss (talk : Talk) : Prop :=
  talk.client.usable = false <-> ∃ sent, sent ∈ talk.sent ∧ sent.fate = .lost

theorem Talk.TracksLoss.exchange (tracks : talk.TracksLoss) (ready : talk.ready) (command : CdpCommand) :
    (talk.exchange command).TracksLoss := by
  have kept : ¬ ∃ sent, sent ∈ talk.sent ∧ sent.fate = .lost := by
    intro early
    have gone := tracks.mpr early
    rw [ready.1] at gone
    cases gone
  have last : (talk.exchange command).client.usable = talk.fate.keepsConnection := rfl
  rw [Talk.TracksLoss, last]
  constructor
  · intro lost
    refine ⟨{ command, fate := talk.fate }, List.mem_append_right _ (List.mem_singleton_self _), ?_⟩
    cases fate : talk.fate with
    | lost => rfl
    | rejected =>
      rw [fate] at lost
      cases lost
    | answered result =>
      rw [fate] at lost
      cases lost
  · rintro ⟨sent, inside, lost⟩
    obtain early | new := List.mem_append.mp inside
    · exact absurd ⟨sent, early, lost⟩ kept
    · rw [List.mem_singleton.mp new] at lost
      have fate : talk.fate = .lost := lost
      rw [fate]
      rfl

theorem sendCommand_tracks (command : CdpCommand) : Attempt.Keeps Talk.TracksLoss (sendCommand command) := by
  intro talk tracks
  generalize ran : sendCommand command talk = reply
  obtain ⟨outcome, later⟩ := reply
  cases sendCommand_end ran with
  | disconnected => exact tracks
  | exhausted => exact tracks
  | lost ready _ => exact tracks.exchange ready command
  | rejected ready _ => exact tracks.exchange ready command
  | answered ready _ => exact tracks.exchange ready command

theorem talk_tracks {turns : List WireTurn} (usable : bridge.client.usable = true) : (bridge.talk turns).TracksLoss := by
  have start : (bridge.talk turns).client.usable = true := usable
  rw [Talk.TracksLoss, start]
  constructor
  · intro lost
    cases lost
  · rintro ⟨sent, inside, _⟩
    cases inside

end Losses

section Answers

theorem sendCommand_usable {command : CdpCommand} {result : Json} (passed : sendCommand command talk = (.ok result, later)) :
    later.client.usable = true := by
  cases sendCommand_end passed with
  | answered _ fate => simp [Talk.exchange, fate, Fate.keepsConnection]

theorem closeHeldPage_usable {spaceId : SpaceId} {pageId : PageId} {leaseEpoch : LeaseEpoch}
    (closed : closeHeldPage spaceId pageId leaseEpoch talk = (.ok (), later)) : later.client.usable = true := by
  obtain ⟨page, held, _, rest⟩ := Attempt.bind_passed closed
  obtain ⟨_, middle, sent, done⟩ := Attempt.bind_passed rest
  obtain ⟨result, answered, _⟩ := closeTarget_answered sent
  have usable : middle.client.usable = true := sendCommand_usable answered
  cases done
  exact usable

theorem setUpTarget_usable {targetId sessionId : String} {url : Option String}
    (ready : setUpTarget targetId url talk = (.ok sessionId, later)) : later.client.usable = true := by
  obtain ⟨_, _, _, attached⟩ := Attempt.bind_passed ready
  obtain ⟨_, _, _, enabled⟩ := Attempt.bind_passed attached
  obtain ⟨_, _, _, running⟩ := Attempt.bind_passed enabled
  obtain ⟨_, middle, navigated, done⟩ := Attempt.bind_passed running
  obtain ⟨_, _, asked⟩ := Attempt.lift_passed navigated
  obtain ⟨result, replied, answered, accepted⟩ := Attempt.bind_passed asked
  obtain ⟨_, rfl⟩ := Prod.mk.inj accepted
  cases done
  exact sendCommand_usable answered

theorem cleanupFailedCreation_fails {A : Type} {targetId : String} {error : CoreError} {value : A} :
    cleanupFailedCreation targetId error talk ≠ (.ok value, later) := by
  intro passed
  obtain ⟨_, _, _, failed⟩ := Attempt.bind_passed passed
  cases failed

theorem createManaged_usable {tab : TabCreation} {request : CreateRequest} {record : BoundTarget}
    (created : createManaged tab request talk = (.ok record, later)) : later.client.usable = true := by
  obtain ⟨_, _, _, checked⟩ := Attempt.bind_passed created
  obtain ⟨_, _, admitted⟩ := Attempt.lift_passed checked
  obtain ⟨targetId, found, _, setting⟩ := Attempt.bind_passed admitted
  obtain ⟨sessionId, middle, ready, done⟩ := Attempt.bind_passed setting
  have usable : middle.client.usable = true := by
    obtain ⟨_, kept, _⟩ | ⟨_, _, _, cleaned⟩ := Attempt.recover_cases ready
    · exact setUpTarget_usable kept
    · exact absurd cleaned cleanupFailedCreation_fails
  cases done
  exact usable

end Answers

section Calls

/-- A close or a creation that the host asks for on its own. -/
def BridgeCall.isDirect : BridgeCall -> Bool
  | .closePage .. | .createPage _ => true
  | _ => false

/-- A command of the call was lost, and the connection with it. -/
def Served.LosesLine (served : Served) : Prop := ∃ sent, sent ∈ served.sent ∧ sent.fate = .lost

/-- The call does not lose the connection, unless it is one that clears the records then or there are none. -/
def BridgeCall.KeepsLine (config : CdpConfig) (outside : CdpOutside) (call : BridgeCall) (bridge : CdpBridgeState) : Prop :=
  call.isDirect = true -> (serve config outside call bridge).LosesLine -> bridge.pages = ∅

theorem perform_unbinds {A : Type} {turns : List WireTurn} {attempt : Cdp A} {reply : Except CoreError A -> BridgeReply}
    (unbinds : bridge.Unbinds) (tracks : Attempt.Keeps Talk.TracksLoss attempt)
    (answered : ∀ value later, attempt (bridge.talk turns) = (.ok value, later) -> later.client.usable = true)
    (keeps : ∀ error later, attempt (bridge.talk turns) = (.error error, later) -> later.pages = bridge.pages) :
    (bridge.perform turns attempt reply).bridge.Unbinds <->
      ((bridge.perform turns attempt reply).LosesLine -> bridge.pages = ∅) := by
  generalize ran : attempt (bridge.talk turns) = end_
  obtain ⟨outcome, later⟩ := end_
  have after : (bridge.perform turns attempt reply).bridge = later.toCdpBridgeState := by
    simp [CdpBridgeState.perform, ran]
  have log : (bridge.perform turns attempt reply).sent = later.sent := by
    simp [CdpBridgeState.perform, ran]
  unfold CdpBridgeState.Unbinds Served.LosesLine
  rw [after, log]
  by_cases open_ : bridge.client.usable = true
  · have lost : later.client.usable = false <-> _ := tracks.ran ran (talk_tracks open_)
    cases outcome with
    | ok value =>
      have usable := answered value later ran
      have kept : ¬ ∃ sent, sent ∈ later.sent ∧ sent.fate = .lost := by
        rw [← lost, usable]
        decide
      simp [kept, usable]
    | error error => rw [keeps error later ran, lost]
  · -- there is nothing to unbind on a connection that was lost before
    have gone : bridge.pages = ∅ := unbinds (by simpa using open_)
    cases outcome with
    | ok value =>
      have usable := answered value later ran
      simp [gone, usable]
    | error error =>
      rw [keeps error later ran]
      simp [gone]

theorem Talk.invalidated_unbinds (talk : Talk) : talk.invalidatePagesIfClientUnusable.Unbinds := by
  unfold Talk.invalidatePagesIfClientUnusable
  split
  next usable =>
    intro lost
    rw [usable] at lost
    cases lost
  next => exact fun _ => rfl

theorem changeHeld_unbinds (key : PageKey) (change : ManagedPage -> ManagedPage) (missing : String) :
    Attempt.Keeps (fun talk => talk.Unbinds) (changeHeld key change missing) := by
  refine .bind .get fun _ => .bind (.lift _) fun _ => fun talk unbinds lost => ?_
  have gone : talk.pages = ∅ := unbinds lost
  change talk.pages.modify key change = ∅
  rw [gone]
  rfl

theorem captureSnapshotOf_unbinds (config : CdpConfig) (spaceId : SpaceId) (pageId : PageId) (leaseEpoch : LeaseEpoch) :
    Attempt.Keeps (fun talk => talk.Unbinds) (captureSnapshotOf config spaceId pageId leaseEpoch) :=
  .bind (heldPage_keeps _ _) fun _ => .bind (.lift _) fun _ =>
  .bind (fun _ _ => Talk.invalidated_unbinds _) fun _ => .bind (.lift _) fun _ => .bind (.lift _) fun _ =>
  .bind (.lift _) fun _ => .bind (changeHeld_unbinds _ _ _) fun _ => .pure _

theorem fence_empty (spaceId : SpaceId) (oldEpoch : Option LeaseEpoch) (newEpoch : LeaseEpoch) :
    (fence spaceId oldEpoch newEpoch ∅).2 = ∅ := by
  unfold fence
  split
  · rfl
  · rfl

theorem serve_unbinds (unbinds : bridge.Unbinds) :
    (serve config outside call bridge).bridge.Unbinds <-> call.KeepsLine config outside bridge := by
  cases call with
  | dispatch request =>
    have cleared : (serve config outside (.dispatch request) bridge).bridge.Unbinds := Talk.invalidated_unbinds _
    simp [cleared, BridgeCall.KeepsLine, BridgeCall.isDirect]
  | observe =>
    have same : (serve config outside .observe bridge).bridge.Unbinds := unbinds
    simp [same, BridgeCall.KeepsLine, BridgeCall.isDirect]
  | snapshot spaceId pageId leaseEpoch =>
    have cleared : (serve config outside (.snapshot spaceId pageId leaseEpoch) bridge).bridge.Unbinds :=
      captureSnapshotOf_unbinds config spaceId pageId leaseEpoch _ unbinds
    simp [cleared, BridgeCall.KeepsLine, BridgeCall.isDirect]
  | fence spaceId oldEpoch newEpoch =>
    have moved : (serve config outside (.fence spaceId oldEpoch newEpoch) bridge).bridge.Unbinds := by
      intro lost
      have gone : bridge.pages = ∅ := unbinds lost
      change (fence spaceId oldEpoch newEpoch bridge.pages).2 = ∅
      rw [gone]
      apply fence_empty
    simp [moved, BridgeCall.KeepsLine, BridgeCall.isDirect]
  | closePage spaceId pageId leaseEpoch =>
    have whole : (serve config outside (.closePage spaceId pageId leaseEpoch) bridge).bridge.Unbinds <->
        ((serve config outside (.closePage spaceId pageId leaseEpoch) bridge).LosesLine -> bridge.pages = ∅) := by
      apply perform_unbinds unbinds (closeHeldPage_keeps sendCommand_tracks (fun _ _ tracks => tracks) spaceId pageId
        leaseEpoch)
      · intro _ later closed
        exact closeHeldPage_usable closed
      · intro error later failed
        obtain ⟨_, same⟩ | ⟨closed, _⟩ := (closeHeldPage_pages spaceId pageId leaseEpoch _).ran failed
        · exact same
        · cases closed
    simpa [BridgeCall.KeepsLine, BridgeCall.isDirect] using whole
  | createPage request =>
    have whole : (serve config outside (.createPage request) bridge).bridge.Unbinds <->
        ((serve config outside (.createPage request) bridge).LosesLine -> bridge.pages = ∅) := by
      apply perform_unbinds unbinds (createManaged_keeps sendCommand_tracks (fun _ _ tracks => tracks)
        (fun _ _ tracks => tracks) outside.tab request)
      · intro _ later created
        exact createManaged_usable created
      · intro error later failed
        obtain ⟨_, same⟩ | ⟨created, _⟩ := (createManaged_pages outside.tab request _).ran failed
        · exact same
        · cases created
    simpa [BridgeCall.KeepsLine, BridgeCall.isDirect] using whole

end Calls

section Runs

variable {start last : CdpBridgeState} {trace : List (Moment CdpBridgeState BridgeLabel)}

/-- Every call of a run leaves no page on a lost connection, exactly if every direct call on pages keeps the line. -/
theorem run_unbinds_iff (run : BridgeRun config start trace last) (unbinds : start.Unbinds) :
    (∀ moment, moment ∈ trace -> moment.after.Unbinds) <->
      ∀ moment, moment ∈ trace -> moment.label.2.KeepsLine config moment.label.1 moment.before := by
  induction run with
  | nil => simp
  | @step trace before after label earlier taken ih =>
    simp only [List.forall_mem_cons, ih]
    constructor
    · rintro ⟨now, kept⟩
      have bound : before.Unbinds := earlier.keeps _ unbinds fun moment inside _ _ => ih.mpr kept moment inside
      subst taken
      exact ⟨(serve_unbinds bound).mp now, kept⟩
    · rintro ⟨now, kept⟩
      have bound : before.Unbinds := earlier.keeps _ unbinds fun moment inside _ _ => ih.mpr kept moment inside
      subst taken
      exact ⟨(serve_unbinds bound).mpr now, kept⟩

theorem connected_unbinds : CdpBridgeState.connected.Unbinds := by
  intro lost
  cases lost

theorem single_call (config : CdpConfig) (outside : CdpOutside) (call : BridgeCall) (bridge : CdpBridgeState) :
    BridgeRun config bridge [⟨bridge, (outside, call), (serve config outside call bridge).bridge⟩]
      (serve config outside call bridge).bridge := .step .nil rfl

def openedTab : CdpOutside where
  turns :=
    [answeredWith 1 [("targetInfos", .array [.object [("type", .string "page"),
       ("url", .string "about:blank#agentyc-tab=page_page-2-1"), ("targetId", .string "tab-2")]])],
     answeredWith 2 [("sessionId", .string "session-2")],
     answeredWith 3 [],
     answeredWith 4 [],
     answeredWith 5 []]
  tab := { answer := .ok (), polls := 0 }

def createdBridge : CdpBridgeState := (serve sampleCdp openedTab (.createPage lateCreation) .connected).bridge

theorem created_page_unbinds : createdBridge.Unbinds := by
  refine (run_unbinds_iff (single_call sampleCdp openedTab (.createPage lateCreation) .connected) connected_unbinds).mpr
    ?_ _ (List.mem_singleton_self _)
  intro moment inside _ _
  rw [List.mem_singleton.mp inside]
  rfl

/-- A close whose command is lost leaves the record of the page. -/
theorem lost_close_keeps_page :
    ¬ ∀ (config : CdpConfig) (last : CdpBridgeState) (trace : List (Moment CdpBridgeState BridgeLabel)),
      BridgeRun config .connected trace last -> ∀ moment, moment ∈ trace -> moment.after.Unbinds := by
  intro always
  have created := single_call sampleCdp openedTab (.createPage lateCreation) .connected
  have closed := created.append (single_call sampleCdp deadLine (.closePage ⟨1⟩ ⟨2⟩ 1) createdBridge)
  have unbinds := always _ _ _ closed _ List.mem_cons_self
  have lost : (serve sampleCdp deadLine (.closePage ⟨1⟩ ⟨2⟩ 1) createdBridge).bridge.client.usable = false := by decide
  have kept : (serve sampleCdp deadLine (.closePage ⟨1⟩ ⟨2⟩ 1) createdBridge).bridge.pages.entries.length = 1 := by decide
  rw [unbinds lost] at kept
  cases kept

end Runs

end AgentycHost
