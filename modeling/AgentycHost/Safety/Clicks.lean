import AgentycHost.Cdp.Dom
import AgentycHost.Cdp.Outcomes

set_option autoImplicit false

/-! # Where a click lands -/

namespace AgentycHost

open Shared

variable {config : CdpConfig} {request : ActionRequest} {talk later : Talk} {dom : DomTree} {page other : ManagedPage}
  {ref aim x y : Int} {element : LiveElement} {sessionId : String} {command : CdpCommand} {bridge : CdpBridgeState}

section Log

def CdpCommand.mousePoint : CdpCommand -> Option (Int × Int)
  | .mousePressed _ x y | .mouseReleased _ x y => some (x, y)
  | _ => none

theorem mousePoint_reads (reads : command.changesState = false) : command.mousePoint = none := by
  cases command <;> first | rfl | cases reads

theorem sendCommand_only (good : CdpCommand -> Prop) (fits : good command) :
    Attempt.Keeps (fun talk => ∀ sent, sent ∈ talk.sent -> good sent.command) (sendCommand command) := by
  intro talk before
  generalize ran : sendCommand command talk = reply
  obtain ⟨outcome, later⟩ := reply
  have after : ∀ sent, sent ∈ (talk.exchange command).sent -> good sent.command := by
    intro sent inside
    obtain early | new := List.mem_append.mp inside
    · exact before sent early
    · rw [List.mem_singleton.mp new]
      exact fits
  cases sendCommand_end ran with
  | disconnected => exact before
  | exhausted => exact before
  | lost => exact after
  | rejected => exact after
  | answered => exact after

end Log

section Resolution

/-- The ref of the request is one of the page, and stands for the node. -/
def RefersTo (config : CdpConfig) (request : ActionRequest) (pages : Table PageKey ManagedPage) (page : ManagedPage)
    (ref : Int) : Prop :=
  ∃ pageId input, request.pageId = some pageId ∧
    ActionabilityInput.fromPayload config.codec request.payload = .ok (some input) ∧
    pages.get? (request.spaceId, pageId) = some page ∧ page.leaseEpoch = request.leaseEpoch ∧
    refMatchesPage request pageId input page = true ∧ page.backendNodes.get? input.elementRef.elementKey = some ref

theorem RefersTo.unique {pages : Table PageKey ManagedPage} (one : RefersTo config request pages page ref)
    (two : RefersTo config request pages other aim) : page = other ∧ ref = aim := by
  obtain ⟨pageId, input, about, reads, held, _, _, bound⟩ := one
  obtain ⟨pageId', input', about', reads', held', _, _, bound'⟩ := two
  rw [about] at about'
  cases about'
  rw [reads] at reads'
  cases reads'
  rw [held] at held'
  cases held'
  rw [bound] at bound'
  cases bound'
  exact ⟨rfl, rfl⟩

def describeElement (sessionId : String) (ref : Int) : Cdp LiveElement := do
  discard (sendCommand (.getDocument sessionId))
  let described <- sendCommand (.describeBackendNode sessionId ref)
  let node <- .lift (orElse (described.get "node") (.new .protocolMismatch "Chrome DevTools node is missing"))
  .lift (validateLiveNode node ref)
  pure { sessionId, backendNodeId := ref, node }

theorem locateElement_refers (refers : RefersTo config request talk.pages page ref) :
    locateElement config request talk = describeElement page.sessionId ref talk := by
  obtain ⟨pageId, input, about, reads, held, current, matched, bound⟩ := refers
  have lookup : heldPage (request.spaceId, pageId) request.leaseEpoch talk = (.ok page, talk) :=
    heldPage_ok.mpr ⟨held, current, rfl⟩
  unfold locateElement
  rw [requiredPage, about, reads]
  simp only [orElse, Attempt.lift_ok_bind]
  rw [Attempt.bind_of_ok lookup, matched, bound]
  rfl

theorem locateElement_ok (located : locateElement config request talk = (.ok element, later)) :
    ∃ page ref, RefersTo config request talk.pages page ref ∧
      describeElement page.sessionId ref talk = (.ok element, later) := by
  have found := located
  unfold locateElement at found
  obtain ⟨pageId, about, found⟩ := Attempt.lift_passed found
  obtain ⟨payload, reads, found⟩ := Attempt.lift_passed found
  obtain ⟨input, given, found⟩ := Attempt.lift_passed found
  obtain ⟨page, middle, held, found⟩ := Attempt.bind_passed found
  obtain ⟨_, matched, found⟩ := Attempt.lift_passed found
  obtain ⟨ref, bound, _⟩ := Attempt.lift_passed found
  obtain ⟨held, current, _⟩ := heldPage_ok.mp held
  have refers : RefersTo config request talk.pages page ref :=
    ⟨pageId, input, orElse_ok.mp about, reads.trans (by rw [orElse_ok.mp given]), held, current, require_ok.mp matched,
      orElse_ok.mp bound⟩
  rw [locateElement_refers refers] at located
  exact ⟨page, ref, refers, located⟩

end Resolution

section Aiming

theorem sendCommand_counts {count : Nat} :
    Attempt.Keeps (fun talk => count ≤ talk.client.nextId) (sendCommand command) := by
  intro talk reached
  generalize ran : sendCommand command talk = reply
  obtain ⟨outcome, later⟩ := reply
  have next : count ≤ (talk.exchange command).client.nextId := Nat.le_succ_of_le reached
  cases sendCommand_end ran with
  | disconnected => exact reached
  | exhausted => exact reached
  | lost => exact next
  | rejected => exact next
  | answered => exact next

theorem sendCommand_advances {result : Json} (told : sendCommand command talk = (.ok result, later)) :
    talk.client.usable = true ∧ later.client.nextId = talk.client.nextId + 1 := by
  obtain ⟨rfl, ready, _⟩ := sendCommand_answered told
  exact ⟨ready.1, rfl⟩

theorem describeElement_ok (described : describeElement sessionId ref talk = (.ok element, later))
    (truthful : dom.Truthful later) :
    element.sessionId = sessionId ∧ element.backendNodeId = ref ∧ dom.Describes ref element.node ∧
      talk.client.usable = true ∧ later.client.nextId = talk.client.nextId + 2 := by
  unfold describeElement at described
  obtain ⟨_, opened, document, described⟩ := Attempt.bind_passed described
  obtain ⟨result, middle, told, described⟩ := Attempt.bind_passed described
  obtain ⟨node, read, described⟩ := Attempt.lift_passed described
  obtain ⟨_, _, described⟩ := Attempt.lift_passed described
  cases described
  obtain ⟨_, document⟩ := Attempt.discard_ok.mp document
  obtain ⟨usable, first⟩ := sendCommand_advances document
  obtain ⟨_, second⟩ := sendCommand_advances told
  exact ⟨rfl, rfl, truthful.reply told node (orElse_ok.mp read), usable, by omega⟩

theorem aimAtElement_cases {outcome : Except CoreError (Int × Int)}
    (ran : aimAtElement config element talk = (outcome, later)) (truthful : dom.Truthful later)
    (describes : dom.Describes element.backendNodeId element.node) :
    (∃ error, outcome = .error error ∧ (OfConnection error ∨
      rejectDisabledNode element.node = .error error ∨ config.boxCenter (dom.box element.backendNodeId) = .error error)) ∨
    ∃ x y middle within, config.boxCenter (dom.box element.backendNodeId) = .ok (x, y) ∧
      isNodeWithin element.sessionId (dom.nodeAt x y) element.backendNodeId (dom.nodeId element.backendNodeId) middle =
        (within, later) ∧
      middle.client.nextId = talk.client.nextId + 2 ∧
      ((∃ error, within = .error error ∧ outcome = .error error) ∨
        (within = .ok false ∧
          outcome = .error (.new .permissionDenied "the live hit target is outside the referenced element")) ∨
        (within = .ok true ∧ outcome = .ok (x, y))) := by
  unfold aimAtElement at ran
  obtain ⟨error, disabled, rfl, _⟩ | ⟨_, _, ran⟩ := Attempt.lift_bind_cases ran
  · exact .inl ⟨error, rfl, .inr (.inl disabled)⟩
  rw [describes.nodeId] at ran
  obtain ⟨error, missing, _⟩ | ⟨targetNodeId, same, ran⟩ := Attempt.lift_bind_cases ran
  · cases missing
  cases same
  obtain ⟨error, failed, rfl⟩ | ⟨model, boxed, shown, ran⟩ := Attempt.bind_cases ran
  · exact .inl ⟨error, rfl, .inl (sendCommand_ofConnection failed)⟩
  have reads : ∀ sent : SentCommand, ∀ {command : CdpCommand}, command.changesState = false ->
      Attempt.Keeps (fun talk => sent ∈ talk.sent) (sendCommand command) := fun _ _ _ => sendCommand_logged _
  have boxTold : dom.Tells { command := .getBoxModel element.sessionId element.backendNodeId, fate := .answered model } := by
    refine DomTree.Truthful.reply (truthful.earlier ran fun sent => ?_) shown
    exact .bind (.lift _) fun _ => .bind (sendCommand_logged _) fun _ => .bind (.lift _) fun _ =>
      .bind (isNodeWithin_keeps (reads sent) _ _ _ _) fun _ => .bind (.lift _) fun _ => .pure _
  obtain rfl : model = dom.box element.backendNodeId := boxTold
  obtain ⟨error, unboxed, rfl, _⟩ | ⟨point, centre, ran⟩ := Attempt.lift_bind_cases ran
  · exact .inl ⟨error, rfl, .inr (.inr unboxed)⟩
  obtain ⟨x, y⟩ := point
  obtain ⟨error, failed, rfl⟩ | ⟨result, tested, hit, ran⟩ := Attempt.bind_cases ran
  · exact .inl ⟨error, rfl, .inl (sendCommand_ofConnection failed)⟩
  have hitTold : dom.Tells { command := .getNodeForLocation element.sessionId x y, fate := .answered result } := by
    refine DomTree.Truthful.reply (truthful.earlier ran fun sent => ?_) hit
    exact .bind (.lift _) fun _ => .bind (isNodeWithin_keeps (reads sent) _ _ _ _) fun _ =>
      .bind (.lift _) fun _ => .pure _
  obtain ⟨error, missing, rfl, _⟩ | ⟨hitNode, read, ran⟩ := Attempt.lift_bind_cases ran
  · obtain ⟨_, rfl⟩ := orElse_error.mp missing
    exact .inl ⟨_, rfl, .inl ⟨by decide, by decide⟩⟩
  obtain rfl : hitNode = dom.nodeAt x y := hitTold hitNode (orElse_ok.mp read)
  have count : tested.client.nextId = talk.client.nextId + 2 := by
    obtain ⟨_, first⟩ := sendCommand_advances shown
    obtain ⟨_, second⟩ := sendCommand_advances hit
    omega
  right
  obtain ⟨error, failed, rfl⟩ | ⟨within, middle, checked, ran⟩ := Attempt.bind_cases ran
  · exact ⟨x, y, tested, _, centre, failed, count, .inl ⟨error, rfl, rfl⟩⟩
  cases within with
  | false =>
    cases ran
    exact ⟨x, y, tested, _, centre, checked, count, .inr (.inl ⟨rfl, rfl⟩)⟩
  | true =>
    cases ran
    exact ⟨x, y, tested, _, centre, checked, count, .inr (.inr ⟨rfl, rfl⟩)⟩

theorem describeElement_error {error : CoreError} (failed : describeElement sessionId ref talk = (.error error, later)) :
    OfConnection error ∨ error = .staleRef "referenced backend node is no longer the same live element" := by
  unfold describeElement at failed
  obtain ⟨_, lost, same⟩ | ⟨_, _, _, failed⟩ := Attempt.bind_cases failed
  · cases same
    exact .inl (sendCommand_ofConnection (Attempt.discard_error.mp lost))
  obtain ⟨_, lost, same⟩ | ⟨result, _, _, failed⟩ := Attempt.bind_cases failed
  · cases same
    exact .inl (sendCommand_ofConnection lost)
  obtain ⟨_, missing, same, _⟩ | ⟨node, _, failed⟩ := Attempt.lift_bind_cases failed
  · cases same
    obtain ⟨_, rfl⟩ := orElse_error.mp missing
    exact .inl ⟨by decide, by decide⟩
  obtain ⟨_, stale, same, _⟩ | ⟨_, _, failed⟩ := Attempt.lift_bind_cases failed
  · cases same
    exact .inr (require_error.mp stale).2.symm
  · cases failed

end Aiming

section Clicks

variable {error : CoreError} {point : Int × Int} {sent : SentCommand}

def outsideElement : CoreError := .new .permissionDenied "the live hit target is outside the referenced element"

def beyondLimit : CoreError := .staleRef "live hit-target ancestry exceeds the host verification limit"

/-- The check of the hit node did not fail for the node. -/
def NotTurnedAway {A : Type} (outcome : Except CoreError A) : Prop :=
  outcome ≠ .error outsideElement ∧ outcome ≠ .error beyondLimit

theorem OfConnection.notTurnedAway {A : Type} (failure : OfConnection error) :
    NotTurnedAway (.error error : Except CoreError A) := by
  constructor
  · rintro ⟨⟩
    exact failure.1 rfl
  · rintro ⟨⟩
    exact failure.2 rfl

/-- A click on a ref: the mouse is used within the referenced node only, and a node that is known to lie there is not
turned away. -/
structure ClickReaches (config : CdpConfig) (request : ActionRequest) (dom : DomTree) (bridge : CdpBridgeState)
    (outcome : Except CoreError Unit) (later : Talk) : Prop where
  within : ∀ sent point, sent ∈ later.sent -> sent.command.mousePoint = some point ->
    ∃ page ref, RefersTo config request bridge.pages page ref ∧ dom.Within ref (dom.nodeAt point.1 point.2)
  accepted : ∀ page ref x y depth, RefersTo config request bridge.pages page ref ->
    config.boxCenter (dom.box ref) = .ok (x, y) -> dom.PushedWithin ref depth (dom.nodeAt x y) ->
    depth ≤ cdpMaxSnapshotElements -> NotTurnedAway outcome

theorem dispatchElementAction_click (click : request.operation = .click) :
    dispatchElementAction config request = (do
      let element <- locateElement config request
      let point <- aimAtElement config element
      clickAt element.sessionId point) := by
  unfold dispatchElementAction
  rw [click]

def Talk.mouseless (talk : Talk) : Prop := ∀ sent, sent ∈ talk.sent -> sent.command.mousePoint = none

theorem sendCommand_mouseless {command : CdpCommand} (reads : command.changesState = false) :
    Attempt.Keeps Talk.mouseless (sendCommand command) :=
  sendCommand_only (fun command => command.mousePoint = none) (mousePoint_reads reads)

theorem clickAt_points {outcome : Except CoreError Unit} (mouseless : talk.mouseless)
    (ran : clickAt sessionId (x, y) talk = (outcome, later)) (inside : sent ∈ later.sent)
    (mouse : sent.command.mousePoint = some point) : point = (x, y) := by
  let here : CdpCommand -> Prop := fun command => command.mousePoint = none ∨ command.mousePoint = some (x, y)
  have keeps : Attempt.Keeps (fun talk => ∀ sent, sent ∈ talk.sent -> here sent.command)
      (clickAt sessionId (x, y)) :=
    .bind (.bind (sendCommand_only here (.inr rfl)) fun _ => .pure _) fun _ =>
      .bind (sendCommand_only here (.inr rfl)) fun _ => .pure _
  obtain silent | here := keeps.ran ran (fun sent inside => .inl (mouseless sent inside)) sent inside
  · rw [silent] at mouse
    cases mouse
  · rw [here] at mouse
    exact (Option.some.inj mouse).symm

theorem clickAt_error (failed : clickAt sessionId point talk = (.error error, later)) :
    OfConnection error := by
  unfold clickAt at failed
  obtain ⟨_, lost, same⟩ | ⟨_, _, _, failed⟩ := Attempt.bind_cases failed
  · cases same
    exact sendCommand_ofConnection (Attempt.discard_error.mp lost)
  · exact sendCommand_ofConnection (Attempt.discard_error.mp failed)

theorem isNodeWithin_asks {hit node : Int} (apart : hit ≠ ref)
    (found : isNodeWithin sessionId hit ref node talk = (.ok true, later)) :
    talk.client.nextId + 1 ≤ later.client.nextId := by
  unfold isNodeWithin at found
  rw [if_neg apart] at found
  obtain ⟨result, middle, told, rest⟩ := Attempt.bind_passed found
  obtain ⟨node, _, rest⟩ := Attempt.lift_passed rest
  obtain ⟨_, advanced⟩ := sendCommand_advances told
  exact (climbToNode_keeps (fun _ => sendCommand_counts) _ _ _ _ _).ran rest (Nat.le_of_eq advanced.symm)

theorem clickAt_counts {outcome : Except CoreError Unit} (mouseless : talk.mouseless)
    (ran : clickAt sessionId point talk = (outcome, later)) {used : Int × Int} (inside : sent ∈ later.sent)
    (mouse : sent.command.mousePoint = some used) : talk.client.nextId < u64Max := by
  by_contra last
  have unsent : ∃ error, sendCommand (.mousePressed sessionId point.1 point.2) talk = (.error error, talk) := by
    by_cases usable : talk.client.usable = true
    · exact ⟨_, sendCommand_exhausted usable (Nat.le_of_not_lt last)⟩
    · exact ⟨cdpUnavailable, by simp [sendCommand, usable]⟩
  obtain ⟨error, failed⟩ := unsent
  unfold clickAt at ran
  rw [Attempt.bind_of_error (Attempt.discard_error.mpr failed)] at ran
  obtain ⟨_, rfl⟩ := Prod.mk.inj ran
  rw [mouseless sent inside] at mouse
  cases mouse

/-- When the mouse can be used: the ref has been pushed to the client, or the hit node has, or it lies where it should. -/
def NodeKnown (config : CdpConfig) (request : ActionRequest) (dom : DomTree) (bridge : CdpBridgeState) : Prop :=
  ∀ page ref x y, RefersTo config request bridge.pages page ref -> isI64 ref ->
    config.boxCenter (dom.box ref) = .ok (x, y) -> bridge.client.usable = true -> bridge.client.nextId + 5 < u64Max ->
    dom.nodeId ref ≠ 0 ∨ dom.nodeId (dom.nodeAt x y) ≠ 0 ∨ dom.Within ref (dom.nodeAt x y)

variable {turns : List WireTurn} {outcome : Except CoreError Unit}

theorem talk_mouseless : (bridge.talk turns).mouseless := by
  intro sent inside
  cases inside

theorem i64At_word {value : Json} {key : String} {number : Int} (read : value.i64At key = some number) : isI64 number := by
  obtain ⟨field, _, read⟩ := Option.bind_eq_some_iff.mp read
  unfold Json.asI64 at read
  split at read
  · split_ifs at read with word
    cases read
    exact word
  · cases read

theorem click_within (click : request.operation = .click) (known : NodeKnown config request dom bridge)
    (ran : dispatchElementAction config request (bridge.talk turns) = (outcome, later))
    (truthful : dom.Truthful later) (inside : sent ∈ later.sent) (mouse : sent.command.mousePoint = some point) :
    ∃ page ref, RefersTo config request bridge.pages page ref ∧ dom.Within ref (dom.nodeAt point.1 point.2) := by
  rw [dispatchElementAction_click click] at ran
  have locating := locateElement_keeps (fun {_} => sendCommand_mouseless) config request
  obtain ⟨_, failed, _⟩ | ⟨element, located, found, ran⟩ := Attempt.bind_cases ran
  · have silent := locating.ran failed talk_mouseless sent inside
    rw [silent] at mouse
    cases mouse
  have unused : located.mouseless := locating.ran found talk_mouseless
  have aiming := aimAtElement_keeps (fun {_} => sendCommand_mouseless) config element
  obtain ⟨_, failed, _⟩ | ⟨used, aimed, hit, clicked⟩ := Attempt.bind_cases ran
  · have silent := aiming.ran failed unused sent inside
    rw [silent] at mouse
    cases mouse
  have untouched : aimed.mouseless := aiming.ran hit unused
  obtain ⟨page, ref, refers, described⟩ := locateElement_ok found
  have logs : ∀ sent, Attempt.Keeps (fun talk => sent ∈ talk.sent) (clickAt element.sessionId used) := fun _ =>
    .bind (.bind (sendCommand_logged _) fun _ => .pure _) fun _ => .bind (sendCommand_logged _) fun _ => .pure _
  have aimedTruthful : dom.Truthful aimed := truthful.earlier clicked logs
  have foundTruthful : dom.Truthful located :=
    aimedTruthful.earlier hit fun _ => aimAtElement_keeps (fun {_} _ => sendCommand_logged _) config element
  obtain ⟨_, rfl, describes, usable, first⟩ := describeElement_ok described foundTruthful
  obtain ⟨_, failed, _⟩ | ⟨x, y, tested, within, centre, checked, second, ends⟩ :=
    aimAtElement_cases hit aimedTruthful describes
  · cases failed
  obtain ⟨_, _, failed⟩ | ⟨_, failed⟩ | ⟨rfl, passed⟩ := ends
  · cases failed
  · cases failed
  cases passed
  have here : point = (x, y) := clickAt_points untouched clicked inside mouse
  refine ⟨page, element.backendNodeId, refers, ?_⟩
  rw [here]
  by_cases same : dom.nodeAt x y = element.backendNodeId
  · rw [same]
    exact .self
  have third := isNodeWithin_asks same checked
  have last := clickAt_counts untouched clicked inside mouse
  have room : bridge.client.nextId + 5 < u64Max := by
    have start : (bridge.talk turns).client.nextId = bridge.client.nextId := rfl
    omega
  obtain pushed | pushed | below := known page _ x y refers (i64At_word describes.backendNodeId) centre usable room
  · exact isNodeWithin_sound checked aimedTruthful (.inl pushed)
  · exact isNodeWithin_sound checked aimedTruthful (.inr pushed)
  · exact below

theorem click_accepted (click : request.operation = .click)
    (ran : dispatchElementAction config request (bridge.talk turns) = (outcome, later)) (truthful : dom.Truthful later)
    {depth : Nat} (refers : RefersTo config request bridge.pages page ref)
    (centre : config.boxCenter (dom.box ref) = .ok (x, y)) (below : dom.PushedWithin ref depth (dom.nodeAt x y))
    (room : depth ≤ cdpMaxSnapshotElements) : NotTurnedAway outcome := by
  rw [dispatchElementAction_click click] at ran
  have located : locateElement config request (bridge.talk turns) =
      describeElement page.sessionId ref (bridge.talk turns) := locateElement_refers refers
  rw [Attempt.bind_same _ located] at ran
  obtain ⟨error, failed, rfl⟩ | ⟨element, described, found, rest⟩ := Attempt.bind_cases ran
  · obtain failure | rfl := describeElement_error failed
    · exact failure.notTurnedAway
    · exact ⟨by decide, by decide⟩
  have aims : ∀ sent, Attempt.Keeps (fun talk => sent ∈ talk.sent) (aimAtElement config element) :=
    fun _ => aimAtElement_keeps (fun {_} _ => sendCommand_logged _) config element
  have clicks : ∀ point sent, Attempt.Keeps (fun talk => sent ∈ talk.sent) (clickAt element.sessionId point) :=
    fun _ _ => .bind (.bind (sendCommand_logged _) fun _ => .pure _) fun _ =>
      .bind (sendCommand_logged _) fun _ => .pure _
  have foundTruthful : dom.Truthful described :=
    truthful.earlier rest fun sent => .bind (aims sent) fun _ => clicks _ sent
  obtain ⟨_, rfl, describes, _, _⟩ := describeElement_ok found foundTruthful
  -- what an aim at the element ends in
  have aimed : ∀ result middle, aimAtElement config element described = (result, middle) -> dom.Truthful middle ->
      NotTurnedAway result := by
    intro result middle aimed told
    obtain ⟨error, rfl, failure | disabled | unboxed⟩ | ⟨x', y', tested, within, centre', checked, _, ends⟩ :=
      aimAtElement_cases aimed told describes
    · exact failure.notTurnedAway
    · obtain ⟨_, rfl⟩ := require_error.mp disabled
      exact ⟨by decide, by decide⟩
    · rw [centre] at unboxed
      cases unboxed
    rw [centre] at centre'
    cases centre'
    have verified := isNodeWithin_verified checked told below room
    obtain ⟨error, rfl, rfl⟩ | ⟨rfl, rfl⟩ | ⟨rfl, rfl⟩ := ends
    · obtain same | ⟨failure, same, connection⟩ := verified
      · cases same
      · cases same
        exact connection.notTurnedAway
    · obtain same | ⟨failure, same, _⟩ := verified
      · cases same
      · cases same
    · exact ⟨by simp, by simp⟩
  obtain ⟨error, failed, rfl⟩ | ⟨point, middle, hit, clicked⟩ := Attempt.bind_cases rest
  · have away := aimed _ _ failed truthful
    exact ⟨fun same => away.1 (by cases same; rfl), fun same => away.2 (by cases same; rfl)⟩
  · cases outcome with
    | error error => exact (clickAt_error clicked).notTurnedAway
    | ok _ => exact ⟨by simp, by simp⟩

end Clicks

section Foreign

variable {result : Json} {rest : List WireTurn} {node hit : Int}

def answerTo (id : Nat) (result : Json) : WireTurn := .frames [.object [("id", .int id), ("result", result)]]

theorem u64_reads {number : Nat} (word : number < u64Max) : (Json.int number).asU64 = some number := by
  unfold u64Max at word
  simp only [Json.asU64]
  rw [if_pos (by omega), Int.toNat_natCast]

theorem answerTo_fate {id : Nat} (room : id < u64Max) : (answerTo id result).fate id = .answered result := by
  have named : (Json.object [("id", .int id), ("result", result)]).get "id" = some (.int id) := by simp [Json.get]
  have own : (Json.object [("id", .int id), ("result", result)]).u64At "id" = some id := by
    rw [Json.u64At, named, Option.bind_some, u64_reads room]
  change receiveReply id [.object [("id", .int id), ("result", result)]] = _
  rw [receiveReply, own]
  simp [Json.get]

def Talk.hears (talk : Talk) (command : CdpCommand) (result : Json) (rest : List WireTurn) : Talk :=
  { talk with
    client := { nextId := talk.client.nextId + 1, usable := true }
    turns := rest
    sent := talk.sent ++ [{ command, fate := .answered result }] }

theorem sendCommand_hears (usable : talk.client.usable = true) (room : talk.client.nextId < u64Max)
    (turns : talk.turns = answerTo talk.client.nextId result :: rest) :
    sendCommand command talk = (.ok result, talk.hears command result rest) := by
  have fate : talk.fate = .answered result := by
    rw [Talk.fate, turns]
    exact answerTo_fate room
  rw [sendCommand_ready ⟨usable, room⟩, Talk.exchange, fate, turns]
  rfl

def nodeJson (dom : DomTree) (node : Int) : Json :=
  .object ([("backendNodeId", .int node), ("nodeId", .int (dom.nodeId node)), ("nodeType", .int 1)] ++
    (dom.knownParent node).toList.map fun parentId => ("parentId", .int parentId))

theorem i64_reads {number : Int} (word : isI64 number) : (Json.int number).asI64 = some number := if_pos word

theorem nodeJson_describes (word : isI64 node) : dom.Describes node (nodeJson dom node) := by
  constructor
  · simp [nodeJson, Json.i64At, Json.get, i64_reads word]
  · simp [nodeJson, Json.i64At, Json.get, i64_reads (dom.nodeId_word node)]
  · cases parent : dom.knownParent node with
    | none => simp [nodeJson, Json.i64At, Json.get, parent]
    | some parentId =>
      obtain ⟨above, _, rfl, _⟩ := DomTree.knownParent_some parent
      simp [nodeJson, Json.i64At, Json.get, parent, i64_reads (dom.nodeId_word above)]

theorem nodeJson_enabled (node : Int) : rejectDisabledNode (nodeJson dom node) = .ok () := by
  have bare : (nodeJson dom node).get "attributes" = none := by
    cases parent : dom.knownParent node with
    | none => simp [nodeJson, Json.get, parent]
    | some parentId => simp [nodeJson, Json.get, parent]
  have plain : ∀ name, nodeAttribute (nodeJson dom node) name = none := by
    intro name
    simp [nodeAttribute, bare]
  simp [rejectDisabledNode, plain, require]

theorem nodeJson_live (word : isI64 node) : validateLiveNode (nodeJson dom node) node = .ok () := by
  have describes : dom.Describes node (nodeJson dom node) := nodeJson_describes word
  obtain ⟨backendNodeId, nodeId, _⟩ := describes
  have kind : (nodeJson dom node).u64At "nodeType" = some 1 := by
    simp [nodeJson, Json.u64At, Json.get, Json.asU64]
  simp [validateLiveNode, backendNodeId, nodeId, kind, require]

theorem node_reads (described : Json) : (Json.object [("node", described)]).get "node" = some described := by
  simp [Json.get]

theorem describeElement_hears (usable : talk.client.usable = true) (room : talk.client.nextId + 1 < u64Max)
    (word : isI64 ref) (turns : talk.turns = answerTo talk.client.nextId .null ::
      answerTo (talk.client.nextId + 1) (.object [("node", nodeJson dom ref)]) :: rest) :
    describeElement sessionId ref talk = (.ok { sessionId, backendNodeId := ref, node := nodeJson dom ref },
      (talk.hears (.getDocument sessionId) .null
        (answerTo (talk.client.nextId + 1) (.object [("node", nodeJson dom ref)]) :: rest)).hears
        (.describeBackendNode sessionId ref) (.object [("node", nodeJson dom ref)]) rest) := by
  have document : sendCommand (.getDocument sessionId) talk = _ := sendCommand_hears usable (Nat.lt_of_succ_lt room) turns
  unfold describeElement
  rw [Attempt.bind_of_ok (Attempt.discard_ok.mpr ⟨_, document⟩), Attempt.bind_of_ok (sendCommand_hears rfl room rfl),
    node_reads]
  simp only [orElse, Attempt.lift_ok_bind]
  rw [nodeJson_live word]
  rfl

theorem isNodeWithin_hears (usable : talk.client.usable = true) (room : talk.client.nextId < u64Max)
    (apart : hit ≠ ref) (word : isI64 hit) (hidden : dom.nodeId hit = 0)
    (turns : talk.turns = answerTo talk.client.nextId (.object [("node", nodeJson dom hit)]) :: rest) :
    isNodeWithin sessionId hit ref 0 talk =
      (.ok true, talk.hears (.describeBackendNode sessionId hit) (.object [("node", nodeJson dom hit)]) rest) := by
  have shown : (nodeJson dom hit).i64At "nodeId" = some 0 := by rw [(nodeJson_describes word).nodeId, hidden]
  unfold isNodeWithin
  rw [if_neg apart, Attempt.bind_of_ok (sendCommand_hears usable room turns), node_reads]
  simp only [orElse, Attempt.lift_ok_bind]
  rw [cdpMaxSnapshotElements, climbToNode, if_pos (.inl shown)]
  rfl

theorem hit_reads (word : isI64 hit) :
    (Json.object [("backendNodeId", .int hit)]).i64At "backendNodeId" = some hit := by
  simp [Json.i64At, Json.get, i64_reads word]

def foreignTurns (dom : DomTree) (ref hit : Int) (id : Nat) : List WireTurn :=
  [answerTo id .null, answerTo (id + 1) (.object [("node", nodeJson dom ref)]), answerTo (id + 2) (dom.box ref),
    answerTo (id + 3) (.object [("backendNodeId", .int hit)]), answerTo (id + 4) (.object [("node", nodeJson dom hit)])]

theorem aimAtElement_hears (usable : talk.client.usable = true) (room : talk.client.nextId + 2 < u64Max)
    (word : isI64 ref) (centre : config.boxCenter (dom.box ref) = .ok (x, y)) (apart : dom.nodeAt x y ≠ ref)
    (unknown : dom.nodeId ref = 0) (hidden : dom.nodeId (dom.nodeAt x y) = 0)
    (turns : talk.turns = [answerTo talk.client.nextId (dom.box ref),
      answerTo (talk.client.nextId + 1) (.object [("backendNodeId", .int (dom.nodeAt x y))]),
      answerTo (talk.client.nextId + 2) (.object [("node", nodeJson dom (dom.nodeAt x y))])]) :
    aimAtElement config { sessionId, backendNodeId := ref, node := nodeJson dom ref } talk = (.ok (x, y),
      ((talk.hears (.getBoxModel sessionId ref) (dom.box ref)
        [answerTo (talk.client.nextId + 1) (.object [("backendNodeId", .int (dom.nodeAt x y))]),
          answerTo (talk.client.nextId + 2) (.object [("node", nodeJson dom (dom.nodeAt x y))])]).hears
        (.getNodeForLocation sessionId x y) (.object [("backendNodeId", .int (dom.nodeAt x y))])
        [answerTo (talk.client.nextId + 2) (.object [("node", nodeJson dom (dom.nodeAt x y))])]).hears
        (.describeBackendNode sessionId (dom.nodeAt x y)) (.object [("node", nodeJson dom (dom.nodeAt x y))]) []) := by
  have first : talk.client.nextId < u64Max := Nat.lt_of_succ_lt (Nat.lt_of_succ_lt room)
  have shown : (nodeJson dom ref).i64At "nodeId" = some 0 := by rw [(nodeJson_describes word).nodeId, unknown]
  unfold aimAtElement
  rw [nodeJson_enabled, shown]
  simp only [orElse, Attempt.lift_ok_bind]
  rw [Attempt.bind_of_ok (sendCommand_hears usable first turns), centre]
  simp only [Attempt.lift_ok_bind]
  rw [Attempt.bind_of_ok (sendCommand_hears rfl (Nat.lt_of_succ_lt room) rfl), hit_reads (dom.nodeAt_word x y)]
  simp only [Attempt.lift_ok_bind]
  rw [Attempt.bind_of_ok (isNodeWithin_hears rfl room apart (dom.nodeAt_word x y) hidden rfl)]
  rfl

theorem nodeJson_tells (word : isI64 node) :
    dom.Tells { command := .describeBackendNode sessionId node, fate := .answered (.object [("node", nodeJson dom node)]) } := by
  intro described read
  rw [node_reads] at read
  cases read
  exact nodeJson_describes word

def foreignDescribed (dom : DomTree) (bridge : CdpBridgeState) (sessionId : String) (ref hit : Int) : Talk :=
  let turns := foreignTurns dom ref hit bridge.client.nextId
  ((bridge.talk turns).hears (.getDocument sessionId) .null turns.tail).hears (.describeBackendNode sessionId ref)
    (.object [("node", nodeJson dom ref)]) turns.tail.tail

def foreignLog (dom : DomTree) (sessionId : String) (ref hit x y : Int) : List SentCommand :=
  [{ command := .getDocument sessionId, fate := .answered .null },
    { command := .describeBackendNode sessionId ref, fate := .answered (.object [("node", nodeJson dom ref)]) },
    { command := .getBoxModel sessionId ref, fate := .answered (dom.box ref) },
    { command := .getNodeForLocation sessionId x y, fate := .answered (.object [("backendNodeId", .int hit)]) },
    { command := .describeBackendNode sessionId hit, fate := .answered (.object [("node", nodeJson dom hit)]) }]

theorem foreignLog_tells (word : isI64 ref) {sent : SentCommand}
    (inside : sent ∈ foreignLog dom sessionId ref (dom.nodeAt x y) x y) : dom.Tells sent := by
  simp only [foreignLog, List.mem_cons, List.not_mem_nil, or_false] at inside
  obtain rfl | rfl | rfl | rfl | rfl := inside
  · trivial
  · exact nodeJson_tells word
  · rfl
  · intro hit read
    rw [hit_reads (dom.nodeAt_word x y)] at read
    exact (Option.some.inj read).symm
  · exact nodeJson_tells (dom.nodeAt_word x y)

theorem foreign_aim (sessionId : String) (room : bridge.client.nextId + 5 < u64Max) (word : isI64 ref)
    (centre : config.boxCenter (dom.box ref) = .ok (x, y)) (apart : dom.nodeAt x y ≠ ref) (unknown : dom.nodeId ref = 0)
    (hidden : dom.nodeId (dom.nodeAt x y) = 0) :
    ∃ aimed : Talk,
      aimAtElement config { sessionId, backendNodeId := ref, node := nodeJson dom ref }
        (foreignDescribed dom bridge sessionId ref (dom.nodeAt x y)) = (.ok (x, y), aimed) ∧
      aimed.ready ∧ aimed.fate = .lost ∧ aimed.sent = foreignLog dom sessionId ref (dom.nodeAt x y) x y := by
  have fourth : (foreignDescribed dom bridge sessionId ref (dom.nodeAt x y)).client.nextId + 2 < u64Max :=
    Nat.lt_of_succ_lt room
  exact ⟨_, aimAtElement_hears rfl fourth word centre apart unknown hidden rfl, ⟨rfl, room⟩, rfl, rfl⟩

theorem foreign_click (click : request.operation = .click) (refers : RefersTo config request bridge.pages page ref)
    (word : isI64 ref) (centre : config.boxCenter (dom.box ref) = .ok (x, y)) (usable : bridge.client.usable = true)
    (room : bridge.client.nextId + 5 < u64Max) (apart : dom.nodeAt x y ≠ ref) (unknown : dom.nodeId ref = 0)
    (hidden : dom.nodeId (dom.nodeAt x y) = 0) :
    ∃ turns outcome later sent, dispatchElementAction config request (bridge.talk turns) = (outcome, later) ∧
      dom.Truthful later ∧ sent ∈ later.sent ∧ sent.command.mousePoint = some (x, y) := by
  let turns := foreignTurns dom ref (dom.nodeAt x y) bridge.client.nextId
  have located : locateElement config request (bridge.talk turns) =
      describeElement page.sessionId ref (bridge.talk turns) := locateElement_refers refers
  have second : bridge.client.nextId + 1 < u64Max := by omega
  have described : describeElement page.sessionId ref (bridge.talk turns) = (.ok _,
      foreignDescribed dom bridge page.sessionId ref (dom.nodeAt x y)) := describeElement_hears usable second word rfl
  obtain ⟨aimed, aims, ready, fate, log⟩ :=
    foreign_aim page.sessionId room word centre apart unknown hidden
  have pressed : sendCommand (.mousePressed page.sessionId x y) aimed =
      (.error unknownCdpCommandOutcome, aimed.exchange (.mousePressed page.sessionId x y)) := by
    rw [sendCommand_ready ready, fate]
    rfl
  refine ⟨turns, .error unknownCdpCommandOutcome, aimed.exchange (.mousePressed page.sessionId x y),
    { command := .mousePressed page.sessionId x y, fate := aimed.fate }, ?_, ?_, ?_, rfl⟩
  · rw [dispatchElementAction_click click, Attempt.bind_of_ok (located.trans described), Attempt.bind_of_ok aims]
    unfold clickAt
    rw [Attempt.bind_of_error (Attempt.discard_error.mpr pressed)]
  · intro sent inside
    obtain early | new := List.mem_append.mp inside
    · rw [log] at early
      exact foreignLog_tells word early
    · rw [List.mem_singleton.mp new, fate]
      trivial
  · exact List.mem_append_right _ (List.mem_singleton_self _)

end Foreign

section Reach

/-- Every click whose replies are consistent with the document reaches its ref. -/
def ClicksReach (config : CdpConfig) (request : ActionRequest) (dom : DomTree) (bridge : CdpBridgeState) : Prop :=
  ∀ turns outcome later, dispatchElementAction config request (bridge.talk turns) = (outcome, later) ->
    dom.Truthful later -> ClickReaches config request dom bridge outcome later

/-- Clicks reach their ref exactly when the ref or the hit node is known to the client, or the hit node lies below. -/
theorem clicks_reach_iff (click : request.operation = .click) :
    ClicksReach config request dom bridge <-> NodeKnown config request dom bridge := by
  constructor
  · intro reaches page ref x y refers word centre usable room
    by_contra unknown
    rw [not_or, not_or, not_not, not_not] at unknown
    obtain ⟨refUnknown, hidden, elsewhere⟩ := unknown
    have apart : dom.nodeAt x y ≠ ref := by
      intro same
      exact elsewhere (same ▸ .self)
    obtain ⟨turns, outcome, later, sent, ran, truthful, inside, mouse⟩ :=
      foreign_click click refers word centre usable room apart refUnknown hidden
    obtain ⟨page', ref', refers', within⟩ := (reaches turns outcome later ran truthful).within sent (x, y) inside mouse
    obtain ⟨_, rfl⟩ := refers.unique refers'
    exact elsewhere within
  · intro known turns outcome later ran truthful
    exact ⟨fun sent point inside mouse => click_within click known ran truthful inside mouse,
      fun page ref x y depth refers centre below room => click_accepted click ran truthful refers centre below room⟩

def overlaidIds (node : Int) : Int := if node = 1 then 1 else 0

theorem overlaidIds_distinct (one other : Int) (same : overlaidIds one = overlaidIds other)
    (pushed : overlaidIds one ≠ 0) : one = other := by
  unfold overlaidIds at same pushed
  split_ifs at same pushed <;> omega

theorem overlaidIds_word (node : Int) : isI64 (overlaidIds node) := by
  unfold isI64 overlaidIds
  split_ifs <;> omega

theorem eight_word (_ _ : Int) : isI64 8 := by
  unfold isI64
  omega

def overlaidPage : DomTree where
  parent node := if node = 5 ∨ node = 8 then some 1 else none
  nodeId := overlaidIds
  distinct := overlaidIds_distinct
  box _ := .object [("model", .object [("content", .array ([0, 0, 20, 0, 20, 20, 0, 20].map .int))])]
  nodeAt _ _ := 8
  nodeId_word := overlaidIds_word
  nodeAt_word := eight_word

def pushedIds (node : Int) : Int := if node = 1 then 1 else if node = 5 then 2 else 0

theorem pushedIds_distinct (one other : Int) (same : pushedIds one = pushedIds other) (pushed : pushedIds one ≠ 0) :
    one = other := by
  unfold pushedIds at same pushed
  split_ifs at same pushed <;> omega

theorem pushedIds_word (node : Int) : isI64 (pushedIds node) := by
  unfold isI64 pushedIds
  split_ifs <;> omega

def pushedPage : DomTree :=
  { overlaidPage with nodeId := pushedIds, distinct := pushedIds_distinct, nodeId_word := pushedIds_word }

theorem button_refers : RefersTo sampleCdp clickRequest buttonBridge.pages buttonPage 5 :=
  ⟨⟨1⟩, clickInput, rfl, click_reads, rfl, rfl, by decide, rfl⟩

theorem pushed_clicks_reach : ClicksReach sampleCdp clickRequest pushedPage buttonBridge := by
  rw [clicks_reach_iff rfl]
  intro page ref x y refers _ _ _ _
  obtain ⟨_, rfl⟩ := button_refers.unique refers
  left
  decide

theorem overlay_elsewhere : ¬ overlaidPage.Within 5 8 := by
  intro within
  cases within with
  | child parent within =>
    cases (Option.some.inj parent : (1 : Int) = _)
    cases within with
    | child parent within => cases parent

/-- The overlay is clicked in place of the button behind it. -/
theorem overlay_clicked : ∃ turns outcome later sent,
    dispatchElementAction sampleCdp clickRequest (buttonBridge.talk turns) = (outcome, later) ∧
      overlaidPage.Truthful later ∧ sent ∈ later.sent ∧ sent.command.mousePoint = some (10, 10) ∧
      overlaidPage.nodeAt 10 10 = 8 ∧ ¬ overlaidPage.Within 5 8 ∧
      RefersTo sampleCdp clickRequest buttonBridge.pages buttonPage 5 := by
  have word : isI64 5 := by
    unfold isI64
    omega
  have room : buttonBridge.client.nextId + 5 < u64Max := by decide
  obtain ⟨turns, outcome, later, sent, ran, truthful, inside, mouse⟩ :=
    foreign_click (rfl : clickRequest.operation = .click) button_refers word
      (rfl : sampleCdp.boxCenter (overlaidPage.box 5) = .ok (10, 10)) rfl room (by decide) rfl rfl
  exact ⟨turns, outcome, later, sent, ran, truthful, inside, mouse, rfl, overlay_elsewhere, button_refers⟩

end Reach

end AgentycHost
