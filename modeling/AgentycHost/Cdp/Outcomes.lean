import AgentycHost.Cdp.Effects
import AgentycHost.System.Runs

set_option autoImplicit false

/-!
# Uncertain outcomes

An action is a chain of commands, and its outcome is read off the error that
ended the chain. A refusal late in the chain is reported as a failure of the
whole action, whatever the commands before it did.
-/

namespace AgentycHost

open Shared

def SentCommand.refused (sent : SentCommand) : Bool :=
  match sent.fate, sent.command with
  | .lost, _ => false
  | .rejected, _ => true
  | .answered result, .navigate .. => (result.strAt "errorText").isSome
  | .answered result, .closeTarget .. => result.boolAt "success" == some false
  | .answered _, _ => false

def SentCommand.mayHaveActed (sent : SentCommand) : Bool := sent.command.changesState && !sent.refused

def Talk.quiet (talk : Talk) : Prop := ∀ sent, sent ∈ talk.sent -> sent.mayHaveActed = false

inductive HonestOutcome (served : Served) : Prop where
  | succeeded (reply : served.reply = .dispatched .succeeded)
  | unknown {reason : UnknownReason} (reply : served.reply = .dispatched (.unknown reason))
  | failed {code : ErrorCode} {retryable : Bool} (reply : served.reply = .dispatched (.failed code retryable))
      (quiet : ∀ sent, sent ∈ served.sent -> sent.mayHaveActed = false)

def Talk.Answers (talk : Talk) : Prop := talk.ready ∧ ∃ result, talk.fate = .answered result

def Talk.TurnsAway (talk : Talk) : Prop := u64Max ≤ talk.client.nextId ∨ talk.fate = .rejected

inductive LateRefusal (config : CdpConfig) (request : ActionRequest) (talk : Talk) : Prop where
  -- the press is answered, and the release is turned away
  | release {element : LiveElement} {point : Int × Int} {located aimed : Talk} (click : request.operation = .click)
      (found : locateElement config request talk = (.ok element, located))
      (hit : aimAtElement config element located = (.ok point, aimed)) (pressed : aimed.Answers)
      (away : (aimed.exchange (.mousePressed element.sessionId point.1 point.2)).TurnsAway)
  -- the focus is answered, and the text is turned away
  | text {element : LiveElement} {text : String} {located : Talk} (input : request.operation = .input)
      (found : locateElement config request talk = (.ok element, located))
      (admitted : admitText request element = .ok text) (focused : located.Answers)
      (away : (located.exchange (.focus element.sessionId element.backendNodeId)).TurnsAway)
  -- the close is answered, without saying whether it succeeded
  | close {pageId : PageId} {page : ManagedPage} {result : Json} (close : request.operation = .close)
      (about : request.pageId = some pageId) (held : talk.pages.get? (request.spaceId, pageId) = some page)
      (current : page.leaseEpoch = request.leaseEpoch) (ready : talk.ready) (fate : talk.fate = .answered result)
      (unclear : result.boolAt "success" = none)

def Misreports {A : Type} (attempt : Cdp A) (talk : Talk) : Prop :=
  ∃ error later, attempt talk = (.error error, later) ∧ isUncertain error.code = false ∧ ¬ later.quiet

section Chains

variable {A B : Type} {talk : Talk} {command : CdpCommand} {next : A -> Cdp B}

theorem Talk.quiet_exchange (quiet : talk.quiet)
    (harmless : ({ command, fate := talk.fate } : SentCommand).mayHaveActed = false) : (talk.exchange command).quiet := by
  intro sent inside
  obtain inside | inside := List.mem_append.mp inside
  · exact quiet sent inside
  · rw [List.mem_singleton] at inside
    rw [inside]
    exact harmless

theorem Talk.loud_exchange
    (acted : ({ command, fate := talk.fate } : SentCommand).mayHaveActed = true) : ¬ (talk.exchange command).quiet := by
  intro quiet
  have last := quiet _ (List.mem_append_right _ (List.mem_singleton_self _))
  rw [acted] at last
  cases last

theorem Talk.loud_later (loud : ¬ talk.quiet) : ¬ (talk.exchange command).quiet :=
  fun quiet => loud fun sent inside => quiet sent (List.mem_append_left _ inside)

theorem sendCommand_quiet (reads : command.changesState = false) : Attempt.Keeps Talk.quiet (sendCommand command) := by
  intro talk quiet
  generalize ran : sendCommand command talk = reply
  obtain ⟨outcome, later⟩ := reply
  have ended := sendCommand_end ran
  have sent : (talk.exchange command).quiet :=
    Talk.quiet_exchange quiet (by rw [SentCommand.mayHaveActed, reads, Bool.false_and])
  cases ended with
  | disconnected => exact quiet
  | exhausted => exact quiet
  | lost => exact sent
  | rejected => exact sent
  | answered => exact sent

theorem misreports_bind {first : Cdp A} (quiet : talk.quiet) (silent : Attempt.Keeps Talk.quiet first) :
    Misreports (first >>= next) talk <->
      ∃ value middle, first talk = (.ok value, middle) ∧ middle.quiet ∧ Misreports (next value) middle := by
  constructor
  · rintro ⟨error, later, ran, definite, loud⟩
    obtain ⟨failure, failed, _⟩ | ⟨value, middle, passed, rest⟩ := Attempt.bind_cases ran
    · exact absurd (silent.ran failed quiet) loud
    · exact ⟨value, middle, passed, silent.ran passed quiet, error, later, rest, definite, loud⟩
  · rintro ⟨value, middle, passed, _, error, later, rest, definite, loud⟩
    exact ⟨error, later, (Attempt.bind_of_ok passed).trans rest, definite, loud⟩

theorem misreports_lift {outcome : Except CoreError A} (quiet : talk.quiet) :
    Misreports (.lift outcome >>= next) talk <-> ∃ value, outcome = .ok value ∧ Misreports (next value) talk := by
  rw [misreports_bind quiet (.lift outcome)]
  constructor
  · rintro ⟨value, middle, passed, _, rest⟩
    rw [Attempt.lift_apply, Prod.mk.injEq] at passed
    obtain ⟨passed, rfl⟩ := passed
    exact ⟨value, passed, rest⟩
  · rintro ⟨value, rfl, rest⟩
    exact ⟨value, talk, rfl, quiet, rest⟩

theorem misreports_pair {first second : CdpCommand} (quiet : talk.quiet)
    (acts : ∀ result, ({ command := first, fate := .answered result } : SentCommand).mayHaveActed = true) :
    Misreports (do discard (sendCommand first); discard (sendCommand second)) talk <->
      talk.Answers ∧ (talk.exchange first).TurnsAway := by
  constructor
  · rintro ⟨error, later, ran, definite, loud⟩
    obtain ⟨failure, failed, same⟩ | ⟨_, middle, passed, rest⟩ := Attempt.bind_cases ran
    · cases same
      -- an error of the first command is uncertain, or nothing was done
      cases sendCommand_end (Attempt.discard_error.mp failed) with
      | disconnected => cases definite
      | exhausted => exact absurd quiet loud
      | lost => cases definite
      | rejected _ fate =>
        refine absurd (Talk.quiet_exchange quiet ?_) loud
        simp [SentCommand.mayHaveActed, SentCommand.refused, fate]
    · obtain ⟨_, passed⟩ := Attempt.discard_ok.mp passed
      have failed := Attempt.discard_error.mp rest
      cases sendCommand_end passed with
      | answered ready fate =>
        refine ⟨⟨ready, _, fate⟩, ?_⟩
        cases sendCommand_end failed with
        | disconnected => cases definite
        | exhausted _ last => exact .inl last
        | lost => cases definite
        | rejected _ fate => exact .inr fate
  · rintro ⟨⟨ready, result, fate⟩, away⟩
    have acted : ¬ (talk.exchange first).quiet := Talk.loud_exchange (by rw [fate]; exact acts result)
    have passed : sendCommand first talk = (.ok result, talk.exchange first) := by
      rw [sendCommand_ready ready, fate, Fate.result]
    have usable : (talk.exchange first).client.usable = true := by simp [Talk.exchange, fate, Fate.keepsConnection]
    have pressed := Attempt.discard_ok.mpr ⟨_, passed⟩
    by_cases last : u64Max ≤ (talk.exchange first).client.nextId
    · have failed : sendCommand second (talk.exchange first) = _ := sendCommand_exhausted usable last
      exact ⟨_, _, (Attempt.bind_of_ok pressed).trans (Attempt.discard_error.mpr failed), rfl, acted⟩
    · have ready : (talk.exchange first).ready := ⟨usable, Nat.not_le.mp last⟩
      have fate := away.resolve_left last
      have failed : sendCommand second (talk.exchange first) = _ := sendCommand_ready ready
      rw [fate, Fate.result] at failed
      exact ⟨_, _, (Attempt.bind_of_ok pressed).trans (Attempt.discard_error.mpr failed), rfl, Talk.loud_later acted⟩

end Chains

section Actions

variable {config : CdpConfig} {request : ActionRequest} {talk : Talk} {sessionId : String}

theorem navigateSession_reports {url : String} (quiet : talk.quiet) :
    ¬ Misreports (navigateSession sessionId url) talk := by
  unfold navigateSession
  rw [misreports_lift quiet]
  rintro ⟨_, _, error, later, ran, definite, loud⟩
  obtain ⟨failure, failed, same⟩ | ⟨result, middle, passed, rest⟩ := Attempt.bind_cases ran
  · cases same
    cases sendCommand_end failed with
    | disconnected => cases definite
    | exhausted => exact loud quiet
    | lost => cases definite
    | rejected _ fate =>
      refine loud (Talk.quiet_exchange quiet ?_)
      simp [SentCommand.mayHaveActed, SentCommand.refused, fate]
  · -- the reply carries an error text, so Chrome did not navigate
    rw [Attempt.lift_apply, Prod.mk.injEq] at rest
    obtain ⟨failed, rfl⟩ := rest
    have text : (result.strAt "errorText").isSome = true := by
      cases present : result.strAt "errorText" with
      | none => simp [present, require] at failed
      | some _ => rfl
    cases sendCommand_end passed with
    | answered _ fate =>
      refine loud (Talk.quiet_exchange quiet ?_)
      simp [SentCommand.mayHaveActed, SentCommand.refused, fate, text]

theorem navigatePage_reports (quiet : talk.quiet) : ¬ Misreports (navigatePage request) talk := by
  unfold navigatePage
  rw [misreports_lift quiet]
  rintro ⟨pageId, _, rest⟩
  rw [misreports_lift quiet] at rest
  obtain ⟨url, _, rest⟩ := rest
  rw [misreports_lift quiet] at rest
  obtain ⟨_, _, rest⟩ := rest
  rw [misreports_bind quiet (heldPage_keeps _ _)] at rest
  obtain ⟨page, _, present, _, rest⟩ := rest
  obtain ⟨held, _, rfl⟩ := heldPage_ok.mp present
  rw [misreports_lift quiet] at rest
  obtain ⟨navigationGeneration, _, rest⟩ := rest
  rw [misreports_lift quiet] at rest
  obtain ⟨documentGeneration, _, error, later, ran, definite, loud⟩ := rest
  obtain ⟨failure, failed, same⟩ | ⟨_, middle, passed, rest⟩ := Attempt.bind_cases ran
  · cases same
    exact navigateSession_reports quiet ⟨_, _, failed, definite, loud⟩
  · -- the record is still there, so its update succeeds
    have pages := (navigateSession_pages page.sessionId url).ran passed rfl
    rw [changeHeld_held (pages ▸ held)] at rest
    cases rest

theorem closeTarget_reports {targetId : String} (quiet : talk.quiet) :
    Misreports (closeTarget targetId) talk <->
      talk.ready ∧ ∃ result, talk.fate = .answered result ∧ result.boolAt "success" = none := by
  constructor
  · rintro ⟨error, later, ran, definite, loud⟩
    obtain ⟨failure, failed, same⟩ | ⟨result, middle, passed, rest⟩ := Attempt.bind_cases ran
    · cases same
      cases sendCommand_end failed with
      | disconnected => cases definite
      | exhausted => exact absurd quiet loud
      | lost => cases definite
      | rejected _ fate =>
        refine absurd (Talk.quiet_exchange quiet ?_) loud
        simp [SentCommand.mayHaveActed, SentCommand.refused, fate]
    · cases sendCommand_end passed with
      | answered ready fate =>
        refine ⟨ready, result, fate, ?_⟩
        cases success : result.boolAt "success" with
        | none => rfl
        | some done =>
          cases done with
          | true =>
            simp only [success] at rest
            cases rest
          | false =>
            simp only [success] at rest
            cases rest
            refine absurd (Talk.quiet_exchange quiet ?_) loud
            simp [SentCommand.mayHaveActed, SentCommand.refused, fate, success]
  · rintro ⟨ready, result, fate, unclear⟩
    have passed : sendCommand (.closeTarget targetId) talk = (.ok result, talk.exchange (.closeTarget targetId)) := by
      rw [sendCommand_ready ready, fate, Fate.result]
    have failed : closeTarget targetId talk = (.error (.new .protocolMismatch "Chrome DevTools close response is invalid"),
        talk.exchange (.closeTarget targetId)) := by
      refine (Attempt.bind_of_ok passed).trans ?_
      simp only [unclear]
      rfl
    refine ⟨_, _, failed, rfl, Talk.loud_exchange ?_⟩
    simp [SentCommand.mayHaveActed, SentCommand.refused, CdpCommand.changesState, fate, unclear]

theorem closeHeldPage_reports {spaceId : SpaceId} {pageId : PageId} {leaseEpoch : LeaseEpoch} (quiet : talk.quiet) :
    Misreports (closeHeldPage spaceId pageId leaseEpoch) talk <->
      ∃ page result, talk.pages.get? (spaceId, pageId) = some page ∧ page.leaseEpoch = leaseEpoch ∧ talk.ready ∧
        talk.fate = .answered result ∧ result.boolAt "success" = none := by
  unfold closeHeldPage
  rw [misreports_bind quiet (heldPage_keeps _ _)]
  constructor
  · rintro ⟨page, middle, present, _, error, later, ran, definite, loud⟩
    obtain ⟨held, current, rfl⟩ := heldPage_ok.mp present
    obtain ⟨failure, failed, same⟩ | ⟨_, _, _, rest⟩ := Attempt.bind_cases ran
    · cases same
      obtain ⟨ready, result, fate, unclear⟩ := (closeTarget_reports quiet).mp ⟨_, _, failed, definite, loud⟩
      exact ⟨page, result, held, current, ready, fate, unclear⟩
    · cases rest
  · rintro ⟨page, result, held, current, ready, fate, unclear⟩
    obtain ⟨error, later, ran, definite, loud⟩ := (closeTarget_reports quiet).mpr ⟨ready, result, fate, unclear⟩
    exact ⟨page, talk, heldPage_ok.mpr ⟨held, current, rfl⟩, quiet, error, later, Attempt.bind_of_error ran, definite,
      loud⟩

theorem misreports_fail {A : Type} {error : CoreError} (quiet : talk.quiet) :
    ¬ Misreports (.fail error : Cdp A) talk := by
  rintro ⟨_, _, ran, _, loud⟩
  cases ran
  exact loud quiet

theorem clickAt_reports {point : Int × Int} (quiet : talk.quiet) :
    Misreports (clickAt sessionId point) talk <->
      talk.Answers ∧ (talk.exchange (.mousePressed sessionId point.1 point.2)).TurnsAway :=
  misreports_pair quiet fun _ => rfl

theorem typeText_reports {element : LiveElement} {text : String} (quiet : talk.quiet) :
    Misreports (typeText element text) talk <->
      talk.Answers ∧ (talk.exchange (.focus element.sessionId element.backendNodeId)).TurnsAway :=
  misreports_pair quiet fun _ => rfl

theorem dispatchElementAction_reports (quiet : talk.quiet) :
    Misreports (dispatchElementAction config request) talk <->
      LateRefusal config request talk ∧ (request.operation = .click ∨ request.operation = .input) := by
  have reading := locateElement_keeps sendCommand_quiet config request
  unfold dispatchElementAction
  rw [misreports_bind quiet reading]
  constructor
  · rintro ⟨element, located, found, still, misreported⟩
    split at misreported
    next click =>
      rw [misreports_bind still (aimAtElement_keeps sendCommand_quiet config element)] at misreported
      obtain ⟨point, aimed, hit, quiet, misreported⟩ := misreported
      obtain ⟨pressed, away⟩ := (clickAt_reports quiet).mp misreported
      exact ⟨.release click found hit pressed away, .inl click⟩
    next input =>
      rw [misreports_lift still] at misreported
      obtain ⟨text, admitted, misreported⟩ := misreported
      obtain ⟨focused, away⟩ := (typeText_reports still).mp misreported
      exact ⟨.text input found admitted focused away, .inr input⟩
    next => exact absurd misreported (misreports_fail still)
  · rintro ⟨late, operation⟩
    cases late with
    | @release element point located aimed click found hit pressed away =>
      have still := reading.ran found quiet
      have aiming := aimAtElement_keeps sendCommand_quiet config element
      refine ⟨element, located, found, still, ?_⟩
      simp only [click]
      rw [misreports_bind still aiming]
      exact ⟨point, aimed, hit, aiming.ran hit still, (clickAt_reports (aiming.ran hit still)).mpr ⟨pressed, away⟩⟩
    | @text element text located input found admitted focused away =>
      have still := reading.ran found quiet
      refine ⟨element, located, found, still, ?_⟩
      simp only [input]
      rw [misreports_lift still]
      exact ⟨text, admitted, (typeText_reports still).mpr ⟨focused, away⟩⟩
    | close close => simp [close] at operation

theorem performAction_reports (quiet : talk.quiet) :
    Misreports (performAction config request) talk <-> LateRefusal config request talk := by
  constructor
  · intro misreported
    unfold performAction at misreported
    split at misreported
    next => exact absurd misreported (navigatePage_reports quiet)
    next => exact ((dispatchElementAction_reports quiet).mp misreported).1
    next => exact ((dispatchElementAction_reports quiet).mp misreported).1
    next close =>
      rw [misreports_lift quiet] at misreported
      obtain ⟨pageId, about, misreported⟩ := misreported
      obtain ⟨page, result, held, current, ready, fate, unclear⟩ := (closeHeldPage_reports quiet).mp misreported
      exact .close close (orElse_ok.mp about) held current ready fate unclear
    next => exact absurd misreported (misreports_fail quiet)
  · intro late
    have whole := late
    unfold performAction
    cases late with
    | release click =>
      simp only [click]
      exact (dispatchElementAction_reports quiet).mpr ⟨whole, .inl click⟩
    | text input =>
      simp only [input]
      exact (dispatchElementAction_reports quiet).mpr ⟨whole, .inr input⟩
    | close close about held current ready fate unclear =>
      simp only [close]
      rw [misreports_lift quiet]
      exact ⟨_, orElse_ok.mpr about, (closeHeldPage_reports quiet).mpr ⟨_, _, held, current, ready, fate, unclear⟩⟩

theorem serve_honest (outside : CdpOutside) (bridge : CdpBridgeState) :
    HonestOutcome (serve config outside (.dispatch request) bridge) <->
      ¬ Misreports (performAction config request) (bridge.talk outside.turns) := by
  generalize ran : performAction config request (bridge.talk outside.turns) = reply
  obtain ⟨outcome, later⟩ := reply
  have sent : (serve config outside (.dispatch request) bridge).sent = later.sent := by
    simp [serve, CdpBridgeState.perform, dispatchAttempt, Attempt.afterwards, ran, Talk.sent_invalidated]
  have reply : (serve config outside (.dispatch request) bridge).reply = .dispatched (reportOutcome outcome) := by
    simp [serve, CdpBridgeState.perform, dispatchAttempt, Attempt.afterwards, ran]
  constructor
  · rintro honest ⟨error, _, failed, definite, loud⟩
    cases ran.symm.trans failed
    rw [reportOutcome, definite] at reply
    cases honest with
    | succeeded other => cases reply.symm.trans other
    | unknown other => cases reply.symm.trans other
    | failed _ quiet =>
      rw [sent] at quiet
      exact loud quiet
  · intro honest
    cases outcome with
    | ok => exact .succeeded reply
    | error error =>
      cases definite : isUncertain error.code with
      | true =>
        rw [reportOutcome, definite] at reply
        exact .unknown reply
      | false =>
        rw [reportOutcome, definite] at reply
        refine .failed reply ?_
        rw [sent]
        by_contra loud
        exact honest ⟨error, later, ran, definite, loud⟩

end Actions

theorem failed_only_if_nothing_acted (config : CdpConfig) (outside : CdpOutside) (request : ActionRequest)
    (bridge : CdpBridgeState) :
    HonestOutcome (serve config outside (.dispatch request) bridge) <->
      ¬ LateRefusal config request (bridge.talk outside.turns) := by
  rw [serve_honest, performAction_reports]
  intro sent inside
  cases inside

theorem locateElement_held {config : CdpConfig} {request : ActionRequest} {talk : Talk} {pageId : PageId}
    {input : ActionabilityInput} {page : ManagedPage} (about : requiredPage request = .ok pageId)
    (read : ActionabilityInput.fromPayload config.codec request.payload = .ok (some input))
    (held : heldPage (request.spaceId, pageId) request.leaseEpoch talk = (.ok page, talk)) :
    locateElement config request talk = (show Cdp LiveElement from do
      .lift (require (refMatchesPage request pageId input page)
        (.staleRef "element ref no longer matches the managed page snapshot"))
      let backendNodeId <- .lift (orElse (page.backendNodes.get? input.elementRef.elementKey)
        (.staleRef "element key is not bound to a live DOM node"))
      discard (sendCommand (.getDocument page.sessionId))
      let described <- sendCommand (.describeBackendNode page.sessionId backendNodeId)
      let node <- .lift (orElse (described.get "node") (.new .protocolMismatch "Chrome DevTools node is missing"))
      .lift (validateLiveNode node backendNodeId)
      pure { sessionId := page.sessionId, backendNodeId, node }) talk := by
  unfold locateElement
  rw [about, read]
  exact Attempt.bind_of_ok held

section Sample

def buttonKey : ElementKey := ⟨"button", by decide⟩

def buttonRef : ElementRef where
  refId := .host 1
  elementKey := buttonKey
  spaceId := ⟨1⟩
  pageId := ⟨1⟩
  frameId := mainFrame
  snapshotVersion := 1
  documentGeneration := 1
  navigationGeneration := 1
  refsEpoch := 1

def buttonRefText : String :=
  "\x7b\"ref_id\":\"ref_host-1\",\"element_key\":\"element_button\",\"space_id\":\"space_space-1\"," ++
    "\"page_id\":\"page_page-1\",\"frame_id\":\"frame_main\",\"snapshot_version\":1," ++
    "\"document_generation\":1,\"navigation_generation\":1,\"refs_epoch\":1\x7d"

def buttonProvenance : SnapshotProvenance where
  spaceId := ⟨1⟩
  pageId := ⟨1⟩
  snapshotVersion := 1
  snapshotHash := ⟨7⟩
  documentGeneration := 1
  navigationGeneration := 1
  refsEpoch := 1
  coherent := true
  coverage := .complete

def buttonProvenanceText : String :=
  "\x7b\"space_id\":\"space_space-1\",\"page_id\":\"page_page-1\",\"snapshot_version\":1," ++
    "\"snapshot_hash\":\"fnv1a64:0000000000000007\",\"document_generation\":1,\"navigation_generation\":1," ++
    "\"refs_epoch\":1,\"coherent\":true,\"coverage\":\"complete\"\x7d"

def sampleCdp : CdpConfig where
  codec := { sampleCodec with
    parseElementRef := fun text => if text = buttonRefText then some buttonRef else none
    parseProvenance := fun text => if text = buttonProvenanceText then some buttonProvenance else none
    parseEvidence := fun text => if text = "\x7b\x7d" then some {} else none }
  boxCenter model :=
    match ((model.get "model").bind fun model => model.get "content").bind Json.asArray with
    | some [_, _, _, _, _, _, _, _] => .ok (10, 10)
    | _ => .error (.new .targetReplaced "referenced element has no current content box")
  parseDomSnapshot _ := .ok { elements := [], backendNodes := ∅, truncated := false }
  buildSnapshotEnvelope spaceId pageId navigationGeneration documentGeneration snapshotVersion _ :=
    .ok ({ spaceId, pageId, snapshotVersion, snapshotHash := ⟨7⟩, navigationGeneration, documentGeneration,
           refsEpoch := snapshotVersion, coherent := true, coverage := .complete, truncated := false,
           resyncRequired := false, frameVersions := [], elementKeys := some [], body := "" }, ∅)

def buttonPage : ManagedPage :=
  { createdPage "target-1" "session-1" 1 (some "https://example.com/") none with
    snapshotVersion := 1, backendNodes := (∅ : Table ElementKey Int).insert buttonKey 5 }

def buttonBridge : CdpBridgeState where
  client := .connected
  pages := (∅ : Table PageKey ManagedPage).insert (⟨1⟩, ⟨1⟩) buttonPage

def clickRequest : ActionRequest :=
  { firstRequest with
    pageId := some ⟨1⟩, operation := .click,
    payload := [("element_ref", buttonRefText), ("provenance", buttonProvenanceText), ("evidence", "\x7b\x7d")] }

def answeredWith (id : Int) (result : List (String × Json)) : WireTurn :=
  .frames [.object [("id", .int id), ("result", .object result)]]

def rejectedWith (id : Int) (message : String) : WireTurn :=
  .frames [.object [("id", .int id), ("error", .object [("code", .int (-32000)), ("message", .string message)])]]

def stuckButton : CdpOutside where
  turns :=
    [answeredWith 1 [],
     answeredWith 2 [("node", .object [("backendNodeId", .int 5), ("nodeId", .int 9), ("nodeType", .int 1)])],
     answeredWith 3 [("model", .object [("content", .array ([0, 0, 20, 0, 20, 20, 0, 20].map .int))])],
     answeredWith 4 [("backendNodeId", .int 5)],
     answeredWith 5 [],
     rejectedWith 6 "Target closed"]
  tab := { answer := .ok (), polls := 0 }

theorem buttonRef_reads (payload : Payload) (key : String) (given : payloadField payload key = some buttonRefText) :
    parsePayloadJson sampleCdp.codec.parseElementRef payload key = .ok buttonRef := by
  have spelled : buttonRefText.toList.length ≤ 1000 ∧ buttonRefText.toList.any isControl = false := by
    unfold buttonRefText
    rw [String.toList_append, String.toList_append, String.toList_ofList, String.toList_ofList, String.toList_ofList]
    decide +kernel
  have parsed : sampleCdp.codec.parseElementRef buttonRefText = some buttonRef := by simp only [sampleCdp, if_true]
  exact parsePayloadJson_ok.mpr ⟨_, given, boundedText_short (by omega) spelled.2, parsed⟩

theorem buttonProvenance_reads (payload : Payload) (key : String) (given : payloadField payload key = some buttonProvenanceText) :
    parsePayloadJson sampleCdp.codec.parseProvenance payload key = .ok buttonProvenance := by
  have spelled : buttonProvenanceText.toList.length ≤ 1000 ∧ buttonProvenanceText.toList.any isControl = false := by
    unfold buttonProvenanceText
    rw [String.toList_append, String.toList_append, String.toList_ofList, String.toList_ofList, String.toList_ofList]
    decide +kernel
  have parsed : sampleCdp.codec.parseProvenance buttonProvenanceText = some buttonProvenance := by simp only [sampleCdp, if_true]
  exact parsePayloadJson_ok.mpr ⟨_, given, boundedText_short (by omega) spelled.2, parsed⟩

theorem click_reads : ActionabilityInput.fromPayload sampleCdp.codec clickRequest.payload =
    .ok (some { elementRef := buttonRef, provenance := buttonProvenance, frameId := mainFrame, evidence := {} }) := by
  have present : hasActionabilityInput clickRequest.payload = true := by decide
  have element := buttonRef_reads clickRequest.payload "element_ref" rfl
  have provenance := buttonProvenance_reads clickRequest.payload "provenance" rfl
  have evidence : parsePayloadJson sampleCdp.codec.parseEvidence clickRequest.payload "evidence" = .ok {} := by
    refine parsePayloadJson_ok.mpr ⟨"\x7b\x7d", rfl, by decide, by simp only [sampleCdp, if_true]⟩
  have read : firstOk (parsePayloadJson sampleCdp.codec.parseEvidence clickRequest.payload "actionability_evidence")
      (parsePayloadJson sampleCdp.codec.parseEvidence clickRequest.payload "evidence") = .ok {} := by
    rw [evidence]
    rfl
  have unscoped : payloadField clickRequest.payload "frame_scope" = none := by decide
  rw [ActionabilityInput.fromPayload, present, element, provenance, read, unscoped]
  rfl



def clickInput : ActionabilityInput := { elementRef := buttonRef, provenance := buttonProvenance, frameId := mainFrame, evidence := {} }



def failsLoudly (reply : Except CoreError Unit × Talk) : Bool :=
  match reply.1 with
  | .error error => !isUncertain error.code && reply.2.sent.any SentCommand.mayHaveActed
  | .ok _ => false

theorem failsLoudly_misreports {attempt : Cdp Unit} {talk : Talk} (loud : failsLoudly (attempt talk) = true) :
    Misreports attempt talk := by
  generalize ran : attempt talk = reply at loud
  obtain ⟨outcome | _, later⟩ := reply
  · obtain ⟨definite, acted⟩ := (Bool.and_eq_true _ _).mp loud
    refine ⟨outcome, later, ran, by simpa using definite, ?_⟩
    obtain ⟨sent, inside, acted⟩ := List.any_eq_true.mp acted
    intro quiet
    rw [quiet sent inside] at acted
    cases acted
  · cases loud

theorem rejected_release_reported_failed :
    ¬ HonestOutcome (serve sampleCdp stuckButton (.dispatch clickRequest) buttonBridge) := by
  have silent : (buttonBridge.talk stuckButton.turns).quiet := by
    intro sent inside
    cases inside
  have held : heldPage (clickRequest.spaceId, ⟨1⟩) clickRequest.leaseEpoch (buttonBridge.talk stuckButton.turns) =
      (.ok buttonPage, buttonBridge.talk stuckButton.turns) := heldPage_ok.mpr ⟨rfl, rfl, rfl⟩
  have found := locateElement_held rfl click_reads held
  have misreported : Misreports (dispatchElementAction sampleCdp clickRequest) (buttonBridge.talk stuckButton.turns) := by
    apply failsLoudly_misreports
    rw [dispatchElementAction, Attempt.bind_same _ found]
    decide
  have late := ((dispatchElementAction_reports silent).mp misreported).1
  exact fun honest => serve_honest stuckButton buttonBridge |>.mp honest ((performAction_reports silent).mpr late)

end Sample

end AgentycHost
