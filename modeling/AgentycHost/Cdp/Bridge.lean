import AgentycHost.Broker.Actions
import AgentycHost.Broker.Sessions
import AgentycHost.Cdp.Wire

set_option autoImplicit false

/-!
# The bridge to Chrome

The bridge keeps one record per managed page and answers one call at a time.
-/

namespace AgentycHost

open Shared

structure DomSnapshot where
  elements : List (ElementKey × String)
  backendNodes : Table ElementKey Int
  truncated : Bool

structure CdpConfig where
  codec : Codec
  boxCenter : Json -> Except CoreError (Int × Int)
  parseDomSnapshot : Json -> Except CoreError DomSnapshot
  buildSnapshotEnvelope : SpaceId -> PageId -> (navigationGeneration documentGeneration snapshotVersion : Nat) ->
    DomSnapshot -> Except CoreError (SnapshotEnvelope × Table ElementKey Int)

def asciiLowercase (text : String) : List Nat := (bytes text).map toAsciiLowercase

def restrictedSchemes : List String :=
  ["chrome:", "edge:", "about:", "devtools:", "view-source:", "chrome-extension:", "file:"]

def isRestrictedPageUrl (url : String) : Bool :=
  restrictedSchemes.any fun scheme => (bytes scheme).isPrefixOf (asciiLowercase url)

def validatePageUrl (url : String) : Except CoreError Unit :=
  if url.isEmpty || decide (4096 < url.utf8ByteSize) || url.toList.any isWhitespace then
    .error (.invalidArgument "page URL is invalid")
  else if isRestrictedPageUrl url then .error (.new .permissionDenied "browser-restricted pages cannot be managed")
  else .ok ()

def validateCreationProof (spaceId : SpaceId) (pageId : PageId) (leaseEpoch : LeaseEpoch) (proof : Json) :
    Except CoreError Unit :=
  if proof.boolAt "issued_by_host" = some true ∧ proof.strAt "kind" = some "creation" ∧
      proof.strAt "space_id" = some spaceId.text ∧ proof.strAt "page_id" = some pageId.text ∧
      proof.u64At "lease_epoch" = some leaseEpoch then .ok ()
  else .error (.new .permissionDenied "managed page creation proof is invalid")

def creationProof (spaceId : SpaceId) (pageId : PageId) (leaseEpoch : LeaseEpoch)
    (profileBindingId : Option ProfileBindingId) (epochs : Option ExtensionEpochs) : Json :=
  .object ([("issued_by_host", .bool true),
    ("proof_id", .string ("proof-create-" ++ pageId.text ++ "-" ++ toString leaseEpoch)),
    ("kind", .string "creation"), ("space_id", .string spaceId.text), ("page_id", .string pageId.text),
    ("lease_epoch", .int leaseEpoch)] ++
    (profileBindingId.map fun profile => ("profile_instance_id", Json.string profile.text)).toList ++
    (epochs.map fun epochs => ("browser_session_epoch", Json.int epochs.browserSessionEpoch)).toList)

def Talk.invalidatePagesIfClientUnusable (talk : Talk) : Talk :=
  if talk.client.usable then talk else { talk with pages := ∅ }

def heldPage (key : PageKey) (leaseEpoch : LeaseEpoch) : Cdp ManagedPage := do
  let talk <- .get
  let page <- .lift (orElse (talk.pages.get? key) (.new .pageNotFound "managed browser page was not found"))
  .lift (require (page.leaseEpoch == leaseEpoch) (.staleLease page.leaseEpoch leaseEpoch))
  pure page

def changeHeld (key : PageKey) (change : ManagedPage -> ManagedPage) (missing : String) : Cdp Unit := do
  let talk <- .get
  .lift (require (talk.pages.contains key) (.new .targetReplaced missing))
  .modify fun talk => { talk with pages := talk.pages.modify key change }

def requiredPage (request : ActionRequest) : Except CoreError PageId :=
  orElse request.pageId (.new .pageNotFound "page is required")

section Navigate

def navigatePage (request : ActionRequest) : Cdp Unit := do
  let pageId <- .lift (requiredPage request)
  let url <- .lift (orElse (payloadField request.payload "url") (.invalidArgument "navigation URL is required"))
  .lift (validatePageUrl url)
  let page <- heldPage (request.spaceId, pageId) request.leaseEpoch
  let navigationGeneration <- .lift (orElse (checkedNext page.navigationGeneration)
    (.new .targetReplaced "page navigation generation exhausted"))
  let documentGeneration <- .lift (orElse (checkedNext page.documentGeneration)
    (.new .targetReplaced "page document generation exhausted"))
  navigateSession page.sessionId url
  changeHeld (request.spaceId, pageId) (fun page => { page with url := some url, navigationGeneration, documentGeneration })
    "managed browser page changed during navigation"

end Navigate

section Elements

def validateLiveNode (node : Json) (expectedBackendNodeId : Int) : Except CoreError Unit :=
  require (node.i64At "backendNodeId" == some expectedBackendNodeId && (node.i64At "nodeId").isSome &&
      node.u64At "nodeType" == some 1)
    (.staleRef "referenced backend node is no longer the same live element")

-- `attributes` alternates names and values
def attributePairs : List Json -> List (Json × Json)
  | name :: value :: rest => (name, value) :: attributePairs rest
  | _ => []

def nodeAttribute (node : Json) (name : String) : Option String := do
  let attributes <- (node.get "attributes").bind Json.asArray
  (attributePairs attributes).findSome? fun pair => if pair.1.asStr = some name then pair.2.asStr else none

def rejectDisabledNode (node : Json) : Except CoreError Unit :=
  require (!((nodeAttribute node "disabled").isSome || (nodeAttribute node "inert").isSome ||
      nodeAttribute node "aria-disabled" == some "true"))
    (.new .permissionDenied "the referenced element is currently disabled")

def isEditable (node : Json) : Bool :=
  let tag := asciiLowercase (((node.strAt "localName").or (node.strAt "nodeName")).getD "")
  if tag = bytes "textarea" then true
  else if tag = bytes "input" then
    ["text", "search", "email", "url", "tel", "number"].any fun kind =>
      bytes kind == asciiLowercase ((nodeAttribute node "type").getD "text")
  else
    ["", "true", "plaintext-only"].any fun value =>
      (nodeAttribute node "contenteditable").map asciiLowercase == some (bytes value)

def validateEditableNode (node : Json) : Except CoreError Unit := do
  require (!((nodeAttribute node "readonly").isSome || nodeAttribute node "aria-readonly" == some "true"))
    (.new .permissionDenied "the referenced element is currently read-only")
  require (isEditable node) (.new .permissionDenied "the referenced element is not an editable control")

def mainFrame : FrameId := ⟨"main", by decide⟩

def refMatchesPage (request : ActionRequest) (pageId : PageId) (input : ActionabilityInput) (page : ManagedPage) :
    Bool :=
  input.elementRef.spaceId == request.spaceId && input.elementRef.pageId == pageId &&
    input.elementRef.frameId == input.frameId && input.elementRef.frameId == mainFrame &&
    input.elementRef.snapshotVersion == page.snapshotVersion &&
    input.elementRef.navigationGeneration == page.navigationGeneration &&
    input.elementRef.documentGeneration == page.documentGeneration &&
    input.elementRef.refsEpoch == page.snapshotVersion

/-- The element that a ref stands for, as Chrome describes it now. -/
structure LiveElement where
  sessionId : String
  backendNodeId : Int
  node : Json

def locateElement (config : CdpConfig) (request : ActionRequest) : Cdp LiveElement := do
  let pageId <- .lift (requiredPage request)
  let payload <- .lift (ActionabilityInput.fromPayload config.codec request.payload)
  let input <- .lift (orElse payload (.invalidArgument "element action requires a complete issued ref"))
  let page <- heldPage (request.spaceId, pageId) request.leaseEpoch
  .lift (require (refMatchesPage request pageId input page)
    (.staleRef "element ref no longer matches the managed page snapshot"))
  let backendNodeId <- .lift (orElse (page.backendNodes.get? input.elementRef.elementKey)
    (.staleRef "element key is not bound to a live DOM node"))
  discard (sendCommand (.getDocument page.sessionId))
  let described <- sendCommand (.describeBackendNode page.sessionId backendNodeId)
  let node <- .lift (orElse (described.get "node") (.new .protocolMismatch "Chrome DevTools node is missing"))
  .lift (validateLiveNode node backendNodeId)
  pure { sessionId := page.sessionId, backendNodeId, node }

def aimAtElement (config : CdpConfig) (element : LiveElement) : Cdp (Int × Int) := do
  .lift (rejectDisabledNode element.node)
  let targetNodeId <- .lift (orElse (element.node.i64At "nodeId")
    (.new .protocolMismatch "Chrome DevTools node identity is missing"))
  let model <- sendCommand (.getBoxModel element.sessionId element.backendNodeId)
  let (x, y) <- .lift (config.boxCenter model)
  let hit <- sendCommand (.getNodeForLocation element.sessionId x y)
  let hitBackendNodeId <- .lift (orElse (hit.i64At "backendNodeId")
    (.new .protocolMismatch "Chrome DevTools hit-test identity is missing"))
  let within <- isNodeWithin element.sessionId hitBackendNodeId element.backendNodeId targetNodeId
  .lift (require within (.new .permissionDenied "the live hit target is outside the referenced element"))
  pure (x, y)

def clickAt (sessionId : String) (point : Int × Int) : Cdp Unit := do
  discard (sendCommand (.mousePressed sessionId point.1 point.2))
  discard (sendCommand (.mouseReleased sessionId point.1 point.2))

def admitText (request : ActionRequest) (element : LiveElement) : Except CoreError String := do
  rejectDisabledNode element.node
  validateEditableNode element.node
  orElse (payloadField request.payload "text") (.invalidArgument "input action requires text")

def typeText (element : LiveElement) (text : String) : Cdp Unit := do
  discard (sendCommand (.focus element.sessionId element.backendNodeId))
  discard (sendCommand (.insertText element.sessionId text))

def dispatchElementAction (config : CdpConfig) (request : ActionRequest) : Cdp Unit := do
  let element <- locateElement config request
  match request.operation with
  | .click => do
      let point <- aimAtElement config element
      clickAt element.sessionId point
  | .input => do
      let text <- .lift (admitText request element)
      typeText element text
  | _ => .fail (.new .capabilityUnavailable "element action is unavailable for this operation")

end Elements

def closeHeldPage (spaceId : SpaceId) (pageId : PageId) (leaseEpoch : LeaseEpoch) : Cdp Unit := do
  let page <- heldPage (spaceId, pageId) leaseEpoch
  closeTarget page.targetId
  .modify fun talk => { talk with pages := talk.pages.erase (spaceId, pageId) }

def performAction (config : CdpConfig) (request : ActionRequest) : Cdp Unit :=
  match request.operation with
  | .navigate => navigatePage request
  | .click | .input => dispatchElementAction config request
  | .close => do
      let pageId <- .lift (requiredPage request)
      closeHeldPage request.spaceId pageId request.leaseEpoch
  | _ => .fail (.new .capabilityUnavailable "the host CDP bridge does not support this action yet")

/-- The errors that leave open whether the browser acted. -/
def isUncertain (code : ErrorCode) : Bool :=
  code == .timeout || code == .nativeHostUnavailable || code == .unknownOutcome

def reportOutcome : Except CoreError Unit -> BridgeDispatchResult
  | .ok () => .succeeded
  | .error error => if isUncertain error.code then .unknown .bridgeLost else .failed error.code error.code.retryable

def dispatchAttempt (config : CdpConfig) (request : ActionRequest) : Cdp Unit :=
  (performAction config request).afterwards Talk.invalidatePagesIfClientUnusable

def observe (pages : Table PageKey ManagedPage) : List ObservedPage :=
  pages.entries.map fun ((spaceId, pageId), page) =>
    { spaceId, pageId, targetGeneration := page.targetGeneration, navigationGeneration := page.navigationGeneration,
      documentGeneration := page.documentGeneration, url := page.url, title := page.title }

def captureSnapshotOf (config : CdpConfig) (spaceId : SpaceId) (pageId : PageId) (leaseEpoch : LeaseEpoch) :
    Cdp SnapshotEnvelope := do
  let page <- heldPage (spaceId, pageId) leaseEpoch
  .lift (require (!page.url.any isRestrictedPageUrl)
    (.new .capabilityUnavailable "snapshots are unavailable for browser-restricted URLs"))
  let result <- (sendCommand (.captureSnapshot page.sessionId)).afterwards Talk.invalidatePagesIfClientUnusable
  let dom <- .lift (config.parseDomSnapshot result)
  let snapshotVersion <- .lift (orElse (checkedNext page.snapshotVersion)
    (.new .targetReplaced "page snapshot version exhausted"))
  let (envelope, backendNodes) <- .lift (config.buildSnapshotEnvelope spaceId pageId page.navigationGeneration
    page.documentGeneration snapshotVersion dom)
  changeHeld (spaceId, pageId) (fun page => { page with snapshotVersion, backendNodes })
    "managed browser page changed during snapshot capture"
  pure envelope

section Fence

def fenceRefuses (oldEpoch : Option LeaseEpoch) (page : ManagedPage) : Bool :=
  oldEpoch.any fun epoch => epoch != page.leaseEpoch

def fence (spaceId : SpaceId) (oldEpoch : Option LeaseEpoch) (newEpoch : LeaseEpoch)
    (pages : Table PageKey ManagedPage) : Bool × Table PageKey ManagedPage :=
  if pages.any fun key page => key.1 == spaceId && fenceRefuses oldEpoch page then (false, pages)
  else (true, pages.mapValues fun key page => if key.1 = spaceId then { page with leaseEpoch := newEpoch } else page)

end Fence

section Create

def setUpTarget (targetId : String) (url : Option String) : Cdp String := do
  let sessionId <- attachToTarget targetId
  discard (sendCommand (.pageEnable sessionId))
  discard (sendCommand (.runtimeEnable sessionId))
  navigateSession sessionId (url.getD "about:blank")
  pure sessionId

def cleanupFailedCreation {A : Type} (targetId : String) (creationError : CoreError) : Cdp A := do
  (closeTarget targetId).recover fun error =>
    if error.code = .pageNotFound then pure ()
    else .fail (.new .unknownOutcome "managed page setup failed and tab cleanup could not be confirmed")
  .fail creationError

def createdPage (targetId sessionId : String) (leaseEpoch : LeaseEpoch) (url title : Option String) : ManagedPage where
  targetId := targetId
  sessionId := sessionId
  leaseEpoch := leaseEpoch
  targetGeneration := 1
  navigationGeneration := 1
  documentGeneration := 1
  url := url
  title := title
  snapshotVersion := 0
  backendNodes := ∅

def createdRecord (url title : Option String) : BoundTarget where
  url := url
  title := title
  frameCount := 1
  targetGeneration := some 1
  navigationGeneration := some 1
  documentGeneration := some 1

structure CreateRequest where
  spaceId : SpaceId
  pageId : PageId
  leaseEpoch : LeaseEpoch
  url : Option String
  title : Option String
  ownershipProof : Json

def admitCreation (pages : Table PageKey ManagedPage) (request : CreateRequest) : Except CoreError Unit := do
  validateCreationProof request.spaceId request.pageId request.leaseEpoch request.ownershipProof
  (request.url.map validatePageUrl).getD (.ok ())
  require (!pages.contains (request.spaceId, request.pageId))
    (.new .targetReplaced "managed browser page is already bound")

def createManaged (tab : TabCreation) (request : CreateRequest) : Cdp BoundTarget := do
  let talk <- .get
  .lift (admitCreation talk.pages request)
  let targetId <- createTabAndFindTarget tab (bootstrapUrl request.pageId request.leaseEpoch)
  let sessionId <- (setUpTarget targetId request.url).recover (cleanupFailedCreation targetId)
  .modify fun talk => { talk with
    pages := talk.pages.insert (request.spaceId, request.pageId)
      (createdPage targetId sessionId request.leaseEpoch request.url request.title) }
  pure (createdRecord request.url request.title)

end Create

/-- The default of `rebind_page`, which the bridge to Chrome keeps. -/
def rebindRefusal : CoreError := .new .capabilityUnavailable "bridge does not support managed page rebinding"

def cdpCapabilities : List Capability := [.snapshot, .action]

inductive BridgeCall where
  | dispatch (request : ActionRequest)
  | observe
  | snapshot (spaceId : SpaceId) (pageId : PageId) (leaseEpoch : LeaseEpoch)
  | fence (spaceId : SpaceId) (oldEpoch : Option LeaseEpoch) (newEpoch : LeaseEpoch)
  | closePage (spaceId : SpaceId) (pageId : PageId) (leaseEpoch : LeaseEpoch)
  | createPage (request : CreateRequest)

inductive BridgeReply where
  | dispatched (outcome : BridgeDispatchResult)
  | observed (pages : List ObservedPage)
  | captured (result : Except CoreError SnapshotEnvelope)
  | fenced (acknowledged : Bool)
  | closed (result : Except CoreError Unit)
  | created (result : Except CoreError BoundTarget)

structure CdpOutside where
  turns : List WireTurn
  tab : TabCreation

structure Served where
  bridge : CdpBridgeState
  sent : List SentCommand
  tabs : List String
  reply : BridgeReply

def CdpBridgeState.talk (bridge : CdpBridgeState) (turns : List WireTurn) : Talk :=
  { bridge with turns, sent := [], tabs := [] }

def CdpBridgeState.perform {A : Type} (bridge : CdpBridgeState) (turns : List WireTurn) (attempt : Cdp A)
    (reply : Except CoreError A -> BridgeReply) : Served :=
  let (result, talk) := attempt (bridge.talk turns)
  { bridge := talk.toCdpBridgeState, sent := talk.sent, tabs := talk.tabs, reply := reply result }

def CdpBridgeState.silent (bridge : CdpBridgeState) (reply : BridgeReply) : Served :=
  { bridge, sent := [], tabs := [], reply }

def serve (config : CdpConfig) (outside : CdpOutside) (call : BridgeCall) (bridge : CdpBridgeState) : Served :=
  match call with
  | .dispatch request =>
      bridge.perform outside.turns (dispatchAttempt config request) fun result => .dispatched (reportOutcome result)
  | .observe => bridge.silent (.observed (observe bridge.pages))
  | .snapshot spaceId pageId leaseEpoch =>
      bridge.perform outside.turns (captureSnapshotOf config spaceId pageId leaseEpoch) .captured
  | .fence spaceId oldEpoch newEpoch =>
      let (acknowledged, pages) := fence spaceId oldEpoch newEpoch bridge.pages
      { bridge with pages : CdpBridgeState }.silent (.fenced acknowledged)
  | .closePage spaceId pageId leaseEpoch =>
      bridge.perform outside.turns (closeHeldPage spaceId pageId leaseEpoch) .closed
  | .createPage request => bridge.perform outside.turns (createManaged outside.tab request) .created

def CdpBridgeState.connected : CdpBridgeState := { client := .connected, pages := ∅ }

end AgentycHost
