import AgentycHost.Core.Canonical
import AgentycHost.Core.Snapshots
import AgentycHost.Shared.Attempts
import AgentycHost.Shared.Table

set_option autoImplicit false

/-!
# The DevTools connection

One command is in flight at a time: the client sends it and reads frames until
its reply, an event being any frame with a method and no identity. What Chrome
does with each command is part of the input, as a list of turns.
-/

namespace AgentycHost

open Shared

/-- The commands the host sends, with their parameters and session. -/
inductive CdpCommand where
  -- Target
  | getTargets
  | attachToTarget (targetId : String)
  | closeTarget (targetId : String)
  -- Page, Runtime
  | pageEnable (sessionId : String)
  | runtimeEnable (sessionId : String)
  | navigate (sessionId url : String)
  -- DOM, DOMSnapshot
  | getDocument (sessionId : String)
  | describeBackendNode (sessionId : String) (backendNodeId : Int)
  | describeNode (sessionId : String) (nodeId : Int)
  | getBoxModel (sessionId : String) (backendNodeId : Int)
  | getNodeForLocation (sessionId : String) (x y : Int)
  | focus (sessionId : String) (backendNodeId : Int)
  | captureSnapshot (sessionId : String)
  -- Input
  | mousePressed (sessionId : String) (x y : Int)
  | mouseReleased (sessionId : String) (x y : Int)
  | insertText (sessionId text : String)
  deriving DecidableEq

def CdpCommand.changesState : CdpCommand -> Bool
  | .navigate .. | .mousePressed .. | .mouseReleased .. | .focus .. | .insertText .. | .closeTarget .. => true
  | _ => false

inductive Fate where
  -- the send failed, no reply came, or another frame came in its place
  | lost
  | rejected
  | answered (result : Json)

inductive WireTurn where
  | unsent
  | frames (incoming : List Json)

def receiveReply (id : Nat) : List Json -> Fate
  | [] => .lost
  | response :: rest =>
      match response.u64At "id" with
      | some responseId =>
          if responseId = id then
            if (response.get "error").isSome then .rejected else .answered ((response.get "result").getD .null)
          else .lost
      | none => if (response.strAt "method").isSome then receiveReply id rest else .lost

def WireTurn.fate (turn : WireTurn) (id : Nat) : Fate :=
  match turn with
  | .unsent => .lost
  | .frames incoming => receiveReply id incoming

structure CdpClient where
  nextId : Nat
  usable : Bool
  deriving DecidableEq

def CdpClient.connected : CdpClient := { nextId := 1, usable := true }

structure ManagedPage where
  targetId : String
  sessionId : String
  leaseEpoch : LeaseEpoch
  targetGeneration : Nat
  navigationGeneration : Nat
  documentGeneration : Nat
  url : Option String
  title : Option String
  snapshotVersion : Nat
  backendNodes : Table ElementKey Int

abbrev PageKey := SpaceId × PageId

structure CdpBridgeState where
  client : CdpClient
  pages : Table PageKey ManagedPage

structure SentCommand where
  command : CdpCommand
  fate : Fate

structure Talk extends CdpBridgeState where
  turns : List WireTurn
  sent : List SentCommand
  -- the bootstrap URLs for which the call asked the extension for a tab
  tabs : List String

abbrev Cdp := Attempt Talk CoreError

def cdpUnavailable : CoreError := .new .nativeHostUnavailable "local Chrome DevTools endpoint is unavailable"

def unknownCdpCommandOutcome : CoreError := .new .unknownOutcome "Chrome DevTools command outcome is unknown"

def Fate.result : Fate -> Except CoreError Json
  | .lost => .error unknownCdpCommandOutcome
  | .rejected => .error (.new .capabilityUnavailable "Chrome DevTools rejected the command")
  | .answered result => .ok result

def Fate.keepsConnection : Fate -> Bool
  | .lost => false
  | _ => true

def Talk.fate (talk : Talk) : Fate := (talk.turns.headD (.frames [])).fate talk.client.nextId

def Talk.exchange (talk : Talk) (command : CdpCommand) : Talk :=
  { talk with
    client := { nextId := talk.client.nextId + 1, usable := talk.fate.keepsConnection },
    turns := talk.turns.tail,
    sent := talk.sent ++ [{ command, fate := talk.fate }] }

def sendCommand (command : CdpCommand) : Cdp Json := fun talk =>
  if !talk.client.usable then (.error cdpUnavailable, talk)
  else match checkedNext talk.client.nextId with
    | none => (.error (.new .protocolMismatch "CDP command IDs exhausted"), talk)
    | some _ => (talk.fate.result, talk.exchange command)

def Talk.ready (talk : Talk) : Prop := talk.client.usable = true ∧ talk.client.nextId < u64Max

variable {command : CdpCommand} {talk : Talk}

theorem sendCommand_ready (ready : talk.ready) :
    sendCommand command talk = (talk.fate.result, talk.exchange command) := by
  have room : checkedNext talk.client.nextId = some (talk.client.nextId + 1) := checkedNext_eq_some.mpr ⟨ready.2, rfl⟩
  simp [sendCommand, ready.1, room]

theorem sendCommand_exhausted (usable : talk.client.usable = true) (last : u64Max ≤ talk.client.nextId) :
    sendCommand command talk = (.error (.new .protocolMismatch "CDP command IDs exhausted"), talk) := by
  have full : checkedNext talk.client.nextId = none := if_neg (Nat.not_lt.mpr last)
  simp [sendCommand, usable, full]

inductive CommandEnd (command : CdpCommand) (talk : Talk) : Except CoreError Json -> Talk -> Prop where
  | disconnected (gone : talk.client.usable = false) : CommandEnd command talk (.error cdpUnavailable) talk
  | exhausted (usable : talk.client.usable = true) (last : u64Max ≤ talk.client.nextId) :
      CommandEnd command talk (.error (.new .protocolMismatch "CDP command IDs exhausted")) talk
  | lost (ready : talk.ready) (fate : talk.fate = .lost) :
      CommandEnd command talk (.error unknownCdpCommandOutcome) (talk.exchange command)
  | rejected (ready : talk.ready) (fate : talk.fate = .rejected) :
      CommandEnd command talk (.error (.new .capabilityUnavailable "Chrome DevTools rejected the command"))
        (talk.exchange command)
  | answered {result : Json} (ready : talk.ready) (fate : talk.fate = .answered result) :
      CommandEnd command talk (.ok result) (talk.exchange command)

theorem sendCommand_end {later : Talk} {outcome : Except CoreError Json}
    (ran : sendCommand command talk = (outcome, later)) : CommandEnd command talk outcome later := by
  unfold sendCommand at ran
  split at ran
  next gone =>
    cases ran
    exact .disconnected (by simpa using gone)
  next usable =>
    have usable : talk.client.usable = true := by simpa using usable
    split at ran
    next last =>
      cases ran
      exact .exhausted usable (by simpa [checkedNext] using last)
    next room =>
      have ready : talk.ready := ⟨usable, (checkedNext_eq_some.mp room).1⟩
      generalize fate : talk.fate = end_ at ran
      cases end_ with
      | lost =>
        cases ran
        exact .lost ready fate
      | rejected =>
        cases ran
        exact .rejected ready fate
      | answered result =>
        cases ran
        exact .answered ready fate

def unknownTabCreation : CoreError :=
  .new .unknownOutcome "extension created a tab but the host could not identify its browser target"

def isWhitespace (character : Char) : Bool :=
  let code := character.toNat
  (9 ≤ code && code ≤ 13) || (0x2000 ≤ code && code ≤ 0x200a) ||
    [0x20, 0x85, 0xa0, 0x1680, 0x2028, 0x2029, 0x202f, 0x205f, 0x3000].contains code

def startsWith (text start : String) : Bool := (bytes start).isPrefixOf (bytes text)

def bootstrapUrl (pageId : PageId) (leaseEpoch : LeaseEpoch) : String :=
  "about:blank#agentyc-tab=" ++ pageId.text ++ "-" ++ toString leaseEpoch

def validateBootstrapUrl (url : String) : Except CoreError Unit :=
  if startsWith url "about:blank#agentyc-tab=" && decide (url.utf8ByteSize ≤ 1024) && !url.toList.any isWhitespace then
    .ok ()
  else .error (.new .invalidArgument "tab bootstrap URL is invalid")

def matchTarget (bootstrapUrl : String) (found : Option String) (target : Json) : Except CoreError (Option String) :=
  if target.strAt "type" = some "page" ∧ target.strAt "url" = some bootstrapUrl then
    match (target.strAt "targetId").filter fun targetId => !targetId.isEmpty with
    | none => .error unknownTabCreation
    | some targetId => if found.isSome then .error unknownTabCreation else .ok (some targetId)
  else .ok found

def pollTargets (bootstrapUrl : String) : Cdp (Option String) := do
  let result <- (sendCommand .getTargets).mapError fun _ => unknownTabCreation
  let targets <- .lift (orElse ((result.get "targetInfos").bind Json.asArray) unknownTabCreation)
  .lift (targets.foldlM (matchTarget bootstrapUrl) none)

/-- Read the targets until the tab shows up; the clock leaves time for so many more rounds. -/
def findTarget (bootstrapUrl : String) : Nat -> Cdp String
  | 0 => do
      match <- pollTargets bootstrapUrl with
      | some targetId => pure targetId
      | none => .fail unknownTabCreation
  | polls + 1 => do
      match <- pollTargets bootstrapUrl with
      | some targetId => pure targetId
      | none => findTarget bootstrapUrl polls

/-- The extension's part of a creation: its answer, and the rounds of target discovery that fit in the time. -/
structure TabCreation where
  answer : Except CoreError Unit
  polls : Nat

def askForTab (tab : TabCreation) (url : String) : Cdp Unit := fun talk =>
  (tab.answer, { talk with tabs := talk.tabs ++ [url] })

def createTabAndFindTarget (tab : TabCreation) (url : String) : Cdp String := do
  .lift (validateBootstrapUrl url)
  askForTab tab url
  findTarget url tab.polls

def boundedHandle (text : String) : Bool := !text.isEmpty && decide (text.utf8ByteSize ≤ 1024)

def attachToTarget (targetId : String) : Cdp String := do
  .lift (require (boundedHandle targetId) (.new .protocolMismatch "Chrome DevTools target handle is invalid"))
  let result <- sendCommand (.attachToTarget targetId)
  .lift (orElse ((result.strAt "sessionId").filter boundedHandle)
    (.new .protocolMismatch "Chrome DevTools attach response is invalid"))

def navigateSession (sessionId url : String) : Cdp Unit := do
  .lift (require (boundedHandle sessionId && !url.isEmpty && decide (url.utf8ByteSize ≤ 4096))
    (.invalidArgument "Chrome DevTools navigation input is invalid"))
  let result <- sendCommand (.navigate sessionId url)
  .lift (require (result.strAt "errorText").isNone
    (.new .capabilityUnavailable "Chrome DevTools could not navigate the managed page"))

def closeTarget (targetId : String) : Cdp Unit := do
  let result <- sendCommand (.closeTarget targetId)
  match result.boolAt "success" with
  | some true => pure ()
  | some false => .fail (.new .pageNotFound "managed browser page could not be closed")
  | none => .fail (.new .protocolMismatch "Chrome DevTools close response is invalid")

def cdpMaxSnapshotElements : Nat := 256

/-- Climb from the hit node towards the referenced one, for a bounded number of rounds. -/
def climbToNode (sessionId : String) (targetBackendNodeId targetNodeId : Int) : Nat -> Json -> Cdp Bool
  | 0, _ => .fail (.staleRef "live hit-target ancestry exceeds the host verification limit")
  | rounds + 1, node =>
      if node.i64At "nodeId" = some targetNodeId ∨ node.i64At "backendNodeId" = some targetBackendNodeId then pure true
      else match node.i64At "parentId" with
        | none => pure false
        | some parentId =>
            if parentId = targetNodeId then pure true
            else do
              let parent <- sendCommand (.describeNode sessionId parentId)
              let node <- .lift (orElse (parent.get "node")
                (.new .protocolMismatch "Chrome DevTools parent node is missing"))
              climbToNode sessionId targetBackendNodeId targetNodeId rounds node

def isNodeWithin (sessionId : String) (hitBackendNodeId targetBackendNodeId targetNodeId : Int) : Cdp Bool :=
  if hitBackendNodeId = targetBackendNodeId then pure true
  else do
    let described <- sendCommand (.describeBackendNode sessionId hitBackendNodeId)
    let node <- .lift (orElse (described.get "node")
      (.new .protocolMismatch "Chrome DevTools hit node is missing"))
    climbToNode sessionId targetBackendNodeId targetNodeId cdpMaxSnapshotElements node

end AgentycHost
