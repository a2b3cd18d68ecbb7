import AgentycHost.Cdp.Effects
import AgentycHost.Shared.Runs

set_option autoImplicit false

/-!
# The client on its stream

A command and its reply one frame at a time: the client puts an identity on a
command, hands it to the wire, and reads the one stream of incoming frames until
it can return. What is left in the stream is there for the next command.
-/

namespace AgentycHost

open Shared

inductive WireEvent where
  -- a call of `command`, and whether the wire takes what the client sends
  | call (command : CdpCommand) (delivered : Bool)
  -- the next frame of the stream, or a failure to read one
  | receive (frame : Option Json)

structure Line where
  client : CdpClient
  awaited : Option Nat

def Line.connected : Line := { client := .connected, awaited := none }

structure LineStep where
  line : Line
  sent : Option Nat
  returned : Option (Except CoreError Json)

/-- What a frame makes of the awaited command; an event leaves it waiting. -/
def readFrame (id : Nat) (response : Json) : Option Fate :=
  match response.u64At "id" with
  | some responseId =>
      if responseId = id then
        some (if (response.get "error").isSome then .rejected else .answered ((response.get "result").getD .null))
      else some .lost
  | none => if (response.strAt "method").isSome then none else some .lost

def Line.refuse (line : Line) (error : CoreError) : LineStep :=
  { line, sent := none, returned := some (.error error) }

def Line.settle (line : Line) (fate : Fate) : LineStep where
  line := { client := { line.client with usable := line.client.usable && fate.keepsConnection }, awaited := none }
  sent := none
  returned := some fate.result

def Line.issue (line : Line) (delivered : Bool) : LineStep :=
  if !line.client.usable then line.refuse cdpUnavailable
  else match checkedNext line.client.nextId with
    | none => line.refuse (.new .protocolMismatch "CDP command IDs exhausted")
    | some nextId =>
        if delivered then
          { line := { client := { line.client with nextId }, awaited := some line.client.nextId },
            sent := some line.client.nextId, returned := none }
        else
          { line := { client := { nextId, usable := false }, awaited := none },
            sent := some line.client.nextId, returned := some (.error unknownCdpCommandOutcome) }

def Line.hear (line : Line) (id : Nat) : Option Json -> LineStep
  | none => line.settle .lost
  | some response =>
      match readFrame id response with
      | none => { line, sent := none, returned := none }
      | some fate => line.settle fate

def Line.next (line : Line) : WireEvent -> Option LineStep
  | .call _ delivered => if line.awaited.isSome then none else some (line.issue delivered)
  | .receive frame => line.awaited.map fun id => line.hear id frame

abbrev LineRun : Line -> List (Moment Line WireEvent) -> Line -> Prop :=
  Run fun event before after => ∃ step, before.next event = some step ∧ step.line = after

def sentAt (moment : Moment Line WireEvent) : Option Nat := (moment.before.next moment.label).bind LineStep.sent

def returnedAt (moment : Moment Line WireEvent) : Option (Except CoreError Json) :=
  (moment.before.next moment.label).bind LineStep.returned

def commandAt (moment : Moment Line WireEvent) : Option CdpCommand :=
  match moment.label with
  | .call command _ => (sentAt moment).map fun _ => command
  | .receive _ => none

def resultAt (moment : Moment Line WireEvent) : Option (Except CoreError Json) :=
  match moment.label with
  | .call .. => (sentAt moment).bind fun _ => returnedAt moment
  | .receive _ => returnedAt moment

structure Writes (trace : List (Moment Line WireEvent)) (sent : List SentCommand) : Prop where
  commands : trace.filterMap commandAt = (sent.map fun command => command.command).reverse
  results : trace.filterMap resultAt = (sent.map fun command => command.fate.result).reverse

theorem Writes.append {later earlier : List (Moment Line WireEvent)} {first second : List SentCommand}
    (late : Writes later second) (early : Writes earlier first) : Writes (later ++ earlier) (first ++ second) where
  commands := by rw [List.filterMap_append, late.commands, early.commands, List.map_append, List.reverse_append]
  results := by rw [List.filterMap_append, late.results, early.results, List.map_append, List.reverse_append]

section Turns

variable {start client : CdpClient} {talk : Talk}

theorem receiveReply_cons (id : Nat) (response : Json) (rest : List Json) :
    receiveReply id (response :: rest) = (readFrame id response).getD (receiveReply id rest) := by
  rw [receiveReply, readFrame]
  cases response.u64At "id" with
  | none => cases (response.strAt "method").isSome <;> rfl
  | some responseId => by_cases own : responseId = id <;> simp [own]

def LineReaches (before : Line) (sent : List SentCommand) (after : Line) : Prop :=
  ∃ trace, LineRun before trace after ∧ Writes trace sent

theorem LineReaches.trans {before middle after : Line} {first second : List SentCommand} (early : LineReaches before first middle)
    (late : LineReaches middle second after) : LineReaches before (first ++ second) after := by
  obtain ⟨earlier, run, wrote⟩ := early
  obtain ⟨later, more, writes⟩ := late
  exact ⟨later ++ earlier, run.append more, writes.append wrote⟩

-- the command is written already, and the trace says how it ends
theorem hears_turn (usable : client.usable = true) (id : Nat) (incoming : List Json) :
    ∃ trace, LineRun { client, awaited := some id } trace
        { client := { client with usable := (receiveReply id incoming).keepsConnection }, awaited := none } ∧
      trace.filterMap commandAt = [] ∧ trace.filterMap resultAt = [(receiveReply id incoming).result] := by
  have ended (event : Option Json) (fate : Fate)
      (taken : Line.next { client, awaited := some id } (.receive event) = some (Line.settle { client, awaited := some id } fate)) :
      ∃ trace, LineRun { client, awaited := some id } trace
          { client := { client with usable := fate.keepsConnection }, awaited := none } ∧
        trace.filterMap commandAt = [] ∧ trace.filterMap resultAt = [fate.result] := by
    refine ⟨[⟨_, .receive event, _⟩], .step .nil ⟨_, taken, ?_⟩, rfl, ?_⟩
    · simp [Line.settle, usable]
    · simp [resultAt, returnedAt, taken, Line.settle]
  induction incoming with
  | nil => exact ended none .lost rfl
  | cons response rest ih =>
    rw [receiveReply_cons]
    cases read : readFrame id response with
    | none =>
      -- an event: the client reads on
      have taken : Line.next { client, awaited := some id } (.receive (some response)) =
          some { line := { client, awaited := some id }, sent := none, returned := none } := by
        simp [Line.next, Line.hear, read]
      obtain ⟨trace, run, commands, results⟩ := ih
      have first : LineRun { client, awaited := some id }
          [⟨{ client, awaited := some id }, .receive (some response), { client, awaited := some id }⟩]
          { client, awaited := some id } := .step .nil ⟨_, taken, rfl⟩
      refine ⟨_, first.append run, ?_, ?_⟩
      · rw [List.filterMap_append, commands]
        rfl
      · rw [List.filterMap_append, results]
        simp [resultAt, returnedAt, taken]
    | some fate =>
      apply ended (some response) fate
      simp [Line.next, Line.hear, read]

theorem exchange_reaches (ready : talk.ready) (command : CdpCommand) :
    LineReaches { client := talk.client, awaited := none } [{ command, fate := talk.fate }]
      { client := (talk.exchange command).client, awaited := none } := by
  have room : checkedNext talk.client.nextId = some (talk.client.nextId + 1) := checkedNext_eq_some.mpr ⟨ready.2, rfl⟩
  generalize turned : talk.turns.headD (.frames []) = turn
  have fate : talk.fate = turn.fate talk.client.nextId := by rw [Talk.fate, turned]
  have after : (talk.exchange command).client =
      { nextId := talk.client.nextId + 1, usable := (turn.fate talk.client.nextId).keepsConnection } := by
    rw [Talk.exchange, fate]
  rw [fate, after]
  cases turn with
  | unsent =>
    have taken : Line.next { client := talk.client, awaited := none } (.call command false) =
        some { line := { client := { nextId := talk.client.nextId + 1, usable := false }, awaited := none },
               sent := some talk.client.nextId, returned := some (.error unknownCdpCommandOutcome) } := by
      simp [Line.next, Line.issue, ready.1, room]
    refine ⟨[⟨_, .call command false, _⟩], .step .nil ⟨_, taken, rfl⟩, ?_, ?_⟩
    · simp [commandAt, sentAt, taken]
    · simp [resultAt, sentAt, returnedAt, taken, WireTurn.fate, Fate.result]
  | frames incoming =>
    have taken : Line.next { client := talk.client, awaited := none } (.call command true) =
        some { line := { client := { talk.client with nextId := talk.client.nextId + 1 },
                         awaited := some talk.client.nextId },
               sent := some talk.client.nextId, returned := none } := by
      simp [Line.next, Line.issue, ready.1, room]
    have usable : ({ talk.client with nextId := talk.client.nextId + 1 } : CdpClient).usable = true := ready.1
    obtain ⟨trace, run, commands, results⟩ := hears_turn usable talk.client.nextId incoming
    have first : LineRun { client := talk.client, awaited := none } [⟨_, .call command true, _⟩] _ :=
      .step .nil ⟨_, taken, rfl⟩
    refine ⟨_, first.append run, ?_, ?_⟩
    · rw [List.filterMap_append, commands]
      simp [commandAt, sentAt, taken]
    · rw [List.filterMap_append, results]
      simp [resultAt, sentAt, returnedAt, taken, WireTurn.fate]

def OnLine (start : CdpClient) (talk : Talk) : Prop :=
  LineReaches { client := start, awaited := none } talk.sent { client := talk.client, awaited := none }

theorem sendCommand_onLine (command : CdpCommand) : Attempt.Keeps (OnLine start) (sendCommand command) := by
  intro talk onLine
  generalize ran : sendCommand command talk = reply
  obtain ⟨outcome, later⟩ := reply
  cases sendCommand_end ran with
  | disconnected | exhausted => exact onLine
  | lost ready | rejected ready | answered ready => exact LineReaches.trans onLine (exchange_reaches ready command)

end Turns

section Calls

theorem serve_onLine (config : CdpConfig) (outside : CdpOutside) (call : BridgeCall) (bridge : CdpBridgeState) :
    LineReaches { client := bridge.client, awaited := none } (serve config outside call bridge).sent
      { client := (serve config outside call bridge).bridge.client, awaited := none } := by
  have start : OnLine bridge.client (bridge.talk outside.turns) := ⟨[], .nil, rfl, rfl⟩
  -- the records of the pages and the tabs asked for are not the client's
  have records (talk : Talk) (pages : Table PageKey ManagedPage) (onLine : OnLine bridge.client talk) :
      OnLine bridge.client { talk with pages } := onLine
  have asks (talk : Talk) (tabs : List String) (onLine : OnLine bridge.client talk) :
      OnLine bridge.client { talk with tabs } := onLine
  cases call with
  | dispatch request =>
    exact invalidatePages_keeps records (performAction_keeps sendCommand_onLine records config request) _ start
  | observe => exact ⟨[], .nil, rfl, rfl⟩
  | snapshot spaceId pageId leaseEpoch =>
    exact captureSnapshotOf_keeps sendCommand_onLine records config spaceId pageId leaseEpoch _ start
  | fence => exact ⟨[], .nil, rfl, rfl⟩
  | closePage spaceId pageId leaseEpoch =>
    exact closeHeldPage_keeps sendCommand_onLine records spaceId pageId leaseEpoch _ start
  | createPage request => exact createManaged_keeps sendCommand_onLine asks records outside.tab request _ start

end Calls

end AgentycHost
