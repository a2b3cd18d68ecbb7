import AgentycHost.Cdp.Fences
import AgentycHost.Cdp.Line

set_option autoImplicit false

/-! # Replies and their commands -/

namespace AgentycHost

open Shared

variable {line before last : Line} {trace later earlier : List (Moment Line WireEvent)} {moment : Moment Line WireEvent}
  {id : Nat}

/-- The frame is the reply that carries the identity, and the result is its result. -/
def RepliesTo (id : Nat) (response result : Json) : Prop :=
  response.u64At "id" = some id ∧ response.get "error" = none ∧ result = (response.get "result").getD .null

/-- The frame is neither the awaited reply nor an event. -/
def IsForeign (id : Nat) (response : Json) : Prop :=
  (∃ other, response.u64At "id" = some other ∧ other ≠ id) ∨
    response.u64At "id" = none ∧ response.strAt "method" = none

/-- The moment breaks the client: a send that fails, a read that fails, or a foreign reply. -/
def Breaks (moment : Moment Line WireEvent) : Prop :=
  match moment.label with
  | .call _ delivered => (sentAt moment).isSome = true ∧ delivered = false
  | .receive none => True
  | .receive (some response) => ∃ id, moment.before.awaited = some id ∧ IsForeign id response

/-- The wire took a command with the identity. -/
def HandsOn (id : Nat) (moment : Moment Line WireEvent) : Prop :=
  sentAt moment = some id ∧ ∃ command, moment.label = .call command true

/-- A command was sent or returned. -/
def Turns (moment : Moment Line WireEvent) : Prop := (sentAt moment).isSome = true ∨ (returnedAt moment).isSome = true

section Steps

variable {event : WireEvent} {step : LineStep} {response : Json}

inductive LineMove (line : Line) : WireEvent -> LineStep -> Prop where
  | refused {command : CdpCommand} {delivered : Bool} (error : CoreError) (idle : line.awaited = none) :
      LineMove line (.call command delivered) (line.refuse error)
  | taken {command : CdpCommand} (idle : line.awaited = none) (usable : line.client.usable = true) :
      LineMove line (.call command true)
        { line := { client := { line.client with nextId := line.client.nextId + 1 }, awaited := some line.client.nextId },
          sent := some line.client.nextId, returned := none }
  | unsent {command : CdpCommand} (idle : line.awaited = none) (usable : line.client.usable = true) :
      LineMove line (.call command false)
        { line := { client := { nextId := line.client.nextId + 1, usable := false }, awaited := none },
          sent := some line.client.nextId, returned := some (.error unknownCdpCommandOutcome) }
  | event {id : Nat} {response : Json} (waits : line.awaited = some id) (unread : readFrame id response = none) :
      LineMove line (.receive (some response)) { line, sent := none, returned := none }
  | replied {id : Nat} {response : Json} {fate : Fate} (waits : line.awaited = some id)
      (read : readFrame id response = some fate) : LineMove line (.receive (some response)) (line.settle fate)
  | unread {id : Nat} (waits : line.awaited = some id) : LineMove line (.receive none) (line.settle .lost)

theorem issue_move {command : CdpCommand} (idle : line.awaited = none) (delivered : Bool) :
    LineMove line (.call command delivered) (line.issue delivered) := by
  unfold Line.issue
  split
  next => exact .refused _ idle
  next gone =>
    have usable : line.client.usable = true := by simpa using gone
    split
    next => exact .refused _ idle
    next nextId room =>
      obtain ⟨_, rfl⟩ := checkedNext_eq_some.mp room
      cases delivered with
      | true => exact .taken idle usable
      | false => exact .unsent idle usable

theorem hear_move {frame : Option Json} (waits : line.awaited = some id) :
    LineMove line (.receive frame) (line.hear id frame) := by
  unfold Line.hear
  cases frame with
  | none => exact .unread waits
  | some response =>
    cases read : readFrame id response with
    | none =>
      simp only [read]
      exact .event waits read
    | some fate =>
      simp only [read]
      exact .replied waits read

theorem next_move (taken : line.next event = some step) : LineMove line event step := by
  cases event with
  | call command delivered =>
    simp only [Line.next, Option.ite_none_left_eq_some, Bool.not_eq_true, Option.isSome_eq_false_iff,
      Option.isNone_iff_eq_none, Option.some.injEq] at taken
    obtain ⟨idle, rfl⟩ := taken
    exact issue_move idle delivered
  | receive frame =>
    simp only [Line.next, Option.map_eq_some_iff] at taken
    obtain ⟨id, waits, rfl⟩ := taken
    exact hear_move waits

theorem LineRun.moves (run : LineRun line trace last) (inside : moment ∈ trace) :
    ∃ step, LineMove moment.before moment.label step ∧ step.line = moment.after ∧ sentAt moment = step.sent ∧
      returnedAt moment = step.returned := by
  obtain ⟨_, _, _, ⟨step, taken, after⟩, _⟩ := run.at_moment inside
  exact ⟨step, next_move taken, after, by simp [sentAt, taken], by simp [returnedAt, taken]⟩

theorem readFrame_answered {result : Json} (read : readFrame id response = some (.answered result)) :
    RepliesTo id response result := by
  unfold readFrame at read
  split at read
  next responseId carried =>
    split at read
    next own =>
      split at read
      next => cases read
      next passed =>
        cases read
        exact ⟨own ▸ carried, by simpa using passed, rfl⟩
    next => cases read
  next =>
    split at read
    next => cases read
    next => cases read

theorem readFrame_foreign (foreign : IsForeign id response) : readFrame id response = some .lost := by
  unfold readFrame
  obtain ⟨other, carried, different⟩ | ⟨missing, silent⟩ := foreign
  · simp [carried, different]
  · simp [missing, silent]

end Steps

section Runs

/-- The identities sent in a trace, latest first. -/
def sentIds (trace : List (Moment Line WireEvent)) : List Nat := trace.filterMap sentAt

theorem LineMove.advances {event : WireEvent} {step : LineStep} (move : LineMove line event step) :
    line.client.nextId ≤ step.line.client.nextId ∧
      ∀ id, step.sent = some id -> id = line.client.nextId ∧ id < step.line.client.nextId := by
  cases move with
  | refused => exact ⟨Nat.le_refl _, by simp [Line.refuse]⟩
  | taken =>
    refine ⟨Nat.le_succ _, ?_⟩
    intro id sent
    cases sent
    exact ⟨rfl, Nat.lt_succ_self _⟩
  | unsent =>
    refine ⟨Nat.le_succ _, ?_⟩
    intro id sent
    cases sent
    exact ⟨rfl, Nat.lt_succ_self _⟩
  | event => exact ⟨Nat.le_refl _, by simp⟩
  | replied => exact ⟨Nat.le_refl _, by simp [Line.settle]⟩
  | unread => exact ⟨Nat.le_refl _, by simp [Line.settle]⟩

theorem sentIds_below (run : LineRun line trace last) : ∀ id, id ∈ sentIds trace -> id < last.client.nextId := by
  induction run with
  | nil =>
    intro id sent
    cases sent
  | @step trace before after event earlier taken ih =>
    obtain ⟨step, next, rfl⟩ := taken
    obtain ⟨grows, fresh⟩ := (next_move next).advances
    intro id sent
    obtain ⟨moment, inside, at_moment⟩ := List.mem_filterMap.mp sent
    obtain rfl | old := List.mem_cons.mp inside
    · exact (fresh id (by simpa [sentAt, next] using at_moment)).2
    · have below_ := ih id (List.mem_filterMap.mpr ⟨moment, old, at_moment⟩)
      omega

theorem sentIds_increase (run : LineRun line trace last) : (sentIds trace).Pairwise fun late early => early < late := by
  induction run with
  | nil => exact .nil
  | @step trace before after event earlier taken ih =>
    obtain ⟨step, next, rfl⟩ := taken
    have sent : sentAt ⟨before, event, step.line⟩ = step.sent := by simp [sentAt, next]
    unfold sentIds
    rw [List.filterMap_cons, sent]
    cases fresh : step.sent with
    | none => exact ih
    | some id =>
      obtain ⟨rfl, _⟩ := (next_move next).advances.2 id fresh
      exact .cons (sentIds_below earlier) ih

theorem awaited_sent (run : LineRun line trace last) (idle : line.awaited = none) (waits : last.awaited = some id) :
    Since (HandsOn id) Turns trace := by
  induction run with
  | nil =>
    rw [idle] at waits
    cases waits
  | @step trace before after event earlier taken ih =>
    obtain ⟨step, next, rfl⟩ := taken
    rw [since_cons]
    cases next_move next with
    | refused error free =>
      rw [Line.refuse, free] at waits
      cases waits
    | taken =>
      cases waits
      exact .inl ⟨by simp [sentAt, next], _, rfl⟩
    | unsent => cases waits
    | event =>
      refine .inr ⟨ih waits, ?_⟩
      simp [Turns, sentAt, returnedAt, next]
    | replied => cases waits
    | unread => cases waits

theorem lost_silent (run : LineRun line trace last) (idle : line.awaited = none) (lost : line.client.usable = false) :
    (last.client.usable = false ∧ last.awaited = none) ∧ ∀ moment, moment ∈ trace -> sentAt moment = none := by
  induction run with
  | nil => exact ⟨⟨lost, idle⟩, fun _ inside => by cases inside⟩
  | @step trace before after event earlier taken ih =>
    obtain ⟨⟨gone, free⟩, silent⟩ := ih
    obtain ⟨step, next, rfl⟩ := taken
    rw [List.forall_mem_cons, sentAt, next]
    cases next_move next with
    | refused => exact ⟨⟨gone, free⟩, rfl, silent⟩
    | taken _ usable => simp [gone] at usable
    | unsent _ usable => simp [gone] at usable
    | event waits => simp [free] at waits
    | replied waits => simp [free] at waits
    | unread waits => simp [free] at waits

theorem breaks_lost (run : LineRun line trace last) (inside : moment ∈ trace) (breaks : Breaks moment) :
    moment.after.client.usable = false ∧ moment.after.awaited = none := by
  obtain ⟨step, move, after, sent, _⟩ := run.moves inside
  obtain ⟨before, event, _⟩ := moment
  dsimp only at move after sent ⊢
  subst after
  unfold Breaks at breaks
  dsimp only at breaks
  rw [sent] at breaks
  cases move with
  | refused => simp [Line.refuse] at breaks
  | taken => simp at breaks
  | unsent => exact ⟨rfl, rfl⟩
  | event waits unread =>
    obtain ⟨_, awaited, foreign⟩ := breaks
    obtain rfl := Option.some.inj (waits.symm.trans awaited)
    rw [readFrame_foreign foreign] at unread
    cases unread
  | replied waits read =>
    obtain ⟨_, awaited, foreign⟩ := breaks
    obtain rfl := Option.some.inj (waits.symm.trans awaited)
    rw [readFrame_foreign foreign] at read
    cases read
    simp [Line.settle, Fate.keepsConnection]
  | unread => simp [Line.settle, Fate.keepsConnection]

theorem returned_answer (run : LineRun line trace last) (inside : moment ∈ trace) {result : Json}
    (returned : returnedAt moment = some (.ok result)) :
    ∃ id response, moment.before.awaited = some id ∧ moment.label = .receive (some response) ∧
      RepliesTo id response result := by
  obtain ⟨step, move, _, _, ended⟩ := run.moves inside
  rw [ended] at returned
  obtain ⟨before, event, after⟩ := moment
  cases move with
  | refused => simp [Line.refuse] at returned
  | taken => cases returned
  | unsent => cases returned
  | event => cases returned
  | unread => cases returned
  | @replied id response fate waits read =>
    cases fate with
    | lost => cases returned
    | rejected => cases returned
    | answered given =>
      cases returned
      exact ⟨id, response, waits, rfl, readFrame_answered read⟩

end Runs

/-- What the client does on every stream, in the order of a trace with its latest moment first. -/
structure Correlated (trace : List (Moment Line WireEvent)) : Prop where
  increasing : (sentIds trace).Pairwise fun late early => early < late
  -- a result comes from the reply with the identity that was handed on last
  own : ∀ later moment earlier result, trace = later ++ moment :: earlier ->
    returnedAt moment = some (.ok result) ->
    ∃ id response, moment.label = .receive (some response) ∧ RepliesTo id response result ∧
      Since (HandsOn id) Turns earlier
  final : ∀ later moment earlier, trace = later ++ moment :: earlier -> Breaks moment ->
    ∀ other, other ∈ later -> sentAt other = none

theorem replies_match (run : LineRun .connected trace last) : Correlated trace where
  increasing := sentIds_increase run
  own := by
    rintro later moment earlier result rfl returned
    obtain ⟨id, response, waits, received, replies⟩ := returned_answer run (by simp) returned
    exact ⟨id, response, received, replies, awaited_sent run.before_moment.1 rfl waits⟩
  final := by
    rintro later moment earlier rfl breaks
    obtain ⟨lost, idle⟩ := breaks_lost run (by simp) breaks
    exact (lost_silent run.after_moment idle lost).2

section Sample

def staleReply : Json := .object [("id", .int 7), ("result", .object [])]

def staleTrace : List (Moment Line WireEvent) :=
  [⟨{ client := { nextId := 2, usable := false }, awaited := none }, .call .getTargets true,
    { client := { nextId := 2, usable := false }, awaited := none }⟩,
   ⟨{ client := { nextId := 2, usable := true }, awaited := some 1 }, .receive (some staleReply),
    { client := { nextId := 2, usable := false }, awaited := none }⟩,
   ⟨.connected, .call .getTargets true, { client := { nextId := 2, usable := true }, awaited := some 1 }⟩]

theorem stale_reply_silences : Correlated staleTrace := by
  have run : LineRun .connected staleTrace { client := { nextId := 2, usable := false }, awaited := none } :=
    .step (.step (.step .nil ⟨_, rfl, rfl⟩) ⟨_, rfl, rfl⟩) ⟨_, rfl, rfl⟩
  exact replies_match run

end Sample

section Calls

theorem LineMove.counts {event : WireEvent} {step : LineStep} (move : LineMove line event step) :
    step.line.client.nextId = line.client.nextId + step.sent.toList.length := by
  cases move <;> rfl

theorem sentIds_consecutive (run : LineRun line trace last) :
    last.client.nextId = line.client.nextId + (sentIds trace).length ∧
      (sentIds trace).reverse = List.range' line.client.nextId (sentIds trace).length := by
  induction run with
  | nil => exact ⟨rfl, rfl⟩
  | @step trace before after event earlier taken ih =>
    obtain ⟨step, next, rfl⟩ := taken
    obtain ⟨count, ids⟩ := ih
    have sent : sentAt ⟨before, event, step.line⟩ = step.sent := by simp [sentAt, next]
    have counts := (next_move next).counts
    unfold sentIds at count ids ⊢
    rw [List.filterMap_cons, sent]
    cases fresh : step.sent with
    | none =>
      rw [fresh] at counts
      exact ⟨counts.trans count, ids⟩
    | some id =>
      obtain ⟨rfl, _⟩ := (next_move next).advances.2 id fresh
      rw [fresh] at counts
      refine ⟨?_, ?_⟩
      · rw [counts, count]
        rfl
      · rw [List.reverse_cons, ids, List.length_cons, List.range'_concat, count, Nat.one_mul]

variable {config : CdpConfig} {start last : CdpBridgeState} {calls : List (Moment CdpBridgeState BridgeLabel)}

/-- The commands that the calls of a run record, in the order of the calls. -/
def callsSent (config : CdpConfig) (calls : List (Moment CdpBridgeState BridgeLabel)) : List SentCommand :=
  calls.reverse.flatMap fun call => (serve config call.label.1 call.label.2 call.before).sent

/-- A run of whole calls is a run of the line, frame by frame: it writes what the calls record, each command once and
in their order, under consecutive identities. -/
theorem bridge_run_on_line (run : BridgeRun config start calls last) :
    ∃ trace, LineRun { client := start.client, awaited := none } trace { client := last.client, awaited := none } ∧
      Writes trace (callsSent config calls) ∧
      (sentIds trace).reverse = List.range' start.client.nextId (sentIds trace).length := by
  have reaches : LineReaches { client := start.client, awaited := none } (callsSent config calls)
      { client := last.client, awaited := none } := by
    induction run with
    | nil => exact ⟨[], .nil, rfl, rfl⟩
    | @step calls before after label _ taken early =>
      subst taken
      have call := early.trans (serve_onLine config label.1 label.2 before)
      simpa [callsSent] using call
  obtain ⟨trace, line, writes⟩ := reaches
  exact ⟨trace, line, writes, (sentIds_consecutive line).2⟩

theorem close_on_line : ∃ trace,
    Writes trace (serve sampleCdp deadLine (.closePage ⟨1⟩ ⟨1⟩ 1) buttonBridge).sent ∧ sentIds trace ≠ [] := by
  have run : BridgeRun sampleCdp buttonBridge [⟨buttonBridge, (deadLine, .closePage ⟨1⟩ ⟨1⟩ 1), _⟩] _ := .step .nil rfl
  obtain ⟨trace, line, writes, _⟩ := bridge_run_on_line run
  refine ⟨trace, writes, fun none_sent => ?_⟩
  have counted := (sentIds_consecutive line).1
  rw [none_sent] at counted
  revert counted
  decide

end Calls

end AgentycHost
