import AgentycHost.Local.Connection

set_option autoImplicit false

/-! # What the answer to a cancel promises -/

namespace AgentycHost

open Shared

variable {thread : Thread} {seen : List Occurrence} {task : Task} {requestId : RequestId} {server : ProtocolServer}

section Moves

variable {after : Thread} {step : TaskStep}

inductive Thread.Moves (thread : Thread) : TaskStep -> Thread -> List Occurrence -> Prop where
  | refused {seen : List Occurrence} (forked : thread.task.phase = .forked)
      (said : seen = [] ∨ seen = [.answered thread.task.frame thread.requestId false]) :
      Moves thread .enter (thread.reach .ended) seen
  | entered {server : ProtocolServer} (forked : thread.task.phase = .forked)
      (tracked : thread.server.track thread.task.request = .ok server) :
      Moves thread .enter ({ thread with server, tokens := (thread.tokens.token thread.requestId).1 }.reach
        (.entered (thread.tokens.token thread.requestId).2)) []
  | stopped {token : Nat} {late : Bool} (error : CoreError) (entered : thread.task.phase = .entered token) :
      Moves thread (.start late) (thread.reach (.decided (.error error))) []
  | started {token : Nat} {late : Bool} (entered : thread.task.phase = .entered token)
      (live : thread.tokens.isCancelled token = false) :
      Moves thread (.start late) (thread.reach (.running token)) [.executed thread.task.frame thread.requestId]
  | decided {token : Nat} {outcome : Except CoreError StringMap} (running : thread.task.phase = .running token)
      (may : thread.mayDecide token outcome = true) :
      Moves thread (.decide outcome) (thread.reach (.decided outcome)) []
  | finished {outcome : Except CoreError StringMap} {written : Bool} {seen : List Occurrence}
      (decided : thread.task.phase = .decided outcome)
      (said : seen = [] ∨ seen = [.answered thread.task.frame thread.requestId outcome.toBool]) :
      Moves thread (.finish written) ({ thread with
        server := thread.server.complete thread.requestId
        tokens := thread.tokens.clear thread.requestId }.reach .ended) seen

theorem Thread.next_moves (moved : thread.next step = some (after, seen)) : thread.Moves step after seen := by
  unfold next at moved
  split at moved
  next forked =>
    split at moved
    next =>
      cases moved
      exact .refused forked (.inl rfl)
    next =>
      split at moved
      next =>
        cases moved
        exact .refused forked (.inr rfl)
      next server tracked =>
        cases moved
        exact .entered forked tracked
  next token late entered =>
    split at moved
    next =>
      cases moved
      exact .stopped _ entered
    next live =>
      split at moved
      next =>
        cases moved
        exact .stopped _ entered
      next =>
        cases moved
        exact .started entered (Bool.eq_false_iff.mpr live)
  next token outcome running =>
    split at moved
    next may =>
      cases moved
      exact .decided running may
    next => cases moved
  next outcome written decided =>
    cases moved
    cases written
    · exact .finished decided (.inl rfl)
    · exact .finished decided (.inr rfl)
  next => cases moved

end Moves

section Promise

/-- Whether a cancel of the identity is answered with `cancelled`. -/
def cancels (server : ProtocolServer) (tokens : CancellationTokens) (requestId : RequestId) : Bool :=
  match tokens.byRequest.get? requestId, server.requestStates.get? requestId with
  | some _, _ => true
  | none, some record => record.state == .cancelledQueued
  | none, none => decide (server.requestStates.size < maxTrackedRequests)

/-- No success for a cancelled request, and no later frame with its identity runs. -/
structure Honest (seen : List Occurrence) : Prop where
  unsuccessful : ∀ requestId, .cancelAnswered requestId true ∈ seen ->
    ∀ frame, .answered frame requestId true ∉ seen
  unexecuted : ∀ later earlier requestId, seen = later ++ .cancelAnswered requestId true :: earlier ->
    ∀ frame, .received frame requestId ∈ later -> .executed frame requestId ∉ later

/-- The cancel finds every run of the request with its token, and none that has succeeded. -/
structure CancelInTime (connection : LocalConnection) (requestId : RequestId) : Prop where
  unanswered : ∀ frame, .answered frame requestId true ∉ connection.seen
  undecided : ∀ worker, worker ∈ connection.workers -> worker.2.request.requestId = requestId ->
    ∀ outcome, worker.2.phase = .decided outcome -> outcome.toBool = false
  holding : ∀ worker, worker ∈ connection.workers -> worker.2.request.requestId = requestId ->
    ∀ token, worker.2.phase = .entered token ∨ worker.2.phase = .running token ->
      connection.tokens.byRequest.get? requestId = some token

/-- A cancelled request that a thread would track anew finds the token that stops it. -/
def EntersInTime (connection : LocalConnection) (server : ProtocolServer) (task : Task) : Prop :=
  .cancelAnswered task.request.requestId true ∈ connection.seen ->
    (∃ tracked, server.track task.request = .ok tracked) ->
    (connection.tokens.byRequest.get? task.request.requestId).isSome = true

def InTime (moment : Moment LocalConnection ConnectionLabel) : Prop :=
  match moment.label with
  | .frame (.cancel cancel) _ =>
      cancels moment.before.server moment.before.tokens cancel.requestId = true ->
        CancelInTime moment.before cancel.requestId
  | .main .enter => ∀ task, moment.before.current = some task ->
      EntersInTime moment.before moment.before.server task
  | .worker index .enter => ∀ server task, moment.before.workers[index]? = some (server, task) ->
      EntersInTime moment.before server task
  | _ => True

end Promise

section Stopped

variable {tokens : CancellationTokens}

def Stopped (tokens : CancellationTokens) (task : Task) : Prop :=
  match task.phase with
  | .entered token => token ∈ tokens.cancelled
  | .running token => token ∈ tokens.cancelled ∧ task.request.isWait = true
  | .decided outcome => outcome.toBool = false
  | .forked | .ended => True

theorem Stopped.mono {later : CancellationTokens} (stopped : Stopped tokens task)
    (grows : ∀ token, token ∈ tokens.cancelled -> token ∈ later.cancelled) : Stopped later task := by
  unfold Stopped at stopped ⊢
  split
  next phase =>
    rw [phase] at stopped
    exact grows _ stopped
  next phase =>
    rw [phase] at stopped
    exact ⟨grows _ stopped.1, stopped.2⟩
  next phase =>
    rw [phase] at stopped
    exact stopped
  next => trivial
  next => trivial

def TokenStops (tokens : CancellationTokens) (requestId : RequestId) : Prop :=
  ∀ token, tokens.byRequest.get? requestId = some token -> token ∈ tokens.cancelled

end Stopped

section Threads

variable {after : Thread} {step : TaskStep}

theorem Thread.Moves.request (moves : thread.Moves step after seen) :
    after.task.request = thread.task.request ∧ after.task.frame = thread.task.frame := by
  cases moves
  all_goals exact ⟨rfl, rfl⟩

theorem Thread.Moves.cancelled (moves : thread.Moves step after seen) :
    after.tokens.cancelled = thread.tokens.cancelled := by
  cases moves
  case entered =>
    unfold Thread.reach CancellationTokens.token
    dsimp only
    split
    next => rfl
    next => rfl
  all_goals rfl

theorem Thread.Moves.others (moves : thread.Moves step after seen) (other : thread.requestId ≠ requestId) :
    after.tokens.byRequest.get? requestId = thread.tokens.byRequest.get? requestId := by
  cases moves
  case entered =>
    unfold Thread.reach CancellationTokens.token
    dsimp only
    split
    next => rfl
    next => exact Table.get?_insert_ne _ _ _ _ (Ne.symm other)
  case finished =>
    unfold Thread.reach CancellationTokens.clear
    dsimp only
    rw [Table.get?_erase, if_neg (Ne.symm other)]
  all_goals rfl

theorem Thread.Moves.about (moves : thread.Moves step after seen) {occurrence : Occurrence}
    (inside : occurrence ∈ seen) :
    (∃ ok, occurrence = .answered thread.task.frame thread.requestId ok) ∨
      occurrence = .executed thread.task.frame thread.requestId := by
  cases moves with
  | refused _ said =>
    obtain rfl | rfl := said
    · cases inside
    · exact .inl ⟨_, List.mem_singleton.mp inside⟩
  | started _ _ => exact .inr (List.mem_singleton.mp inside)
  | finished _ said =>
    obtain rfl | rfl := said
    · cases inside
    · exact .inl ⟨_, List.mem_singleton.mp inside⟩
  | entered => cases inside
  | stopped => cases inside
  | decided => cases inside

theorem Thread.Moves.stops (moves : thread.Moves step after seen) (stopped : Stopped thread.tokens thread.task)
    (held : TokenStops thread.tokens thread.requestId)
    (found : step = .enter -> (∃ tracked, thread.server.track thread.task.request = .ok tracked) ->
      (thread.tokens.byRequest.get? thread.requestId).isSome = true) :
    Stopped after.tokens after.task ∧ TokenStops after.tokens thread.requestId ∧
      (∀ frame id, .executed frame id ∉ seen) ∧ ∀ frame id, .answered frame id true ∉ seen := by
  cases moves with
  | refused _ said =>
    refine ⟨trivial, held, ?_⟩
    obtain rfl | rfl := said
    · exact ⟨fun _ _ => List.not_mem_nil, fun _ _ => List.not_mem_nil⟩
    · constructor
      · rintro frame id inside
        cases List.mem_singleton.mp inside
      · rintro frame id inside
        cases List.mem_singleton.mp inside
  | entered _ tracked =>
    obtain ⟨token, there⟩ := Option.isSome_iff_exists.mp (found rfl ⟨_, tracked⟩)
    have known : thread.tokens.token thread.requestId = (thread.tokens, token) := by
      rw [CancellationTokens.token, there]
    rw [known]
    exact ⟨held token there, held, fun _ _ => List.not_mem_nil, fun _ _ => List.not_mem_nil⟩
  | stopped error _ => exact ⟨rfl, held, fun _ _ => List.not_mem_nil, fun _ _ => List.not_mem_nil⟩
  | started entered live =>
    rw [Stopped, entered] at stopped
    have cancelled : thread.tokens.isCancelled _ = true := List.contains_iff_mem.mpr stopped
    rw [live] at cancelled
    cases cancelled
  | decided running may =>
    rw [Stopped, running] at stopped
    have cancelled : thread.tokens.isCancelled _ = true := List.contains_iff_mem.mpr stopped.1
    rw [Thread.mayDecide, cancelled, stopped.2] at may
    rw [Bool.true_and, Bool.true_and, Bool.not_eq_true'] at may
    exact ⟨may, held, fun _ _ => List.not_mem_nil, fun _ _ => List.not_mem_nil⟩
  | finished decided said =>
    rw [Stopped, decided] at stopped
    refine ⟨trivial, ?_, ?_⟩
    · intro token there
      unfold Thread.reach CancellationTokens.clear at there
      dsimp only at there
      rw [Table.get?_erase, if_pos rfl] at there
      cases there
    · obtain rfl | rfl := said
      · exact ⟨fun _ _ => List.not_mem_nil, fun _ _ => List.not_mem_nil⟩
      · constructor
        · rintro frame id inside
          cases List.mem_singleton.mp inside
        · rintro frame id inside
          have same := List.mem_singleton.mp inside
          rw [Occurrence.answered.injEq, stopped] at same
          exact Bool.noConfusion same.2.2

end Threads

section Seen

/-- After a cancel that was answered with `cancelled`, no run of the request begins. -/
def Still (seen : List Occurrence) : Prop :=
  ∀ later earlier requestId, seen = later ++ .cancelAnswered requestId true :: earlier ->
    ∀ frame, .executed frame requestId ∉ later

theorem Still.append {seen new : List Occurrence} (still : Still seen)
    (quiet : ∀ requestId, .cancelAnswered requestId true ∉ new)
    (fresh : ∀ requestId, .cancelAnswered requestId true ∈ seen ->
      ∀ frame, .executed frame requestId ∉ new) :
    Still (new ++ seen) := by
  intro later earlier requestId split frame
  rcases List.append_eq_append_iff.mp split with ⟨middle, rfl, rest⟩ | ⟨middle, rfl, rest⟩
  · have before : .cancelAnswered requestId true ∈ seen := by
      rw [rest]
      exact List.mem_append_right _ List.mem_cons_self
    rw [List.mem_append, not_or]
    exact ⟨fresh _ before frame, still _ _ _ rest frame⟩
  · cases middle with
    | nil =>
      have before : .cancelAnswered requestId true ∈ seen := by
        rw [List.nil_append] at rest
        rw [← rest]
        exact List.mem_cons_self
      rw [List.append_nil] at fresh
      exact fresh _ before frame
    | cons first more =>
      obtain rfl := List.head_eq_of_cons_eq rest
      exact absurd (List.mem_append_right _ List.mem_cons_self) (quiet requestId)

theorem Still.honest {seen : List Occurrence} (still : Still seen)
    (unsuccessful : ∀ requestId, .cancelAnswered requestId true ∈ seen ->
      ∀ frame, .answered frame requestId true ∉ seen) : Honest seen where
  unsuccessful := unsuccessful
  unexecuted later earlier requestId split frame _ := still later earlier requestId split frame

end Seen

section Steps

variable {connection after : LocalConnection}

/-- A request whose cancel was answered with `cancelled`. -/
structure Settled (connection : LocalConnection) (requestId : RequestId) : Prop where
  unanswered : ∀ frame, .answered frame requestId true ∉ connection.seen
  token : TokenStops connection.tokens requestId
  main : ∀ task, connection.current = some task -> task.request.requestId = requestId ->
    Stopped connection.tokens task
  workers : ∀ worker, worker ∈ connection.workers -> worker.2.request.requestId = requestId ->
    Stopped connection.tokens worker.2

structure Promises (connection : LocalConnection) : Prop where
  waits : ∀ worker, worker ∈ connection.workers -> worker.2.request.isWait = true
  settled : ∀ requestId, .cancelAnswered requestId true ∈ connection.seen -> Settled connection requestId
  still : Still connection.seen

theorem Promises.hangUp (promises : Promises connection) : Promises connection.hangUp where
  waits := promises.waits
  settled requestId cancelled := by
    have before := promises.settled requestId cancelled
    have grows : ∀ token, token ∈ connection.tokens.cancelled ->
        token ∈ connection.tokens.cancelAll.cancelled :=
      fun _ inside => List.mem_append_right _ inside
    exact {
      unanswered := before.unanswered
      token := fun token there => grows _ (before.token token there)
      main := fun task current same => (before.main task current same).mono grows
      workers := fun worker inside same => (before.workers worker inside same).mono grows }
  still := promises.still

section Threads

variable {step : TaskStep}

structure Leaves (tokens : CancellationTokens) (thread : Thread) (seen : List Occurrence) (requestId : RequestId) :
    Prop where
  unanswered : ∀ frame, .answered frame requestId true ∉ seen
  unexecuted : ∀ frame, .executed frame requestId ∉ seen
  token : TokenStops thread.tokens requestId
  own : thread.requestId = requestId -> Stopped thread.tokens thread.task
  others : ∀ other, Stopped tokens other -> Stopped thread.tokens other

theorem Settled.leaves (settled : Settled connection requestId)
    (moves : (Thread.mk server connection.tokens task).Moves step thread seen)
    (stopped : task.request.requestId = requestId -> Stopped connection.tokens task)
    (cancelled : .cancelAnswered requestId true ∈ connection.seen)
    (inTime : step = .enter -> EntersInTime connection server task) :
    Leaves connection.tokens thread seen requestId := by
  have others : ∀ other, Stopped connection.tokens other -> Stopped thread.tokens other := by
    intro other stopped
    apply stopped.mono
    rw [moves.cancelled]
    exact fun _ inside => inside
  by_cases same : task.request.requestId = requestId
  next =>
    subst same
    obtain ⟨kept, held, unexecuted, unanswered⟩ := moves.stops (stopped rfl) settled.token
      fun entering tracked => inTime entering cancelled tracked
    exact ⟨fun frame => unanswered frame _, fun frame => unexecuted frame _, held, fun _ => kept, others⟩
  next =>
    have apart : ∀ occurrence, occurrence ∈ seen -> ∀ frame ok,
        occurrence ≠ .answered frame requestId ok ∧ occurrence ≠ .executed frame requestId := by
      rintro occurrence inside frame ok
      rcases moves.about inside with ⟨_, rfl⟩ | rfl
      · refine ⟨fun equal => same ?_, (fun equal => by cases equal)⟩
        rw [Occurrence.answered.injEq] at equal
        exact equal.2.1
      · refine ⟨(fun equal => by cases equal), fun equal => same ?_⟩
        rw [Occurrence.executed.injEq] at equal
        exact equal.2
    refine ⟨fun frame inside => (apart _ inside frame true).1 rfl,
      fun frame inside => (apart _ inside frame true).2 rfl, ?_, ?_, others⟩
    · intro token there
      rw [moves.others same] at there
      rw [moves.cancelled]
      exact settled.token token there
    · intro own
      rw [Thread.requestId, moves.request.1] at own
      exact absurd own same

theorem Thread.Moves.no_cancel (moves : (Thread.mk server connection.tokens task).Moves step thread seen) :
    .cancelAnswered requestId true ∉ seen := by
  intro inside
  rcases moves.about inside with ⟨_, equal⟩ | equal
  · cases equal
  · cases equal

theorem Promises.main_step (promises : Promises connection) (current : connection.current = some task)
    (moves : (Thread.mk connection.server connection.tokens task).Moves step thread seen)
    (inTime : step = .enter -> EntersInTime connection connection.server task) {next : Option Task}
    (follows : next = none ∨ next = some thread.task) :
    Promises { connection with
      server := thread.server, tokens := thread.tokens, current := next, seen := seen ++ connection.seen } where
  waits := promises.waits
  settled requestId cancelled := by
    have cancelled : .cancelAnswered requestId true ∈ connection.seen :=
      (List.mem_append.mp cancelled).resolve_left moves.no_cancel
    have before := promises.settled requestId cancelled
    have leaves := before.leaves moves (before.main task current) cancelled inTime
    refine {
      unanswered := fun frame inside => ?_
      token := leaves.token
      main := fun other running same => ?_
      workers := fun worker inside same => leaves.others _ (before.workers worker inside same) }
    · rcases List.mem_append.mp inside with new | old
      · exact leaves.unanswered frame new
      · exact before.unanswered frame old
    · dsimp only at running
      obtain rfl | rfl := follows
      · cases running
      · cases running
        exact leaves.own same
  still := by
    apply promises.still.append
    · exact fun _ => moves.no_cancel
    · intro requestId cancelled
      have before := promises.settled requestId cancelled
      exact (before.leaves moves (before.main task current) cancelled inTime).unexecuted

theorem Promises.worker_step (promises : Promises connection) {index : Nat}
    (there : connection.workers[index]? = some (server, task))
    (moves : (Thread.mk server connection.tokens task).Moves step thread seen)
    (inTime : step = .enter -> EntersInTime connection server task) :
    Promises { connection with
      tokens := thread.tokens, workers := connection.workers.set index (thread.server, thread.task),
      seen := seen ++ connection.seen } := by
  have listed : (server, task) ∈ connection.workers := List.mem_of_getElem? there
  have leaves : ∀ requestId, .cancelAnswered requestId true ∈ connection.seen ->
      Leaves connection.tokens thread seen requestId := by
    intro requestId cancelled
    have before := promises.settled requestId cancelled
    exact before.leaves moves (before.workers _ listed) cancelled inTime
  refine ⟨?_, ?_, ?_⟩
  · intro worker inside
    rcases List.mem_or_eq_of_mem_set inside with old | rfl
    · exact promises.waits worker old
    · rw [moves.request.1]
      exact promises.waits _ listed
  · intro requestId cancelled
    have cancelled : .cancelAnswered requestId true ∈ connection.seen :=
      (List.mem_append.mp cancelled).resolve_left moves.no_cancel
    have before := promises.settled requestId cancelled
    have after := leaves requestId cancelled
    refine {
      unanswered := fun frame inside => ?_
      token := after.token
      main := fun other running same => after.others _ (before.main other running same)
      workers := fun worker inside same => ?_ }
    · rcases List.mem_append.mp inside with new | old
      · exact after.unanswered frame new
      · exact before.unanswered frame old
    · rcases List.mem_or_eq_of_mem_set inside with old | rfl
      · exact after.others _ (before.workers worker old same)
      · exact after.own same
  · apply promises.still.append
    · exact fun _ => moves.no_cancel
    · exact fun requestId cancelled => (leaves requestId cancelled).unexecuted

end Threads

section Frames

variable {request : RequestEnvelope} {cancel : CancelEnvelope}

theorem Promises.received (promises : Promises connection) {server : ProtocolServer} {frames : Nat} {current : Option Task}
    {workers : List (ProtocolServer × Task)} (frame : Nat) (requestId : RequestId)
    (main : ∀ task, current = some task -> connection.current = some task ∨ task.phase = .forked)
    (waits : ∀ worker, worker ∈ workers ->
      worker ∈ connection.workers ∨ worker.2.phase = .forked ∧ worker.2.request.isWait = true) :
    Promises { connection with
      server, frames, current, workers, seen := .received frame requestId :: connection.seen } := by
  refine ⟨?_, ?_, ?_⟩
  · intro worker inside
    rcases waits worker inside with old | new
    · exact promises.waits worker old
    · exact new.2
  · intro other cancelled
    have cancelled : .cancelAnswered other true ∈ connection.seen :=
      (List.mem_cons.mp cancelled).resolve_left fun equal => by cases equal
    have before := promises.settled other cancelled
    refine {
      unanswered := fun number inside => ?_
      token := before.token
      main := fun task running same => ?_
      workers := fun worker inside same => ?_ }
    · exact before.unanswered number ((List.mem_cons.mp inside).resolve_left fun equal => by cases equal)
    · rcases main task running with old | forked
      · exact before.main task old same
      · rw [Stopped, forked]
        trivial
    · rcases waits worker inside with old | ⟨forked, _⟩
      · exact before.workers worker old same
      · rw [Stopped, forked]
        trivial
  · have noted : Still ([.received frame requestId] ++ connection.seen) := by
      apply promises.still.append
      · intro _ inside
        cases List.mem_singleton.mp inside
      · intro _ _ _ inside
        cases List.mem_singleton.mp inside
    exact noted

theorem Promises.takeRequest (promises : Promises connection) {spawned : Bool} :
    Promises (connection.takeRequest request spawned) := by
  unfold LocalConnection.takeRequest
  dsimp only
  split
  next waits =>
    split
    next =>
      refine promises.received _ _ (fun _ running => .inl running) fun worker inside => ?_
      rcases List.mem_append.mp inside with old | new
      · exact .inl old
      · obtain rfl := List.mem_singleton.mp new
        exact .inr ⟨rfl, waits⟩
    next => exact ⟨promises.waits, fun _ cancelled => by
      have before := promises.settled _ cancelled
      exact ⟨before.unanswered, before.token, before.main, before.workers⟩, promises.still⟩
  next =>
    split
    next => exact promises.hangUp
    next =>
      refine promises.received _ _ (fun task running => ?_) fun _ inside => .inl inside
      cases running
      exact .inr rfl

structure Cancelling (server : ProtocolServer) (tokens : CancellationTokens) (requestId : RequestId)
    (outcome : Session Unit × ResponseEnvelope) : Prop where
  answer : outcome.2.ok = cancels server tokens requestId
  grows : ∀ token, token ∈ tokens.cancelled -> token ∈ outcome.1.tokens.cancelled
  others : ∀ other, TokenStops tokens other -> TokenStops outcome.1.tokens other
  held : ∀ token, tokens.byRequest.get? requestId = some token -> token ∈ outcome.1.tokens.cancelled
  stops : outcome.2.ok = true -> TokenStops outcome.1.tokens requestId

theorem handleCancel_cancels (server : ProtocolServer) (tokens : CancellationTokens) (requestId : RequestId) :
    Cancelling server tokens requestId (Session.handleCancel ⟨server, tokens, ()⟩ requestId) := by
  unfold Session.handleCancel
  dsimp only
  cases token : tokens.byRequest.get? requestId with
  | some held =>
    have grows : ∀ token, token ∈ tokens.cancelled -> token ∈ (tokens.cancel held).cancelled :=
      fun _ inside => List.mem_cons_of_mem _ inside
    refine ⟨?_, grows, fun other stops token there => grows _ (stops token there), ?_, ?_⟩
    · unfold cancels
      rw [token]
      rfl
    · intro other there
      rw [token] at there
      cases there
      exact List.mem_cons_self
    · intro _ other there
      have same : tokens.byRequest.get? requestId = some other := there
      rw [token] at same
      cases same
      exact List.mem_cons_self
  | none =>
    have unheld : ∀ held, tokens.byRequest.get? requestId = some held -> held ∈ tokens.cancelled := by
      intro held there
      rw [token] at there
      cases there
    cases record : server.requestStates.get? requestId with
    | some found =>
      dsimp only
      cases state : found.state with
      | cancelledQueued =>
        refine ⟨?_, fun _ inside => inside, fun _ stops => stops, unheld, fun _ => unheld⟩
        unfold cancels
        rw [token, record]
        dsimp only
        rw [state]
        rfl
      | dispatched =>
        refine ⟨?_, fun _ inside => inside, fun _ stops => stops, unheld, fun _ => unheld⟩
        unfold cancels
        rw [token, record]
        dsimp only
        rw [state]
        rfl
      | completed =>
        refine ⟨?_, fun _ inside => inside, fun _ stops => stops, unheld, fun _ => unheld⟩
        unfold cancels
        rw [token, record]
        dsimp only
        rw [state]
        rfl
    | none =>
      dsimp only
      by_cases room : server.requestStates.size < maxTrackedRequests
      next =>
        rw [if_pos room, CancellationTokens.token, token]
        dsimp only
        -- the new token is cancelled at once
        have stops : ∀ other, TokenStops tokens other -> TokenStops (CancellationTokens.cancel { tokens with
            byRequest := tokens.byRequest.insert requestId tokens.issued
            issued := tokens.issued + 1 } tokens.issued) other := by
          intro other stops held there
          unfold CancellationTokens.cancel at there ⊢
          dsimp only at there ⊢
          rw [Table.get?_insert] at there
          split at there
          next =>
            cases there
            exact List.mem_cons_self
          next => exact List.mem_cons_of_mem _ (stops held there)
        refine ⟨?_, fun _ inside => List.mem_cons_of_mem _ inside, stops, ?_, fun _ => stops requestId unheld⟩
        · unfold cancels
          rw [token, record]
          dsimp only
          rw [decide_eq_true room]
          rfl
        · intro held there
          exact List.mem_cons_of_mem _ (unheld held there)
      next =>
        rw [if_neg room]
        refine ⟨?_, fun _ inside => inside, fun _ stops => stops, unheld, fun _ => unheld⟩
        unfold cancels
        rw [token, record]
        dsimp only
        rw [decide_eq_false room]
        rfl

theorem Promises.takeCancel (promises : Promises connection) (idle : connection.current = none)
    (inTime : cancels connection.server connection.tokens cancel.requestId = true ->
      CancelInTime connection cancel.requestId) : Promises (connection.takeCancel cancel) := by
  unfold LocalConnection.takeCancel
  split
  next => exact promises.hangUp
  next =>
    have cancelling := handleCancel_cancels connection.server connection.tokens cancel.requestId
    generalize Session.handleCancel ⟨connection.server, connection.tokens, ()⟩ cancel.requestId = outcome
      at cancelling
    dsimp only
    refine ⟨promises.waits, ?_, ?_⟩
    · intro requestId cancelled
      have unseen : ∀ frame ok, Occurrence.answered frame requestId ok ∈
          .cancelAnswered cancel.requestId outcome.2.ok :: connection.seen ->
            .answered frame requestId ok ∈ connection.seen := by
        intro frame ok inside
        exact (List.mem_cons.mp inside).resolve_left fun equal => by cases equal
      by_cases earlier : .cancelAnswered requestId true ∈ connection.seen
      next =>
        have before := promises.settled requestId earlier
        exact {
          unanswered := fun frame inside => before.unanswered frame (unseen frame true inside)
          token := cancelling.others _ before.token
          main := fun task current same => (before.main task current same).mono cancelling.grows
          workers := fun worker inside same => (before.workers worker inside same).mono cancelling.grows }
      next =>
        -- this is the cancel's own answer
        have own := (List.mem_cons.mp cancelled).resolve_right earlier
        rw [Occurrence.cancelAnswered.injEq] at own
        obtain ⟨rfl, ok⟩ := own
        have found := inTime (cancelling.answer ▸ ok.symm)
        refine {
          unanswered := fun frame inside => found.unanswered frame (unseen frame true inside)
          token := cancelling.stops ok.symm
          main := fun task current _ => ?_
          workers := fun worker inside same => ?_ }
        · rw [idle] at current
          cases current
        · have holding := found.holding worker inside same
          unfold Stopped
          split
          next token phase => exact cancelling.held token (holding token (.inl phase))
          next token phase =>
            exact ⟨cancelling.held token (holding token (.inr phase)), promises.waits worker inside⟩
          next outcome phase => exact found.undecided worker inside same outcome phase
          next => trivial
          next => trivial
    · have noted : Still ([.cancelAnswered cancel.requestId outcome.2.ok] ++ connection.seen) := by
        intro later earlier requestId split frame inside
        cases later with
        | nil => cases inside
        | cons first more =>
          obtain rfl := List.head_eq_of_cons_eq split
          rcases List.mem_cons.mp inside with equal | inside
          · cases equal
          · exact promises.still _ _ _ (List.tail_eq_of_cons_eq split) frame inside
      exact noted

end Frames

theorem Promises.runMain (promises : Promises connection) {step : TaskStep} (ran : connection.runMain step = some after)
    (inTime : step = .enter -> ∀ task, connection.current = some task ->
      EntersInTime connection connection.server task) : Promises after := by
  obtain ⟨task, current, ran⟩ := Option.bind_eq_some_iff.mp ran
  obtain ⟨⟨thread, seen⟩, stepped, ran⟩ := Option.bind_eq_some_iff.mp ran
  have moves := Thread.next_moves stepped
  have entering : step = .enter -> EntersInTime connection connection.server task := fun enters =>
    inTime enters task current
  dsimp only at ran
  split at ran
  next =>
    cases ran
    exact (promises.main_step current moves entering (.inl rfl)).hangUp
  next =>
    cases ran
    exact promises.main_step current moves entering (.inl rfl)
  next =>
    cases ran
    exact promises.main_step current moves entering (.inr rfl)

theorem Promises.runWorker (promises : Promises connection) {index : Nat} {step : TaskStep}
    (ran : connection.runWorker index step = some after)
    (inTime : step = .enter -> ∀ server task, connection.workers[index]? = some (server, task) ->
      EntersInTime connection server task) : Promises after := by
  obtain ⟨⟨server, task⟩, there, ran⟩ := Option.bind_eq_some_iff.mp ran
  obtain ⟨⟨thread, seen⟩, stepped, ran⟩ := Option.bind_eq_some_iff.mp ran
  cases ran
  exact promises.worker_step there (Thread.next_moves stepped) fun enters => inTime enters server task there

theorem Promises.step (promises : Promises connection) {label : ConnectionLabel}
    (moved : connection.next label = some after) (inTime : InTime ⟨connection, label, after⟩) : Promises after := by
  unfold LocalConnection.next at moved
  cases label with
  | frame envelope spawned =>
    dsimp only at moved
    split at moved
    next ready =>
      cases moved
      rw [Bool.and_eq_true, Option.isNone_iff_eq_none] at ready
      cases envelope with
      | request request => exact promises.takeRequest
      | cancel cancel => exact promises.takeCancel ready.2 inTime
    next => cases moved
  | other peer =>
    dsimp only at moved
    split at moved
    next =>
      cases moved
      exact ⟨promises.waits, fun requestId cancelled => by
        have before := promises.settled requestId cancelled
        exact ⟨before.unanswered, before.token, before.main, before.workers⟩, promises.still⟩
    next => cases moved
  | hangUp =>
    dsimp only at moved
    split at moved
    next =>
      cases moved
      exact promises.hangUp
    next => cases moved
  | main step =>
    apply promises.runMain moved
    rintro rfl
    exact inTime
  | worker index step =>
    apply promises.runWorker moved
    rintro rfl
    exact inTime

end Steps

section Runs

variable {trace : List (Moment LocalConnection ConnectionLabel)} {last : LocalConnection}

theorem accepted_promises (server : ProtocolServer) : Promises (.accepted server) where
  waits := by
    intro worker inside
    cases inside
  settled := by
    intro requestId inside
    cases inside
  still := by
    intro later earlier requestId split
    cases later
    all_goals cases split

theorem wait_identity : validateIdentifier "req_" "wait" = true := by decide

def waitRequest : RequestEnvelope where
  protocol := protocolVersion
  requestId := ⟨"wait", wait_identity⟩
  method := "wait.for"
  params := ((∅ : StringMap).insert "condition" "\x7b\"kind\":\"event_kind\",\"event\":\"page_changed\"\x7d").insert
    "timeout_ms" "1000"
  deadlineMs := none
  idempotencyKey := none

def waitMatched : StringMap := (∅ : StringMap).insert "wait" "\"matched\""

def cancelWait : CancelEnvelope where
  protocol := protocolVersion
  requestId := waitRequest.requestId
  reason := none

def newServer : ProtocolServer where
  limits := .default
  connection := none
  requestStates := ∅

/-- Steps whose cancels come first, and whose requests find the token of their identity. -/
def prompt (moment : Moment LocalConnection ConnectionLabel) : Bool :=
  match moment.label with
  | .frame (.cancel _) _ => moment.before.workers.isEmpty && moment.before.seen.isEmpty
  | .main .enter => moment.before.current.all fun task =>
      (moment.before.tokens.byRequest.get? task.request.requestId).isSome
  | .worker index .enter => moment.before.workers[index]?.all fun worker =>
      (moment.before.tokens.byRequest.get? worker.2.request.requestId).isSome
  | _ => true

theorem prompt_inTime {moment : Moment LocalConnection ConnectionLabel} (prompted : prompt moment = true) :
    InTime moment := by
  unfold prompt at prompted
  unfold InTime
  split
  next label =>
    rw [label] at prompted
    dsimp only at prompted
    rw [Bool.and_eq_true, List.isEmpty_iff, List.isEmpty_iff] at prompted
    intro _
    refine ⟨?_, ?_, ?_⟩
    · rw [prompted.2]
      exact fun _ => List.not_mem_nil
    · rw [prompted.1]
      exact fun _ inside => absurd inside List.not_mem_nil
    · rw [prompted.1]
      exact fun _ inside => absurd inside List.not_mem_nil
  next label =>
    rw [label] at prompted
    intro task current _ _
    rw [current] at prompted
    exact prompted
  next label =>
    rw [label] at prompted
    intro server task there _ _
    dsimp only at prompted
    rw [there] at prompted
    exact prompted
  next => trivial

end Runs

end AgentycHost
