import AgentycHost.Native.Requests

set_option autoImplicit false

/-! # What a step of a Native Messaging connection does -/

namespace AgentycHost

open Shared

variable {host after : NativeRequests} {label : NativeLabel} {call : NativeCall}

def receivedOutcome : Except NativeHostError Json -> Except CoreError Json
  | .ok value => responseResult value
  | .error error => .error error.asCoreError

section Moves

inductive NativeRequests.CallMoves (host : NativeRequests) (index : Nat) (call : NativeCall) :
    NativeLabel -> NativeRequests -> Prop where
  | full (phase : call.phase = .named) (error : CoreError) :
      CallMoves host index call (.register index) (host.reach index call (.returned (.error error)))
  | registered (phase : call.phase = .named) :
      CallMoves host index call (.register index)
        ({ host with pending := host.pending.insert call.number index }.reach index call .registered)
  | written (phase : call.phase = .registered) :
      CallMoves host index call (.post index .written) (host.reach index call .waiting)
  | unflushed (phase : call.phase = .registered) :
      CallMoves host index call (.post index .unflushed) (host.reach index call (.refused nativeWriteFailed))
  | refused (phase : call.phase = .registered) (error : NativeHostError) :
      CallMoves host index call (.post index (.refused error)) (host.reach index call (.refused error))
  | gaveUp {error : NativeHostError} (phase : call.phase = .refused error) :
      CallMoves host index call (.giveUp index)
        ((host.unregister call).reach index call (.returned (.error error.asCoreError)))
  | received {message : Except NativeHostError Json} (phase : call.phase = .waiting) (sent : call.inbox = some message) :
      CallMoves host index call (.receive index) (host.reach index call (.returned (receivedOutcome message)))
  | expired (phase : call.phase = .waiting) (empty : call.inbox = none) :
      CallMoves host index call (.expire index) (host.reach index call .expired)
  | orphaned (phase : call.phase = .waiting) (empty : call.inbox = none) :
      CallMoves host index call (.orphan index) (host.reach index call .orphaned)
  | forgotten (phase : call.phase = .expired) (kind : call.kind = .request) :
      CallMoves host index call (.remove index) ((host.unregister call).reach index call .forgotten)
  | lapsed (phase : call.phase = .expired) (kind : call.kind = .fence) :
      CallMoves host index call (.remove index) ((host.unregister call).reach index call .lapsed)
  | disconnected (phase : call.phase = .orphaned) :
      CallMoves host index call (.remove index)
        ((host.unregister call).reach index call (.returned (.error call.kind.disconnected)))
  | remembered (phase : call.phase = .forgotten) :
      CallMoves host index call (.remember index) ((host.remember call.number).reach index call .lapsed)

inductive NativeRequests.ReaderMoves (host : NativeRequests) : NativeLabel -> NativeRequests -> Prop where
  | matched {number target : Nat} {value : Json} (listening : host.reader = .listening)
      (found : host.pending.get? number = some target) :
      ReaderMoves host (.answer (some number) value)
        { host with pending := host.pending.erase number, reader := .handing number target value }
  | unmatched {number : Option Nat} {value : Json} (listening : host.reader = .listening)
      (missing : ∀ named, number = some named -> host.pending.get? named = none) :
      ReaderMoves host (.answer number value) { host with reader := .unmatched number }
  | handed {number target : Nat} {value : Json} (handing : host.reader = .handing number target value) :
      ReaderMoves host .deliver { host.send target (.ok value) with reader := .listening }
  | ignored {number : Nat} (unmatched : host.reader = .unmatched (some number)) (late : number ∈ host.timedOut) :
      ReaderMoves host .deliver { host with timedOut := host.timedOut.erase number, reader := .listening }
  | unasked {number : Option Nat} (unmatched : host.reader = .unmatched number)
      (unknown : ∀ named, number = some named -> named ∉ host.timedOut) :
      ReaderMoves host .deliver { host with reader := .failed noPendingRequest }
  | failed (listening : host.reader = .listening) (error : NativeHostError) :
      ReaderMoves host (.fail error) { host with reader := .failed error }
  | marked {error : NativeHostError} (failed : host.reader = .failed error) (closed : Option NativeHostError) :
      ReaderMoves host .markClosed { host with closed := closed, reader := .marked error }
  | drained {error : NativeHostError} (marked : host.reader = .marked error) :
      ReaderMoves host .drain { host with pending := ∅, reader := .notifying error host.pending.values }
  | notified {error : NativeHostError} {target : Nat} {rest : List Nat}
      (notifying : host.reader = .notifying error (target :: rest)) :
      ReaderMoves host .notify { host.send target (.error error) with reader := .notifying error rest }
  | ended {error : NativeHostError} (notifying : host.reader = .notifying error []) :
      ReaderMoves host .notify { host with reader := .ended }

inductive NativeRequests.Moves (host : NativeRequests) : NativeLabel -> NativeRequests -> Prop where
  | called (kind : NativeCallKind) :
      Moves host (.call kind)
        { host.issue with calls := host.calls ++ [{ kind, number := host.counter, phase := .named, inbox := none }] }
  | spent : Moves host .spend host.issue
  | call {index : Nat} {call : NativeCall} {label : NativeLabel} {after : NativeRequests}
      (found : host.calls[index]? = some call) (moves : host.CallMoves index call label after) : Moves host label after
  | reader {label : NativeLabel} {after : NativeRequests} (moves : host.ReaderMoves label after) : Moves host label after

theorem NativeRequests.readerStep_moves (moved : host.readerStep label = some after) : host.ReaderMoves label after := by
  unfold readerStep at moved
  split at moved
  next listening =>
    split at moved
    next =>
      cases moved
      exact .unmatched listening fun _ named => by cases named
    next number =>
      split at moved
      next found =>
        cases moved
        exact .matched listening found
      next missing =>
        cases moved
        refine .unmatched listening fun named same => ?_
        cases same
        exact missing
  next handing =>
    cases moved
    exact .handed handing
  next unmatched =>
    split at moved
    next late =>
      cases moved
      exact .ignored unmatched late
    next unknown =>
      cases moved
      refine .unasked unmatched fun named same => ?_
      cases same
      exact unknown
  next unmatched =>
    cases moved
    exact .unasked unmatched fun _ named => by cases named
  next listening =>
    cases moved
    exact .failed listening _
  next failed =>
    cases moved
    exact .marked failed _
  next marked =>
    cases moved
    exact .drained marked
  next notifying =>
    cases moved
    exact .notified notifying
  next notifying =>
    cases moved
    exact .ended notifying
  next => cases moved

def NativeLabel.index : NativeLabel -> Option Nat
  | .register index | .post index _ | .giveUp index | .receive index | .expire index | .orphan index | .remove index
  | .remember index => some index
  | _ => none

theorem NativeRequests.callStep_moves {index : Nat} {call : NativeCall} (about : label.index = some index)
    (moved : host.callStep index call label = some after) : host.CallMoves index call label after := by
  unfold callStep at moved
  split at moved
  next phase =>
    cases about
    cases moved
    unfold register
    split
    next => exact .full phase _
    next => exact .registered phase
  next phase =>
    cases about
    cases moved
    exact .written phase
  next phase =>
    cases about
    cases moved
    exact .unflushed phase
  next phase =>
    cases about
    cases moved
    exact .refused phase _
  next phase =>
    cases about
    cases moved
    exact .gaveUp phase
  next phase =>
    cases about
    split at moved
    next sent =>
      cases moved
      exact .received phase sent
    next sent =>
      cases moved
      exact .received phase sent
    next => cases moved
  next phase =>
    cases about
    split at moved
    next empty =>
      cases moved
      exact .expired phase (Option.isNone_iff_eq_none.mp empty)
    next => cases moved
  next phase =>
    cases about
    split at moved
    next lost =>
      cases moved
      exact .orphaned phase (Option.isNone_iff_eq_none.mp (Bool.and_eq_true_iff.mp lost).1)
    next => cases moved
  next phase =>
    cases about
    split at moved
    next kind =>
      cases moved
      exact .forgotten phase kind
    next kind =>
      cases moved
      exact .lapsed phase kind
  next phase =>
    cases about
    cases moved
    exact .disconnected phase
  next phase =>
    cases about
    cases moved
    exact .remembered phase
  next => cases moved

theorem NativeRequests.next_moves (moved : host.next label = some after) : host.Moves label after := by
  unfold next at moved
  split at moved
  next =>
    cases moved
    exact .called _
  next =>
    cases moved
    exact .spent
  case h_11 => exact .reader (readerStep_moves moved)
  case h_12 => exact .reader (readerStep_moves moved)
  case h_13 => exact .reader (readerStep_moves moved)
  case h_14 => exact .reader (readerStep_moves moved)
  case h_15 => exact .reader (readerStep_moves moved)
  case h_16 => exact .reader (readerStep_moves moved)
  all_goals
    obtain ⟨call, found, stepped⟩ := Option.bind_eq_some_iff.mp moved
    exact .call found (callStep_moves rfl stepped)

end Moves

section Calls

variable {index other : Nat}

def NativeCallPhase.stepsLeft : NativeCallPhase -> Nat
  | .named => 5
  | .registered => 4
  | .waiting => 3
  | .expired => 2
  | .refused _ | .orphaned | .forgotten => 1
  | .lapsed | .returned _ => 0

inductive NativeCall.Turns (call : NativeCall) : NativeCallPhase -> Prop where
  | full (phase : call.phase = .named) (error : CoreError) : Turns call (.returned (.error error))
  | registered (phase : call.phase = .named) : Turns call .registered
  | written (phase : call.phase = .registered) : Turns call .waiting
  | refused (phase : call.phase = .registered) (error : NativeHostError) : Turns call (.refused error)
  | gaveUp {error : NativeHostError} (phase : call.phase = .refused error) :
      Turns call (.returned (.error error.asCoreError))
  | received {message : Except NativeHostError Json} (phase : call.phase = .waiting) (sent : call.inbox = some message) :
      Turns call (.returned (receivedOutcome message))
  | expired (phase : call.phase = .waiting) : Turns call .expired
  | orphaned (phase : call.phase = .waiting) : Turns call .orphaned
  | forgotten (phase : call.phase = .expired) (kind : call.kind = .request) : Turns call .forgotten
  | lapsed (phase : call.phase = .expired) (kind : call.kind = .fence) : Turns call .lapsed
  | disconnected (phase : call.phase = .orphaned) : Turns call (.returned (.error call.kind.disconnected))
  | remembered (phase : call.phase = .forgotten) : Turns call .lapsed

theorem NativeRequests.reach_self (found : host.calls[index]? = some call) (phase : NativeCallPhase) :
    (host.reach index call phase).calls[index]? = some { call with phase } := by
  unfold reach setCall
  dsimp only
  rw [List.getElem?_set_self (List.getElem?_eq_some_iff.mp found).1]

theorem NativeRequests.reach_other (differs : index ≠ other) (phase : NativeCallPhase) :
    (host.reach index call phase).calls[other]? = host.calls[other]? := by
  unfold reach setCall
  dsimp only
  rw [List.getElem?_set_ne differs]

theorem NativeRequests.send_other {message : Except NativeHostError Json} (differs : index ≠ other) :
    (host.send index message).calls[other]? = host.calls[other]? := by
  unfold send
  split
  next => rfl
  next =>
    split
    next =>
      unfold setCall
      dsimp only
      rw [List.getElem?_set_ne differs]
    next => rfl

theorem NativeRequests.send_self (found : host.calls[index]? = some call) (message : Except NativeHostError Json) :
    (host.send index message).calls[index]? = some call ∧ (call.outcome ≠ none ∨ call.inbox ≠ none) ∨
      (host.send index message).calls[index]? = some { call with inbox := some message } ∧ call.inbox = none := by
  unfold send
  rw [found]
  dsimp only
  by_cases open_ : (call.outcome.isNone && call.inbox.isNone) = true
  · rw [if_pos open_]
    refine .inr ⟨?_, Option.isNone_iff_eq_none.mp (Bool.and_eq_true_iff.mp open_).2⟩
    unfold setCall
    dsimp only
    rw [List.getElem?_set_self (List.getElem?_eq_some_iff.mp found).1]
  · rw [if_neg open_]
    refine .inl ⟨found, ?_⟩
    cases done : call.outcome with
    | some outcome => exact .inl fun same => by cases same
    | none =>
      refine .inr fun empty => open_ ?_
      rw [done, empty]
      rfl

theorem NativeRequests.send_call {target : Nat} (found : host.calls[index]? = some call)
    (message : Except NativeHostError Json) :
    ∃ inbox, (host.send target message).calls[index]? = some { call with inbox } := by
  by_cases same : target = index
  · subst same
    rcases send_self found message with ⟨kept, _⟩ | ⟨put, _⟩
    · exact ⟨call.inbox, kept⟩
    · exact ⟨_, put⟩
  · rw [send_other same]
    exact ⟨call.inbox, found⟩

theorem NativeRequests.CallMoves.index_label (moves : host.CallMoves index call label after) :
    label.index = some index := by
  cases moves
  all_goals rfl

theorem NativeCall.Turns.shorter {phase : NativeCallPhase} (turns : call.Turns phase) :
    phase.stepsLeft < call.phase.stepsLeft := by
  cases turns with
  | full phase => simp [phase, NativeCallPhase.stepsLeft]
  | registered phase => simp [phase, NativeCallPhase.stepsLeft]
  | written phase => simp [phase, NativeCallPhase.stepsLeft]
  | refused phase => simp [phase, NativeCallPhase.stepsLeft]
  | gaveUp phase => simp [phase, NativeCallPhase.stepsLeft]
  | received phase => simp [phase, NativeCallPhase.stepsLeft]
  | expired phase => simp [phase, NativeCallPhase.stepsLeft]
  | orphaned phase => simp [phase, NativeCallPhase.stepsLeft]
  | forgotten phase => simp [phase, NativeCallPhase.stepsLeft]
  | lapsed phase => simp [phase, NativeCallPhase.stepsLeft]
  | disconnected phase => simp [phase, NativeCallPhase.stepsLeft]
  | remembered phase => simp [phase, NativeCallPhase.stepsLeft]

theorem NativeRequests.CallMoves.self (found : host.calls[index]? = some call)
    (moves : host.CallMoves index call label after) :
    ∃ phase, after.calls[index]? = some { call with phase } ∧ call.Turns phase := by
  cases moves with
  | full phase error => exact ⟨_, reach_self found _, .full phase error⟩
  | registered phase => exact ⟨_, reach_self found _, .registered phase⟩
  | written phase => exact ⟨_, reach_self found _, .written phase⟩
  | unflushed phase => exact ⟨_, reach_self found _, .refused phase _⟩
  | refused phase error => exact ⟨_, reach_self found _, .refused phase error⟩
  | gaveUp phase => exact ⟨_, reach_self found _, .gaveUp phase⟩
  | received phase sent => exact ⟨_, reach_self found _, .received phase sent⟩
  | expired phase => exact ⟨_, reach_self found _, .expired phase⟩
  | orphaned phase => exact ⟨_, reach_self found _, .orphaned phase⟩
  | forgotten phase kind => exact ⟨_, reach_self found _, .forgotten phase kind⟩
  | lapsed phase kind => exact ⟨_, reach_self found _, .lapsed phase kind⟩
  | disconnected phase => exact ⟨_, reach_self found _, .disconnected phase⟩
  | remembered phase => exact ⟨_, reach_self found _, .remembered phase⟩

theorem NativeRequests.CallMoves.others (moves : host.CallMoves index call label after) (differs : index ≠ other) :
    after.calls[other]? = host.calls[other]? := by
  cases moves
  all_goals exact reach_other differs _

theorem NativeRequests.call_progresses (found : host.calls[index]? = some call) (pending : call.outcome = none) :
    ∃ label after, label.index = some index ∧ host.next label = some after := by
  have by_step (label : NativeLabel) (about : label.index = some index)
      (stepped : (host.callStep index call label).isSome)
      (same : host.next label = (host.calls[index]?).bind fun call => host.callStep index call label) :
      ∃ label after, label.index = some index ∧ host.next label = some after := by
    obtain ⟨after, taken⟩ := Option.isSome_iff_exists.mp stepped
    refine ⟨label, after, about, ?_⟩
    rw [same, found]
    exact taken
  unfold NativeCall.outcome at pending
  cases phase : call.phase with
  | named => exact by_step (.register index) rfl (by simp only [callStep, phase, Option.isSome_some]) rfl
  | registered => exact by_step (.post index .written) rfl (by simp only [callStep, phase, Option.isSome_some]) rfl
  | refused error => exact by_step (.giveUp index) rfl (by simp only [callStep, phase, Option.isSome_some]) rfl
  | waiting =>
    -- a message that is there is received, and a wait without one ends at its deadline
    cases sent : call.inbox with
    | none =>
      refine by_step (.expire index) rfl ?_ rfl
      simp only [callStep, phase, sent, Option.isNone_none, if_true, Option.isSome_some]
    | some message =>
      refine by_step (.receive index) rfl ?_ rfl
      cases message
      all_goals simp only [callStep, phase, sent, Option.isSome_some]
  | expired =>
    refine by_step (.remove index) rfl ?_ rfl
    cases kind : call.kind
    all_goals simp only [callStep, phase, kind, Option.isSome_some]
  | orphaned => exact by_step (.remove index) rfl (by simp only [callStep, phase, Option.isSome_some]) rfl
  | forgotten => exact by_step (.remember index) rfl (by simp only [callStep, phase, Option.isSome_some]) rfl
  | lapsed =>
    rw [phase] at pending
    cases pending
  | returned =>
    rw [phase] at pending
    cases pending

theorem NativeRequests.ReaderMoves.call_at (moves : host.ReaderMoves label after)
    (found : host.calls[index]? = some call) : ∃ inbox, after.calls[index]? = some { call with inbox } := by
  cases moves with
  | handed => exact send_call found _
  | notified => exact send_call found _
  | matched | unmatched | ignored | unasked | failed | marked | drained | ended => exact ⟨call.inbox, found⟩

/-- A step of a call brings it nearer to its end, and no other step takes it away from there. -/
theorem NativeRequests.next_call (found : host.calls[index]? = some call) (stepped : host.next label = some after) :
    ∃ now, after.calls[index]? = some now ∧
      now.phase.stepsLeft + (if label.index = some index then 1 else 0) ≤ call.phase.stepsLeft := by
  cases next_moves stepped with
  | called =>
    refine ⟨call, ?_, Nat.le_refl _⟩
    rw [List.getElem?_append_left (List.getElem?_eq_some_iff.mp found).1]
    exact found
  | spent => exact ⟨call, found, Nat.le_refl _⟩
  | @call own _ _ _ held moves =>
    rw [moves.index_label]
    by_cases same : own = index
    · subst same
      obtain rfl := Option.some.inj (found.symm.trans held)
      obtain ⟨phase, reached, turns⟩ := moves.self found
      have shorter := turns.shorter
      refine ⟨_, reached, ?_⟩
      rw [if_pos rfl]
      exact shorter
    · refine ⟨call, (moves.others same).trans found, ?_⟩
      rw [if_neg fun equal => same (Option.some.inj equal)]
      exact Nat.le_refl _
  | reader moves =>
    obtain ⟨inbox, kept⟩ := moves.call_at found
    have own : label.index ≠ some index := by
      cases moves
      all_goals exact fun about => by cases about
    refine ⟨_, kept, ?_⟩
    rw [if_neg own]
    exact Nat.le_refl _

end Calls

section Frames

variable {index : Nat}

theorem NativeRequests.Moves.forward (moves : host.Moves label after) (found : host.calls[index]? = some call) :
    ∃ later, after.calls[index]? = some later ∧ later.kind = call.kind ∧ later.number = call.number ∧
      (later.phase = call.phase ∨ host.CallMoves index call label after ∧ call.Turns later.phase) := by
  cases moves with
  | called kind =>
    refine ⟨call, ?_, rfl, rfl, .inl rfl⟩
    dsimp only
    rw [List.getElem?_append_left (List.getElem?_eq_some_iff.mp found).1]
    exact found
  | spent => exact ⟨call, found, rfl, rfl, .inl rfl⟩
  | @call other held _ _ present moves =>
    by_cases same : other = index
    · subst same
      rw [found] at present
      cases present
      obtain ⟨phase, reached, turns⟩ := moves.self found
      exact ⟨_, reached, rfl, rfl, .inr ⟨moves, turns⟩⟩
    · exact ⟨call, (moves.others same).trans found, rfl, rfl, .inl rfl⟩
  | reader moves =>
    cases moves with
    | @handed _ target value _ =>
      have sent : ∃ inbox, (host.send target (.ok value)).calls[index]? = some { call with inbox } :=
        send_call found _
      obtain ⟨inbox, kept⟩ := sent
      exact ⟨_, kept, rfl, rfl, .inl rfl⟩
    | @notified error target _ _ =>
      have sent : ∃ inbox, (host.send target (.error error)).calls[index]? = some { call with inbox } :=
        send_call found _
      obtain ⟨inbox, kept⟩ := sent
      exact ⟨_, kept, rfl, rfl, .inl rfl⟩
    | _ => exact ⟨call, found, rfl, rfl, .inl rfl⟩

theorem NativeRequests.Moves.length (moves : host.Moves label after) :
    after.calls.length = host.calls.length ∨
      ∃ kind, label = .call kind ∧ after.counter = (host.counter + 1) % 2 ^ 64 ∧
        after.calls = host.calls ++ [{ kind, number := host.counter, phase := .named, inbox := none }] := by
  cases moves with
  | called kind => exact .inr ⟨kind, rfl, rfl, rfl⟩
  | spent => exact .inl rfl
  | call found moves =>
    cases moves
    all_goals exact .inl (List.length_set ..)
  | reader moves =>
    cases moves with
    | handed | notified =>
      left
      unfold send
      split
      next => rfl
      next =>
        split
        next => exact List.length_set ..
        next => rfl
    | _ => exact .inl rfl

theorem NativeRequests.Moves.backward {later : NativeCall} (moves : host.Moves label after)
    (found : after.calls[index]? = some later) :
    (∃ call, host.calls[index]? = some call ∧ later.kind = call.kind ∧ later.number = call.number ∧
      (later.phase = call.phase ∨ host.CallMoves index call label after ∧ call.Turns later.phase)) ∨
    (index = host.calls.length ∧ later.number = host.counter ∧ later.phase = .named ∧
      after.counter = (host.counter + 1) % 2 ^ 64) := by
  have bound := (List.getElem?_eq_some_iff.mp found).1
  by_cases old : index < host.calls.length
  · obtain ⟨same, held, kind, number, phase⟩ := moves.forward (List.getElem?_eq_getElem old)
    rw [found] at held
    cases held
    exact .inl ⟨_, List.getElem?_eq_getElem old, kind, number, phase⟩
  · right
    rcases moves.length with same | ⟨kind, _, counter, calls⟩
    · omega
    · rw [calls, List.length_append, List.length_singleton] at bound
      have last : index = host.calls.length := by omega
      rw [calls, last, List.getElem?_concat_length] at found
      cases found
      exact ⟨last, rfl, rfl, counter⟩

end Frames

end AgentycHost
