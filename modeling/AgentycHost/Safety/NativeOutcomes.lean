import AgentycHost.Effects.NativeRequests

set_option autoImplicit false

/-! # What a request reports when its reply is lost -/

namespace AgentycHost

open Shared

variable {moment : Moment NativeRequests NativeLabel} {call : NativeCall} {host after last : NativeRequests}
  {label : NativeLabel}

section Observations

def NativeMoment.hands (moment : Moment NativeRequests NativeLabel) (index : Nat) : Prop :=
  moment.label = .deliver ∧ ∃ number value, moment.before.reader = .handing number index value

/-- A call whose post or wait has not ended yet. -/
def NativeCall.awaits (call : NativeCall) : Bool :=
  match call.phase with
  | .named | .registered | .refused _ | .waiting => true
  | .expired | .orphaned | .forgotten | .lapsed | .returned _ => false

/-- `mark_closed` hands its error to the sender of a call that awaits its reply. -/
def NativeMoment.closes (moment : Moment NativeRequests NativeLabel) (index : Nat) : Prop :=
  moment.label = .notify ∧ ∃ error rest call, moment.before.reader = .notifying error (index :: rest) ∧
    moment.before.calls[index]? = some call ∧ call.awaits = true

variable (index : Nat) (trace : NativeTrace)

def Posted (result : PostResult) : Prop := ∃ moment, moment ∈ trace ∧ moment.label = .post index result

/-- The frame of the call was completely written. -/
def FrameWritten : Prop := Posted index trace .written ∨ Posted index trace .unflushed

def ReplyDelivered : Prop := ∃ moment, moment ∈ trace ∧ NativeMoment.hands moment index

def CloseReached : Prop := ∃ moment, moment ∈ trace ∧ NativeMoment.closes moment index

/-- The flush succeeded, and the end of the connection did not come before the deadline. -/
def LostQuietly : Prop := ¬ Posted index trace .unflushed ∧ ¬ CloseReached index trace

end Observations

/-- What `request_value` returned, and what `dispatch` and `create_tab` make of it. -/
structure ReportedUnknown (outcome : Except CoreError Json) (error : CoreError) : Prop where
  returned : outcome = .error error
  code : error.code = .unknownOutcome
  dispatched : reportNativeFailure error = .unknown .bridgeLost
  created : createdTab outcome = .error error

theorem ReportedUnknown.of_code {error : CoreError} (code : error.code = .unknownOutcome) :
    ReportedUnknown (.error error) error where
  returned := rfl
  code := code
  dispatched := by
    unfold reportNativeFailure
    rw [if_pos code]
  created := rfl

theorem NativeHostError.asCoreError_code (error : NativeHostError) : error.asCoreError.code ≠ .unknownOutcome := by
  cases error
  all_goals exact fun same => by cases same

section Heard

variable (index : Nat) (trace : NativeTrace)

/-- An error of `mark_closed` is all that the channel of the call has seen. -/
def InboxTells (inbox : Option (Except NativeHostError Json)) : Prop :=
  match inbox with
  | none => ¬ CloseReached index trace
  | some (.ok _) => False
  | some (.error _) => CloseReached index trace

def Heard (call : NativeCall) : Prop :=
  match call.phase with
  | .named | .registered => (∀ result, ¬ Posted index trace result) ∧ InboxTells index trace call.inbox
  | .refused error => ¬ Posted index trace .written ∧ error.asCoreError.code ≠ .unknownOutcome
  | .waiting => ¬ Posted index trace .unflushed ∧ InboxTells index trace call.inbox
  | .expired | .orphaned | .forgotten | .lapsed => LostQuietly index trace
  | .returned outcome =>
      FrameWritten index trace -> ((∃ error, ReportedUnknown outcome error) <-> LostQuietly index trace)

def HeardAt (host : NativeRequests) : Prop :=
  match host.calls[index]? with
  | none => (∀ result, ¬ Posted index trace result) ∧ ¬ CloseReached index trace
  | some call => call.kind = .request -> Heard index trace call

end Heard

section Steps

variable {index other : Nat} {trace : NativeTrace}

theorem posted_cons {result : PostResult} :
    Posted index (moment :: trace) result <-> moment.label = .post index result ∨ Posted index trace result := by
  unfold Posted
  simp only [List.exists_mem_cons_iff]

theorem posted_quiet (quiet : ∀ result, moment.label ≠ .post index result) (result : PostResult) :
    Posted index (moment :: trace) result <-> Posted index trace result := by
  rw [posted_cons]
  exact or_iff_right (quiet result)

theorem closeReached_cons :
    CloseReached index (moment :: trace) <-> NativeMoment.closes moment index ∨ CloseReached index trace := by
  unfold CloseReached
  simp only [List.exists_mem_cons_iff]

theorem closeReached_quiet (quiet : ¬ NativeMoment.closes moment index) :
    CloseReached index (moment :: trace) <-> CloseReached index trace := by
  rw [closeReached_cons]
  exact or_iff_right quiet

theorem closes_notify (closes : NativeMoment.closes moment index) : moment.label = .notify := closes.1

theorem inboxTells_quiet (quiet : ¬ NativeMoment.closes moment index) {inbox : Option (Except NativeHostError Json)} :
    InboxTells index (moment :: trace) inbox <-> InboxTells index trace inbox := by
  unfold InboxTells
  rw [closeReached_quiet quiet]

theorem Heard.quiet (posts : ∀ result, moment.label ≠ .post index result)
    (closes : ¬ NativeMoment.closes moment index) (heard : Heard index trace call) :
    Heard index (moment :: trace) call := by
  unfold Heard FrameWritten LostQuietly at heard ⊢
  simp only [posted_quiet posts, closeReached_quiet closes, inboxTells_quiet closes]
  exact heard

end Steps

section Own

variable {index : Nat} {trace : NativeTrace} {inbox : Option (Except NativeHostError Json)}

theorem Heard.unanswered (late : call.phase = .expired ∨ call.phase = .orphaned ∨ call.phase = .forgotten)
    (heard : Heard index trace call) : LostQuietly index trace := by
  unfold Heard at heard
  rcases late with phase | phase | phase
  all_goals
    rw [phase] at heard
    exact heard

theorem Heard.unposted (early : call.phase = .named ∨ call.phase = .registered) (heard : Heard index trace call) :
    (∀ result, ¬ Posted index trace result) ∧ InboxTells index trace call.inbox := by
  unfold Heard at heard
  rcases early with phase | phase
  · rw [phase] at heard
    exact heard
  · rw [phase] at heard
    exact heard

theorem Heard.waits (phase : call.phase = .waiting) (heard : Heard index trace call) :
    ¬ Posted index trace .unflushed ∧ InboxTells index trace call.inbox := by
  unfold Heard at heard
  rw [phase] at heard
  exact heard

theorem Heard.received {message : Except NativeHostError Json} (phase : call.phase = .waiting)
    (sent : call.inbox = some message) (heard : Heard index trace call) :
    Heard index trace { call with phase := .returned (receivedOutcome message) } := by
  have tells := (heard.waits phase).2
  rw [sent] at tells
  cases message with
  | ok value => cases tells
  | error error =>
    intro _
    constructor
    · rintro ⟨reported, unknown⟩
      have same : error.asCoreError = reported := Except.error.inj unknown.returned
      exact absurd (same ▸ unknown.code) error.asCoreError_code
    · intro quiet
      exact absurd tells quiet.2

theorem Heard.lost (phase : call.phase = .waiting) (empty : call.inbox = none) (heard : Heard index trace call) :
    LostQuietly index trace := by
  obtain ⟨unposted, tells⟩ := heard.waits phase
  rw [empty] at tells
  exact ⟨unposted, tells⟩

theorem Heard.gaveUp {error : NativeHostError} (phase : call.phase = .refused error) (heard : Heard index trace call) :
    Heard index trace { call with phase := .returned (.error error.asCoreError) } := by
  unfold Heard at heard
  rw [phase] at heard
  intro written
  constructor
  · rintro ⟨reported, unknown⟩
    have same : error.asCoreError = reported := Except.error.inj unknown.returned
    exact absurd (same ▸ unknown.code) heard.2
  · intro quiet
    -- the post failed, so the frame is on the wire only when the flush is what failed
    rcases written with whole | unflushed
    · exact absurd whole heard.1
    · exact absurd unflushed quiet.1

theorem NativeRequests.CallMoves.heard (found : host.calls[index]? = some call)
    (moves : host.CallMoves index call label after) (kind : call.kind = .request) (heard : Heard index trace call) :
    ∃ phase, after.calls[index]? = some { call with phase } ∧
      Heard index (⟨host, label, after⟩ :: trace) { call with phase } := by
  cases moves with
  | full phase error =>
    refine ⟨_, reach_self found _, ?_⟩
    have unposted := (heard.unposted (.inl phase)).1
    rintro (written | unflushed)
    · exact absurd ((posted_quiet (fun _ same => by cases same) _).mp written) (unposted _)
    · exact absurd ((posted_quiet (fun _ same => by cases same) _).mp unflushed) (unposted _)
  | registered phase =>
    refine ⟨_, reach_self found _, fun result posted => ?_, ?_⟩
    · exact (heard.unposted (.inl phase)).1 _ ((posted_quiet (fun _ same => by cases same) _).mp posted)
    · exact (inboxTells_quiet fun closes => by cases closes.1).mpr (heard.unposted (.inl phase)).2
  | written phase =>
    refine ⟨_, reach_self found _, ?_, ?_⟩
    · rw [posted_cons]
      rintro (same | posted)
      · cases same
      · exact (heard.unposted (.inr phase)).1 _ posted
    · exact (inboxTells_quiet fun closes => by cases closes.1).mpr (heard.unposted (.inr phase)).2
  | unflushed phase =>
    refine ⟨_, reach_self found _, ?_, nativeWriteFailed.asCoreError_code⟩
    rw [posted_cons]
    rintro (same | posted)
    · cases same
    · exact (heard.unposted (.inr phase)).1 _ posted
  | refused phase error =>
    refine ⟨_, reach_self found _, ?_, error.asCoreError_code⟩
    rw [posted_cons]
    rintro (same | posted)
    · cases same
    · exact (heard.unposted (.inr phase)).1 _ posted
  | gaveUp phase =>
    refine ⟨_, reach_self found _, ?_⟩
    exact (heard.gaveUp phase).quiet (fun _ same => by cases same) (fun closes => by cases closes.1)
  | received phase sent =>
    refine ⟨_, reach_self found _, ?_⟩
    exact (heard.received phase sent).quiet (fun _ same => by cases same) (fun closes => by cases closes.1)
  | expired phase empty =>
    have quiet : Heard index trace { call with phase := .expired } := heard.lost phase empty
    refine ⟨_, reach_self found _, ?_⟩
    exact quiet.quiet (fun _ same => by cases same) (fun closes => by cases closes.1)
  | orphaned phase empty =>
    have quiet : Heard index trace { call with phase := .orphaned } := heard.lost phase empty
    refine ⟨_, reach_self found _, ?_⟩
    exact quiet.quiet (fun _ same => by cases same) (fun closes => by cases closes.1)
  | forgotten phase _ =>
    have quiet : Heard index trace { call with phase := .forgotten } := heard.unanswered (.inl phase)
    refine ⟨_, reach_self found _, ?_⟩
    exact quiet.quiet (fun _ same => by cases same) (fun closes => by cases closes.1)
  | lapsed _ fence =>
    rw [kind] at fence
    cases fence
  | disconnected phase =>
    have quiet : LostQuietly index trace := heard.unanswered (.inr (.inl phase))
    have unknown : ReportedUnknown (.error call.kind.disconnected) call.kind.disconnected := by
      apply ReportedUnknown.of_code
      rw [kind]
      rfl
    have done : Heard index trace { call with phase := .returned (.error call.kind.disconnected) } :=
      fun _ => ⟨fun _ => quiet, fun _ => ⟨_, unknown⟩⟩
    refine ⟨_, reach_self found _, ?_⟩
    exact done.quiet (fun _ same => by cases same) (fun closes => by cases closes.1)
  | remembered phase =>
    have quiet : Heard index trace { call with phase := .lapsed } := heard.unanswered (.inr (.inr phase))
    refine ⟨_, reach_self found _, ?_⟩
    exact quiet.quiet (fun _ same => by cases same) (fun closes => by cases closes.1)

theorem Heard.told (notify : moment.label = .notify) (closes : NativeMoment.closes moment index)
    (awaits : call.awaits = true)
    (told : InboxTells index trace call.inbox -> ∃ error, inbox = some (.error error))
    (heard : Heard index trace call) : Heard index (moment :: trace) { call with inbox } := by
  have posts : ∀ result, moment.label ≠ .post index result := fun _ same => by
    rw [notify] at same
    cases same
  have reached : CloseReached index (moment :: trace) := closeReached_cons.mpr (.inl closes)
  unfold Heard at heard ⊢
  unfold NativeCall.awaits at awaits
  dsimp only
  cases phase : call.phase
  all_goals rw [phase] at heard awaits
  case named =>
    obtain ⟨error, rfl⟩ := told heard.2
    simp only [posted_quiet posts]
    exact ⟨heard.1, reached⟩
  case registered =>
    obtain ⟨error, rfl⟩ := told heard.2
    simp only [posted_quiet posts]
    exact ⟨heard.1, reached⟩
  case refused =>
    simp only [posted_quiet posts]
    exact heard
  case waiting =>
    obtain ⟨error, rfl⟩ := told heard.2
    simp only [posted_quiet posts]
    exact ⟨heard.1, reached⟩
  all_goals cases awaits

theorem Heard.late (notify : moment.label = .notify) (closes : ¬ NativeMoment.closes moment index)
    (awaits : call.awaits = false) (heard : Heard index trace call) :
    Heard index (moment :: trace) { call with inbox } := by
  have posts : ∀ result, moment.label ≠ .post index result := fun _ same => by
    rw [notify] at same
    cases same
  have still := heard.quiet posts closes
  unfold Heard at still ⊢
  unfold NativeCall.awaits at awaits
  dsimp only
  cases phase : call.phase
  all_goals rw [phase] at still awaits
  case named => cases awaits
  case registered => cases awaits
  case refused => cases awaits
  case waiting => cases awaits
  all_goals exact still

theorem NativeCall.awaits_outcome (awaits : call.awaits = true) : call.outcome = none := by
  unfold NativeCall.awaits at awaits
  unfold NativeCall.outcome
  cases phase : call.phase
  all_goals rw [phase] at awaits
  case lapsed => cases awaits
  case returned => cases awaits

theorem InboxTells.error (tells : InboxTells index trace call.inbox) (sent : call.inbox ≠ none) :
    ∃ error, call.inbox = some (.error error) := by
  unfold InboxTells at tells
  split at tells
  next empty => exact absurd empty sent
  next => cases tells
  next error full => exact ⟨error, full⟩

theorem Heard.notified {error : NativeHostError} {rest : List Nat} (found : host.calls[index]? = some call)
    (notifying : host.reader = .notifying error (index :: rest)) (heard : Heard index trace call) :
    ∃ inbox, (host.send index (.error error)).calls[index]? = some { call with inbox } ∧
      Heard index (⟨host, .notify, after⟩ :: trace) { call with inbox } := by
  have sent := NativeRequests.send_self found (.error error)
  by_cases awaits : call.awaits = true
  · have closes : NativeMoment.closes ⟨host, .notify, after⟩ index :=
      ⟨rfl, error, rest, call, notifying, found, awaits⟩
    rcases sent with ⟨kept, full⟩ | ⟨put, _⟩
    · refine ⟨call.inbox, kept, heard.told rfl closes awaits fun tells => tells.error ?_⟩
      exact full.resolve_left fun done => done (call.awaits_outcome awaits)
    · exact ⟨_, put, heard.told rfl closes awaits fun _ => ⟨error, rfl⟩⟩
  · have closes : ¬ NativeMoment.closes ⟨host, .notify, after⟩ index := by
      rintro ⟨_, _, _, held, _, same, still⟩
      rw [found] at same
      cases same
      exact awaits still
    have ceased : call.awaits = false := Bool.eq_false_iff.mpr awaits
    rcases sent with ⟨kept, _⟩ | ⟨put, _⟩
    · exact ⟨call.inbox, kept, heard.late rfl closes ceased⟩
    · exact ⟨_, put, heard.late rfl closes ceased⟩

end Own

section Runs

variable {index : Nat} {trace : NativeTrace}

theorem HeardAt.quiet (same : after.calls[index]? = host.calls[index]?)
    (posts : ∀ result, label ≠ .post index result)
    (closes : ¬ NativeMoment.closes ⟨host, label, after⟩ index) (heard : HeardAt index trace host) :
    HeardAt index (⟨host, label, after⟩ :: trace) after := by
  unfold HeardAt at heard ⊢
  rw [same]
  cases found : host.calls[index]? with
  | none =>
    rw [found] at heard
    refine ⟨fun result => ?_, ?_⟩
    · rw [posted_quiet posts]
      exact heard.1 result
    · rw [closeReached_quiet closes]
      exact heard.2
  | some call =>
    rw [found] at heard
    exact fun kind => (heard kind).quiet posts closes

theorem HeardAt.reader (moves : host.ReaderMoves label after)
    (silent : ¬ NativeMoment.hands ⟨host, label, after⟩ index) (heard : HeardAt index trace host) :
    HeardAt index (⟨host, label, after⟩ :: trace) after := by
  cases moves with
  | handed handing =>
    refine heard.quiet (NativeRequests.send_other ?_) (fun _ same => by cases same) (fun closes => by cases closes.1)
    rintro rfl
    exact silent ⟨rfl, _, _, handing⟩
  | @notified error target rest notifying =>
    by_cases same : target = index
    · subst same
      unfold HeardAt at heard ⊢
      cases found : host.calls[target]? with
      | none =>
        have unsent : host.send target (.error error) = host := by
          unfold NativeRequests.send
          rw [found]
        rw [found] at heard
        simp only [unsent, found]
        refine ⟨fun result => ?_, ?_⟩
        · rw [posted_quiet fun _ same => by cases same]
          exact heard.1 result
        · rw [closeReached_quiet]
          · exact heard.2
          · rintro ⟨_, _, _, _, _, held, _⟩
            rw [found] at held
            cases held
      | some call =>
        rw [found] at heard
        by_cases request : call.kind = .request
        · obtain ⟨inbox, put, told⟩ := Heard.notified found notifying (heard request)
          dsimp only
          rw [put]
          exact fun _ => told
        · rcases NativeRequests.send_self found (.error error) with ⟨kept, _⟩ | ⟨put, _⟩
          · dsimp only
            rw [kept]
            exact fun kind => absurd kind request
          · dsimp only
            rw [put]
            exact fun kind => absurd kind request
    · refine heard.quiet (NativeRequests.send_other same) (fun _ same => by cases same) ?_
      rintro ⟨_, _, _, _, reader, _⟩
      rw [notifying] at reader
      cases reader
      exact same rfl
  | ended notifying =>
    refine heard.quiet rfl (fun _ same => by cases same) ?_
    rintro ⟨_, _, _, _, reader, _⟩
    rw [notifying] at reader
    cases reader
  | matched => exact heard.quiet rfl (fun _ same => by cases same) (fun closes => by cases closes.1)
  | unmatched => exact heard.quiet rfl (fun _ same => by cases same) (fun closes => by cases closes.1)
  | ignored => exact heard.quiet rfl (fun _ same => by cases same) (fun closes => by cases closes.1)
  | unasked => exact heard.quiet rfl (fun _ same => by cases same) (fun closes => by cases closes.1)
  | failed => exact heard.quiet rfl (fun _ same => by cases same) (fun closes => by cases closes.1)
  | marked => exact heard.quiet rfl (fun _ same => by cases same) (fun closes => by cases closes.1)
  | drained => exact heard.quiet rfl (fun _ same => by cases same) (fun closes => by cases closes.1)

theorem HeardAt.called (kind : NativeCallKind) (heard : HeardAt index trace host) :
    HeardAt index (⟨host, .call kind, { host.issue with
      calls := host.calls ++ [{ kind, number := host.counter, phase := .named, inbox := none }] }⟩ :: trace)
      { host.issue with calls := host.calls ++ [{ kind, number := host.counter, phase := .named, inbox := none }] } := by
  by_cases old : index < host.calls.length
  · refine heard.quiet ?_ (fun _ same => by cases same) (fun closes => by cases closes.1)
    exact List.getElem?_append_left old
  · have absent : host.calls[index]? = none := List.getElem?_eq_none (by omega)
    unfold HeardAt at heard ⊢
    rw [absent] at heard
    have unposted (after : NativeRequests) (result : PostResult) :
        ¬ Posted index (⟨host, .call kind, after⟩ :: trace) result := by
      rw [posted_quiet fun _ same => by cases same]
      exact heard.1 result
    have unreached (after : NativeRequests) : ¬ CloseReached index (⟨host, .call kind, after⟩ :: trace) := by
      rw [closeReached_quiet fun closes => by cases closes.1]
      exact heard.2
    dsimp only
    rw [List.getElem?_append_right (by omega)]
    cases place : index - host.calls.length with
    | zero => exact fun _ => ⟨unposted _, unreached _⟩
    | succ place => exact ⟨unposted _, unreached _⟩

theorem HeardAt.step (stepped : host.next label = some after)
    (silent : ¬ NativeMoment.hands ⟨host, label, after⟩ index) (heard : HeardAt index trace host) :
    HeardAt index (⟨host, label, after⟩ :: trace) after := by
  cases NativeRequests.next_moves stepped with
  | called kind => exact heard.called kind
  | spent => exact heard.quiet rfl (fun _ same => by cases same) (fun closes => by cases closes.1)
  | @call other call _ _ found moves =>
    have about := moves.index_label
    by_cases same : other = index
    · subst same
      unfold HeardAt at heard ⊢
      rw [found] at heard
      by_cases request : call.kind = .request
      · obtain ⟨phase, reached, told⟩ := moves.heard found request (heard request)
        rw [reached]
        exact fun _ => told
      · obtain ⟨phase, reached, _⟩ := moves.self found
        rw [reached]
        exact fun kind => absurd kind request
    · refine heard.quiet (moves.others same) (fun result posts => ?_) (fun closes => ?_)
      · rw [posts] at about
        exact same (Option.some.inj about).symm
      · rw [show label = .notify from closes.1] at about
        cases about
  | reader moves => exact heard.reader moves silent

theorem native_heard (run : NativeRun .connected trace last) (silent : ¬ ReplyDelivered index trace) :
    HeardAt index trace last := by
  induction run with
  | nil =>
    refine ⟨fun result => ?_, ?_⟩
    · rintro ⟨_, inside, _⟩
      cases inside
    · rintro ⟨_, inside, _⟩
      cases inside
  | step _ stepped ih =>
    have unheard := ih fun delivered => by
      obtain ⟨moment, inside, hands⟩ := delivered
      exact silent ⟨moment, List.mem_cons_of_mem _ inside, hands⟩
    exact unheard.step stepped fun hands => silent ⟨_, List.mem_cons_self, hands⟩

end Runs

section Results

variable {labels : List NativeLabel} {start : NativeRequests}

/-- A request whose frame is on the wire and whose reply is not delivered returns an unknown outcome
exactly when its flush succeeded and the end of the connection did not reach it before its deadline. -/
theorem lost_reply_unknown {trace : NativeTrace} {last : NativeRequests} {index : Nat}
    {call : NativeCall} {outcome : Except CoreError Json} (run : NativeRun .connected trace last)
    (found : last.calls[index]? = some call) (request : call.kind = .request) (done : call.outcome = some outcome)
    (written : FrameWritten index trace) (silent : ¬ ReplyDelivered index trace) :
    (∃ error, ReportedUnknown outcome error) <-> LostQuietly index trace := by
  have heard := native_heard run silent
  unfold HeardAt at heard
  rw [found] at heard
  have told := heard request
  unfold Heard at told
  unfold NativeCall.outcome at done
  cases phase : call.phase
  all_goals rw [phase] at told done
  case lapsed =>
    cases done
    refine ⟨fun _ => told, fun _ => ⟨_, ReportedUnknown.of_code ?_⟩⟩
    rw [request]
    rfl
  case returned =>
    cases done
    exact told written
  all_goals cases done

def NativeCall.requestFails (call : NativeCall) (code : ErrorCode) : Bool :=
  match call.kind, call.outcome with
  | .request, some (.error error) => decide (error.code = code)
  | _, _ => false

theorem NativeCall.requestFails_iff {call : NativeCall} {code : ErrorCode} (fails : call.requestFails code = true) :
    call.kind = .request ∧ ∃ error, call.outcome = some (.error error) ∧ error.code = code := by
  unfold requestFails at fails
  split at fails
  next kind outcome => exact ⟨kind, _, outcome, of_decide_eq_true fails⟩
  next => cases fails

abbrev nativeStep (label : NativeLabel) (host : NativeRequests) : Option NativeRequests := host.next label

theorem posted_visits {index : Nat} {result : PostResult} {last : NativeRequests}
    (run : advance nativeStep labels start = some last) (inside : .post index result ∈ labels) :
    Posted index (visits nativeStep labels start).reverse result := by
  obtain ⟨moment, visited, same⟩ := visits_covers run inside
  exact ⟨moment, List.mem_reverse.mpr visited, same⟩

theorem unseen_label {label : NativeLabel} {moment : Moment NativeRequests NativeLabel} (absent : label ∉ labels)
    (inside : moment ∈ (visits nativeStep labels start).reverse) : moment.label ≠ label := by
  rintro rfl
  exact absent (visits_label (List.mem_reverse.mp inside))

theorem request_fails (labels : List NativeLabel) (code : ErrorCode)
    (ran : (advance nativeStep labels NativeRequests.connected).any (fun host : NativeRequests =>
      (host.calls[0]?).any fun call => call.requestFails code) = true) :
    ∃ last call error, advance nativeStep labels .connected = some last ∧
      last.calls[0]? = some call ∧ call.kind = .request ∧ call.outcome = some (.error error) ∧ error.code = code := by
  obtain ⟨last, reached, test⟩ := (Option.any_eq_true _ _).mp ran
  obtain ⟨call, found, fails⟩ := (Option.any_eq_true _ _).mp test
  obtain ⟨kind, error, outcome, same⟩ := call.requestFails_iff fails
  exact ⟨last, call, error, reached, found, kind, outcome, same⟩

def pipeLost : List NativeLabel :=
  [.call .request, .register 0, .post 0 .written, .fail .disconnected, .markClosed, .drain, .notify, .receive 0]

def neverAnswered : List NativeLabel :=
  [.call .request, .register 0, .post 0 .written, .expire 0, .remove 0, .remember 0]

/-- A request that waits when the connection ends reports that nothing happened. -/
theorem pipe_lost_failed :
    ∃ trace last call error, NativeRun .connected trace last ∧ last.calls[0]? = some call ∧ call.kind = .request ∧
      call.outcome = some (.error error) ∧ FrameWritten 0 trace ∧ ¬ ReplyDelivered 0 trace ∧
      (¬ ∃ reported, ReportedUnknown (.error error) reported) ∧ error.code = .nativeHostUnavailable ∧
      reportNativeFailure error = .failed .nativeHostUnavailable error.retryable := by
  obtain ⟨last, call, error, reached, found, kind, outcome, code⟩ :=
    request_fails pipeLost .nativeHostUnavailable rfl
  refine ⟨_, last, call, error, advance_run reached, found, kind, outcome, .inl ?_, ?_, ?_, code, ?_⟩
  · exact posted_visits reached (by simp [pipeLost])
  · rintro ⟨moment, inside, label, _⟩
    exact unseen_label (by simp [pipeLost]) inside label
  · rintro ⟨reported, unknown⟩
    have same : error = reported := Except.error.inj unknown.returned
    have unknowns := unknown.code
    rw [← same, code] at unknowns
    cases unknowns
  · unfold reportNativeFailure
    rw [code]
    rfl

theorem lost_reply_unknown_sample :
    ∃ trace last call error, NativeRun .connected trace last ∧ last.calls[0]? = some call ∧
      call.outcome = some (.error error) ∧
      ((∃ reported, ReportedUnknown (.error error) reported) <-> LostQuietly 0 trace) := by
  obtain ⟨last, call, error, reached, found, kind, outcome, _⟩ := request_fails neverAnswered .unknownOutcome rfl
  refine ⟨_, last, call, error, advance_run reached, found, outcome, ?_⟩
  refine lost_reply_unknown (advance_run reached) found kind outcome (.inl ?_) ?_
  · exact posted_visits reached (by simp [neverAnswered])
  · rintro ⟨moment, inside, label, _⟩
    exact unseen_label (by simp [neverAnswered]) inside label

end Results

section Ends

variable {trace : NativeTrace} {index : Nat}

def calledOnce : NativeRequests :=
  { NativeRequests.connected with
    counter := 2, calls := [{ kind := .request, number := 1, phase := .named, inbox := none }] }

end Ends

end AgentycHost
