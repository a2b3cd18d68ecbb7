import AgentycHost.System.Waits

set_option autoImplicit false

/-! # What a wait for a response knows of requests -/

namespace AgentycHost

open Shared

def EventRecord.requestOf (event : EventRecord) : Option String := if event.requestEvent then event.requestId else none

/-- The id under which a response event is looked up; without one it is empty. -/
def EventRecord.responseOf (event : EventRecord) : Option String :=
  if event.responseEvent then some (event.requestId.getD "") else none

def EventRecord.Concerns (id : String) (event : EventRecord) : Prop :=
  event.requestOf = some id ∨ event.responseOf = some id

section Histories

variable (history : List EventRecord) (event : EventRecord) (id : String) (response : ResponseWait)

/-- The metadata of the last request of the id; a response before any request leaves empty ones. -/
def metadataAfter : List EventRecord -> Option RequestMetadata
  | [] => none
  | event :: earlier =>
      if event.requestOf = some id then some event.requestMetadata
      else if event.responseOf = some id ∧ id ≠ "" then some ((metadataAfter earlier).getD {})
      else metadataAfter earlier

def Awaits (pending : EventRecord) : Prop :=
  id ≠ "" ∧ Since (fun event => event = pending ∧ pending.responseOf = some id) (EventRecord.Concerns id) history

def Meets : Prop :=
  (∃ id, event.responseOf = some id ∧
    typedEventMatchesResponse response event
      (if event.requestOf = some id then some event.requestMetadata else metadataAfter id history) = true) ∨
  ∃ id pending, event.requestOf = some id ∧ Awaits history id pending ∧
    typedEventMatchesResponse response pending (some event.requestMetadata) = true

def Correlates : List EventRecord -> Prop
  | [] => False
  | event :: earlier => Meets earlier event response ∨ Correlates earlier

end Histories

section States

variable {history : List EventRecord} {event : EventRecord} {response : ResponseWait} {state : WaitState}
  {id : String}

structure Records (history : List EventRecord) (state : WaitState) : Prop where
  unmatched : state.matchedEvent = none
  metadata : ∀ id, state.requestMetadata.get? id = metadataAfter id history
  pending : ∀ id pending, state.pendingResponses.get? id = some pending <-> Awaits history id pending

theorem awaits_cons {pending : EventRecord} : Awaits (event :: history) id pending <->
    (id ≠ "" ∧ event = pending ∧ pending.responseOf = some id) ∨ (Awaits history id pending ∧ ¬ event.Concerns id) := by
  unfold Awaits
  rw [since_cons]
  constructor
  · rintro ⟨named, started | ⟨since, still⟩⟩
    · exact .inl ⟨named, started⟩
    · exact .inr ⟨⟨named, since⟩, still⟩
  · rintro (⟨named, started⟩ | ⟨⟨named, since⟩, still⟩)
    · exact ⟨named, .inl started⟩
    · exact ⟨named, .inr ⟨since, still⟩⟩

theorem requestOf_some : event.requestOf = some id <-> event.requestEvent = true ∧ event.requestId = some id := by
  unfold EventRecord.requestOf
  cases event.requestEvent <;> simp

theorem responseOf_some :
    event.responseOf = some id <-> event.responseEvent = true ∧ event.requestId.getD "" = id := by
  unfold EventRecord.responseOf
  cases event.responseEvent <;> simp

theorem matchesResponse_event {metadata : Option RequestMetadata}
    (accepted : typedEventMatchesResponse response event metadata = true) : event.responseEvent = true := by
  simp only [typedEventMatchesResponse, Bool.and_eq_true] at accepted
  exact accepted.1.1.1.1

theorem observeRequestMetadata_other (other : event.requestOf = none) :
    state.observeRequestMetadata event response = state := by
  unfold WaitState.observeRequestMetadata
  split
  next => rfl
  next request =>
    cases named : event.requestId with
    | none => rfl
    | some id =>
      rw [requestOf_some.mpr ⟨by simpa using request, named⟩] at other
      cases other

theorem observeRequestMetadata_named (told : event.requestOf = some id) :
    state.observeRequestMetadata event response =
      { state with
        requestMetadata := state.requestMetadata.insert id event.requestMetadata
        pendingResponses := state.pendingResponses.erase id
        matchedEvent := ((state.pendingResponses.get? id).filter fun pending =>
          typedEventMatchesResponse response pending (some event.requestMetadata)).or state.matchedEvent } := by
  obtain ⟨requests, named⟩ := requestOf_some.mp told
  unfold WaitState.observeRequestMetadata
  simp only [requests, named, Bool.not_true, Bool.false_eq_true, if_false]

structure Requested (history : List EventRecord) (event : EventRecord) (response : ResponseWait) (after : WaitState) : Prop where
  matched : after.matchedEvent ≠ none <-> ∃ id pending, event.requestOf = some id ∧ Awaits history id pending ∧
    typedEventMatchesResponse response pending (some event.requestMetadata) = true
  metadata : ∀ id, after.requestMetadata.get? id =
    if event.requestOf = some id then some event.requestMetadata else metadataAfter id history
  pending : ∀ id pending, after.pendingResponses.get? id = some pending <->
    Awaits history id pending ∧ event.requestOf ≠ some id

theorem observeRequestMetadata_records (records : Records history state) (event : EventRecord) (response : ResponseWait) :
    Requested history event response (state.observeRequestMetadata event response) := by
  cases told : event.requestOf with
  | none =>
    rw [observeRequestMetadata_other told]
    constructor
    · simp [records.unmatched, told]
    · intro id
      rw [records.metadata id, told]
      rfl
    · intro id pending
      rw [records.pending id pending, told]
      simp
  | some id =>
    rw [observeRequestMetadata_named told]
    constructor
    · simp only [records.unmatched, Option.or_none, ne_eq, Option.filter_eq_none_iff, not_forall, not_not]
      constructor
      · rintro ⟨pending, found, accepted⟩
        exact ⟨id, pending, told, (records.pending id pending).mp found, accepted⟩
      · rintro ⟨other, pending, same, awaits, accepted⟩
        obtain rfl : id = other := Option.some.inj (told.symm.trans same)
        exact ⟨pending, (records.pending id pending).mpr awaits, accepted⟩
    · intro other
      simp only [Table.get?_insert, told, Option.some.injEq, eq_comm (a := other)]
      split
      next => rfl
      next => exact records.metadata other
    · intro other pending
      simp only [Table.get?_erase, told, ne_eq, Option.some.injEq, eq_comm (a := other)]
      split
      next same => simp [same]
      next apart => simp [records.pending other pending, apart]

theorem observeResponse_other (other : event.responseOf = none) : state.observeResponse event response = state := by
  unfold WaitState.observeResponse
  cases answers : event.responseEvent with
  | false => rfl
  | true =>
    rw [responseOf_some.mpr ⟨answers, rfl⟩] at other
    cases other

theorem observeResponse_named (told : event.responseOf = some id) :
    let metadata := state.requestMetadata.get? id
    let accepted := typedEventMatchesResponse response event metadata
    let named := state.observeResponse event response
    named.matchedEvent = (if accepted then some event else state.matchedEvent) ∧
      named.requestMetadata = (if id ≠ "" then state.requestMetadata.insert id (metadata.getD {}) else state.requestMetadata) ∧
      named.pendingResponses =
        (if accepted = false ∧ id ≠ "" then state.pendingResponses.insert id event else state.pendingResponses) := by
  obtain ⟨answers, rfl⟩ := responseOf_some.mp told
  unfold WaitState.observeResponse
  simp only [answers, Bool.not_true, Bool.false_eq_true, if_false]
  by_cases named : event.requestId.getD "" = ""
  · cases accepted : typedEventMatchesResponse response event (state.requestMetadata.get? (event.requestId.getD "")) <;>
      simp [named]
  · cases accepted : typedEventMatchesResponse response event (state.requestMetadata.get? (event.requestId.getD "")) <;>
      simp [named]

theorem observeResponse_records (requested : Requested history event response state) :
    ((state.observeResponse event response).matchedEvent ≠ none <-> Meets history event response) ∧
      (¬ Meets history event response -> Records (event :: history) (state.observeResponse event response)) := by
  cases told : event.responseOf with
  | none =>
    rw [observeResponse_other told]
    have half : state.matchedEvent ≠ none <-> Meets history event response := by
      rw [requested.matched]
      simp [Meets, told]
    refine ⟨half, fun unmet => ⟨by simpa using mt half.mp unmet, ?_, ?_⟩⟩
    · intro id
      rw [requested.metadata id]
      simp [metadataAfter, told]
    · intro id pending
      rw [requested.pending id pending, awaits_cons, EventRecord.Concerns, told]
      constructor
      · rintro ⟨awaits, other⟩
        exact .inr ⟨awaits, by simpa using other⟩
      · rintro (⟨_, rfl, answered⟩ | ⟨awaits, other⟩)
        · rw [told] at answered
          cases answered
        · exact ⟨awaits, fun same => other (.inl same)⟩
  | some id =>
    obtain ⟨matched, metadata, pendings⟩ := @observeResponse_named event response state id told
    have half : (state.observeResponse event response).matchedEvent ≠ none <-> Meets history event response := by
      rw [matched, Meets, ← requested.matched]
      simp only [told, Option.some.injEq, exists_eq_left', ← requested.metadata id]
      cases typedEventMatchesResponse response event (state.requestMetadata.get? id) <;> simp
    refine ⟨half, fun unmet => ?_⟩
    have unmatched := by simpa using mt half.mp unmet
    have rejected : typedEventMatchesResponse response event (state.requestMetadata.get? id) = false := by
      rw [matched] at unmatched
      split at unmatched
      next => cases unmatched
      next accepted => simpa using accepted
    refine ⟨unmatched, fun other => ?_, fun other pending => ?_⟩
    · rw [metadata, metadataAfter, told]
      by_cases same : id = other
      · subst same
        by_cases named : id = ""
        · simp [named, requested.metadata]
        · rw [if_pos named, Table.get?_insert_self, requested.metadata id]
          split <;> simp [named]
      · have kept : (if id ≠ "" then state.requestMetadata.insert id ((state.requestMetadata.get? id).getD {})
            else state.requestMetadata).get? other = state.requestMetadata.get? other := by
          split
          next => rw [Table.get?_insert_ne _ _ _ _ (Ne.symm same)]
          next => rfl
        rw [kept, requested.metadata other]
        simp [same]
    · rw [pendings, awaits_cons, EventRecord.Concerns]
      by_cases named : id = ""
      · -- a response without an id is not kept
        rw [if_neg (fun kept => kept.2 named), requested.pending other pending]
        constructor
        · rintro ⟨awaits, others⟩
          refine .inr ⟨awaits, ?_⟩
          rintro (same | same)
          · exact others same
          · exact awaits.1 (Option.some.inj (same.symm.trans told) ▸ named)
        · rintro (⟨used, rfl, same⟩ | ⟨awaits, others⟩)
          · exact absurd (Option.some.inj (same.symm.trans told) ▸ named) used
          · exact ⟨awaits, fun same => others (.inl same)⟩
      · rw [if_pos ⟨rejected, named⟩]
        by_cases same : other = id
        · subst same
          rw [Table.get?_insert_self, Option.some.injEq]
          constructor
          · rintro rfl
            exact .inl ⟨named, rfl, told⟩
          · rintro (⟨_, rfl, _⟩ | ⟨_, others⟩)
            · rfl
            · exact absurd (.inr told) others
        · rw [Table.get?_insert_ne _ _ _ _ same, requested.pending other pending]
          constructor
          · rintro ⟨awaits, others⟩
            refine .inr ⟨awaits, ?_⟩
            rintro (equal | equal)
            · exact others equal
            · exact same (Option.some.inj (equal.symm.trans told))
          · rintro (⟨_, rfl, equal⟩ | ⟨awaits, others⟩)
            · exact absurd (Option.some.inj (equal.symm.trans told)) same
            · exact ⟨awaits, fun equal => others (.inl equal)⟩

theorem observe_records (records : Records history state) (event : EventRecord) (now : Timestamp) :
    ((state.observe event now (.response response)).matchedEvent ≠ none <-> Meets history event response) ∧
      (¬ Meets history event response -> Records (event :: history) (state.observe event now (.response response))) := by
  have same : Records history
      { state with lastObservedAt := some (state.effectiveTime event now), lastEvent := some event } :=
    ⟨records.unmatched, records.metadata, records.pending⟩
  exact observeResponse_records (observeRequestMetadata_records same event response)

end States

section Sessions

variable {history : List EventRecord} {response : ResponseWait} {session : WaitSession}

namespace WaitSession

variable (session : WaitSession)

def delivers : WaitInput -> List EventRecord
  | .follow _ => []
  | .poll _ _ =>
      if session.registration.finished then []
      else (session.router.replay session.registration.cursor session.registration.scope).events

def delivered (session : WaitSession) : List WaitInput -> List EventRecord
  | [] => []
  | input :: rest => session.delivers input ++ (session.step input).delivered rest

def Undisturbed (session : WaitSession) : WaitInput -> Prop
  | .follow _ => True
  | .poll clock cancelled => session.registration.finished = false ->
      cancelled = false ∧ max clock session.registration.registeredAt < session.registration.deadline ∧
      (session.router.replay session.registration.cursor session.registration.scope).result ≠ .resyncRequired ∧
      ∀ event, event ∈ (session.router.replay session.registration.cursor session.registration.scope).events ->
        event.resyncRequired = false ∧ event.signalsResync = false

def Calm (session : WaitSession) : List WaitInput -> Prop
  | [] => True
  | input :: rest => session.Undisturbed input ∧ (session.step input).Calm rest

def SatisfiedBy (session : WaitSession) (inputs : List WaitInput) : Prop :=
  ∃ event cursor, .matched event cursor ∈ session.answers inputs

end WaitSession

variable {registration : WaitRegistration} {now : Timestamp}

theorem correlates_append (later : List EventRecord) (met : Correlates response history) :
    Correlates response (later ++ history) := by
  induction later with
  | nil => exact met
  | cons event later ih => exact .inr ih

theorem observeBatch_records (registration : WaitRegistration) (now : Timestamp) (history : List EventRecord)
    (asks : registration.condition = .response response) (records : Records history registration.state)
    (unmet : ¬ Correlates response history) (events : List EventRecord)
    (quiet : ∀ event, event ∈ events -> event.resyncRequired = false ∧ event.signalsResync = false) :
    (Correlates response (events.reverse ++ history) ∧ ∃ after event,
      registration.observeBatch now events = (after, some (.matched event registration.cursor)) ∧ after.finished = true) ∨
    (¬ Correlates response (events.reverse ++ history) ∧ ∃ after,
      registration.observeBatch now events = (after, none) ∧ Records (events.reverse ++ history) after.state ∧
      after.finished = registration.finished ∧ after.condition = .response response) := by
  induction events generalizing registration history with
  | nil => exact .inr ⟨unmet, registration, rfl, records, rfl, asks⟩
  | cons event rest ih =>
    obtain ⟨resync, signal⟩ := quiet event List.mem_cons_self
    have order : (event :: rest).reverse ++ history = rest.reverse ++ event :: history := by
      rw [List.reverse_cons, List.append_assoc, List.singleton_append]
    obtain ⟨matched, records⟩ := @observe_records history response registration.state records event now
    rw [← asks] at matched records
    unfold WaitRegistration.observeBatch
    simp only [resync, signal, Bool.or_self, Bool.false_eq_true, if_false, order]
    by_cases meets : Meets history event response
    · obtain ⟨found, told⟩ := Option.ne_none_iff_exists'.mp (matched.mpr meets)
      have told : (registration.observing now event).state.matchedEvent = some found := told
      rw [settle_matched _ now told]
      exact .inl ⟨correlates_append rest.reverse (.inl meets), _, found, rfl, rfl⟩
    · have recorded : Records (event :: history) (registration.observing now event).state := records meets
      have unsatisfied : (registration.observing now event).state.satisfied now (registration.observing now event).condition =
          false := by
        rw [WaitState.satisfied, recorded.unmatched]
        show (none.isSome || WaitState.quiet _ now registration.condition) = false
        rw [asks]
        rfl
      rw [settle_open _ now unsatisfied]
      refine ih (registration.observing now event) (event :: history) asks recorded ?_ fun event inside =>
        quiet event (List.mem_cons_of_mem _ inside)
      rintro (met | met)
      · exact meets met
      · exact unmet met

structure WaitSession.Follows (session : WaitSession) (response : ResponseWait) (history : List EventRecord) : Prop where
  asks : session.registration.condition = .response response
  unfinished : session.registration.finished = false
  records : Records history session.registration.state
  unmet : ¬ Correlates response history

theorem poll_records (follows : session.Follows response history) (clock : Timestamp) (cancelled : Bool)
    (undisturbed : session.Undisturbed (.poll clock cancelled)) :
    let later := (session.delivers (.poll clock cancelled)).reverse ++ history
    (Correlates response later ∧ (session.step (.poll clock cancelled)).registration.finished = true ∧
      ∃ event cursor, session.answer (.poll clock cancelled) = some (.matched event cursor)) ∨
    (¬ Correlates response later ∧ (session.step (.poll clock cancelled)).Follows response later ∧
      ∃ cursor, session.answer (.poll clock cancelled) = some (.pending cursor)) := by
  obtain ⟨rfl, early, current, quiet⟩ := undisturbed follows.unfinished
  obtain ⟨⟨⟩, _⟩ | ⟨_, late, _⟩ | ⟨_, _, resync, _⟩ | ⟨_, _, _, done⟩ :=
    poll_ways session.registration follows.unfinished clock false session.router
  · exact absurd early (Nat.not_lt_of_le late)
  · exact absurd resync current
  have delivers : session.delivers (.poll clock false) =
      (session.router.replay session.registration.cursor session.registration.scope).events := by
    simp only [WaitSession.delivers, follows.unfinished, Bool.false_eq_true, if_false]
  rw [delivers]
  simp only [WaitSession.step, WaitSession.answer, done]
  unfold WaitRegistration.watch
  obtain ⟨met, after, event, watched, ended⟩ | ⟨unmet, after, watched, records, open_, asks⟩ :=
    observeBatch_records
      (session.registration.advancedTo (session.router.replay session.registration.cursor session.registration.scope).cursor)
      (max clock session.registration.registeredAt) history follows.asks follows.records follows.unmet _ quiet
  · rw [watched]
    exact .inl ⟨met, ended, event, _, rfl⟩
  · have unsatisfied : after.state.satisfied (max clock session.registration.registeredAt) after.condition = false := by
      rw [WaitState.satisfied, records.unmatched, asks]
      rfl
    rw [watched]
    simp only [settle_open after _ unsatisfied]
    exact .inr ⟨unmet, ⟨asks, open_.trans follows.unfinished, records, unmet⟩, _, rfl⟩

theorem satisfiedBy_cons {input : WaitInput} {rest : List WaitInput} :
    session.SatisfiedBy (input :: rest) <->
      (∃ event cursor, session.answer input = some (.matched event cursor)) ∨ (session.step input).SatisfiedBy rest := by
  simp only [WaitSession.SatisfiedBy, WaitSession.answers, List.mem_append, Option.mem_toList, exists_or]

theorem follows_satisfied (follows : session.Follows response history) (inputs : List WaitInput)
    (calm : session.Calm inputs) :
    session.SatisfiedBy inputs <-> Correlates response ((session.delivered inputs).reverse ++ history) := by
  induction inputs generalizing session history with
  | nil =>
    refine iff_of_false ?_ follows.unmet
    rintro ⟨_, _, inside⟩
    cases inside
  | cons input rest ih =>
    obtain ⟨undisturbed, calm⟩ := calm
    have order : (session.delivered (input :: rest)).reverse ++ history =
        ((session.step input).delivered rest).reverse ++ ((session.delivers input).reverse ++ history) := by
      rw [WaitSession.delivered, List.reverse_append, List.append_assoc]
    rw [satisfiedBy_cons, order]
    cases input with
    | follow command =>
      have onward : (session.step (.follow command)).Follows response history :=
        ⟨follows.asks, follows.unfinished, follows.records, follows.unmet⟩
      rw [ih onward calm]
      simp [WaitSession.answer, WaitSession.delivers]
    | poll clock cancelled =>
      obtain ⟨met, finished, matched⟩ | ⟨_, onward, cursor, pending⟩ := poll_records follows clock cancelled undisturbed
      · exact iff_of_true (.inl matched) (correlates_append _ met)
      · rw [ih onward calm, pending]
        simp

end Sessions

end AgentycHost
