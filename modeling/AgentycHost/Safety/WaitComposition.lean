import AgentycHost.Effects.Retention
import AgentycHost.Effects.WaitCorrelation
import AgentycHost.Effects.WaitScans

set_option autoImplicit false

/-! # Responses and their requests -/

namespace AgentycHost

open Shared

/-- A response of the events is accepted with the metadata of a request of its id, wherever the two stand. -/
def Corresponds (response : ResponseWait) (events : List EventRecord) : Prop :=
  ∃ id request answer, request ∈ events ∧ answer ∈ events ∧ request.requestOf = some id ∧ answer.requestId = some id ∧
    typedEventMatchesResponse response answer (some request.requestMetadata) = true

section Pairs

variable {id : String} {request answer : EventRecord} {response : ResponseWait} {history : List EventRecord}

/-- Among the events the id has this one request. -/
def OneRequest (id : String) (request : EventRecord) (events : List EventRecord) : Prop :=
  ∀ event, event ∈ events -> event.requestOf = some id -> event = request

def OneResponse (id : String) (answer : EventRecord) (events : List EventRecord) : Prop :=
  ∀ event, event ∈ events -> event.responseOf = some id -> event = answer

theorem metadataAfter_one (inside : request ∈ history) (named : request.requestOf = some id)
    (one : OneRequest id request history) : metadataAfter id history = some request.requestMetadata := by
  induction history with
  | nil => cases inside
  | cons event earlier ih =>
    have others : OneRequest id request earlier := fun event inside => one event (List.mem_cons_of_mem _ inside)
    unfold metadataAfter
    by_cases requests : event.requestOf = some id
    · rw [if_pos requests, one event List.mem_cons_self requests]
    · have earlier_ : request ∈ earlier := by
        obtain rfl | later := List.mem_cons.mp inside
        · exact absurd named requests
        · exact later
      rw [if_neg requests, ih earlier_ others]
      split <;> rfl

theorem awaits_one (inside : answer ∈ history) (named : answer.responseOf = some id) (used : id ≠ "")
    (one : OneResponse id answer history) (none_ : ∀ event, event ∈ history -> event.requestOf ≠ some id) :
    Awaits history id answer := by
  induction history with
  | nil => cases inside
  | cons event earlier ih =>
    rw [awaits_cons]
    by_cases answers : event.responseOf = some id
    · exact .inl ⟨used, one event List.mem_cons_self answers, named⟩
    · have earlier_ : answer ∈ earlier := by
        obtain rfl | later := List.mem_cons.mp inside
        · exact absurd named answers
        · exact later
      refine .inr ⟨ih earlier_ (fun event inside => one event (List.mem_cons_of_mem _ inside))
        fun event inside => none_ event (List.mem_cons_of_mem _ inside), ?_⟩
      rintro (requests | same)
      · exact none_ event List.mem_cons_self requests
      · exact answers same

theorem one_correlates (asked : request ∈ history) (answered : answer ∈ history) (used : id ≠ "")
    (named : request.requestOf = some id) (told : answer.requestId = some id)
    (requests : OneRequest id request history) (responses : OneResponse id answer history)
    (accepted : typedEventMatchesResponse response answer (some request.requestMetadata) = true) :
    Correlates response history := by
  have responds : answer.responseOf = some id := responseOf_some.mpr ⟨matchesResponse_event accepted, by rw [told]; rfl⟩
  induction history with
  | nil => cases asked
  | cons event earlier ih =>
    have requests_ : OneRequest id request earlier := fun event inside => requests event (List.mem_cons_of_mem _ inside)
    have responses_ : OneResponse id answer earlier := fun event inside => responses event (List.mem_cons_of_mem _ inside)
    by_cases before : answer ∈ earlier
    · by_cases after : request ∈ earlier
      · exact .inr (ih after before requests_ responses_)
      · -- the request is the latest event, and the response waits for it
        obtain rfl := (List.mem_cons.mp asked).resolve_right after
        refine .inl (.inr ⟨id, answer, named, awaits_one before responds used responses_ ?_, accepted⟩)
        intro event inside same
        obtain rfl := requests_ event inside same
        exact after inside
    · obtain rfl := (List.mem_cons.mp answered).resolve_right before
      refine .inl (.inl ⟨id, responds, ?_⟩)
      split
      next both =>
        obtain rfl := requests answer List.mem_cons_self both
        exact accepted
      next other =>
        have after : request ∈ earlier := by
          obtain rfl | later := List.mem_cons.mp asked
          · exact absurd named other
          · exact later
        rw [metadataAfter_one after named requests_]
        exact accepted

end Pairs

theorem start_follows (engine : WaitEngine) (now : Timestamp) (router : EventRouter) (response : ResponseWait)
    (scope : Option EventScope) (deadline : Timestamp) :
    (WaitSession.start engine now router (.response response) scope deadline).Follows response [] where
  asks := rfl
  unfinished := rfl
  records := by
    refine ⟨rfl, fun _ => rfl, fun id pending => iff_of_false (by rintro ⟨⟩) ?_⟩
    rintro ⟨_, since⟩
    exact since_nil since
  unmet := id

section Sample

def pairWait (condition : WaitCondition) : WaitSession := .start {} 0 quietRouter condition none u64Max

def pairInputs (first second : Payload) : List WaitInput :=
  [.follow (.ingest (traceEvent 1 first)), .follow (.ingest (traceEvent 2 second)), .poll (u64Max - 1) false]

variable (condition : WaitCondition) (first second : Payload)

def tracedRouter : EventRouter :=
  { quietRouter with
    sequence := 2, events := [traceEvent 1 first, traceEvent 2 second], retainedStarts := [1, 2],
    seenEventIds := insert ⟨1, 2⟩ (insert ⟨1, 1⟩ ∅), seenEventOrder := [⟨1, 1⟩, ⟨1, 2⟩] }

theorem tracedRouter_ingests :
    ((quietRouter.ingest (traceEvent 1 first)).1.ingest (traceEvent 2 second)).1 = tracedRouter first second := by
  have one : TakesIn quietRouter (traceEvent 1 first) :=
    ⟨rfl, Finset.notMem_empty _, rfl, rfl, rfl, (by decide : 1 ≤ u64Max)⟩
  have two : TakesIn ((quietRouter.noted (traceEvent 1 first)).retain (traceEvent 1 first)).1 (traceEvent 2 second) := by
    refine ⟨rfl, ?_, rfl, rfl, rfl, (by decide : 2 ≤ u64Max)⟩
    have unseen : (⟨1, 2⟩ : EventId) ∉ (insert ⟨1, 1⟩ ∅ : Finset EventId) := by decide
    exact unseen
  rw [ingest_takes one, ingest_takes two]
  rfl

def pairReady : WaitSession := { pairWait condition with router := tracedRouter first second }

theorem pairReady_reached : ((pairWait condition).step (.follow (.ingest (traceEvent 1 first)))).step
    (.follow (.ingest (traceEvent 2 second))) = pairReady condition first second := by
  show WaitSession.mk ((quietRouter.ingest (traceEvent 1 first)).1.ingest (traceEvent 2 second)).1 _ = _
  rw [tracedRouter_ingests]
  rfl

theorem pair_delivered : (pairWait condition).delivered (pairInputs first second) = [traceEvent 1 first, traceEvent 2 second] := by
  simp only [pairInputs, WaitSession.delivered, pairReady_reached]
  rfl

theorem pair_answers : (pairWait condition).answers (pairInputs first second) =
    (pairReady condition first second).answers [.poll (u64Max - 1) false] := by
  simp only [pairInputs, WaitSession.answers, pairReady_reached]
  rfl

theorem pair_calm (one : (traceEvent 1 first).signalsResync = false) (other : (traceEvent 2 second).signalsResync = false) :
    (pairWait condition).Calm (pairInputs first second) := by
  simp only [pairInputs, WaitSession.Calm, pairReady_reached]
  refine ⟨trivial, trivial, fun _ => ⟨rfl, (by decide : u64Max - 1 < u64Max), by rintro ⟨⟩, ?_⟩, trivial⟩
  intro event inside
  have listed : event ∈ [traceEvent 1 first, traceEvent 2 second] := inside
  obtain rfl | rest := List.mem_cons.mp listed
  · exact ⟨rfl, one⟩
  · obtain rfl := List.mem_singleton.mp rest
    exact ⟨rfl, other⟩

def postResponse : WaitCondition := .response { url := none, method := some "POST", resourceType := none, status := none }

def postPayload : Payload := [("method", "POST"), ("request_id", "r")]

def barePayload : Payload := [("kind", "response_received"), ("request_id", "r")]

def createdPayload : Payload := [("request_id", "r"), ("status", "201")]

end Sample

/-- The events that correspond match the wait when two of them that are accepted together are next to each other. -/
theorem response_order_iff (engine : WaitEngine) (now : Timestamp) (router : EventRouter) (response : ResponseWait)
    (scope : Option EventScope) (deadline : Timestamp) (inputs : List WaitInput)
    (calm : (WaitSession.start engine now router (.response response) scope deadline).Calm inputs) :
    let session := WaitSession.start engine now router (.response response) scope deadline
    let events := session.delivered inputs
    ((Corresponds response events -> session.SatisfiedBy inputs) <->
      (Corresponds response events -> Correlates response events.reverse)) ∧
    ∀ id request answer, request ∈ events -> answer ∈ events -> id ≠ "" -> request.requestOf = some id ->
      answer.requestId = some id -> OneRequest id request events -> OneResponse id answer events ->
      typedEventMatchesResponse response answer (some request.requestMetadata) = true -> session.SatisfiedBy inputs := by
  intro session events
  have matched := follows_satisfied (start_follows engine now router response scope deadline) inputs calm
  rw [List.append_nil] at matched
  refine ⟨by rw [matched], ?_⟩
  intro id request answer asked answered used named told requests responses accepted
  refine matched.mpr (one_correlates (List.mem_reverse.mpr asked) (List.mem_reverse.mpr answered) used named told ?_ ?_ accepted)
  · exact fun event inside => requests event (List.mem_reverse.mp inside)
  · exact fun event inside => responses event (List.mem_reverse.mp inside)

theorem response_order_sample : (pairWait postResponse).SatisfiedBy (pairInputs createdPayload postPayload) := by
  refine (response_order_iff {} 0 quietRouter ⟨none, some "POST", none, none⟩ none u64Max (pairInputs createdPayload postPayload)
    (pair_calm postResponse _ _ rfl rfl)).2 "r" (traceEvent 2 postPayload) (traceEvent 1 createdPayload) ?_ ?_ (by decide)
    rfl rfl ?_ ?_ rfl
  · exact pair_delivered postResponse createdPayload postPayload ▸ List.mem_cons_of_mem _ List.mem_cons_self
  · exact pair_delivered postResponse createdPayload postPayload ▸ List.mem_cons_self
  · intro event inside requests
    obtain rfl | later := List.mem_cons.mp (pair_delivered postResponse createdPayload postPayload ▸ inside)
    · cases requests
    · exact List.mem_singleton.mp later
  · intro event inside responds
    obtain rfl | later := List.mem_cons.mp (pair_delivered postResponse createdPayload postPayload ▸ inside)
    · rfl
    · obtain rfl := List.mem_singleton.mp later
      cases responds

theorem bare_response_order :
    (pairWait postResponse).Calm (pairInputs postPayload barePayload) ∧
    Corresponds ⟨none, some "POST", none, none⟩ ((pairWait postResponse).delivered (pairInputs postPayload barePayload)) ∧
    (pairWait postResponse).answers (pairInputs postPayload barePayload) = [.pending ⟨1, 2⟩] ∧
    (pairWait postResponse).answers (pairInputs barePayload postPayload) = [.matched (traceEvent 1 barePayload) ⟨1, 2⟩] := by
  refine ⟨pair_calm postResponse _ _ rfl rfl, ?_, ?_, ?_⟩
  · rw [pair_delivered]
    exact ⟨"r", traceEvent 1 postPayload, traceEvent 2 barePayload, List.mem_cons_self,
      List.mem_cons_of_mem _ List.mem_cons_self, rfl, rfl, rfl⟩
  · rw [pair_answers]
    decide
  · rw [pair_answers]
    decide

end AgentycHost

/-! # Waits on any of some conditions -/

namespace AgentycHost

open Shared

section Scans

variable {accepts : EventRecord -> Bool} {scan : EventScan}

def EventScan.Hits (accepts : EventRecord -> Bool) (scan : EventScan) (inputs : List WaitInput) : Prop :=
  ∃ event cursor, .matched event cursor ∈ scan.answers accepts inputs

theorem hits_nil : ¬ scan.Hits accepts [] := by
  rintro ⟨_, _, inside⟩
  cases inside

theorem hits_cons {input : WaitInput} {rest : List WaitInput} : scan.Hits accepts (input :: rest) <->
    (∃ event cursor, scan.answer accepts input = some (.matched event cursor)) ∨ (scan.step accepts input).Hits accepts rest := by
  simp only [EventScan.Hits, EventScan.answers, List.mem_append, Option.mem_toList, exists_or]

theorem finished_poll (finished : scan.finished = true) (clock : Timestamp) (cancelled : Bool) :
    scan.poll accepts clock cancelled = (scan, .pending scan.cursor) := by
  unfold EventScan.poll
  exact if_pos finished

theorem finished_hits (scan : EventScan) (finished : scan.finished = true) (inputs : List WaitInput) :
    ¬ scan.Hits accepts inputs := by
  induction inputs generalizing scan with
  | nil => exact hits_nil
  | cons input rest ih =>
    rw [hits_cons]
    cases input with
    | follow command =>
      rintro (⟨_, _, ⟨⟩⟩ | later)
      exact ih (scan.step accepts (.follow command)) finished later
    | poll clock cancelled =>
      simp only [EventScan.answer, EventScan.step, finished_poll finished]
      rintro (⟨_, _, ⟨⟩⟩ | later)
      exact ih scan finished later

theorem scan_poll_cases (scan : EventScan) (clock : Timestamp) (cancelled : Bool) :
    (∃ next outcome, (∀ accepts, scan.poll accepts clock cancelled = (next, outcome)) ∧
      ∀ event cursor, outcome ≠ .matched event cursor) ∨
    ∃ cursor events, ∀ accepts, scan.poll accepts clock cancelled =
      ({ scan with cursor, finished := (firstDecisive accepts cursor events).isSome },
        (firstDecisive accepts cursor events).getD (.pending cursor)) := by
  unfold EventScan.poll
  simp only
  split
  next => exact .inl ⟨_, _, fun _ => rfl, by rintro _ _ ⟨⟩⟩
  next =>
    split
    next => exact .inl ⟨_, _, fun _ => rfl, by rintro _ _ ⟨⟩⟩
    next =>
      split
      next => exact .inl ⟨_, _, fun _ => rfl, by rintro _ _ ⟨⟩⟩
      next =>
        split
        next => exact .inl ⟨_, _, fun _ => rfl, by rintro _ _ ⟨⟩⟩
        next => exact .inr ⟨_, _, fun _ => rfl⟩

section Members

variable {I : Type} (members : List I) (test : I -> EventRecord -> Bool)

theorem firstDecisive_any (cursor : EventCursor) (events : List EventRecord) :
    let decided := firstDecisive (fun event => members.any (test · event)) cursor events
    (decided = none ∧ ∀ member, member ∈ members -> firstDecisive (test member) cursor events = none) ∨
    (decided = some (.resyncRequired cursor) ∧
      ∀ member, member ∈ members -> firstDecisive (test member) cursor events = some (.resyncRequired cursor)) ∨
    ∃ event, decided = some (.matched event cursor) ∧
      ∃ member, member ∈ members ∧ firstDecisive (test member) cursor events = some (.matched event cursor) := by
  induction events with
  | nil => exact .inl ⟨rfl, fun _ _ => rfl⟩
  | cons event rest ih =>
    simp only [firstDecisive]
    split
    next => exact .inr (.inl ⟨rfl, fun _ _ => rfl⟩)
    next =>
      split
      next found =>
        obtain ⟨member, inside, accepted⟩ := List.any_eq_true.mp found
        exact .inr (.inr ⟨event, rfl, member, inside, by rw [if_pos accepted]⟩)
      next missed =>
        have rejected (member : I) (inside : member ∈ members) : test member event ≠ true := by
          intro accepted
          exact missed (List.any_eq_true.mpr ⟨member, inside, accepted⟩)
        obtain ⟨none_, others⟩ | ⟨resync, others⟩ | ⟨found, matched, member, inside, same⟩ := ih
        · exact .inl ⟨none_, fun member inside => by rw [if_neg (rejected member inside), others member inside]⟩
        · exact .inr (.inl ⟨resync, fun member inside => by rw [if_neg (rejected member inside), others member inside]⟩)
        · exact .inr (.inr ⟨found, matched, member, inside, by rw [if_neg (rejected member inside), same]⟩)

theorem hits_any (scan : EventScan) (inputs : List WaitInput) :
    scan.Hits (fun event => members.any (test · event)) inputs <->
      ∃ member, member ∈ members ∧ scan.Hits (test member) inputs := by
  induction inputs generalizing scan with
  | nil =>
    refine iff_of_false hits_nil ?_
    rintro ⟨_, _, hit⟩
    exact hits_nil hit
  | cons input rest ih =>
    simp only [hits_cons]
    cases input with
    | follow command =>
      simp only [EventScan.answer, EventScan.step, ih, reduceCtorEq, exists_false, false_or]
    | poll clock cancelled =>
      simp only [EventScan.answer, EventScan.step]
      obtain ⟨next, outcome, polled, other⟩ | ⟨cursor, events, polled⟩ := scan_poll_cases scan clock cancelled
      · have unmatched : ¬ ∃ event cursor, some outcome = some (.matched event cursor) := by
          rintro ⟨event, cursor, same⟩
          exact other event cursor (Option.some.inj same)
        simp only [polled, unmatched, ih, false_or]
      · simp only [polled]
        obtain ⟨none_, others⟩ | ⟨resync, others⟩ | ⟨event, matched, member, inside, same⟩ :=
          firstDecisive_any members test cursor events
        · rw [none_]
          constructor
          · rintro (⟨_, _, ⟨⟩⟩ | later)
            obtain ⟨member, inside, hit⟩ := (ih _).mp later
            exact ⟨member, inside, .inr (by rw [others member inside]; exact hit)⟩
          · rintro ⟨member, inside, answered⟩
            rw [others member inside] at answered
            obtain ⟨_, _, ⟨⟩⟩ | later := answered
            exact .inr ((ih _).mpr ⟨member, inside, later⟩)
        · rw [resync]
          constructor
          · rintro (⟨_, _, ⟨⟩⟩ | later)
            exact absurd later (finished_hits _ rfl rest)
          · rintro ⟨member, inside, answered⟩
            rw [others member inside] at answered
            obtain ⟨_, _, ⟨⟩⟩ | later := answered
            exact absurd later (finished_hits _ rfl rest)
        · rw [matched]
          exact iff_of_true (.inl ⟨event, cursor, rfl⟩) ⟨member, inside, .inl ⟨event, cursor, by rw [same]; rfl⟩⟩

end Members

end Scans

section Conditions

/-- A condition inside one-member conditions. -/
def WaitCondition.nested (condition : WaitCondition) : Nat -> WaitCondition
  | 0 => condition
  | depth + 1 => .any [condition.nested depth]

theorem any_matches (conditions : List WaitCondition) (event : EventRecord) :
    (WaitCondition.any conditions).matches event = conditions.any fun condition => condition.matches event := by
  rw [WaitCondition.matches, anyMatches_eq]

theorem nested_matches (condition : WaitCondition) (depth : Nat) (event : EventRecord) :
    (condition.nested depth).matches event = condition.matches event := by
  induction depth with
  | zero => rfl
  | succ depth ih => rw [WaitCondition.nested, any_matches, List.any_cons, List.any_nil, Bool.or_false, ih]

theorem nested_composable {condition : WaitCondition} (composable : condition.Composable) (depth : Nat) :
    (condition.nested depth).Composable := by
  cases depth with
  | zero => exact composable
  | succ depth => trivial

end Conditions

section Composition

variable (engine : WaitEngine) (now : Timestamp) (router : EventRouter) (scope : Option EventScope)
  (deadline : Timestamp) (inputs : List WaitInput)

theorem nested_answers (bounded : deadline ≤ u64Max) {condition : WaitCondition} (composable : condition.Composable) (depth : Nat) :
    (WaitSession.start engine now router (condition.nested depth) scope deadline).answers inputs =
      (WaitSession.start engine now router condition scope deadline).answers inputs := by
  rw [answers_scans (nested_composable composable depth) (start_scans engine now router _ scope deadline bounded),
    answers_scans composable (start_scans engine now router _ scope deadline bounded)]
  congr 1
  funext event
  exact nested_matches condition depth event

theorem any_satisfied (bounded : deadline ≤ u64Max) {conditions : List WaitCondition}
    (composable : ∀ condition, condition ∈ conditions -> condition.Composable) :
    (WaitSession.start engine now router (.any conditions) scope deadline).SatisfiedBy inputs <->
      ∃ condition, condition ∈ conditions ∧
        (WaitSession.start engine now router condition scope deadline).SatisfiedBy inputs := by
  have scanned (condition : WaitCondition) (composable : condition.Composable) :
      (WaitSession.start engine now router condition scope deadline).SatisfiedBy inputs <->
        (WaitSession.start engine now router condition scope deadline).scan.Hits (WaitCondition.matches · condition) inputs := by
    unfold WaitSession.SatisfiedBy
    rw [answers_scans composable (start_scans engine now router condition scope deadline bounded)]
    rfl
  have tests : (WaitCondition.matches · (.any conditions)) = fun event => conditions.any fun condition => condition.matches event := by
    funext event
    exact any_matches conditions event
  have any : (WaitCondition.any conditions).Composable := trivial
  rw [scanned _ any, tests, hits_any conditions fun condition event => condition.matches event]
  constructor
  · rintro ⟨condition, inside, hit⟩
    exact ⟨condition, inside, (scanned condition (composable condition inside)).mpr hit⟩
  · rintro ⟨condition, inside, satisfied⟩
    exact ⟨condition, inside, (scanned condition (composable condition inside)).mp satisfied⟩

end Composition

section Distinctions

theorem watch_first {registration : WaitRegistration} {now : Timestamp} {event : EventRecord} (rest : List EventRecord)
    (quiet : (event.resyncRequired || event.signalsResync) = false)
    (satisfied : (registration.observing now event).state.satisfied now registration.condition = true) :
    ∃ found cursor, (registration.watch now (event :: rest)).2 = .matched found cursor := by
  unfold WaitRegistration.watch WaitRegistration.observeBatch
  rw [quiet]
  obtain ⟨unsatisfied, _⟩ | ⟨_, settled⟩ := settle_cases (registration.observing now event) now
  · exact absurd (unsatisfied.symm.trans satisfied) Bool.false_ne_true
  have observed : (registration.observing now event).state.lastEvent = some event := observe_lastEvent now _ event _
  simp only [settled, WaitState.matched, observed, Bool.false_eq_true, if_false]
  cases (registration.observing now event).state.matchedEvent with
  | none => exact ⟨event, _, rfl⟩
  | some found => exact ⟨found, _, rfl⟩

variable {condition : WaitCondition} {config : NetworkIdleWait}

theorem pair_quiet (satisfied : ((pairReady condition [] []).registration.observing (u64Max - 1) (traceEvent 1 [])).state.satisfied
    (u64Max - 1) condition = true) : (pairWait condition).SatisfiedBy (pairInputs [] []) := by
  have replayed : (tracedRouter [] []).replay quietRouter.cursor none =
      { brokerEpoch := 1, result := .accepted, events := [traceEvent 1 [], traceEvent 2 []], cursor := ⟨1, 2⟩ } := rfl
  have early : ¬ u64Max ≤ max (u64Max - 1) 0 := by decide
  obtain ⟨⟨⟩, _⟩ | ⟨_, late, _⟩ | ⟨_, _, resync, _⟩ | ⟨_, _, _, done⟩ :=
    poll_ways (pairReady condition [] []).registration rfl (u64Max - 1) false (tracedRouter [] [])
  · exact absurd late early
  · have told : ((tracedRouter [] []).replay quietRouter.cursor none).result = .resyncRequired := resync
    rw [replayed] at told
    cases told
  have watched : (pairReady condition [] []).answer (.poll (u64Max - 1) false) = some
      ((pairReady condition [] []).registration.advancedTo ⟨1, 2⟩ |>.watch (u64Max - 1) [traceEvent 1 [], traceEvent 2 []]).2 :=
    congrArg (fun polled : WaitRegistration × WaitOutcome => some polled.2) done
  obtain ⟨found, cursor, matched⟩ :=
    @watch_first ((pairReady condition [] []).registration.advancedTo ⟨1, 2⟩) _ _ [traceEvent 2 []] rfl satisfied
  refine ⟨found, cursor, ?_⟩
  rw [pair_answers, WaitSession.answers, watched, matched]
  exact List.mem_cons_self

theorem networkIdle_pair (short : config.quietFor < u64Max) :
    (pairWait (.networkIdle config)).SatisfiedBy (pairInputs [] []) := by
  apply pair_quiet
  have passed : config.quietFor ≤ u64Max - 1 - 0 := Nat.le_sub_one_of_lt short
  show (false || (true && decide (config.quietFor ≤ u64Max - 1 - 0))) = true
  rw [decide_eq_true passed]
  rfl

theorem stableDom_pair {config : StableDomWait} (short : config.quietFor < u64Max) (shortGeometry : config.geometryQuietFor < u64Max) :
    (pairWait (.stableDom config)).SatisfiedBy (pairInputs [] []) := by
  apply pair_quiet
  have passed : config.quietFor ≤ u64Max - 1 - 0 := Nat.le_sub_one_of_lt short
  have passedGeometry : config.geometryQuietFor ≤ u64Max - 1 - 0 := Nat.le_sub_one_of_lt shortGeometry
  show (false || (decide (config.quietFor ≤ u64Max - 1 - 0) && decide (config.geometryQuietFor ≤ u64Max - 1 - 0))) = true
  rw [decide_eq_true passed, decide_eq_true passedGeometry]
  rfl

theorem pair_unsatisfied (composable : condition.Composable) (first second : Payload)
    (one : (traceEvent 1 first).signalsResync = false) (other : (traceEvent 2 second).signalsResync = false)
    (rejected : condition.matches (traceEvent 1 first) = false) (rejected_ : condition.matches (traceEvent 2 second) = false) :
    ¬ (pairWait condition).SatisfiedBy (pairInputs first second) := by
  have started := start_scans {} 0 quietRouter condition none u64Max (Nat.le_refl _)
  have scans : (pairReady condition first second).Scans condition := ⟨started.bounded, started.open_⟩
  have undecided : firstDecisive (WaitCondition.matches · condition) ⟨1, 2⟩ [traceEvent 1 first, traceEvent 2 second] = none := by
    have calm (sequence : EventSequence) (payload : Payload) : (traceEvent sequence payload).resyncRequired = false := rfl
    simp only [firstDecisive, one, other, calm, rejected, rejected_, Bool.or_self, Bool.false_eq_true, if_false]
  have pending : (pairReady condition first second).scan.answers (WaitCondition.matches · condition)
      [.poll (u64Max - 1) false] =
      [(firstDecisive (WaitCondition.matches · condition) ⟨1, 2⟩ [traceEvent 1 first, traceEvent 2 second]).getD
        (.pending ⟨1, 2⟩)] := rfl
  rintro ⟨found, cursor, inside⟩
  rw [pair_answers, answers_scans composable scans, pending, undecided] at inside
  cases List.mem_singleton.mp inside

def TextMatcher.text : TextMatcher -> String
  | .exact expected | .contains expected | .startsWith expected | .endsWith expected => expected

theorem containsBytes_self (text : List Nat) : containsBytes text text = true := by
  cases text with
  | nil => rfl
  | cons head rest => simp [containsBytes]

theorem matches_text (matcher : TextMatcher) : matcher.matches matcher.text = true := by
  cases matcher with
  | exact expected => exact beq_self_eq_true expected
  | contains expected => exact containsBytes_self _
  | startsWith expected => exact List.isPrefixOf_iff_prefix.mpr List.prefix_rfl
  | endsWith expected => exact List.isSuffixOf_iff_suffix.mpr List.suffix_rfl

section Responses

variable (response : ResponseWait)

def askedPayload : Payload :=
  [("method", response.method.getD ""), ("request_id", "r"), ("type", response.resourceType.getD "")]

def answerPayload : Payload :=
  [("request_id", "r"), ("status", Nat.repr (response.status.getD 200).val),
    ("url", (response.url.map TextMatcher.text).getD "")]

theorem answerPayload_accepted : typedEventMatchesResponse response (traceEvent 2 (answerPayload response))
    (some (traceEvent 1 (askedPayload response)).requestMetadata) = true := by
  have responds : (traceEvent 2 (answerPayload response)).responseEvent = true := rfl
  have url : (traceEvent 2 (answerPayload response)).payloadValue ["url", "href"] =
      some ((response.url.map TextMatcher.text).getD "") := rfl
  have method : (traceEvent 2 (answerPayload response)).payloadValue ["method"] = none := rfl
  have resourceType : (traceEvent 2 (answerPayload response)).payloadValue EventRecord.resourceTypeKeys = none := rfl
  have status : (traceEvent 2 (answerPayload response)).payloadValue ["status", "response_status"] =
      some (Nat.repr (response.status.getD 200).val) := rfl
  have metadata : (traceEvent 1 (askedPayload response)).requestMetadata =
      { method := response.method.getD "", resourceType := response.resourceType.getD "" } := rfl
  have same (text : String) : eqIgnoreAsciiCase text text = true := beq_self_eq_true _
  unfold typedEventMatchesResponse EventRecord.urlMatches
  rw [responds, url, method, resourceType, status, metadata]
  simp only [Bool.true_and, Option.none_or, Option.map_some, Option.any_some, Bool.and_eq_true, Option.all_eq_true]
  refine ⟨⟨⟨?_, ?_⟩, ?_⟩, ?_⟩
  · intro matcher wanted
    rw [wanted]
    exact matches_text matcher
  · intro wanted asked
    rw [asked]
    exact same wanted
  · intro wanted asked
    rw [asked]
    exact same wanted
  · intro wanted asked
    rw [asked, Option.bind_some, Option.getD_some, parseUnsigned_repr (Nat.le_of_lt_succ wanted.isLt)]
    exact beq_self_eq_true _

theorem response_pair (asks : response.method ≠ none ∨ response.resourceType ≠ none) :
    (pairWait (.response response)).SatisfiedBy (pairInputs (askedPayload response) (answerPayload response)) ∧
      ¬ (pairWait (.any [.response response])).SatisfiedBy (pairInputs (askedPayload response) (answerPayload response)) := by
  constructor
  · have follows : (pairWait (.response response)).Follows response [] :=
      start_follows {} 0 quietRouter response none u64Max
    have calm := pair_calm (.response response) (askedPayload response) (answerPayload response) rfl rfl
    have other : (traceEvent 2 (answerPayload response)).requestOf ≠ some "r" := by rintro ⟨⟩
    have asked : (traceEvent 1 (askedPayload response)).requestOf = some "r" := rfl
    rw [follows_satisfied follows _ calm, pair_delivered]
    refine .inl (.inl ⟨"r", rfl, ?_⟩)
    have known : metadataAfter "r" [traceEvent 1 (askedPayload response)] =
        some (traceEvent 1 (askedPayload response)).requestMetadata := if_pos asked
    rw [if_neg other]
    show typedEventMatchesResponse response _ (metadataAfter "r" [traceEvent 1 (askedPayload response)]) = true
    rw [known]
    exact answerPayload_accepted response
  · have composable : (WaitCondition.any [.response response]).Composable := trivial
    have request : (traceEvent 1 (askedPayload response)).responseEvent = false := rfl
    have method : (traceEvent 2 (answerPayload response)).payloadValue ["method"] = none := rfl
    have resourceType : (traceEvent 2 (answerPayload response)).payloadValue EventRecord.resourceTypeKeys = none := rfl
    apply pair_unsatisfied composable _ _ rfl rfl
    · rw [any_matches, List.any_cons, List.any_nil, Bool.or_false, WaitCondition.matches, typedEventMatchesResponse, request]
      rfl
    · rw [any_matches, List.any_cons, List.any_nil, Bool.or_false, WaitCondition.matches, typedEventMatchesResponse, method,
        resourceType]
      obtain asks | asks := asks
      · obtain ⟨wanted, asked⟩ := Option.ne_none_iff_exists'.mp asks
        simp [asked]
      · obtain ⟨wanted, asked⟩ := Option.ne_none_iff_exists'.mp asks
        simp [asked]

end Responses

theorem nested_idle : ¬ (pairWait (.any [.networkIdle config])).SatisfiedBy (pairInputs [] []) := by
  have composable : (WaitCondition.any [.networkIdle config]).Composable := trivial
  exact pair_unsatisfied composable [] [] rfl rfl rfl rfl

theorem nested_stable {config : StableDomWait} : ¬ (pairWait (.any [.stableDom config])).SatisfiedBy (pairInputs [] []) := by
  have composable : (WaitCondition.any [.stableDom config]).Composable := trivial
  exact pair_unsatisfied composable [] [] rfl rfl rfl rfl

theorem distinguished (stateful : ¬ condition.Composable) : ∃ first second,
    (pairWait condition).SatisfiedBy (pairInputs first second) ∧
      ¬ (pairWait (.any [condition])).SatisfiedBy (pairInputs first second) := by
  cases condition
  case networkIdle config => exact ⟨[], [], networkIdle_pair (Nat.lt_of_not_le stateful), nested_idle⟩
  case stableDom config =>
    obtain ⟨short, shortGeometry⟩ := not_or.mp stateful
    exact ⟨[], [], stableDom_pair (Nat.lt_of_not_le short) (Nat.lt_of_not_le shortGeometry), nested_stable⟩
  case response response =>
    have asks : response.method ≠ none ∨ response.resourceType ≠ none := by
      by_contra neither
      obtain ⟨method, resourceType⟩ := not_or.mp neither
      exact stateful ⟨not_not.mp method, not_not.mp resourceType⟩
    exact ⟨_, _, response_pair response asks⟩
  all_goals exact absurd trivial stateful

end Distinctions

/-- The composition is transparent exactly for the conditions that keep no state of their own. -/
theorem any_transparent_iff (conditions : List WaitCondition) :
    (∀ (engine : WaitEngine) (now : Timestamp) (router : EventRouter) (scope : Option EventScope) (deadline : Timestamp)
      (inputs : List WaitInput), deadline ≤ u64Max ->
        (∀ condition, condition ∈ conditions -> ∀ depth,
          (WaitSession.start engine now router (condition.nested depth) scope deadline).answers inputs =
            (WaitSession.start engine now router condition scope deadline).answers inputs) ∧
        ((WaitSession.start engine now router (.any conditions) scope deadline).SatisfiedBy inputs <->
          ∃ condition, condition ∈ conditions ∧
            (WaitSession.start engine now router condition scope deadline).SatisfiedBy inputs)) <->
    ∀ condition, condition ∈ conditions -> condition.Composable := by
  constructor
  · intro transparent condition inside
    by_contra stateful
    obtain ⟨first, second, satisfied, unsatisfied⟩ := distinguished stateful
    have same : (pairWait (.any [condition])).answers (pairInputs first second) =
        (pairWait condition).answers (pairInputs first second) :=
      (transparent {} 0 quietRouter none u64Max (pairInputs first second) (Nat.le_refl _)).1 condition inside 1
    rw [WaitSession.SatisfiedBy, same] at unsatisfied
    exact unsatisfied satisfied
  · intro composable engine now router scope deadline inputs bounded
    refine ⟨fun condition inside depth => ?_, any_satisfied engine now router scope deadline inputs bounded composable⟩
    exact nested_answers engine now router scope deadline inputs bounded (composable condition inside) depth

theorem nested_idle_unsatisfied :
    (pairWait (.networkIdle ⟨5⟩)).answers (pairInputs [] []) = [.matched (traceEvent 1 []) ⟨1, 2⟩] ∧
    (pairWait (.any [.networkIdle ⟨5⟩])).answers (pairInputs [] []) = [.pending ⟨1, 2⟩] := by
  constructor
  · rw [pair_answers]
    decide
  · rw [pair_answers]
    decide

end AgentycHost
