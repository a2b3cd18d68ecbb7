import AgentycHost.Broker.BridgeEvents
import AgentycHost.Ledger.Validate
import AgentycHost.Shared.Encodings

set_option autoImplicit false

/-! # Whether the payload of a bridge event is admitted -/

namespace AgentycHost

open Shared

variable {name key text : String} {payload : Json} {result : Table String String} {texts : List (String × String)}

section Recording

variable {entry : String × String}

theorem get?_recordTexts (texts : List (String × String)) (key : String) :
    (recordTexts result texts).get? key =
      (result.get? key).or ((texts.find? fun entry => entry.1 == key).map Prod.snd) := by
  induction texts generalizing result with
  | nil => simp [recordTexts]
  | cons entry rest ih =>
    obtain ⟨first, text⟩ := entry
    rw [recordTexts, ih]
    by_cases same : first = key
    · subst same
      rw [List.find?_cons_of_pos (by simp)]
      split_ifs with held
      · obtain ⟨value, found⟩ := (Table.contains_iff _ _).mp held
        simp [found]
      · have absent : result.get? first = none := by simpa [Table.contains] using held
        simp [absent]
    · rw [List.find?_cons_of_neg (by simpa using same)]
      split_ifs with held
      · rfl
      · rw [Table.get?_insert_ne _ _ _ _ (Ne.symm same)]

/-- The texts of the payload, its parameters and their objects, in the order in which they are looked at. -/
def offeredTexts (payload : Json) : List (String × String) :=
  let nested := (payload.get "params").getD .null
  fieldTexts payload ++ fieldTexts nested ++ objectTexts nested

/-- The first admissible text of a name. -/
def firstText (payload : Json) (key : String) : Option String :=
  ((offeredTexts payload).find? fun entry => entry.1 == key).map Prod.snd

def recordedNames : List String := bridgeFields.map Prod.snd ++ bridgeObjectFields.map fun field => field.2.2

theorem fieldTexts_name {source : Json} (inside : entry ∈ fieldTexts source) :
    entry.1 ∈ bridgeFields.map Prod.snd := by
  obtain ⟨field, listed, found⟩ := List.mem_filterMap.mp inside
  obtain ⟨text, _, rfl⟩ := Option.map_eq_some_iff.mp found
  exact List.mem_map_of_mem listed

theorem objectTexts_name {params : Json} (inside : entry ∈ objectTexts params) :
    entry.1 ∈ bridgeObjectFields.map fun field => field.2.2 := by
  obtain ⟨field, listed, found⟩ := List.mem_filterMap.mp inside
  obtain ⟨text, _, rfl⟩ := Option.map_eq_some_iff.mp found
  exact List.mem_map.mpr ⟨field, listed, rfl⟩

theorem firstText_name (first : firstText payload key = some text) : key ∈ recordedNames := by
  obtain ⟨entry, found, _⟩ := Option.map_eq_some_iff.mp first
  have named : entry.1 = key := by simpa using List.find?_some found
  rw [← named]
  obtain direct | object := List.mem_append.mp (List.mem_of_find?_eq_some found)
  · apply List.mem_append_left
    obtain top | nested := List.mem_append.mp direct
    · exact fieldTexts_name top
    · exact fieldTexts_name nested
  · exact List.mem_append_right _ (objectTexts_name object)

/-- A method of the page, whose navigation is recorded in place of the one that the payload names. -/
def navigates (payload : Json) : Bool := (navigationKind ((firstText payload "method").getD "")).isSome

theorem get?_recorded (name : String) (payload : Json) (key : String) :
    (recordTexts (recordTexts (recordTexts (Table.insert ∅ "reason" name) (fieldTexts payload))
      (fieldTexts ((payload.get "params").getD .null))) (objectTexts ((payload.get "params").getD .null))).get? key =
      if key = "reason" then some name else firstText payload key := by
  rw [get?_recordTexts, get?_recordTexts, get?_recordTexts, Table.get?_insert]
  by_cases reason : key = "reason"
  · simp [reason]
  · simp [reason, firstText, offeredTexts, List.find?_append, Option.map_or, Option.or_assoc]

theorem mem_bridgeEventPayload :
    (key, text) ∈ bridgeEventPayload name payload <->
      if key = "reason" then text = name
      else if key = "wait_kind" then text = waitKind ((firstText payload "method").getD "")
      else if key = "navigation" ∧ navigates payload = true then
        navigationKind ((firstText payload "method").getD "") = some text
      else firstText payload key = some text := by
  have method := get?_recorded name payload "method"
  rw [if_neg (by decide)] at method
  unfold bridgeEventPayload
  dsimp only
  rw [method]
  unfold navigates
  cases kind : navigationKind ((firstText payload "method").getD "") with
  | none =>
    dsimp only
    rw [Table.mem_entries, Table.get?_insert, get?_recorded]
    by_cases reason : key = "reason"
    · subst reason
      simp [eq_comm]
    · by_cases wait : key = "wait_kind"
      · subst wait
        simp [eq_comm]
      · simp [reason, wait]
  | some navigation =>
    dsimp only
    rw [Table.mem_entries, Table.get?_insert, Table.get?_insert, get?_recorded]
    by_cases reason : key = "reason"
    · subst reason
      simp [eq_comm]
    · by_cases wait : key = "wait_kind"
      · subst wait
        simp [eq_comm]
      · by_cases moved : key = "navigation"
        · subst moved
          simp
        · simp [reason, wait, moved]

end Recording

section Checks

/-- Every text that the payload records under one of its own names is one that the history takes. -/
def TextsFit (payload : Json) : Prop :=
  ∀ key text, firstText payload key = some text -> ¬ (key = "navigation" ∧ navigates payload = true) ->
    text.utf8ByteSize ≤ 512

theorem shape_ok {entries : Payload} {bound : Nat} : validatePublicPayloadShape entries bound = .ok () <->
    ∀ entry, entry ∈ entries -> (entry.1.utf8ByteSize ≠ 0 ∧ entry.1.utf8ByteSize ≤ 128 ∧
      entry.2.utf8ByteSize ≤ bound) ∧ isRawIdentityKey entry.1 = false := by
  simp only [validatePublicPayloadShape, forEach_ok, bind_ok, require_ok, decide_eq_true_eq, Bool.not_eq_true',
    exists_const]

def namedPublicly (key : String) : Bool :=
  decide (key.utf8ByteSize ≠ 0 ∧ key.utf8ByteSize ≤ 128) && !isRawIdentityKey key

theorem recordedNames_public : recordedNames.all namedPublicly = true := by decide

theorem waitKind_short (method : String) : (waitKind method).utf8ByteSize ≤ 512 := by
  unfold waitKind
  split_ifs <;> decide

theorem navigationKind_short {method navigation : String} (moves : navigationKind method = some navigation) :
    navigation.utf8ByteSize ≤ 512 := by
  unfold navigationKind at moves
  split_ifs at moves <;> cases moves <;> decide

theorem publicly_named (recorded : key ∈ recordedNames ∨ key = "reason" ∨ key = "wait_kind") :
    (key.utf8ByteSize ≠ 0 ∧ key.utf8ByteSize ≤ 128) ∧ isRawIdentityKey key = false := by
  have public_ : namedPublicly key = true := by
    obtain inside | rfl | rfl := recorded
    · exact List.all_eq_true.mp recordedNames_public key inside
    · decide
    · decide
  rw [namedPublicly, Bool.and_eq_true, decide_eq_true_eq, Bool.not_eq_true'] at public_
  exact public_

theorem payload_shape_iff (short : name.utf8ByteSize ≤ 128) :
    validatePublicPayloadShape (bridgeEventPayload name payload) 512 = .ok () <-> TextsFit payload := by
  rw [shape_ok]
  constructor
  · intro fits key text first kept
    have named := firstText_name first
    have recorded : (key, text) ∈ bridgeEventPayload name payload := by
      rw [mem_bridgeEventPayload, if_neg, if_neg, if_neg kept]
      · exact first
      · rintro rfl
        exact absurd named (by decide)
      · rintro rfl
        exact absurd named (by decide)
    exact (fits _ recorded).1.2.2
  · intro fits entry recorded
    obtain ⟨key, text⟩ := entry
    rw [mem_bridgeEventPayload] at recorded
    suffices admitted : (key ∈ recordedNames ∨ key = "reason" ∨ key = "wait_kind") ∧ text.utf8ByteSize ≤ 512 by
      obtain ⟨⟨some_, long⟩, public_⟩ := publicly_named admitted.1
      exact ⟨⟨some_, long, admitted.2⟩, public_⟩
    split_ifs at recorded with reason wait moved
    · subst recorded
      exact ⟨.inr (.inl reason), short.trans (by decide)⟩
    · subst recorded
      exact ⟨.inr (.inr wait), waitKind_short _⟩
    · -- the navigation of the method takes the place of what the payload says
      have named : "navigation" ∈ recordedNames := by decide
      exact ⟨.inl (moved.1 ▸ named), navigationKind_short recorded⟩
    · exact ⟨.inl (firstText_name recorded), fits key text recorded moved⟩

end Checks

section Recorded

variable {state : LedgerState} {event : BridgeEvent} {authority : AuthorityTicket} {epochs : Option ExtensionEpochs}
  {now : Timestamp} {registry : RefRegistry} {entries : Payload}

theorem append_payload_iff {scope : EventScope} {kind : EventKind} {reason : Option DirtyReason} {resync : Bool}
    {attribution : EventAttribution} :
    (∃ next, appendEventWithAttribution state scope kind entries reason resync attribution = .ok next) <->
      (∃ next, appendEventWithAttribution state scope kind [] reason resync attribution = .ok next) ∧
        validatePublicPayloadShape entries 512 = .ok () := by
  have empty : validatePublicPayloadShape [] 512 = .ok () := rfl
  simp only [appendEventWithAttribution, bind_ok, mapError_ok, empty]
  constructor
  · rintro ⟨_, _, shape, sequence, numbered, generations, generation, _, admitted, _⟩
    exact ⟨⟨_, (), trivial, sequence, numbered, generations, generation, (), admitted, rfl⟩, shape⟩
  · rintro ⟨⟨_, _, _, sequence, numbered, generations, generation, _, admitted, _⟩, shape⟩
    exact ⟨_, (), shape, sequence, numbered, generations, generation, (), admitted, rfl⟩

theorem validateEvent_payload_iff {earlier : List EventRecord} {record : EventRecord} :
    validateEvent state earlier { record with payload := entries } = .ok () <->
      validateEvent state earlier { record with payload := [] } = .ok () ∧
        validatePublicPayloadShape entries 512 = .ok () := by
  have empty : validatePublicPayloadShape [] 512 = .ok () := rfl
  simp only [validateEvent, bind_ok, empty]
  constructor
  · rintro ⟨_, ordered, _, shape, placed⟩
    exact ⟨⟨(), ordered, (), trivial, placed⟩, shape⟩
  · rintro ⟨⟨_, ordered, _, _, placed⟩, shape⟩
    exact ⟨(), ordered, (), shape, placed⟩

/-- A late event on a closing page, of which nothing is recorded. -/
def LateOnClosing (event : BridgeEvent) (authority : AuthorityTicket) (state : LedgerState) : Prop :=
  ∃ spaceId pageId, event.spaceId = some spaceId ∧ event.pageId = some pageId ∧
    admitScopedEvent event authority spaceId pageId state = .ok none

theorem readEventName_short {raw : Json} (named : readEventName raw = some name) : name.utf8ByteSize ≤ 128 := by
  obtain ⟨_, admitted⟩ := Option.filter_eq_some_iff.mp named
  simp only [Bool.and_eq_true, decide_eq_true_eq] at admitted
  exact admitted.1.2

theorem paired_ok {step : Except HostError LedgerState} :
    (∃ next, (do let next <- step; pure ((), next) : Except HostError (Unit × LedgerState)) = .ok next) <->
      ∃ next, step = .ok next := by
  cases step with
  | error error =>
    constructor
    · rintro ⟨_, ⟨⟩⟩
    · rintro ⟨_, ⟨⟩⟩
  | ok next =>
    constructor
    · intro _
      exact ⟨next, rfl⟩
    · intro _
      exact ⟨((), next), rfl⟩

/-- The event with nothing to record. -/
def BridgeEvent.bare (event : BridgeEvent) : BridgeEvent := { event with payload := [] }

theorem bare_admitted (event : BridgeEvent) (spaceId : SpaceId) (pageId : PageId) :
    admitScopedEvent event.bare authority spaceId pageId state = admitScopedEvent event authority spaceId pageId state := rfl

theorem bare_attribution (event : BridgeEvent) :
    bridgeAttribution event.bare authority epochs = bridgeAttribution event authority epochs := rfl

theorem scoped_payload_iff {spaceId : SpaceId} {pageId : PageId} :
    (∃ next, (applyScopedEvent event authority epochs spaceId pageId now registry state).2 = .ok next) <->
      (∃ next, (applyScopedEvent event.bare authority epochs spaceId pageId now registry state).2 = .ok next) ∧
        (admitScopedEvent event authority spaceId pageId state = .ok none ∨
          validatePublicPayloadShape event.payload 512 = .ok ()) := by
  unfold applyScopedEvent
  rw [bare_admitted, bare_attribution]
  cases admitted : admitScopedEvent event authority spaceId pageId state with
  | error error => simp
  | ok outcome =>
    cases outcome with
    | none => simp
    | some outcome =>
      obtain ⟨page, changed⟩ := outcome
      simp only [paired_ok]
      rw [append_payload_iff]
      simp [BridgeEvent.bare]

theorem global_payload_iff :
    (∃ next, (applyGlobalEvent event authority epochs now registry state).2 = .ok next) <->
      (∃ next, (applyGlobalEvent event.bare authority epochs now registry state).2 = .ok next) ∧
        validatePublicPayloadShape event.payload 512 = .ok () := by
  unfold applyGlobalEvent
  rw [bare_attribution]
  cases authorized : authorizeTicket state authority with
  | error error => simp
  | ok _ =>
    simp only [paired_ok]
    rw [append_payload_iff]
    rfl

theorem apply_payload_iff :
    (∃ next, (applyBridgeEvent event authority epochs now registry state).2 = .ok next) <->
      (∃ next, (applyBridgeEvent event.bare authority epochs now registry state).2 = .ok next) ∧
        (LateOnClosing event authority state ∨ validatePublicPayloadShape event.payload 512 = .ok ()) := by
  have space : event.bare.spaceId = event.spaceId := rfl
  have page : event.bare.pageId = event.pageId := rfl
  unfold applyBridgeEvent LateOnClosing
  rw [space, page]
  cases inSpace : event.spaceId with
  | none =>
    refine global_payload_iff.trans (and_congr Iff.rfl ?_)
    simp
  | some spaceId =>
    cases ofPage : event.pageId with
    | none =>
      refine global_payload_iff.trans (and_congr Iff.rfl ?_)
      simp
    | some pageId =>
      refine scoped_payload_iff.trans (and_congr Iff.rfl ?_)
      simp

end Recorded

section Admission

/-- The payload of a bridge event passes the checks of the history and of the ledger exactly when its texts fit, and
nothing else of it can undo the event. -/
theorem bridge_payload_admitted_iff {raw : Json} (named : readEventName raw = some name) :
    (validatePublicPayloadShape (bridgeEventPayload name payload) 512 = .ok () <-> TextsFit payload) ∧
    (∀ state scope kind reason resync attribution,
      (∃ next, appendEventWithAttribution state scope kind (bridgeEventPayload name payload) reason resync
        attribution = .ok next) <->
      (∃ next, appendEventWithAttribution state scope kind [] reason resync attribution = .ok next) ∧
        TextsFit payload) ∧
    (∀ state earlier (record : EventRecord),
      validateEvent state earlier { record with payload := bridgeEventPayload name payload } = .ok () <->
      validateEvent state earlier { record with payload := [] } = .ok () ∧ TextsFit payload) ∧
    (∀ event authority epochs now registry state, bridgeEventContract name payload = some event.name ->
      event.payload = bridgeEventPayload name payload ->
      ((∃ next, (applyBridgeEvent event authority epochs now registry state).2 = .ok next) <->
      (∃ next, (applyBridgeEvent event.bare authority epochs now registry state).2 = .ok next) ∧
        (LateOnClosing event authority state ∨ TextsFit payload))) := by
  have short : name.utf8ByteSize ≤ 128 := readEventName_short named
  have shape : validatePublicPayloadShape (bridgeEventPayload name payload) 512 = .ok () <-> TextsFit payload :=
    payload_shape_iff short
  refine ⟨shape, ?_, ?_, ?_⟩
  · intro state scope kind reason resync attribution
    rw [append_payload_iff, shape]
  · intro state earlier record
    rw [validateEvent_payload_iff, shape]
  · intro event authority epochs now registry state _ recorded
    rw [apply_payload_iff, recorded, shape]

def shortUrlPayload : Json := .object [("url", .string "https://example.com/")]

def shortUrlEvent : Json := .object [("event", .string "page.changed"), ("payload", shortUrlPayload)]

theorem short_url_admitted :
    validatePublicPayloadShape (bridgeEventPayload "page.changed" shortUrlPayload) 512 = .ok () := by
  have named : readEventName shortUrlEvent = some "page.changed" := by decide
  have exact_ : validatePublicPayloadShape (bridgeEventPayload "page.changed" shortUrlPayload) 512 = .ok () <->
      TextsFit shortUrlPayload := (bridge_payload_admitted_iff named).1
  rw [exact_]
  intro key text first _
  have offered : offeredTexts shortUrlPayload = [("url", "https://example.com/")] := by decide
  rw [firstText, offered] at first
  obtain ⟨entry, found, rfl⟩ := Option.map_eq_some_iff.mp first
  obtain rfl := List.mem_singleton.mp (List.mem_of_find?_eq_some found)
  decide

def longUrl : String := String.ofList (List.replicate 600 'u')

def longUrlPayload : Json := .object [("url", .string longUrl)]

def longUrlEvent : Json := .object [("event", .string "page.changed"), ("payload", longUrlPayload)]

theorem repeated_size (count : Nat) : (String.ofList (List.replicate count 'u')).utf8ByteSize = count := by
  have one : 'u'.utf8Size = 1 := by decide
  rw [utf8ByteSize_eq, String.toList_ofList, textSize, List.map_replicate, one]
  simp

theorem repeated_printed (count : Nat) : (List.replicate count 'u').any isControl = false := by
  have letter : isControl 'u' = false := by decide
  simp [letter]

theorem longUrl_size : longUrl.utf8ByteSize = 600 := repeated_size 600

theorem longUrl_admissible : admissibleText longUrl = true := by
  have filled : longUrl ≠ "" := by
    intro empty
    have size := longUrl_size
    rw [empty] at size
    exact absurd size (by decide)
  have printed : longUrl.toList.any isControl = false := by
    unfold longUrl
    rw [String.toList_ofList]
    exact repeated_printed 600
  rw [admissibleText, longUrl_size, printed]
  simp [filled, maxFieldBytes]

theorem longUrl_first : firstText longUrlPayload "url" = some longUrl := by
  have offered : fieldTexts longUrlPayload = [("url", longUrl)] := by
    simp [fieldTexts, bridgeFields, longUrlPayload, Json.get, Json.fieldText, Json.scalarText, longUrl_admissible]
  rw [firstText, offeredTexts, offered]
  rfl

theorem long_url_refused :
    readEventName longUrlEvent = some "page.changed" ∧
      bridgeEventContract "page.changed" longUrlPayload = some .pageChanged ∧
      validatePublicPayloadShape (bridgeEventPayload "page.changed" longUrlPayload) 512 ≠ .ok () := by
  refine ⟨by decide, by decide, ?_⟩
  rw [ne_eq, payload_shape_iff (by decide)]
  intro fits
  have short := fits "url" longUrl longUrl_first (by decide)
  exact absurd short (by rw [longUrl_size]; decide)

end Admission

end AgentycHost
