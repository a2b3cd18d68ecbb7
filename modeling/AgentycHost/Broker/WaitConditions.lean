import AgentycHost.Broker.EventRouter
import AgentycHost.Core.Texts
import AgentycHost.Cdp.Bridge

set_option autoImplicit false

/-!
# Wait conditions

What a wait asks of an event: every test reads the event's kind, its generation
and the fields of its payload.
-/

namespace AgentycHost

open Shared

inductive TextMatcher where
  | exact (expected : String)
  | contains (expected : String)
  | startsWith (expected : String)
  | endsWith (expected : String)
  deriving DecidableEq

def TextMatcher.matches (value : String) : TextMatcher -> Bool
  | .exact expected => value == expected
  | .contains expected => containsBytes (bytes value) (bytes expected)
  | .startsWith expected => (bytes expected).isPrefixOf (bytes value)
  | .endsWith expected => (bytes expected).isSuffixOf (bytes value)

inductive NavigationKind where
  | url
  | history
  | reload
  | any
  deriving DecidableEq

inductive HistoryDirection where
  | back
  | forward
  | any
  deriving DecidableEq

inductive ElementState where
  | present
  | absent
  | visible
  | hidden
  deriving DecidableEq

inductive DownloadState where
  | started
  | completed
  | failed
  deriving DecidableEq

structure UrlWait where
  matcher : TextMatcher
  navigation : Option NavigationKind
  generation : Option GenerationWatermark
  deriving DecidableEq

structure HistoryWait where
  direction : HistoryDirection
  generation : Option GenerationWatermark
  deriving DecidableEq

structure ReloadWait where
  generation : Option GenerationWatermark
  deriving DecidableEq

structure NetworkIdleWait where
  quietFor : Nat
  deriving DecidableEq

structure RequestWait where
  url : Option TextMatcher
  method : Option String
  resourceType : Option String
  deriving DecidableEq

structure ResponseWait where
  url : Option TextMatcher
  method : Option String
  resourceType : Option String
  status : Option (Fin 65536)
  deriving DecidableEq

structure StableDomWait where
  quietFor : Nat
  geometryQuietFor : Nat
  deriving DecidableEq

structure ElementWait where
  selector : Option String
  text : Option TextMatcher
  state : ElementState
  generation : Option GenerationWatermark
  deriving DecidableEq

structure PageWait where
  pageId : Option String
  lifecycle : Option String
  generation : Option GenerationWatermark
  deriving DecidableEq

structure DownloadWait where
  name : Option TextMatcher
  state : DownloadState
  deriving DecidableEq

inductive WaitCondition where
  | eventKind (kind : EventKind)
  | event (kind : Option EventKind) (payload : Payload)
  | payload (key value : String)
  | generationAtLeast (target : GenerationWatermark)
  | any (conditions : List WaitCondition)
  | all (conditions : List WaitCondition)
  | url (condition : UrlWait)
  | history (condition : HistoryWait)
  | reload (condition : ReloadWait)
  | networkIdle (condition : NetworkIdleWait)
  | request (condition : RequestWait)
  | response (condition : ResponseWait)
  | stableDom (condition : StableDomWait)
  | element (condition : ElementWait)
  | page (condition : PageWait)
  | download (condition : DownloadWait)

def generationAtLeast (actual target : GenerationWatermark) : Bool :=
  decide (target.spaceGeneration ≤ actual.spaceGeneration) && decide (target.pageGeneration ≤ actual.pageGeneration) &&
    decide (target.navigationGeneration ≤ actual.navigationGeneration) &&
    decide (target.documentGeneration ≤ actual.documentGeneration) &&
    match actual.snapshotVersion, target.snapshotVersion with
    | _, none => true
    | some actual, some target => decide (target ≤ actual)
    | none, some _ => false

section Texts

def eqIgnoreAsciiCase (one other : String) : Bool := asciiLowercase one == asciiLowercase other

def unsignedDigits : List Nat -> List Nat
  | 43 :: digits => digits
  | digits => digits

def parseUnsigned (limit : Nat) (text : String) : Option Nat :=
  let digits := unsignedDigits (bytes text)
  if digits.isEmpty || !digits.all isAsciiDigit then none
  else
    let value := digits.foldl (fun value digit => value * 10 + (digit - 48)) 0
    if value ≤ limit then some value else none

theorem fold_digits (digits : List Char) (start : Nat) :
    (digits.map Char.toNat).foldl (fun value digit => value * 10 + (digit - 48)) start = Nat.ofDigitChars 10 digits start := by
  induction digits generalizing start with
  | nil => rfl
  | cons digit rest ih =>
    rw [List.map_cons, List.foldl_cons, ih, Nat.ofDigitChars_cons, Nat.mul_comm]
    rfl

theorem parseUnsigned_repr {limit value : Nat} (fits : value ≤ limit) : parseUnsigned limit (Nat.repr value) = some value := by
  have encoded : bytes (Nat.repr value) = (Nat.toDigits 10 value).map Char.toNat := decimal_bytes value
  have numeric : (bytes (Nat.repr value)).all isAsciiDigit = true := decimal_numeric value
  have some_ : (bytes (Nat.repr value)).isEmpty = false := by
    rw [encoded, List.isEmpty_map]
    exact List.isEmpty_eq_false_iff.mpr (decimal_nonempty value)
  have unsigned : unsignedDigits (bytes (Nat.repr value)) = bytes (Nat.repr value) := by
    unfold unsignedDigits
    split
    next rest plus =>
      rw [plus] at numeric
      cases numeric
    next => rfl
  unfold parseUnsigned
  simp only [unsigned, some_, numeric, Bool.not_true, Bool.or_self, Bool.false_eq_true, if_false]
  rw [encoded, fold_digits, Nat.ofDigitChars_ten_toDigits]
  exact if_pos fits

end Texts

namespace EventRecord

variable (event : EventRecord)

def payloadGet (key : String) : Option String := event.payload.lookup key

def payloadValue (keys : List String) : Option String := keys.findSome? event.payloadGet

def payloadTrue (keys : List String) : Bool :=
  (event.payloadValue keys).any fun value => ["1", "true", "yes"].any fun word => asciiLowercase value == bytes word

def labels : List String := ["wait_kind", "kind", "phase", "event"].filterMap event.payloadGet

def labelIs (labels : List String) : Bool := event.labels.any fun value => labels.any (eqIgnoreAsciiCase value)

def hasLabel (labels : List String) : Bool :=
  event.labels.any fun value => labels.any fun label => containsBytes (asciiLowercase value) (asciiLowercase label)

def requestId : Option String := event.payloadValue ["request_id", "requestId"]

def generationMatches (target : Option GenerationWatermark) : Bool := target.all (generationAtLeast event.generation)

def transitionMatches (expected : Option NavigationKind) : Bool :=
  let actual := asciiLowercase ((event.payloadValue ["navigation", "navigation_kind", "transition"]).getD "")
  match expected with
  | none | some .any => true
  | some .url => actual.isEmpty || actual == bytes "url" || actual == bytes "navigate"
  | some .history => actual == bytes "history" || actual == bytes "same_document"
  | some .reload => actual == bytes "reload"

def urlMatches (matcher : Option TextMatcher) : Bool :=
  matcher.all fun matcher => (event.payloadValue ["url", "href"]).any matcher.matches

def requestEvent : Bool :=
  event.hasLabel ["request", "request_will_be_sent"] ||
    ((event.payloadGet "request_id").isSome && (event.payloadGet "status").isNone &&
      (event.payloadGet "response_status").isNone)

def responseEvent : Bool :=
  event.hasLabel ["response", "response_received"] || (event.payloadGet "status").isSome ||
    (event.payloadGet "response_status").isSome

def networkRequestStarted : Bool :=
  event.requestEvent && (event.labelIs ["request", "request_will_be_sent", "started", "request_started"] ||
    (event.payloadGet "url").isSome)

def networkRequestFinished : Bool :=
  event.hasLabel ["loading_finished", "loading_failed", "finished", "failed", "complete"] ||
    event.payloadTrue ["finished", "completed", "failed"]

def analyticsMarkers : List String :=
  ["google-analytics", "googletagmanager", "doubleclick", "segment.io", "mixpanel", "amplitude", "hotjar",
    "plausible.io", "/analytics"]

def resourceTypeKeys : List String := ["resource_type", "resourceType", "type"]

def excludedNetworkEvent : Bool :=
  let resourceType := asciiLowercase ((event.payloadValue resourceTypeKeys).getD "")
  let url := asciiLowercase ((event.payloadValue ["url", "href"]).getD "")
  event.payloadTrue ["excluded", "long_lived", "websocket", "download", "analytics"] ||
    (["websocket", "eventsource", "download", "webtransport"].any fun word => resourceType == bytes word) ||
    analyticsMarkers.any fun marker => containsBytes url (bytes marker)

def domMutationEvent : Bool :=
  event.hasLabel ["dom", "mutation", "dom_mutation"] || event.payloadTrue ["dom_changed", "mutation"]

def geometryEvent : Bool :=
  event.hasLabel ["geometry", "layout", "resize"] || (event.payloadGet "geometry_signature").isSome ||
    (event.payloadGet "geometry").isSome || event.payloadTrue ["geometry_changed", "layout_changed"]

def signalsResync : Bool :=
  event.payloadTrue ["generation_replaced", "target_replaced", "document_replaced", "disconnected", "disconnect",
      "resync_required"] ||
    ((event.payloadValue ["connection_state", "lifecycle", "state"]).any fun state =>
      ["disconnected", "replaced", "resync_required"].any fun word => asciiLowercase state == bytes word) ||
    (event.event == .connectionChanged &&
      (event.payloadValue ["status", "connection"]).any fun state => eqIgnoreAsciiCase state "disconnected")

end EventRecord

section Typed

def typedEventMatchesUrl (condition : UrlWait) (event : EventRecord) : Bool :=
  event.urlMatches (some condition.matcher) && event.transitionMatches condition.navigation &&
    event.generationMatches condition.generation &&
    (event.hasLabel ["url", "navigation", "navigated", "history", "reload", "frame"] || (event.payloadGet "url").isSome)

def typedEventMatchesHistory (condition : HistoryWait) (event : EventRecord) : Bool :=
  let direction := asciiLowercase ((event.payloadValue ["direction", "history_direction"]).getD "")
  let directionMatches := match condition.direction with
    | .back => direction.isEmpty || direction == bytes "back"
    | .forward => direction.isEmpty || direction == bytes "forward"
    | .any => true
  directionMatches && event.generationMatches condition.generation &&
    (event.labelIs ["history", "navigated_within_document"] ||
      (event.payloadValue ["navigation", "navigation_kind"]).any fun value => eqIgnoreAsciiCase value "history")

def typedEventMatchesReload (condition : ReloadWait) (event : EventRecord) : Bool :=
  event.generationMatches condition.generation &&
    (event.labelIs ["reload", "reloaded"] ||
      (event.payloadValue ["navigation", "navigation_kind", "transition"]).any fun value => eqIgnoreAsciiCase value "reload")

def typedEventMatchesRequest (condition : RequestWait) (event : EventRecord) : Bool :=
  event.requestEvent && event.urlMatches condition.url &&
    (condition.method.all fun method => (event.payloadValue ["method"]).any fun actual => eqIgnoreAsciiCase actual method) &&
    condition.resourceType.all fun resourceType =>
      (event.payloadValue EventRecord.resourceTypeKeys).any fun actual => eqIgnoreAsciiCase actual resourceType

structure RequestMetadata where
  url : String := ""
  method : String := ""
  resourceType : String := ""
  deriving DecidableEq

def typedEventMatchesResponse (condition : ResponseWait) (event : EventRecord) (requestMetadata : Option RequestMetadata) :
    Bool :=
  event.responseEvent && event.urlMatches condition.url &&
    (condition.method.all fun method =>
      ((event.payloadValue ["method"]).or (requestMetadata.map (·.method))).any fun actual =>
        eqIgnoreAsciiCase actual method) &&
    (condition.resourceType.all fun resourceType =>
      ((event.payloadValue EventRecord.resourceTypeKeys).or (requestMetadata.map (·.resourceType))).any fun actual =>
        eqIgnoreAsciiCase actual resourceType) &&
    condition.status.all fun status =>
      ((event.payloadValue ["status", "response_status"]).bind (parseUnsigned 65535)).any fun actual =>
        actual == status.val

def typedEventMatchesElement (condition : ElementWait) (event : EventRecord) : Bool :=
  let state := (event.payloadValue ["state", "element_state"]).getD ""
  let stateMatches := match condition.state with
    | .present => ["", "present", "visible", "attached"].contains state
    | .absent => ["absent", "detached", "missing"].contains state
    | .visible => state == "visible"
    | .hidden => state == "hidden"
  (condition.selector.all fun selector => (event.payloadValue ["selector"]).any fun actual => actual == selector) &&
    (condition.text.all fun matcher => (event.payloadValue ["text", "inner_text", "content"]).any matcher.matches) &&
    stateMatches && event.generationMatches condition.generation &&
    (event.hasLabel ["element", "selector"] || (event.payloadGet "state").isSome)

def typedEventMatchesPage (condition : PageWait) (event : EventRecord) : Bool :=
  (condition.pageId.all fun pageId => (event.payloadValue ["page_id", "pageId"]).any fun actual => actual == pageId) &&
    (condition.lifecycle.all fun lifecycle =>
      (event.payloadValue ["lifecycle", "state"]).any fun actual => actual == lifecycle) &&
    event.generationMatches condition.generation &&
    (event.hasLabel ["page", "connection", "target"] || (event.payloadGet "page_id").isSome)

def typedEventMatchesDownload (condition : DownloadWait) (event : EventRecord) : Bool :=
  let state := (event.payloadValue ["state", "download_state"]).getD ""
  let stateMatches := match condition.state with
    | .started => ["started", "in_progress"].contains state
    | .completed => ["completed", "complete"].contains state
    | .failed => ["failed", "cancelled"].contains state
  (condition.name.all fun matcher => (event.payloadValue ["name", "filename", "file_name"]).any matcher.matches) &&
    stateMatches && (event.hasLabel ["download"] || (event.payloadGet "filename").isSome)

end Typed

mutual

def WaitCondition.matches (event : EventRecord) : WaitCondition -> Bool
  | .eventKind kind => event.event == kind
  | .event kind payload =>
      (kind.all fun expected => event.event == expected) &&
        payload.all fun entry => event.payloadGet entry.1 == some entry.2
  | .payload key value => event.payloadGet key == some value
  | .generationAtLeast target => generationAtLeast event.generation target
  | .any conditions => anyMatches event conditions
  | .all conditions => allMatch event conditions
  | .url condition => typedEventMatchesUrl condition event
  | .history condition => typedEventMatchesHistory condition event
  | .reload condition => typedEventMatchesReload condition event
  | .networkIdle _ | .stableDom _ => false
  | .request condition => typedEventMatchesRequest condition event
  | .response condition => typedEventMatchesResponse condition event none
  | .element condition => typedEventMatchesElement condition event
  | .page condition => typedEventMatchesPage condition event
  | .download condition => typedEventMatchesDownload condition event

def anyMatches (event : EventRecord) : List WaitCondition -> Bool
  | [] => false
  | condition :: rest => condition.matches event || anyMatches event rest

def allMatch (event : EventRecord) : List WaitCondition -> Bool
  | [] => true
  | condition :: rest => condition.matches event && allMatch event rest

end

theorem anyMatches_eq (event : EventRecord) (conditions : List WaitCondition) :
    anyMatches event conditions = conditions.any fun condition => condition.matches event := by
  induction conditions with
  | nil => rw [anyMatches, List.any_nil]
  | cons condition rest ih => rw [anyMatches, ih, List.any_cons]

end AgentycHost
