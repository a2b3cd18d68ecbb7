import AgentycHost.Broker.Snapshots
import AgentycHost.Core.Canonical

set_option autoImplicit false

/-!
# The recorded payload of a bridge event

An event of the extension carries a raw payload. A fixed list of its fields is
recorded with the event, under public names; the first admissible text of a name
is the one that stays.
-/

namespace AgentycHost

open Shared

/-- The fields of a payload and of its parameters, with the names that they are recorded under. -/
def bridgeFields : List (String × String) :=
  [("method", "method"), ("url", "url"), ("href", "href"), ("navigation", "navigation"),
    ("navigation_kind", "navigation_kind"), ("transition", "transition"), ("direction", "direction"),
    ("resource_type", "resource_type"), ("resourceType", "resource_type"), ("status", "status"),
    ("response_status", "response_status"), ("state", "state"), ("download_state", "download_state"),
    ("filename", "filename"), ("file_name", "file_name"), ("name", "name"), ("selector", "selector"), ("text", "text"),
    ("inner_text", "inner_text"), ("content", "content"), ("geometry_signature", "geometry_signature"),
    ("geometry", "geometry"), ("dom_changed", "dom_changed"), ("mutation", "mutation"),
    ("geometry_changed", "geometry_changed"), ("layout_changed", "layout_changed"), ("finished", "finished"),
    ("completed", "completed"), ("failed", "failed"), ("excluded", "excluded"), ("long_lived", "long_lived"),
    ("websocket", "websocket"), ("download", "download"), ("analytics", "analytics"), ("timestamp", "timestamp")]

/-- The objects of the parameters, their fields, and the names that these are recorded under. -/
def bridgeObjectFields : List (String × String × String) :=
  [("request", "url", "url"), ("response", "url", "url"), ("frame", "url", "url"), ("request", "method", "method"),
    ("request", "resourceType", "resource_type"), ("response", "status", "status"),
    ("response", "statusText", "status_text")]

def maxFieldBytes : Nat := 4 * 1024

def Json.scalarText : Json -> Option String
  | .string text => some text
  | .int value => some (toString value)
  | .decimal text => some text
  | _ => none

def Json.fieldText : Json -> Option String
  | .bool value => some (if value then "true" else "false")
  | value => value.scalarText

def admissibleText (text : String) : Bool :=
  text != "" && decide (text.utf8ByteSize ≤ maxFieldBytes) && !text.toList.any isControl

-- the texts of the nested objects may have control characters
def admissibleObjectText (text : String) : Bool := text != "" && decide (text.utf8ByteSize ≤ maxFieldBytes)

def fieldTexts (source : Json) : List (String × String) :=
  bridgeFields.filterMap fun field =>
    (((source.get field.1).bind Json.fieldText).filter admissibleText).map fun text => (field.2, text)

def objectTexts (params : Json) : List (String × String) :=
  bridgeObjectFields.filterMap fun field =>
    ((((params.get field.1).bind fun object => object.get field.2.1).bind Json.scalarText).filter
      admissibleObjectText).map fun text => (field.2.2, text)

def recordTexts (result : Table String String) : List (String × String) -> Table String String
  | [] => result
  | (key, text) :: rest => recordTexts (if result.contains key then result else result.insert key text) rest

def waitKind (method : String) : String :=
  if ["Page.frameNavigated", "Page.navigatedWithinDocument", "Page.frameStartedLoading"].contains method then "navigation"
  else if method = "Network.requestWillBeSent" then "request"
  else if method = "Network.responseReceived" then "response"
  else if ["Network.loadingFinished", "Network.loadingFailed"].contains method then "network_finished"
  else if method.startsWith "DOM." then "dom"
  else "debugger"

def navigationKind (method : String) : Option String :=
  if method = "Page.frameNavigated" then some "url"
  else if method = "Page.navigatedWithinDocument" then some "history"
  else if method = "Page.frameStartedLoading" then some "reload"
  else none

def bridgeEventPayload (eventName : String) (eventPayload : Json) : Payload :=
  let nested := (eventPayload.get "params").getD .null
  let result := recordTexts (Table.insert ∅ "reason" eventName) (fieldTexts eventPayload)
  let result := recordTexts result (fieldTexts nested)
  let result := recordTexts result (objectTexts nested)
  let method := (result.get? "method").getD ""
  let result := result.insert "wait_kind" (waitKind method)
  match navigationKind method with
  | some navigation => (result.insert "navigation" navigation).entries
  | none => result.entries

/-- The name of a bridge event, as `apply_bridge_event` reads it. -/
def readEventName (event : Json) : Option String :=
  (event.strAt "event").filter fun name =>
    name != "" && decide (name.utf8ByteSize ≤ 128) && !name.toList.any isControl

def bridgeEventContract (eventName : String) (eventPayload : Json) : Option BridgeEventName :=
  if eventName = "debugger.event" then
    some (.debuggerEvent (eventPayload.strAt "method") ((eventPayload.get "params").bind fun params => params.strAt "method"))
  else if eventName = "debugger.document_changed" then some .documentChanged
  else if ["debugger.target_lost", "page.lost", "page.replaced"].contains eventName then some .targetLost
  else if ["debugger.session_lost", "debugger.detached"].contains eventName then some .sessionLost
  else if eventName = "page.changed" then some .pageChanged
  else if ["page.focus_changed", "tab.observed"].contains eventName then some .observed
  else if ["page.rebound", "page.rebind_required"].contains eventName then some .rebound
  else if ["browser.session_changed", "debugger.mappings_reset", "browser.event_gap"].contains eventName then
    some .connectionChanged
  else if ["log.", "network.", "dialog.", "download.", "trace.", "mock."].any fun start => eventName.startsWith start then
    some .sideState
  else none

end AgentycHost
