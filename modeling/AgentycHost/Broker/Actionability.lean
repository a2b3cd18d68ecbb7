import AgentycHost.Broker.Refs

set_option autoImplicit false

/-!
# Actionability

The evidence that comes with an element mutation, checked against the page, the
snapshot and the registry of references.
-/

namespace AgentycHost

open Shared

inductive ActionKind where
  | click
  | input
  | scroll
  | navigate
  | evaluate
  | close
  deriving DecidableEq

def ActionOperation.kind : ActionOperation -> ActionKind
  | .click => .click
  | .input => .input
  | .scroll => .scroll
  | .navigate => .navigate
  | .close => .close
  | .evaluate | .wait | .screenshot | .storageWrite | .cookieWrite | .upload => .evaluate

def requiresElementActionability : ActionOperation -> Bool
  | .click | .input | .upload => true
  | _ => false

structure ActionabilityInput where
  elementRef : ElementRef
  provenance : SnapshotProvenance
  frameId : FrameId
  evidence : ActionabilityEvidence
  deriving DecidableEq

def payloadField (payload : Payload) (key : String) : Option String :=
  (payload.find? fun entry => entry.1 == key).map Prod.snd

def parsePayloadJson {A : Type} (parse : String -> Option A) (payload : Payload) (key : String) :
    Except CoreError A := do
  let value <- orElse (payloadField payload key)
    (.invalidArgument ("action payload field " ++ key ++ " is required"))
  require (boundedText value 65536)
    (.invalidArgument ("action payload field " ++ key ++ " is invalid or too large"))
  orElse (parse value) (.invalidArgument ("action payload field " ++ key ++ " is not valid JSON"))

theorem parsePayloadJson_ok {A : Type} {parse : String -> Option A} {payload : Payload} {key : String} {value : A} :
    parsePayloadJson parse payload key = .ok value <->
      ∃ text, payloadField payload key = some text ∧ boundedText text 65536 = true ∧ parse text = some value := by
  simp only [parsePayloadJson, bind_ok, require_ok, orElse_ok]
  constructor
  · rintro ⟨text, given, _, bounded, parsed⟩
    exact ⟨text, given, bounded, parsed⟩
  · rintro ⟨text, given, bounded, parsed⟩
    exact ⟨text, given, (), bounded, parsed⟩

def firstOk {A : Type} (first second : Except CoreError A) : Except CoreError A :=
  match first with
  | .ok value => .ok value
  | .error _ => second

def parseFrameId (text : String) : Option FrameId :=
  if valid : (validateIdentifier "frame_" ((text.drop 6).copy) && text.startsWith "frame_") = true then
    some ⟨(text.drop 6).copy, by simp only [Bool.and_eq_true] at valid; exact valid.1⟩
  else none

def hasActionabilityInput (payload : Payload) : Bool :=
  ["element_ref", "ref", "provenance", "actionability_evidence", "evidence", "frame_scope"].any fun key =>
    (payloadField payload key).isSome

def ActionabilityInput.fromPayload (codec : Codec) (payload : Payload) :
    Except CoreError (Option ActionabilityInput) :=
  if !hasActionabilityInput payload then .ok none
  else do
    let elementRef <- firstOk (parsePayloadJson codec.parseElementRef payload "element_ref")
      (parsePayloadJson codec.parseElementRef payload "ref")
    let provenance <- parsePayloadJson codec.parseProvenance payload "provenance"
    let evidence <- firstOk (parsePayloadJson codec.parseEvidence payload "actionability_evidence")
      (parsePayloadJson codec.parseEvidence payload "evidence")
    let frameId <- match payloadField payload "frame_scope" with
      | none => pure elementRef.frameId
      | some text => orElse (parseFrameId text) (.staleRef "invalid logical frame scope")
    require (elementRef.frameId == frameId)
      (.staleRef "action ref frame does not match the requested logical frame scope")
    pure (some { elementRef, provenance, frameId, evidence })

def requireProven (value : Option Bool) (message : String) : Except CoreError Unit :=
  require (value == some true) (.new .permissionDenied message)

def checkActionability (action : ActionKind) (input : ActionabilityInput) : Except CoreError Unit := do
  let { elementRef, provenance, frameId, evidence } := input
  require (elementRef.frameId == frameId)
    (.staleRef "action ref frame does not match the exact requested frame")
  elementRef.validateAgainst provenance
  require (evidence.navigationGeneration == some provenance.navigationGeneration &&
      evidence.documentGeneration == some provenance.documentGeneration &&
      evidence.snapshotHash == some provenance.snapshotHash)
    (.new .targetReplaced "actionability evidence is not bound to current snapshot provenance")
  require (evidence.userControl == some false)
    (.new (if evidence.userControl == some true then .userControlRequired else .permissionDenied)
      "user-control ownership is not proven safe")
  requireProven evidence.connected "connected element evidence is missing or false"
  requireProven evidence.visible "visible element evidence is missing or false"
  requireProven (evidence.disabled.map not) "enabled element evidence is missing or false"
  if action = .input then
    requireProven (evidence.readonly.map not) "editable element evidence is missing or false"
  else .ok ()
  requireProven (evidence.moving.map not) "stable layout evidence is missing or false"
  requireProven (evidence.offscreen.map not) "in-viewport evidence is missing or false"
  if action = .click then do
    requireProven (evidence.covered.map not) "uncovered hit point is not proven"
    requireProven (evidence.overlayPresent.map not) "overlay-free hit point is not proven"
    requireProven evidence.hitTarget "hit-target evidence is missing or false"
  else .ok ()

def ActionabilityInput.validateForPage (input : ActionabilityInput) (operation : ActionOperation)
    (page : PageDescriptor) (currentSnapshotHash : ContentHash) : Except CoreError Unit := do
  require (input.elementRef.spaceId == page.spaceId && input.provenance.spaceId == page.spaceId)
    (.staleRef "action ref provenance does not match the current logical space")
  require (input.elementRef.pageId == page.pageId && input.provenance.pageId == page.pageId)
    (.staleRef "action ref provenance does not match the current logical page")
  require (input.provenance.navigationGeneration == page.navigationGeneration &&
      input.provenance.documentGeneration == page.documentGeneration &&
      input.elementRef.navigationGeneration == page.navigationGeneration &&
      input.elementRef.documentGeneration == page.documentGeneration)
    (.new .targetReplaced "action ref is bound to an older page generation")
  require (currentSnapshotHash == input.provenance.snapshotHash)
    (.new .targetReplaced "action ref is bound to an older snapshot")
  require (input.evidence.targetGeneration == some page.targetGeneration)
    (.new .targetReplaced "actionability evidence is not bound to the current target generation")
  checkActionability operation.kind input

/-- The checks that need no registry; `none` is a request without evidence. -/
def evidenceForState (codec : Codec) (state : LedgerState) (request : ActionRequest) :
    Except CoreError (Option ActionabilityInput) := do
  let input <- ActionabilityInput.fromPayload codec request.payload
  match input with
  | none =>
      require (!requiresElementActionability request.operation)
        (.invalidArgument
          "element mutation requires a complete ref, provenance, frame, and actionability proof")
      pure none
  | some input =>
      let pageId <- orElse request.pageId
        (.invalidArgument "typed actionability evidence requires a logical page")
      let page <- orElse (state.page request.spaceId pageId) (.new .pageNotFound "logical page not found")
      let snapshot <- orElse (state.snapshot request.spaceId pageId)
        (.staleRef "a current snapshot is required for action dispatch")
      input.validateForPage request.operation page snapshot.envelope.snapshotHash
      pure (some input)

abbrev RefTransition (A : Type) := RefRegistry -> LedgerState -> RefRegistry × Except HostError (A × LedgerState)

def validateActionabilityForState (codec : Codec) (registry : RefRegistry) (state : LedgerState)
    (request : ActionRequest) (now : Timestamp) : RefRegistry × Except CoreError Unit :=
  match evidenceForState codec state request with
  | .error error => (registry, .error error)
  | .ok none => (registry, .ok ())
  | .ok (some input) =>
      match registry.resolveRef input.elementRef input.frameId input.provenance now with
      | (registry, .error error) => (registry, .error error)
      | (registry, .ok ()) => (registry, checkActionability request.operation.kind input)

end AgentycHost
