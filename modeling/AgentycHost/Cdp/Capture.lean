import AgentycHost.Cdp.Effects

set_option autoImplicit false

/-!
# Captures of a page

A capture advances the version of its page and binds the keys of its elements to
the nodes behind them. The envelope carries the version as its refs epoch too.
-/

namespace AgentycHost

open Shared

structure DomRendering where
  -- `SnapshotDocument::new`, by its hash
  document : List (ElementKey × String) -> Except CoreError ContentHash
  body : List (ElementKey × String) -> String

def cdpMaxSnapshotBytes : Nat := 256 * 1024

section Build

variable (codec : Codec) (rendering : DomRendering) (spaceId : SpaceId) (pageId : PageId)
  (navigationGeneration documentGeneration version : Nat)

def capturedEnvelope (elements : List (ElementKey × String)) (snapshotHash : ContentHash) (truncated : Bool) :
    SnapshotEnvelope where
  spaceId := spaceId
  pageId := pageId
  snapshotVersion := version
  snapshotHash := snapshotHash
  navigationGeneration := navigationGeneration
  documentGeneration := documentGeneration
  refsEpoch := version
  coherent := !truncated
  coverage := if truncated then .partly else .complete
  truncated := truncated
  resyncRequired := false
  frameVersions := [(mainFrame, 1)]
  elementKeys := some (elements.map Prod.fst)
  body := rendering.body elements

/-- The rounds of the loop. What is left of the elements has its last one in front. -/
def fitEnvelope (reversed : List (ElementKey × String)) (truncated : Bool) : Except CoreError SnapshotEnvelope := do
  let snapshotHash <- rendering.document reversed.reverse
  let envelope := capturedEnvelope rendering spaceId pageId navigationGeneration documentGeneration version
    reversed.reverse snapshotHash truncated
  if codec.snapshotBytes envelope ≤ cdpMaxSnapshotBytes then do
    require (codec.envelopeValid envelope) (.invalidArgument "snapshot envelope is invalid")
    pure envelope
  else
    match reversed with
    | [] | [_] => .error (.new .messageTooLarge "logical DOM snapshot exceeds the host byte limit")
    | _ :: rest => fitEnvelope rest true

def buildSnapshotEnvelope (dom : DomSnapshot) : Except CoreError (SnapshotEnvelope × Table ElementKey Int) := do
  let envelope <- fitEnvelope codec rendering spaceId pageId navigationGeneration documentGeneration version
    dom.elements.reverse dom.truncated
  pure (envelope, dom.backendNodes.filter fun key _ => (envelope.elementKeys.getD []).contains key)

end Build

/-- The bridge whose envelopes are built as the source builds them. -/
def CdpConfig.capturing (codec : Codec) (rendering : DomRendering) (boxCenter : Json -> Except CoreError (Int × Int))
    (parseDomSnapshot : Json -> Except CoreError DomSnapshot) : CdpConfig where
  codec := codec
  boxCenter := boxCenter
  parseDomSnapshot := parseDomSnapshot
  buildSnapshotEnvelope := AgentycHost.buildSnapshotEnvelope codec rendering

def NamesNodes (parseDomSnapshot : Json -> Except CoreError DomSnapshot) (turns : List WireTurn) : Prop :=
  ∀ turn id reply dom, turn ∈ turns -> turn.fate id = .answered reply -> parseDomSnapshot reply = .ok dom ->
    ∀ element, element ∈ dom.elements -> dom.backendNodes.contains element.1 = true

section Specs

variable {codec : Codec} {rendering : DomRendering} {spaceId : SpaceId} {pageId : PageId}
  {navigationGeneration documentGeneration version : Nat} {envelope : SnapshotEnvelope} {dom : DomSnapshot}
  {parseDomSnapshot : Json -> Except CoreError DomSnapshot} {boxCenter : Json -> Except CoreError (Int × Int)}

theorem fitEnvelope_ok {reversed : List (ElementKey × String)} {truncated : Bool}
    (fitted : fitEnvelope codec rendering spaceId pageId navigationGeneration documentGeneration version reversed
      truncated = .ok envelope) :
    ∃ elements snapshotHash shortened,
      envelope = capturedEnvelope rendering spaceId pageId navigationGeneration documentGeneration version elements
        snapshotHash shortened ∧
      ∀ element, element ∈ elements -> element ∈ reversed := by
  induction reversed generalizing truncated with
  | nil =>
    unfold fitEnvelope at fitted
    obtain ⟨snapshotHash, _, fitted⟩ := bind_ok.mp fitted
    dsimp only at fitted
    split_ifs at fitted
    · obtain ⟨_, _, done⟩ := bind_ok.mp fitted
      exact ⟨[], snapshotHash, truncated, (pure_ok.mp done).symm, fun _ inside => inside⟩
  | cons element rest ih =>
    unfold fitEnvelope at fitted
    obtain ⟨snapshotHash, _, fitted⟩ := bind_ok.mp fitted
    dsimp only at fitted
    split_ifs at fitted
    · obtain ⟨_, _, done⟩ := bind_ok.mp fitted
      exact ⟨_, snapshotHash, truncated, (pure_ok.mp done).symm, fun _ inside => List.mem_reverse.mp inside⟩
    · cases rest with
      | nil => cases fitted
      | cons second others =>
        obtain ⟨elements, hash, shortened, built, kept⟩ := ih fitted
        exact ⟨elements, hash, shortened, built, fun element inside => List.mem_cons_of_mem _ (kept element inside)⟩

structure CapturedFrom (page : ManagedPage) (spaceId : SpaceId) (pageId : PageId) (envelope : SnapshotEnvelope) : Prop where
  inSpace : envelope.spaceId = spaceId
  ofPage : envelope.pageId = pageId
  version : envelope.snapshotVersion = page.snapshotVersion
  refsEpoch : envelope.refsEpoch = page.snapshotVersion
  navigation : envelope.navigationGeneration = page.navigationGeneration
  document : envelope.documentGeneration = page.documentGeneration
  frames : envelope.frameVersions = [(mainFrame, 1)]
  keys : ∀ keys key, envelope.elementKeys = some keys -> key ∈ keys -> page.backendNodes.contains key = true

theorem buildSnapshotEnvelope_ok {page : ManagedPage} {backendNodes : Table ElementKey Int}
    (binds : ∀ element, element ∈ dom.elements -> dom.backendNodes.contains element.1 = true)
    (built : buildSnapshotEnvelope codec rendering spaceId pageId page.navigationGeneration page.documentGeneration
      version dom = .ok (envelope, backendNodes)) :
    CapturedFrom { page with snapshotVersion := version, backendNodes } spaceId pageId envelope := by
  unfold buildSnapshotEnvelope at built
  obtain ⟨fitted, found, done⟩ := bind_ok.mp built
  obtain ⟨rfl, rfl⟩ := Prod.mk.inj (pure_ok.mp done)
  obtain ⟨elements, hash, shortened, rfl, kept⟩ := fitEnvelope_ok found
  refine ⟨rfl, rfl, rfl, rfl, rfl, rfl, rfl, fun keys key same inside => ?_⟩
  obtain rfl : elements.map Prod.fst = keys := Option.some.inj same
  obtain ⟨element, listed, rfl⟩ := List.mem_map.mp inside
  have bound := binds element (List.mem_reverse.mp (kept element listed))
  obtain ⟨node, found⟩ := Option.isSome_iff_exists.mp bound
  -- the keys of the envelope are the ones that the binding keeps
  simp only [Table.contains, Table.get?_filter, found, capturedEnvelope, Option.getD_some, Option.filter_some,
    List.contains_iff_mem, inside, if_true, Option.isSome_some]

theorem NamesNodes.answered {talk : Talk} {reply : Json} (named : NamesNodes parseDomSnapshot talk.turns)
    (fate : talk.fate = .answered reply) (parsed : parseDomSnapshot reply = .ok dom) (element : ElementKey × String)
    (listed : element ∈ dom.elements) :
    dom.backendNodes.contains element.1 = true := by
  unfold Talk.fate at fate
  cases turns : talk.turns with
  | nil =>
    rw [turns] at fate
    cases fate
  | cons turn rest =>
    rw [turns] at fate
    exact named turn _ reply dom (turns ▸ List.mem_cons_self) fate parsed element listed

structure CaptureTaken (before after : Table PageKey ManagedPage) (spaceId : SpaceId) (pageId : PageId)
    (envelope : SnapshotEnvelope) : Prop where
  captured : ∃ page, after.get? (spaceId, pageId) = some page ∧ CapturedFrom page spaceId pageId envelope
  others : ∀ key, key ≠ (spaceId, pageId) -> after.get? key = before.get? key

theorem captureSnapshotOf_captures (spaceId : SpaceId) (pageId : PageId) (leaseEpoch : LeaseEpoch) (talk : Talk)
    (named : NamesNodes parseDomSnapshot talk.turns) :
    Attempt.Ends (fun outcome later =>
        (∃ error, outcome = .error error) ∧ (later.pages = talk.pages ∨ later.client.usable = false) ∨
        ∃ envelope, outcome = .ok envelope ∧ CaptureTaken talk.pages later.pages spaceId pageId envelope)
      (captureSnapshotOf (.capturing codec rendering boxCenter parseDomSnapshot) spaceId pageId leaseEpoch) talk := by
  unfold captureSnapshotOf
  refine .bind ?_ ?_
  · rintro error _ failed
    obtain rfl := heldPage_error failed
    exact .inl ⟨⟨error, rfl⟩, .inl rfl⟩
  · rintro page _ present
    obtain ⟨held, _, rfl⟩ := heldPage_ok.mp present
    refine .lift_bind (fun error _ => .inl ⟨⟨error, rfl⟩, .inl rfl⟩) fun _ _ => ?_
    have sending : Attempt.Keeps (fun later : Talk => later.pages = talk.pages) _ :=
      sendCommand_pages (.captureSnapshot page.sessionId)
    refine .bind ?_ ?_
    · rintro error _ failed
      obtain ⟨middle, ran, rfl⟩ := Attempt.afterwards_cases failed
      refine .inl ⟨⟨error, rfl⟩, ?_⟩
      obtain same | ⟨lost, _⟩ := middle.invalidated_pages
      · exact .inl (same.trans (sending.ran ran rfl))
      · exact .inr lost
    · rintro reply _ passed
      obtain ⟨middle, ran, rfl⟩ := Attempt.afterwards_cases passed
      have pages := sending.ran ran rfl
      obtain ⟨usable, fate⟩ : middle.client.usable = true ∧ talk.fate = .answered reply := by
        cases sendCommand_end ran with
        | answered _ fate => exact ⟨by simp [Talk.exchange, fate, Fate.keepsConnection], fate⟩
      rw [Talk.invalidatePagesIfClientUnusable, if_pos usable]
      refine .lift_bind (fun error _ => .inl ⟨⟨error, rfl⟩, .inl pages⟩) fun dom parsed =>
        .lift_bind (fun error _ => .inl ⟨⟨error, rfl⟩, .inl pages⟩) fun version _ =>
        .lift_bind (fun error _ => .inl ⟨⟨error, rfl⟩, .inl pages⟩) fun result built => ?_
      obtain ⟨envelope, backendNodes⟩ := result
      unfold Attempt.Ends
      dsimp only
      rw [Attempt.bind_of_ok (changeHeld_held (pages ▸ held))]
      refine .inr ⟨envelope, rfl, ?_, fun key distinct => ?_⟩
      · refine ⟨{ page with snapshotVersion := version, backendNodes }, ?_, ?_⟩
        · dsimp only [Attempt.pure_apply]
          rw [Table.get?_modify_self, pages, held, Option.map_some]
        · exact buildSnapshotEnvelope_ok (named.answered fate parsed) built
      · dsimp only [Attempt.pure_apply]
        rw [Table.get?_modify_ne _ _ _ _ distinct, pages]

theorem serve_snapshot {served : Served} (outside : CdpOutside)
    (leaseEpoch : LeaseEpoch) (bridge : CdpBridgeState) (named : NamesNodes parseDomSnapshot outside.turns)
    (answered : serve (.capturing codec rendering boxCenter parseDomSnapshot) outside
      (.snapshot spaceId pageId leaseEpoch) bridge = served) :
    (∃ error, served.reply = .captured (.error error)) ∧
        (served.bridge.pages = bridge.pages ∨ served.bridge.client.usable = false) ∨
      ∃ envelope, served.reply = .captured (.ok envelope) ∧
        CaptureTaken bridge.pages served.bridge.pages spaceId pageId envelope := by
  have ends : Attempt.Ends _
      (captureSnapshotOf (.capturing codec rendering boxCenter parseDomSnapshot) spaceId pageId leaseEpoch) _ :=
    captureSnapshotOf_captures spaceId pageId leaseEpoch (bridge.talk outside.turns) named
  subst answered
  unfold serve CdpBridgeState.perform
  unfold Attempt.Ends at ends
  dsimp only
  generalize captureSnapshotOf _ spaceId pageId leaseEpoch (bridge.talk outside.turns) = ended at ends
  obtain ⟨outcome, later⟩ := ended
  obtain ⟨⟨error, rfl⟩, kept⟩ | ⟨envelope, rfl, taken⟩ := ends
  · exact .inl ⟨⟨error, rfl⟩, kept⟩
  · exact .inr ⟨envelope, rfl, taken⟩

end Specs

end AgentycHost
