import AgentycHost.Safety.Contexts

set_option autoImplicit false

/-! # When a delta is available -/

namespace AgentycHost

open Shared

variable {texts : ContextTexts} {read : SnapshotRead} {request : ContextRequest} {base : ContextEnvelope}
  {baseElements elements : List SnapshotElement}

section Checked

variable {envelope : ContextEnvelope}

theorem complete_checked (valid : envelope.validate = .ok ()) (complete : envelope.coverage = .complete) :
    envelope.truncated = false ∧ envelope.coherent = true := by
  simp only [ContextEnvelope.validate, ContextEnvelope.checkFields, bind_ok, require_ok] at valid
  obtain ⟨_, ⟨_, _, _, provenance, _, _, _, _, _, _, _, _, _, _, _, _, _, whole, _⟩, _⟩ := valid
  constructor
  · simpa [complete] using whole
  · simpa [SnapshotProvenance.validate, ContextEnvelope.provenance, complete] using provenance

theorem elements_checked (valid : envelope.validate = .ok ()) (body : envelope.deltaOrElements = .elements elements) :
    envelope.resyncReason = none ∧ envelope.resyncRequired = false := by
  simp only [ContextEnvelope.validate, bind_ok] at valid
  obtain ⟨_, _, _, checked, _⟩ := valid
  have listed : envelope.checkElements elements = .ok () := by
    unfold ContextEnvelope.checkBody at checked
    rw [body] at checked
    cases mode : envelope.mode <;> rw [mode] at checked <;> first | exact checked | cases checked
  simp only [ContextEnvelope.checkElements, bind_ok, require_ok] at listed
  obtain ⟨_, _, _, plain, _⟩ := listed
  simp at plain
  exact ⟨plain.1.1.2, plain.2⟩

end Checked

/-- Two full snapshots of one page between which nothing but the content changed. -/
structure DeltaPair (current base : ContextEnvelope) (limits : DeltaLimits) : Prop where
  valid : current.validate = .ok ()
  base_valid : base.validate = .ok ()
  full : current.mode = .full
  base_full : base.mode = .full
  complete : current.coverage = .complete
  base_complete : base.coverage = .complete
  space : current.spaceId = base.spaceId
  page : current.pageId = base.pageId
  navigation : current.navigationGeneration = base.navigationGeneration
  document : current.documentGeneration = base.documentGeneration
  topology : current.topologyVersion = base.topologyVersion
  frames : current.frameVersions = base.frameVersions
  older : base.snapshotVersion < current.snapshotVersion
  near : current.snapshotVersion - base.snapshotVersion ≤ limits.maxChainDepth

theorem DeltaPair.deep {current : ContextEnvelope} {limits : DeltaLimits} (pair : DeltaPair current base limits) :
    1 ≤ limits.maxChainDepth := (Nat.sub_pos_of_lt pair.older).trans_le pair.near

/-- A request for a delta that limits neither the bytes nor the tokens of the answer. -/
structure UnlimitedDelta (request : ContextRequest) (base : ContextEnvelope) : Prop where
  mode : request.mode = .delta
  retained : request.base = some base
  no_bytes : request.maxSerializedBytes = none
  no_tokens : request.tokenBudget = none

/-- The request names the tokenizer that is used, and a focus that is there. -/
structure Answerable (read : SnapshotRead) (request : ContextRequest) (elements : List SnapshotElement) : Prop where
  tokenizer : request.tokenizer.all (fun requested => requested == unicodeScalars.name) = true
  focus : validateFocus read request = .ok ()
  focused : ∃ chosen, focusedElements read request (elements.map (redactElement request.redaction)) = .ok chosen

/-- The base is current, its hash outlasts the redaction, and the replaced values are valid. -/
structure Redactable (base : ContextEnvelope) (policy : RedactionPolicy) (baseElements elements : List SnapshotElement) :
    Prop where
  current : isOutdated base.cacheState = false
  hash : hashElements (baseElements.map (redactElement policy)) = base.snapshotHash
  base_valid : AllValid (baseElements.map (redactElement policy))
  valid : AllValid (elements.map (redactElement policy))

section Available

variable (pair : DeltaPair read.envelope base request.deltaLimits) (body : read.envelope.deltaOrElements = .elements elements)
  (base_body : base.deltaOrElements = .elements baseElements)

include pair body base_body

theorem DeltaPair.usable : baseResyncReason read.envelope base request.deltaLimits = none <-> isOutdated base.cacheState = false := by
  obtain ⟨uncut, coherent⟩ := complete_checked pair.valid pair.complete
  obtain ⟨base_uncut, base_coherent⟩ := complete_checked pair.base_valid pair.base_complete
  have plain := (elements_checked pair.valid body).2
  have base_plain := (elements_checked pair.base_valid base_body).2
  have valid := toBool_ok.mpr pair.base_valid
  have newer : ¬ read.envelope.snapshotVersion ≤ base.snapshotVersion := Nat.not_le.mpr pair.older
  have near : ¬ request.deltaLimits.maxChainDepth < read.envelope.snapshotVersion - base.snapshotVersion :=
    Nat.not_lt.mpr pair.near
  have deep : request.deltaLimits.maxChainDepth ≠ 0 := Nat.pos_iff_ne_zero.mp pair.deep
  have first : currentChainDepth read.envelope = none := by simp [currentChainDepth, body]
  cases outdated : isOutdated base.cacheState <;>
    simp [baseResyncReason, pair.space, pair.page, valid, outdated, base_plain, base_uncut, base_coherent, pair.base_complete,
      pair.base_full, pair.navigation, pair.document, pair.topology, pair.frames, plain, uncut, coherent, newer, near, deep, first]

theorem DeltaPair.builds (texts : ContextTexts) (asked : UnlimitedDelta request base)
    (few : (differences read.envelope.frameVersions read.envelope.frameVersions baseElements elements).length ≤
      request.deltaLimits.maxOperations)
    (answerable : Answerable read request elements) (redactable : Redactable base request.redaction baseElements elements) :
    ∃ output, buildContext texts read request = .ok output ∧ output.metadata.representation = .delta := by
  obtain ⟨uncut, coherent⟩ := complete_checked pair.valid pair.complete
  have plain := (elements_checked pair.valid body).2
  have complete : isComplete read.envelope = true := by simp [isComplete, bodySafe, coherent, uncut, plain, pair.complete]
  have usable := (pair.usable body base_body).mpr redactable.current
  obtain ⟨normal, _, _⟩ := ContextEnvelope.elements_normal pair.valid body
  obtain ⟨base_normal, _, _⟩ := ContextEnvelope.elements_normal pair.base_valid base_body
  -- both documents exist once their redacted elements are valid
  let document := documentOf read.envelope.snapshotVersion (elements.map (redactElement request.redaction))
  let baseDocument := documentOf base.snapshotVersion (baseElements.map (redactElement request.redaction))
  have made : SnapshotDocument.make read.envelope.snapshotVersion (elements.map (redactElement request.redaction)) = .ok document :=
    SnapshotDocument.make_ok.mpr ⟨normalizeElements_map _ (fun _ => rfl) (fun _ => rfl) normal, redactable.valid, rfl⟩
  have redacted : redactedBaseDocument base request.redaction = .ok baseDocument :=
    redactedBaseDocument_elements pair.base_valid base_body (SnapshotDocument.make_ok.mpr
      ⟨normalizeElements_map _ (fun _ => rfl) (fun _ => rfl) base_normal, redactable.base_valid, rfl⟩)
  have matching : baseMatches read.envelope base baseDocument = true :=
    decide_eq_true ⟨pair.space.symm, pair.page.symm, redactable.hash.symm, pair.navigation.symm, pair.document.symm,
      pair.topology.symm, pair.frames.symm, pair.older⟩
  have unique := (normalizeElements_ok.mp normal).2.2.1
  have base_unique := (normalizeElements_ok.mp base_normal).2.2.1
  have fewer := (differences_map_length read.envelope.frameVersions (redactElement request.redaction) (fun _ => rfl)
    base_unique unique).trans few
  have first : currentChainDepth read.envelope = none := by simp [currentChainDepth, body]
  obtain ⟨delta, built⟩ : ∃ delta, buildDeltaBody read.envelope base baseDocument document request.deltaLimits = .ok delta :=
    buildDeltaBody_exists (SnapshotDocument.make_normal made) pair.frames.symm pair.older first pair.deep fewer
  have named : validateTokenizer texts unicodeScalars request = .ok () := require_ok.mpr answerable.tokenizer
  have listed : (currentElements read request document).1 = elements.map (redactElement request.redaction) := by
    simp only [currentElements, body, redactElements]
  obtain ⟨chosen, focused⟩ := answerable.focused
  have picked := delta_picked pair.valid named answerable.focus asked.mode asked.retained usable complete
    (currentDocument_elements body made) (listed ▸ focused) redacted matching built
  obtain ⟨output, ran, emitted⟩ := picked.answers (unlimited_fits _ _ asked.no_bytes asked.no_tokens)
  refine ⟨output, ran, ?_⟩
  rw [emitted.metadata_is]
  simp [selectedMetadata, makeMetadata, pair.complete]

theorem DeltaPair.built_delta (asked : UnlimitedDelta request base) {output : ContextOutput}
    (built : buildContext texts read request = .ok output) (delta : output.metadata.representation = .delta) :
    Answerable read request elements ∧ Redactable base request.redaction baseElements elements := by
  have kept (redacted : Bool) (selected : SelectedBody) :
      (selectedMetadata read redacted selected).representation = selected.representation := by
    unfold selectedMetadata
    split <;> rfl
  obtain ⟨document, elements', selected, picked, kind⟩ : ∃ document elements selected,
      Picked texts unicodeScalars read request document elements selected ∧ selected.representation = .delta := by
    cases build_answered built with
    | metadata emitted =>
      rw [emitted.metadata_is] at delta
      cases delta
    | marker reason emitted =>
      rw [emitted.metadata_is] at delta
      cases delta
    | whole document elements selected picked emitted =>
      rw [emitted.metadata_is, kept] at delta
      exact ⟨document, elements, selected, picked, delta⟩
    | part document elements whole shown selected picked _ _ emitted =>
      rw [emitted.metadata_is] at delta
      exact ⟨document, elements, selected, picked, (kept _ _).symm.trans delta⟩
  cases selectBody_some picked.chosen with
  | full other => cases kind.symm.trans other
  | compact other => cases kind.symm.trans other
  | focus other => cases kind.symm.trans other
  | delta _ candidate =>
    obtain ⟨base', baseDocument, retained, redacted, matching, _⟩ := candidate_delta candidate
    obtain rfl : base = base' := by simpa [asked.retained] using retained
    obtain ⟨normal, _, _, baseElements', base_body', same⟩ := redactedBaseDocument_ok redacted
    obtain rfl : baseElements = baseElements' := by simpa [base_body] using base_body'
    obtain ⟨current_normal, source⟩ := currentDocument_ok picked.valid picked.current
    have hash : base.snapshotHash = baseDocument.snapshotHash := (of_decide_eq_true matching).2.2.1
    have accepted := picked.accepted
    simp only [deltaRefusal, asked.mode, asked.retained, if_true, Option.map_eq_none_iff] at accepted
    have listed : (currentElements read request document).1 = elements.map (redactElement request.redaction) := by
      simp only [currentElements, body, redactElements]
    refine ⟨⟨require_ok.mp picked.tokenizer_named, picked.focus, _, listed ▸ picked.focused⟩,
      (pair.usable body base_body).mp accepted, ?_, ?_, ?_⟩
    · rw [hash, ← same]
      exact (SnapshotDocument.validate_ok normal.valid).2.2.2
    · rw [← same]
      exact (SnapshotDocument.validate_ok normal.valid).2.1
    · cases source with
      | elements elements' body' same' =>
        obtain rfl : elements = elements' := by simpa [body] using body'
        rw [← same']
        exact (SnapshotDocument.validate_ok current_normal.valid).2.1
      | delta _ _ _ body' =>
        rw [body] at body'
        cases body'

end Available

section Sample

def olderSecretDocument : SnapshotDocument := documentOf 1 [secretElement]

theorem olderSecretDocument_normal : olderSecretDocument.Normal := documentOf_normal rfl secretElement_valid

theorem captured_pair {first second : SnapshotDocument} (first_normal : first.Normal) (second_normal : second.Normal)
    (older : first.snapshotVersion = 1) (newer : second.snapshotVersion = 2) :
    DeltaPair (fullRead second).envelope (envelopeOf first) .default where
  valid := envelopeOf_valid second_normal
  base_valid := envelopeOf_valid first_normal
  full := rfl
  base_full := rfl
  complete := rfl
  base_complete := rfl
  space := rfl
  page := rfl
  navigation := rfl
  document := rfl
  topology := rfl
  frames := rfl
  older := by
    show first.snapshotVersion < second.snapshotVersion
    rw [older, newer]
    decide
  near := by
    show second.snapshotVersion - first.snapshotVersion ≤ _
    rw [older, newer]
    decide

theorem deltaRequest_unlimited (base : ContextEnvelope) : UnlimitedDelta (deltaRequest base) base := ⟨rfl, rfl, rfl, rfl⟩

theorem redacted_secret_hash :
    hashElements (olderSecretDocument.elements.map (redactElement .default)) ≠ olderSecretDocument.snapshotHash := by
  decide +kernel

end Sample

/-- A page with a password and nothing changed: the delta is refused. -/
theorem password_ends_deltas : ∃ read request base elements baseElements,
    DeltaPair read.envelope base request.deltaLimits ∧ UnlimitedDelta request base ∧
    read.envelope.deltaOrElements = .elements elements ∧ base.deltaOrElements = .elements baseElements ∧
    (differences read.envelope.frameVersions read.envelope.frameVersions baseElements elements).length ≤
      request.deltaLimits.maxOperations ∧
    ∀ texts, ¬ ∃ output, buildContext texts read request = .ok output ∧ output.metadata.representation = .delta := by
  have pair := captured_pair olderSecretDocument_normal secretDocument_normal rfl rfl
  refine ⟨fullRead secretDocument, deltaRequest (envelopeOf olderSecretDocument), envelopeOf olderSecretDocument, _, _, pair,
    deltaRequest_unlimited _, rfl, rfl, ?_, ?_⟩
  · rw [show secretDocument.elements = olderSecretDocument.elements from rfl, differences_self]
    exact Nat.zero_le _
  · rintro texts ⟨output, built, delta⟩
    obtain ⟨_, redactable⟩ := pair.built_delta rfl rfl (deltaRequest_unlimited _) built delta
    exact redacted_secret_hash redactable.hash

/-- A delta is available exactly when the base outlasts its redaction and the request can be answered at all. -/
theorem delta_available_iff (texts : ContextTexts) (read : SnapshotRead) (request : ContextRequest) (base : ContextEnvelope)
    (elements baseElements : List SnapshotElement) (pair : DeltaPair read.envelope base request.deltaLimits)
    (asked : UnlimitedDelta request base) (body : read.envelope.deltaOrElements = .elements elements)
    (base_body : base.deltaOrElements = .elements baseElements)
    (few : (differences read.envelope.frameVersions read.envelope.frameVersions baseElements elements).length ≤
      request.deltaLimits.maxOperations) :
    (∃ output, buildContext texts read request = .ok output ∧ output.metadata.representation = .delta) <->
      Answerable read request elements ∧ Redactable base request.redaction baseElements elements := by
  constructor
  · rintro ⟨output, built, delta⟩
    exact pair.built_delta body base_body asked built delta
  · rintro ⟨answerable, redactable⟩
    exact pair.builds body base_body texts asked few answerable redactable

theorem delta_available_iff_sample : ∃ read request, ∀ texts, ∃ output,
    buildContext texts read request = .ok output ∧ output.metadata.representation = .delta := by
  refine ⟨fullRead secondDocument, deltaRequest (envelopeOf firstDocument), fun texts => ?_⟩
  have first_clean : AllClean .default firstDocument.elements := by
    intro element inside
    rcases List.mem_pair.mp inside with rfl | rfl <;> intro entry listed <;> cases listed
  have redacted : firstDocument.elements.map (redactElement .default) = firstDocument.elements := allClean_iff.mp first_clean
  refine (delta_available_iff texts (fullRead secondDocument) (deltaRequest (envelopeOf firstDocument))
    (envelopeOf firstDocument) secondDocument.elements firstDocument.elements
    (captured_pair firstDocument_normal secondDocument_normal rfl rfl) (deltaRequest_unlimited _) rfl rfl ?_).mpr
    ⟨⟨rfl, rfl, _, unfocused_elements _ rfl⟩, rfl, ?_, ?_, plain_redacted_valid⟩
  · decide
  · exact congrArg hashElements redacted
  · show AllValid (firstDocument.elements.map (redactElement .default))
    rw [redacted]
    exact (SnapshotDocument.validate_ok firstDocument_normal.valid).2.1

end AgentycHost
