import AgentycHost.Context.Redaction
import AgentycHost.Safety.Patches

set_option autoImplicit false

/-! # What the bodies of an answer show -/

namespace AgentycHost

open Shared

variable {texts : ContextTexts} {tokenizer : Tokenizer} {read : SnapshotRead} {request : ContextRequest}
  {output : ContextOutput} {document : SnapshotDocument} {elements : List SnapshotElement} {selected : SelectedBody}

section Whole

theorem Picked.answers (picked : Picked texts tokenizer read request document elements selected)
    (fits : fitsBudget texts tokenizer request (selectedMetadata read (currentElements read request document).2 selected)
      (some selected.body) = .ok true) :
    ∃ output, buildWithTokenizer texts tokenizer read request = .ok output ∧
      Emitted texts tokenizer request (selectedMetadata read (currentElements read request document).2 selected)
        (some selected.body) output := by
  rw [picked.build, finishOutput, bind_of_ok fits]
  exact emit_fits fits

theorem Emitted.fitted {metadata : ContextMetadata} {body : Option SnapshotBody}
    (emitted : Emitted texts tokenizer request metadata body output) :
    fitsBudget texts tokenizer request metadata body = .ok true := fitsBudget_ok.mpr ⟨_, emitted.measured, emitted.fits⟩

theorem unlimited_fits (metadata : ContextMetadata) (body : Option SnapshotBody) (no_bytes : request.maxSerializedBytes = none)
    (no_tokens : request.tokenBudget = none) : fitsBudget texts unicodeScalars request metadata body = .ok true := by
  simp [fitsBudget, measure, tokenizerCount, unicodeScalars, TokenMetrics.fits, within, no_bytes, no_tokens, bind_ok, Except.mapError]

theorem unfocused_elements (elements : List SnapshotElement) (unfocused : focusRequested request = false) :
    focusedElements read request elements = .ok elements := by
  simp [focusedElements, unfocused]

theorem delta_picked {base : ContextEnvelope} {baseDocument : SnapshotDocument} {body : SnapshotBody}
    (valid : read.envelope.validate = .ok ()) (named : validateTokenizer texts tokenizer request = .ok ())
    (focus : validateFocus read request = .ok ()) (delta : request.mode = .delta) (retained : request.base = some base)
    (usable : baseResyncReason read.envelope base request.deltaLimits = none) (complete : isComplete read.envelope = true)
    (current : currentDocument read.envelope request.base request.redaction request.deltaLimits = .ok document)
    (focused : focusedElements read request (currentElements read request document).1 = .ok elements)
    (redacted : redactedBaseDocument base request.redaction = .ok baseDocument)
    (matching : baseMatches read.envelope base baseDocument = true)
    (built : buildDeltaBody read.envelope base baseDocument document request.deltaLimits = .ok body) :
    Picked texts tokenizer read request document elements ⟨.delta, body, .complete⟩ := by
  have attempt : deltaBody read request document = some (.ok body) := by
    have passed : require (baseMatches read.envelope base baseDocument) ResyncReason.incoherent = .ok () :=
      require_ok.mpr matching
    rw [deltaBody, retained, Option.map_some, deltaAgainst, bind_of_ok (mapError_ok.mpr redacted), bind_of_ok passed]
    exact congrArg some (mapError_ok.mpr built)
  have safe : bodySafe read.envelope = true := by
    simp only [isComplete, Bool.and_eq_true] at complete
    exact complete.1
  refine ⟨valid, named, focus, ?_, ?_, current, focused, ?_, ?_⟩
  · simp [answersFromCache, delta]
  · simp [deltaRefusal, delta, retained, usable]
  · intro _
    rw [attempt]
    rfl
  · simp [selectBody, delta, candidateList, safe, complete, coverageAllowed, bodyCandidates, attempt, Except.toOption]

theorem full_picked (valid : read.envelope.validate = .ok ()) (named : validateTokenizer texts tokenizer request = .ok ())
    (full : request.mode = .full) (focus : validateFocus read request = .ok ())
    (scanned : answersFromCache read request = false) (complete : isComplete read.envelope = true)
    (current : currentDocument read.envelope request.base request.redaction request.deltaLimits = .ok document)
    (focused : focusedElements read request (currentElements read request document).1 = .ok elements) :
    Picked texts tokenizer read request document elements ⟨.full, .elements elements, read.envelope.coverage⟩ := by
  have safe : bodySafe read.envelope = true := by
    simp only [isComplete, Bool.and_eq_true] at complete
    exact complete.1
  refine ⟨valid, named, focus, scanned, ?_, current, focused, ?_, ?_⟩
  · simp [deltaRefusal, full]
  · intro delta
    rw [full] at delta
    cases delta
  · simp [selectBody, full, candidateList, safe, complete, coverageAllowed, bodyCandidates]

end Whole

section Redaction

/-- The request ends in a delta: it is what the selection picks, and it fits. -/
def AnswersDelta (texts : ContextTexts) (tokenizer : Tokenizer) (read : SnapshotRead) (request : ContextRequest) : Prop :=
  ∃ document elements selected, Picked texts tokenizer read request document elements selected ∧
    selected.representation = .delta ∧
    fitsBudget texts tokenizer request (selectedMetadata read (currentElements read request document).2 selected)
      (some selected.body) = .ok true

theorem prefix_clean {policy : RedactionPolicy} {whole kept : List SnapshotElement} (clean : AllClean policy whole)
    (first : kept <+: whole) : AllClean policy kept := fun element inside => clean element (first.subset inside)

theorem answer_clean {body : SnapshotBody} (harmless : AnswersDelta texts tokenizer read request ->
      ¬ CarriesSecret request.redaction read.envelope)
    (built : buildWithTokenizer texts tokenizer read request = .ok output) (shown : output.body = some body) :
    CleanBody request.redaction body := by
  cases build_answered built with
  | metadata emitted =>
    rw [emitted.body_is] at shown
    cases shown
  | marker reason emitted =>
    rw [emitted.body_is] at shown
    obtain rfl := Option.some.inj shown
    trivial
  | whole document elements selected picked emitted =>
    rw [emitted.body_is] at shown
    obtain rfl := Option.some.inj shown
    by_cases kind : selected.representation = .delta
    · exact (picked.delta_clean_iff kind).mpr (harmless ⟨document, elements, selected, picked, kind, emitted.fitted⟩)
    · exact picked.body_clean kind
  | part document elements whole kept selected picked body first emitted =>
    rw [emitted.body_is] at shown
    obtain rfl := Option.some.inj shown
    have kind : selected.representation ≠ .delta := by
      intro kind
      obtain ⟨_, _, _, _, _, _, other, _⟩ := picked.delta_built kind
      rw [body] at other
      cases other
    have clean := picked.body_clean kind
    rw [body] at clean
    exact prefix_clean clean first

end Redaction

section Sample

theorem password_sorted :
    [("password", "hunter2")].Pairwise fun first second => textBefore (id first.1) (id second.1) = true := .cons (by simp) .nil

def secretElement : SnapshotElement where
  key := stayingKey
  parent := none
  kind := .control
  text := none
  attributes := { entries := [("password", "hunter2")], sorted := password_sorted }
  order := 0

def emptyDocument : SnapshotDocument := documentOf 1 []
def secretDocument : SnapshotDocument := documentOf 2 [secretElement]

def secretDelta : SnapshotDelta where
  baseSnapshotVersion := 1
  baseHash := emptyDocument.snapshotHash
  resultSnapshotVersion := 2
  resultHash := secretDocument.snapshotHash
  deltaSequence := 1
  chainDepth := 1
  operations := [.upsert stayingKey secretElement]

def secretEnvelope : ContextEnvelope :=
  { envelopeOf secretDocument with
    mode := .delta
    deltaOrElements := .delta secretDelta
    baseSnapshotVersion := some 1
    baseHash := some emptyDocument.snapshotHash
    deltaSequence := some 1
    operationCount := 1 }

def secretRead : SnapshotRead where
  envelope := secretEnvelope
  cacheState := .fresh
  scanPerformed := true

/-- `ContextRequest::delta`. -/
def deltaRequest (base : ContextEnvelope) : ContextRequest where
  mode := .delta
  base := some base

theorem secretElement_valid : AllValid [secretElement] := by
  intro element inside
  rw [List.mem_singleton.mp inside]
  rfl

theorem emptyDocument_normal : emptyDocument.Normal := documentOf_normal rfl (by simp [AllValid])

theorem secretDocument_normal : secretDocument.Normal := documentOf_normal rfl secretElement_valid

theorem secretEnvelope_valid : secretEnvelope.validate = .ok () := by
  have fields : secretEnvelope.checkFields = .ok () := rfl
  have body : secretEnvelope.checkBody = .ok () := by
    show secretEnvelope.checkDelta secretDelta = .ok ()
    simp only [ContextEnvelope.checkDelta, bind_ok, require_ok, mapError_ok]
    refine ⟨(), ?_, (), rfl, rfl⟩
    simp [secretEnvelope, secretDelta, envelopeOf, secretDocument, documentOf]
  simp only [ContextEnvelope.validate, bind_ok, require_ok]
  exact ⟨(), fields, (), body, rfl⟩

theorem envelopeOf_valid {document : SnapshotDocument} (normal : document.Normal) : (envelopeOf document).validate = .ok () := by
  obtain ⟨bounded, each, _, hash⟩ := SnapshotDocument.validate_ok normal.valid
  have made : SnapshotDocument.make document.snapshotVersion document.elements = .ok document :=
    SnapshotDocument.make_ok.mpr ⟨normal.normal, each, by rw [hash]⟩
  have fields : (envelopeOf document).checkFields = .ok () := rfl
  have body : (envelopeOf document).checkBody = .ok () := by
    show (envelopeOf document).checkElements document.elements = .ok ()
    simp only [ContextEnvelope.checkElements, bind_ok, require_ok, decide_eq_true_eq]
    exact ⟨(), bounded, (), rfl, document, made, (), by simp, (), by simp [envelopeOf], by simp [envelopeOf]⟩
  simp only [ContextEnvelope.validate, bind_ok, require_ok]
  exact ⟨(), fields, (), body, rfl⟩

theorem emptyBase_redacted : redactedBaseDocument (envelopeOf emptyDocument) .default = .ok emptyDocument := by
  simp only [redactedBaseDocument, bind_ok, mapError_ok]
  refine ⟨(), envelopeOf_valid emptyDocument_normal, mapError_ok.mpr (SnapshotDocument.make_ok.mpr ⟨emptyDocument_normal.normal, ?_, rfl⟩)⟩
  intro element inside
  cases inside

theorem secret_current : currentDocument secretEnvelope (some (envelopeOf emptyDocument)) .default .default = .ok secretDocument := by
  have applied : secretDelta.apply emptyDocument .default = .ok secretDocument :=
    SnapshotDelta.apply_ok.mpr ⟨rfl, rfl, rfl, emptyDocument_normal.valid, rfl, _, rfl, secretDocument_normal.normal, rfl, rfl, rfl⟩
  exact currentDocument_delta rfl rfl emptyBase_redacted applied

theorem secret_built : buildDeltaBody secretEnvelope (envelopeOf emptyDocument) emptyDocument secretDocument .default =
    .ok (.delta { secretDelta with chainDepth := 2 }) := rfl

theorem secret_picked (texts : ContextTexts) : Picked texts unicodeScalars secretRead (deltaRequest (envelopeOf emptyDocument))
    secretDocument (currentElements secretRead (deltaRequest (envelopeOf emptyDocument)) secretDocument).1
    ⟨.delta, .delta { secretDelta with chainDepth := 2 }, .complete⟩ := by
  have valid : (envelopeOf emptyDocument).validate.toBool = true := toBool_ok.mpr (envelopeOf_valid emptyDocument_normal)
  have usable : baseResyncReason secretEnvelope (envelopeOf emptyDocument) .default = none := by
    unfold baseResyncReason
    rw [valid]
    rfl
  have matching : baseMatches secretEnvelope (envelopeOf emptyDocument) emptyDocument = true := by
    unfold baseMatches
    exact decide_eq_true ⟨rfl, rfl, rfl, rfl, rfl, rfl, rfl, by decide⟩
  exact delta_picked secretEnvelope_valid rfl rfl rfl rfl usable rfl secret_current (unfocused_elements _ rfl)
    emptyBase_redacted matching secret_built

theorem secretElement_dirty : ¬ CleanElement .default secretElement := by
  intro clean
  have sensitive : RedactionPolicy.default.isSensitive "password" = true := by decide
  have shown : "hunter2" = "[REDACTED]" := clean ("password", "hunter2") (List.mem_singleton.mpr rfl) sensitive
  exact absurd shown (by decide)

theorem password_carried : CarriesSecret .default secretEnvelope :=
  ⟨secretDelta, .upsert stayingKey secretElement, secretElement, rfl, List.mem_singleton.mpr rfl, rfl, secretElement_dirty⟩

def fullRead (document : SnapshotDocument) : SnapshotRead where
  envelope := envelopeOf document
  cacheState := .fresh
  scanPerformed := true

theorem full_read_picked (texts : ContextTexts) {document : SnapshotDocument} (normal : document.Normal)
    (valid : AllValid (document.elements.map (redactElement .default))) :
    Picked texts unicodeScalars (fullRead document) { mode := .full }
      (documentOf document.snapshotVersion (document.elements.map (redactElement .default)))
      (document.elements.map (redactElement .default))
      ⟨.full, .elements (document.elements.map (redactElement .default)), .complete⟩ := by
  have made : SnapshotDocument.make document.snapshotVersion (document.elements.map (redactElement .default)) =
      .ok (documentOf document.snapshotVersion (document.elements.map (redactElement .default))) :=
    SnapshotDocument.make_ok.mpr ⟨normalizeElements_map _ (fun _ => rfl) (fun _ => rfl) normal.normal, valid, rfl⟩
  exact full_picked (envelopeOf_valid normal) rfl rfl rfl rfl rfl (currentDocument_elements rfl made)
    (unfocused_elements _ rfl)

theorem redacted_secret_valid : AllValid ([secretElement].map (redactElement .default)) := by
  intro element inside
  rw [List.mem_singleton.mp inside]
  rfl

theorem plain_clean : AllClean .default secondDocument.elements := by
  intro element inside
  rw [List.mem_singleton.mp inside]
  intro entry listed
  cases listed

theorem plain_redacted_valid : AllValid (secondDocument.elements.map (redactElement .default)) := by
  rw [allClean_iff.mp plain_clean]
  exact (SnapshotDocument.validate_ok secondDocument_normal.valid).2.1

end Sample

section Leak

/-- An upserted password reaches the answer to a delta request. -/
theorem password_shown_in_delta : ∃ read request, ∀ texts, ∃ output body,
    buildContext texts read request = .ok output ∧ output.body = some body ∧ ¬ CleanBody request.redaction body := by
  refine ⟨secretRead, deltaRequest (envelopeOf emptyDocument), fun texts => ?_⟩
  have picked := secret_picked texts
  obtain ⟨output, built, emitted⟩ := picked.answers (unlimited_fits _ _ rfl rfl)
  refine ⟨output, _, built, emitted.body_is, ?_⟩
  rw [picked.delta_clean_iff rfl, not_not]
  exact password_carried

/-- The bodies of an answer are clean exactly when no delta shows what was brought in unredacted. -/
theorem bodies_clean_iff (texts : ContextTexts) (tokenizer : Tokenizer) (read : SnapshotRead) (request : ContextRequest) :
    (∀ output body, buildWithTokenizer texts tokenizer read request = .ok output -> output.body = some body ->
      CleanBody request.redaction body) <->
    ¬ (AnswersDelta texts tokenizer read request ∧ CarriesSecret request.redaction read.envelope) := by
  constructor
  · rintro clean ⟨⟨document, elements, selected, picked, kind, fits⟩, secret⟩
    obtain ⟨output, built, emitted⟩ := picked.answers fits
    exact (picked.delta_clean_iff kind).mp (clean output selected.body built emitted.body_is) secret
  · intro harmless output body built shown
    exact answer_clean (fun delta secret => harmless ⟨delta, secret⟩) built shown

end Leak

section Answer

/-- The result of `snapshot.read`. -/
structure SnapshotAnswer where
  spaceId : SpaceId
  pageId : PageId
  snapshot : ContextEnvelope
  context : ContextOutput
  cacheState : CacheState
  scanPerformed : Bool

/-- The `snapshot.read` arm of `execute_request`, once the broker has read the snapshot. -/
def snapshotReadResult (texts : ContextTexts) (spaceId : SpaceId) (pageId : PageId) (read : SnapshotRead)
    (request : ContextRequest) : Except CoreError SnapshotAnswer := do
  let context <- buildContext texts read request
  pure { spaceId, pageId, snapshot := read.envelope, context, cacheState := read.cacheState, scanPerformed := read.scanPerformed }

def CleanAnswer (policy : RedactionPolicy) (answer : SnapshotAnswer) : Prop :=
  CleanBody policy answer.snapshot.deltaOrElements ∧ ∀ body, answer.context.body = some body -> CleanBody policy body

/-- A full snapshot of a page with a password is returned as it is, next to the redacted context. -/
theorem password_shown_in_snapshot : ∃ spaceId pageId read request, ∀ texts, ∃ answer,
    snapshotReadResult texts spaceId pageId read request = .ok answer ∧ ¬ CleanAnswer request.redaction answer := by
  refine ⟨⟨1⟩, ⟨1⟩, fullRead secretDocument, { mode := .full }, fun texts => ?_⟩
  have picked := full_read_picked texts secretDocument_normal redacted_secret_valid
  obtain ⟨output, built, _⟩ := picked.answers (unlimited_fits _ _ rfl rfl)
  refine ⟨_, bind_ok.mpr ⟨output, built, rfl⟩, ?_⟩
  rintro ⟨clean, _⟩
  exact secretElement_dirty (clean secretElement (List.mem_singleton.mpr rfl))

/-- The answer as a whole is clean exactly when the snapshot that was read is. -/
theorem snapshot_answer_clean_iff (texts : ContextTexts) (spaceId : SpaceId) (pageId : PageId) (read : SnapshotRead)
    (request : ContextRequest) (answer : SnapshotAnswer)
    (answered : snapshotReadResult texts spaceId pageId read request = .ok answer) :
    CleanAnswer request.redaction answer <-> CleanBody request.redaction read.envelope.deltaOrElements := by
  simp only [snapshotReadResult, bind_ok, pure_ok] at answered
  obtain ⟨context, built, rfl⟩ := answered
  constructor
  · intro clean
    exact clean.1
  · intro clean
    refine ⟨clean, fun body shown => answer_clean ?_ built shown⟩
    rintro - ⟨delta, operation, element, carried, inside, carries, dirty⟩
    rw [carried] at clean
    exact dirty (clean operation inside element carries)

theorem snapshot_answer_clean_iff_sample : ∃ read, ∀ texts, ∃ answer,
    snapshotReadResult texts ⟨1⟩ ⟨1⟩ read { mode := .full } = .ok answer ∧ CleanAnswer .default answer := by
  refine ⟨fullRead secondDocument, fun texts => ?_⟩
  have picked := full_read_picked texts secondDocument_normal plain_redacted_valid
  obtain ⟨output, built, _⟩ := picked.answers (unlimited_fits _ _ rfl rfl)
  have answered : snapshotReadResult texts ⟨1⟩ ⟨1⟩ (fullRead secondDocument) { mode := .full } = .ok
      { spaceId := ⟨1⟩, pageId := ⟨1⟩, snapshot := envelopeOf secondDocument, context := output, cacheState := .fresh,
        scanPerformed := true } := bind_ok.mpr ⟨output, built, rfl⟩
  refine ⟨_, answered, (snapshot_answer_clean_iff texts ⟨1⟩ ⟨1⟩ _ _ _ answered).mpr ?_⟩
  exact plain_clean

end Answer

end AgentycHost
