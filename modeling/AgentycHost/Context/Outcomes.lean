import AgentycHost.Context.Builder

set_option autoImplicit false

/-!
# What a built context can be

An answer is metadata alone, a marker, a selected body or the first elements of
one. Each is measured before it is returned.
-/

namespace AgentycHost

open Shared

variable {texts : ContextTexts} {tokenizer : Tokenizer} {read : SnapshotRead} {request : ContextRequest}
  {output : ContextOutput}

section Emit

variable {metadata : ContextMetadata} {body : Option SnapshotBody} {otherwise : Except CoreError ContextOutput}

structure Emitted (texts : ContextTexts) (tokenizer : Tokenizer) (request : ContextRequest) (metadata : ContextMetadata)
    (body : Option SnapshotBody) (output : ContextOutput) : Prop where
  metadata_is : output.metadata = metadata
  body_is : output.body = body
  measured : measure texts tokenizer request metadata body = .ok output.metrics
  fits : output.metrics.fits request = true

theorem fitsBudget_ok {fits : Bool} : fitsBudget texts tokenizer request metadata body = .ok fits <->
    ∃ metrics, measure texts tokenizer request metadata body = .ok metrics ∧ metrics.fits request = fits := by
  simp only [fitsBudget, bind_ok, pure_ok]

theorem emit_ok (emitted : emit texts tokenizer request metadata body otherwise = .ok output) :
    Emitted texts tokenizer request metadata body output ∨
      (fitsBudget texts tokenizer request metadata body = .ok false ∧ otherwise = .ok output) := by
  simp only [emit, bind_ok] at emitted
  obtain ⟨fits, fitted, rest⟩ := emitted
  cases fits with
  | true =>
    simp only [if_true, bind_ok, pure_ok] at rest
    obtain ⟨metrics, measured, rfl⟩ := rest
    obtain ⟨metrics', measured', fits⟩ := fitsBudget_ok.mp fitted
    obtain rfl : metrics = metrics' := by simpa [measured] using measured'
    exact .inl ⟨rfl, rfl, measured, fits⟩
  | false => exact .inr ⟨fitted, rest⟩

theorem emit_fits (fits : fitsBudget texts tokenizer request metadata body = .ok true) :
    ∃ output, emit texts tokenizer request metadata body otherwise = .ok output ∧
      Emitted texts tokenizer request metadata body output := by
  obtain ⟨metrics, measured, within⟩ := fitsBudget_ok.mp fits
  refine ⟨{ metadata, body, metrics }, ?_, rfl, rfl, measured, within⟩
  rw [emit, bind_of_ok fits, if_pos rfl, bind_of_ok measured]
  rfl

end Emit

section Pick

structure Picked (texts : ContextTexts) (tokenizer : Tokenizer) (read : SnapshotRead) (request : ContextRequest)
    (document : SnapshotDocument) (elements : List SnapshotElement) (selected : SelectedBody) : Prop where
  valid : read.envelope.validate = .ok ()
  tokenizer_named : validateTokenizer texts tokenizer request = .ok ()
  focus : validateFocus read request = .ok ()
  scanned : answersFromCache read request = false
  accepted : deltaRefusal read request = none
  current : currentDocument read.envelope request.base request.redaction request.deltaLimits = .ok document
  focused : focusedElements read request (currentElements read request document).1 = .ok elements
  built : request.mode = .delta -> failedDelta (deltaBody read request document) = none
  chosen : selectBody texts request read.envelope (bodyCandidates read request document elements) = some selected

variable {document : SnapshotDocument} {elements : List SnapshotElement} {selected : SelectedBody}

theorem Picked.build (picked : Picked texts tokenizer read request document elements selected) :
    buildWithTokenizer texts tokenizer read request =
      finishOutput texts tokenizer read request (currentElements read request document).2 selected := by
  have no_failure : (if request.mode = .delta then failedDelta (deltaBody read request document) else none) = none := by
    split
    next delta => exact picked.built delta
    next => rfl
  rw [buildWithTokenizer, bind_of_ok (mapError_ok.mpr picked.valid), bind_of_ok picked.tokenizer_named,
    bind_of_ok picked.focus, picked.scanned, if_neg Bool.false_ne_true, picked.accepted]
  simp only
  rw [bodyOutput, picked.current]
  simp only
  rw [documentOutput, bind_of_ok picked.focused, no_failure]
  simp only
  rw [picked.chosen]

end Pick

section Inversion

inductive ContextAnswer (texts : ContextTexts) (tokenizer : Tokenizer) (read : SnapshotRead) (request : ContextRequest)
    (output : ContextOutput) : Prop where
  | metadata (emitted : Emitted texts tokenizer request
      { makeMetadata read read.envelope.coverage .metadata with cleanCache := true } none output)
  | marker (reason : ResyncReason) (emitted : Emitted texts tokenizer request
      { makeMetadata read .partly .resync with resyncRequired := true, resyncReason := some reason }
      (some (.resync reason)) output)
  | whole (document : SnapshotDocument) (elements : List SnapshotElement) (selected : SelectedBody)
      (picked : Picked texts tokenizer read request document elements selected)
      (emitted : Emitted texts tokenizer request (selectedMetadata read (currentElements read request document).2 selected)
        (some selected.body) output)
  | part (document : SnapshotDocument) (elements whole kept : List SnapshotElement) (selected : SelectedBody)
      (picked : Picked texts tokenizer read request document elements selected)
      (body : selected.body = .elements whole) (first : kept <+: whole)
      (emitted : Emitted texts tokenizer request
        (markTruncated (selectedMetadata read (currentElements read request document).2 selected))
        (some (.elements kept)) output)

theorem popUntil_first (limit rounds : Nat) (elements : List SnapshotElement) :
    popUntil texts limit rounds elements <+: elements := by
  induction rounds generalizing elements with
  | zero => exact List.prefix_rfl
  | succ rounds ih =>
    rw [popUntil]
    split
    next => exact List.prefix_rfl
    next => exact (ih _).trans (List.dropLast_prefix _)

theorem truncateElements_first (elements : List SnapshotElement) : truncateElements texts request elements <+: elements := by
  unfold truncateElements
  split
  next => exact List.nil_prefix
  next => exact popUntil_first _ _ _

theorem metadataOnly_ok (answered : metadataOnly texts tokenizer read request = .ok output) :
    ContextAnswer texts tokenizer read request output := by
  rcases emit_ok answered with emitted | ⟨_, impossible⟩
  · exact .metadata emitted
  · cases impossible

theorem resyncOr_ok {reason : ResyncReason} {error : CoreError}
    (answered : resyncOr texts tokenizer read request reason error = .ok output) :
    ContextAnswer texts tokenizer read request output := by
  unfold resyncOr at answered
  split at answered
  next =>
    rcases emit_ok answered with emitted | ⟨_, impossible⟩
    · exact .marker reason emitted
    · cases impossible
  next => cases answered

theorem finishOutput_ok {document : SnapshotDocument} {elements : List SnapshotElement} {selected : SelectedBody}
    (picked : Picked texts tokenizer read request document elements selected)
    (answered : finishOutput texts tokenizer read request (currentElements read request document).2 selected = .ok output) :
    ContextAnswer texts tokenizer read request output := by
  simp only [finishOutput, bind_ok] at answered
  obtain ⟨fits, fitted, answered⟩ := answered
  rcases emit_ok answered with emitted | ⟨_, marked⟩
  · cases fits with
    | true => exact .whole document elements selected picked emitted
    | false =>
      cases kind : selected.body with
      | elements whole =>
        simp only [Bool.false_eq_true, if_false, kind, cut] at emitted
        by_cases shorter : (truncateElements texts request whole).length < whole.length
        · rw [if_pos shorter] at emitted
          exact .part document elements whole _ selected picked kind (truncateElements_first whole) emitted
        · -- what was not cut is what did not fit
          have same := (truncateElements_first whole).eq_of_length_le (Nat.not_lt.mp shorter)
          rw [if_neg shorter, same, ← kind] at emitted
          exact .whole document elements selected picked emitted
      | delta delta =>
        simp only [Bool.false_eq_true, if_false, kind, cut] at emitted
        exact .whole document elements selected picked (kind ▸ emitted)
      | resync reason =>
        simp only [Bool.false_eq_true, if_false, kind, cut] at emitted
        exact .whole document elements selected picked (kind ▸ emitted)
  · exact resyncOr_ok marked

theorem build_answered (built : buildWithTokenizer texts tokenizer read request = .ok output) :
    ContextAnswer texts tokenizer read request output := by
  simp only [buildWithTokenizer, bind_ok, mapError_ok] at built
  obtain ⟨_, valid, _, tokenizer_named, _, focus, built⟩ := built
  split at built
  next =>
    unfold cachedOutput at built
    split at built
    next =>
      split at built
      next =>
        obtain ⟨_, _, answered⟩ := bind_ok.mp built
        exact metadataOnly_ok answered
      next => cases built
      next => cases built
    next => exact metadataOnly_ok built
  next scanned =>
    split at built
    next => exact resyncOr_ok built
    next accepted =>
      unfold bodyOutput at built
      split at built
      next document current =>
        simp only [documentOutput, bind_ok] at built
        obtain ⟨elements, focused, built⟩ := built
        split at built
        next => exact resyncOr_ok built
        next no_failure =>
          split at built
          next selected chosen =>
            refine finishOutput_ok ⟨valid, tokenizer_named, focus, ?_, accepted, current, focused, ?_, chosen⟩ built
            · simpa using scanned
            · intro delta
              simpa [delta] using no_failure
          next => exact resyncOr_ok built
      next => exact resyncOr_ok built

theorem answer_within (built : buildWithTokenizer texts tokenizer read request = .ok output) :
    output.metrics.fits request = true := by
  cases build_answered built with
  | metadata emitted => exact emitted.fits
  | marker _ emitted => exact emitted.fits
  | whole _ _ _ _ emitted => exact emitted.fits
  | part _ _ _ _ _ _ _ _ emitted => exact emitted.fits

end Inversion

end AgentycHost
