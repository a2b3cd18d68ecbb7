import AgentycHost.Safety.Contexts
import AgentycHost.Safety.Focusing

set_option autoImplicit false

/-! # Complete answers -/

namespace AgentycHost

open Shared

variable {texts : ContextTexts} {tokenizer : Tokenizer} {read : SnapshotRead} {request : ContextRequest}
  {output : ContextOutput} {document : SnapshotDocument} {elements : List SnapshotElement} {selected : SelectedBody}

section Snapshot

/-- The elements that a snapshot stands for: its own, or those that its delta makes of the base. -/
inductive SnapshotOf (envelope : ContextEnvelope) (base : Option ContextEnvelope) (snapshot : List SnapshotElement) : Prop where
  | elements (body : envelope.deltaOrElements = .elements snapshot)
  | delta (delta : SnapshotDelta) (baseEnvelope : ContextEnvelope) (before patched : List SnapshotElement)
      (body : envelope.deltaOrElements = .delta delta) (retained : base = some baseEnvelope)
      (base_body : baseEnvelope.deltaOrElements = .elements before)
      (folded : delta.operations.foldlM (fun elements operation => operation.apply elements) before = .ok patched)
      (normal : normalizeElements patched = .ok snapshot)

theorem SnapshotOf.unique {envelope : ContextEnvelope} {base : Option ContextEnvelope} {one other : List SnapshotElement}
    (first : SnapshotOf envelope base one) (second : SnapshotOf envelope base other) : one = other := by
  cases first with
  | elements body =>
    cases second with
    | elements body' => simpa [body] using body'
    | delta _ _ _ _ body' => cases body.symm.trans body'
  | delta delta baseEnvelope before patched body retained base_body folded normal =>
    cases second with
    | elements body' => cases body.symm.trans body'
    | delta delta' baseEnvelope' before' patched' body' retained' base_body' folded' normal' =>
      obtain rfl : delta = delta' := by simpa [body] using body'
      obtain rfl : baseEnvelope = baseEnvelope' := by simpa [retained] using retained'
      obtain rfl : before = before' := by simpa [base_body] using base_body'
      obtain rfl : patched = patched' := by simpa [folded] using folded'
      simpa [normal] using normal'

theorem redactElement_twice (policy : RedactionPolicy) (element : SnapshotElement) :
    redactElement policy (redactElement policy element) = redactElement policy element :=
  redactElement_of_clean redactElement_clean

theorem snapshot_listed (valid : read.envelope.validate = .ok ())
    (current : currentDocument read.envelope request.base request.redaction request.deltaLimits = .ok document) :
    ∃ snapshot, SnapshotOf read.envelope request.base snapshot ∧
      (currentElements read request document).1 = snapshot.map (redactElement request.redaction) ∧
      document.elements.map (redactElement request.redaction) = snapshot.map (redactElement request.redaction) := by
  obtain ⟨_, source⟩ := currentDocument_ok valid current
  cases source with
  | elements elements body redacted =>
    refine ⟨elements, .elements body, by simp only [currentElements, body, redactElements], ?_⟩
    rw [redacted, List.map_map]
    exact List.map_congr_left fun element _ => redactElement_twice _ element
  | delta delta baseEnvelope baseDocument body retained redacted applied =>
    obtain ⟨_, _, _, before, base_body, base_redacted⟩ := redactedBaseDocument_ok redacted
    obtain ⟨_, _, _, _, _, elements, folded, normal, _⟩ := SnapshotDelta.apply_ok.mp applied
    -- redacting every operation makes both runs one
    have plain := foldlM_mapElement (fun element => redactElement_key request.redaction element) (fun _ _ => rfl)
      delta.operations before
    have again := foldlM_mapElement (fun element => redactElement_key request.redaction element) (fun _ _ => rfl)
      delta.operations baseDocument.elements
    have same : (before.map (redactElement request.redaction)).map (redactElement request.redaction) =
        before.map (redactElement request.redaction) := by
      rw [List.map_map]
      exact List.map_congr_left fun element _ => redactElement_twice _ element
    rw [base_redacted, same, ← base_redacted, folded] at again
    rw [base_redacted] at again
    rw [again] at plain
    cases patched : delta.operations.foldlM (fun elements operation => operation.apply elements) before with
    | error failure =>
      rw [patched] at plain
      cases plain
    | ok raw =>
      rw [patched] at plain
      have listed : elements.map (redactElement request.redaction) = raw.map (redactElement request.redaction) := by
        simpa [Except.map] using plain
      have normal' := normalizeElements_map (redactElement request.redaction) (fun _ => rfl) (fun _ => rfl) normal
      rw [listed] at normal'
      obtain ⟨snapshot, sorted, whole⟩ :=
        normalizeElements_of_map (redactElement request.redaction) (fun _ => rfl) (fun _ => rfl) normal'
      exact ⟨snapshot, .delta delta baseEnvelope before raw body retained base_body patched sorted,
        by simp only [currentElements, body, redactElements]; exact whole, whole⟩

end Snapshot

section Claims

/-- Nothing in the metadata says that a part is missing. -/
def ClaimsComplete (metadata : ContextMetadata) : Prop :=
  metadata.truncated = false ∧ metadata.resyncRequired = false ∧ metadata.coverage = .complete

/-- What each representation promises. -/
structure HonestAnswer (read : SnapshotRead) (request : ContextRequest) (output : ContextOutput) : Prop where
  full : output.metadata.representation = .full -> ∃ snapshot listed, SnapshotOf read.envelope request.base snapshot ∧
    output.body = some (.elements listed) ∧
    ∀ element, element ∈ snapshot -> redactElement request.redaction element ∈ listed
  compact : output.metadata.representation = .compact -> ∃ snapshot listed,
    SnapshotOf read.envelope request.base snapshot ∧ output.body = some (.elements listed) ∧
    ∀ element, element ∈ snapshot -> element.key ∈ listed.map SnapshotElement.key
  delta : output.metadata.representation = .delta -> ∃ snapshot delta base baseDocument result,
    SnapshotOf read.envelope request.base snapshot ∧ output.body = some (.delta delta) ∧ request.base = some base ∧
    redactedBaseDocument base request.redaction = .ok baseDocument ∧
    delta.apply baseDocument request.deltaLimits = .ok result ∧
    result.elements = snapshot.map (redactElement request.redaction)

/-- The focus of the request leaves a part out of a full or compact list, or a delta brings in a secret. -/
def Shortens (read : SnapshotRead) (request : ContextRequest) (document : SnapshotDocument)
    (elements : List SnapshotElement) : ContextRepresentation -> Prop
  | .full | .compact => elements ≠ (currentElements read request document).1
  | .delta => CarriesSecret request.redaction read.envelope
  | .metadata | .focus | .resync => False

/-- The request ends in a whole body of a complete snapshot, and that body falls short of it. -/
def Misleads (texts : ContextTexts) (tokenizer : Tokenizer) (read : SnapshotRead) (request : ContextRequest) : Prop :=
  ∃ document elements selected, Picked texts tokenizer read request document elements selected ∧
    fitsBudget texts tokenizer request (selectedMetadata read (currentElements read request document).2 selected)
      (some selected.body) = .ok true ∧
    ClaimsComplete (selectedMetadata read (currentElements read request document).2 selected) ∧
    Shortens read request document elements selected.representation

theorem selectedMetadata_representation (redacted : Bool) :
    (selectedMetadata read redacted selected).representation = selected.representation := by
  unfold selectedMetadata
  split <;> rfl

variable (picked : Picked texts tokenizer read request document elements selected)

include picked

theorem Picked.listed_whole (keys : ∀ element, element ∈ (currentElements read request document).1 ->
      element.key ∈ elements.map SnapshotElement.key) : elements = (currentElements read request document).1 := by
  obtain ⟨snapshot, source, listed, same⟩ := snapshot_listed picked.valid picked.current
  obtain ⟨normal, _⟩ := currentDocument_ok picked.valid picked.current
  have unique : ((currentElements read request document).1.map SnapshotElement.key).Nodup := by
    rw [listed, ← same, List.map_map]
    exact (SnapshotDocument.validate_ok normal.valid).2.2.1
  apply (focusedElements_sublist picked.focused).eq_of_length_le
  have fewer := unique.length_le_of_subset (fun key inside => by
    obtain ⟨element, there, rfl⟩ := List.mem_map.mp inside
    exact keys element there)
  simpa using fewer

theorem Picked.honest_iff (emitted : Emitted texts tokenizer request
      (selectedMetadata read (currentElements read request document).2 selected) (some selected.body) output) :
    HonestAnswer read request output <-> ¬ Shortens read request document elements selected.representation := by
  obtain ⟨snapshot, source, listed, same⟩ := snapshot_listed picked.valid picked.current
  have kept : output.metadata.representation = selected.representation := by
    rw [emitted.metadata_is, selectedMetadata_representation]
  have body_is := emitted.body_is
  cases selectBody_some picked.chosen with
  | full kind body =>
    rw [kind] at kept ⊢
    rw [body] at body_is
    simp only [Shortens, ne_eq, not_not]
    constructor
    · intro honest
      obtain ⟨snapshot', shown, source', body', all⟩ := honest.full kept
      obtain rfl := source.unique source'
      obtain rfl : elements = shown := by simpa [body_is, bodyCandidates] using body'
      apply picked.listed_whole
      intro element inside
      rw [listed] at inside
      obtain ⟨old, there, rfl⟩ := List.mem_map.mp inside
      exact List.mem_map_of_mem (all old there)
    · intro whole
      constructor <;> intro wanted
      · refine ⟨snapshot, elements, source, body_is, fun element inside => ?_⟩
        rw [whole, listed]
        exact List.mem_map_of_mem inside
      · cases kept.symm.trans wanted
      · cases kept.symm.trans wanted
  | compact kind body =>
    rw [kind] at kept ⊢
    rw [body] at body_is
    simp only [Shortens, ne_eq, not_not]
    have keys : (compactElements request.redaction elements).map SnapshotElement.key = elements.map SnapshotElement.key := by
      simp [compactElements]
    constructor
    · intro honest
      obtain ⟨snapshot', shown, source', body', all⟩ := honest.compact kept
      obtain rfl := source.unique source'
      obtain rfl : compactElements request.redaction elements = shown := by simpa [body_is, bodyCandidates] using body'
      apply picked.listed_whole
      intro element inside
      rw [listed] at inside
      obtain ⟨old, there, rfl⟩ := List.mem_map.mp inside
      rw [← keys]
      exact all old there
    · intro whole
      constructor <;> intro wanted
      · cases kept.symm.trans wanted
      · refine ⟨snapshot, _, source, body_is, fun element inside => ?_⟩
        rw [keys, whole, listed, List.map_map]
        exact List.mem_map_of_mem inside
      · cases kept.symm.trans wanted
  | focus kind body =>
    rw [kind] at kept ⊢
    refine iff_of_true ?_ not_false
    constructor <;> intro wanted <;> cases kept.symm.trans wanted
  | delta kind body _ =>
    rw [kind] at kept ⊢
    obtain ⟨_, base, baseDocument, delta, retained, redacted, chosen, _, applied⟩ := picked.delta_built kind
    obtain ⟨_, source'⟩ := currentDocument_ok picked.valid picked.current
    show _ <-> ¬ CarriesSecret request.redaction read.envelope
    rw [← document_clean_iff source', allClean_iff, same]
    constructor
    · intro honest
      obtain ⟨snapshot', delta', base', baseDocument', result, source'', body', retained', redacted', applied', whole⟩ :=
        honest.delta kept
      obtain rfl := source.unique source''
      obtain rfl : base = base' := by simpa [retained] using retained'
      obtain rfl : baseDocument = baseDocument' := by simpa [redacted] using redacted'
      obtain rfl : delta = delta' := by simpa [body_is, chosen] using body'
      obtain rfl : document = result := by simpa [applied] using applied'
      exact whole.symm
    · intro whole
      constructor <;> intro wanted
      · cases kept.symm.trans wanted
      · cases kept.symm.trans wanted
      · exact ⟨snapshot, delta, base, baseDocument, document, source, chosen ▸ body_is, retained, redacted, applied,
          whole.symm⟩

end Claims

section Sample

def branchesDocument : SnapshotDocument := documentOf 1 twoBranches

/-- `ContextRequest::full` with a focus on the child. -/
def focusedFullRequest : ContextRequest where
  mode := .full
  focus := childFocus

theorem twoBranches_clean : AllClean .default twoBranches := by
  have bare : twoBranches.all (fun element => element.attributes.entries.isEmpty) = true := rfl
  intro element inside entry listed
  rw [List.isEmpty_iff.mp (List.all_eq_true.mp bare element inside)] at listed
  cases listed

theorem twoBranches_valid : AllValid twoBranches := by
  have each : twoBranches.all (fun element => element.validate.toBool) = true := rfl
  intro element inside
  exact toBool_ok.mp (List.all_eq_true.mp each element inside)

theorem branchesDocument_normal : branchesDocument.Normal := documentOf_normal rfl twoBranches_valid

theorem branches_picked (texts : ContextTexts) : Picked texts unicodeScalars (fullRead branchesDocument) focusedFullRequest
    branchesDocument (twoBranches.take 2) ⟨.full, .elements (twoBranches.take 2), .complete⟩ := by
  have redacted : twoBranches.map (redactElement .default) = twoBranches := allClean_iff.mp twoBranches_clean
  have made : SnapshotDocument.make 1 (twoBranches.map (redactElement .default)) = .ok branchesDocument := by
    rw [redacted]
    exact SnapshotDocument.make_ok.mpr ⟨branchesDocument_normal.normal, twoBranches_valid, rfl⟩
  refine full_picked (envelopeOf_valid branchesDocument_normal) rfl rfl rfl rfl rfl (currentDocument_elements rfl made) ?_
  show focusElements (twoBranches.map (redactElement .default)) childFocus .empty = _
  rw [redacted]
  rfl

theorem branches_shortened :
    Shortens (fullRead branchesDocument) focusedFullRequest branchesDocument (twoBranches.take 2) .full := by
  intro whole
  have counted := congrArg List.length whole
  have three : (twoBranches.map (redactElement .default)).length = 3 := List.length_map ..
  exact absurd (counted.trans three) (by decide)

end Sample

end AgentycHost
