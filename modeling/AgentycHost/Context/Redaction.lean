import AgentycHost.Context.Outcomes

set_option autoImplicit false

/-!
# What redaction leaves of an element

Redaction changes values of sensitive attributes and nothing else, so keys,
orders and parents are those of the snapshot. Every body of an answer is taken
from the elements of the document or from the delta that leads to them.
-/

namespace AgentycHost

open Shared

variable {elements : List SnapshotElement} {envelope : ContextEnvelope} {document : SnapshotDocument}

section Elements

variable (policy : RedactionPolicy) (element : SnapshotElement)

@[simp] theorem redactElement_key : (redactElement policy element).key = element.key := rfl
@[simp] theorem redactElement_order : (redactElement policy element).order = element.order := rfl

@[simp] theorem compactElement_key : (compactElement policy element).key = element.key := by
  unfold compactElement
  split <;> rfl

def CleanElement : Prop :=
  ∀ entry, entry ∈ element.attributes.entries -> policy.isSensitive entry.1 = true -> entry.2 = policy.replacement

def AllClean (elements : List SnapshotElement) : Prop := ∀ element, element ∈ elements -> CleanElement policy element

variable {policy element}

theorem redactElement_clean : CleanElement policy (redactElement policy element) := by
  intro entry inside sensitive
  obtain ⟨old, _, rfl⟩ := List.mem_map.mp inside
  exact if_pos sensitive

theorem redactElement_of_clean (clean : CleanElement policy element) : redactElement policy element = element := by
  have same : element.attributes.entries.map (fun entry => (entry.1, redactValue policy entry.1 entry.2)) =
      element.attributes.entries.map id := by
    apply List.map_congr_left
    intro entry inside
    unfold redactValue
    split
    next sensitive => rw [← clean entry inside sensitive]; rfl
    next => rfl
  rw [List.map_id] at same
  obtain ⟨key, parent, kind, text, ⟨entries, sorted⟩, order⟩ := element
  simp only [redactElement, OrderedMap.mapValues]
  simp only at same
  congr

theorem compactElement_clean (clean : CleanElement policy element) : CleanElement policy (compactElement policy element) := by
  unfold compactElement
  split
  next =>
    intro entry inside sensitive
    exact clean entry (List.mem_of_mem_filter inside) sensitive
  next =>
    intro entry inside
    cases inside

theorem redacted_clean (elements : List SnapshotElement) : AllClean policy (elements.map (redactElement policy)) := by
  intro element inside
  obtain ⟨old, _, rfl⟩ := List.mem_map.mp inside
  exact redactElement_clean

theorem allClean_iff {elements : List SnapshotElement} :
    AllClean policy elements <-> elements.map (redactElement policy) = elements := by
  constructor
  · intro clean
    have same : elements.map (redactElement policy) = elements.map id :=
      List.map_congr_left fun element inside => redactElement_of_clean (clean element inside)
    rwa [List.map_id] at same
  · intro same
    rw [← same]
    exact redacted_clean elements

end Elements

section Normal

variable {sorted : List SnapshotElement} (change : SnapshotElement -> SnapshotElement)
  (keeps_key : ∀ element, (change element).key = element.key)
  (keeps_order : ∀ element, (change element).order = element.order)

include keeps_key keeps_order

theorem normalizeElements_map (normal : normalizeElements elements = .ok sorted) :
    normalizeElements (elements.map change) = .ok (sorted.map change) := by
  obtain ⟨bounded, moved, unique, rising⟩ := normalizeElements_ok.mp normal
  refine normalizeElements_ok.mpr ⟨by rwa [List.length_map], moved.map change, ?_, ?_⟩
  · have same : SnapshotElement.key ∘ change = SnapshotElement.key := funext keeps_key
    rw [UniqueKeys, List.map_map, same]
    exact unique
  · exact List.pairwise_map.mpr (rising.imp fun less => by rwa [keeps_order, keeps_order])

theorem normalizeElements_of_map {result : List SnapshotElement} (normal : normalizeElements (elements.map change) = .ok result) :
    ∃ sorted, normalizeElements elements = .ok sorted ∧ result = sorted.map change := by
  obtain ⟨bounded, moved, unique, rising⟩ := normalizeElements_ok.mp normal
  obtain ⟨sorted, moved', rfl⟩ : ∃ sorted, elements.Perm sorted ∧ sorted.map change = result := by
    have matched : List.Forall₂ (fun changed element => changed = change element) (elements.map change) elements := by
      rw [List.forall₂_map_left_iff, List.forall₂_same]
      exact fun _ _ => rfl
    obtain ⟨sorted, same, moved'⟩ := List.perm_comp_forall₂ moved.symm matched
    refine ⟨sorted, moved'.symm, ?_⟩
    rw [← List.forall₂_map_right_iff, List.forall₂_eq_eq_eq] at same
    exact same.symm
  refine ⟨sorted, normalizeElements_ok.mpr ⟨by rwa [List.length_map] at bounded, moved', ?_, ?_⟩, rfl⟩
  · have same : SnapshotElement.key ∘ change = SnapshotElement.key := funext keeps_key
    rw [UniqueKeys, List.map_map, same] at unique
    exact unique
  · exact (List.pairwise_map.mp rising).imp fun less => by rwa [keeps_order, keeps_order] at less

end Normal

section Documents

variable {base : ContextEnvelope} {policy : RedactionPolicy} {limits : DeltaLimits}
  {retained : Option ContextEnvelope}

theorem ContextEnvelope.elements_normal (valid : envelope.validate = .ok ())
    (body : envelope.deltaOrElements = .elements elements) :
    normalizeElements elements = .ok elements ∧ AllValid elements ∧ envelope.snapshotHash = hashElements elements := by
  simp only [ContextEnvelope.validate, bind_ok] at valid
  obtain ⟨_, _, _, checked, _⟩ := valid
  have listed : envelope.checkElements elements = .ok () := by
    unfold ContextEnvelope.checkBody at checked
    rw [body] at checked
    cases mode : envelope.mode <;> rw [mode] at checked <;> first | exact checked | cases checked
  simp only [ContextEnvelope.checkElements, bind_ok, require_ok, beq_iff_eq] at listed
  obtain ⟨_, _, _, _, document, made, _, same, _, hash, _⟩ := listed
  obtain ⟨normal, each, whole⟩ := SnapshotDocument.make_ok.mp made
  rw [same] at normal
  refine ⟨normal, each, ?_⟩
  rw [hash, whole, same]

theorem make_redacted {version : SnapshotVersion} (normal : normalizeElements elements = .ok elements)
    (made : SnapshotDocument.make version (elements.map (redactElement policy)) = .ok document) :
    document.Normal ∧ document.snapshotVersion = version ∧ document.elements = elements.map (redactElement policy) := by
  obtain ⟨normal', _, whole⟩ := SnapshotDocument.make_ok.mp made
  refine ⟨SnapshotDocument.make_normal made, by rw [whole], ?_⟩
  rw [normalizeElements_map (redactElement policy) (fun _ => rfl) (fun _ => rfl) normal] at normal'
  simpa using normal'.symm

theorem redactedBaseDocument_ok (found : redactedBaseDocument base policy = .ok document) :
    document.Normal ∧ document.snapshotVersion = base.snapshotVersion ∧ base.validate = .ok () ∧
      ∃ elements, base.deltaOrElements = .elements elements ∧
        document.elements = elements.map (redactElement policy) := by
  simp only [redactedBaseDocument, bind_ok, mapError_ok] at found
  obtain ⟨_, valid, found⟩ := found
  cases body : base.deltaOrElements with
  | elements elements =>
    rw [body] at found
    obtain ⟨normal, version, redacted⟩ := make_redacted (ContextEnvelope.elements_normal valid body).1 (mapError_ok.mp found)
    exact ⟨normal, version, valid, elements, rfl, redacted⟩
  | delta delta =>
    rw [body] at found
    cases found
  | resync reason =>
    rw [body] at found
    cases found

theorem redactedBaseDocument_elements (valid : base.validate = .ok ())
    (body : base.deltaOrElements = .elements elements)
    (made : SnapshotDocument.make base.snapshotVersion (elements.map (redactElement policy)) = .ok document) :
    redactedBaseDocument base policy = .ok document := by
  simp only [redactedBaseDocument, bind_ok, mapError_ok, body]
  exact ⟨(), valid, made⟩

def CarriesSecret (policy : RedactionPolicy) (envelope : ContextEnvelope) : Prop :=
  ∃ delta operation element, envelope.deltaOrElements = .delta delta ∧ operation ∈ delta.operations ∧
    operation.element = some element ∧ ¬ CleanElement policy element

inductive Documented (envelope : ContextEnvelope) (base : Option ContextEnvelope) (policy : RedactionPolicy)
    (limits : DeltaLimits) (document : SnapshotDocument) : Prop where
  | elements (elements : List SnapshotElement) (body : envelope.deltaOrElements = .elements elements)
      (redacted : document.elements = elements.map (redactElement policy))
  | delta (delta : SnapshotDelta) (baseEnvelope : ContextEnvelope) (baseDocument : SnapshotDocument)
      (body : envelope.deltaOrElements = .delta delta) (retained : base = some baseEnvelope)
      (redacted : redactedBaseDocument baseEnvelope policy = .ok baseDocument)
      (applied : delta.apply baseDocument limits = .ok document)

theorem currentDocument_ok {base : Option ContextEnvelope} (valid : envelope.validate = .ok ())
    (found : currentDocument envelope base policy limits = .ok document) :
    document.Normal ∧ Documented envelope base policy limits document := by
  cases body : envelope.deltaOrElements with
  | elements elements =>
    simp only [currentDocument, body] at found
    obtain ⟨normal, _, redacted⟩ := make_redacted (ContextEnvelope.elements_normal valid body).1 (mapError_ok.mp found)
    exact ⟨normal, .elements elements body redacted⟩
  | delta delta =>
    simp only [currentDocument, body, bind_ok, orElse_ok, mapError_ok] at found
    obtain ⟨baseEnvelope, retained, baseDocument, redacted, applied⟩ := found
    exact ⟨delta.apply_normal applied, .delta delta baseEnvelope baseDocument body retained redacted applied⟩
  | resync reason =>
    simp only [currentDocument, body] at found
    cases found

theorem currentDocument_elements (body : envelope.deltaOrElements = .elements elements)
    (made : SnapshotDocument.make envelope.snapshotVersion (elements.map (redactElement policy)) = .ok document) :
    currentDocument envelope retained policy limits = .ok document := by
  simp only [currentDocument, body]
  exact mapError_ok.mpr made

theorem currentDocument_delta {base : ContextEnvelope} {delta : SnapshotDelta} {baseDocument : SnapshotDocument}
    (body : envelope.deltaOrElements = .delta delta) (same : retained = some base)
    (redacted : redactedBaseDocument base policy = .ok baseDocument)
    (applied : delta.apply baseDocument limits = .ok document) :
    currentDocument envelope retained policy limits = .ok document := by
  simp only [currentDocument, body, bind_ok, orElse_ok, mapError_ok]
  exact ⟨base, same, baseDocument, redacted, applied⟩

theorem base_clean (found : redactedBaseDocument base policy = .ok document) : AllClean policy document.elements := by
  obtain ⟨_, _, _, elements, _, redacted⟩ := redactedBaseDocument_ok found
  rw [redacted]
  exact redacted_clean elements

theorem document_clean_iff {base : Option ContextEnvelope} (source : Documented envelope base policy limits document) :
    AllClean policy document.elements <-> ¬ CarriesSecret policy envelope := by
  cases source with
  | elements elements body redacted =>
    rw [redacted]
    refine iff_of_true (redacted_clean elements) ?_
    rintro ⟨delta, _, _, other, _⟩
    rw [body] at other
    cases other
  | delta delta baseEnvelope baseDocument body retained redacted applied =>
    obtain ⟨valid, _, _, _, _, elements, folded, normal, _⟩ := SnapshotDelta.apply_ok.mp applied
    obtain ⟨distinct, carried⟩ := delta.validate_ok valid
    obtain ⟨_, moved, _, _⟩ := normalizeElements_ok.mp normal
    constructor
    · rintro clean ⟨delta', operation, element, body', inside, carries, dirty⟩
      obtain rfl : delta = delta' := by simpa [body] using body'
      have placed := foldlM_carried distinct inside carries (carried operation inside element carries).2 folded
      exact dirty (clean element (moved.mem_iff.mp placed))
    · intro harmless
      have last : AllClean policy elements := by
        refine foldlM_keeps (AllClean policy) ?_ (base_clean redacted) folded
        intro elements operation next inside clean done
        refine operation.apply_all (fun _ _ same => same) clean ?_ done
        intro element carries
        by_contra dirty
        exact harmless ⟨delta, operation, element, body, inside, carries, dirty⟩
      intro element inside
      exact last element (moved.mem_iff.mpr inside)

end Documents

section Bodies

variable {policy : RedactionPolicy}

def CleanBody (policy : RedactionPolicy) : SnapshotBody -> Prop
  | .elements elements => AllClean policy elements
  | .delta delta => ∀ operation, operation ∈ delta.operations -> ∀ element, operation.element = some element ->
      CleanElement policy element
  | .resync _ => True

variable {before after : List SnapshotElement} {frames frames' : FrameVersions} {operation : DeltaOperation}
  {element : SnapshotElement}

theorem differences_carry (unique' : UniqueKeys SnapshotElement.key after)
    (inside : operation ∈ differences frames frames' before after) (carries : operation.element = some element) :
    element ∈ after := by
  simp only [differences, List.mem_append, List.mem_filterMap] at inside
  rcases inside with (⟨key, _, chosen⟩ | ⟨⟨key, other⟩, member, chosen⟩) | ⟨entry, _, chosen⟩
  · obtain ⟨rfl, _⟩ := removeOperation_some chosen
    cases carries
  · have present := ((elementsByKey after).mem_entries key other).mp member
    rw [elementsByKey_get? unique'] at present
    rw [changeOperation_element chosen carries]
    exact lookup_mem present
  · unfold frameOperation at chosen
    split at chosen
    next => cases chosen
    next =>
      obtain rfl : DeltaOperation.frameReset entry.1 entry.2 = operation := by simpa using chosen
      cases carries

theorem differences_show (unique : UniqueKeys SnapshotElement.key before) (unique' : UniqueKeys SnapshotElement.key after)
    (inside : element ∈ after)
    (changed : ∀ previous, previous ∈ before -> previous.attributes ≠ element.attributes) :
    ∃ operation, operation ∈ differences frames frames' before after ∧ operation.element = some element := by
  have member : (element.key, element) ∈ (elementsByKey after).entries := by
    rw [Table.mem_entries, elementsByKey_get? unique', unique'.lookup inside]
  have chosen : ∃ operation, changeOperation (elementsByKey before) element.key element = some operation ∧
      operation.element = some element := by
    unfold changeOperation
    rw [elementsByKey_get? unique]
    cases earlier : lookup SnapshotElement.key before element.key with
    | none => exact ⟨_, rfl, rfl⟩
    | some previous =>
      have apart := changed previous (lookup_mem earlier)
      have other : previous ≠ element := fun same => apart (by rw [same])
      have unmoved : { previous with order := element.order } ≠ element := by
        intro same
        apply apart
        rw [← same]
      simp only [other, unmoved, if_false]
      exact ⟨_, rfl, rfl⟩
  obtain ⟨operation, chosen, carries⟩ := chosen
  refine ⟨operation, ?_, carries⟩
  simp only [differences, List.mem_append, List.mem_filterMap]
  exact .inl (.inr ⟨(element.key, element), member, chosen⟩)

end Bodies

section Selection

variable {texts : ContextTexts} {tokenizer : Tokenizer} {read : SnapshotRead} {request : ContextRequest}
  {candidates : BodyCandidates} {selected : SelectedBody} {offered : List (ContextRepresentation × SnapshotBody)}
  {result : List SnapshotElement}

inductive Selection (envelope : ContextEnvelope) (candidates : BodyCandidates) (selected : SelectedBody) : Prop where
  | full (kind : selected.representation = .full) (body : selected.body = candidates.full)
  | compact (kind : selected.representation = .compact) (body : selected.body = candidates.compact)
  | focus (kind : selected.representation = .focus) (body : selected.body = candidates.full)
  | delta (kind : selected.representation = .delta) (body : candidates.delta = some selected.body)
      (complete : isComplete envelope = true)

theorem candidateList_mem {candidate : ContextRepresentation × SnapshotBody}
    (offered : candidate ∈ candidateList request envelope candidates) {coverage : SnapshotCoverage} :
    Selection envelope candidates ⟨candidate.1, candidate.2, coverage⟩ := by
  unfold candidateList at offered
  by_cases safe : (bodySafe envelope &&
      coverageAllowed (if isComplete envelope then .complete else .partly) request.minimumCoverage) = true
  · rw [if_pos safe] at offered
    rcases List.mem_cons.mp offered with rfl | offered
    · exact .full rfl rfl
    · rcases List.mem_cons.mp offered with rfl | offered
      · exact .compact rfl rfl
      · split at offered
        next complete =>
          obtain ⟨body, there, rfl⟩ := List.mem_map.mp offered
          exact .delta rfl (by simpa using there) complete
        next => cases offered
  · rw [if_neg safe] at offered
    cases offered

theorem cheapest_mem {best : ContextRepresentation × SnapshotBody} (found : cheapest texts offered = some best) :
    best ∈ offered := by
  cases offered with
  | nil => cases found
  | cons first rest =>
    obtain rfl := Option.some.inj found
    have one : ∀ (rest : List (ContextRepresentation × SnapshotBody)) first,
        rest.foldl (fun best next => if cheaper texts next best then next else best) first ∈ first :: rest := by
      intro rest
      induction rest with
      | nil => simp
      | cons next rest ih =>
        intro first
        rw [List.foldl_cons]
        split
        next => exact List.mem_cons_of_mem _ (ih next)
        next =>
          rcases List.mem_cons.mp (ih first) with same | inside
          · rw [same]
            exact List.mem_cons_self
          · exact List.mem_cons_of_mem _ (List.mem_cons_of_mem _ inside)
    exact one rest first

theorem pick_some {representation : ContextRepresentation} {found : ContextRepresentation × SnapshotBody}
    (picked : offered.find? (fun candidate => candidate.1 == representation) = some found) :
    found ∈ offered ∧ found.1 = representation :=
  ⟨List.mem_of_find?_eq_some picked, by simpa using List.find?_some picked⟩

theorem selectBody_some (chosen : selectBody texts request envelope candidates = some selected) :
    Selection envelope candidates selected := by
  unfold selectBody at chosen
  simp only at chosen
  split at chosen
  next =>
    obtain ⟨found, picked, rfl⟩ := Option.map_eq_some_iff.mp chosen
    exact candidateList_mem (pick_some picked).1
  next =>
    obtain ⟨found, picked, rfl⟩ := Option.map_eq_some_iff.mp chosen
    exact candidateList_mem (pick_some picked).1
  next =>
    obtain ⟨found, picked, rfl⟩ := Option.map_eq_some_iff.mp chosen
    obtain ⟨offered, kind⟩ := pick_some picked
    have kinds : Selection envelope candidates ⟨found.1, found.2, .complete⟩ := candidateList_mem offered
    cases kinds with
    | full _ body => exact .focus rfl body
    | compact other => cases kind.symm.trans other
    | focus other => cases kind.symm.trans other
    | delta other => cases kind.symm.trans other
  next =>
    obtain ⟨found, picked, rfl⟩ := Option.map_eq_some_iff.mp chosen
    exact candidateList_mem (pick_some picked).1
  next =>
    obtain ⟨found, best, rfl⟩ := Option.map_eq_some_iff.mp chosen
    exact candidateList_mem (cheapest_mem best)

theorem candidate_delta {body : SnapshotBody} (there : (bodyCandidates read request document elements).delta = some body) :
    ∃ base baseDocument, request.base = some base ∧ redactedBaseDocument base request.redaction = .ok baseDocument ∧
      baseMatches read.envelope base baseDocument = true ∧
      buildDeltaBody read.envelope base baseDocument document request.deltaLimits = .ok body := by
  obtain ⟨attempt, tried, ended⟩ := Option.bind_eq_some_iff.mp there
  obtain ⟨base, retained, rfl⟩ := Option.map_eq_some_iff.mp tried
  cases made : deltaAgainst read.envelope base request.redaction request.deltaLimits document with
  | error reason =>
    rw [made] at ended
    cases ended
  | ok built =>
    rw [made] at ended
    obtain rfl : built = body := by simpa [Except.toOption] using ended
    simp only [deltaAgainst, bind_ok, mapError_ok, require_ok] at made
    obtain ⟨baseDocument, redacted, _, matching, built⟩ := made
    exact ⟨base, baseDocument, retained, redacted, matching, built⟩

theorem focusElements_sublist {focus : ContextFocus} {frameVersions : FrameVersions}
    (found : focusElements elements focus frameVersions = .ok result) : result.Sublist elements := by
  simp only [focusElements, bind_ok, pure_ok] at found
  obtain ⟨_, _, _, _, _, _, rfl⟩ := found
  exact List.filter_sublist

theorem focusedElements_sublist (focused : focusedElements read request elements = .ok result) :
    result.Sublist elements := by
  unfold focusedElements at focused
  split at focused
  next => exact focusElements_sublist focused
  next =>
    obtain rfl : elements = result := by simpa using focused
    exact .refl _

theorem currentElements_clean : AllClean request.redaction (currentElements read request document).1 := by
  unfold currentElements
  split
  next => exact redacted_clean _
  next => exact redacted_clean _
  next =>
    intro element inside
    cases inside

variable (picked : Picked texts tokenizer read request document elements selected)

include picked

theorem Picked.elements_clean : AllClean request.redaction elements := fun element inside =>
  currentElements_clean element ((focusedElements_sublist picked.focused).subset inside)

theorem Picked.body_clean (kind : selected.representation ≠ .delta) : CleanBody request.redaction selected.body := by
  cases selectBody_some picked.chosen with
  | full _ body =>
    rw [body]
    exact picked.elements_clean
  | compact _ body =>
    rw [body]
    intro element inside
    obtain ⟨old, there, rfl⟩ := List.mem_map.mp inside
    exact compactElement_clean (picked.elements_clean old there)
  | focus _ body =>
    rw [body]
    exact picked.elements_clean
  | delta other => exact absurd other kind

theorem Picked.delta_built (kind : selected.representation = .delta) :
    isComplete read.envelope = true ∧ ∃ base baseDocument delta, request.base = some base ∧
      redactedBaseDocument base request.redaction = .ok baseDocument ∧ selected.body = .delta delta ∧
      delta.operations = sortOperations
        (differences read.envelope.frameVersions read.envelope.frameVersions baseDocument.elements document.elements) ∧
      delta.apply baseDocument request.deltaLimits = .ok document := by
  cases selectBody_some picked.chosen with
  | full other => cases kind.symm.trans other
  | compact other => cases kind.symm.trans other
  | focus other => cases kind.symm.trans other
  | delta _ body complete =>
    obtain ⟨base, baseDocument, retained, redacted, matching, built⟩ := candidate_delta body
    have frames : base.frameVersions = read.envelope.frameVersions := (of_decide_eq_true matching).2.2.2.2.2.2.1
    obtain ⟨delta, same, _, operations, applied⟩ := buildDeltaBody_applies (redactedBaseDocument_ok redacted).1
      (currentDocument_ok picked.valid picked.current).1 frames built
    exact ⟨complete, base, baseDocument, delta, retained, redacted, same, operations, applied⟩

theorem Picked.delta_clean_iff (kind : selected.representation = .delta) :
    CleanBody request.redaction selected.body <-> ¬ CarriesSecret request.redaction read.envelope := by
  obtain ⟨_, base, baseDocument, delta, _, redacted, same, operations, _⟩ := picked.delta_built kind
  obtain ⟨normal, source⟩ := currentDocument_ok picked.valid picked.current
  rw [← document_clean_iff source, same]
  have unique := (SnapshotDocument.validate_ok (redactedBaseDocument_ok redacted).1.valid).2.2.1
  have unique' := (SnapshotDocument.validate_ok normal.valid).2.2.1
  constructor
  · intro clean element inside
    by_contra dirty
    -- an element with a secret cannot have the attributes of a redacted one
    have changed : ∀ previous, previous ∈ baseDocument.elements -> previous.attributes ≠ element.attributes := by
      intro previous there same
      have earlier := base_clean redacted previous there
      unfold CleanElement at earlier dirty
      rw [same] at earlier
      exact dirty earlier
    obtain ⟨operation, member, carries⟩ := differences_show unique unique' inside changed
    refine dirty (clean operation ?_ element carries)
    rw [operations]
    exact mem_sortOperations.mpr member
  · intro clean operation inside element carries
    rw [operations] at inside
    exact clean element (differences_carry unique' (mem_sortOperations.mp inside) carries)

end Selection

end AgentycHost
