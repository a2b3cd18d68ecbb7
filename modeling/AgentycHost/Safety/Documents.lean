import AgentycHost.Effects.Canonical
import AgentycHost.Safety.DeltaUpdates

set_option autoImplicit false

/-! # What the hash and the check of a document say -/

namespace AgentycHost

open Shared

section Texts

variable {A : Type} {encode : A -> List Char}

/-- The bytes that `hash_elements` takes the hash of. -/
def hashedBytes (elements : List SnapshotElement) : List Nat :=
  bytes (String.ofList ('[' :: (commaSeparated (elements.map (·.canonicalJson)) ++ [']'])))

def optionalValue (text : Option String) : CanonicalValue := (text.map .string).getD .null

def SnapshotElement.value (element : SnapshotElement) : CanonicalValue :=
  .object
    [("key", .string element.key.text), ("parent", optionalValue (element.parent.map (·.text))),
      ("kind", .string element.kind.asStr), ("text", optionalValue element.text),
      ("attributes", .object (element.attributes.entries.map fun entry => (entry.1, .string entry.2))),
      ("order", .number (.ofInt element.order))]

theorem separated_later (index : Nat) (item : A) (rest : List A) :
    separated ',' encode (index + 1) (item :: rest) = ',' :: commaSeparated ((item :: rest).map encode) := by
  induction rest generalizing index item with
  | nil => simp [separated, commaSeparated]
  | cons second rest ih =>
    rw [separated, ih]
    simp [commaSeparated]

theorem commaSeparated_map (items : List A) : commaSeparated (items.map encode) = separated ',' encode 0 items := by
  cases items with
  | nil => rfl
  | cons first rest =>
    cases rest with
    | nil => simp [separated, commaSeparated]
    | cons second rest =>
      rw [separated, separated_later]
      simp [commaSeparated]

theorem appendOptional_render (text : Option String) : appendOptional text = (optionalValue text).render := by
  cases text with
  | none => simp [appendOptional, optionalValue, CanonicalValue.render]
  | some text => simp [appendOptional, optionalValue, CanonicalValue.render]

theorem object_render (fields : List (String × CanonicalValue)) :
    (CanonicalValue.object fields).render = '{' :: (commaSeparated (fields.map renderField) ++ ['}']) := by
  rw [CanonicalValue.render, renderFields_separated, commaSeparated_map]

theorem SnapshotElement.canonicalJson_render (element : SnapshotElement) : element.canonicalJson = element.value.render := by
  have attributes : (element.attributes.entries.map fun entry => (entry.1, CanonicalValue.string entry.2)).map renderField =
      element.attributes.entries.map fun entry => appendJsonString entry.1 ++ ':' :: appendJsonString entry.2 := by
    simp [renderField, CanonicalValue.render]
  have order : (CanonicalValue.number (.ofInt element.order)).render = (toString element.order).toList := by
    rw [CanonicalValue.render]
    rfl
  have text (value : String) : (CanonicalValue.string value).render = appendJsonString value := by rw [CanonicalValue.render]
  simp only [value, object_render, List.map_cons, List.map_nil, renderField, text, order, ← appendOptional_render]
  simp only [attributes, canonicalJson, appendJsonKey, List.append_assoc, List.cons_append, List.nil_append]

theorem hashedText_render (elements : List SnapshotElement) :
    '[' :: (commaSeparated (elements.map (·.canonicalJson)) ++ [']']) =
      (CanonicalValue.array (elements.map (·.value))).render := by
  have texts : elements.map (·.canonicalJson) = (elements.map (·.value)).map CanonicalValue.render := by
    rw [List.map_map]
    exact List.map_congr_left fun element _ => element.canonicalJson_render
  rw [CanonicalValue.render, renderValues_separated, texts, commaSeparated_map]

theorem NumberText.ofInt_inj {one other : Nat} (same : NumberText.ofInt one = NumberText.ofInt other) : one = other :=
  decimal_inj (congrArg NumberText.text same)

theorem optionalValue_inj {one other : Option String} (same : optionalValue one = optionalValue other) : one = other := by
  cases one with
  | none =>
    cases other with
    | none => rfl
    | some text => cases same
  | some text =>
    cases other with
    | none => cases same
    | some text' => rw [CanonicalValue.string.inj same]

theorem ElementKind.asStr_inj (one other : ElementKind) (same : one.asStr = other.asStr) : one = other := by
  cases one <;> cases other <;> first | rfl | exact absurd same (by decide)

theorem SnapshotElement.value_inj {one other : SnapshotElement} (same : one.value = other.value) : one = other := by
  have fields := CanonicalValue.object.inj same
  simp only [List.cons.injEq, Prod.mk.injEq, true_and, and_true] at fields
  obtain ⟨key, parent, kind, text, attributes, order⟩ := fields
  have key := Identifier.text_inj (CanonicalValue.string.inj key)
  have parent : one.parent = other.parent :=
    Option.map_injective (fun _ _ => Identifier.text_inj) (optionalValue_inj parent)
  have kind := ElementKind.asStr_inj _ _ (CanonicalValue.string.inj kind)
  have text := optionalValue_inj text
  have order := NumberText.ofInt_inj (CanonicalValue.number.inj order)
  have entry_inj : Function.Injective fun entry : String × String => (entry.1, CanonicalValue.string entry.2) := by
    intro first second equal
    obtain ⟨name, value⟩ := Prod.mk.inj equal
    exact Prod.ext name (CanonicalValue.string.inj value)
  have entries := List.map_injective_iff.mpr entry_inj (CanonicalValue.object.inj attributes)
  obtain ⟨_, _, _, _, ⟨_, _⟩, _⟩ := one
  obtain ⟨_, _, _, _, ⟨_, _⟩, _⟩ := other
  cases key
  cases parent
  cases kind
  cases text
  cases order
  cases entries
  rfl

end Texts

/-- Two lists of elements with the same hashed bytes are the same list. -/
theorem hashed_bytes_injective (elements other : List SnapshotElement) :
    hashElements elements = .fromBytes (hashedBytes elements) ∧
      (hashedBytes elements = hashedBytes other <-> elements = other) := by
  refine ⟨rfl, ?_, fun same => by rw [same]⟩
  intro same
  have text := String.ofList_injective (bytes_inj same)
  rw [hashedText_render, hashedText_render] at text
  have values := CanonicalValue.array.inj (render_inj text)
  exact List.map_injective_iff.mpr (fun _ _ => SnapshotElement.value_inj) values

section Documents

variable {document : SnapshotDocument}

theorem SnapshotDocument.Canonical.rising (canonical : document.Canonical)
    (distinct : (document.elements.map SnapshotElement.order).Nodup) :
    document.elements.Pairwise fun first second => first.order < second.order := by
  refine List.Pairwise.imp₂ ?_ canonical.sorted (List.pairwise_map.mp distinct)
  intro first second before apart
  rcases before with less | ⟨same, _⟩
  · exact less
  · exact absurd same apart

theorem SnapshotDocument.Canonical.normal (canonical : document.Canonical)
    (distinct : (document.elements.map SnapshotElement.order).Nodup) :
    normalizeElements document.elements = .ok document.elements :=
  normalizeElements_ok.mpr ⟨canonical.bounded, .refl _, canonical.unique, canonical.rising distinct⟩

theorem apply_nothing {delta : SnapshotDelta} {limits : DeltaLimits} {error : SnapshotValidationError}
    (valid : document.validate = .ok ()) (normal : normalizeElements document.elements = .ok document.elements)
    (nothing : delta.operations = []) (checked : delta.validate limits = .ok ()) :
    delta.apply document limits ≠ .error (.invalidSnapshot error) := by
  intro failed
  have ordered : (normalizeElements document.elements).mapError DeltaError.invalidSnapshot = .ok document.elements := by
    rw [normal]
    rfl
  have accepted : document.validate.mapError DeltaError.invalidSnapshot = .ok () := by
    rw [valid]
    rfl
  simp only [SnapshotDelta.apply, nothing, checked, accepted, bind_error, require_error, pure_error,
    List.findSome?_nil, List.foldlM_nil, pure_ok, Option.elim] at failed
  simp [ordered] at failed

/-- The check of a document accepts what its construction makes, and nothing fails to be put in order. -/
def ValidationMatches (document : SnapshotDocument) : Prop :=
  (document.validate = .ok () <->
      ∃ elements, SnapshotDocument.make document.snapshotVersion elements = .ok document) ∧
    (document.validate = .ok () -> ∀ (delta : SnapshotDelta) (limits : DeltaLimits), delta.operations = [] ->
      delta.validate limits = .ok () -> ∀ error, delta.apply document limits ≠ .error (.invalidSnapshot error))

end Documents

/-- The check and the construction of a document agree but for canonical documents with a repeated order. -/
theorem validation_matches_iff (document : SnapshotDocument) : ValidationMatches document <->
    (document.Canonical -> (document.elements.map SnapshotElement.order).Nodup) := by
  constructor
  · rintro ⟨constructed, _⟩ canonical
    obtain ⟨elements, made⟩ := constructed.mp (SnapshotDocument.validate_iff.mpr canonical)
    obtain ⟨_, _, _, rising⟩ := normalizeElements_ok.mp (SnapshotDocument.make_normal made).normal
    exact rising_distinct rising
  · intro distinct
    constructor
    · constructor
      · intro valid
        have canonical := SnapshotDocument.validate_iff.mp valid
        refine ⟨document.elements, SnapshotDocument.make_ok.mpr ⟨canonical.normal (distinct canonical), canonical.valid, ?_⟩⟩
        rw [canonical.hashed]
      · rintro ⟨elements, made⟩
        exact (SnapshotDocument.make_normal made).valid
    · intro valid delta limits nothing checked error
      have canonical := SnapshotDocument.validate_iff.mp valid
      exact apply_nothing valid (canonical.normal (distinct canonical)) nothing checked

def crowdedDocument : SnapshotDocument := documentOf 1 [plainElement leavingKey 0, plainElement stayingKey 0]

theorem crowded_document_not_constructed : crowdedDocument.validate = .ok () ∧
    (∀ elements, SnapshotDocument.make crowdedDocument.snapshotVersion elements ≠ .ok crowdedDocument) := by
  refine ⟨SnapshotDocument.validate_iff.mpr ⟨by decide, plain_valid rfl, ?_, ?_, rfl⟩, ?_⟩
  · show (crowdedDocument.elements.map SnapshotElement.key).Nodup
    decide
  · exact List.pairwise_pair.mpr (.inr ⟨rfl, by decide⟩)
  · intro elements made
    obtain ⟨_, _, _, rising⟩ := normalizeElements_ok.mp (SnapshotDocument.make_normal made).normal
    exact absurd (rising_distinct rising) (by decide)

section Envelopes

variable {envelope : ContextEnvelope} {done : Unit}

/-- The hashes of an envelope are one hash, that of every document its delta leads to. -/
structure HashConsistent (envelope : ContextEnvelope) : Prop where
  result : envelope.resultHash = envelope.snapshotHash
  delta : ∀ delta, envelope.deltaOrElements = .delta delta ->
    envelope.snapshotHash = delta.resultHash ∧ envelope.resultHash = delta.resultHash ∧
      ∀ base limits document, delta.apply base limits = .ok document ->
        document.snapshotHash = envelope.resultHash ∧ hashElements document.elements = envelope.resultHash

/-- The modes whose body is a list of elements. -/
def ContextEnvelope.whole (envelope : ContextEnvelope) : Bool := envelope.mode == .full || envelope.mode == .compact

theorem checkBody_whole (whole : envelope.whole = true) (checked : envelope.checkBody = .ok done) :
    envelope.resultHash = envelope.snapshotHash := by
  have compared (elements : List SnapshotElement) (checked : envelope.checkElements elements = .ok done) :
      envelope.resultHash = envelope.snapshotHash := by
    simp only [ContextEnvelope.checkElements, bind_ok, require_ok, beq_iff_eq] at checked
    obtain ⟨_, _, _, _, _, _, _, _, _, _, same⟩ := checked
    exact same
  unfold ContextEnvelope.checkBody at checked
  split at checked
  next => exact compared _ checked
  next => exact compared _ checked
  next mode _ => simp [ContextEnvelope.whole, mode] at whole
  next mode _ => simp [ContextEnvelope.whole, mode] at whole
  next => cases checked

theorem checkBody_delta {delta : SnapshotDelta} (body : envelope.deltaOrElements = .delta delta)
    (checked : envelope.checkBody = .ok done) : envelope.snapshotHash = delta.resultHash := by
  unfold ContextEnvelope.checkBody at checked
  rw [body] at checked
  split at checked
  next same => cases same
  next same => cases same
  next same =>
    obtain rfl := SnapshotBody.delta.inj same
    simp [ContextEnvelope.checkDelta, bind_ok, require_ok] at checked
    exact checked.1.1.1.2
  next same => cases same
  next => cases checked

theorem checkBody_other (other : envelope.whole = false) (hash : ContentHash) :
    ({ envelope with resultHash := hash } : ContextEnvelope).checkBody = envelope.checkBody := by
  cases mode : envelope.mode with
  | full => simp [ContextEnvelope.whole, mode] at other
  | compact => simp [ContextEnvelope.whole, mode] at other
  | delta =>
    unfold ContextEnvelope.checkBody
    simp only [mode]
    cases envelope.deltaOrElements <;> rfl
  | resync =>
    unfold ContextEnvelope.checkBody
    simp only [mode]
    cases envelope.deltaOrElements <;> rfl

end Envelopes

def strayEnvelope : ContextEnvelope :=
  { envelopeOf secondDocument with
    mode := .delta
    deltaOrElements := .delta renumbering
    baseSnapshotVersion := some firstDocument.snapshotVersion
    baseHash := some firstDocument.snapshotHash
    deltaSequence := some 1
    operationCount := 2
    resultHash := firstDocument.snapshotHash }

theorem strayEnvelope_valid : strayEnvelope.validate = .ok () := by
  have fields : strayEnvelope.checkFields = .ok () := rfl
  have body : strayEnvelope.checkBody = .ok () := by
    show strayEnvelope.checkDelta renumbering = .ok ()
    simp only [ContextEnvelope.checkDelta, bind_ok, require_ok, mapError_ok]
    refine ⟨(), ?_, (), rfl, rfl⟩
    simp [strayEnvelope, renumbering, envelopeOf, secondDocument, firstDocument, documentOf]
  simp only [ContextEnvelope.validate, bind_ok, require_ok]
  exact ⟨(), fields, (), body, rfl⟩

theorem stray_apart : firstDocument.snapshotHash ≠ secondDocument.snapshotHash := by decide +kernel

end AgentycHost
