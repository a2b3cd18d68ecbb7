import AgentycHost.Core.Artifacts
import AgentycHost.Core.Canonical
import AgentycHost.Core.Snapshots
import AgentycHost.Ledger.State
import AgentycHost.Shared.Keyed

set_option autoImplicit false

/-!
# The elements of a snapshot

A body is a list of elements in document order. Its hash is taken from a
canonical text of that list.
-/

namespace AgentycHost

open Shared

def maxSnapshotElements : Nat := 16384
def maxSnapshotAttributes : Nat := 64
def maxSnapshotAttributeKeyBytes : Nat := 128
def maxSnapshotAttributeValueBytes : Nat := 16 * 1024
def maxSnapshotTextBytes : Nat := 64 * 1024
def maxSnapshotFrameVersions : Nat := 1024
def maxSnapshotOmittedFields : Nat := 256
def maxSnapshotOmittedFieldBytes : Nat := 256
def maxSnapshotTokenizerBytes : Nat := 128

def textBefore (first second : String) : Bool := decide (bytes first < bytes second)

structure OrderedMap (K V : Type) (text : K -> String) where
  entries : List (K × V)
  sorted : entries.Pairwise fun first second => textBefore (text first.1) (text second.1) = true
  deriving DecidableEq

namespace OrderedMap

variable {K V : Type} [DecidableEq K] {text : K -> String} (map : OrderedMap K V text)

def empty : OrderedMap K V text where
  entries := []
  sorted := .nil

def get? (key : K) : Option V := (map.entries.find? fun entry => entry.1 == key).map Prod.snd

def containsKey (key : K) : Bool := (map.get? key).isSome

def mapValues (change : K -> V -> V) : OrderedMap K V text where
  entries := map.entries.map fun entry => (entry.1, change entry.1 entry.2)
  sorted := map.sorted.map _ fun _ _ before => before

def retain (keep : K -> Bool) : OrderedMap K V text where
  entries := map.entries.filter fun entry => keep entry.1
  sorted := map.sorted.filter _

end OrderedMap

abbrev AttributeMap := OrderedMap String String id

inductive ElementKind where
  | root
  | element
  | text
  | control
  | frame
  deriving DecidableEq

def ElementKind.asStr : ElementKind -> String
  | .root => "root"
  | .element => "element"
  | .text => "text"
  | .control => "control"
  | .frame => "frame"

structure SnapshotElement where
  key : ElementKey
  parent : Option ElementKey
  kind : ElementKind
  text : Option String
  attributes : AttributeMap
  order : Nat
  deriving DecidableEq

inductive ResyncReason where
  | baseMissing
  | baseHashMismatch
  | chainTooLong
  | costExceeded
  | incoherent
  | navigationChanged
  | explicit
  | staleReference
  | unsupportedDelta
  deriving DecidableEq

mutual

inductive SnapshotValidationError where
  | tooManyElements (count : Nat)
  | tooManyAttributes (count : Nat)
  | fieldTooLarge (field : String) (size max : Nat)
  | invalidParent (key : ElementKey)
  | invalidProvenance (reason : String)
  | duplicateKey (key : ElementKey)
  | duplicateOrder (order : Nat)
  | deltaMetadataMismatch
  | modeBodyMismatch
  | unexpectedBodyMetadata
  | resyncMetadataMismatch
  | nonCanonicalBody
  | nonCanonicalChanged
  | bodyHashMismatch (expected actual : ContentHash)
  | resultHashMismatch (expected actual : ContentHash)
  | invalidDelta (error : DeltaError)
  | operationCountMismatch
  | partialCanNotIssueRefs
  | unsupportedSchemaVersion (version : Nat)
  | tooManyFrameVersions (count : Nat)
  | tooManyChangedKeys (count : Nat)
  | tooManyOmittedFields (count : Nat)
  | omittedFieldTooLarge (size : Nat)
  | tokenizerTooLarge (size : Nat)

inductive DeltaError where
  | tooManyOperations (count max : Nat)
  | chainTooLong (depth max : Nat)
  | nonCanonicalOrder
  | duplicateTarget (key : ElementKey)
  | duplicateFrameReset (frameId : FrameId)
  | keyMismatch (target element : ElementKey)
  | versionDidNotAdvance (base result : SnapshotVersion)
  | invalidElement (error : SnapshotValidationError)
  | frameResetRequiresVersionVector (frameId : FrameId)
  | missingTarget (key : ElementKey)
  | resyncRequired (reason : ResyncReason)
  | resultHashMismatch (expected actual : ContentHash)
  | invalidSnapshot (error : SnapshotValidationError)

end

section Messages

def ContentHash.text (hash : ContentHash) : String := "fnv1a64:" ++ String.ofList (hexDigits hash.digest 16)

/-- The derived `Debug` text. -/
def ResyncReason.debug : ResyncReason -> String
  | .baseMissing => "BaseMissing"
  | .baseHashMismatch => "BaseHashMismatch"
  | .chainTooLong => "ChainTooLong"
  | .costExceeded => "CostExceeded"
  | .incoherent => "Incoherent"
  | .navigationChanged => "NavigationChanged"
  | .explicit => "Explicit"
  | .staleReference => "StaleReference"
  | .unsupportedDelta => "UnsupportedDelta"

def exceeds (subject : String) (count : Nat) (unit : String) (max : Nat) : String :=
  "snapshot " ++ subject ++ toString count ++ unit ++ ", maximum is " ++ toString max

mutual

def SnapshotValidationError.message : SnapshotValidationError -> String
  | .tooManyElements count => exceeds "contains " count " elements" maxSnapshotElements
  | .tooManyAttributes count => exceeds "element contains " count " attributes" maxSnapshotAttributes
  | .fieldTooLarge field size max => exceeds (field ++ " is ") size " bytes" max
  | .invalidParent key => "snapshot element " ++ key.text ++ " cannot be its own parent"
  | .invalidProvenance reason => "invalid snapshot provenance: " ++ reason
  | .duplicateKey key => "duplicate snapshot element key " ++ key.text
  | .duplicateOrder order => "duplicate snapshot element order " ++ toString order
  | .deltaMetadataMismatch => "snapshot delta metadata does not match its envelope"
  | .modeBodyMismatch => "snapshot mode does not match its body"
  | .unexpectedBodyMetadata => "snapshot body contains unexpected mode metadata"
  | .resyncMetadataMismatch => "snapshot resync metadata does not match its body"
  | .nonCanonicalBody => "snapshot body is not in canonical order"
  | .nonCanonicalChanged => "snapshot changed keys are not in canonical order"
  | .bodyHashMismatch expected actual =>
      "snapshot body hash mismatch: expected " ++ expected.text ++ ", got " ++ actual.text
  | .resultHashMismatch expected actual =>
      "snapshot result hash mismatch: expected " ++ expected.text ++ ", got " ++ actual.text
  | .invalidDelta error => "invalid snapshot delta: " ++ error.message
  | .operationCountMismatch => "snapshot operation count does not match its delta"
  | .partialCanNotIssueRefs => "partial or incoherent snapshot cannot issue refs"
  | .unsupportedSchemaVersion version => "unsupported snapshot schema version " ++ toString version
  | .tooManyFrameVersions count => exceeds "contains " count " frame versions" maxSnapshotFrameVersions
  | .tooManyChangedKeys count => exceeds "contains " count " changed keys" maxSnapshotElements
  | .tooManyOmittedFields count => exceeds "contains " count " omitted fields" maxSnapshotOmittedFields
  | .omittedFieldTooLarge size => exceeds "omitted field is " size " bytes" maxSnapshotOmittedFieldBytes
  | .tokenizerTooLarge size => exceeds "tokenizer is " size " bytes" maxSnapshotTokenizerBytes

def DeltaError.message : DeltaError -> String
  | .tooManyOperations count max =>
      "delta has " ++ toString count ++ " operations, maximum is " ++ toString max
  | .chainTooLong depth max => "delta chain depth " ++ toString depth ++ " exceeds " ++ toString max
  | .nonCanonicalOrder => "delta operations are not in canonical order"
  | .duplicateTarget key => "delta contains duplicate target " ++ key.text
  | .duplicateFrameReset frameId => "delta contains duplicate frame reset " ++ frameId.text
  | .keyMismatch target element =>
      "delta key " ++ target.text ++ " does not match element key " ++ element.text
  | .versionDidNotAdvance base result =>
      "delta result version SnapshotVersion(" ++ toString result ++
        ") does not advance base version SnapshotVersion(" ++ toString base ++ ")"
  | .invalidElement error => "delta contains an invalid element: " ++ error.message
  | .frameResetRequiresVersionVector frameId =>
      "frame reset for " ++ frameId.text ++ " requires a frame-version vector and was rejected"
  | .missingTarget key => "delta target " ++ key.text ++ " is missing"
  | .resyncRequired reason => "delta requires resync: " ++ reason.debug
  | .resultHashMismatch expected actual =>
      "delta result hash mismatch: expected " ++ expected.text ++ ", got " ++ actual.text
  | .invalidSnapshot error => "invalid snapshot result: " ++ error.message

end

def SnapshotValidationError.tooLarge : SnapshotValidationError -> Bool
  | .tooManyElements _ | .tooManyAttributes _ | .fieldTooLarge .. | .tooManyFrameVersions _
  | .tooManyChangedKeys _ | .tooManyOmittedFields _ | .omittedFieldTooLarge _ | .tokenizerTooLarge _ => true
  | _ => false

def SnapshotValidationError.coreError (error : SnapshotValidationError) : CoreError :=
  .new (if error.tooLarge then .messageTooLarge else .invalidArgument) error.message

def DeltaError.coreError : DeltaError -> CoreError
  | .resyncRequired reason => .staleRef ("snapshot delta requires resync: " ++ reason.debug)
  | .tooManyOperations count max =>
      .new .messageTooLarge (DeltaError.tooManyOperations count max).message
  | .chainTooLong depth max => .new .messageTooLarge (DeltaError.chainTooLong depth max).message
  | .invalidElement error => error.coreError
  | error => .invalidArgument error.message

end Messages

section Canonical

def appendJsonKey (key : String) : List Char := appendJsonString key ++ [':']

def commaSeparated : List (List Char) -> List Char
  | [] => []
  | [part] => part
  | part :: rest => part ++ ',' :: commaSeparated rest

def appendOptional (value : Option String) : List Char := (value.map appendJsonString).getD "null".toList

namespace SnapshotElement

variable (element : SnapshotElement)

def canonicalJson : List Char :=
  '{' :: (commaSeparated
    [appendJsonKey "key" ++ appendJsonString element.key.text,
     appendJsonKey "parent" ++ appendOptional (element.parent.map (·.text)),
     appendJsonKey "kind" ++ appendJsonString element.kind.asStr,
     appendJsonKey "text" ++ appendOptional element.text,
     appendJsonKey "attributes" ++ '{' :: (commaSeparated (element.attributes.entries.map fun entry =>
       appendJsonString entry.1 ++ ':' :: appendJsonString entry.2) ++ ['}']),
     appendJsonKey "order" ++ (toString element.order).toList] ++ ['}'])

end SnapshotElement

def hashElements (elements : List SnapshotElement) : ContentHash :=
  .fromBytes (bytes (String.ofList ('[' :: (commaSeparated (elements.map (·.canonicalJson)) ++ [']']))))

end Canonical

section Validation

def checkAttribute (entry : String × String) : Except SnapshotValidationError Unit := do
  require (!(entry.1.isEmpty || decide (maxSnapshotAttributeKeyBytes < entry.1.utf8ByteSize)))
    (.fieldTooLarge "attribute_key" entry.1.utf8ByteSize maxSnapshotAttributeKeyBytes)
  require (entry.2.utf8ByteSize ≤ maxSnapshotAttributeValueBytes)
    (.fieldTooLarge "attribute_value" entry.2.utf8ByteSize maxSnapshotAttributeValueBytes)

def SnapshotElement.validate (element : SnapshotElement) : Except SnapshotValidationError Unit := do
  require (element.parent != some element.key) (.invalidParent element.key)
  require (!element.text.any fun text => decide (maxSnapshotTextBytes < text.utf8ByteSize))
    (.fieldTooLarge "text" ((element.text.map String.utf8ByteSize).getD 0) maxSnapshotTextBytes)
  require (element.attributes.entries.length ≤ maxSnapshotAttributes)
    (.tooManyAttributes element.attributes.entries.length)
  element.attributes.entries.forM checkAttribute

def elementBefore (first second : SnapshotElement) : Bool :=
  decide (first.order < second.order) ||
    (first.order == second.order && !textBefore second.key.text first.key.text)

def checkDistinct : List ElementKey -> List Nat -> List SnapshotElement -> Except SnapshotValidationError Unit
  | _, _, [] => .ok ()
  | keys, orders, element :: rest => do
      require (!keys.contains element.key) (.duplicateKey element.key)
      require (!orders.contains element.order) (.duplicateOrder element.order)
      checkDistinct (element.key :: keys) (element.order :: orders) rest

def normalizeElements (elements : List SnapshotElement) : Except SnapshotValidationError (List SnapshotElement) := do
  require (elements.length ≤ maxSnapshotElements) (.tooManyElements elements.length)
  let sorted := elements.insertionSort fun first second => elementBefore first second = true
  checkDistinct [] [] sorted
  pure sorted

structure SnapshotDocument where
  snapshotVersion : SnapshotVersion
  elements : List SnapshotElement
  snapshotHash : ContentHash
  deriving DecidableEq

def checkCanonical : List ElementKey -> Option SnapshotElement -> List SnapshotElement ->
    Except SnapshotValidationError Unit
  | _, _, [] => .ok ()
  | keys, previous, element :: rest => do
      element.validate
      require (!keys.contains element.key) (.duplicateKey element.key)
      require (!previous.any fun earlier =>
          decide (element.order < earlier.order) ||
            (earlier.order == element.order && !textBefore earlier.key.text element.key.text))
        .nonCanonicalBody
      checkCanonical (element.key :: keys) (some element) rest

def SnapshotDocument.validate (document : SnapshotDocument) : Except SnapshotValidationError Unit := do
  require (document.elements.length ≤ maxSnapshotElements) (.tooManyElements document.elements.length)
  checkCanonical [] none document.elements
  require (hashElements document.elements == document.snapshotHash)
    (.bodyHashMismatch document.snapshotHash (hashElements document.elements))

def SnapshotDocument.make (snapshotVersion : SnapshotVersion) (elements : List SnapshotElement) :
    Except SnapshotValidationError SnapshotDocument := do
  require (elements.length ≤ maxSnapshotElements) (.tooManyElements elements.length)
  let elements <- normalizeElements elements
  let document : SnapshotDocument := { snapshotVersion, elements, snapshotHash := hashElements elements }
  document.validate
  pure document

end Validation

section Facts

variable {keys : List ElementKey} {orders : List Nat} {previous : Option SnapshotElement}
  {elements sorted : List SnapshotElement} {done : Unit} {third first second : SnapshotElement}
  {document : SnapshotDocument} {snapshotVersion : SnapshotVersion}

theorem checkDistinct_ok : checkDistinct keys orders elements = .ok done <->
    (∀ element, element ∈ elements -> element.key ∉ keys ∧ element.order ∉ orders) ∧
      UniqueKeys SnapshotElement.key elements ∧ (elements.map SnapshotElement.order).Nodup := by
  induction elements generalizing keys orders with
  | nil => simp [checkDistinct, UniqueKeys]
  | cons element rest ih =>
    simp only [checkDistinct, bind_ok, require_ok, ih, UniqueKeys]
    simp
    grind

def StrictlyBefore (first second : SnapshotElement) : Prop :=
  first.order < second.order ∨ first.order = second.order ∧ bytes first.key.text < bytes second.key.text

theorem StrictlyBefore.trans (one : StrictlyBefore first second) (two : StrictlyBefore second third) :
    StrictlyBefore first third := by
  rcases one with less | ⟨same, keys⟩
  · rcases two with less' | ⟨same', _⟩
    · exact .inl (less.trans less')
    · exact .inl (same' ▸ less)
  · rcases two with less' | ⟨same', keys'⟩
    · exact .inl (same ▸ less')
    · exact .inr ⟨same.trans same', keys.trans keys'⟩

instance : IsTrans SnapshotElement StrictlyBefore := ⟨fun _ _ _ => StrictlyBefore.trans⟩

theorem strictlyBefore_iff {earlier element : SnapshotElement} :
    (!(decide (element.order < earlier.order) ||
        (earlier.order == element.order && !textBefore earlier.key.text element.key.text))) = true <->
      StrictlyBefore earlier element := by
  simp only [Bool.not_or, Bool.and_eq_true, Bool.not_eq_true', decide_eq_false_iff_not, Bool.and_eq_false_iff,
    beq_eq_false_iff_ne, Bool.not_eq_false', textBefore, decide_eq_true_eq]
  constructor
  · rintro ⟨least, apart | keys⟩
    · left
      omega
    · by_cases same : earlier.order = element.order
      · exact .inr ⟨same, keys⟩
      · left
        omega
  · rintro (less | ⟨same, keys⟩)
    · exact ⟨by omega, .inl (by omega)⟩
    · exact ⟨by omega, .inr keys⟩

theorem checkCanonical_iff : checkCanonical keys previous elements = .ok done <->
    (∀ element, element ∈ elements -> element.validate = .ok () ∧ element.key ∉ keys) ∧
      UniqueKeys SnapshotElement.key elements ∧ (previous.toList ++ elements).IsChain StrictlyBefore := by
  induction elements generalizing keys previous with
  | nil => cases previous <;> simp [checkCanonical, UniqueKeys]
  | cons element rest ih =>
    have follows : (!previous.any fun earlier => decide (element.order < earlier.order) ||
        (earlier.order == element.order && !textBefore earlier.key.text element.key.text)) = true <->
        ∀ earlier, previous = some earlier -> StrictlyBefore earlier element := by
      cases previous with
      | none => simp
      | some earlier => simpa using strictlyBefore_iff
    have chain : (previous.toList ++ element :: rest).IsChain StrictlyBefore <->
        (∀ earlier, previous = some earlier -> StrictlyBefore earlier element) ∧ (element :: rest).IsChain StrictlyBefore := by
      cases previous <;> simp
    simp only [checkCanonical, bind_ok, require_ok, ih, follows, UniqueKeys, Option.toList]
    simp
    grind

theorem elementBefore_iff : elementBefore first second = true <->
    first.order < second.order ∨ (first.order = second.order ∧ bytes first.key.text ≤ bytes second.key.text) := by
  simp [elementBefore, textBefore]

theorem elementBefore_total (first second : SnapshotElement) :
    elementBefore first second = true ∨ elementBefore second first = true := by
  rw [elementBefore_iff, elementBefore_iff]
  rcases lt_trichotomy first.order second.order with less | same | more
  · exact .inl (.inl less)
  · exact (le_total (bytes first.key.text) (bytes second.key.text)).imp (fun keys => .inr ⟨same, keys⟩)
      fun keys => .inr ⟨same.symm, keys⟩
  · exact .inr (.inl more)

theorem elementBefore_trans (one : elementBefore first second = true) (two : elementBefore second third = true) :
    elementBefore first third = true := by
  rw [elementBefore_iff] at one two ⊢
  rcases one with less | ⟨same, keys⟩
  · left
    omega
  · rcases two with less | ⟨same', keys'⟩
    · left
      omega
    · right
      exact ⟨same.trans same', keys.trans keys'⟩

instance : Std.Total fun first second => elementBefore first second = true := ⟨elementBefore_total⟩

instance : IsTrans SnapshotElement fun first second => elementBefore first second = true := ⟨fun _ _ _ => elementBefore_trans⟩

theorem rising_distinct (rising : elements.Pairwise fun first second => first.order < second.order) :
    (elements.map SnapshotElement.order).Nodup :=
  List.pairwise_map.mpr (rising.imp fun less => Nat.ne_of_lt less)

theorem normalizeElements_ok : normalizeElements elements = .ok sorted <->
    elements.length ≤ maxSnapshotElements ∧ elements.Perm sorted ∧ UniqueKeys SnapshotElement.key sorted ∧
      sorted.Pairwise fun first second => first.order < second.order := by
  simp only [normalizeElements, bind_ok, require_ok, pure_ok, checkDistinct_ok, decide_eq_true_eq]
  constructor
  · rintro ⟨_, bounded, _, ⟨_, unique, orders⟩, rfl⟩
    refine ⟨bounded, (List.perm_insertionSort _ _).symm, unique, ?_⟩
    have ordered := List.pairwise_insertionSort (fun first second => elementBefore first second = true) elements
    refine List.Pairwise.imp₂ ?_ ordered (List.pairwise_map.mp orders)
    intro first second before apart
    rcases elementBefore_iff.mp before with less | ⟨same, _⟩
    · exact less
    · exact absurd same apart
  · rintro ⟨bounded, rearranged, unique, rising⟩
    have same : elements.insertionSort (fun first second => elementBefore first second = true) = sorted := by
      have ordered := List.pairwise_insertionSort (fun first second => elementBefore first second = true) elements
      have ordered' : sorted.Pairwise fun first second => elementBefore first second = true :=
        rising.imp fun less => elementBefore_iff.mpr (.inl less)
      have moved := (List.perm_insertionSort (fun first second => elementBefore first second = true) elements).trans rearranged
      refine moved.eq_of_pairwise ?_ ordered ordered'
      -- no two elements share an order
      intro first second inside inside' before after
      have equal : first.order = second.order := by
        rcases elementBefore_iff.mp before with less | ⟨equal, _⟩
        · rcases elementBefore_iff.mp after with less' | ⟨equal, _⟩ <;> omega
        · exact equal
      exact List.inj_on_of_nodup_map (rising_distinct rising) (moved.mem_iff.mp inside) inside' equal
    rw [same]
    exact ⟨(), bounded, (), ⟨by simp, unique, rising_distinct rising⟩, rfl⟩

def AllValid (elements : List SnapshotElement) : Prop :=
  ∀ element, element ∈ elements -> element.validate = .ok ()

structure SnapshotDocument.Canonical (document : SnapshotDocument) : Prop where
  bounded : document.elements.length ≤ maxSnapshotElements
  valid : AllValid document.elements
  unique : UniqueKeys SnapshotElement.key document.elements
  sorted : document.elements.Pairwise StrictlyBefore
  hashed : hashElements document.elements = document.snapshotHash

theorem SnapshotDocument.validate_iff : document.validate = .ok () <-> document.Canonical := by
  simp only [SnapshotDocument.validate, bind_ok, require_ok, decide_eq_true_eq, beq_iff_eq, checkCanonical_iff,
    Option.toList, List.nil_append, List.isChain_iff_pairwise]
  constructor
  · rintro ⟨_, bounded, _, ⟨each, unique, sorted⟩, hashed⟩
    exact ⟨bounded, fun element inside => (each element inside).1, unique, sorted, hashed⟩
  · rintro ⟨bounded, valid, unique, sorted, hashed⟩
    exact ⟨(), bounded, (), ⟨fun element inside => ⟨valid element inside, by simp⟩, unique, sorted⟩, hashed⟩

theorem SnapshotDocument.validate_ok (valid : document.validate = .ok ()) :
    document.elements.length ≤ maxSnapshotElements ∧
      (∀ element, element ∈ document.elements -> element.validate = .ok ()) ∧
      UniqueKeys SnapshotElement.key document.elements ∧ hashElements document.elements = document.snapshotHash := by
  have canonical := SnapshotDocument.validate_iff.mp valid
  exact ⟨canonical.bounded, canonical.valid, canonical.unique, canonical.hashed⟩

theorem SnapshotDocument.validate_of (normal : normalizeElements elements = .ok document.elements)
    (each : ∀ element, element ∈ elements -> element.validate = .ok ())
    (hash : hashElements document.elements = document.snapshotHash) : document.validate = .ok () := by
  obtain ⟨bounded, rearranged, unique, rising⟩ := normalizeElements_ok.mp normal
  rw [rearranged.length_eq] at bounded
  refine SnapshotDocument.validate_iff.mpr ⟨bounded, ?_, unique, rising.imp .inl, hash⟩
  intro element inside
  exact each element (rearranged.mem_iff.mpr inside)

structure SnapshotDocument.Normal (document : SnapshotDocument) : Prop where
  valid : document.validate = .ok ()
  normal : normalizeElements document.elements = .ok document.elements

theorem SnapshotDocument.make_ok :
    SnapshotDocument.make snapshotVersion elements = .ok document <->
      normalizeElements elements = .ok document.elements ∧ AllValid elements ∧
        document = { snapshotVersion, elements := document.elements, snapshotHash := hashElements document.elements } := by
  simp only [SnapshotDocument.make, bind_ok, require_ok, pure_ok, decide_eq_true_eq]
  constructor
  · rintro ⟨_, _, sorted, normal, _, valid, rfl⟩
    obtain ⟨_, moved, _, _⟩ := normalizeElements_ok.mp normal
    refine ⟨normal, fun element inside => ?_, rfl⟩
    exact (SnapshotDocument.validate_ok valid).2.1 element (moved.mem_iff.mp inside)
  · rintro ⟨normal, valid, same⟩
    obtain ⟨bounded, _⟩ := normalizeElements_ok.mp normal
    refine ⟨(), bounded, document.elements, normal, (), ?_, same.symm⟩
    exact SnapshotDocument.validate_of normal valid rfl

theorem SnapshotDocument.make_normal (made : SnapshotDocument.make snapshotVersion elements = .ok document) :
    document.Normal := by
  obtain ⟨normal, valid, same⟩ := SnapshotDocument.make_ok.mp made
  obtain ⟨bounded, moved, unique, rising⟩ := normalizeElements_ok.mp normal
  refine ⟨SnapshotDocument.validate_of normal valid ?_, ?_⟩
  · rw [same]
  · exact normalizeElements_ok.mpr ⟨moved.length_eq ▸ bounded, .refl _, unique, rising⟩

end Facts

end AgentycHost
