import AgentycHost.Cdp.Scans

set_option autoImplicit false

/-! # What a capture promises -/

namespace AgentycHost

open Shared

variable {table : NodeTable} {parsed : ParsedDom} {result : Json} {sizes : SnapshotSizes} {spaceId : SpaceId}
  {pageId : PageId} {navigationGeneration documentGeneration version : Nat} {kept : List SnapshotElement}

/-- Some scanned row is a document, an element or a text. -/
def NodeTable.HasLogicalNode (table : NodeTable) : Prop :=
  ∃ index, index < table.scanned ∧ (table.kind index).isSome = true

theorem parseDomSnapshot_scans (read : readTable result = .ok table) (logical : table.HasLogicalNode) :
    ∃ parsed, parseDomSnapshot result = .ok parsed ∧ Scanned table table.scanned parsed ∧ parsed.elements ≠ [] := by
  obtain ⟨parsed, ran, scanned⟩ := scan_scans table
  obtain ⟨index, inside, kept⟩ := logical
  have filled : parsed.elements ≠ [] := by
    intro nothing
    have orders := scanned.orders
    rw [nothing, List.map_nil] at orders
    have listed : index ∈ (List.range table.scanned).filter fun index => (table.kind index).isSome :=
      List.mem_filter.mpr ⟨List.mem_range.mpr inside, kept⟩
    rw [← orders] at listed
    exact absurd listed List.not_mem_nil
  have some_ : (!parsed.elements.isEmpty) = true := by
    rw [Bool.not_eq_true', List.isEmpty_eq_false_iff]
    exact filled
  refine ⟨parsed, bind_ok.mpr ⟨table, read, bind_ok.mpr ⟨parsed, ran, bind_ok.mpr ⟨(), require_ok.mpr some_, rfl⟩⟩⟩,
    scanned, filled⟩

/-- The attributes of a row that its element owes. -/
abbrev Owed : Type := List (String × String) -> String × String -> Prop

/-- The element has what its row says, in full. -/
structure WholeRow (owed : Owed) (table : NodeTable) (index : Nat) (kind : ElementKind) (element : SnapshotElement) : Prop where
  key : element.key.suffix = toString index
  ofKind : element.kind = kind
  text : kind = .text -> element.text = some (table.text index)
  attributes : ∀ pair, owed (pairTexts table.strings (table.attributeValues index)) pair ->
    pair ∈ element.attributes.entries

/-- No logical node of the document is missing or cut. -/
structure WholeCapture (owed : Owed) (table : NodeTable) (kept : List SnapshotElement) : Prop where
  rows : table.rows ≤ cdpMaxSnapshotElements
  nodes : ∀ index kind, index < table.rows -> table.kind index = some kind ->
    ∃ element, element ∈ kept ∧ WholeRow owed table index kind element

/-- An envelope that is admissible, and honest about what it leaves out. -/
structure HonestEnvelope (owed : Owed) (sizes : SnapshotSizes) (table : NodeTable) (elements : List SnapshotElement)
    (envelope : ContextEnvelope) (backendNodes : Table ElementKey Int) (kept : List SnapshotElement) : Prop where
  valid : envelope.validate = .ok ()
  fits : sizes.serialized envelope ≤ cdpMaxSnapshotBytes
  body : envelope.deltaOrElements = .elements kept
  starts : kept <+: elements
  nodes : ∀ key, backendNodes.contains key = true -> ∃ element, element ∈ kept ∧ element.key = key
  issues : envelope.canIssueRefs = true -> envelope.coverage = .complete
  complete : envelope.coverage = .complete -> WholeCapture owed table kept

theorem Scanned.element (scanned : Scanned table table.scanned parsed) {index : Nat} {kind : ElementKind}
    (inside : index < table.scanned) (taken : table.kind index = some kind) :
    ∃ element, element ∈ parsed.elements ∧ element.order = index := by
  have listed : index ∈ parsed.elements.map SnapshotElement.order := by
    rw [scanned.orders, List.mem_filter, List.mem_range, taken]
    exact ⟨inside, rfl⟩
  exact List.mem_map.mp listed

theorem FromRow.whole {element : SnapshotElement} (fromRow : FromRow table element)
    (whole : table.rowTruncated element.kind element.order = false) :
    WholeRow GivenLast table element.order element.kind element := by
  unfold NodeTable.rowTruncated at whole
  obtain ⟨text, attributes⟩ := Bool.or_eq_false_iff.mp whole
  constructor
  case key => exact fromRow.key
  case ofKind => rfl
  case text =>
    intro textual
    rw [fromRow.text]
    unfold NodeTable.rowText at text ⊢
    rw [if_pos textual] at text ⊢
    exact congrArg some (boundedSnapshotText_whole text)
  case attributes =>
    intro pair given
    rw [fromRow.attributes]
    exact readAttributes_whole attributes given

theorem Scanned.whole_capture (scanned : Scanned table table.scanned parsed) (clear : parsed.truncated = false) :
    WholeCapture GivenLast table parsed.elements := by
  obtain ⟨few, each⟩ := scanned.whole clear
  refine ⟨few, fun index kind inside taken => ?_⟩
  have reached : index < table.scanned := Nat.lt_min.mpr ⟨inside, inside.trans_le few⟩
  obtain ⟨element, listed, rfl⟩ := scanned.element reached taken
  have fromRow := scanned.fromRows element listed
  obtain rfl : element.kind = kind := Option.some.inj (fromRow.kind.symm.trans taken)
  exact ⟨element, listed, fromRow.whole (each element listed)⟩

theorem carriedNodes_carried {backendNodes : Table ElementKey Int} {key : ElementKey}
    (bound : (carriedNodes backendNodes kept).contains key = true) :
    ∃ element, element ∈ kept ∧ element.key = key := by
  rw [carriedNodes, Table.contains, Table.get?_filter] at bound
  cases node : backendNodes.get? key with
  | none =>
    rw [node] at bound
    cases bound
  | some value =>
    rw [node, Option.filter_some] at bound
    split at bound
    next carried =>
      obtain ⟨element, inside, same⟩ := List.any_eq_true.mp carried
      exact ⟨element, inside, beq_iff_eq.mp same⟩
    next => cases bound

theorem envelopeOfFirst_complete {total : Nat} {truncated : Bool}
    (complete : (envelopeOfFirst spaceId pageId navigationGeneration documentGeneration version total truncated
      kept).coverage = .complete) : truncated = false ∧ total ≤ kept.length := by
  unfold envelopeOfFirst documentEnvelope at complete
  dsimp only at complete
  split at complete
  next => cases complete
  next clear =>
    rw [Bool.not_eq_true, Bool.or_eq_false_iff, decide_eq_false_iff_not] at clear
    exact ⟨clear.1, Nat.not_lt.mp clear.2⟩

/-- How a capture ends: with an envelope, or with the error that a single element is too large. -/
inductive CaptureEnds (owed : Owed) (sizes : SnapshotSizes) (spaceId : SpaceId) (pageId : PageId)
    (navigationGeneration documentGeneration version : Nat) (table : NodeTable) (parsed : ParsedDom) :
    Except CoreError (ContextEnvelope × Table ElementKey Int) -> Prop where
  | envelope {envelope : ContextEnvelope} {backendNodes : Table ElementKey Int} {kept : List SnapshotElement}
      (honest : HonestEnvelope owed sizes table parsed.elements envelope backendNodes kept) :
      CaptureEnds owed sizes spaceId pageId navigationGeneration documentGeneration version table parsed
        (.ok (envelope, backendNodes))
  | tooLarge {first : SnapshotElement} (starts : parsed.elements.head? = some first)
      (large : cdpMaxSnapshotBytes < sizes.serialized (envelopeOfFirst spaceId pageId navigationGeneration
        documentGeneration version parsed.elements.length parsed.truncated [first])) :
      CaptureEnds owed sizes spaceId pageId navigationGeneration documentGeneration version table parsed
        (.error tooLargeError)

theorem Fitted.honest (scanned : Scanned table table.scanned parsed) (below : table.ParentsBelow)
    (fitted : Fitted sizes spaceId pageId navigationGeneration documentGeneration version parsed.elements
      parsed.truncated kept) :
    HonestEnvelope GivenLast sizes table parsed.elements (envelopeOfFirst spaceId pageId navigationGeneration
      documentGeneration version parsed.elements.length parsed.truncated kept) (carriedNodes parsed.backendNodes kept)
      kept := by
  constructor
  case valid => exact documentEnvelope_valid ((scanned.ready below).starts fitted.starts) _
  case fits => exact fitted.fits
  case body => rfl
  case starts => exact fitted.starts
  case nodes => exact fun key bound => carriedNodes_carried bound
  case issues =>
    intro issues
    simp only [ContextEnvelope.canIssueRefs, SnapshotProvenance.canIssueRefs, Bool.and_eq_true, beq_iff_eq] at issues
    exact issues.2.2
  case complete =>
    intro complete
    obtain ⟨clear, most⟩ := envelopeOfFirst_complete complete
    obtain rfl := fitted.starts.eq_of_length_le most
    exact scanned.whole_capture clear

/-- Every capture ends so, and never leaves anything out of a complete envelope but attributes for their names. -/
theorem captures_honest (read : readTable result = .ok table) (below : table.ParentsBelow)
    (logical : table.HasLogicalNode) (sizes : SnapshotSizes) (spaceId : SpaceId) (pageId : PageId)
    (navigationGeneration documentGeneration version : Nat) :
    ∃ parsed, parseDomSnapshot result = .ok parsed ∧
      CaptureEnds GivenLast sizes spaceId pageId navigationGeneration documentGeneration version table parsed
        (parsed.buildSnapshotEnvelope sizes spaceId pageId navigationGeneration documentGeneration version) := by
  obtain ⟨parsed, ran, scanned, filled⟩ := parseDomSnapshot_scans read logical
  refine ⟨parsed, ran, ?_⟩
  have ends := @buildSnapshotEnvelope_ends sizes spaceId pageId navigationGeneration documentGeneration version parsed
    (scanned.ready below)
  generalize parsed.buildSnapshotEnvelope sizes spaceId pageId navigationGeneration documentGeneration version = outcome
    at ends
  cases ends with
  | fitted fitted => exact .envelope (fitted.honest scanned below)
  | tooLarge large =>
    obtain ⟨first, rest, elements⟩ := List.exists_cons_of_ne_nil filled
    have starts : parsed.elements.head? = some first := by rw [elements, List.head?_cons]
    exact .tooLarge starts (large [first] ⟨rest, elements.symm⟩ (List.cons_ne_nil _ _))

section Sample

def captureReply (types parents : List Int) (attributes : List Json) (strings : List String) : Json :=
  .object [
    ("documents", .array [.object [("nodes", .object [
      ("parentIndex", .array (parents.map .int)), ("nodeType", .array (types.map .int)),
      ("nodeName", .array (types.map fun _ => .int 0)), ("nodeValue", .array (types.map fun _ => .int (-1))),
      ("backendNodeId", .array (types.map fun _ => .int 7)), ("attributes", .array attributes)])]]),
    ("strings", .array (strings.map .string))]

def namedReply : Json := captureReply [9, 1] [-1, 0] [.array [], .array [.int 1, .int 2]] ["node", "constructor", "x"]

def namedTable : NodeTable where
  rows := 2
  types := [.int 9, .int 1]
  values := [.int (-1), .int (-1)]
  parents := [.int (-1), .int 0]
  attributes := [.array [], .array [.int 1, .int 2]]
  backendIds := [.int 7, .int 7]
  strings := [.string "node", .string "constructor", .string "x"]

-- the sizes of the texts for this page
def sampleSizes : SnapshotSizes where
  body _ := 214
  envelope _ transportBytes _ := if transportBytes = 0 then 916 else 918

theorem namedTable_below : namedTable.ParentsBelow := by
  intro index parent found
  cases index with
  | zero => cases found
  | succ index =>
    cases index with
    | zero =>
      obtain rfl : 0 = parent := Option.some.inj found
      exact Nat.one_pos
    | succ => cases found

theorem namedTable_logical : namedTable.HasLogicalNode := ⟨0, by decide, rfl⟩

theorem named_reply_ends : ∃ parsed, parseDomSnapshot namedReply = .ok parsed ∧
    CaptureEnds GivenLast sampleSizes ⟨1⟩ ⟨1⟩ 1 1 1 namedTable parsed
      (parsed.buildSnapshotEnvelope sampleSizes ⟨1⟩ ⟨1⟩ 1 1 1) :=
  captures_honest rfl namedTable_below namedTable_logical sampleSizes ⟨1⟩ ⟨1⟩ 1 1 1

def AllGiven (pairs : List (String × String)) (pair : String × String) : Prop := pair ∈ pairs

theorem sampleSizes_fit (envelope : ContextEnvelope) : sampleSizes.serialized envelope ≤ cdpMaxSnapshotBytes := by
  unfold SnapshotSizes.serialized
  exact (show 918 ≤ cdpMaxSnapshotBytes by decide)

theorem named_uncut : (parseDomSnapshot namedReply).map ParsedDom.truncated = .ok false := by rfl

/-- The element of a complete envelope does not have the attribute of its row. -/
theorem ignored_attribute_missing : ¬ ∀ (result : Json) (table : NodeTable), readTable result = .ok table ->
    table.ParentsBelow -> table.HasLogicalNode -> ∀ (sizes : SnapshotSizes) (spaceId : SpaceId) (pageId : PageId)
      (navigationGeneration documentGeneration version : Nat), ∃ parsed, parseDomSnapshot result = .ok parsed ∧
        CaptureEnds AllGiven sizes spaceId pageId navigationGeneration documentGeneration version table parsed
          (parsed.buildSnapshotEnvelope sizes spaceId pageId navigationGeneration documentGeneration version) := by
  intro always
  obtain ⟨parsed, ran, ends⟩ := always namedReply namedTable rfl namedTable_below namedTable_logical sampleSizes ⟨1⟩ ⟨1⟩ 1 1 1
  obtain ⟨parsed', ran', scanned, filled⟩ := @parseDomSnapshot_scans namedTable namedReply rfl namedTable_logical
  obtain rfl : parsed = parsed' := Except.ok.inj (ran.symm.trans ran')
  have clear : parsed.truncated = false := by
    have uncut := named_uncut
    rw [ran] at uncut
    exact Except.ok.inj uncut
  have built := FitEnds.all sampleSizes_fit filled
    (@buildSnapshotEnvelope_ends sampleSizes ⟨1⟩ ⟨1⟩ 1 1 1 parsed (scanned.ready namedTable_below))
  rw [built] at ends
  cases ends with
  | @envelope _ _ kept honest =>
    have complete : (envelopeOfFirst ⟨1⟩ ⟨1⟩ 1 1 1 parsed.elements.length parsed.truncated parsed.elements).coverage =
        .complete := by
      rw [envelopeOfFirst, clear, decide_eq_false (Nat.lt_irrefl _)]
      rfl
    obtain ⟨element, inside, whole⟩ := (honest.complete complete).nodes 1 .element (by decide) rfl
    have fromRow := scanned.fromRows element (honest.starts.subset inside)
    have order : element.order = 1 := decimal_inj (fromRow.key.symm.trans whole.key)
    have given : ("constructor", "x") ∈ element.attributes.entries :=
      whole.attributes _ (show ("constructor", "x") ∈ [("constructor", "x")] from List.mem_cons_self)
    have nothing : (readAttributes namedTable.strings (namedTable.attributeValues 1)).1.entries = [] := by decide
    rw [fromRow.attributes, order, nothing] at given
    exact absurd given List.not_mem_nil

end Sample

end AgentycHost

/-! # The parents of captured elements -/

namespace AgentycHost

open Shared

variable {table : NodeTable} {parsed : ParsedDom} {result : Json} {sizes : SnapshotSizes} {spaceId : SpaceId}
  {pageId : PageId} {navigationGeneration documentGeneration version : Nat} {elements kept : List SnapshotElement}
  {element : SnapshotElement} {index parent ancestor : Nat}

section Forests

inductive NodeTable.Inside (table : NodeTable) : Nat -> Nat -> Prop where
  | self (index : Nat) : Inside table index index
  | above {index parent ancestor : Nat} (found : table.parentIndex index = some parent)
      (inside : Inside table parent ancestor) : Inside table index ancestor

def NodeTable.Preorder (table : NodeTable) : Prop :=
  ∀ index parent, table.parentIndex index = some parent -> parent < index ∧ table.Inside (index - 1) parent

theorem NodeTable.Preorder.below (preorder : table.Preorder) : table.ParentsBelow :=
  fun index parent found => (preorder index parent found).1

/-- The closest row above that became an element. -/
inductive NodeTable.NearestKept (table : NodeTable) : Nat -> Nat -> Prop where
  | parent {index parent : Nat} (found : table.parentIndex index = some parent)
      (kept : (table.kind parent).isSome = true) : NearestKept table index parent
  | above {index parent ancestor : Nat} (found : table.parentIndex index = some parent)
      (skipped : table.kind parent = none) (nearest : NearestKept table parent ancestor) :
      NearestKept table index ancestor

end Forests

section Rows

def NodeTable.keptRows (table : NodeTable) : List Nat :=
  (List.range table.scanned).filter fun index => (table.kind index).isSome

/-- Some bound cuts something of the document. -/
def NodeTable.cut (table : NodeTable) : Bool :=
  decide (cdpMaxSnapshotElements < table.rows) ||
    table.keptRows.any fun index => (table.kind index).any fun kind => table.rowTruncated kind index

/-- The elements of the first of the kept rows. -/
structure FirstRows (table : NodeTable) (elements : List SnapshotElement) : Prop where
  orders : elements.map SnapshotElement.order <+: table.keptRows
  fromRows : ∀ element, element ∈ elements -> FromRow table element

theorem Identifier.suffix_inj {tag : String} {one other : Identifier tag} (same : one.suffix = other.suffix) : one = other := by
  obtain ⟨_, _⟩ := one
  obtain ⟨_, _⟩ := other
  cases same
  rfl

theorem FromRow.unique {other : SnapshotElement} (fromRow : FromRow table element) (fromRow' : FromRow table other)
    (same : element.order = other.order) : element = other := by
  have kind : element.kind = other.kind := by
    have kinds := fromRow.kind
    rw [same, fromRow'.kind] at kinds
    exact (Option.some.inj kinds).symm
  have key : element.key = other.key := Identifier.suffix_inj (by rw [fromRow.key, fromRow'.key, same])
  have parent : element.parent = other.parent := by
    apply Option.map_injective (fun _ _ => Identifier.suffix_inj)
    rw [fromRow.parent, fromRow'.parent, same]
  have text : element.text = other.text := by rw [fromRow.text, fromRow'.text, kind, same]
  have attributes : element.attributes = other.attributes := by rw [fromRow.attributes, fromRow'.attributes, same]
  cases element
  cases other
  cases key
  cases parent
  cases kind
  cases text
  cases attributes
  cases same
  rfl

theorem elements_of_rows (fromRows : ∀ element, element ∈ elements -> FromRow table element)
    (fromRows' : ∀ element, element ∈ kept -> FromRow table element)
    (starts : elements.map SnapshotElement.order <+: kept.map SnapshotElement.order) : elements <+: kept := by
  induction elements generalizing kept with
  | nil => exact List.nil_prefix
  | cons first rest ih =>
    cases kept with
    | nil => exact absurd (List.prefix_nil.mp starts) (List.cons_ne_nil _ _)
    | cons other others =>
      rw [List.map_cons, List.map_cons, List.cons_prefix_cons] at starts
      obtain rfl := (fromRows first List.mem_cons_self).unique (fromRows' other List.mem_cons_self) starts.1
      refine List.cons_prefix_cons.mpr ⟨rfl, ih ?_ ?_ starts.2⟩
      · exact fun element inside => fromRows element (List.mem_cons_of_mem _ inside)
      · exact fun element inside => fromRows' element (List.mem_cons_of_mem _ inside)

theorem Scanned.first_iff (scanned : Scanned table table.scanned parsed) :
    FirstRows table elements <-> elements <+: parsed.elements := by
  have orders : parsed.elements.map SnapshotElement.order = table.keptRows := scanned.orders
  constructor
  · intro first
    exact elements_of_rows first.fromRows scanned.fromRows (orders ▸ first.orders)
  · intro starts
    exact ⟨orders ▸ starts.map _, fun element inside => scanned.fromRows element (starts.subset inside)⟩

theorem Scanned.cut (scanned : Scanned table table.scanned parsed) : parsed.truncated = table.cut := by
  have orders : parsed.elements.map SnapshotElement.order = table.keptRows := scanned.orders
  rw [scanned.truncated, NodeTable.cut, ← orders, List.any_map]
  congr 1
  rw [Bool.eq_iff_iff, List.any_eq_true, List.any_eq_true]
  refine exists_congr fun element => and_congr_right fun inside => ?_
  rw [Function.comp_apply, (scanned.fromRows element inside).kind, Option.any_some]

end Rows

/-- The element has no parent, or its nearest kept ancestor is one of the elements and its parent. -/
def ParentResolves (table : NodeTable) (elements : List SnapshotElement) (element : SnapshotElement) : Prop :=
  element.parent = none ∨
    ∃ ancestor, ancestor ∈ elements ∧ element.parent = some ancestor.key ∧
      table.NearestKept element.order ancestor.order

section Resolving

theorem Scanned.earlier (scanned : Scanned table table.scanned parsed) (starts : kept <+: parsed.elements)
    (inside : element ∈ kept) (before : index < element.order) (taken : (table.kind index).isSome = true) :
    ∃ other, other ∈ kept ∧ other.order = index := by
  have reached : element.order < table.scanned := by
    have listed : element.order ∈ parsed.elements.map SnapshotElement.order := List.mem_map_of_mem (starts.subset inside)
    rw [scanned.orders, List.mem_filter, List.mem_range] at listed
    exact listed.1
  obtain ⟨kind, taken⟩ := Option.isSome_iff_exists.mp taken
  obtain ⟨other, listed, counted⟩ := scanned.element (before.trans reached) taken
  obtain ⟨rest, split⟩ := starts
  have rising := scanned.rising
  rw [← split] at listed rising
  obtain here | later := List.mem_append.mp listed
  · exact ⟨other, here, counted⟩
  · have after := (List.pairwise_append.mp rising).2.2 element inside other later
    omega

theorem FromRow.parent_some (fromRow : FromRow table element) (found : table.parentIndex element.order = some parent) :
    ∃ key, element.parent = some key ∧ key.suffix = toString parent := by
  have named := fromRow.parent
  rw [found, Option.map_some] at named
  exact Option.map_eq_some_iff.mp named

theorem Scanned.resolves_iff (scanned : Scanned table table.scanned parsed) (below : table.ParentsBelow)
    (starts : kept <+: parsed.elements) (inside : element ∈ kept) :
    ParentResolves table kept element <->
      ∀ parent, table.parentIndex element.order = some parent -> (table.kind parent).isSome = true := by
  have fromRow := scanned.fromRows element (starts.subset inside)
  constructor
  · intro resolves parent found
    obtain ⟨key, named, suffix⟩ := fromRow.parent_some found
    obtain none | ⟨ancestor, there, same, _⟩ := resolves
    · rw [none] at named
      cases named
    · obtain rfl : ancestor.key = key := Option.some.inj (same.symm.trans named)
      have fromRow' := scanned.fromRows ancestor (starts.subset there)
      obtain rfl : ancestor.order = parent := decimal_inj (fromRow'.key.symm.trans suffix)
      rw [fromRow'.kind, Option.isSome_some]
  · intro known
    cases found : table.parentIndex element.order with
    | none =>
      have named := fromRow.parent
      rw [found, Option.map_none, Option.map_eq_none_iff] at named
      exact .inl named
    | some parent =>
      obtain ⟨key, named, suffix⟩ := fromRow.parent_some found
      obtain ⟨other, there, rfl⟩ := scanned.earlier starts inside (below _ _ found) (known parent found)
      have same : other.key = key := by
        apply Identifier.suffix_inj
        rw [(scanned.fromRows other (starts.subset there)).key, suffix]
      exact .inr ⟨other, there, by rw [named, same], .parent found (known _ found)⟩

end Resolving

/-- Of the rows that fit into an envelope, each has no parent or a kept one. -/
def ParentsKept (sizes : SnapshotSizes) (spaceId : SpaceId) (pageId : PageId)
    (navigationGeneration documentGeneration version : Nat) (table : NodeTable) : Prop :=
  ∀ elements, FirstRows table elements ->
    sizes.serialized (envelopeOfFirst spaceId pageId navigationGeneration documentGeneration version
      table.keptRows.length table.cut elements) ≤ cdpMaxSnapshotBytes ->
    ∀ element, element ∈ elements -> ∀ parent, table.parentIndex element.order = some parent ->
      (table.kind parent).isSome = true

theorem parseDomSnapshot_ok (read : readTable result = .ok table) (ran : parseDomSnapshot result = .ok parsed) :
    Scanned table table.scanned parsed ∧ parsed.elements ≠ [] := by
  obtain ⟨table', read', ran⟩ := bind_ok.mp ran
  obtain rfl : table = table' := Except.ok.inj (read.symm.trans read')
  obtain ⟨parsed', ran', ran⟩ := bind_ok.mp ran
  obtain ⟨_, filled, same⟩ := bind_ok.mp ran
  obtain rfl : parsed' = parsed := Except.ok.inj same
  obtain ⟨found, scans, scanned⟩ := scan_scans table
  obtain rfl : parsed' = found := Except.ok.inj (ran'.symm.trans scans)
  have some_ := require_ok.mp filled
  rw [Bool.not_eq_true', List.isEmpty_eq_false_iff] at some_
  exact ⟨scanned, some_⟩

/-- Every element of an envelope has its parent resolved exactly if no row that fits has a skipped parent. -/
theorem parents_resolve_iff {envelope : ContextEnvelope} {backendNodes : Table ElementKey Int}
    (read : readTable result = .ok table) (below : table.ParentsBelow) (ran : parseDomSnapshot result = .ok parsed)
    (built : parsed.buildSnapshotEnvelope sizes spaceId pageId navigationGeneration documentGeneration version =
      .ok (envelope, backendNodes)) (body : envelope.deltaOrElements = .elements elements) :
    (∀ element, element ∈ elements -> ParentResolves table elements element) <->
      ParentsKept sizes spaceId pageId navigationGeneration documentGeneration version table := by
  obtain ⟨scanned, _⟩ := parseDomSnapshot_ok read ran
  have ends := @buildSnapshotEnvelope_ends sizes spaceId pageId navigationGeneration documentGeneration version parsed
    (scanned.ready below)
  have total : parsed.elements.length = table.keptRows.length := by
    have orders := congrArg List.length scanned.orders
    rw [List.length_map] at orders
    exact orders
  rw [built] at ends
  generalize outcome : (Except.ok (envelope, backendNodes) : Except CoreError (ContextEnvelope × Table ElementKey Int)) =
    ended at ends
  cases ends with
  | tooLarge => cases outcome
  | @fitted kept fitted =>
    obtain ⟨rfl, _⟩ := Prod.mk.inj (Except.ok.inj outcome)
    obtain rfl : kept = elements := SnapshotBody.elements.inj body
    obtain ⟨starts, fits, most⟩ := fitted
    rw [total, scanned.cut] at fits most
    constructor
    · intro resolves some_ first small element inside parent found
      -- the elements that fit are among the carried ones
      have begins := scanned.first_iff.mp first
      have few : some_.length ≤ kept.length := by
        apply Nat.not_lt.mp
        intro longer
        exact absurd small (Nat.not_le.mpr (most some_ begins longer))
      have carried : element ∈ kept := (List.prefix_of_prefix_length_le begins starts few).subset inside
      exact (scanned.resolves_iff below starts carried).mp (resolves element carried) parent found
    · intro known element inside
      exact (scanned.resolves_iff below starts inside).mpr (known kept (scanned.first_iff.mpr starts) fits element inside)

section Sample

theorem named_parents_resolve : ∃ parsed envelope backendNodes elements,
    parseDomSnapshot namedReply = .ok parsed ∧
      parsed.buildSnapshotEnvelope sampleSizes ⟨1⟩ ⟨1⟩ 1 1 1 = .ok (envelope, backendNodes) ∧
      envelope.deltaOrElements = .elements elements ∧
      ∀ element, element ∈ elements -> ParentResolves namedTable elements element := by
  obtain ⟨parsed, ran, scanned, filled⟩ := @parseDomSnapshot_scans namedTable namedReply rfl namedTable_logical
  have built := FitEnds.all sampleSizes_fit filled
    (@buildSnapshotEnvelope_ends sampleSizes ⟨1⟩ ⟨1⟩ 1 1 1 parsed (scanned.ready namedTable_below))
  refine ⟨parsed, _, _, _, ran, built, rfl, (parents_resolve_iff rfl namedTable_below ran built rfl).mpr ?_⟩
  intro _ _ _ element _ parent found
  have before := namedTable_below _ _ found
  cases order : element.order with
  | zero => omega
  | succ index =>
    rw [order] at found before
    cases index with
    | zero =>
      obtain rfl : parent = 0 := by omega
      rfl
    | succ => cases found

def shadowReply : Json :=
  captureReply [9, 1, 11, 1] [-1, 0, 1, 2] [.array [], .array [], .array [], .array []] ["node"]

def shadowTable : NodeTable where
  rows := 4
  types := [.int 9, .int 1, .int 11, .int 1]
  values := [.int (-1), .int (-1), .int (-1), .int (-1)]
  parents := [.int (-1), .int 0, .int 1, .int 2]
  attributes := [.array [], .array [], .array [], .array []]
  backendIds := [.int 7, .int 7, .int 7, .int 7]
  strings := [.string "node"]

-- the sizes of the texts for this page
def shadowSizes : SnapshotSizes where
  body _ := 310
  envelope _ transportBytes _ := if transportBytes = 0 then 1012 else 1015

theorem shadowSizes_fit (envelope : ContextEnvelope) : shadowSizes.serialized envelope ≤ cdpMaxSnapshotBytes := by
  unfold SnapshotSizes.serialized
  exact (show 1015 ≤ cdpMaxSnapshotBytes by decide)

theorem shadowTable_preorder : shadowTable.Preorder := by
  have next (index : Nat) (found : shadowTable.parentIndex (index + 1) = some index) :
      ∀ parent, shadowTable.parentIndex (index + 1) = some parent ->
        parent < index + 1 ∧ shadowTable.Inside (index + 1 - 1) parent := by
    intro parent there
    obtain rfl : index = parent := Option.some.inj (found.symm.trans there)
    exact ⟨Nat.lt_succ_self _, .self _⟩
  intro index parent found
  have few : index < 4 := by
    by_contra many
    have outside : shadowTable.parents[index]? = none := List.getElem?_eq_none (Nat.not_lt.mp many)
    rw [NodeTable.parentIndex, outside] at found
    cases found
  have known : index = 0 ∨ index = 1 ∨ index = 2 ∨ index = 3 := by omega
  obtain rfl | rfl | rfl | rfl := known
  · cases found
  · exact next 0 rfl parent found
  · exact next 1 rfl parent found
  · exact next 2 rfl parent found

/-- The element in the shadow root names the root, which is not an element. -/
theorem shadow_parent_dangles : ¬ ∀ (result : Json) (table : NodeTable), readTable result = .ok table ->
    table.Preorder -> ∀ (sizes : SnapshotSizes) (spaceId : SpaceId) (pageId : PageId)
      (navigationGeneration documentGeneration version : Nat) (parsed : ParsedDom) (envelope : ContextEnvelope)
      (backendNodes : Table ElementKey Int) (elements : List SnapshotElement), parseDomSnapshot result = .ok parsed ->
      parsed.buildSnapshotEnvelope sizes spaceId pageId navigationGeneration documentGeneration version =
        .ok (envelope, backendNodes) -> envelope.deltaOrElements = .elements elements ->
      ∀ element, element ∈ elements -> ParentResolves table elements element := by
  intro always
  have logical : shadowTable.HasLogicalNode := ⟨0, by decide, rfl⟩
  obtain ⟨parsed, ran, scanned, filled⟩ := @parseDomSnapshot_scans shadowTable shadowReply rfl logical
  have below := shadowTable_preorder.below
  have built := FitEnds.all shadowSizes_fit filled
    (@buildSnapshotEnvelope_ends shadowSizes ⟨1⟩ ⟨1⟩ 1 1 1 parsed (scanned.ready below))
  have resolves := always shadowReply shadowTable rfl shadowTable_preorder shadowSizes ⟨1⟩ ⟨1⟩ 1 1 1 parsed _ _ _ ran
    built rfl
  have inner : shadowTable.kind 3 = some .element := by rfl
  obtain ⟨element, inside, order⟩ := scanned.element (show 3 < shadowTable.scanned by decide) inner
  have known := (scanned.resolves_iff below (List.prefix_refl _) inside).mp (resolves element inside)
  rw [order] at known
  have root := known 2 (by rfl)
  exact absurd root (by decide)

end Sample

end AgentycHost
