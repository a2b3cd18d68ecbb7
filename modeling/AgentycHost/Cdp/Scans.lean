import AgentycHost.Cdp.NodeTables

set_option autoImplicit false

/-!
# What a scan of a table keeps

A scanned row becomes one element or none. The elements come in the order of
their rows, and the flag is clear only if nothing of a row is cut.
-/

namespace AgentycHost

open Shared

variable {table : NodeTable} {parsed : ParsedDom} {count : Nat} {element : SnapshotElement}

section Texts

variable {room : Nat} {characters : List Char} {value : String} {maxBytes : Nat}

theorem fittingChars_starts : fittingChars room characters <+: characters := by
  induction characters generalizing room with
  | nil => exact List.prefix_refl []
  | cons character rest ih =>
    unfold fittingChars
    split
    next => exact (List.prefix_cons_inj character).mpr ih
    next => exact List.nil_prefix

theorem fittingChars_size : textSize (fittingChars room characters) ≤ room := by
  induction characters generalizing room with
  | nil => exact Nat.zero_le room
  | cons character rest ih =>
    unfold fittingChars
    split
    next fits =>
      have later := @ih (room - character.utf8Size)
      rw [textSize_cons]
      omega
    next => exact Nat.zero_le room

theorem boundedSnapshotText_size : (boundedSnapshotText value maxBytes).1.utf8ByteSize ≤ maxBytes := by
  rw [boundedSnapshotText, utf8ByteSize_eq, String.toList_ofList]
  exact fittingChars_size

theorem textSize_zero (nothing : textSize characters = 0) : characters = [] := by
  cases characters with
  | nil => rfl
  | cons character rest =>
    rw [textSize_cons] at nothing
    have least := character.utf8Size_pos
    omega

theorem boundedSnapshotText_whole (whole : (boundedSnapshotText value maxBytes).2 = false) :
    (boundedSnapshotText value maxBytes).1 = value := by
  unfold boundedSnapshotText at whole ⊢
  obtain ⟨rest, split⟩ := @fittingChars_starts maxBytes value.toList
  have sizes := of_decide_eq_false whole
  rw [utf8ByteSize_eq, utf8ByteSize_eq, String.toList_ofList, ← split, textSize_append, split] at sizes
  have nothing : rest = [] := textSize_zero (by omega)
  rw [nothing, List.append_nil] at split
  rw [split, String.ofList_toList]

end Texts

section Attributes

variable {read : AttributeMap × Bool} {pair entry : String × String} {pairs : List (String × String)}

theorem mem_insert_attribute (attributes : AttributeMap) (name value : String) :
    entry ∈ (attributes.insert name value).entries <->
      entry = (name, value) ∨ entry.1 ≠ name ∧ entry ∈ attributes.entries := by
  simp only [OrderedMap.insert, id, List.mem_append, List.mem_cons, List.mem_filter]
  constructor
  · rintro (⟨inside, before⟩ | rfl | ⟨inside, after⟩)
    · refine .inr ⟨?_, inside⟩
      rintro rfl
      rw [textBefore_irrefl] at before
      cases before
    · exact .inl rfl
    · refine .inr ⟨?_, inside⟩
      rintro rfl
      rw [textBefore_irrefl] at after
      cases after
  · rintro (rfl | ⟨apart, inside⟩)
    · exact .inr (.inl rfl)
    · obtain before | after := textBefore_total apart
      · exact .inl ⟨inside, before⟩
      · exact .inr (.inr ⟨inside, after⟩)

theorem insert_attribute_length (attributes : AttributeMap) (name value : String) :
    (attributes.insert name value).entries.length ≤ attributes.entries.length + 1 := by
  simp only [OrderedMap.insert, id]
  rw [List.length_append, List.length_cons]
  -- no entry is on both sides of the name
  have disjoint (entries : List (String × String)) :
      (entries.filter fun entry => textBefore entry.1 name).length +
        (entries.filter fun entry => textBefore name entry.1).length ≤ entries.length := by
    induction entries with
    | nil => exact Nat.le_refl 0
    | cons first rest ih =>
      rw [List.filter_cons, List.filter_cons, List.length_cons]
      split
      next before =>
        split
        next after =>
          have circle := textBefore_trans before after
          rw [textBefore_irrefl] at circle
          cases circle
        next =>
          rw [List.length_cons]
          omega
      next =>
        split
        next =>
          rw [List.length_cons]
          omega
        next => omega
  have most := disjoint attributes.entries
  omega

def AttributesFit (attributes : AttributeMap) : Prop :=
  attributes.entries.length ≤ 64 ∧ ∀ entry, entry ∈ attributes.entries -> checkAttribute entry = .ok ()

theorem addAttribute_fits (fit : AttributesFit read.1) : AttributesFit (addAttribute read pair).1 := by
  obtain ⟨bounded, valid⟩ := fit
  unfold addAttribute
  dsimp only
  split
  next => exact ⟨bounded, valid⟩
  next admitted =>
    split
    next room =>
      constructor
      · have grown := insert_attribute_length read.1 (boundedSnapshotText pair.1 128).1
          (boundedSnapshotText pair.2 cdpMaxAttributeValueBytes).1
        dsimp only at grown ⊢
        omega
      · intro entry inside
        obtain rfl | ⟨_, before⟩ := (mem_insert_attribute _ _ _).mp inside
        · have name : (boundedSnapshotText pair.1 128).1.utf8ByteSize ≤ 128 := boundedSnapshotText_size
          have value : (boundedSnapshotText pair.2 cdpMaxAttributeValueBytes).1.utf8ByteSize ≤ 1024 :=
            boundedSnapshotText_size
          simp only [ignoresName, Bool.or_eq_true, not_or, Bool.not_eq_true] at admitted
          refine bind_ok.mpr ⟨(), require_ok.mpr ?_, require_ok.mpr (decide_eq_true (value.trans (by decide)))⟩
          rw [admitted.1, Bool.false_or, Bool.not_eq_true', decide_eq_false_iff_not]
          exact Nat.not_lt.mpr name
        · exact valid entry before
    next => exact ⟨bounded, valid⟩

theorem folded_fits (pairs : List (String × String)) (fit : AttributesFit read.1) :
    AttributesFit (pairs.foldl addAttribute read).1 := by
  induction pairs generalizing read with
  | nil => exact fit
  | cons pair rest ih => exact ih (addAttribute_fits fit)

theorem readAttributes_fit (strings values : List Json) : AttributesFit (readAttributes strings values).1 :=
  folded_fits _ ⟨Nat.zero_le 64, fun _ inside => absurd inside List.not_mem_nil⟩

theorem addAttribute_whole (whole : (addAttribute read pair).2 = false) :
    read.2 = false ∧ (addAttribute read pair).1 = if ignoresName pair.1 then read.1 else read.1.insert pair.1 pair.2 := by
  unfold addAttribute at whole ⊢
  dsimp only at whole ⊢
  split at whole
  next ignored =>
    rw [Bool.or_eq_false_iff] at whole
    rw [boundedSnapshotText_whole whole.2] at ignored ⊢
    rw [if_pos ignored, if_pos ignored]
    exact ⟨whole.1, rfl⟩
  next admitted =>
    split at whole
    next room =>
      rw [Bool.or_eq_false_iff, Bool.or_eq_false_iff] at whole
      obtain ⟨before, name, value⟩ := whole
      rw [boundedSnapshotText_whole name] at admitted ⊢
      rw [boundedSnapshotText_whole value, if_neg admitted, if_neg admitted, if_pos room]
      exact ⟨before, rfl⟩
    next => cases whole

theorem folded_whole (whole : (pairs.foldl addAttribute read).2 = false) : read.2 = false := by
  induction pairs generalizing read with
  | nil => exact whole
  | cons pair rest ih => exact (addAttribute_whole (ih whole)).1

theorem folded_keeps (whole : (pairs.foldl addAttribute read).2 = false) (inside : entry ∈ read.1.entries)
    (last : ∀ later, later ∈ pairs -> later.1 ≠ entry.1) : entry ∈ (pairs.foldl addAttribute read).1.entries := by
  induction pairs generalizing read with
  | nil => exact inside
  | cons pair rest ih =>
    refine ih whole ?_ fun later follows => last later (List.mem_cons_of_mem _ follows)
    rw [(addAttribute_whole (folded_whole whole)).2]
    split
    next => exact inside
    next => exact (mem_insert_attribute _ _ _).mpr (.inr ⟨(last pair List.mem_cons_self).symm, inside⟩)

def GivenLast (pairs : List (String × String)) (pair : String × String) : Prop :=
  ignoresName pair.1 = false ∧
    ∃ before after, pairs = before ++ pair :: after ∧ ∀ later, later ∈ after -> later.1 ≠ pair.1

theorem folded_admits (whole : (pairs.foldl addAttribute read).2 = false) (given : GivenLast pairs pair) :
    pair ∈ (pairs.foldl addAttribute read).1.entries := by
  obtain ⟨admitted, before, after, rfl, last⟩ := given
  rw [List.foldl_append, List.foldl_cons] at whole ⊢
  refine folded_keeps whole ?_ last
  rw [(addAttribute_whole (folded_whole whole)).2, admitted]
  exact (mem_insert_attribute _ _ _).mpr (.inl rfl)

theorem readAttributes_whole {strings values : List Json} (whole : (readAttributes strings values).2 = false)
    (given : GivenLast (pairTexts strings values) pair) : pair ∈ (readAttributes strings values).1.entries := by
  unfold readAttributes at whole ⊢
  dsimp only at whole ⊢
  exact folded_admits (Bool.or_eq_false_iff.mp whole).1 given

end Attributes

section Rows

variable {next : ParsedDom} {index : Nat} {kind : ElementKind}

theorem nodeKey_ok {failure : String} (counted : index ≤ u64Max) :
    ∃ key, nodeKey index failure = .ok key ∧ key.suffix = toString index := by
  have valid : validateIdentifier "element_" (toString index) = true := decimal_identifier (by decide) counted
  refine ⟨⟨toString index, valid⟩, ?_, rfl⟩
  rw [nodeKey, Identifier.fromSuffix, dif_pos valid]
  rfl

theorem asU64_bound {value : Json} {number : Nat} (read : value.asU64 = some number) : number ≤ u64Max := by
  unfold Json.asU64 at read
  split at read
  next whole =>
    split at read
    next within =>
      obtain rfl := Option.some.inj read
      unfold u64Max
      omega
    next => cases read
  next => cases read

theorem parentKey_ok : ∃ parent, table.parentKey index = .ok parent ∧
    parent.map Identifier.suffix = (table.parentIndex index).map toString := by
  unfold NodeTable.parentKey
  cases found : table.parentIndex index with
  | none => exact ⟨none, rfl, rfl⟩
  | some parent =>
    obtain ⟨_, _, read⟩ := Option.bind_eq_some_iff.mp found
    obtain ⟨key, made, suffix⟩ := nodeKey_ok (asU64_bound read)
    refine ⟨some key, ?_, by rw [Option.map_some, suffix]; rfl⟩
    dsimp only
    rw [made]
    rfl

structure FromRow (table : NodeTable) (element : SnapshotElement) : Prop where
  kind : table.kind element.order = some element.kind
  key : element.key.suffix = toString element.order
  parent : element.parent.map Identifier.suffix = (table.parentIndex element.order).map toString
  text : element.text = (table.rowText element.kind element.order).1
  attributes : element.attributes = (readAttributes table.strings (table.attributeValues element.order)).1

def NodeTable.rowTruncated (table : NodeTable) (kind : ElementKind) (index : Nat) : Bool :=
  (table.rowText kind index).2 || (readAttributes table.strings (table.attributeValues index)).2

structure RowAdded (table : NodeTable) (parsed next : ParsedDom) (element : SnapshotElement) : Prop where
  fromRow : FromRow table element
  elements : next.elements = parsed.elements ++ [element]
  nodes : ∀ key, next.backendNodes.contains key = true -> key = element.key ∨ parsed.backendNodes.contains key = true
  truncated : next.truncated = (parsed.truncated || table.rowTruncated element.kind element.order)

theorem scanRow_skips (skipped : table.kind index = none) : table.scanRow parsed index = .ok parsed := by
  rw [NodeTable.scanRow, skipped]

theorem scanRow_takes (taken : table.kind index = some kind) (small : index ≤ u32Max) :
    ∃ next element, table.scanRow parsed index = .ok next ∧ element.order = index ∧
      RowAdded table parsed next element := by
  obtain ⟨key, made, suffix⟩ := @nodeKey_ok index "Chrome DevTools node key is invalid" (small.trans (by decide))
  obtain ⟨parent, found, named⟩ := @parentKey_ok table index
  let element : SnapshotElement :=
    { key, parent, kind, text := (table.rowText kind index).1
      attributes := (readAttributes table.strings (table.attributeValues index)).1, order := index }
  refine ⟨parsed.add element (table.backendId index) (table.rowTruncated kind index), element, ?_, rfl,
    ⟨taken, suffix, named, rfl, rfl⟩, rfl, ?_, rfl⟩
  · rw [NodeTable.scanRow, taken]
    exact bind_ok.mpr ⟨key, made, bind_ok.mpr ⟨parent, found,
      bind_ok.mpr ⟨(), require_ok.mpr (decide_eq_true small), rfl⟩⟩⟩
  · intro asked bound
    unfold ParsedDom.add at bound
    cases node : table.backendId index with
    | none =>
      rw [node] at bound
      exact .inr bound
    | some backendId =>
      rw [node, Option.map_some, Option.getD_some, Table.contains, Table.get?_insert] at bound
      split at bound
      next same => exact .inl same
      next => exact .inr bound

structure Scanned (table : NodeTable) (count : Nat) (parsed : ParsedDom) : Prop where
  orders : parsed.elements.map SnapshotElement.order = (List.range count).filter fun index => (table.kind index).isSome
  fromRows : ∀ element, element ∈ parsed.elements -> FromRow table element
  nodes : ∀ key, parsed.backendNodes.contains key = true -> ∃ element, element ∈ parsed.elements ∧ element.key = key
  truncated : parsed.truncated = (decide (cdpMaxSnapshotElements < table.rows) ||
    parsed.elements.any fun element => table.rowTruncated element.kind element.order)

theorem Scanned.skips (scanned : Scanned table count parsed) (skipped : table.kind count = none) :
    Scanned table (count + 1) parsed := by
  refine { scanned with orders := ?_ }
  rw [List.range_succ, List.filter_append, ← scanned.orders, List.filter_cons, skipped]
  exact (List.append_nil _).symm

theorem Scanned.takes (scanned : Scanned table count parsed) (counted : element.order = count)
    (added : RowAdded table parsed next element) : Scanned table (count + 1) next := by
  obtain ⟨fromRow, elements, nodes, truncated⟩ := added
  constructor
  case orders =>
    have kept : (table.kind count).isSome = true := by rw [← counted, fromRow.kind, Option.isSome_some]
    rw [elements, List.map_append, scanned.orders, List.range_succ, List.filter_append, List.filter_cons, kept, if_pos rfl,
      List.map_cons, counted]
    rfl
  case fromRows =>
    intro other inside
    rw [elements, List.mem_append, List.mem_singleton] at inside
    obtain before | rfl := inside
    · exact scanned.fromRows other before
    · exact fromRow
  case nodes =>
    intro key bound
    rw [elements]
    obtain rfl | before := nodes key bound
    · exact ⟨element, List.mem_append_right _ List.mem_cons_self, rfl⟩
    · obtain ⟨other, inside, same⟩ := scanned.nodes key before
      exact ⟨other, List.mem_append_left _ inside, same⟩
  case truncated =>
    rw [truncated, scanned.truncated, elements, List.any_append, List.any_cons, List.any_nil, Bool.or_false, Bool.or_assoc]

theorem Scanned.whole (scanned : Scanned table count parsed) (clear : parsed.truncated = false) :
    table.rows ≤ cdpMaxSnapshotElements ∧
      ∀ element, element ∈ parsed.elements -> table.rowTruncated element.kind element.order = false := by
  rw [scanned.truncated, Bool.or_eq_false_iff, List.any_eq_false] at clear
  obtain ⟨few, each⟩ := clear
  exact ⟨Nat.not_lt.mp (of_decide_eq_false few), fun element inside => Bool.not_eq_true _ ▸ each element inside⟩

theorem scan_scans (table : NodeTable) : ∃ parsed, table.scan = .ok parsed ∧ Scanned table table.scanned parsed := by
  have each (count : Nat) (few : count ≤ cdpMaxSnapshotElements) :
      ∃ parsed, (List.range count).foldlM table.scanRow
        { elements := [], backendNodes := ∅, truncated := decide (cdpMaxSnapshotElements < table.rows) } = .ok parsed ∧
          Scanned table count parsed := by
    induction count with
    | zero =>
      refine ⟨_, rfl, rfl, fun _ inside => absurd inside List.not_mem_nil, ?_, (Bool.or_false _).symm⟩
      intro key bound
      rw [Table.contains, Table.get?_empty] at bound
      cases bound
    | succ count ih =>
      obtain ⟨parsed, ran, scanned⟩ := ih (Nat.le_of_succ_le few)
      rw [List.range_succ, List.foldlM_append, ran]
      cases taken : table.kind count with
      | none =>
        refine ⟨parsed, bind_ok.mpr ⟨parsed, rfl, ?_⟩, scanned.skips taken⟩
        rw [List.foldlM_cons, scanRow_skips taken]
        rfl
      | some kind =>
        have small : count ≤ u32Max := (Nat.le_of_succ_le few).trans (by decide)
        obtain ⟨next, element, ran', counted, added⟩ := @scanRow_takes table parsed count kind taken small
        refine ⟨next, bind_ok.mpr ⟨parsed, rfl, ?_⟩, scanned.takes counted added⟩
        rw [List.foldlM_cons, ran']
        rfl
  exact each table.scanned (Nat.min_le_right _ _)

end Rows

section Bodies

variable {elements kept : List SnapshotElement}

def NodeTable.ParentsBelow (table : NodeTable) : Prop :=
  ∀ index parent, table.parentIndex index = some parent -> parent < index

theorem rowText_size {kind : ElementKind} {index : Nat} {text : String}
    (told : (table.rowText kind index).1 = some text) : text.utf8ByteSize ≤ cdpMaxSnapshotTextBytes := by
  unfold NodeTable.rowText at told
  split at told
  next =>
    obtain rfl := Option.some.inj told
    exact boundedSnapshotText_size
  next => cases told

theorem attributes_checked {entries : List (String × String)}
    (valid : ∀ entry, entry ∈ entries -> checkAttribute entry = .ok ()) : entries.forM checkAttribute = .ok () := by
  induction entries with
  | nil => rfl
  | cons first rest ih =>
    have later := ih fun entry inside => valid entry (List.mem_cons_of_mem _ inside)
    exact bind_ok.mpr ⟨(), valid first List.mem_cons_self, later⟩

theorem FromRow.valid (fromRow : FromRow table element) (below : table.ParentsBelow) : element.validate = .ok () := by
  obtain ⟨_, key, parent, text, attributes⟩ := fromRow
  have fit := readAttributes_fit table.strings (table.attributeValues element.order)
  rw [← attributes] at fit
  have apart : (element.parent != some element.key) = true := by
    rw [bne_iff_ne]
    intro own
    rw [own, Option.map_some, key] at parent
    obtain ⟨index, found, same⟩ := Option.map_eq_some_iff.mp parent.symm
    obtain rfl : index = element.order := decimal_inj same
    exact absurd (below _ _ found) (Nat.lt_irrefl _)
  have short : (!element.text.any fun text => decide (maxSnapshotTextBytes < text.utf8ByteSize)) = true := by
    cases told : element.text with
    | none => rfl
    | some value =>
      rw [told] at text
      have size := (rowText_size text.symm).trans (show cdpMaxSnapshotTextBytes ≤ maxSnapshotTextBytes by decide)
      rw [Option.any_some, Bool.not_eq_true', decide_eq_false_iff_not]
      exact Nat.not_lt.mpr size
  unfold SnapshotElement.validate
  exact bind_ok.mpr ⟨(), require_ok.mpr apart, bind_ok.mpr ⟨(), require_ok.mpr short,
    bind_ok.mpr ⟨(), require_ok.mpr (decide_eq_true fit.1), attributes_checked fit.2⟩⟩⟩

theorem Scanned.rising (scanned : Scanned table count parsed) :
    parsed.elements.Pairwise fun first second => first.order < second.order := by
  have sorted : ((List.range count).filter fun index => (table.kind index).isSome).Pairwise (· < ·) :=
    List.pairwise_lt_range.filter _
  rw [← scanned.orders] at sorted
  exact List.pairwise_map.mp sorted

theorem Scanned.unique (scanned : Scanned table count parsed) : UniqueKeys SnapshotElement.key parsed.elements := by
  refine List.pairwise_map.mpr (scanned.rising.imp_of_mem ?_)
  intro first second inside there less same
  have named := (scanned.fromRows first inside).key
  rw [same, (scanned.fromRows second there).key] at named
  rw [decimal_inj named] at less
  exact absurd less (Nat.lt_irrefl _)

theorem Scanned.bounded (scanned : Scanned table count parsed) : parsed.elements.length ≤ count := by
  have size := congrArg List.length scanned.orders
  rw [List.length_map] at size
  rw [size]
  exact (List.length_filter_le _ _).trans (Nat.le_of_eq List.length_range)

structure BodyReady (elements : List SnapshotElement) : Prop where
  bounded : elements.length ≤ maxSnapshotElements
  valid : AllValid elements
  unique : UniqueKeys SnapshotElement.key elements
  rising : elements.Pairwise fun first second => first.order < second.order

theorem Scanned.ready (scanned : Scanned table table.scanned parsed) (below : table.ParentsBelow) :
    BodyReady parsed.elements where
  bounded := scanned.bounded.trans ((Nat.min_le_right _ _).trans (by decide))
  valid element inside := (scanned.fromRows element inside).valid below
  unique := scanned.unique
  rising := scanned.rising

theorem BodyReady.starts (ready : BodyReady elements) (starts : kept <+: elements) : BodyReady kept where
  bounded := starts.length_le.trans ready.bounded
  valid element inside := ready.valid element (starts.subset inside)
  unique := ready.unique.sublist (starts.sublist.map _)
  rising := ready.rising.sublist starts.sublist

def readyDocument (version : SnapshotVersion) (elements : List SnapshotElement) : SnapshotDocument where
  snapshotVersion := version
  elements := elements
  snapshotHash := hashElements elements

theorem BodyReady.made (ready : BodyReady elements) (version : SnapshotVersion) :
    SnapshotDocument.make version elements = .ok (readyDocument version elements) :=
  SnapshotDocument.make_ok.mpr
    ⟨normalizeElements_ok.mpr ⟨ready.bounded, .refl _, ready.unique, ready.rising⟩, ready.valid, rfl⟩

end Bodies

section Envelopes

variable (sizes : SnapshotSizes) (spaceId : SpaceId) (pageId : PageId) (navigationGeneration documentGeneration version : Nat)
  {last : SnapshotElement} {more : List SnapshotElement}

def envelopeOfFirst (total : Nat) (truncated : Bool) (kept : List SnapshotElement) : ContextEnvelope :=
  documentEnvelope spaceId pageId navigationGeneration documentGeneration version (readyDocument version kept)
    (truncated || decide (kept.length < total))

structure Fitted (elements : List SnapshotElement) (truncated : Bool) (kept : List SnapshotElement) : Prop where
  starts : kept <+: elements
  fits : sizes.serialized (envelopeOfFirst spaceId pageId navigationGeneration documentGeneration version
    elements.length truncated kept) ≤ cdpMaxSnapshotBytes
  most : ∀ more, more <+: elements -> kept.length < more.length ->
    cdpMaxSnapshotBytes < sizes.serialized (envelopeOfFirst spaceId pageId navigationGeneration documentGeneration version
      elements.length truncated more)

def tooLargeError : CoreError := .new .messageTooLarge "logical DOM snapshot exceeds the host byte limit"

def carriedNodes (backendNodes : Table ElementKey Int) (kept : List SnapshotElement) : Table ElementKey Int :=
  backendNodes.filter fun key _ => kept.any fun element => element.key == key

inductive FitEnds (backendNodes : Table ElementKey Int) (elements : List SnapshotElement) (truncated : Bool) :
    Except CoreError (ContextEnvelope × Table ElementKey Int) -> Prop where
  | fitted {kept : List SnapshotElement}
      (fitted : Fitted sizes spaceId pageId navigationGeneration documentGeneration version elements truncated kept) :
      FitEnds backendNodes elements truncated (.ok (envelopeOfFirst spaceId pageId navigationGeneration
        documentGeneration version elements.length truncated kept, carriedNodes backendNodes kept))
  | tooLarge
      (large : ∀ more, more <+: elements -> more ≠ [] ->
        cdpMaxSnapshotBytes < sizes.serialized (envelopeOfFirst spaceId pageId navigationGeneration documentGeneration
          version elements.length truncated more)) :
      FitEnds backendNodes elements truncated (.error tooLargeError)

variable {sizes spaceId pageId navigationGeneration documentGeneration version}

theorem documentEnvelope_valid {kept : List SnapshotElement} (ready : BodyReady kept) (truncated : Bool) :
    (documentEnvelope spaceId pageId navigationGeneration documentGeneration version (readyDocument version kept)
      truncated).validate = .ok () := by
  have fields : (documentEnvelope spaceId pageId navigationGeneration documentGeneration version
      (readyDocument version kept) truncated).checkFields = .ok () := by
    cases truncated <;> rfl
  have elements : (documentEnvelope spaceId pageId navigationGeneration documentGeneration version
      (readyDocument version kept) truncated).checkElements kept = .ok () := by
    have same : ((readyDocument version kept).elements == kept) = true := beq_self_eq_true kept
    refine bind_ok.mpr ⟨(), require_ok.mpr (decide_eq_true ready.bounded), bind_ok.mpr ⟨(), rfl,
      bind_ok.mpr ⟨readyDocument version kept, ready.made version, bind_ok.mpr ⟨(), require_ok.mpr same, ?_⟩⟩⟩⟩
    exact bind_ok.mpr ⟨(), require_ok.mpr (beq_self_eq_true _), require_ok.mpr (beq_self_eq_true _)⟩
  have body : (documentEnvelope spaceId pageId navigationGeneration documentGeneration version
      (readyDocument version kept) truncated).checkBody = .ok () := by
    cases truncated <;> exact elements
  refine bind_ok.mpr ⟨(), fields, bind_ok.mpr ⟨(), body, ?_⟩⟩
  cases truncated <;> rfl

variable {backendNodes : Table ElementKey Int} {reversed : List SnapshotElement} {truncated : Bool}

def roundEnvelope (spaceId : SpaceId) (pageId : PageId) (navigationGeneration documentGeneration version : Nat)
    (reversed : List SnapshotElement) (truncated : Bool) : ContextEnvelope :=
  documentEnvelope spaceId pageId navigationGeneration documentGeneration version (readyDocument version reversed.reverse)
    truncated

theorem round_passes (ready : BodyReady reversed.reverse)
    (fits : sizes.serialized (roundEnvelope spaceId pageId navigationGeneration documentGeneration version reversed
      truncated) ≤ cdpMaxSnapshotBytes) :
    ParsedDom.fitElements sizes spaceId pageId navigationGeneration documentGeneration version backendNodes reversed
      truncated = .ok (roundEnvelope spaceId pageId navigationGeneration documentGeneration version reversed truncated,
        carriedNodes backendNodes reversed.reverse) := by
  unfold ParsedDom.fitElements
  rw [ready.made]
  unfold roundEnvelope at fits ⊢
  have valid := @documentEnvelope_valid spaceId pageId navigationGeneration documentGeneration version _ ready truncated
  refine bind_ok.mpr ⟨_, rfl, ?_⟩
  dsimp only
  rw [if_pos fits, valid]
  rfl

theorem round_drops (ready : BodyReady (last :: reversed).reverse) (others : reversed ≠ [])
    (large : cdpMaxSnapshotBytes < sizes.serialized (roundEnvelope spaceId pageId navigationGeneration documentGeneration
      version (last :: reversed) truncated)) :
    ParsedDom.fitElements sizes spaceId pageId navigationGeneration documentGeneration version backendNodes
        (last :: reversed) truncated =
      ParsedDom.fitElements sizes spaceId pageId navigationGeneration documentGeneration version backendNodes reversed
        true := by
  obtain ⟨second, rest, rfl⟩ := List.exists_cons_of_ne_nil others
  rw [ParsedDom.fitElements, ready.made]
  · exact if_neg (Nat.not_le.mpr large)
  · exact others

theorem round_fails (ready : BodyReady reversed.reverse) (few : reversed.length ≤ 1)
    (large : cdpMaxSnapshotBytes < sizes.serialized (roundEnvelope spaceId pageId navigationGeneration documentGeneration
      version reversed truncated)) :
    ParsedDom.fitElements sizes spaceId pageId navigationGeneration documentGeneration version backendNodes reversed
      truncated = .error tooLargeError := by
  unfold ParsedDom.fitElements
  rw [ready.made]
  cases reversed with
  | nil => exact if_neg (Nat.not_le.mpr large)
  | cons last rest =>
    obtain rfl : rest = [] := List.eq_nil_of_length_eq_zero (by simpa using few)
    exact if_neg (Nat.not_le.mpr large)

theorem envelopeOfFirst_whole : envelopeOfFirst spaceId pageId navigationGeneration documentGeneration version
    reversed.reverse.length truncated reversed.reverse =
      roundEnvelope spaceId pageId navigationGeneration documentGeneration version reversed truncated := by
  rw [envelopeOfFirst, decide_eq_false (Nat.lt_irrefl _), Bool.or_false]
  rfl

theorem envelopeOfFirst_dropped (starts : more <+: reversed.reverse) :
    envelopeOfFirst spaceId pageId navigationGeneration documentGeneration version (last :: reversed).reverse.length
        truncated more =
      envelopeOfFirst spaceId pageId navigationGeneration documentGeneration version reversed.reverse.length true more := by
  have shorter : more.length < (last :: reversed).reverse.length := by
    have most := starts.length_le
    rw [List.length_reverse] at most ⊢
    rw [List.length_cons]
    omega
  rw [envelopeOfFirst, envelopeOfFirst, decide_eq_true shorter, Bool.or_true, Bool.true_or]

theorem fitElements_whole (ready : BodyReady reversed.reverse)
    (fits : sizes.serialized (roundEnvelope spaceId pageId navigationGeneration documentGeneration version reversed
      truncated) ≤ cdpMaxSnapshotBytes) :
    FitEnds sizes spaceId pageId navigationGeneration documentGeneration version backendNodes reversed.reverse truncated
      (ParsedDom.fitElements sizes spaceId pageId navigationGeneration documentGeneration version backendNodes reversed
        truncated) := by
  rw [round_passes ready fits, ← envelopeOfFirst_whole]
  refine .fitted ⟨List.prefix_refl _, ?_, ?_⟩
  · rw [envelopeOfFirst_whole]
    exact fits
  · intro more starts longer
    exact absurd starts.length_le (Nat.not_le.mpr longer)

theorem starts_cases (starts : more <+: (last :: reversed).reverse) :
    more = (last :: reversed).reverse ∨ more <+: reversed.reverse := by
  rw [List.reverse_cons] at starts ⊢
  exact List.prefix_concat_iff.mp starts

theorem FitEnds.dropped {result : Except CoreError (ContextEnvelope × Table ElementKey Int)}
    (large : cdpMaxSnapshotBytes < sizes.serialized (roundEnvelope spaceId pageId navigationGeneration documentGeneration
      version (last :: reversed) truncated))
    (ends : FitEnds sizes spaceId pageId navigationGeneration documentGeneration version backendNodes reversed.reverse true
      result) :
    FitEnds sizes spaceId pageId navigationGeneration documentGeneration version backendNodes (last :: reversed).reverse
      truncated result := by
  have whole {more : List SnapshotElement} (same : more = (last :: reversed).reverse) :
      cdpMaxSnapshotBytes < sizes.serialized (envelopeOfFirst spaceId pageId navigationGeneration documentGeneration
        version (last :: reversed).reverse.length truncated more) := by
    rw [same, envelopeOfFirst_whole]
    exact large
  cases ends with
  | fitted fitted =>
    obtain ⟨starts, fits, most⟩ := fitted
    rw [← envelopeOfFirst_dropped starts]
    refine .fitted ⟨starts.trans ?_, ?_, ?_⟩
    · rw [List.reverse_cons]
      exact List.prefix_append _ _
    · rw [envelopeOfFirst_dropped starts]
      exact fits
    · intro more begins longer
      obtain same | shorter := starts_cases begins
      · exact whole same
      · rw [envelopeOfFirst_dropped shorter]
        exact most more shorter longer
  | tooLarge small =>
    refine .tooLarge fun more begins filled => ?_
    obtain same | shorter := starts_cases begins
    · exact whole same
    · rw [envelopeOfFirst_dropped shorter]
      exact small more shorter filled

theorem fitElements_ends (ready : BodyReady reversed.reverse) :
    FitEnds sizes spaceId pageId navigationGeneration documentGeneration version backendNodes reversed.reverse truncated
      (ParsedDom.fitElements sizes spaceId pageId navigationGeneration documentGeneration version backendNodes reversed
        truncated) := by
  induction reversed generalizing truncated with
  | nil =>
    by_cases fits : sizes.serialized (roundEnvelope spaceId pageId navigationGeneration documentGeneration version []
        truncated) ≤ cdpMaxSnapshotBytes
    · exact fitElements_whole ready fits
    · rw [round_fails ready (Nat.zero_le 1) (Nat.not_le.mp fits)]
      exact .tooLarge fun more starts filled => absurd (List.prefix_nil.mp starts) filled
  | cons last rest ih =>
    by_cases fits : sizes.serialized (roundEnvelope spaceId pageId navigationGeneration documentGeneration version
        (last :: rest) truncated) ≤ cdpMaxSnapshotBytes
    · exact fitElements_whole ready fits
    · have large := Nat.not_le.mp fits
      by_cases alone : rest = []
      · subst alone
        rw [round_fails ready (Nat.le_refl 1) large]
        refine .tooLarge fun more starts filled => ?_
        obtain same | none := starts_cases starts
        · rw [same, envelopeOfFirst_whole]
          exact large
        · exact absurd (List.prefix_nil.mp none) filled
      · rw [round_drops ready alone large]
        refine .dropped large (ih (ready.starts ?_))
        rw [List.reverse_cons]
        exact List.prefix_append _ _

theorem buildSnapshotEnvelope_ends {parsed : ParsedDom} (ready : BodyReady parsed.elements) :
    FitEnds sizes spaceId pageId navigationGeneration documentGeneration version parsed.backendNodes parsed.elements
      parsed.truncated
      (parsed.buildSnapshotEnvelope sizes spaceId pageId navigationGeneration documentGeneration version) := by
  rw [← List.reverse_reverse parsed.elements] at ready
  have ends := @fitElements_ends sizes spaceId pageId navigationGeneration documentGeneration version parsed.backendNodes
    _ parsed.truncated ready
  rw [List.reverse_reverse] at ends
  exact ends

theorem FitEnds.all {elements : List SnapshotElement}
    {outcome : Except CoreError (ContextEnvelope × Table ElementKey Int)}
    (small : ∀ envelope, sizes.serialized envelope ≤ cdpMaxSnapshotBytes) (filled : elements ≠ [])
    (ends : FitEnds sizes spaceId pageId navigationGeneration documentGeneration version backendNodes elements truncated
      outcome) :
    outcome = .ok (envelopeOfFirst spaceId pageId navigationGeneration documentGeneration version elements.length truncated
      elements, carriedNodes backendNodes elements) := by
  cases ends with
  | @fitted kept fitted =>
    have whole : kept = elements := by
      apply fitted.starts.eq_of_length_le
      apply Nat.not_lt.mp
      intro shorter
      exact absurd (small _) (Nat.not_le.mpr (fitted.most elements (List.prefix_refl _) shorter))
    rw [whole]
  | tooLarge large => exact absurd (small _) (Nat.not_le.mpr (large elements (List.prefix_refl _) filled))

end Envelopes

end AgentycHost
