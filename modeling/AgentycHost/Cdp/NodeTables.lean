import AgentycHost.Cdp.Capture
import AgentycHost.Context.Envelopes
import AgentycHost.Core.Frames
import AgentycHost.Core.Texts
import AgentycHost.Effects.Canonical
import AgentycHost.Shared.Encodings

set_option autoImplicit false

/-!
# Chrome's table of nodes

A DOM snapshot has one row per node, in columns. The rows of documents, elements
and texts become the elements of an envelope; each bound that cuts something is
noted in one flag.
-/

namespace AgentycHost

open Shared

def cdpMaxSnapshotTextBytes : Nat := 16 * 1024
def cdpMaxAttributeValueBytes : Nat := 1024

section Maps

variable {K V : Type} {text : K -> String} {second first : String}

theorem textBefore_trans {third : String} (one : textBefore first second = true)
    (two : textBefore second third = true) : textBefore first third = true := by
  unfold textBefore at one two ⊢
  rw [decide_eq_true_eq] at one two ⊢
  exact one.trans two

theorem textBefore_irrefl (text : String) : textBefore text text = false := by
  unfold textBefore
  exact decide_eq_false (lt_irrefl _)

theorem textBefore_total (apart : first ≠ second) :
    textBefore first second = true ∨ textBefore second first = true := by
  unfold textBefore
  rw [decide_eq_true_eq, decide_eq_true_eq]
  exact lt_or_gt_of_ne fun same => apart (bytes_inj same)

def OrderedMap.insert (map : OrderedMap K V text) (key : K) (value : V) : OrderedMap K V text where
  entries := (map.entries.filter fun entry => textBefore (text entry.1) (text key)) ++
    (key, value) :: map.entries.filter fun entry => textBefore (text key) (text entry.1)
  sorted := by
    refine List.pairwise_append.mpr ⟨map.sorted.filter _, List.pairwise_cons.mpr ⟨?_, map.sorted.filter _⟩, ?_⟩
    · intro entry inside
      exact (List.mem_filter.mp inside).2
    · intro entry inside other there
      have before := (List.mem_filter.mp inside).2
      obtain rfl | later := List.mem_cons.mp there
      · exact before
      · exact textBefore_trans before (List.mem_filter.mp later).2

end Maps

section Texts

def snapshotString (strings : List Json) (value : Json) : String :=
  match value.asStr with
  | some text => text
  | none => ((value.asU64.bind (strings[·]?)).bind Json.asStr).getD ""

def fittingChars : Nat -> List Char -> List Char
  | _, [] => []
  | room, character :: rest =>
      if character.utf8Size ≤ room then character :: fittingChars (room - character.utf8Size) rest else []

def boundedSnapshotText (value : String) (maxBytes : Nat) : String × Bool :=
  let kept := String.ofList (fittingChars maxBytes value.toList)
  (kept, decide (kept.utf8ByteSize < value.utf8ByteSize))

end Texts

section Attributes

def ignoredNames : List String := ["__proto__", "constructor", "prototype"]

def ignoresName (name : String) : Bool := name.isEmpty || ignoredNames.contains name

def pairTexts (strings values : List Json) : List (String × String) :=
  (attributePairs values).map fun pair => (snapshotString strings pair.1, snapshotString strings pair.2)

def addAttribute (read : AttributeMap × Bool) (pair : String × String) : AttributeMap × Bool :=
  let (name, nameTruncated) := boundedSnapshotText pair.1 128
  if ignoresName name then (read.1, read.2 || nameTruncated)
  else
    let (value, valueTruncated) := boundedSnapshotText pair.2 cdpMaxAttributeValueBytes
    if read.1.entries.length < 64 then (read.1.insert name value, read.2 || (nameTruncated || valueTruncated))
    else (read.1, true)

def readAttributes (strings values : List Json) : AttributeMap × Bool :=
  let read := (pairTexts strings values).foldl addAttribute (.empty, false)
  (read.1, read.2 || values.length % 2 != 0)

end Attributes

section Tables

structure NodeTable where
  rows : Nat
  types : List Json
  values : List Json
  parents : List Json
  attributes : List Json
  backendIds : List Json
  strings : List Json

def nodeColumn (nodes : Json) (name : String) : List Json := ((nodes.get name).bind Json.asArray).getD []

def readTable (result : Json) : Except CoreError NodeTable := do
  let document <- orElse (((result.get "documents").bind Json.asArray).bind List.head?)
    (.new .capabilityUnavailable "Chrome DevTools returned no page document snapshot")
  let nodes <- orElse (document.get "nodes")
    (.new .protocolMismatch "Chrome DevTools document node table is invalid")
  let names <- orElse ((nodes.get "nodeName").bind Json.asArray)
    (.new .protocolMismatch "Chrome DevTools document node names are invalid")
  pure
    { rows := names.length, types := nodeColumn nodes "nodeType", values := nodeColumn nodes "nodeValue"
      parents := nodeColumn nodes "parentIndex", attributes := nodeColumn nodes "attributes"
      backendIds := nodeColumn nodes "backendNodeId", strings := nodeColumn result "strings" }

def nodeKind : Nat -> Option ElementKind
  | 9 => some .root
  | 3 => some .text
  | 1 => some .element
  | _ => none

def nodeKey (index : Nat) (failure : String) : Except CoreError ElementKey :=
  orElse (Identifier.fromSuffix _ (toString index)) (.new .invalidJson failure)

structure ParsedDom where
  elements : List SnapshotElement
  backendNodes : Table ElementKey Int
  truncated : Bool

def ParsedDom.add (parsed : ParsedDom) (element : SnapshotElement) (backendId : Option Int) (truncated : Bool) :
    ParsedDom where
  elements := parsed.elements ++ [element]
  backendNodes := (backendId.map (parsed.backendNodes.insert element.key ·)).getD parsed.backendNodes
  truncated := parsed.truncated || truncated

namespace NodeTable

variable (table : NodeTable)

def scanned : Nat := min table.rows cdpMaxSnapshotElements

def kind (index : Nat) : Option ElementKind := ((table.types[index]?).bind Json.asU64).bind nodeKind

/-- A row without a parent has -1 there. -/
def parentIndex (index : Nat) : Option Nat := (table.parents[index]?).bind Json.asU64

def text (index : Nat) : String := ((table.values[index]?).map (snapshotString table.strings)).getD ""

def attributeValues (index : Nat) : List Json := ((table.attributes[index]?).bind Json.asArray).getD []

def backendId (index : Nat) : Option Int := (table.backendIds[index]?).bind Json.asI64

def parentKey (index : Nat) : Except CoreError (Option ElementKey) :=
  match table.parentIndex index with
  | none => .ok none
  | some parent => (nodeKey parent "Chrome DevTools parent node key is invalid").map some

def rowText (kind : ElementKind) (index : Nat) : Option String × Bool :=
  if kind = .text then
    let (text, truncated) := boundedSnapshotText (table.text index) cdpMaxSnapshotTextBytes
    (some text, truncated)
  else (none, false)

def scanRow (parsed : ParsedDom) (index : Nat) : Except CoreError ParsedDom :=
  match table.kind index with
  | none => .ok parsed
  | some kind => do
      let key <- nodeKey index "Chrome DevTools node key is invalid"
      let parent <- table.parentKey index
      let (text, textTruncated) := table.rowText kind index
      let (attributes, attributesTruncated) := readAttributes table.strings (table.attributeValues index)
      require (decide (index ≤ u32Max)) (.new .messageTooLarge "Chrome DevTools document has too many nodes")
      pure (parsed.add { key, parent, kind, text, attributes, order := index } (table.backendId index)
        (textTruncated || attributesTruncated))

def scan : Except CoreError ParsedDom :=
  (List.range table.scanned).foldlM table.scanRow
    { elements := [], backendNodes := ∅, truncated := decide (cdpMaxSnapshotElements < table.rows) }

end NodeTable

def parseDomSnapshot (result : Json) : Except CoreError ParsedDom := do
  let table <- readTable result
  let parsed <- table.scan
  require (!parsed.elements.isEmpty)
    (.new .capabilityUnavailable "Chrome DevTools DOM snapshot contained no logical nodes")
  pure parsed

end Tables

section Envelopes

/-- The sizes of `serde_json`'s texts. -/
structure SnapshotSizes where
  body : SnapshotBody -> Nat
  envelope : ContextEnvelope -> (transportBytes utf8Bytes : Nat) -> Nat

def SnapshotSizes.serialized (sizes : SnapshotSizes) (envelope : ContextEnvelope) : Nat :=
  let bodyBytes := sizes.body envelope.deltaOrElements
  sizes.envelope envelope (sizes.envelope envelope 0 bodyBytes) bodyBytes

variable (sizes : SnapshotSizes) (spaceId : SpaceId) (pageId : PageId) (navigationGeneration documentGeneration version : Nat)

def documentEnvelope (document : SnapshotDocument) (truncated : Bool) : ContextEnvelope where
  schemaVersion := 1
  spaceId := spaceId
  pageId := pageId
  snapshotVersion := document.snapshotVersion
  snapshotHash := document.snapshotHash
  baseSnapshotVersion := none
  baseHash := none
  resultHash := document.snapshotHash
  deltaSequence := none
  topologyVersion := 1
  navigationGeneration := navigationGeneration
  documentGeneration := documentGeneration
  frameVersions := OrderedMap.empty.insert mainFrame 1
  changed := []
  deltaOrElements := .elements document.elements
  mode := if truncated then .compact else .full
  operationCount := 0
  coherent := !truncated
  coverage := if truncated then .partly else .complete
  cacheState := .fresh
  resyncReason := none
  tokenizer := none
  omitted := if truncated then ["bounded logical elements"] else []
  truncated := truncated
  resyncRequired := false
  refsEpoch := version

/-- The rounds of the loop. What is left of the elements has its last one in front. -/
def ParsedDom.fitElements (backendNodes : Table ElementKey Int) (reversed : List SnapshotElement) (truncated : Bool) :
    Except CoreError (ContextEnvelope × Table ElementKey Int) := do
  let document <- (SnapshotDocument.make version reversed.reverse).mapError SnapshotValidationError.coreError
  let envelope := documentEnvelope spaceId pageId navigationGeneration documentGeneration version document truncated
  if sizes.serialized envelope ≤ cdpMaxSnapshotBytes then do
    envelope.validate.mapError SnapshotValidationError.coreError
    pure (envelope, backendNodes.filter fun key _ => document.elements.any fun element => element.key == key)
  else
    match reversed with
    | [] | [_] => .error (.new .messageTooLarge "logical DOM snapshot exceeds the host byte limit")
    | _ :: rest => fitElements backendNodes rest true

def ParsedDom.buildSnapshotEnvelope (parsed : ParsedDom) : Except CoreError (ContextEnvelope × Table ElementKey Int) :=
  fitElements sizes spaceId pageId navigationGeneration documentGeneration version parsed.backendNodes
    parsed.elements.reverse parsed.truncated

end Envelopes

end AgentycHost
