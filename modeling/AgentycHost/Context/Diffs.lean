import AgentycHost.Context.Envelopes
import AgentycHost.Shared.Table

set_option autoImplicit false

/-!
# The delta between two documents

The elements of both documents are compared key by key. The operations are then
brought into canonical order.
-/

namespace AgentycHost

open Shared

variable {before after : List SnapshotElement} {operation : DeltaOperation}

section Build

def elementsByKey (elements : List SnapshotElement) : Table ElementKey SnapshotElement :=
  elements.foldl (fun map element => map.insert element.key element) ∅

def removeOperation (result : Table ElementKey SnapshotElement) (key : ElementKey) : Option DeltaOperation :=
  if result.contains key then none else some (.remove key)

def changeOperation (base : Table ElementKey SnapshotElement) (key : ElementKey) (element : SnapshotElement) :
    Option DeltaOperation :=
  match base.get? key with
  | none => some (.upsert key element)
  | some previous =>
      if previous = element then none
      else if { previous with order := element.order } = element then some (.move key element.order none)
      else some (.replace key element)

def frameOperation (base : FrameVersions) (frameId : FrameId) (frameVersion : FrameVersion) : Option DeltaOperation :=
  if base.get? frameId = some frameVersion then none else some (.frameReset frameId frameVersion)

def differences (current base : FrameVersions) (before after : List SnapshotElement) : List DeltaOperation :=
  (elementsByKey before).keys.filterMap (removeOperation (elementsByKey after)) ++
    (elementsByKey after).entries.filterMap (fun entry => changeOperation (elementsByKey before) entry.1 entry.2) ++
    current.entries.filterMap fun entry => frameOperation base entry.1 entry.2

def sortOperations (operations : List DeltaOperation) : List DeltaOperation :=
  operations.insertionSort fun first second => first.after second = false

def currentChainDepth (envelope : ContextEnvelope) : Option Nat :=
  match envelope.deltaOrElements with
  | .delta delta => some delta.chainDepth
  | .elements _ | .resync _ => none

def baseChainDepth (_base : SnapshotDocument) : Nat := 0

def u16Max : Nat := 65535

def buildDeltaBody (current baseEnvelope : ContextEnvelope) (base result : SnapshotDocument) (limits : DeltaLimits) :
    Except CoreError SnapshotBody := do
  let delta : SnapshotDelta :=
    { baseSnapshotVersion := base.snapshotVersion
      baseHash := base.snapshotHash
      resultSnapshotVersion := result.snapshotVersion
      resultHash := result.snapshotHash
      deltaSequence := current.deltaSequence.getD 1
      chainDepth := min (((currentChainDepth current).or (some (baseChainDepth base))).getD 0 + 1) u16Max
      operations := sortOperations
        (differences current.frameVersions baseEnvelope.frameVersions base.elements result.elements) }
  (delta.validate limits).mapError DeltaError.coreError
  pure (.delta delta)

end Build

section Facts

variable {key : ElementKey} {element : SnapshotElement} {base result : Table ElementKey SnapshotElement}

theorem foldl_insert_get? {elements : List SnapshotElement} (unique : UniqueKeys SnapshotElement.key elements)
    (map : Table ElementKey SnapshotElement) :
    (elements.foldl (fun map element => map.insert element.key element) map).get? key =
      (lookup SnapshotElement.key elements key).or (map.get? key) := by
  induction elements generalizing map with
  | nil => rfl
  | cons element rest ih =>
    obtain ⟨absent, unique⟩ := List.nodup_cons.mp (show (element.key :: rest.map SnapshotElement.key).Nodup from unique)
    rw [List.foldl_cons, ih unique, lookup_cons, Table.get?_insert]
    by_cases same : element.key = key
    · have missing : lookup SnapshotElement.key rest key = none := lookup_eq_none.mpr (same ▸ absent)
      simp [same, missing]
    · simp [same, Ne.symm same]

theorem elementsByKey_get? (unique : UniqueKeys SnapshotElement.key before) :
    (elementsByKey before).get? key = lookup SnapshotElement.key before key := by
  rw [elementsByKey, foldl_insert_get? unique, Table.get?_empty, Option.or_none]

theorem mem_sortOperations {operations : List DeltaOperation} : operation ∈ sortOperations operations <-> operation ∈ operations :=
  (List.perm_insertionSort _ _).mem_iff

theorem OrderedMap.get?_entry {K V : Type} [DecidableEq K] {text : K -> String} (map : OrderedMap K V text) {entry : K × V}
    (inside : entry ∈ map.entries) : map.get? entry.1 = some entry.2 := by
  have apart : UniqueKeys Prod.fst map.entries := by
    refine List.pairwise_map.mpr (map.sorted.imp ?_)
    intro first second before same
    simp [textBefore, same] at before
  have found := apart.lookup inside
  unfold lookup at found
  rw [OrderedMap.get?, found, Option.map_some]

theorem no_frame_operations (frames : FrameVersions) :
    frames.entries.filterMap (fun entry => frameOperation frames entry.1 entry.2) = [] := by
  apply List.filterMap_eq_nil_iff.mpr
  intro entry inside
  rw [frameOperation, if_pos (frames.get?_entry inside)]

theorem changeOperation_some (chosen : changeOperation base key element = some operation) (same : element.key = key) :
    operation.targetKey = some key ∧ operation.effect (base.get? key) = some (some element) := by
  unfold changeOperation at chosen
  split at chosen
  next =>
    obtain rfl : DeltaOperation.upsert key element = operation := by simpa using chosen
    exact ⟨rfl, by simp [DeltaOperation.effect, same]⟩
  next previous found =>
    rw [found]
    split at chosen
    next => cases chosen
    next =>
      split at chosen
      next moved =>
        obtain rfl : DeltaOperation.move key element.order none = operation := by simpa using chosen
        exact ⟨rfl, by simp [DeltaOperation.effect, moved]⟩
      next =>
        obtain rfl : DeltaOperation.replace key element = operation := by simpa using chosen
        exact ⟨rfl, by simp [DeltaOperation.effect, same]⟩

theorem changeOperation_target (chosen : changeOperation base key element = some operation) :
    operation.targetKey = some key := by
  unfold changeOperation at chosen
  split at chosen
  next =>
    obtain rfl : DeltaOperation.upsert key element = operation := by simpa using chosen
    rfl
  next =>
    split at chosen
    next => cases chosen
    next =>
      split at chosen
      next =>
        obtain rfl : DeltaOperation.move key element.order none = operation := by simpa using chosen
        rfl
      next =>
        obtain rfl : DeltaOperation.replace key element = operation := by simpa using chosen
        rfl

theorem changeOperation_element {carried : SnapshotElement}
    (chosen : changeOperation base key element = some operation) (carries : operation.element = some carried) :
    carried = element := by
  unfold changeOperation at chosen
  split at chosen
  next =>
    obtain rfl : DeltaOperation.upsert key element = operation := by simpa using chosen
    simpa [DeltaOperation.element] using carries.symm
  next =>
    split at chosen
    next => cases chosen
    next =>
      split at chosen
      next =>
        obtain rfl : DeltaOperation.move key element.order none = operation := by simpa using chosen
        cases carries
      next =>
        obtain rfl : DeltaOperation.replace key element = operation := by simpa using chosen
        simpa [DeltaOperation.element] using carries.symm

theorem changeOperation_none (chosen : changeOperation base key element = none) : base.get? key = some element := by
  unfold changeOperation at chosen
  split at chosen
  next => cases chosen
  next previous found =>
    split at chosen
    next same => rw [found, same]
    next => split at chosen <;> cases chosen

theorem changeOperation_same (found : base.get? key = some element) : changeOperation base key element = none := by
  simp [changeOperation, found]

theorem removeOperation_some (chosen : removeOperation result key = some operation) :
    operation = .remove key ∧ result.get? key = none := by
  unfold removeOperation at chosen
  split at chosen
  next => cases chosen
  next missing =>
    exact ⟨by simpa using chosen.symm, by simpa [Table.contains] using missing⟩

theorem removeOperation_none (chosen : removeOperation result key = none) : result.contains key = true := by
  unfold removeOperation at chosen
  split at chosen
  next there => exact there
  next => cases chosen

def Reaches (before after : List SnapshotElement) (operation : DeltaOperation) : Prop :=
  ∃ key, operation.targetKey = some key ∧
    operation.effect (lookup SnapshotElement.key before key) = some (lookup SnapshotElement.key after key)

section Differences

variable (unique : UniqueKeys SnapshotElement.key before) (unique' : UniqueKeys SnapshotElement.key after)
  (frames : FrameVersions)

include unique unique'

theorem differences_reach (inside : operation ∈ differences frames frames before after) : Reaches before after operation := by
  simp only [differences, no_frame_operations, List.append_nil, List.mem_append, List.mem_filterMap] at inside
  rcases inside with ⟨key, member, chosen⟩ | ⟨⟨key, element⟩, member, chosen⟩
  · obtain ⟨rfl, gone⟩ := removeOperation_some chosen
    obtain ⟨found, present⟩ := ((elementsByKey before).contains_iff key).mp (((elementsByKey before).mem_keys key).mp member)
    rw [elementsByKey_get? unique] at present
    rw [elementsByKey_get? unique'] at gone
    exact ⟨key, rfl, by simp [DeltaOperation.effect, present, gone]⟩
  · have present := ((elementsByKey after).mem_entries key element).mp member
    rw [elementsByKey_get? unique'] at present
    obtain ⟨aims, hits⟩ := changeOperation_some chosen (lookup_key present)
    rw [elementsByKey_get? unique] at hits
    exact ⟨key, aims, by rw [hits, present]⟩

theorem differences_complete
    (outside : Untargeted DeltaOperation.targetKey (differences frames frames before after) key) :
    lookup SnapshotElement.key before key = lookup SnapshotElement.key after key := by
  simp only [Untargeted, differences, no_frame_operations, List.append_nil, List.mem_append, List.mem_filterMap] at outside
  cases later : lookup SnapshotElement.key after key with
  | none =>
    cases earlier : lookup SnapshotElement.key before key with
    | none => rfl
    | some previous =>
      have present : (elementsByKey before).contains key = true := by simp [Table.contains, elementsByKey_get? unique, earlier]
      cases chosen : removeOperation (elementsByKey after) key with
      | none =>
        have there := removeOperation_none chosen
        simp [Table.contains, elementsByKey_get? unique', later] at there
      | some operation =>
        obtain ⟨rfl, _⟩ := removeOperation_some chosen
        exact absurd rfl (outside _ (.inl ⟨key, ((elementsByKey before).mem_keys key).mpr present, chosen⟩))
  | some element =>
    have member : (key, element) ∈ (elementsByKey after).entries := by
      rw [Table.mem_entries, elementsByKey_get? unique', later]
    cases chosen : changeOperation (elementsByKey before) key element with
    | none => rw [← elementsByKey_get? unique, changeOperation_none chosen]
    | some operation =>
      exact absurd (changeOperation_some chosen (lookup_key later)).1
        (outside _ (.inr ⟨(key, element), member, chosen⟩))

omit unique unique' in
theorem differences_self : differences frames frames before before = [] := by
  rw [differences, no_frame_operations, List.append_nil, List.append_eq_nil_iff, List.filterMap_eq_nil_iff,
    List.filterMap_eq_nil_iff]
  constructor
  · intro key inside
    rw [removeOperation, if_pos (((elementsByKey before).mem_keys key).mp inside)]
  · rintro ⟨key, element⟩ inside
    exact changeOperation_same (((elementsByKey before).mem_entries key element).mp inside)

end Differences

theorem buildDeltaBody_applies {current baseEnvelope : ContextEnvelope} {base result : SnapshotDocument} {limits : DeltaLimits}
    {body : SnapshotBody} (base_normal : base.Normal) (result_normal : result.Normal)
    (frames : baseEnvelope.frameVersions = current.frameVersions)
    (built : buildDeltaBody current baseEnvelope base result limits = .ok body) :
    ∃ delta, body = .delta delta ∧ delta.validate limits = .ok () ∧
      delta.operations = sortOperations
        (differences current.frameVersions current.frameVersions base.elements result.elements) ∧
      delta.apply base limits = .ok result := by
  simp only [buildDeltaBody, bind_ok, mapError_ok, pure_ok] at built
  obtain ⟨_, valid, rfl⟩ := built
  obtain ⟨distinct, _⟩ := SnapshotDelta.validate_ok valid
  have bounded := (SnapshotDocument.validate_ok result_normal.valid).1
  have unique := (SnapshotDocument.validate_ok base_normal.valid).2.2.1
  have unique' := (SnapshotDocument.validate_ok result_normal.valid).2.2.1
  rw [frames] at valid distinct ⊢
  have reaches : ∀ operation,
      operation ∈ sortOperations (differences current.frameVersions current.frameVersions base.elements result.elements) ->
        Reaches base.elements result.elements operation := fun operation inside =>
    differences_reach unique unique' _ (mem_sortOperations.mp inside)
  -- the operations run, and every key ends with what the result has there
  obtain ⟨elements, folded, unique'', reached⟩ := operations_edit.run unique distinct reaches
    (fun key outside => differences_complete unique unique' current.frameVersions fun operation inside =>
      outside operation (mem_sortOperations.mpr inside))
  have moved : elements.Perm result.elements := perm_of_lookup unique'' unique' reached
  obtain ⟨_, _, _, rising⟩ := normalizeElements_ok.mp result_normal.normal
  refine ⟨_, rfl, valid, rfl,
    SnapshotDelta.apply_ok.mpr ⟨valid, rfl, rfl, base_normal.valid, ?_, elements, folded, ?_, ?_, rfl, rfl⟩⟩
  · apply List.findSome?_eq_none_iff.mpr
    intro operation inside
    obtain ⟨key, aims, _⟩ := reaches operation inside
    cases operation <;> first | rfl | cases aims
  · exact normalizeElements_ok.mpr ⟨moved.length_eq ▸ bounded, moved, unique', rising⟩
  · exact (SnapshotDocument.validate_ok result_normal.valid).2.2.2

end Facts

section Exists

variable {first second third : DeltaOperation} {elements : List SnapshotElement}

theorem notAfter_iff : first.after second = false <-> first.sortKey.1 < second.sortKey.1 ∨
    (first.sortKey.1 = second.sortKey.1 ∧ bytes first.sortKey.2 ≤ bytes second.sortKey.2) := by
  simp only [DeltaOperation.after, textBefore, Bool.or_eq_false_iff, decide_eq_false_iff_not, Bool.and_eq_false_iff,
    beq_eq_false_iff_ne, not_lt]
  rcases lt_trichotomy first.sortKey.1 second.sortKey.1 with less | same | more
  · simp [less, less.le, less.ne]
  · simp [same]
  · simp [more.not_ge, more.not_gt, more.ne']

theorem notAfter_total (first second : DeltaOperation) : first.after second = false ∨ second.after first = false := by
  rw [notAfter_iff, notAfter_iff]
  rcases lt_trichotomy first.sortKey.1 second.sortKey.1 with less | same | more
  · exact .inl (.inl less)
  · exact (le_total (bytes first.sortKey.2) (bytes second.sortKey.2)).imp (fun texts => .inr ⟨same, texts⟩)
      fun texts => .inr ⟨same.symm, texts⟩
  · exact .inr (.inl more)

theorem notAfter_trans (one : first.after second = false) (two : second.after third = false) : first.after third = false := by
  rw [notAfter_iff] at one two ⊢
  rcases one with less | ⟨same, texts⟩
  · left
    omega
  · rcases two with less | ⟨same', texts'⟩
    · left
      omega
    · right
      exact ⟨same.trans same', texts.trans texts'⟩

instance : Std.Total fun first second : DeltaOperation => first.after second = false := ⟨notAfter_total⟩

instance : IsTrans DeltaOperation fun first second => first.after second = false := ⟨fun _ _ _ => notAfter_trans⟩

def Apart (first second : DeltaOperation) : Prop := ∀ key, first.targetKey = some key -> second.targetKey ≠ some key

theorem Apart.symm (apart : Apart first second) : Apart second first := fun key aims aims' => apart key aims' aims

theorem sortOperations_checked {operations : List DeltaOperation} (apart : operations.Pairwise Apart)
    (each : ∀ operation, operation ∈ operations -> ∃ key, operation.targetKey = some key ∧
      ∀ element, operation.element = some element -> element.validate = .ok () ∧ element.key = key) :
    forEachAfter checkOperation [] (sortOperations operations) = .ok () := by
  have moved : (sortOperations operations).Perm operations := List.perm_insertionSort _ _
  have sorted : (sortOperations operations).Pairwise fun first second => first.after second = false :=
    List.pairwise_insertionSort _ _
  have apart' : (sortOperations operations).Pairwise Apart := (moved.pairwise_iff Apart.symm).mpr apart
  rw [forEachAfter_ok]
  intro earlier operation later split
  obtain ⟨key, aims, carried⟩ := each operation (moved.mem_iff.mp (by simp [split]))
  rw [List.nil_append]
  unfold checkOperation
  rw [split, List.pairwise_append] at sorted apart'
  have in_order : (!earlier.getLast?.any fun previous => previous.after operation) = true := by
    cases last : earlier.getLast? with
    | none => rfl
    | some previous => simp [sorted.2.2 previous (List.mem_of_getLast? last) operation List.mem_cons_self]
  have fresh : (!(earlier.filterMap (·.targetKey)).contains key) = true := by
    simp only [Bool.not_eq_true', List.contains_eq_mem, decide_eq_false_iff_not, List.mem_filterMap, not_exists, not_and]
    intro previous inside aims'
    exact apart'.2.2 previous inside operation List.mem_cons_self key aims' aims
  rw [bind_ok]
  refine ⟨(), require_ok.mpr in_order, ?_⟩
  cases operation with
  | upsert target element =>
    obtain rfl : target = key := by simpa [DeltaOperation.targetKey] using aims
    obtain ⟨valid, same⟩ := carried element rfl
    simp only [bind_ok, mapError_ok, require_ok]
    exact ⟨(), valid, (), fresh, by simp [same]⟩
  | replace target element =>
    obtain rfl : target = key := by simpa [DeltaOperation.targetKey] using aims
    obtain ⟨valid, same⟩ := carried element rfl
    simp only [bind_ok, mapError_ok, require_ok]
    exact ⟨(), valid, (), fresh, by simp [same]⟩
  | remove target =>
    obtain rfl : target = key := by simpa [DeltaOperation.targetKey] using aims
    exact require_ok.mpr fresh
  | move target order place =>
    obtain rfl : target = key := by simpa [DeltaOperation.targetKey] using aims
    exact require_ok.mpr fresh
  | frameReset frameId frameVersion => cases aims

variable (frames : FrameVersions)

theorem differences_apart : (differences frames frames before after).Pairwise Apart := by
  rw [differences, no_frame_operations, List.append_nil, List.pairwise_append]
  refine ⟨?_, ?_, ?_⟩
  · refine List.Pairwise.filterMap _ ?_ (elementsByKey before).nodup
    intro key other apart operation chosen operation' chosen' wanted aims aims'
    obtain ⟨rfl, _⟩ := removeOperation_some chosen
    obtain ⟨rfl, _⟩ := removeOperation_some chosen'
    have same : key = wanted := by simpa [DeltaOperation.targetKey] using aims
    have same' : other = wanted := by simpa [DeltaOperation.targetKey] using aims'
    exact apart (same.trans same'.symm)
  · refine List.Pairwise.filterMap _ ?_ (List.pairwise_map.mp (elementsByKey after).nodup)
    intro entry other apart operation chosen operation' chosen' wanted aims aims'
    rw [changeOperation_target chosen] at aims
    rw [changeOperation_target chosen'] at aims'
    exact apart (Option.some.inj (aims.trans aims'.symm))
  · intro operation inside operation' inside' wanted aims aims'
    obtain ⟨key, _, chosen⟩ := List.mem_filterMap.mp inside
    obtain ⟨⟨key', element⟩, member, chosen'⟩ := List.mem_filterMap.mp inside'
    obtain ⟨rfl, gone⟩ := removeOperation_some chosen
    have same : key = wanted := by simpa [DeltaOperation.targetKey] using aims
    rw [changeOperation_target chosen'] at aims'
    have present := ((elementsByKey after).mem_entries key' element).mp member
    have same' : key' = wanted := Option.some.inj aims'
    rw [same', ← same, gone] at present
    cases present

theorem differences_each (unique' : UniqueKeys SnapshotElement.key after) (valid : AllValid after)
    (inside : operation ∈ differences frames frames before after) :
    ∃ key, operation.targetKey = some key ∧
      ∀ element, operation.element = some element -> element.validate = .ok () ∧ element.key = key := by
  simp only [differences, no_frame_operations, List.append_nil, List.mem_append, List.mem_filterMap] at inside
  rcases inside with ⟨key, _, chosen⟩ | ⟨⟨key, element⟩, member, chosen⟩
  · obtain ⟨rfl, _⟩ := removeOperation_some chosen
    refine ⟨key, rfl, fun element carries => ?_⟩
    cases carries
  · have present := ((elementsByKey after).mem_entries key element).mp member
    rw [elementsByKey_get? unique'] at present
    refine ⟨key, changeOperation_target chosen, fun carried carries => ?_⟩
    rw [changeOperation_element chosen carries]
    exact ⟨valid element (lookup_mem present), lookup_key present⟩

theorem buildDeltaBody_exists {current baseEnvelope : ContextEnvelope} {base result : SnapshotDocument} {limits : DeltaLimits}
    (result_normal : result.Normal) (frames : baseEnvelope.frameVersions = current.frameVersions)
    (advances : base.snapshotVersion < result.snapshotVersion) (first : currentChainDepth current = none)
    (deep : 1 ≤ limits.maxChainDepth)
    (few : (differences current.frameVersions current.frameVersions base.elements result.elements).length ≤ limits.maxOperations) :
    ∃ body, buildDeltaBody current baseEnvelope base result limits = .ok body := by
  obtain ⟨_, valid, unique', _⟩ := SnapshotDocument.validate_ok result_normal.valid
  refine ⟨_, bind_ok.mpr ⟨(), mapError_ok.mpr ?_, rfl⟩⟩
  rw [frames]
  simp only [SnapshotDelta.validate, bind_ok, require_ok, decide_eq_true_eq]
  refine ⟨(), ?_, (), ?_, (), advances, ?_⟩
  · rwa [sortOperations, List.length_insertionSort]
  · simpa [first, baseChainDepth, u16Max] using deep
  · exact sortOperations_checked (differences_apart _) fun operation inside =>
      differences_each _ unique' valid inside

theorem foldl_insert_entries (unique : UniqueKeys SnapshotElement.key elements)
    (map : Table ElementKey SnapshotElement)
    (fresh : ∀ element, element ∈ elements -> map.get? element.key = none) :
    (elements.foldl (fun map element => map.insert element.key element) map).entries =
      map.entries ++ elements.map fun element => (element.key, element) := by
  induction elements generalizing map with
  | nil => simp
  | cons element rest ih =>
    obtain ⟨absent, unique⟩ := List.nodup_cons.mp (show (element.key :: rest.map SnapshotElement.key).Nodup from unique)
    rw [List.foldl_cons, ih unique]
    · simp [Table.insert, fresh element List.mem_cons_self]
    · intro other inside
      have apart : other.key ≠ element.key := by
        intro same
        exact absent (same ▸ List.mem_map_of_mem inside)
      rw [Table.get?_insert_ne _ _ _ _ apart]
      exact fresh other (List.mem_cons_of_mem _ inside)

theorem elementsByKey_entries (unique : UniqueKeys SnapshotElement.key elements) :
    (elementsByKey elements).entries = elements.map fun element => (element.key, element) := by
  rw [elementsByKey, foldl_insert_entries unique ∅ fun _ _ => Table.get?_empty _]
  rfl

theorem differences_map_length (change : SnapshotElement -> SnapshotElement)
    (keeps : ∀ element, (change element).key = element.key) (unique : UniqueKeys SnapshotElement.key before)
    (unique' : UniqueKeys SnapshotElement.key after) :
    (differences frames frames (before.map change) (after.map change)).length ≤
      (differences frames frames before after).length := by
  have same_keys : SnapshotElement.key ∘ change = SnapshotElement.key := funext keeps
  have changed : UniqueKeys SnapshotElement.key (before.map change) := by
    rw [UniqueKeys, List.map_map, same_keys]
    exact unique
  have changed' : UniqueKeys SnapshotElement.key (after.map change) := by
    rw [UniqueKeys, List.map_map, same_keys]
    exact unique'
  have found (key : ElementKey) {items : List SnapshotElement} :
      lookup SnapshotElement.key (items.map change) key = (lookup SnapshotElement.key items key).map change := by
    have asks : (fun item : SnapshotElement => item.key == key) ∘ change = fun item => item.key == key := by
      funext item
      exact congrArg (· == key) (keeps item)
    rw [lookup, List.find?_map, asks, lookup]
  simp only [differences, no_frame_operations, List.append_nil, List.length_append, Table.keys,
    elementsByKey_entries unique, elementsByKey_entries unique', elementsByKey_entries changed, elementsByKey_entries changed',
    List.map_map, List.filterMap_map, List.length_filterMap_eq_countP, Function.comp_def]
  apply Nat.add_le_add
  · -- the same keys are gone
    apply List.countP_mono_left
    intro element _ gone
    simp only [removeOperation, Table.contains, elementsByKey_get? changed', elementsByKey_get? unique', keeps, found,
      Option.isSome_map] at gone ⊢
    exact gone
  · apply List.countP_mono_left
    intro element _ differs
    cases chosen : changeOperation (elementsByKey before) element.key element with
    | some operation => rfl
    | none =>
      have present := changeOperation_none chosen
      rw [elementsByKey_get? unique] at present
      rw [keeps, changeOperation_same] at differs
      · cases differs
      · rw [elementsByKey_get? changed, found, present, Option.map_some]

end Exists

end AgentycHost
