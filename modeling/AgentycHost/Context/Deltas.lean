import AgentycHost.Context.Elements

set_option autoImplicit false

/-!
# Deltas between two snapshots

A delta is a list of operations in canonical order with at most one operation
for each key. It is applied to the elements of its base, which are then brought
into their normal order.
-/

namespace AgentycHost

open Shared

variable {others : List SnapshotElement} {new old : SnapshotElement}

abbrev FrameVersion := Nat
abbrev DeltaSequence := Nat

inductive DeltaOperation where
  | upsert (key : ElementKey) (element : SnapshotElement)
  | remove (key : ElementKey)
  | move (key : ElementKey) (order : Nat) (before : Option ElementKey)
  | replace (key : ElementKey) (element : SnapshotElement)
  | frameReset (frameId : FrameId) (frameVersion : FrameVersion)
  deriving DecidableEq

namespace DeltaOperation

def sortKey : DeltaOperation -> Nat × String
  | frameReset frameId _ => (0, frameId.text)
  | remove key => (1, key.text)
  | replace key _ => (2, key.text)
  | upsert key _ => (3, key.text)
  | move key _ _ => (4, key.text)

def targetKey : DeltaOperation -> Option ElementKey
  | upsert key _ | remove key | move key _ _ | replace key _ => some key
  | frameReset _ _ => none

def resetFrame : DeltaOperation -> Option FrameId
  | frameReset frameId _ => some frameId
  | _ => none

def element : DeltaOperation -> Option SnapshotElement
  | upsert _ element | replace _ element => some element
  | _ => none

def after (first second : DeltaOperation) : Bool :=
  decide (second.sortKey.1 < first.sortKey.1) ||
    (first.sortKey.1 == second.sortKey.1 && textBefore second.sortKey.2 first.sortKey.2)

end DeltaOperation

def defaultMaxDeltaOperations : Nat := 1024
def defaultMaxDeltaChainDepth : Nat := 8

structure DeltaLimits where
  maxOperations : Nat
  maxChainDepth : Nat
  deriving DecidableEq

def DeltaLimits.default : DeltaLimits where
  maxOperations := defaultMaxDeltaOperations
  maxChainDepth := defaultMaxDeltaChainDepth

structure SnapshotDelta where
  baseSnapshotVersion : SnapshotVersion
  baseHash : ContentHash
  resultSnapshotVersion : SnapshotVersion
  resultHash : ContentHash
  deltaSequence : DeltaSequence
  chainDepth : Nat
  operations : List DeltaOperation
  deriving DecidableEq

section Validate

def checkOperation (earlier : List DeltaOperation) (operation : DeltaOperation) : Except DeltaError Unit := do
  require (!earlier.getLast?.any fun previous => previous.after operation) .nonCanonicalOrder
  match operation with
  | .upsert key element | .replace key element => do
      element.validate.mapError .invalidElement
      require (!(earlier.filterMap (·.targetKey)).contains key) (.duplicateTarget key)
      require (key == element.key) (.keyMismatch key element.key)
  | .remove key | .move key _ _ =>
      require (!(earlier.filterMap (·.targetKey)).contains key) (.duplicateTarget key)
  | .frameReset frameId _ =>
      require (!(earlier.filterMap (·.resetFrame)).contains frameId) (.duplicateFrameReset frameId)

def SnapshotDelta.validate (delta : SnapshotDelta) (limits : DeltaLimits) : Except DeltaError Unit := do
  require (delta.operations.length ≤ limits.maxOperations)
    (.tooManyOperations delta.operations.length limits.maxOperations)
  require (delta.chainDepth ≤ limits.maxChainDepth) (.chainTooLong delta.chainDepth limits.maxChainDepth)
  require (delta.baseSnapshotVersion < delta.resultSnapshotVersion)
    (.versionDidNotAdvance delta.baseSnapshotVersion delta.resultSnapshotVersion)
  forEachAfter checkOperation [] delta.operations

end Validate

section Apply

variable (elements : List SnapshotElement)

def hasKey (key : ElementKey) (element : SnapshotElement) : Bool := element.key == key

def insertAt (before : Option ElementKey) : Nat :=
  (before.bind fun target => elements.findIdx? (hasKey target)).getD elements.length

def DeltaOperation.apply : DeltaOperation -> Except DeltaError (List SnapshotElement)
  | .upsert key element => .ok ((replaceFirst (hasKey key) element elements).getD (elements ++ [element]))
  | .remove key => do
      let found <- orElse (takeFirst (hasKey key) elements) (.missingTarget key)
      pure found.2
  | .replace key element => orElse (replaceFirst (hasKey key) element elements) (.missingTarget key)
  | .move key order before => do
      let found <- orElse (takeFirst (hasKey key) elements) (.missingTarget key)
      pure (found.2.insertIdx (insertAt found.2 before) { found.1 with order })
  | .frameReset frameId _ => .error (.frameResetRequiresVersionVector frameId)

def SnapshotDelta.apply (delta : SnapshotDelta) (base : SnapshotDocument) (limits : DeltaLimits) :
    Except DeltaError SnapshotDocument := do
  delta.validate limits
  require (base.snapshotVersion == delta.baseSnapshotVersion) (.resyncRequired .baseMissing)
  require (base.snapshotHash == delta.baseHash) (.resyncRequired .baseHashMismatch)
  base.validate.mapError .invalidSnapshot
  (delta.operations.findSome? (·.resetFrame)).elim (.ok ()) fun frameId =>
    .error (.frameResetRequiresVersionVector frameId)
  let elements <- delta.operations.foldlM (fun elements operation => operation.apply elements) base.elements
  let elements <- (normalizeElements elements).mapError .invalidSnapshot
  require (hashElements elements == delta.resultHash) (.resultHashMismatch delta.resultHash (hashElements elements))
  pure { snapshotVersion := delta.resultSnapshotVersion, elements, snapshotHash := delta.resultHash }

/-- `apply` with its operations carried out in another order. -/
def SnapshotDelta.applyIn (delta : SnapshotDelta) (order : List DeltaOperation) (base : SnapshotDocument)
    (limits : DeltaLimits) : Except DeltaError SnapshotDocument := do
  delta.validate limits
  require (base.snapshotVersion == delta.baseSnapshotVersion) (.resyncRequired .baseMissing)
  require (base.snapshotHash == delta.baseHash) (.resyncRequired .baseHashMismatch)
  base.validate.mapError .invalidSnapshot
  (delta.operations.findSome? (·.resetFrame)).elim (.ok ()) fun frameId =>
    .error (.frameResetRequiresVersionVector frameId)
  let elements <- order.foldlM (fun elements operation => operation.apply elements) base.elements
  let elements <- (normalizeElements elements).mapError .invalidSnapshot
  require (hashElements elements == delta.resultHash) (.resultHashMismatch delta.resultHash (hashElements elements))
  pure { snapshotVersion := delta.resultSnapshotVersion, elements, snapshotHash := delta.resultHash }

end Apply

section Effects

variable {operation : DeltaOperation} {earlier operations : List DeltaOperation}
  {elements next : List SnapshotElement} {key : ElementKey} {limits : DeltaLimits} {delta : SnapshotDelta}
  {base result : SnapshotDocument}

def DeltaOperation.effect : DeltaOperation -> Option SnapshotElement -> Option (Option SnapshotElement)
  | .upsert key element, _ => if element.key = key then some (some element) else none
  | .replace key element, found => if element.key = key then found.map fun _ => some element else none
  | .remove _, found => found.map fun _ => none
  | .move _ order _, found => found.map fun element => some { element with order }
  | .frameReset _ _, _ => none

theorem checkOperation_ok (checked : checkOperation earlier operation = .ok ()) :
    (∀ element, operation.element = some element -> element.validate = .ok () ∧ operation.targetKey = some element.key) ∧
      ∀ key, operation.targetKey = some key -> ∀ before, before ∈ earlier -> before.targetKey ≠ some key := by
  unfold checkOperation at checked
  simp only [bind_ok, require_ok] at checked
  obtain ⟨_, _, checked⟩ := checked
  cases operation <;>
    simp [DeltaOperation.element, DeltaOperation.targetKey, bind_ok, require_ok, mapError_ok] at checked ⊢ <;>
    grind

theorem lookup_hasKey (key : ElementKey) : elements.find? (hasKey key) = lookup SnapshotElement.key elements key := rfl

theorem exchanged (unique : UniqueKeys SnapshotElement.key elements) (before : elements.Perm (old :: others))
    (after : next.Perm (new :: others)) (key' : old.key = key) (same : new.key = key) :
    UniqueKeys SnapshotElement.key next ∧ lookup SnapshotElement.key next key = some new ∧
      ∀ other, other ≠ key -> lookup SnapshotElement.key next other = lookup SnapshotElement.key elements other := by
  have inside : UniqueKeys SnapshotElement.key (old :: others) := unique.perm before
  have unique' : UniqueKeys SnapshotElement.key (new :: others) := by
    simpa [UniqueKeys, key', same] using inside
  have moved := unique'.perm after.symm
  refine ⟨moved, ?_, ?_⟩
  · rw [lookup_perm moved after, lookup_cons, if_pos same]
  · intro other apart
    rw [lookup_perm moved after, lookup_perm unique before, lookup_cons, lookup_cons, if_neg, if_neg]
    · rw [key']
      exact apart.symm
    · rw [same]
      exact apart.symm

theorem added (unique : UniqueKeys SnapshotElement.key elements)
    (absent : lookup SnapshotElement.key elements key = none) (same : new.key = key) :
    UniqueKeys SnapshotElement.key (elements ++ [new]) ∧ lookup SnapshotElement.key (elements ++ [new]) key = some new ∧
      ∀ other, other ≠ key ->
        lookup SnapshotElement.key (elements ++ [new]) other = lookup SnapshotElement.key elements other := by
  have moved : (elements ++ [new]).Perm (new :: elements) := List.perm_append_singleton new elements
  have unique' : UniqueKeys SnapshotElement.key (new :: elements) := by
    refine List.nodup_cons.mpr ⟨?_, unique⟩
    rw [same]
    exact lookup_eq_none.mp absent
  have unique'' := unique'.perm moved.symm
  refine ⟨unique'', ?_, ?_⟩
  · rw [lookup_perm unique'' moved, lookup_cons, if_pos same]
  · intro other apart
    rw [lookup_perm unique'' moved, lookup_cons, if_neg]
    rw [same]
    exact apart.symm

theorem removed (unique : UniqueKeys SnapshotElement.key elements) (before : elements.Perm (old :: others))
    (key' : old.key = key) :
    UniqueKeys SnapshotElement.key others ∧ lookup SnapshotElement.key others key = none ∧
      ∀ other, other ≠ key -> lookup SnapshotElement.key others other = lookup SnapshotElement.key elements other := by
  have inside : UniqueKeys SnapshotElement.key (old :: others) := unique.perm before
  obtain ⟨absent, unique'⟩ := List.nodup_cons.mp (show (old.key :: others.map SnapshotElement.key).Nodup from inside)
  refine ⟨unique', ?_, ?_⟩
  · rw [lookup_eq_none, ← key']
    exact absent
  · intro other apart
    rw [lookup_perm unique before, lookup_cons, if_neg]
    rw [key']
    exact apart.symm

theorem taken {found : SnapshotElement × List SnapshotElement} (took : takeFirst (hasKey key) elements = some found) :
    found.1.key = key ∧ elements.Perm (found.1 :: found.2) := by
  obtain ⟨passes, before⟩ := takeFirst_perm took
  exact ⟨by simpa [hasKey] using passes, before⟩

theorem insertAt_le (elements : List SnapshotElement) (before : Option ElementKey) :
    insertAt elements before ≤ elements.length := by
  cases before with
  | none => simp [insertAt]
  | some target =>
    cases place : elements.findIdx? (hasKey target) with
    | none => simp [insertAt, place]
    | some index =>
      obtain ⟨inside, _⟩ := List.findIdx?_eq_some_iff_getElem.mp place
      simpa [insertAt, place] using inside.le

theorem operations_edit : Edits SnapshotElement.key DeltaOperation.targetKey DeltaOperation.effect
    fun elements operation => operation.apply elements := by
  intro elements operation wanted after unique aims effect
  cases operation with
  | upsert key element =>
    obtain rfl : key = wanted := by simpa [DeltaOperation.targetKey] using aims
    obtain ⟨same, rfl⟩ : element.key = key ∧ some element = after := by
      simpa [DeltaOperation.effect] using effect
    cases replaced : replaceFirst (hasKey key) element elements with
    | none =>
      refine ⟨elements ++ [element], by simp [DeltaOperation.apply, replaced], added unique ?_ same⟩
      have missing := @replaceFirst_isSome _ (hasKey key) elements element
      simpa [replaced, lookup_hasKey] using missing.symm
    | some result =>
      obtain ⟨old, others, passes, before, result'⟩ := replaceFirst_perm replaced
      exact ⟨result, by simp [DeltaOperation.apply, replaced],
        exchanged unique before result' (by simpa [hasKey] using passes) same⟩
  | replace key element =>
    obtain rfl : key = wanted := by simpa [DeltaOperation.targetKey] using aims
    obtain ⟨same, found, present, rfl⟩ : element.key = key ∧ ∃ found,
        lookup SnapshotElement.key elements key = some found ∧ some element = after := by
      simpa [DeltaOperation.effect] using effect
    have there := @replaceFirst_isSome _ (hasKey key) elements element
    rw [lookup_hasKey, present] at there
    obtain ⟨result, replaced⟩ := Option.isSome_iff_exists.mp there
    obtain ⟨old, others, passes, before, result'⟩ := replaceFirst_perm replaced
    exact ⟨result, by simp [DeltaOperation.apply, orElse_ok, replaced],
      exchanged unique before result' (by simpa [hasKey] using passes) same⟩
  | remove key =>
    obtain rfl : key = wanted := by simpa [DeltaOperation.targetKey] using aims
    obtain ⟨found, present, rfl⟩ : ∃ found, lookup SnapshotElement.key elements key = some found ∧ none = after := by
      simpa [DeltaOperation.effect] using effect
    have there := @takeFirst_isSome _ (hasKey key) elements
    rw [lookup_hasKey, present] at there
    obtain ⟨split, took⟩ := Option.isSome_iff_exists.mp there
    obtain ⟨key', before⟩ := taken took
    exact ⟨split.2, by simp only [DeltaOperation.apply, took]; rfl, removed unique before key'⟩
  | move key order target =>
    obtain rfl : key = wanted := by simpa [DeltaOperation.targetKey] using aims
    obtain ⟨found, present, rfl⟩ : ∃ found, lookup SnapshotElement.key elements key = some found ∧
        some { found with order } = after := by
      simpa [DeltaOperation.effect] using effect
    have there := @takeFirst_isSome _ (hasKey key) elements
    rw [lookup_hasKey, present] at there
    obtain ⟨split, took⟩ := Option.isSome_iff_exists.mp there
    obtain ⟨key', before⟩ := taken took
    -- the element that is taken is the one that is found
    obtain rfl : split.1 = found := by
      rw [lookup_perm unique before, lookup_cons, if_pos key'] at present
      simpa using present
    refine ⟨split.2.insertIdx (insertAt split.2 target) { split.1 with order },
      by simp only [DeltaOperation.apply, took]; rfl, ?_⟩
    exact exchanged unique before (List.perm_insertIdx _ _ (insertAt_le _ _)) key' key'
  | frameReset frameId frameVersion => cases aims

section Everywhere

variable {holds : SnapshotElement -> Prop}

theorem all_exchange (all : ∀ element, element ∈ elements -> holds element)
    (before : elements.Perm (old :: others)) (after : next.Perm (new :: others)) (carried : holds new) :
    ∀ element, element ∈ next -> holds element := by
  intro element inside
  rcases List.mem_cons.mp (after.mem_iff.mp inside) with rfl | inside
  · exact carried
  · exact all element (before.mem_iff.mpr (List.mem_cons_of_mem _ inside))

theorem DeltaOperation.apply_all (reorder : ∀ element order, holds element -> holds { element with order })
    (all : ∀ element, element ∈ elements -> holds element)
    (carried : ∀ element, operation.element = some element -> holds element)
    (done : operation.apply elements = .ok next) : ∀ element, element ∈ next -> holds element := by
  cases operation with
  | upsert key element =>
    obtain rfl : (replaceFirst (hasKey key) element elements).getD (elements ++ [element]) = next := by
      simpa [DeltaOperation.apply] using done
    cases replaced : replaceFirst (hasKey key) element elements with
    | none =>
      intro other inside
      rcases List.mem_append.mp inside with inside | inside
      · exact all other inside
      · rw [List.mem_singleton.mp inside]
        exact carried element rfl
    | some result =>
      obtain ⟨old, others, _, before, after⟩ := replaceFirst_perm replaced
      exact all_exchange all before after (carried element rfl)
  | remove key =>
    simp only [DeltaOperation.apply, bind_ok, orElse_ok, pure_ok] at done
    obtain ⟨found, took, rfl⟩ := done
    obtain ⟨_, before⟩ := taken took
    intro element inside
    exact all element (before.mem_iff.mpr (List.mem_cons_of_mem _ inside))
  | move key order target =>
    simp only [DeltaOperation.apply, bind_ok, orElse_ok, pure_ok] at done
    obtain ⟨found, took, rfl⟩ := done
    obtain ⟨_, before⟩ := taken took
    refine all_exchange all before (List.perm_insertIdx _ _ (insertAt_le _ _)) ?_
    exact reorder _ _ (all found.1 (before.mem_iff.mpr List.mem_cons_self))
  | replace key element =>
    simp only [DeltaOperation.apply, orElse_ok] at done
    obtain ⟨old, others, _, before, after⟩ := replaceFirst_perm done
    exact all_exchange all before after (carried element rfl)
  | frameReset frameId frameVersion => cases done

theorem mem_exchange {key : ElementKey} {element : SnapshotElement} (before : elements.Perm (old :: others))
    (after : next.Perm (new :: others)) (key' : old.key = key) (apart : element.key ≠ key)
    (inside : element ∈ elements) : element ∈ next := by
  rcases List.mem_cons.mp (before.mem_iff.mp inside) with rfl | inside
  · exact absurd key' apart
  · exact after.mem_iff.mpr (List.mem_cons_of_mem _ inside)

theorem DeltaOperation.apply_other {element : SnapshotElement} (apart : operation.targetKey ≠ some element.key)
    (inside : element ∈ elements) (done : operation.apply elements = .ok next) : element ∈ next := by
  cases operation with
  | upsert key new =>
    have other : element.key ≠ key := fun same => apart (by rw [same]; rfl)
    obtain rfl : (replaceFirst (hasKey key) new elements).getD (elements ++ [new]) = next := by
      simpa [DeltaOperation.apply] using done
    cases replaced : replaceFirst (hasKey key) new elements with
    | none => exact List.mem_append_left _ inside
    | some result =>
      obtain ⟨old, others, passes, before, after⟩ := replaceFirst_perm replaced
      exact mem_exchange before after (by simpa [hasKey] using passes) other inside
  | remove key =>
    simp only [DeltaOperation.apply, bind_ok, orElse_ok, pure_ok] at done
    obtain ⟨found, took, rfl⟩ := done
    obtain ⟨key', before⟩ := taken took
    rcases List.mem_cons.mp (before.mem_iff.mp inside) with same | inside
    · exact absurd (by rw [same, key']; rfl) apart
    · exact inside
  | move key order target =>
    have other : element.key ≠ key := fun same => apart (by rw [same]; rfl)
    simp only [DeltaOperation.apply, bind_ok, orElse_ok, pure_ok] at done
    obtain ⟨found, took, rfl⟩ := done
    obtain ⟨key', before⟩ := taken took
    exact mem_exchange before (List.perm_insertIdx _ _ (insertAt_le _ _)) key' other inside
  | replace key new =>
    have other : element.key ≠ key := fun same => apart (by rw [same]; rfl)
    simp only [DeltaOperation.apply, orElse_ok] at done
    obtain ⟨old, others, passes, before, after⟩ := replaceFirst_perm done
    exact mem_exchange before after (by simpa [hasKey] using passes) other inside
  | frameReset frameId frameVersion => cases done

theorem DeltaOperation.apply_carried {element : SnapshotElement} (carries : operation.element = some element)
    (done : operation.apply elements = .ok next) : element ∈ next := by
  cases operation with
  | upsert key new =>
    obtain rfl : new = element := by simpa [DeltaOperation.element] using carries
    obtain rfl : (replaceFirst (hasKey key) new elements).getD (elements ++ [new]) = next := by
      simpa [DeltaOperation.apply] using done
    cases replaced : replaceFirst (hasKey key) new elements with
    | none => exact List.mem_append_right _ (List.mem_singleton.mpr rfl)
    | some result =>
      obtain ⟨_, _, _, _, after⟩ := replaceFirst_perm replaced
      exact after.mem_iff.mpr List.mem_cons_self
  | replace key new =>
    obtain rfl : new = element := by simpa [DeltaOperation.element] using carries
    simp only [DeltaOperation.apply, orElse_ok] at done
    obtain ⟨_, _, _, _, after⟩ := replaceFirst_perm done
    exact after.mem_iff.mpr List.mem_cons_self
  | remove key => cases carries
  | move key order target => cases carries
  | frameReset frameId frameVersion => cases carries

theorem foldlM_other {element : SnapshotElement}
    (apart : ∀ operation, operation ∈ operations -> operation.targetKey ≠ some element.key) (inside : element ∈ elements)
    (ran : operations.foldlM (fun elements operation => operation.apply elements) elements = .ok next) : element ∈ next :=
  foldlM_keeps (element ∈ ·) (fun _ operation _ member here done => operation.apply_other (apart operation member) here done)
    inside ran

theorem foldlM_carried (distinct : operations.Pairwise fun first second =>
      ∀ key, first.targetKey = some key -> second.targetKey ≠ some key)
    (member : operation ∈ operations) {element : SnapshotElement} (carries : operation.element = some element)
    (aims : operation.targetKey = some element.key)
    (ran : operations.foldlM (fun elements operation => operation.apply elements) elements = .ok next) : element ∈ next := by
  induction operations generalizing elements with
  | nil => cases member
  | cons first rest ih =>
    obtain ⟨apart, distinct⟩ := List.pairwise_cons.mp distinct
    rw [List.foldlM_cons, bind_ok] at ran
    obtain ⟨middle, done, ran⟩ := ran
    rcases List.mem_cons.mp member with rfl | member
    · exact foldlM_other (fun later inside => apart later inside _ aims) (operation.apply_carried carries done) ran
    · exact ih distinct member ran

end Everywhere

section Change

def DeltaOperation.mapElement (change : SnapshotElement -> SnapshotElement) : DeltaOperation -> DeltaOperation
  | upsert key element => upsert key (change element)
  | replace key element => replace key (change element)
  | operation => operation

variable {change : SnapshotElement -> SnapshotElement} (keeps_key : ∀ element, (change element).key = element.key)
  (reorder : ∀ element order, change { element with order } = { change element with order })

include keeps_key

theorem insertAt_map (before : Option ElementKey) : insertAt (elements.map change) before = insertAt elements before := by
  cases before with
  | none => simp [insertAt]
  | some target =>
    have same : hasKey target ∘ change = hasKey target := by
      funext element
      simp [hasKey, keeps_key]
    simp [insertAt, same]

include reorder

theorem DeltaOperation.apply_map (operation : DeltaOperation) (elements : List SnapshotElement) :
    (operation.mapElement change).apply (elements.map change) = (operation.apply elements).map (List.map change) := by
  have same (key : ElementKey) (element : SnapshotElement) : hasKey key (change element) = hasKey key element := by
    simp [hasKey, keeps_key]
  cases operation with
  | upsert key element =>
    simp only [mapElement, apply, replaceFirst_map (same key), Except.map]
    cases replaceFirst (hasKey key) element elements <;> simp
  | replace key element =>
    simp only [mapElement, apply, replaceFirst_map (same key)]
    cases replaceFirst (hasKey key) element elements <;> rfl
  | remove key =>
    simp only [mapElement, apply, takeFirst_map (same key)]
    cases takeFirst (hasKey key) elements <;> rfl
  | move key order before =>
    simp only [mapElement, apply, takeFirst_map (same key)]
    cases takeFirst (hasKey key) elements with
    | none => rfl
    | some found =>
      show Except.ok _ = Except.ok _
      rw [List.map_insertIdx, insertAt_map keeps_key, reorder]
  | frameReset frameId frameVersion => rfl

theorem foldlM_mapElement (operations : List DeltaOperation) (elements : List SnapshotElement) :
    (operations.map (DeltaOperation.mapElement change)).foldlM
        (fun elements (operation : DeltaOperation) => operation.apply elements) (elements.map change) =
      (operations.foldlM (fun elements (operation : DeltaOperation) => operation.apply elements) elements).map (List.map change) := by
  induction operations generalizing elements with
  | nil => rfl
  | cons first rest ih =>
    rw [List.map_cons, List.foldlM_cons, List.foldlM_cons, first.apply_map keeps_key reorder]
    cases first.apply elements with
    | ok next => exact ih next
    | error failure => rfl

end Change

theorem SnapshotDelta.validate_ok (valid : delta.validate limits = .ok ()) :
    delta.operations.Pairwise (fun first second =>
        ∀ key, first.targetKey = some key -> second.targetKey ≠ some key) ∧
      ∀ operation, operation ∈ delta.operations -> ∀ element, operation.element = some element ->
        element.validate = .ok () ∧ operation.targetKey = some element.key := by
  simp only [SnapshotDelta.validate, bind_ok, forEachAfter_ok] at valid
  obtain ⟨_, _, _, _, _, _, each⟩ := valid
  constructor
  · rw [List.pairwise_iff_forall_sublist]
    intro first second inside key aims
    obtain ⟨before, rest, split, one, two⟩ := List.cons_sublist_iff.mp inside
    obtain ⟨middle, after, rfl⟩ := List.append_of_mem (List.singleton_sublist.mp two)
    have checked := each (before ++ middle) second after (by rw [split, List.append_assoc])
    rw [List.nil_append] at checked
    intro aims'
    exact (checkOperation_ok checked).2 key aims' first (List.mem_append_left _ one) aims
  · intro operation inside
    obtain ⟨before, after, split⟩ := List.append_of_mem inside
    exact (checkOperation_ok (each before operation after split)).1

theorem SnapshotDelta.applyIn_ok {order : List DeltaOperation} : delta.applyIn order base limits = .ok result <->
      delta.validate limits = .ok () ∧ base.snapshotVersion = delta.baseSnapshotVersion ∧
      base.snapshotHash = delta.baseHash ∧ base.validate = .ok () ∧
      delta.operations.findSome? (·.resetFrame) = none ∧
      ∃ elements, order.foldlM (fun elements (operation : DeltaOperation) => operation.apply elements) base.elements =
          .ok elements ∧
        normalizeElements elements = .ok result.elements ∧ hashElements result.elements = result.snapshotHash ∧
        result.snapshotVersion = delta.resultSnapshotVersion ∧ result.snapshotHash = delta.resultHash := by
  cases frames : delta.operations.findSome? (·.resetFrame) with
  | some frameId =>
    simp [SnapshotDelta.applyIn, bind_ok, frames]
  | none =>
    simp only [SnapshotDelta.applyIn, bind_ok, require_ok, mapError_ok, pure_ok, frames, Option.elim, beq_iff_eq]
    constructor
    · rintro ⟨_, valid, _, version, _, hash, _, base, _, _, elements, folded, normal, normalized, _, same, rfl⟩
      exact ⟨valid, version, hash, base, trivial, elements, folded, normalized, same, rfl, rfl⟩
    · rintro ⟨valid, version, hash, base, _, elements, folded, normalized, same, version', hash'⟩
      refine ⟨(), valid, (), version, (), hash, (), base, (), trivial, elements, folded, result.elements, normalized, (), ?_, ?_⟩
      · rw [same, hash']
      · rw [← version', ← hash']

theorem SnapshotDelta.apply_ok :
    delta.apply base limits = .ok result <->
      delta.validate limits = .ok () ∧ base.snapshotVersion = delta.baseSnapshotVersion ∧
      base.snapshotHash = delta.baseHash ∧ base.validate = .ok () ∧
      delta.operations.findSome? (·.resetFrame) = none ∧
      ∃ elements, delta.operations.foldlM (fun elements operation => operation.apply elements) base.elements = .ok elements ∧
        normalizeElements elements = .ok result.elements ∧ hashElements result.elements = result.snapshotHash ∧
        result.snapshotVersion = delta.resultSnapshotVersion ∧ result.snapshotHash = delta.resultHash :=
  delta.applyIn_ok

theorem SnapshotDelta.apply_normal (applied : delta.apply base limits = .ok result) : result.Normal := by
  obtain ⟨valid, _, _, base_valid, _, elements, folded, normal, hash, _⟩ := SnapshotDelta.apply_ok.mp applied
  obtain ⟨_, carried⟩ := delta.validate_ok valid
  have start : AllValid base.elements := (SnapshotDocument.validate_ok base_valid).2.1
  have last : AllValid elements := by
    refine foldlM_keeps AllValid ?_ start folded
    intro elements operation next inside valid done
    exact operation.apply_all (fun _ _ same => same) valid (fun element has => (carried operation inside element has).1) done
  obtain ⟨bounded, moved, unique, rising⟩ := normalizeElements_ok.mp normal
  exact ⟨SnapshotDocument.validate_of normal last hash,
    normalizeElements_ok.mpr ⟨moved.length_eq ▸ bounded, .refl _, unique, rising⟩⟩

end Effects

end AgentycHost
