import AgentycHost.Safety.Patches

set_option autoImplicit false

/-! # A delta is a key-wise update -/

namespace AgentycHost

open Shared

section Updates

variable {operation : DeltaOperation} {operations order other : List DeltaOperation} {delta : SnapshotDelta}
  {limits : DeltaLimits} {base result : SnapshotDocument} {elements next : List SnapshotElement} {key : ElementKey}

/-- What an operation that goes through makes of the element of its key. -/
def DeltaOperation.perform : DeltaOperation -> Option SnapshotElement -> Option SnapshotElement
  | .upsert _ element, _ => some element
  | .replace _ element, _ => some element
  | .remove _, _ => none
  | .move _ order _, found => found.map fun element => { element with order }
  | .frameReset _ _, found => found

/-- The element of a key after a delta, from the one before it and the operation on that key. -/
def SnapshotDelta.updated (delta : SnapshotDelta) (elements : List SnapshotElement) (key : ElementKey) : Option SnapshotElement :=
  let found := lookup SnapshotElement.key elements key
  (delta.operations.find? fun operation => operation.targetKey == some key).elim found (·.perform found)

/-- The elements of a result are those of the updated map, in canonical order. -/
structure KeyWiseUpdate (delta : SnapshotDelta) (base result : SnapshotDocument) : Prop where
  unique : UniqueKeys SnapshotElement.key result.elements
  rising : result.elements.Pairwise fun first second => first.order < second.order
  updated : ∀ key, lookup SnapshotElement.key result.elements key = delta.updated base.elements key

theorem DeltaOperation.effect_perform {found after : Option SnapshotElement} (hits : operation.effect found = some after) :
    operation.perform found = after := by
  cases operation with
  | upsert key element =>
    obtain ⟨_, same⟩ : element.key = key ∧ some element = after := by simpa [effect] using hits
    exact same
  | replace key element =>
    obtain ⟨_, _, _, same⟩ : element.key = key ∧ ∃ old, found = some old ∧ some element = after := by
      simpa [effect] using hits
    exact same
  | remove key =>
    obtain ⟨_, _, same⟩ : ∃ old, found = some old ∧ none = after := by simpa [effect] using hits
    exact same
  | move key order before =>
    obtain ⟨old, rfl, same⟩ : ∃ old, found = some old ∧ some { old with order } = after := by
      simpa [effect] using hits
    exact same
  | frameReset frameId frameVersion => cases hits

theorem DeltaOperation.apply_effect
    (carried : ∀ element, operation.element = some element -> operation.targetKey = some element.key)
    (done : operation.apply elements = .ok next) : ∃ wanted after, operation.targetKey = some wanted ∧
      operation.effect (lookup SnapshotElement.key elements wanted) = some after := by
  cases operation with
  | upsert key element =>
    have same : key = element.key := by simpa [targetKey] using carried element rfl
    exact ⟨key, some element, rfl, if_pos same.symm⟩
  | replace key element =>
    have same : key = element.key := by simpa [targetKey] using carried element rfl
    have there : (replaceFirst (hasKey key) element elements).isSome = true := by
      rw [orElse_ok.mp done]
      rfl
    rw [replaceFirst_isSome, lookup_hasKey] at there
    obtain ⟨found, present⟩ := Option.isSome_iff_exists.mp there
    refine ⟨key, some element, rfl, ?_⟩
    rw [present]
    exact if_pos same.symm
  | remove key =>
    obtain ⟨split, took, _⟩ := bind_ok.mp done
    have there : (takeFirst (hasKey key) elements).isSome = true := by
      rw [orElse_ok.mp took]
      rfl
    rw [takeFirst_isSome, lookup_hasKey] at there
    obtain ⟨found, present⟩ := Option.isSome_iff_exists.mp there
    exact ⟨key, none, rfl, by simp [effect, present]⟩
  | move key order before =>
    obtain ⟨split, took, _⟩ := bind_ok.mp done
    have there : (takeFirst (hasKey key) elements).isSome = true := by
      rw [orElse_ok.mp took]
      rfl
    rw [takeFirst_isSome, lookup_hasKey] at there
    obtain ⟨found, present⟩ := Option.isSome_iff_exists.mp there
    exact ⟨key, some { found with order }, rfl, by simp [effect, present]⟩
  | frameReset frameId frameVersion => cases done

theorem apart_symm {first second : DeltaOperation}
    (apart : ∀ key, first.targetKey = some key -> second.targetKey ≠ some key) :
    ∀ key, second.targetKey = some key -> first.targetKey ≠ some key :=
  fun key aims same => apart key same aims

theorem operation_found (distinct : operations.Pairwise fun first second =>
      ∀ key, first.targetKey = some key -> second.targetKey ≠ some key)
    (inside : operation ∈ operations) (aims : operation.targetKey = some key) :
    (operations.find? fun operation => operation.targetKey == some key) = some operation := by
  induction operations with
  | nil => cases inside
  | cons first rest ih =>
    obtain ⟨apart, distinct⟩ := List.pairwise_cons.mp distinct
    rcases List.mem_cons.mp inside with rfl | inside
    · simp [aims]
    · have other : first.targetKey ≠ some key := fun same => apart operation inside key same aims
      simpa [other] using ih distinct inside

theorem SnapshotDelta.updated_at (valid : delta.validate limits = .ok ()) (inside : operation ∈ delta.operations)
    (aims : operation.targetKey = some key) :
    delta.updated elements key = operation.perform (lookup SnapshotElement.key elements key) := by
  rw [updated, operation_found (delta.validate_ok valid).1 inside aims]
  rfl

theorem SnapshotDelta.updated_elsewhere (outside : Untargeted DeltaOperation.targetKey delta.operations key) :
    delta.updated elements key = lookup SnapshotElement.key elements key := by
  have none : (delta.operations.find? fun operation => operation.targetKey == some key) = none := by
    rw [List.find?_eq_none]
    intro operation inside same
    exact outside operation inside (eq_of_beq same)
  rw [updated, none]
  rfl

theorem SnapshotDelta.effects (valid : delta.validate limits = .ok ()) (unique : UniqueKeys SnapshotElement.key elements)
    (rearranged : order.Perm delta.operations)
    (ran : order.foldlM (fun elements (operation : DeltaOperation) => operation.apply elements) elements = .ok next) :
    ∀ operation, operation ∈ delta.operations -> ∃ key after, operation.targetKey = some key ∧
      operation.effect (lookup SnapshotElement.key elements key) = some after := by
  obtain ⟨distinct, carried⟩ := delta.validate_ok valid
  have effects := operations_edit.effects unique ((rearranged.pairwise_iff apart_symm).mpr distinct)
    (fun operation inside _ _ _ done => operation.apply_effect
      (fun element carries => (carried operation (rearranged.mem_iff.mp inside) element carries).2) done) ran
  intro operation listed
  exact effects operation (rearranged.mem_iff.mpr listed)

theorem SnapshotDelta.runs_updated (valid : delta.validate limits = .ok ()) (unique : UniqueKeys SnapshotElement.key elements)
    (rearranged : order.Perm delta.operations) (rearranged' : other.Perm delta.operations)
    (ran : order.foldlM (fun elements (operation : DeltaOperation) => operation.apply elements) elements = .ok next) :
    ∃ next', other.foldlM (fun elements (operation : DeltaOperation) => operation.apply elements) elements = .ok next' ∧
      UniqueKeys SnapshotElement.key next' ∧
      ∀ key, lookup SnapshotElement.key next' key = delta.updated elements key := by
  obtain ⟨distinct, _⟩ := delta.validate_ok valid
  refine operations_edit.run unique ((rearranged'.pairwise_iff apart_symm).mpr distinct) ?_ ?_
  · intro operation inside
    have listed := rearranged'.mem_iff.mp inside
    obtain ⟨key, after, aims, hits⟩ := delta.effects valid unique rearranged ran operation listed
    refine ⟨key, aims, ?_⟩
    rw [delta.updated_at valid listed aims, operation.effect_perform hits]
    exact hits
  · intro key outside
    refine (delta.updated_elsewhere ?_).symm
    intro operation inside
    exact outside operation (rearranged'.mem_iff.mpr inside)

theorem SnapshotDelta.applyIn_updates (rearranged : order.Perm delta.operations)
    (applied : delta.applyIn order base limits = .ok result) : KeyWiseUpdate delta base result := by
  obtain ⟨valid, _, _, base_valid, _, elements, ran, normal, _⟩ := delta.applyIn_ok.mp applied
  obtain ⟨_, _, unique, _⟩ := SnapshotDocument.validate_ok base_valid
  obtain ⟨_, moved, unique', rising⟩ := normalizeElements_ok.mp normal
  obtain ⟨elements', ran', _, updated⟩ := delta.runs_updated valid unique rearranged rearranged ran
  obtain rfl : elements = elements' := by simpa [ran] using ran'
  exact ⟨unique', rising, fun key => (lookup_perm unique' moved.symm).trans (updated key)⟩

theorem SnapshotDelta.applyIn_reorder (rearranged : order.Perm delta.operations) (rearranged' : other.Perm delta.operations)
    (applied : delta.applyIn order base limits = .ok result) : delta.applyIn other base limits = .ok result := by
  have update := delta.applyIn_updates rearranged applied
  obtain ⟨valid, version, hash, base_valid, frames, elements, ran, normal, rest⟩ := delta.applyIn_ok.mp applied
  obtain ⟨_, _, unique, _⟩ := SnapshotDocument.validate_ok base_valid
  obtain ⟨bounded, moved, _, _⟩ := normalizeElements_ok.mp normal
  obtain ⟨elements', ran', unique', updated⟩ := delta.runs_updated valid unique rearranged rearranged' ran
  -- both orders leave the same elements, up to their places before the sort
  have moved' : elements'.Perm result.elements := by
    refine perm_of_lookup unique' update.unique fun key => ?_
    rw [updated, update.updated]
  have bounded' : elements'.length ≤ maxSnapshotElements := by
    rw [moved'.length_eq, ← moved.length_eq]
    exact bounded
  exact delta.applyIn_ok.mpr ⟨valid, version, hash, base_valid, frames, elements', ran',
    normalizeElements_ok.mpr ⟨bounded', moved', update.unique, update.rising⟩, rest⟩

end Updates

/-- A delta comes to the key-wise update of its base, and to the same in every order of its operations. -/
theorem delta_updates_key_wise (delta : SnapshotDelta) (base result : SnapshotDocument) (limits : DeltaLimits) :
    (delta.apply base limits = .ok result -> KeyWiseUpdate delta base result) ∧
      ∀ order : List DeltaOperation, order.Perm delta.operations ->
        (delta.applyIn order base limits = .ok result <-> delta.apply base limits = .ok result) := by
  constructor
  · intro applied
    exact delta.applyIn_updates (.refl _) applied
  · intro order rearranged
    constructor <;> intro applied
    · exact delta.applyIn_reorder rearranged (.refl _) applied
    · exact delta.applyIn_reorder (.refl _) rearranged applied

theorem delta_updates_key_wise_sample : KeyWiseUpdate renumbering firstDocument secondDocument ∧
    renumbering.applyIn [.move stayingKey 0 none, .remove leavingKey] firstDocument .default = .ok secondDocument := by
  obtain ⟨updates, reorders⟩ := delta_updates_key_wise renumbering firstDocument secondDocument .default
  exact ⟨updates renumbering_applies, (reorders _ (.swap _ _ _)).mpr renumbering_applies⟩

section Places

variable {elements : List SnapshotElement} {one two : SnapshotElement} {first second : ElementKey}

/-- An element of the first key stands somewhere before one of the second. -/
def Precedes (elements : List SnapshotElement) (first second : ElementKey) : Prop :=
  ∃ one two : SnapshotElement, [one, two].Sublist elements ∧ one.key = first ∧ two.key = second

theorem precedes_iff (unique : UniqueKeys SnapshotElement.key elements)
    (rising : elements.Pairwise fun first second => first.order < second.order)
    (found : lookup SnapshotElement.key elements first = some one)
    (found' : lookup SnapshotElement.key elements second = some two) :
    Precedes elements first second <-> one.order < two.order := by
  constructor
  · rintro ⟨one', two', inside, rfl, rfl⟩
    obtain rfl : one' = one := by simpa [unique.lookup (inside.subset List.mem_cons_self)] using found
    obtain rfl : two' = two := by
      simpa [unique.lookup (inside.subset (List.mem_cons_of_mem _ (List.mem_singleton.mpr rfl)))] using found'
    exact List.pairwise_iff_forall_sublist.mp rising inside
  · intro less
    obtain ⟨before, after, split⟩ := List.append_of_mem (lookup_mem found)
    have place : two ∈ before ++ one :: after := split ▸ lookup_mem found'
    rw [split] at rising
    obtain ⟨_, _, early⟩ := List.pairwise_append.mp rising
    refine ⟨one, two, ?_, lookup_key found, lookup_key found'⟩
    rcases List.mem_append.mp place with inside | inside
    · have greater := early two inside one List.mem_cons_self
      omega
    · rcases List.mem_cons.mp inside with same | inside
      · rw [same] at less
        omega
      · rw [split]
        exact ((List.singleton_sublist.mpr inside).cons_cons one).trans (List.sublist_append_right _ _)

end Places

/-- An element that is moved before another is there exactly when its new order is less than that of the other. -/
theorem move_honours_anchor_iff (delta : SnapshotDelta) (base result : SnapshotDocument) (limits : DeltaLimits)
    (key anchor : ElementKey) (order : Nat) (applied : delta.apply base limits = .ok result)
    (moves : .move key order (some anchor) ∈ delta.operations)
    (alone : ∀ operation, operation ∈ delta.operations -> operation ≠ .move key order (some anchor) ->
      operation.targetKey ≠ some key ∧ operation.targetKey ≠ some anchor)
    (there : anchor ∈ result.elements.map SnapshotElement.key) :
    Precedes result.elements key anchor <->
      key ≠ anchor ∧ ∃ old, lookup SnapshotElement.key base.elements anchor = some old ∧ order < old.order := by
  have update := delta.applyIn_updates (.refl _) applied
  obtain ⟨valid, _, _, base_valid, _, elements, ran, _⟩ := SnapshotDelta.apply_ok.mp applied
  obtain ⟨_, _, unique, _⟩ := SnapshotDocument.validate_ok base_valid
  -- the move went through, so its element was there
  obtain ⟨wanted, after, aims, hits⟩ := delta.effects valid unique (.refl _) ran _ moves
  obtain rfl : key = wanted := by simpa [DeltaOperation.targetKey] using aims
  obtain ⟨moved, before, rfl⟩ : ∃ moved, lookup SnapshotElement.key base.elements key = some moved ∧
      some { moved with order } = after := by
    simpa [DeltaOperation.effect] using hits
  have moved' : lookup SnapshotElement.key result.elements key = some { moved with order } := by
    rw [update.updated, delta.updated_at valid moves rfl, before]
    rfl
  by_cases same : key = anchor
  next =>
    subst same
    rw [precedes_iff update.unique update.rising moved' moved']
    simp
  next =>
    have outside : Untargeted DeltaOperation.targetKey delta.operations anchor := by
      intro operation inside aims
      by_cases is_move : operation = .move key order (some anchor)
      · rw [is_move] at aims
        exact same (by simpa [DeltaOperation.targetKey] using aims)
      · exact (alone operation inside is_move).2 aims
    have kept : lookup SnapshotElement.key result.elements anchor = lookup SnapshotElement.key base.elements anchor := by
      rw [update.updated, delta.updated_elsewhere outside]
    cases held : lookup SnapshotElement.key base.elements anchor with
    | none =>
      rw [held] at kept
      exact absurd there (lookup_eq_none.mp kept)
    | some old =>
      rw [held] at kept
      rw [precedes_iff update.unique update.rising moved' kept]
      simp [same]

section Sample

def movedDocument : SnapshotDocument := documentOf 2 [plainElement stayingKey 1, plainElement leavingKey 2]

def overshooting : SnapshotDelta where
  baseSnapshotVersion := 1
  baseHash := firstDocument.snapshotHash
  resultSnapshotVersion := 2
  resultHash := movedDocument.snapshotHash
  deltaSequence := 1
  chainDepth := 1
  operations := [.move leavingKey 2 (some stayingKey)]

theorem movedDocument_normal : movedDocument.Normal := documentOf_normal rfl (plain_valid rfl)

theorem overshooting_applies : overshooting.apply firstDocument .default = .ok movedDocument := by
  refine SnapshotDelta.apply_ok.mpr ⟨rfl, rfl, rfl, firstDocument_normal.valid, rfl, _, rfl, ?_, rfl, rfl, rfl⟩
  exact movedDocument_normal.normal

end Sample

theorem move_honours_anchor_iff_sample : ¬ Precedes movedDocument.elements leavingKey stayingKey := by
  rw [move_honours_anchor_iff overshooting firstDocument movedDocument .default leavingKey stayingKey 2 overshooting_applies
    List.mem_cons_self (by simp [overshooting]) (by decide)]
  rintro ⟨_, old, found, less⟩
  obtain rfl : plainElement stayingKey 1 = old := Option.some.inj found
  exact absurd less (by decide)

theorem move_overshoots_anchor : ∃ (delta : SnapshotDelta) (base result : SnapshotDocument) (key anchor : ElementKey)
    (order : Nat), delta.apply base .default = .ok result ∧ .move key order (some anchor) ∈ delta.operations ∧
      (∀ operation, operation ∈ delta.operations -> operation = .move key order (some anchor)) ∧ key ≠ anchor ∧
      anchor ∈ result.elements.map SnapshotElement.key ∧ ¬ Precedes result.elements key anchor := by
  refine ⟨overshooting, firstDocument, movedDocument, leavingKey, stayingKey, 2, overshooting_applies, List.mem_cons_self,
    fun operation inside => List.mem_singleton.mp inside, by decide, by decide, ?_⟩
  obtain ⟨_, _, unique, rising⟩ := normalizeElements_ok.mp movedDocument_normal.normal
  have places : Precedes movedDocument.elements leavingKey stayingKey <-> 2 < 1 :=
    @precedes_iff _ (plainElement leavingKey 2) (plainElement stayingKey 1) _ _ unique rising rfl rfl
  rw [places]
  decide

end AgentycHost
