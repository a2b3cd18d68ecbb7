import AgentycHost.Context.Focus

set_option autoImplicit false

/-! # A focus selects a branch -/

namespace AgentycHost

open Shared

section Branch

variable (elements : List SnapshotElement)

def ParentOf (child parent : ElementKey) : Prop :=
  ∃ element, element ∈ elements ∧ element.key = child ∧ element.parent = some parent

/-- The second key is the first one or one of its ancestors. -/
abbrev Ascends : ElementKey -> ElementKey -> Prop := Relation.ReflTransGen (ParentOf elements)

def OnBranch (target key : ElementKey) : Prop := Ascends elements target key ∨ Ascends elements key target

def LacksAncestor (start : ElementKey) : Prop :=
  ∃ key, Ascends elements start key ∧ key ∉ elements.map SnapshotElement.key

def InCircle (start : ElementKey) : Prop :=
  ∃ key, Ascends elements start key ∧ Relation.TransGen (ParentOf elements) key key

/-- Why a focus may be refused. -/
inductive FocusObstacle (focus : ContextFocus) (frameVersions : FrameVersions) : Prop where
  | nothing (empty : focus.isEmpty = true)
  | unknownFrame (frameId : FrameId) (asked : focus.frameId = some frameId)
      (unknown : frameVersions.containsKey frameId = false)
  | unmappedFrame (frameId : FrameId) (asked : focus.frameId = some frameId)
      (unmapped : frameMarkers elements frameId = [])
      (others : hasFrameMarker elements = true ∨ frameVersions.entries.length ≠ 1)
  | ambiguousFrame (frameId : FrameId) (asked : focus.frameId = some frameId)
      (several : 2 ≤ (frameMarkers elements frameId).length)
  | missingTarget (target : ElementKey) (asked : focus.elementKey = some target)
      (missing : target ∉ elements.map SnapshotElement.key)
  | outsideFrame (frameId : FrameId) (target : ElementKey) (marker : SnapshotElement)
      (frame_asked : focus.frameId = some frameId) (asked : focus.elementKey = some target)
      (marked : frameMarkers elements frameId = [marker]) (outside : ¬ OnBranch elements marker.key target)
  | targetLacksAncestor (target : ElementKey) (asked : focus.elementKey = some target)
      (lacks : LacksAncestor elements target)
  | markerLacksAncestor (frameId : FrameId) (marker : SnapshotElement) (asked : focus.frameId = some frameId)
      (marked : frameMarkers elements frameId = [marker]) (lacks : LacksAncestor elements marker.key)
  | elementLacksAncestor (frameId : FrameId) (element : SnapshotElement) (asked : focus.frameId = some frameId)
      (unmapped : frameMarkers elements frameId = []) (inside : element ∈ elements)
      (lacks : LacksAncestor elements element.key)
  | circle (element : SnapshotElement) (inside : element ∈ elements) (circle : InCircle elements element.key)

end Branch

section Links

variable {elements : List SnapshotElement} (unique : UniqueKeys SnapshotElement.key elements)
  {key target : ElementKey} {keys : List ElementKey} {error : CoreError} {element : SnapshotElement}
  {items : List SnapshotElement}

include unique

theorem parentLink_none :
    parentLink (elementsByKey elements) key = none <-> key ∉ elements.map SnapshotElement.key := by
  rw [parentLink, elementsByKey_get? unique, Option.map_eq_none_iff, lookup_eq_none]

theorem linked_parentOf : Linked (parentLink (elementsByKey elements)) = ParentOf elements := by
  funext child parent
  rw [Linked, parentLink, elementsByKey_get? unique, eq_iff_iff]
  constructor
  · intro linked
    obtain ⟨element, found, same⟩ := Option.map_eq_some_iff.mp linked
    exact ⟨element, lookup_mem found, lookup_key found, same⟩
  · rintro ⟨element, inside, rfl, same⟩
    rw [unique.lookup inside, Option.map_some, same]

theorem onWay_iff {start : ElementKey} :
    OnWay (parentLink (elementsByKey elements)) (some start) key <-> Ascends elements start key := by
  simp [OnWay, Leads, linked_parentOf unique]

theorem ancestorKeys_ok (found : ancestorKeys (elementsByKey elements) target = .ok keys) (key : ElementKey) :
    key ∈ keys <-> Ascends elements target key := by
  have means := climbParents_means (elementsByKey elements) (fun _ => false) (some target)
  unfold ancestorKeys at found
  cases ended : climbParents (elementsByKey elements) (fun _ => false) (some target) with
  | top passed =>
    rw [ended] at found means
    obtain rfl : passed = keys := by simpa using found
    rw [means.1, onWay_iff unique]
  | found =>
    rw [ended] at means
    obtain ⟨_, _, never⟩ := means
    cases never
  | circular =>
    rw [ended] at found
    cases found
  | dangling =>
    rw [ended] at found
    cases found

theorem ancestorKeys_error (failed : ancestorKeys (elementsByKey elements) target = .error error) :
    LacksAncestor elements target ∨ InCircle elements target := by
  have means := climbParents_means (elementsByKey elements) (fun _ => false) (some target)
  unfold ancestorKeys at failed
  cases ended : climbParents (elementsByKey elements) (fun _ => false) (some target) with
  | top passed =>
    rw [ended] at failed
    cases failed
  | found =>
    rw [ended] at failed
    cases failed
  | circular =>
    rw [ended] at means
    obtain ⟨⟨key, way, circle⟩, _⟩ := means
    rw [linked_parentOf unique] at circle
    exact .inr ⟨key, (onWay_iff unique).mp way, circle⟩
  | dangling =>
    rw [ended] at means
    obtain ⟨⟨key, way, missing⟩, _⟩ := means
    exact .inl ⟨key, (onWay_iff unique).mp way, (parentLink_none unique).mp missing⟩

theorem ascends_from (inside : element ∈ elements) :
    Ascends elements element.key key <->
      element.key = key ∨ OnWay (parentLink (elementsByKey elements)) element.parent key := by
  have first : Ascends elements element.key key <-> element.key = key ∨
      ∃ parent, ParentOf elements element.key parent ∧ Ascends elements parent key :=
    Relation.ReflTransGen.cases_head_iff
  rw [first]
  apply or_congr Iff.rfl
  constructor
  · rintro ⟨parent, ⟨other, inside', same, parent'⟩, leads⟩
    obtain rfl : other = element := List.inj_on_of_nodup_map unique inside' inside same
    rw [parent', onWay_iff unique]
    exact leads
  · rintro ⟨parent, parent', leads⟩
    rw [Leads, linked_parentOf unique] at leads
    exact ⟨parent, ⟨element, inside, rfl, parent'⟩, leads⟩

theorem isDescendantOf_ok (inside : element ∈ elements) {below : Bool}
    (told : isDescendantOf (elementsByKey elements) element.key target = .ok below) :
    below = true <-> Ascends elements element.key target := by
  have means := climbParents_means (elementsByKey elements) (fun key => key == target) element.parent
  unfold isDescendantOf at told
  rw [elementsByKey_get? unique, unique.lookup inside] at told
  rw [ascends_from unique inside]
  split at told
  next same =>
    obtain rfl : true = below := by simpa using told
    simp [same]
  next apart =>
    simp only at told
    -- a walk that was not stopped has not met the target
    have absent : (∀ key, OnWay (parentLink (elementsByKey elements)) element.parent key -> (key == target) = false) ->
        ¬ OnWay (parentLink (elementsByKey elements)) element.parent target := by
      intro free way
      simpa using free target way
    cases ended : climbParents (elementsByKey elements) (fun key => key == target) element.parent with
    | top passed =>
      rw [ended] at told means
      obtain rfl : false = below := by simpa using told
      simpa [apart] using absent means.2
    | found =>
      rw [ended] at told means
      obtain rfl : true = below := by simpa using told
      obtain ⟨key, way, same⟩ := means
      obtain rfl : key = target := by simpa using same
      simp [way]
    | circular =>
      rw [ended] at told
      cases told
    | dangling =>
      rw [ended] at told means
      obtain rfl : false = below := by simpa using told
      simpa [apart] using absent means.2

theorem isDescendantOf_error (inside : element ∈ elements)
    (failed : isDescendantOf (elementsByKey elements) element.key target = .error error) :
    InCircle elements element.key := by
  have means := climbParents_means (elementsByKey elements) (fun key => key == target) element.parent
  unfold isDescendantOf at failed
  rw [elementsByKey_get? unique, unique.lookup inside] at failed
  split at failed
  next => cases failed
  next =>
    simp only at failed
    cases ended : climbParents (elementsByKey elements) (fun key => key == target) element.parent with
    | top passed =>
      rw [ended] at failed
      cases failed
    | found =>
      rw [ended] at failed
      cases failed
    | circular =>
      rw [ended] at means
      obtain ⟨⟨key, way, circle⟩, _⟩ := means
      rw [linked_parentOf unique] at circle
      exact ⟨key, (ascends_from unique inside).mpr (.inr way), circle⟩
    | dangling =>
      rw [ended] at failed
      cases failed

theorem descendantKeys_ok (inside : items ⊆ elements)
    (found : descendantKeys (elementsByKey elements) target items = .ok keys) (key : ElementKey) :
    key ∈ keys <-> key ∈ items.map SnapshotElement.key ∧ Ascends elements key target := by
  induction items generalizing keys with
  | nil =>
    obtain rfl : [] = keys := by simpa [descendantKeys] using found
    simp
  | cons element rest ih =>
    obtain ⟨here, others⟩ := List.cons_subset.mp inside
    simp only [descendantKeys, bind_ok, pure_ok] at found
    obtain ⟨below, told, keys', found', rfl⟩ := found
    have one := isDescendantOf_ok unique here told
    have more := ih others found'
    cases below with
    | true =>
      simp only [if_true, List.mem_cons, List.map_cons, more]
      constructor
      · rintro (rfl | ⟨listed, ascends⟩)
        · exact ⟨.inl rfl, one.mp rfl⟩
        · exact ⟨.inr listed, ascends⟩
      · rintro ⟨rfl | listed, ascends⟩
        · exact .inl rfl
        · exact .inr ⟨listed, ascends⟩
    | false =>
      have apart : ¬ Ascends elements element.key target := fun ascends => Bool.false_ne_true (one.mpr ascends)
      simp only [Bool.false_eq_true, if_false, List.mem_cons, List.map_cons, more]
      constructor
      · rintro ⟨listed, ascends⟩
        exact ⟨.inr listed, ascends⟩
      · rintro ⟨rfl | listed, ascends⟩
        · exact absurd ascends apart
        · exact ⟨listed, ascends⟩

theorem descendantKeys_error (inside : items ⊆ elements)
    (failed : descendantKeys (elementsByKey elements) target items = .error error) :
    ∃ element, element ∈ elements ∧ InCircle elements element.key := by
  induction items with
  | nil => cases failed
  | cons element rest ih =>
    obtain ⟨here, others⟩ := List.cons_subset.mp inside
    rcases bind_error.mp failed with failed | ⟨_, _, failed⟩
    · exact ⟨element, here, isDescendantOf_error unique here failed⟩
    · rcases bind_error.mp failed with failed | ⟨_, _, failed⟩
      · exact ih others failed
      · exact (pure_error.mp failed).elim

theorem subtreeKeys_ok (found : subtreeKeys (elementsByKey elements) elements target = .ok keys)
    (listed : key ∈ elements.map SnapshotElement.key) : key ∈ keys <-> OnBranch elements target key := by
  simp only [subtreeKeys, bind_ok, pure_ok] at found
  obtain ⟨ancestors, above, descendants, below, rfl⟩ := found
  rw [List.mem_append, ancestorKeys_ok unique above, descendantKeys_ok unique (List.Subset.refl _) below, OnBranch]
  simp [listed]

theorem subtreeKeys_error (failed : subtreeKeys (elementsByKey elements) elements target = .error error) :
    LacksAncestor elements target ∨ InCircle elements target ∨ ∃ element, element ∈ elements ∧ InCircle elements element.key := by
  rcases bind_error.mp failed with failed | ⟨_, _, failed⟩
  · exact (ancestorKeys_error unique failed).imp_right .inl
  · rcases bind_error.mp failed with failed | ⟨_, _, failed⟩
    · exact .inr (.inr (descendantKeys_error unique (List.Subset.refl _) failed))
    · exact (pure_error.mp failed).elim

end Links

section Focus

variable {elements : List SnapshotElement} {focus : ContextFocus} {frameVersions : FrameVersions}
  {target : ElementKey} {scope : Option (List ElementKey)} {error : CoreError}

def Circles (elements : List SnapshotElement) : Prop := ∃ element, element ∈ elements ∧ InCircle elements element.key

theorem frameMarkers_mem {frameId : FrameId} {marker : SnapshotElement} (marked : frameMarkers elements frameId = [marker]) :
    marker ∈ elements := by
  have inside : marker ∈ frameMarkers elements frameId := by simp [marked]
  exact List.mem_of_mem_filter inside

theorem frameScope_ok (unique : UniqueKeys SnapshotElement.key elements) {asked : Option FrameId}
    (found : frameScope elements frameVersions asked = .ok scope) (listed : target ∈ elements.map SnapshotElement.key)
    (outside : scope.all (fun keys => keys.contains target) = false) :
    ∃ frameId marker, asked = some frameId ∧ frameMarkers elements frameId = [marker] ∧
      ¬ OnBranch elements marker.key target := by
  cases asked with
  | none =>
    obtain rfl : none = scope := by simpa [frameScope] using found
    cases outside
  | some frameId =>
    simp only [frameScope, frameScopeKeys, bind_ok, pure_ok] at found
    obtain ⟨_, _, keys, ⟨_, _, found⟩, rfl⟩ := found
    cases marked : frameMarkers elements frameId with
    | nil =>
      rw [marked] at found
      simp only [bind_ok, pure_ok] at found
      obtain ⟨_, _, _, _, _, _, rfl⟩ := found
      simp only [Option.all_some, List.contains_eq_mem, listed, decide_true] at outside
      cases outside
    | cons marker rest =>
      rw [marked] at found
      cases rest with
      | nil =>
        refine ⟨frameId, marker, rfl, marked, ?_⟩
        rw [← subtreeKeys_ok unique found listed]
        simpa using outside
      | cons => cases found

theorem subtree_obstacle (unique : UniqueKeys SnapshotElement.key elements) {start : ElementKey}
    (inside : start ∈ elements.map SnapshotElement.key)
    (failed : subtreeKeys (elementsByKey elements) elements start = .error error) :
    LacksAncestor elements start ∨ Circles elements := by
  rcases subtreeKeys_error unique failed with lacks | circle | circles
  · exact .inl lacks
  · obtain ⟨element, listed, rfl⟩ := List.mem_map.mp inside
    exact .inr ⟨element, listed, circle⟩
  · exact .inr circles

theorem frameScope_error (unique : UniqueKeys SnapshotElement.key elements)
    (failed : frameScope elements frameVersions focus.frameId = .error error) :
    FocusObstacle elements focus frameVersions := by
  cases asked : focus.frameId with
  | none =>
    rw [asked] at failed
    cases failed
  | some frameId =>
    rw [asked, frameScope] at failed
    rcases bind_error.mp failed with failed | ⟨_, known, failed⟩
    · exact .unknownFrame frameId asked (require_error.mp failed).1
    · rcases bind_error.mp failed with failed | ⟨_, _, failed⟩
      · rw [frameScopeKeys] at failed
        rcases bind_error.mp failed with failed | ⟨_, counted, failed⟩
        · -- the frame was found, so there is at least one
          obtain ⟨version, found⟩ := Option.isSome_iff_exists.mp (require_ok.mp known)
          have none_there := (require_error.mp failed).1
          rw [OrderedMap.get?] at found
          simp only [bne_eq_false_iff_eq, List.length_eq_zero_iff] at none_there
          rw [none_there] at found
          cases found
        · cases marked : frameMarkers elements frameId with
          | nil =>
            rw [marked] at failed
            rcases bind_error.mp failed with failed | ⟨_, _, failed⟩
            · exact .unmappedFrame frameId asked marked (.inl (by simpa using (require_error.mp failed).1))
            · rcases bind_error.mp failed with failed | ⟨_, _, failed⟩
              · exact .unmappedFrame frameId asked marked (.inr (by simpa using (require_error.mp failed).1))
              · rcases bind_error.mp failed with failed | ⟨_, _, failed⟩
                · obtain ⟨element, inside, failed⟩ := forEach_error failed
                  rcases bind_error.mp failed with failed | ⟨_, _, failed⟩
                  · rcases ancestorKeys_error unique failed with lacks | circle
                    · exact .elementLacksAncestor frameId element asked marked inside lacks
                    · exact .circle element inside circle
                  · exact (pure_error.mp failed).elim
                · exact (pure_error.mp failed).elim
          | cons marker rest =>
            rw [marked] at failed
            cases rest with
            | nil =>
              have listed := @List.mem_map_of_mem _ _ _ _ SnapshotElement.key (frameMarkers_mem marked)
              rcases subtree_obstacle unique listed failed with lacks | ⟨element, inside, circle⟩
              · exact .markerLacksAncestor frameId marker asked marked lacks
              · exact .circle element inside circle
            | cons other more => exact .ambiguousFrame frameId asked (by simp [marked])
      · exact (pure_error.mp failed).elim

theorem focusKeys_error (unique : UniqueKeys SnapshotElement.key elements) (present : focus.isEmpty = false)
    (found : frameScope elements frameVersions focus.frameId = .ok scope)
    (failed : focusKeys elements scope focus.elementKey = .error error) :
    FocusObstacle elements focus frameVersions := by
  cases asked : focus.elementKey with
  | none =>
    rw [asked, focusKeys] at failed
    obtain ⟨rfl, _⟩ := orElse_error.mp failed
    cases frame : focus.frameId with
    | none => simp [ContextFocus.isEmpty, asked, frame] at present
    | some frameId =>
      rw [frame, frameScope] at found
      simp only [bind_ok, pure_ok] at found
      obtain ⟨_, _, _, _, impossible⟩ := found
      cases impossible
  | some target =>
    rw [asked, focusKeys] at failed
    rcases bind_error.mp failed with failed | ⟨_, there, failed⟩
    · refine .missingTarget target asked ?_
      have missing := (require_error.mp failed).1
      rw [Table.contains, elementsByKey_get? unique, Option.isSome_eq_false_iff, Option.isNone_iff_eq_none] at missing
      exact lookup_eq_none.mp missing
    · have listed : target ∈ elements.map SnapshotElement.key := by
        have contained := require_ok.mp there
        rw [Table.contains, elementsByKey_get? unique] at contained
        by_contra missing
        rw [lookup_eq_none.mpr missing] at contained
        cases contained
      rcases bind_error.mp failed with failed | ⟨_, _, failed⟩
      · obtain ⟨frameId, marker, frame, marked, outside⟩ := frameScope_ok unique found listed (require_error.mp failed).1
        exact .outsideFrame frameId target marker frame asked marked outside
      · rcases subtree_obstacle unique listed failed with lacks | ⟨element, inside, circle⟩
        · exact .targetLacksAncestor target asked lacks
        · exact .circle element inside circle

theorem focusElements_error (unique : UniqueKeys SnapshotElement.key elements)
    (failed : focusElements elements focus frameVersions = .error error) :
    FocusObstacle elements focus frameVersions := by
  rw [focusElements] at failed
  rcases bind_error.mp failed with failed | ⟨_, present, failed⟩
  · exact .nothing (by simpa using (require_error.mp failed).1)
  · rcases bind_error.mp failed with failed | ⟨scope, found, failed⟩
    · exact frameScope_error unique failed
    · rcases bind_error.mp failed with failed | ⟨_, _, failed⟩
      · exact focusKeys_error unique (by simpa using require_ok.mp present) found failed
      · exact (pure_error.mp failed).elim

/-- What is selected, in document order: the elements that pass a test for the branch. -/
def SelectsBranch (elements : List SnapshotElement) (target : ElementKey) (result : List SnapshotElement) : Prop :=
  ∃ keep : SnapshotElement -> Bool,
    (∀ element, element ∈ elements -> (keep element = true <-> OnBranch elements target element.key)) ∧
      result = elements.filter keep

theorem focusElements_ok (unique : UniqueKeys SnapshotElement.key elements) {result : List SnapshotElement}
    (asked : focus.elementKey = some target) (found : focusElements elements focus frameVersions = .ok result) :
    SelectsBranch elements target result := by
  simp only [focusElements, asked, focusKeys, bind_ok, pure_ok] at found
  obtain ⟨_, _, _, _, keys, ⟨_, _, _, _, subtree⟩, rfl⟩ := found
  refine ⟨fun element => keys.contains element.key, ?_, rfl⟩
  intro element inside
  rw [List.contains_iff_mem]
  exact subtreeKeys_ok unique subtree (List.mem_map_of_mem inside)

end Focus

section Sample

variable {child : ElementKey}

def focusRoot : ElementKey := ⟨"root", by decide⟩
def focusChild : ElementKey := ⟨"child", by decide⟩
def focusSibling : ElementKey := ⟨"sibling", by decide⟩
theorem focusFrame_valid : validateIdentifier "frame_" "main" = true := by decide

def focusFrame : FrameId := ⟨"main", focusFrame_valid⟩

theorem sample_attributes_sorted :
    [("frame_id", "frame_main")].Pairwise fun first second => textBefore (id first.1) (id second.1) = true := .cons (by simp) .nil

def focusElement (key : ElementKey) (parent : Option ElementKey) (order : Nat) : SnapshotElement where
  key := key
  parent := parent
  kind := .element
  text := none
  attributes := .empty
  order := order

def frameElement : SnapshotElement where
  key := focusRoot
  parent := none
  kind := .frame
  text := none
  attributes := { entries := [("frame_id", "frame_main")], sorted := sample_attributes_sorted }
  order := 0

theorem sample_frames_sorted :
    [(focusFrame, 1)].Pairwise fun first second => textBefore first.1.text second.1.text = true := .cons (by simp) .nil

def sampleFrames : FrameVersions where
  entries := [(focusFrame, 1)]
  sorted := sample_frames_sorted

def besideFrame : List SnapshotElement := [frameElement, focusElement focusChild none 1]

def besideFocus : ContextFocus where
  frameId := some focusFrame
  elementKey := some focusChild

def twoBranches : List SnapshotElement :=
  [focusElement focusRoot none 0, focusElement focusChild (some focusRoot) 1, focusElement focusSibling none 2]

def childFocus : ContextFocus where
  elementKey := some focusChild

theorem besideFrame_unique : UniqueKeys SnapshotElement.key besideFrame := by
  unfold UniqueKeys
  decide +kernel

theorem twoBranches_unique : UniqueKeys SnapshotElement.key twoBranches := by
  unfold UniqueKeys
  decide

theorem childFocus_selects : focusElements twoBranches childFocus sampleFrames = .ok (twoBranches.take 2) := rfl

theorem besideFrame_flat {parent : ElementKey} : ¬ ParentOf besideFrame child parent := by
  rintro ⟨element, inside, _, parent'⟩
  have none_there : besideFrame.all (fun element => element.parent.isNone) = true := rfl
  have alone := List.all_eq_true.mp none_there element inside
  rw [parent'] at alone
  cases alone

theorem besideFrame_alone {ancestor : ElementKey} (ascends : Ascends besideFrame child ancestor) :
    ancestor = child := by
  rcases Relation.ReflTransGen.cases_head ascends with same | ⟨_, parent, _⟩
  · exact same.symm
  · exact absurd parent besideFrame_flat

end Sample

def MissingOrCircular (elements : List SnapshotElement) (focus : ContextFocus) (frameVersions : FrameVersions) : Prop :=
  (∃ target, focus.elementKey = some target ∧
    (target ∉ elements.map SnapshotElement.key ∨ LacksAncestor elements target)) ∨
  (∃ frameId, focus.frameId = some frameId ∧ (frameVersions.containsKey frameId = false ∨
    (frameMarkers elements frameId = [] ∧ (hasFrameMarker elements = true ∨ frameVersions.entries.length ≠ 1)) ∨
      2 ≤ (frameMarkers elements frameId).length)) ∨
  Circles elements

/-- An element beside the focused frame is refused with everything in place. -/
theorem focus_beside_frame_refused : UniqueKeys SnapshotElement.key besideFrame ∧
    (focusElements besideFrame besideFocus sampleFrames).toBool = false ∧
      ¬ MissingOrCircular besideFrame besideFocus sampleFrames := by
  refine ⟨besideFrame_unique, by decide +kernel, ?_⟩
  have marked : (frameMarkers besideFrame focusFrame).length = 1 := by decide
  have listed : focusChild ∈ besideFrame.map SnapshotElement.key := by decide
  rintro (⟨target, asked, missing | ⟨key, ascends, missing⟩⟩ | ⟨frameId, asked, reason⟩ | ⟨element, _, key, _, circle⟩)
  · obtain rfl : focusChild = target := by simpa [besideFocus] using asked
    exact missing listed
  · obtain rfl : focusChild = target := by simpa [besideFocus] using asked
    rw [besideFrame_alone ascends] at missing
    exact missing listed
  · obtain rfl : focusFrame = frameId := by simpa [besideFocus] using asked
    rcases reason with unknown | ⟨unmarked, _⟩ | several
    · have known : sampleFrames.containsKey focusFrame = true := by decide +kernel
      rw [known] at unknown
      cases unknown
    · rw [unmarked] at marked
      cases marked
    · omega
  · obtain ⟨_, edge, _⟩ := Relation.TransGen.head'_iff.mp circle
    exact besideFrame_flat edge

/-- A focus ends, selects a branch, or meets an obstacle. -/
theorem focus_selects_branch (elements : List SnapshotElement) (focus : ContextFocus) (frameVersions : FrameVersions)
    (unique : UniqueKeys SnapshotElement.key elements) :
    (∀ stop start, ∃ fuel, climb (parentLink (elementsByKey elements)) stop fuel [] start =
      some (climbParents (elementsByKey elements) stop start)) ∧
    (∀ target result, focus.elementKey = some target -> focusElements elements focus frameVersions = .ok result ->
      SelectsBranch elements target result) ∧
    (∀ error, focusElements elements focus frameVersions = .error error -> FocusObstacle elements focus frameVersions) := by
  refine ⟨?_, ?_, ?_⟩
  · intro stop start
    exact ⟨_, Option.eq_some_of_isSome (climbParents_ends _ stop start)⟩
  · intro target result asked found
    exact focusElements_ok unique asked found
  · intro error failed
    exact focusElements_error unique failed

theorem focus_selects_branch_sample : SelectsBranch twoBranches focusChild (twoBranches.take 2) :=
  (focus_selects_branch twoBranches childFocus sampleFrames twoBranches_unique).2.1 focusChild _ rfl childFocus_selects

end AgentycHost
