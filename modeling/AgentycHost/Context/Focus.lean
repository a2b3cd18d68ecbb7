import AgentycHost.Context.Diffs
import AgentycHost.Shared.Chains

set_option autoImplicit false

/-!
# The focus of a context

A focus names a frame or an element. The parents that the page reports may be
missing or go round in a circle, so each loop along them keeps what it has seen.
-/

namespace AgentycHost

open Shared

structure ContextFocus where
  frameId : Option FrameId := none
  elementKey : Option ElementKey := none
  deriving DecidableEq

def ContextFocus.isEmpty (focus : ContextFocus) : Bool := focus.frameId.isNone && focus.elementKey.isNone

section Parents

variable (map : Table ElementKey SnapshotElement)

def parentLink (key : ElementKey) : Option (Option ElementKey) := (map.get? key).map (·.parent)

theorem climbParents_ends (stop : ElementKey -> Bool) (start : Option ElementKey) :
    (climb (parentLink map) stop (map.size + 1) [] start).isSome = true := by
  rw [Option.isSome_iff_exists]
  have known : ∀ key, parentLink map key ≠ none -> key ∈ map.keys := by
    intro key there
    rw [Table.mem_keys, Table.contains, Option.isSome_iff_ne_none]
    simpa [parentLink] using there
  refine climb_ends known List.nodup_nil (List.nil_subset _) ?_ start
  simp [Table.size, Table.keys]

/-- The loop along the parents. It never sees a key twice, so it is done after as many keys as there are. -/
def climbParents (stop : ElementKey -> Bool) (start : Option ElementKey) : ClimbEnd ElementKey :=
  (climb (parentLink map) stop (map.size + 1) [] start).get (climbParents_ends map stop start)

theorem climbParents_means (stop : ElementKey -> Bool) (start : Option ElementKey) :
    (climbParents map stop start).Means (parentLink map) stop start :=
  climb_means (Option.eq_some_of_isSome (climbParents_ends map stop start))

def ancestorKeys (target : ElementKey) : Except CoreError (List ElementKey) :=
  match climbParents map (fun _ => false) (some target) with
  | .top keys => .ok keys
  | .circular => .error (.staleRef "focused snapshot contains a cyclic ancestor chain")
  | .dangling => .error (.staleRef "focused snapshot contains a missing ancestor")
  -- nothing stops this loop
  | .found => .ok []

def isDescendantOf (elementKey target : ElementKey) : Except CoreError Bool :=
  if elementKey = target then .ok true
  else match map.get? elementKey with
    | none => .ok false
    | some element =>
        match climbParents map (fun key => key == target) element.parent with
        | .found => .ok true
        | .circular => .error (.staleRef "focused snapshot contains a cyclic parent chain")
        | .top _ | .dangling => .ok false

def descendantKeys (target : ElementKey) : List SnapshotElement -> Except CoreError (List ElementKey)
  | [] => .ok []
  | element :: rest => do
      let inside <- isDescendantOf map element.key target
      let others <- descendantKeys target rest
      pure (if inside then element.key :: others else others)

def subtreeKeys (elements : List SnapshotElement) (target : ElementKey) : Except CoreError (List ElementKey) := do
  let keys <- ancestorKeys map target
  let below <- descendantKeys map target elements
  pure (keys ++ below)

end Parents

section Focus

variable (elements : List SnapshotElement)

def frameAttributes : List String := ["frame_id", "logical_frame_id"]

def hasFrameMarker : Bool :=
  elements.any fun element => element.kind == .frame && frameAttributes.any fun name => element.attributes.containsKey name

def frameMarkers (frameId : FrameId) : List SnapshotElement :=
  elements.filter fun element =>
    element.kind == .frame && frameAttributes.any fun name => element.attributes.get? name == some frameId.text

def frameScopeKeys (map : Table ElementKey SnapshotElement) (frameId : FrameId) (frameCount : Nat) :
    Except CoreError (List ElementKey) := do
  require (frameCount != 0) (.staleRef "focused logical frame is absent from the snapshot provenance")
  match frameMarkers elements frameId with
  | [marker] => subtreeKeys map elements marker.key
  | [] => do
      require (!hasFrameMarker elements) (.staleRef "focused logical frame has no current snapshot mapping")
      require (frameCount == 1) (.staleRef "focused logical frame cannot be mapped to snapshot elements")
      forEach (fun element => do
        let _ <- ancestorKeys map element.key
        pure ()) elements
      pure (elements.map (·.key))
  | _ => .error (.staleRef "focused logical frame mapping is ambiguous")

def frameScope (frameVersions : FrameVersions) : Option FrameId -> Except CoreError (Option (List ElementKey))
  | none => .ok none
  | some frameId => do
      require (frameVersions.containsKey frameId)
        (.staleRef ("focused logical frame " ++ frameId.text ++ " is not present in the current snapshot"))
      let keys <- frameScopeKeys elements (elementsByKey elements) frameId frameVersions.entries.length
      pure (some keys)

def focusKeys (scope : Option (List ElementKey)) : Option ElementKey -> Except CoreError (List ElementKey)
  | none => orElse scope (.invalidArgument "focused context requires a frame_id or element_key target")
  | some elementKey => do
      require ((elementsByKey elements).contains elementKey)
        (.staleRef ("focused element " ++ elementKey.text ++ " is not present in the current snapshot"))
      require (scope.all fun keys => keys.contains elementKey)
        (.staleRef "focused element is not in the requested logical frame")
      subtreeKeys (elementsByKey elements) elements elementKey

def focusElements (focus : ContextFocus) (frameVersions : FrameVersions) : Except CoreError (List SnapshotElement) := do
  require (!focus.isEmpty) (.invalidArgument "focused context requires a logical target")
  let scope <- frameScope elements frameVersions focus.frameId
  let keys <- focusKeys elements scope focus.elementKey
  pure (elements.filter fun element => keys.contains element.key)

end Focus

end AgentycHost
