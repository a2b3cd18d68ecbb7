import AgentycHost.Broker.Actions
import AgentycHost.Broker.Pages
import AgentycHost.Broker.Sessions
import AgentycHost.Local.Server

set_option autoImplicit false

/-!
# The bridge slot

`Bridge` is a trait whose operations mostly have a default body. A structure
with default fields is the same thing: an implementation that does not name an
operation has the default.
-/

namespace AgentycHost

open Shared

structure BridgeStatus where
  profileInstanceId : Option String
  extensionVersion : Option String
  workerInstanceEpoch : Option Nat
  browserSessionEpoch : Option Nat
  deriving DecidableEq

structure ObservationSnapshot where
  pages : List Json := []
  groups : List Json := []
  safety : Option Json := none
  recoveryObserved : Bool := false

structure FenceResult where
  acknowledged : Bool
  deriving DecidableEq

/-- A bridge over a state `S`: its own records, and the browser behind it. -/
structure Bridge (S : Type) where
  capabilities : StateM S (List Capability)
  extensionEpochs : StateM S (Option ExtensionEpochs) := pure none
  bridgeStatus : StateM S (Option BridgeStatus) := do
    let epochs <- extensionEpochs
    pure (epochs.map fun epochs =>
      { profileInstanceId := none
        extensionVersion := none
        workerInstanceEpoch := some epochs.workerInstanceEpoch
        browserSessionEpoch := some epochs.browserSessionEpoch })
  dispatch : ActionRequest -> StateM S (Except CoreError BridgeDispatchResult)
  artifactForAction : ActionId -> StateM S (Except CoreError (Option ArtifactHandle)) := fun _ => pure (.ok none)
  takeArtifact : ArtifactHandle -> StateM S (Except CoreError (Option (List UInt8))) := fun _ =>
    pure (.error (.new .capabilityUnavailable "bridge does not support artifact retrieval"))
  reconcile : ActionReceipt -> StateM S (Except CoreError BridgeReconcileResult)
  observe : StateM S (Except CoreError ObservationSnapshot) := pure (.ok {})
  snapshot : SpaceId -> PageId -> LeaseEpoch -> StateM S (Except CoreError SnapshotEnvelope)
  fence : SpaceId -> Option LeaseEpoch -> LeaseEpoch -> BrokerEpoch -> StateM S (Except CoreError FenceResult)
  fenceWithToken : SpaceId -> Option LeaseEpoch -> LeaseEpoch -> BrokerEpoch -> ReconcileToken ->
      StateM S (Except CoreError FenceResult) := fun spaceId oldEpoch newEpoch brokerEpoch _ =>
    fence spaceId oldEpoch newEpoch brokerEpoch
  closePage : SpaceId -> PageId -> LeaseEpoch -> StateM S (Except CoreError Unit)
  createPage : SpaceId -> PageId -> LeaseEpoch -> Option String -> Option String -> Json ->
      StateM S (Except CoreError Json) := fun _ _ _ _ _ _ =>
    pure (.error (.new .capabilityUnavailable "bridge does not support managed page creation"))
  rebindPage : SpaceId -> PageId -> LeaseEpoch -> Nat -> Nat -> Nat -> Json ->
      StateM S (Except CoreError Json) := fun _ _ _ _ _ _ _ =>
    pure (.error (.new .capabilityUnavailable "bridge does not support managed page rebinding"))
  presentGroup : SpaceId -> PageId -> LeaseEpoch -> Option String ->
      StateM S (Except CoreError Json) := fun _ _ _ _ =>
    pure (.error (.new .capabilityUnavailable "bridge does not support visual group presentation"))

inductive BridgeOperation : Type -> Type where
  | capabilities : BridgeOperation (List Capability)
  | extensionEpochs : BridgeOperation (Option ExtensionEpochs)
  | bridgeStatus : BridgeOperation (Option BridgeStatus)
  | dispatch (request : ActionRequest) : BridgeOperation (Except CoreError BridgeDispatchResult)
  | artifactForAction (actionId : ActionId) : BridgeOperation (Except CoreError (Option ArtifactHandle))
  | takeArtifact (handle : ArtifactHandle) : BridgeOperation (Except CoreError (Option (List UInt8)))
  | reconcile (receipt : ActionReceipt) : BridgeOperation (Except CoreError BridgeReconcileResult)
  | observe : BridgeOperation (Except CoreError ObservationSnapshot)
  | snapshot (spaceId : SpaceId) (pageId : PageId) (leaseEpoch : LeaseEpoch) :
      BridgeOperation (Except CoreError SnapshotEnvelope)
  | fence (spaceId : SpaceId) (oldEpoch : Option LeaseEpoch) (newEpoch : LeaseEpoch) (brokerEpoch : BrokerEpoch) :
      BridgeOperation (Except CoreError FenceResult)
  | fenceWithToken (spaceId : SpaceId) (oldEpoch : Option LeaseEpoch) (newEpoch : LeaseEpoch)
      (brokerEpoch : BrokerEpoch) (requestToken : ReconcileToken) : BridgeOperation (Except CoreError FenceResult)
  | closePage (spaceId : SpaceId) (pageId : PageId) (leaseEpoch : LeaseEpoch) :
      BridgeOperation (Except CoreError Unit)
  | createPage (spaceId : SpaceId) (pageId : PageId) (leaseEpoch : LeaseEpoch) (url title : Option String)
      (ownershipProof : Json) : BridgeOperation (Except CoreError Json)
  | rebindPage (spaceId : SpaceId) (pageId : PageId) (leaseEpoch : LeaseEpoch)
      (targetGeneration navigationGeneration documentGeneration : Nat) (ownershipProof : Json) :
      BridgeOperation (Except CoreError Json)
  | presentGroup (spaceId : SpaceId) (pageId : PageId) (leaseEpoch : LeaseEpoch) (title : Option String) :
      BridgeOperation (Except CoreError Json)

def Bridge.call {S A : Type} (bridge : Bridge S) (operation : BridgeOperation A) : StateM S A :=
  match operation with
  | .capabilities => bridge.capabilities
  | .extensionEpochs => bridge.extensionEpochs
  | .bridgeStatus => bridge.bridgeStatus
  | .dispatch request => bridge.dispatch request
  | .artifactForAction actionId => bridge.artifactForAction actionId
  | .takeArtifact handle => bridge.takeArtifact handle
  | .reconcile receipt => bridge.reconcile receipt
  | .observe => bridge.observe
  | .snapshot spaceId pageId leaseEpoch => bridge.snapshot spaceId pageId leaseEpoch
  | .fence spaceId oldEpoch newEpoch brokerEpoch => bridge.fence spaceId oldEpoch newEpoch brokerEpoch
  | .fenceWithToken spaceId oldEpoch newEpoch brokerEpoch requestToken =>
      bridge.fenceWithToken spaceId oldEpoch newEpoch brokerEpoch requestToken
  | .closePage spaceId pageId leaseEpoch => bridge.closePage spaceId pageId leaseEpoch
  | .createPage spaceId pageId leaseEpoch url title ownershipProof =>
      bridge.createPage spaceId pageId leaseEpoch url title ownershipProof
  | .rebindPage spaceId pageId leaseEpoch targetGeneration navigationGeneration documentGeneration ownershipProof =>
      bridge.rebindPage spaceId pageId leaseEpoch targetGeneration navigationGeneration documentGeneration ownershipProof
  | .presentGroup spaceId pageId leaseEpoch title => bridge.presentGroup spaceId pageId leaseEpoch title

structure BridgeRouter (S : Type) where
  installed : Option (Bridge S)

namespace BridgeRouter

variable {S : Type} (router : BridgeRouter S)

-- `install` and `clear` replace whatever was there
def install (_ : BridgeRouter S) (bridge : Bridge S) : BridgeRouter S := { installed := some bridge }

def clear (_ : BridgeRouter S) : BridgeRouter S := { installed := none }

def current : Except CoreError (Bridge S) :=
  match router.installed with
  | some bridge => .ok bridge
  | none => .error (.new .extensionNotConnected "no browser bridge is connected")

-- `self.current()?.operation(..)`
def forward {A : Type} (operation : Bridge S -> StateM S (Except CoreError A)) : StateM S (Except CoreError A) :=
  match router.current with
  | .ok bridge => operation bridge
  | .error error => pure (.error error)

-- `self.current().ok().and_then(..)` and `unwrap_or_default()`
def readOr {A : Type} (fallback : A) (operation : Bridge S -> StateM S A) : StateM S A :=
  match router.current with
  | .ok bridge => operation bridge
  | .error _ => pure fallback

def bridge : Bridge S where
  capabilities := router.readOr [] fun bridge => bridge.capabilities
  extensionEpochs := router.readOr none fun bridge => bridge.extensionEpochs
  bridgeStatus := router.readOr none fun bridge => bridge.bridgeStatus
  dispatch request := router.forward fun bridge => bridge.dispatch request
  reconcile receipt := router.forward fun bridge => bridge.reconcile receipt
  observe := router.forward fun bridge => bridge.observe
  snapshot spaceId pageId leaseEpoch := router.forward fun bridge => bridge.snapshot spaceId pageId leaseEpoch
  fence spaceId oldEpoch newEpoch brokerEpoch :=
    router.forward fun bridge => bridge.fence spaceId oldEpoch newEpoch brokerEpoch
  fenceWithToken spaceId oldEpoch newEpoch brokerEpoch requestToken :=
    router.forward fun bridge => bridge.fenceWithToken spaceId oldEpoch newEpoch brokerEpoch requestToken
  closePage spaceId pageId leaseEpoch := router.forward fun bridge => bridge.closePage spaceId pageId leaseEpoch
  createPage spaceId pageId leaseEpoch url title ownershipProof :=
    router.forward fun bridge => bridge.createPage spaceId pageId leaseEpoch url title ownershipProof
  rebindPage spaceId pageId leaseEpoch targetGeneration navigationGeneration documentGeneration ownershipProof :=
    router.forward fun bridge => bridge.rebindPage spaceId pageId leaseEpoch targetGeneration navigationGeneration
      documentGeneration ownershipProof
  presentGroup spaceId pageId leaseEpoch title :=
    router.forward fun bridge => bridge.presentGroup spaceId pageId leaseEpoch title

end BridgeRouter

section Flows

inductive BridgeFlow (A : Type) : Type 1 where
  | done (result : A)
  | call {B : Type} (operation : BridgeOperation B) (next : B -> BridgeFlow A)

def BridgeFlow.run {S A : Type} (bridge : Bridge S) : BridgeFlow A -> StateM S A
  | .done result => pure result
  | .call operation next => fun state =>
      (next (bridge.call operation state).1).run bridge (bridge.call operation state).2

end Flows

end AgentycHost
