import AgentycHost.Bridge.Router

set_option autoImplicit false

/-! # What a router changes -/

namespace AgentycHost

open Shared

variable {S A : Type}

/-- The bridge answers an artifact call as a bridge without artifacts does. -/
def Bridge.KeepsDefault (bridge : Bridge S) (operation : BridgeOperation A) (state : S) : Prop :=
  match operation with
  | .artifactForAction actionId => bridge.artifactForAction actionId state = (.ok none, state)
  | .takeArtifact handle => bridge.takeArtifact handle state =
      (.error (.new .capabilityUnavailable "bridge does not support artifact retrieval"), state)
  | _ => True

/-- Every call that a flow makes on its run is answered so. -/
def BridgeFlow.KeepsDefault (bridge : Bridge S) : BridgeFlow A -> S -> Prop
  | .done _, _ => True
  | .call operation next, state => bridge.KeepsDefault operation state ∧
      (next (bridge.call operation state).1).KeepsDefault bridge (bridge.call operation state).2

section Calls

variable (router : BridgeRouter S) (bridge : Bridge S)

theorem routed_call (operation : BridgeOperation A) (state : S) :
    (router.install bridge).bridge.call operation state = bridge.call operation state <->
      bridge.KeepsDefault operation state := by
  cases operation
  case artifactForAction actionId =>
    constructor
    · intro same
      exact same.symm
    · intro kept
      exact kept.symm
  case takeArtifact handle =>
    constructor
    · intro same
      exact same.symm
    · intro kept
      exact kept.symm
  -- the router forwards every other operation
  all_goals exact ⟨fun _ => trivial, fun _ => rfl⟩

theorem routed_flow (flow : BridgeFlow A) (state : S) (kept : flow.KeepsDefault bridge state) :
    flow.run (router.install bridge).bridge state = flow.run bridge state := by
  induction flow generalizing state with
  | done result => rfl
  | call operation next ih =>
    obtain ⟨first, rest⟩ := kept
    have same := (routed_call router bridge operation state).mpr first
    rw [BridgeFlow.run, BridgeFlow.run]
    dsimp only
    rw [same]
    exact ih _ _ rest

end Calls

theorem router_is_transparent (router : BridgeRouter S) (bridge : Bridge S) :
    (∀ {B : Type} (operation : BridgeOperation B) (state : S),
      (router.install bridge).bridge.call operation state = bridge.call operation state <->
        bridge.KeepsDefault operation state) ∧
    ∀ (flow : BridgeFlow A) (state : S), flow.KeepsDefault bridge state ->
      flow.run (router.install bridge).bridge state = flow.run bridge state :=
  ⟨fun operation state => routed_call router bridge operation state, routed_flow router bridge⟩

section Sample

theorem kept_artifact : validateIdentifier "artifact_" "kept" = true := by decide

theorem kept_request : validateIdentifier "req_" "kept" = true := by decide

theorem kept_action : validateIdentifier "action_" "kept" = true := by decide +kernel

def keptHandle : ArtifactHandle where
  artifactId := ⟨"kept", kept_artifact⟩
  requestId := ⟨"kept", kept_request⟩
  actionId := ⟨"kept", kept_action⟩
  spaceId := ⟨1⟩
  pageId := some ⟨1⟩
  artifactKind := .image
  totalBytes := 1
  chunkCount := 1
  digest := .fromBytes [7]
  redacted := true

def keepingBridge : Bridge (Option (List UInt8)) where
  capabilities := pure [.artifact]
  dispatch _ := pure (.ok .succeeded)
  artifactForAction _ := fun kept => (.ok (kept.map fun _ => keptHandle), kept)
  takeArtifact _ := fun kept => (.ok kept, none)
  reconcile _ := pure (.ok .stillUnknown)
  snapshot _ _ _ := pure (.error (.new .capabilityUnavailable "no snapshots"))
  fence _ _ _ _ := pure (.ok { acknowledged := true })
  closePage _ _ _ := pure (.ok ())

theorem router_is_transparent_sample :
    (BridgeFlow.call .capabilities .done).run ((BridgeRouter.mk none).install keepingBridge).bridge none =
      (BridgeFlow.call .capabilities .done).run keepingBridge none :=
  (router_is_transparent (.mk none) keepingBridge).2 _ none ⟨trivial, trivial⟩

theorem routed_artifact_lost :
    ((BridgeRouter.mk none).install keepingBridge).bridge.call (.takeArtifact keptHandle) (some [7]) ≠
      keepingBridge.call (.takeArtifact keptHandle) (some [7]) := by
  intro same
  have kept := (routed_call (.mk none) keepingBridge (.takeArtifact keptHandle) (some [7])).mp same
  have answers : (.ok (some [7]) : Except CoreError (Option (List UInt8))) = .error _ := congrArg Prod.fst kept
  cases answers

end Sample

end AgentycHost
