import AgentycHost.Broker.Scheduler
import AgentycHost.Broker.Snapshots
import AgentycHost.Ledger.Commit

set_option autoImplicit false

/-!
# The running host

The host is a set of calls over one broker. A call holds the broker's lock for
one commit at a time and gives it up around every bridge call, so the calls
interleave at their commits. One command is one such atomic piece of a call;
what the bridge and the file system answer comes with it.
-/

namespace AgentycHost

open Shared

structure HostConfig where
  ledger : LedgerConfig
  refLimits : RefRegistryLimits := {}
  schedulerLimits : SchedulerLimits := {}

/-- The outside of one step. -/
structure Environment where
  io : PersistOutcome
  capabilities : List Capability
  extensionEpochs : Option ExtensionEpochs
  -- the wall clock, which only the host's own invalidations read
  clock : Timestamp := 0

structure DispatchCall where
  actionId : ActionId
  request : ActionRequest
  authority : AuthorityTicket
  leaseEpoch : LeaseEpoch
  now : Timestamp
  deriving DecidableEq

inductive DispatchPhase where
  | marked
  | waiting
  -- the permit is held, or the operation needs none
  | permitted
  -- the second commit passed and `bridge.dispatch` comes next
  | rechecked
  -- `bridge.dispatch` is in progress
  | sent
  | answered (outcome : BridgeDispatchResult)
  deriving DecidableEq

inductive Suspension where
  | pause
  | handoff
  deriving DecidableEq

def Suspension.lifecycle : Suspension -> SpaceLifecycle
  | .pause => .paused
  | .handoff => .handoffRequested

structure FenceCall where
  request : FenceRequest
  authority : AuthorityTicket
  purpose : FencePurpose
  -- a retry of `acknowledge_fence`, which accepts an unacknowledged return
  retried : Bool
  afterwards : Option (Timestamp × Suspension)
  deriving DecidableEq

structure Claim where
  spaceId : SpaceId
  authority : AuthorityTicket
  leaseEpoch : LeaseEpoch
  now : Timestamp
  deriving DecidableEq

inductive FinishPhase where
  -- pages whose closing is proven by their absence, before the claim
  | missing (proofs : List CleanupProof)
  -- pages to close, after the claim
  | draining (proofs : List CleanupProof) (retention : RetentionPolicy)
  -- `bridge.close_page` of the first page is in progress
  | closing (proof : CleanupProof) (rest : List CleanupProof) (retention : RetentionPolicy)
  deriving DecidableEq

inductive Call where
  | dispatch (call : DispatchCall) (phase : DispatchPhase)
  | fence (call : FenceCall)
  | fenced (claim : Claim) (suspension : Suspension)
  | managedPage (claim : Claim) (pageId : PageId)
  | closePage (claim : Claim) (pageId : PageId) (generation : PageGeneration)
  | finish (claim : Claim) (phase : FinishPhase)
  | reconcile (claim : Claim) (actionId : ActionId)
  | capture (claim : Claim) (pageId : PageId) (generation : PageGeneration)
  | captured (claim : Claim) (pageId : PageId) (generation : PageGeneration) (envelope : SnapshotEnvelope)
  deriving DecidableEq

structure System where
  ledger : Ledger
  lifecycle : HostLifecycle
  registry : RefRegistry
  intents : Table ReconcileToken UserIntentTicket
  intentNumber : Nat
  scheduler : Scheduler
  calls : Table Nat Call

structure FenceAnswer where
  acknowledged : Bool
  error : Option String
  deriving DecidableEq

inductive CloseAnswer where
  | closed
  -- an error after which an inventory no longer shows the page
  | gone
  | failed (code : String)
  deriving DecidableEq

inductive Command where
  | hello (request : Hello)
  | disconnect (authority : AuthorityTicket)
  | transitionLifecycle (next : HostLifecycle)
  | markDegraded (reason : HostDegradedReason) (now : Timestamp)
  | markProfileRebindRequired (observed : ProfileBindingId)
  | createSpace (authority : AuthorityTicket) (label : String) (retention : RetentionPolicy)
  | publishEvent (authority : AuthorityTicket) (scope : EventScope) (event : EventKind) (payload : Payload)
  | bridgeEvent (event : BridgeEvent) (authority : AuthorityTicket) (now : Timestamp)
  | observePages (observation : List ObservedPage)
  | acquireLease (spaceId : SpaceId) (authority : AuthorityTicket) (now ttl : Nat)
  | renewLease (claim : Claim) (ttl : Nat)
  | takeover (call : Nat) (spaceId : SpaceId) (authority : AuthorityTicket) (now ttl : Nat)
      (afterwards : Option Suspension)
  | takeoverWithControlTicket (call : Nat) (spaceId : SpaceId) (authority : AuthorityTicket)
      (ticket : ControlTicket) (now ttl : Nat)
  | returnControl (call : Nat) (claim : Claim)
  | acknowledgeReturnControl (call : Nat) (spaceId : SpaceId) (authority : AuthorityTicket) (fenceEpoch : LeaseEpoch)
  | acknowledgeFence (call : Nat) (spaceId : SpaceId) (authority : AuthorityTicket) (leaseEpoch : LeaseEpoch)
      (renewal : Option (Nat × Nat))
  | fenceAnswered (call : Nat) (answer : FenceAnswer)
  | setFencedSpaceLifecycle (call : Nat)
  | createPage (claim : Claim) (label : String)
  | createManagedPage (call : Nat) (claim : Claim) (label : String)
  | bindManagedPage (call : Nat) (target : BoundTarget)
  | bindPage (claim : Claim) (pageId : PageId) (target : BoundTarget)
  | markPageLost (claim : Claim) (pageId : PageId)
  | closePage (call : Nat) (claim : Claim) (pageId : PageId)
  | closeAnswered (call : Nat) (closed : Bool)
  | finishSpace (call : Nat) (claim : Claim) (present : List PageId)
  | finishMissing (call : Nat)
  | claimFinish (call : Nat)
  | authorizeCleanup (call : Nat)
  | cleanupAnswered (call : Nat) (answer : CloseAnswer)
  | completeFinish (call : Nat)
  | releaseSpace (claim : Claim)
  | pruneReleasedSpaces (authority : AuthorityTicket) (maxCount : Nat)
  | confirmUserIntent (request : ActionRequest) (authority : AuthorityTicket) (now ttl : Nat)
  | enqueueAction (request : ActionRequest) (authority : AuthorityTicket) (now : Timestamp)
      (ticket : Option UserIntentTicket)
  | dispatchAction (call : Nat) (actionId : ActionId) (authority : AuthorityTicket) (leaseEpoch : LeaseEpoch)
      (now : Timestamp)
  | acquirePermit (call : Nat)
  | wakeUp (call : Nat)
  | recheckDispatch (call : Nat)
  | sendDispatch (call : Nat)
  | dispatchAnswered (call : Nat) (answer : Except CoreError BridgeDispatchResult)
      (proof : Option (Generation × ContentHash))
  | finishDispatch (call : Nat)
  | reconcileAction (call : Nat) (actionId : ActionId) (authority : AuthorityTicket) (leaseEpoch : LeaseEpoch)
      (now : Timestamp)
  | reconcileAnswered (call : Nat) (answer : Option BridgeReconcileResult)
  | issueRef (claim : Claim) (pageId : PageId) (frameId : FrameId) (elementKey : ElementKey)
  | readSnapshot (call : Nat) (claim : Claim) (pageId : PageId)
  | captureSnapshot (call : Nat) (envelope : SnapshotEnvelope)
  | commitSnapshot (call : Nat)
  | putSnapshot (authority : AuthorityTicket) (envelope : SnapshotEnvelope) (leaseEpoch : LeaseEpoch) (now : Timestamp)
  | markSnapshotDirty (claim : Claim) (pageId : PageId)
  -- the bridge failed under a call that has nothing to record about it
  | abandon (call : Nat)
  | shutdown (now : Timestamp)
  | restart (failures : Nat)

abbrev Reply (A : Type) := System × Except HostError A

namespace System

section Steps

variable (config : HostConfig) (env : Environment) (system : System)

def commit {A : Type} (transition : Transition A) : Reply A :=
  let (ledger, result) := system.ledger.update config.ledger env.io transition
  ({ system with ledger }, result)

def commitRefs {A : Type} (transition : RefTransition A) : Reply A :=
  let (ledger, result) := system.ledger.update config.ledger env.io fun state => (transition system.registry state).2
  let registry := if env.io = .lockLost then system.registry else (transition system.registry system.ledger.state).1
  ({ system with ledger, registry }, result)

def afterCheck {A : Type} (check : Except HostError Unit) (next : Reply A) : Reply A :=
  match check with
  | .error error => (system, .error error)
  | .ok () => next

end Steps

def setCall (system : System) (call : Nat) (next : Call) : System :=
  { system with calls := system.calls.insert call next }

def endCall (system : System) (call : Nat) : System := { system with calls := system.calls.erase call }

def done {A : Type} (reply : Reply A) : Reply Unit := (reply.1, reply.2.map fun _ => ())

/-- A call ends with a failed commit and otherwise goes on, or returns, as `next` says. -/
def goOn {A : Type} (call : Nat) (next : A -> Except HostError (Option Call)) (reply : Reply A) : Reply Unit :=
  match reply.2 >>= next with
  | .error error => (reply.1.endCall call, .error error)
  | .ok (some continuation) => (reply.1.setCall call continuation, .ok ())
  | .ok none => (reply.1.endCall call, .ok ())

end System

def readyToAct (env : Environment) (system : System) : Except HostError Unit := do
  ensureReady system.lifecycle
  requireCapability env.capabilities .action

section Commands

variable (config : HostConfig) (env : Environment)

def connect (request : Hello) (system : System) : Reply Unit :=
  let reply := system.commit config env (hello request env.extensionEpochs)
  match reply.2 with
  | .error error => (reply.1, .error error)
  | .ok _ =>
      if request.isExtension then ({ reply.1 with registry := reply.1.registry.invalidateAll env.clock }, .ok ())
      else (reply.1, .ok ())

def sessionStep (command : Command) (system : System) : Option (Reply Unit) :=
  match command with
  | .hello request => some (connect config env request system)
  | .disconnect authority => some (System.done (system.commit config env (disconnect authority)))
  | .transitionLifecycle next =>
      if validLifecycleTransition system.lifecycle next then some ({ system with lifecycle := next }, .ok ())
      else some (system, .error (.invariant "invalid host lifecycle transition"))
  | .markDegraded reason now =>
      if validLifecycleTransition system.lifecycle (.degraded reason) then
        let degraded := { system with
          lifecycle := .degraded reason, registry := system.registry.invalidateAll now }
        some (System.done (degraded.commit config env markDegraded))
      else some (system, .error (.invariant "invalid host lifecycle transition to degraded"))
  | .markProfileRebindRequired observed =>
      some (System.done (system.commit config env (markProfileRebindRequired observed)))
  | .createSpace authority label retention =>
      some (system.afterCheck (do discard (boundedLabel label); ensureReady system.lifecycle)
        (System.done (system.commit config env (createSpace authority label retention))))
  | .publishEvent authority scope event payload =>
      some (System.done (system.commit config env (publishEvent authority scope event payload)))
  | .bridgeEvent event authority now =>
      some (system.afterCheck (admitBridgeEvent event authority env.extensionEpochs)
        (System.done (system.commitRefs config env (applyBridgeEvent event authority env.extensionEpochs now))))
  | .observePages observation => some (System.done (system.commit config env (reconcileBridgePages observation)))
  | _ => none

def withLeaseTimes (system : System) (now ttl : Nat) (next : Timestamp -> Timestamp -> Reply Unit) : Reply Unit :=
  match leaseTimes now ttl with
  | .error error => (system, .error error)
  | .ok (expiresAt, renewBy) => next expiresAt renewBy

def fenceCall (authority : AuthorityTicket) (purpose : FencePurpose) (retried : Bool)
    (afterwards : Option (Timestamp × Suspension)) (request : FenceRequest) : Except HostError (Option Call) :=
  .ok (some (.fence { request, authority, purpose, retried, afterwards }))

inductive FenceCompletion where
  | takeover
  | userReturn
  | warning (text : String)
  -- nothing to record
  | nothing
  deriving DecidableEq

def FenceCall.completion (fence : FenceCall) (answer : FenceAnswer) : FenceCompletion :=
  match fence.purpose with
  | .takeover => .takeover
  | .returnControl =>
      if answer.acknowledged then .userReturn
      else match answer.error with
        | some text => .warning text
        | none => if fence.retried then .nothing else .warning "user return fence was not acknowledged"

def FenceCall.resume (fence : FenceCall) (lifecycle : SpaceLifecycle) : Except HostError (Option Call) :=
  match fence.afterwards with
  | none => .ok none
  | some (now, suspension) =>
      if lifecycle = .agentOwned then
        .ok (some (.fenced { spaceId := fence.request.spaceId, authority := fence.authority,
                             leaseEpoch := fence.request.fenceEpoch, now } suspension))
      else .error (.new .reconciliationRequired "fence was not acknowledged")

def FenceCall.warned (fence : FenceCall) (answer : FenceAnswer) : Except HostError (Option Call) :=
  match answer.error with
  | some text => if fence.retried then .ok none else .error (.bridge (.new .nativeHostUnavailable text))
  | none => .error (.new .extensionNotConnected "user return requires an acknowledged fence")

def leaseStep (command : Command) (system : System) : Option (Reply Unit) :=
  match command with
  | .acquireLease spaceId authority now ttl =>
      some (withLeaseTimes system now ttl fun expiresAt renewBy =>
        system.afterCheck (readyToAct env system)
          (System.done (system.commit config env (acquireLease spaceId authority now expiresAt renewBy))))
  | .renewLease claim ttl =>
      some (withLeaseTimes system claim.now ttl fun expiresAt renewBy =>
        system.afterCheck (ensureReady system.lifecycle)
          (System.done (system.commit config env
            (renewLease claim.spaceId claim.authority claim.leaseEpoch claim.now expiresAt renewBy))))
  | .takeover call spaceId authority now ttl afterwards =>
      if system.calls.contains call then none
      else some (withLeaseTimes system now ttl fun expiresAt renewBy =>
        system.afterCheck (readyToAct env system)
          (System.goOn call (fenceCall authority .takeover false (afterwards.map fun suspension => (now, suspension)))
            (system.commit config env (takeover spaceId authority now expiresAt renewBy))))
  | .takeoverWithControlTicket call spaceId authority ticket now ttl =>
      if system.calls.contains call then none
      else some (withLeaseTimes system now ttl fun expiresAt renewBy =>
        system.afterCheck (readyToAct env system)
          (System.goOn call (fenceCall authority .takeover false none)
            (system.commit config env (takeoverWithControlTicket spaceId authority ticket expiresAt renewBy))))
  | .returnControl call claim =>
      if system.calls.contains call then none
      else some (system.afterCheck (readyToAct env system)
        (System.goOn call (fenceCall claim.authority .returnControl false none)
          (system.commit config env (returnControl claim.spaceId claim.authority claim.leaseEpoch claim.now))))
  | .acknowledgeReturnControl call spaceId authority fenceEpoch =>
      if system.calls.contains call then none
      else some (system.afterCheck (requireCapability env.capabilities .action)
        (System.goOn call (fun found => fenceCall authority .returnControl false none found.1)
          (system, acknowledgeReturnControl spaceId authority fenceEpoch system.ledger.state)))
  | .acknowledgeFence call spaceId authority leaseEpoch renewal =>
      if system.calls.contains call then none
      else
        let begin := fun renewal : Option (Timestamp × Timestamp) =>
          system.afterCheck (requireCapability env.capabilities .action)
            (System.goOn call (fun found : FenceRequest × Bool =>
                fenceCall authority (if found.2 then .returnControl else .takeover) true none found.1)
              (system.commit config env (acknowledgeFence spaceId authority leaseEpoch renewal)))
        match renewal with
        | none => some (begin none)
        | some (now, ttl) => some (withLeaseTimes system now ttl fun expiresAt renewBy =>
            begin (some (expiresAt, renewBy)))
  | .fenceAnswered call answer =>
      match system.calls.get? call with
      | some (.fence fence) =>
          match fence.completion answer with
          | .takeover =>
              some (System.goOn call fence.resume
                (system.commit config env
                  (finishFence fence.request fence.authority answer.acknowledged answer.error)))
          | .userReturn =>
              some (System.goOn call (fun _ => .ok none)
                (system.commit config env (finishUserReturn fence.request
                  (fence.request.oldEpoch.getD (fence.request.fenceEpoch - 1)) fence.authority)))
          | .warning text =>
              some (System.goOn call (fun _ => fence.warned answer)
                (system.commit config env (recordFenceWarning fence.request.spaceId text)))
          | .nothing => some (system.endCall call, .ok ())
      | _ => none
  | .setFencedSpaceLifecycle call =>
      match system.calls.get? call with
      | some (.fenced claim suspension) =>
          some (System.goOn call (fun _ => .ok none)
            (system.commit config env
              (setFencedSpaceLifecycle claim.spaceId claim.authority claim.leaseEpoch suspension.lifecycle claim.now)))
      | _ => none
  | _ => none

def pageStep (command : Command) (system : System) : Option (Reply Unit) :=
  match command with
  | .createPage claim label =>
      some (system.afterCheck (do discard (boundedLabel label); readyToAct env system)
        (System.done (system.commit config env (createPage claim.spaceId claim.authority claim.leaseEpoch label claim.now))))
  | .createManagedPage call claim label =>
      if system.calls.contains call then none
      else some (system.afterCheck (do discard (boundedLabel label); readyToAct env system)
        (System.goOn call (fun pageId => .ok (some (.managedPage claim pageId)))
          (system.commit config env (createPage claim.spaceId claim.authority claim.leaseEpoch label claim.now))))
  | .bindManagedPage call target =>
      match system.calls.get? call with
      | some (.managedPage claim pageId) =>
          -- the bridge record must show positive generations
          if target.targetGeneration.any (0 < ·) && target.navigationGeneration.any (0 < ·) &&
              target.documentGeneration.any (0 < ·) then
            some (System.goOn call (fun _ => .ok none)
              (system.afterCheck (readyToAct env system)
                (system.commit config env
                  (bindPage claim.spaceId pageId claim.authority claim.leaseEpoch claim.now target))))
          else some (system.endCall call,
            .error (.new .targetReplaced "managed page bridge result is missing a generation"))
      | _ => none
  | .bindPage claim pageId target =>
      some (system.afterCheck (readyToAct env system)
        (System.done (system.commit config env (bindPage claim.spaceId pageId claim.authority claim.leaseEpoch claim.now
          { target with targetGeneration := none, navigationGeneration := none, documentGeneration := none }))))
  | .markPageLost claim pageId =>
      some (System.done (system.commitRefs config env
        (markPageLost claim.spaceId pageId claim.authority claim.leaseEpoch claim.now)))
  | .closePage call claim pageId =>
      if system.calls.contains call then none
      else some (system.afterCheck (readyToAct env system)
        (System.goOn call (fun generation => .ok (some (.closePage claim pageId generation)))
          (system.commit config env (beginClosePage claim.spaceId pageId claim.authority claim.leaseEpoch claim.now))))
  | .closeAnswered call closed =>
      match system.calls.get? call with
      | some (.closePage claim pageId generation) =>
          if closed then
            some (System.goOn call (fun _ => .ok none)
              (system.commit config env
                (completeClosePage claim.spaceId pageId generation claim.authority claim.leaseEpoch claim.now)))
          else
            some (System.goOn call (fun _ => .error (.bridge (.new .nativeHostUnavailable "page close failed")))
              (system.commitRefs config env
                (markPageLost claim.spaceId pageId claim.authority claim.leaseEpoch claim.now)))
      | _ => none
  | _ => none

def finishStep (command : Command) (system : System) : Option (Reply Unit) :=
  match command with
  | .finishSpace call claim present =>
      if system.calls.contains call then none
      else some (system.afterCheck (requireCapability env.capabilities .action)
        (System.goOn call (fun proofs => .ok (some (.finish claim (.missing proofs))))
          (system.commit config env
            (missingCleanupPages claim.spaceId claim.authority claim.leaseEpoch claim.now present))))
  | .finishMissing call =>
      match system.calls.get? call with
      | some (.finish claim (.missing (proof :: rest))) =>
          some (System.goOn call (fun _ => .ok (some (.finish claim (.missing rest))))
            (system.afterCheck (ensureReady system.lifecycle)
              (system.commit config env
                (finishPageCleanup claim.spaceId proof claim.authority claim.leaseEpoch claim.now))))
      | _ => none
  | .claimFinish call =>
      match system.calls.get? call with
      | some (.finish claim (.missing [])) =>
          some (System.goOn call (fun claimed => .ok (some (.finish claim (.draining claimed.1 claimed.2))))
            (system.afterCheck (ensureReady system.lifecycle)
              (system.commit config env (claimFinish claim.spaceId claim.authority claim.leaseEpoch claim.now))))
      | _ => none
  | .authorizeCleanup call =>
      match system.calls.get? call with
      | some (.finish claim (.draining (proof :: rest) retention)) =>
          some (System.goOn call (fun _ => .ok (some (.finish claim (.closing proof rest retention))))
            (system.afterCheck (ensureReady system.lifecycle)
              (system.commit config env
                (authorizeCleanup claim.spaceId proof claim.authority claim.leaseEpoch claim.now))))
      | _ => none
  | .cleanupAnswered call answer =>
      match system.calls.get? call with
      | some (.finish claim (.closing proof rest retention)) =>
          match answer with
          | .closed | .gone =>
              some (System.goOn call (fun _ => .ok (some (.finish claim (.draining rest retention))))
                (system.afterCheck (ensureReady system.lifecycle)
                  (system.commit config env
                    (finishPageCleanup claim.spaceId proof claim.authority claim.leaseEpoch claim.now))))
          | .failed code =>
              some (System.goOn call (fun _ => .error (.bridge (.new .nativeHostUnavailable code)))
                (system.commit config env
                  (recordCleanupFailure claim.spaceId proof claim.authority claim.leaseEpoch claim.now code)))
      | _ => none
  | .completeFinish call =>
      match system.calls.get? call with
      | some (.finish claim (.draining [] retention)) =>
          some (System.goOn call (fun _ => .ok none)
            (system.afterCheck (ensureReady system.lifecycle)
              (system.commit config env
                (completeFinish claim.spaceId claim.authority claim.leaseEpoch claim.now retention))))
      | _ => none
  | .releaseSpace claim =>
      some (system.afterCheck (ensureReady system.lifecycle)
        (System.done (system.commit config env (releaseSpace claim.spaceId claim.authority claim.leaseEpoch claim.now))))
  | .pruneReleasedSpaces authority maxCount =>
      if maxCount = 0 then some (system, .ok ())
      else some (system.afterCheck (ensureReady system.lifecycle)
        (System.done (system.commit config env (pruneReleasedSpaces authority maxCount))))
  | _ => none

def backpressure : BackpressureKind -> HostError
  | .mutationQueueFull =>
      .new .messageTooLarge "scheduler space mutation queue is full; retry after backpressure"
  | .globalMutationQueueFull =>
      .new .messageTooLarge "scheduler global mutation queue is full; retry after backpressure"
  | .readQueueFull => .new .messageTooLarge "scheduler read queue is full; retry after backpressure"

def endDispatch (call : Nat) (dispatch : DispatchCall) (system : System) : System :=
  let ended := system.endCall call
  if isMutating dispatch.request.operation then
    { ended with scheduler := ended.scheduler.release dispatch.request.spaceId }
  else ended

def dispatchCapabilities (actionId : ActionId) (system : System) : Except HostError Unit :=
  match system.ledger.state.actionRequests.get? actionId with
  | none => .ok ()
  | some request => requireOperationCapabilities env.capabilities request.operation

def attemptDispatch (actionId : ActionId) (authority : AuthorityTicket) (leaseEpoch : LeaseEpoch) (now : Timestamp)
    (system : System) : Reply (Option ActionRequest) :=
  system.afterCheck (do ensureReady system.lifecycle; dispatchCapabilities env actionId system)
    (system.commitRefs config env (beginDispatch config.ledger.codec actionId authority leaseEpoch now))

def acquirePermit (call : Nat) (dispatch : DispatchCall) (system : System) : Reply Unit :=
  if isMutating dispatch.request.operation then
    match system.scheduler.acquireMutation dispatch.request.spaceId call with
    | (scheduler, .permit) => ({ system with scheduler }.setCall call (.dispatch dispatch .permitted), .ok ())
    | (scheduler, .waiting) => ({ system with scheduler }.setCall call (.dispatch dispatch .waiting), .ok ())
    | (scheduler, .backpressure kind) => ({ system with scheduler }.endCall call, .error (backpressure kind))
  else (system.setCall call (.dispatch dispatch .permitted), .ok ())

def attemptRecheck (dispatch : DispatchCall) (system : System) : Reply Unit :=
  system.afterCheck (ensureReady system.lifecycle)
    (system.commitRefs config env
      (recheckDispatch config.ledger.codec dispatch.actionId dispatch.request dispatch.authority dispatch.leaseEpoch
        dispatch.now))

def recheck (call : Nat) (dispatch : DispatchCall) (system : System) : Reply Unit :=
  let reply := attemptRecheck config env dispatch system
  match reply.2 with
  | .ok () => (reply.1.setCall call (.dispatch dispatch .rechecked), .ok ())
  | .error error => (endDispatch call dispatch reply.1, .error error)

def recordOutcome (call : Nat) (dispatch : DispatchCall) (outcome : BridgeDispatchResult) (system : System) :
    Reply Unit :=
  let reply := system.commitRefs config env
    (finishDispatch system.lifecycle dispatch.actionId dispatch.request dispatch.authority outcome dispatch.now)
  (endDispatch call dispatch reply.1, reply.2.map fun _ => ())

def dispatchStep (command : Command) (system : System) : Option (Reply Unit) :=
  match command with
  | .dispatchAction call actionId authority leaseEpoch now =>
      if system.calls.contains call then none
      else some (System.goOn call (fun request => .ok (request.map fun request =>
          .dispatch { actionId, request, authority, leaseEpoch, now } .marked))
        (attemptDispatch config env actionId authority leaseEpoch now system))
  | .acquirePermit call =>
      match system.calls.get? call with
      | some (.dispatch dispatch .marked) => some (acquirePermit call dispatch system)
      | _ => none
  | .wakeUp call =>
      match system.calls.get? call with
      | some (.dispatch dispatch .waiting) =>
          (system.scheduler.wake dispatch.request.spaceId call).map fun scheduler =>
            ({ system with scheduler }.setCall call (.dispatch dispatch .permitted), .ok ())
      | _ => none
  | .recheckDispatch call =>
      match system.calls.get? call with
      | some (.dispatch dispatch .permitted) => some (recheck config env call dispatch system)
      | _ => none
  | .sendDispatch call =>
      match system.calls.get? call with
      | some (.dispatch dispatch .rechecked) => some (system.setCall call (.dispatch dispatch .sent), .ok ())
      | _ => none
  | .dispatchAnswered call answer proof =>
      match system.calls.get? call with
      | some (.dispatch dispatch .sent) =>
          let outcome := verifyFinalPostcondition dispatch.request (dispatchOutcome answer) proof
          some (system.setCall call (.dispatch dispatch (.answered outcome)), .ok ())
      | _ => none
  | .finishDispatch call =>
      match system.calls.get? call with
      | some (.dispatch dispatch (.answered outcome)) => some (recordOutcome config env call dispatch outcome system)
      | _ => none
  | _ => none

def confirmIntent (request : ActionRequest) (authority : AuthorityTicket) (now ttl : Nat) (system : System) :
    Reply Unit :=
  match admitIntent config.ledger.codec system.lifecycle system.ledger.state request authority now ttl with
  | .error error => (system, .error error)
  | .ok expiresAt =>
      let kept := { system with intents := system.intents.filter fun _ ticket => decide (now < ticket.expiresAt) }
      match intentTicket config.ledger.codec system.ledger.state request authority now expiresAt
          system.intentNumber with
      | .error error => (kept, .error error)
      | .ok ticket =>
          ({ kept with intents := kept.intents.insert ticket.token ticket, intentNumber := system.intentNumber + 1 },
            .ok ())

def enqueue (request : ActionRequest) (authority : AuthorityTicket) (now : Timestamp)
    (ticket : Option UserIntentTicket) (system : System) : Reply Unit :=
  let reply := system.commitRefs config env (enqueueAction config.ledger request authority now)
  match reply.2, ticket with
  | .ok _, some ticket => ({ reply.1 with intents := reply.1.intents.erase ticket.token }, .ok ())
  | .ok _, none => (reply.1, .ok ())
  | .error error, _ => (reply.1, .error error)

def actionStep (command : Command) (system : System) : Option (Reply Unit) :=
  match command with
  | .confirmUserIntent request authority now ttl => some (confirmIntent config request authority now ttl system)
  | .enqueueAction request authority now ticket =>
      some (system.afterCheck
        (admitRequest config.ledger.codec env.capabilities system.lifecycle system.intents system.ledger.state request
          authority now ticket)
        (enqueue config env request authority now ticket system))
  | .reconcileAction call actionId authority leaseEpoch now =>
      if system.calls.contains call then none
      else some (system.afterCheck (requireCapability env.capabilities .reconcile)
        (System.goOn call (fun receipt =>
            .ok (some (.reconcile { spaceId := receipt.spaceId, authority, leaseEpoch, now } actionId)))
          (system.commit config env (beginReconcile actionId authority leaseEpoch now))))
  | .reconcileAnswered call answer =>
      match system.calls.get? call with
      | some (.reconcile claim actionId) =>
          some (System.goOn call (fun _ => .ok none)
            (system.commit config env
              (finishReconcile system.lifecycle actionId claim.authority claim.leaseEpoch answer claim.now)))
      | _ => none
  | _ => none

def issueFrom (claim : Claim) (frameId : FrameId) (elementKey : ElementKey) (reply : Reply SnapshotEnvelope) :
    Reply Unit :=
  match reply.2 with
  | .error error => (reply.1, .error error)
  | .ok envelope =>
      match reply.1.registry.issue config.ledger.codec envelope frameId elementKey claim.now with
      | (registry, .error error) => ({ reply.1 with registry }, .error (.core error))
      | (registry, .ok _) => ({ reply.1 with registry }, .ok ())

def snapshotStep (command : Command) (system : System) : Option (Reply Unit) :=
  match command with
  | .issueRef claim pageId frameId elementKey =>
      some (issueFrom config claim frameId elementKey
        (system.commit config env
          (issuingEnvelope claim.spaceId pageId claim.authority claim.leaseEpoch claim.now)))
  | .readSnapshot call claim pageId =>
      if system.calls.contains call then none
      else some (system.afterCheck (requireCapability env.capabilities .snapshot)
        (System.goOn call (fun generation => .ok (some (.capture claim pageId generation)))
          (system.commit config env
            (captureGeneration claim.spaceId pageId claim.authority claim.leaseEpoch claim.now))))
  | .captureSnapshot call envelope =>
      match system.calls.get? call with
      | some (.capture claim pageId generation) =>
          match checkCapture config.ledger.codec claim.spaceId pageId envelope with
          | .error error => some (system.endCall call, .error error)
          | .ok () => some (system.setCall call (.captured claim pageId generation envelope), .ok ())
      | _ => none
  | .commitSnapshot call =>
      match system.calls.get? call with
      | some (.captured claim pageId generation envelope) =>
          some (System.goOn call (fun _ => .ok none)
            (system.commit config env
              (commitSnapshot claim.spaceId pageId claim.authority claim.leaseEpoch claim.now generation envelope)))
      | _ => none
  | .putSnapshot authority envelope leaseEpoch now =>
      some (system.afterCheck
        (require (config.ledger.codec.envelopeValid envelope) (.invalidArgument "snapshot envelope is invalid"))
        (System.done (system.commitRefs config env (putSnapshot authority envelope leaseEpoch now))))
  | .markSnapshotDirty claim pageId =>
      some (System.done (system.commitRefs config env
        (markSnapshotDirty claim.authority claim.spaceId pageId claim.leaseEpoch claim.now)))
  | _ => none

def System.opened (state : LedgerState) : System where
  ledger := { state, disk := state }
  lifecycle := .ready
  registry := .new config.refLimits
  intents := ∅
  intentNumber := 1
  scheduler := .new config.schedulerLimits
  calls := ∅

def hostStep (command : Command) (system : System) : Option (Reply Unit) :=
  match command with
  | .abandon call =>
      match system.calls.get? call with
      | some (.managedPage _ _) | some (.capture _ _ _) | some (.finish _ (.closing _ _ _)) =>
          some (system.endCall call, .error (.bridge (.new .nativeHostUnavailable "bridge call failed")))
      | _ => none
  | .shutdown now =>
      if system.lifecycle = .stopped then some (system, .ok ())
      else
        let reply := system.commit config env (shutdown now)
        match reply.2 with
        | .error error => some (reply.1, .error error)
        | .ok () => some ({ reply.1 with lifecycle := .stopped }, .ok ())
  | .restart failures =>
      match reopenLedger config.ledger system.ledger.disk failures with
      | .error _ => none
      | .ok state => some (System.opened config state, .ok ())
  | _ => none

/-- One atomic piece of one call; `none` when no call is there to make it. -/
def step (command : Command) (system : System) : Option (Reply Unit) :=
  match command with
  | .hello _ | .disconnect _ | .transitionLifecycle _ | .markDegraded _ _ | .markProfileRebindRequired _
  | .createSpace _ _ _ | .publishEvent _ _ _ _ | .bridgeEvent _ _ _ | .observePages _ =>
      sessionStep config env command system
  | .acquireLease _ _ _ _ | .renewLease _ _ | .takeover _ _ _ _ _ _ | .takeoverWithControlTicket _ _ _ _ _ _
  | .returnControl _ _ | .acknowledgeReturnControl _ _ _ _ | .acknowledgeFence _ _ _ _ _ | .fenceAnswered _ _
  | .setFencedSpaceLifecycle _ =>
      leaseStep config env command system
  | .createPage _ _ | .createManagedPage _ _ _ | .bindManagedPage _ _ | .bindPage _ _ _ | .markPageLost _ _
  | .closePage _ _ _ | .closeAnswered _ _ =>
      pageStep config env command system
  | .finishSpace _ _ _ | .finishMissing _ | .claimFinish _ | .authorizeCleanup _ | .cleanupAnswered _ _
  | .completeFinish _ | .releaseSpace _ | .pruneReleasedSpaces _ _ =>
      finishStep config env command system
  | .dispatchAction _ _ _ _ _ | .acquirePermit _ | .wakeUp _ | .recheckDispatch _ | .sendDispatch _
  | .dispatchAnswered _ _ _ | .finishDispatch _ =>
      dispatchStep config env command system
  | .confirmUserIntent _ _ _ _ | .enqueueAction _ _ _ _ | .reconcileAction _ _ _ _ _ | .reconcileAnswered _ _ =>
      actionStep config env command system
  | .issueRef _ _ _ _ | .readSnapshot _ _ _ | .captureSnapshot _ _ | .commitSnapshot _ | .putSnapshot _ _ _ _
  | .markSnapshotDirty _ _ =>
      snapshotStep config env command system
  | .abandon _ | .shutdown _ | .restart _ => hostStep config env command system

end Commands

def System.fresh (config : HostConfig) : System := .opened config (.new 1)

structure Initial (config : HostConfig) (system : System) : Prop where
  fresh : system = .fresh config
  valid : validateState config.ledger.codec config.ledger.limits (.new 1) = .ok ()

end AgentycHost
