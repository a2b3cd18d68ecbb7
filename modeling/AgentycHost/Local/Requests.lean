import AgentycHost.System.Runs

set_option autoImplicit false

/-!
# Requests that carry a time

The dispatcher of the local protocol hands the time of a request on to the
broker. A request that names none is served at time zero.
-/

namespace AgentycHost

open Shared

/-- The methods that take `now`, with their other parameters. -/
inductive LocalMethod where
  | leaseAcquire (spaceId : SpaceId) (ttl : Nat)
  | leaseRenew (spaceId : SpaceId) (leaseEpoch : LeaseEpoch) (ttl : Nat)
  | spaceTakeover (spaceId : SpaceId) (ttl : Nat)
  | spaceAcknowledgeFence (spaceId : SpaceId) (leaseEpoch : LeaseEpoch) (ttl : Option Nat)
  -- `space.pause` and `space.handoff`
  | spaceSuspend (suspension : Suspension) (spaceId : SpaceId) (ttl : Nat)
  | spaceReturn (spaceId : SpaceId) (leaseEpoch : LeaseEpoch)
  | spaceTakeoverWithControlTicket (spaceId : SpaceId) (ticket : ControlTicket) (ttl : Nat)
  | spaceFinish (spaceId : SpaceId) (leaseEpoch : LeaseEpoch)
  | spaceRelease (spaceId : SpaceId) (leaseEpoch : LeaseEpoch)
  | pageCreate (spaceId : SpaceId) (leaseEpoch : LeaseEpoch) (label : String)
  | pageCreateManaged (spaceId : SpaceId) (leaseEpoch : LeaseEpoch) (label : String)
  | pageClose (spaceId : SpaceId) (pageId : PageId) (leaseEpoch : LeaseEpoch)
  | actionExecute (request : ActionRequest)
  -- what `action.execute` goes on with when its receipt is queued
  | dispatchQueued (actionId : ActionId) (leaseEpoch : LeaseEpoch)
  | refsIssue (spaceId : SpaceId) (pageId : PageId) (frameId : FrameId) (elementKey : ElementKey)
      (leaseEpoch : LeaseEpoch)
  | snapshotRead (spaceId : SpaceId) (pageId : PageId) (leaseEpoch : LeaseEpoch)
  | actionReconcile (actionId : ActionId) (leaseEpoch : LeaseEpoch)

structure LocalRequest where
  method : LocalMethod
  now : Option Timestamp

structure Serving where
  environment : Environment
  authority : AuthorityTicket
  call : Nat
  present : List PageId

def LocalRequest.time (request : LocalRequest) (clock : Timestamp) : Timestamp :=
  match request.method with
  | .spaceAcknowledgeFence _ _ _ => request.now.getD clock
  | _ => request.now.getD 0

def LocalRequest.command (request : LocalRequest) (serving : Serving) : Command :=
  let authority := serving.authority
  let now := request.time serving.environment.clock
  match request.method with
  | .leaseAcquire spaceId ttl => .acquireLease spaceId authority now ttl
  | .leaseRenew spaceId leaseEpoch ttl => .renewLease { spaceId, authority, leaseEpoch, now } ttl
  | .spaceTakeover spaceId ttl => .takeover serving.call spaceId authority now ttl none
  | .spaceAcknowledgeFence spaceId leaseEpoch ttl =>
      .acknowledgeFence serving.call spaceId authority leaseEpoch (some (now, ttl.getD 60000))
  | .spaceSuspend suspension spaceId ttl => .takeover serving.call spaceId authority now ttl (some suspension)
  | .spaceReturn spaceId leaseEpoch => .returnControl serving.call { spaceId, authority, leaseEpoch, now }
  | .spaceTakeoverWithControlTicket spaceId ticket ttl =>
      .takeoverWithControlTicket serving.call spaceId authority ticket now ttl
  | .spaceFinish spaceId leaseEpoch =>
      .finishSpace serving.call { spaceId, authority, leaseEpoch, now } serving.present
  | .spaceRelease spaceId leaseEpoch => .releaseSpace { spaceId, authority, leaseEpoch, now }
  | .pageCreate spaceId leaseEpoch label => .createPage { spaceId, authority, leaseEpoch, now } label
  | .pageCreateManaged spaceId leaseEpoch label =>
      .createManagedPage serving.call { spaceId, authority, leaseEpoch, now } label
  | .pageClose spaceId pageId leaseEpoch => .closePage serving.call { spaceId, authority, leaseEpoch, now } pageId
  | .actionExecute action => .enqueueAction action authority now none
  | .dispatchQueued actionId leaseEpoch => .dispatchAction serving.call actionId authority leaseEpoch now
  | .refsIssue spaceId pageId frameId elementKey leaseEpoch =>
      .issueRef { spaceId, authority, leaseEpoch, now } pageId frameId elementKey
  | .snapshotRead spaceId pageId leaseEpoch =>
      .readSnapshot serving.call { spaceId, authority, leaseEpoch, now } pageId
  | .actionReconcile actionId leaseEpoch => .reconcileAction serving.call actionId authority leaseEpoch now

inductive LocalLabel where
  | request (request : LocalRequest) (serving : Serving)
  | host (label : Label)

def LocalLabel.label : LocalLabel -> Label
  | .request asked serving => (serving.environment, asked.command serving)
  | .host label => label

abbrev LocalRun (config : HostConfig) : System -> List (Moment System LocalLabel) -> System -> Prop :=
  Run fun label before after => next config label.label before = some after

end AgentycHost
