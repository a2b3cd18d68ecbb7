import AgentycHost.Core.Contracts

set_option autoImplicit false

/-!
# Leases, pages, spaces and proofs
-/

namespace AgentycHost

inductive RetentionPolicy where
  | retain
  | releaseOnFinish
  | until (at_ : Timestamp)
  deriving DecidableEq

structure Lease where
  principalId : PrincipalId
  leaseEpoch : LeaseEpoch
  expiresAt : Timestamp
  renewBy : Timestamp
  state : LeaseState
  deriving DecidableEq

def Lease.active (principalId : PrincipalId) (leaseEpoch : LeaseEpoch) (expiresAt renewBy : Timestamp) :
    Lease :=
  { principalId, leaseEpoch, expiresAt, renewBy, state := .active }

def Lease.isExpiredAt (lease : Lease) (now : Timestamp) : Bool :=
  decide (lease.expiresAt ≤ now) ||
    lease.state == .expired || lease.state == .fenced || lease.state == .released

def Lease.acceptsEpoch (lease : Lease) (presented : LeaseEpoch) : Bool :=
  lease.state == .active && lease.leaseEpoch == presented

def Lease.acceptsEpochAt (lease : Lease) (presented : LeaseEpoch) (now : Timestamp) : Bool :=
  lease.acceptsEpoch presented && !lease.isExpiredAt now

structure PageDescriptor where
  pageId : PageId
  spaceId : SpaceId
  label : String
  lifecycle : PageLifecycle
  ownership : PageOwnership
  binding : PageBindingState
  url : Option String
  title : Option String
  targetGeneration : Generation
  navigationGeneration : Generation
  documentGeneration : Generation
  frameCount : Nat
  retained : Bool
  deriving DecidableEq

def PageDescriptor.admitsAgentMutations (page : PageDescriptor) : Bool :=
  page.lifecycle == .managed && page.ownership == .agent && page.binding == .bound

structure SpaceDescriptor where
  spaceId : SpaceId
  label : String
  lifecycle : SpaceLifecycle
  owner : PrincipalId
  lease : Option Lease
  profileBinding : ProfileBindingState
  pages : List PageDescriptor
  visualGroupHint : Option String
  capabilities : List Capability
  warnings : List String
  retention : RetentionPolicy
  deriving DecidableEq

namespace SpaceDescriptor

def page (space : SpaceDescriptor) (pageId : PageId) : Option PageDescriptor :=
  space.pages.find? fun page => page.pageId == pageId

/-- Write access to the first page of that identity, as `page_mut` grants it. -/
def changePage (space : SpaceDescriptor) (pageId : PageId) (change : PageDescriptor -> PageDescriptor) :
    SpaceDescriptor :=
  { space with pages := replaceFirst space.pages }
where
  replaceFirst : List PageDescriptor -> List PageDescriptor
    | [] => []
    | page :: rest => if page.pageId == pageId then change page :: rest else page :: replaceFirst rest

def validateMutationAdmission (space : SpaceDescriptor) (principalId : PrincipalId)
    (leaseEpoch : LeaseEpoch) (now : Timestamp) : Except CoreError Unit :=
  if !space.lifecycle.admitsMutations then
    .error (.new .userControlRequired "space lifecycle does not admit ordinary mutations")
  else if space.owner ≠ principalId then
    .error (.new .spaceForbidden "principal does not own the space")
  else match space.lease with
    | none => .error (.new .leaseExpired "space has no active lease")
    | some lease =>
        if lease.principalId ≠ principalId then
          .error (.new .spaceForbidden "lease principal does not own the space")
        else if lease.leaseEpoch ≠ leaseEpoch then
          .error (.staleLease lease.leaseEpoch leaseEpoch)
        else if lease.isExpiredAt now then
          .error (.new .leaseExpired "lease has expired or is no longer active")
        else .ok ()

end SpaceDescriptor

end AgentycHost
