import AgentycHost.Broker.Leases
import Mathlib.Data.List.Sort

set_option autoImplicit false

/-!
# Pages, cleanup and pruning
-/

namespace AgentycHost

open Shared

namespace LedgerState

def changePage (state : LedgerState) (spaceId : SpaceId) (pageId : PageId)
    (change : PageDescriptor -> PageDescriptor) : LedgerState :=
  state.changeSpace spaceId fun space => space.changePage pageId change

def setPage (state : LedgerState) (spaceId : SpaceId) (page : PageDescriptor) : LedgerState :=
  state.changePage spaceId page.pageId fun _ => page

def dropSnapshot (state : LedgerState) (spaceId : SpaceId) (pageId : PageId) : LedgerState :=
  { state with snapshots := state.snapshots.modify spaceId fun pages => pages.erase pageId }

def dropSnapshots (state : LedgerState) (spaceId : SpaceId) : LedgerState :=
  { state with snapshots := state.snapshots.erase spaceId }

end LedgerState

def pageChanged (state : LedgerState) (spaceId : SpaceId) (pageId : PageId) (payload : Payload)
    (resyncRequired : Bool) : Except HostError LedgerState :=
  appendEvent state (.page spaceId pageId) .pageChanged payload none resyncRequired

def plannedPage (spaceId : SpaceId) (pageId : PageId) (label : String) : PageDescriptor where
  pageId := pageId
  spaceId := spaceId
  label := label
  lifecycle := .planned
  ownership := .agent
  binding := .unbound
  url := none
  title := none
  targetGeneration := 0
  navigationGeneration := 0
  documentGeneration := 0
  frameCount := 0
  retained := true

def createPage (spaceId : SpaceId) (authority : AuthorityTicket) (leaseEpoch : LeaseEpoch) (label : String)
    (now : Timestamp) : Transition PageId := fun state => do
  authorizeSpace state spaceId authority leaseEpoch now true
  let number <- orElse (checkedNext state.nextPageNumber) (.invalidArgument "page identity counter overflow")
  let pageId : PageId := ⟨number⟩
  let space <- findSpace state spaceId
  require (space.page pageId).isNone (.invalidArgument "logical page already exists")
  let next := { state.changeSpace spaceId fun space =>
      { space with pages := space.pages ++ [plannedPage spaceId pageId label] } with
    nextPageNumber := number }
  let next <- pageChanged next spaceId pageId [("lifecycle", "planned")] false
  pure (pageId, next)

/-- What a bridge reports about a page it bound; `bind_page` leaves the generations out. -/
structure BoundTarget where
  url : Option String
  title : Option String
  frameCount : Nat
  targetGeneration : Option Nat
  navigationGeneration : Option Nat
  documentGeneration : Option Nat
  deriving DecidableEq

def permitsBinding : PageLifecycle -> Bool
  | .planned | .targetLost | .rebinding | .adoptable => true
  | _ => false

def boundGeneration (current : Generation) (observed : Option Nat) (name : String) : Except HostError Generation :=
  match observed with
  | some value => do
      require (value ≠ 0) (.invalidArgument (name ++ " generation must be positive"))
      pure value
  | none => orElse (checkedNext current) (.invalidArgument (name ++ " generation overflow"))

def boundedOptional (value : Option String) : Except HostError (Option String) := do
  require (value.all (boundedText · 4096))
    (.invalidArgument "metadata value is too large or contains control data")
  pure value

def bindPage (spaceId : SpaceId) (pageId : PageId) (authority : AuthorityTicket) (leaseEpoch : LeaseEpoch)
    (now : Timestamp) (target : BoundTarget) : Transition PageDescriptor := fun state => do
  authorizeSpace state spaceId authority leaseEpoch now true
  let page <- findPage state spaceId pageId
  require (permitsBinding page.lifecycle) (.new .targetReplaced "page lifecycle does not permit binding")
  let targetGeneration <- boundGeneration page.targetGeneration target.targetGeneration "target"
  let navigationGeneration <- boundGeneration page.navigationGeneration target.navigationGeneration "navigation"
  let documentGeneration <- boundGeneration page.documentGeneration target.documentGeneration "document"
  let url <- boundedOptional target.url
  let title <- boundedOptional target.title
  let page := { page with
    lifecycle := .managed, ownership := .agent, binding := .bound,
    targetGeneration, navigationGeneration, documentGeneration, url, title, frameCount := target.frameCount }
  let next := (state.setPage spaceId page).dropSnapshot spaceId pageId
  let next <- pageChanged next spaceId pageId [("lifecycle", "managed"), ("binding", "bound")] false
  pure (page, next)

def lostPage (spaceId : SpaceId) (pageId : PageId) (authority : AuthorityTicket) (leaseEpoch : LeaseEpoch)
    (now : Timestamp) (state : LedgerState) : Except HostError PageDescriptor := do
  authorizeSpace state spaceId authority leaseEpoch now false
  let page <- findPage state spaceId pageId
  let page <- bumpPageGenerations page
  pure { page with lifecycle := .targetLost, binding := .lost }

def storeLostPage (spaceId : SpaceId) (page : PageDescriptor) : Transition Unit := fun state => do
  let next := (state.setPage spaceId page).dropSnapshots spaceId
  let next <- pageChanged next spaceId page.pageId [("lifecycle", "target_lost")] true
  pure ((), next)

def beginClosePage (spaceId : SpaceId) (pageId : PageId) (authority : AuthorityTicket) (leaseEpoch : LeaseEpoch)
    (now : Timestamp) : Transition PageGeneration := fun state => do
  let generation <- authorizePage state spaceId pageId authority leaseEpoch now true
  let next := state.changePage spaceId pageId fun page => { page with lifecycle := .closing }
  let next <- pageChanged next spaceId pageId [("lifecycle", "closing")] false
  pure (generation, next)

def closedPage (page : PageDescriptor) : PageDescriptor :=
  { page with lifecycle := .closed, ownership := .broker, binding := .closed }

/-- The last commit of `close_page`, after the bridge closed the target. -/
def completeClosePage (spaceId : SpaceId) (pageId : PageId) (generation : PageGeneration)
    (authority : AuthorityTicket) (leaseEpoch : LeaseEpoch) (now : Timestamp) : Transition Unit := fun state => do
  authorizeSpace state spaceId authority leaseEpoch now true
  let page <- findPage state spaceId pageId
  require (page.lifecycle == .closing && generation.matchesPage page)
    (.new .targetReplaced "page changed while close was in flight")
  let page <- bumpPageGenerations page
  let next := (state.setPage spaceId (closedPage page)).dropSnapshot spaceId pageId
  let next <- pageChanged next spaceId pageId [("lifecycle", "closed")] false
  pure ((), next)

def cleanupProof (page : PageDescriptor) : CleanupProof := { pageId := page.pageId, generation := .fromPage page }

def missingCleanupPages (spaceId : SpaceId) (authority : AuthorityTicket) (leaseEpoch : LeaseEpoch)
    (now : Timestamp) (present : List PageId) : Transition (List CleanupProof) := fun state => do
  authorizeFinishClaim state spaceId authority leaseEpoch now true
  let space <- findSpace state spaceId
  pure ((space.pages.filter fun page => page.lifecycle == .closing && !present.contains page.pageId).map cleanupProof,
    state)

def inCleanup (allowDraining : Bool) (page : PageDescriptor) : Bool :=
  page.admitsAgentMutations || (allowDraining && page.lifecycle == .closing)

def drainingSpace (allowDraining : Bool) (space : SpaceDescriptor) : SpaceDescriptor :=
  { space with
    lifecycle := .draining
    pages := space.pages.map fun page => if inCleanup allowDraining page then { page with lifecycle := .closing } else page }

/-- The claim of `finish_space`: no unresolved action, every managed page starts closing. -/
def claimFinish (spaceId : SpaceId) (authority : AuthorityTicket) (leaseEpoch : LeaseEpoch) (now : Timestamp) :
    Transition (List CleanupProof × RetentionPolicy) := fun state => do
  let allowDraining := (state.spaces.get? spaceId).any fun space => space.lifecycle == .draining
  authorizeFinishClaim state spaceId authority leaseEpoch now allowDraining
  require (!spaceHasUnresolvedActions state spaceId)
    (.new .reconciliationRequired "space has unresolved actions; reconcile them before finishing")
  let space <- findSpace state spaceId
  let cleanup := (space.pages.filter (inCleanup allowDraining)).map cleanupProof
  let next := (state.changeSpace spaceId (drainingSpace allowDraining)).dropSnapshots spaceId
  let next <- cleanup.foldlM (fun next proof =>
    pageChanged next spaceId proof.pageId [("lifecycle", "closing")] false) next
  let next <- spaceChanged next spaceId "draining" false
  pure ((cleanup, space.retention), next)

def authorizeCleanup (spaceId : SpaceId) (proof : CleanupProof) (authority : AuthorityTicket)
    (leaseEpoch : LeaseEpoch) (now : Timestamp) : Transition Unit := fun state => do
  authorizeCleanupPage state spaceId proof authority leaseEpoch now
  pure ((), state)

def finishPageCleanup (spaceId : SpaceId) (proof : CleanupProof) (authority : AuthorityTicket)
    (leaseEpoch : LeaseEpoch) (now : Timestamp) : Transition Unit := fun state => do
  authorizeCleanupPage state spaceId proof authority leaseEpoch now
  let page <- findPage state spaceId proof.pageId
  let page <- bumpPageGenerations page
  let next := (state.setPage spaceId (closedPage page)).dropSnapshot spaceId proof.pageId
  let next <- pageChanged next spaceId proof.pageId [("lifecycle", "closed")] false
  pure ((), next)

def recordCleanupFailure (spaceId : SpaceId) (proof : CleanupProof) (authority : AuthorityTicket)
    (leaseEpoch : LeaseEpoch) (now : Timestamp) (code : String) : Transition Unit := fun state => do
  authorizeCleanupPage state spaceId proof authority leaseEpoch now
  let page <- findPage state spaceId proof.pageId
  let page <- bumpPageGenerations page
  let page := { page with lifecycle := .targetLost, binding := .lost, ownership := .agent }
  let next := (state.setPage spaceId page).dropSnapshot spaceId proof.pageId
  let next := next.changeSpace spaceId (·.warn ("page cleanup outcome unknown: " ++ code))
  let next <- pageChanged next spaceId proof.pageId [("lifecycle", "target_lost")] true
  let next <- spaceChanged next spaceId "draining" true
  pure ((), next)

def unfinishedPages (space : SpaceDescriptor) : Bool :=
  space.pages.any fun page => page.lifecycle == .closing || page.admitsAgentMutations

def finishedSpace (lifecycle : SpaceLifecycle) (space : SpaceDescriptor) : SpaceDescriptor :=
  { space with lease := space.lease.map fun lease => { lease with state := .released }, lifecycle := lifecycle }

def completeFinish (spaceId : SpaceId) (authority : AuthorityTicket) (leaseEpoch : LeaseEpoch) (now : Timestamp)
    (retention : RetentionPolicy) : Transition SpaceLifecycle := fun state => do
  authorizeFinishClaim state spaceId authority leaseEpoch now true
  let lifecycle := if retention = .releaseOnFinish then .released else .finished
  let space <- findSpace state spaceId
  require (!unfinishedPages space) (.new .permissionDenied "space has unresolved page cleanup")
  let next := { (state.changeSpace spaceId (finishedSpace lifecycle)).dropSnapshots spaceId with
    takeoverProofs := state.takeoverProofs.erase spaceId }
  let next <- leaseChanged next spaceId leaseEpoch "released" false
  let next <- spaceChanged next spaceId (spaceLifecycleName lifecycle) false
  pure (lifecycle, next)

def retentionExpired (retention : RetentionPolicy) (now : Timestamp) : Bool :=
  match retention with
  | .until limit => decide (limit ≤ now)
  | _ => true

def releaseSpace (spaceId : SpaceId) (authority : AuthorityTicket) (leaseEpoch : LeaseEpoch) (now : Timestamp) :
    Transition Unit := fun state => do
  authorizeReleaseClaim state spaceId authority leaseEpoch
  let space <- findSpace state spaceId
  if space.lifecycle = .released then pure ((), state)
  else do
    require (retentionExpired space.retention now) (.new .permissionDenied "retention period has not expired")
    require (!unfinishedPages space)
      (.new .permissionDenied "space has unresolved page cleanup; finish it first")
    let next := { (state.changeSpace spaceId fun space => { space with lifecycle := .released }).dropSnapshots spaceId with
      takeoverProofs := state.takeoverProofs.erase spaceId }
    let next <- spaceChanged next spaceId "released" false
    pure ((), next)

def isPrunable (state : LedgerState) (principalId : PrincipalId) (spaceId : SpaceId) (space : SpaceDescriptor) : Bool :=
  space.owner == principalId && space.lifecycle == .released &&
    (space.pages.all fun page => page.lifecycle == .closed && page.ownership == .broker && page.binding == .closed) &&
    !spaceHasUnresolvedActions state spaceId

def SpaceId.textLe (left right : SpaceId) : Bool := decide (bytes left.text ≤ bytes right.text)

def pruneCandidates (state : LedgerState) (principalId : PrincipalId) (maxCount : Nat) : List SpaceId :=
  ((state.spaces.filter (isPrunable state principalId)).keys.insertionSort fun left right =>
    left.textLe right = true).take maxCount

/-- Every record of a space but its generation, which goes after the event. -/
def withoutSpace (state : LedgerState) (spaceId : SpaceId) : LedgerState :=
  let doomed := state.actions.filter fun _ receipt => receipt.spaceId == spaceId
  { state with
    actions := state.actions.filter fun actionId _ => !doomed.contains actionId
    actionRequests := state.actionRequests.filter fun actionId _ => !doomed.contains actionId
    idempotency := state.idempotency.filter fun key _ => !doomed.any fun _ receipt => receipt.idempotencyKey == key
    actionQueues := state.actionQueues.erase spaceId
    spaces := state.spaces.erase spaceId
    profileBindings := state.profileBindings.erase spaceId
    snapshots := state.snapshots.erase spaceId
    takeoverProofs := state.takeoverProofs.erase spaceId
    events := state.events.filter fun event => !(event.scope.spaceId == some spaceId) }

def pruneSpace (state : LedgerState) (spaceId : SpaceId) : Except HostError LedgerState := do
  let next <- appendEvent (withoutSpace state spaceId) .global .spaceChanged
    [("space_id", spaceId.text), ("lifecycle", "pruned")] none false
  pure { next with spaceGenerations := next.spaceGenerations.erase spaceId }

def pruneReleasedSpaces (authority : AuthorityTicket) (maxCount : Nat) : Transition (List SpaceId) := fun state => do
  authorizeTicket state authority
  let candidates := pruneCandidates state authority.principalId (min maxCount 64)
  let next <- candidates.foldlM pruneSpace state
  pure (candidates, next)

structure ObservedPage where
  spaceId : SpaceId
  pageId : PageId
  targetGeneration : Nat
  navigationGeneration : Nat
  documentGeneration : Nat
  url : Option String
  title : Option String
  deriving DecidableEq

def adoptsObservation (page : PageDescriptor) (record : ObservedPage) : Bool :=
  page.ownership == .agent && page.binding == .bound && page.lifecycle == .managed &&
    decide (0 < record.targetGeneration ∧ 0 < record.navigationGeneration ∧ 0 < record.documentGeneration) &&
    decide (page.targetGeneration ≤ record.targetGeneration ∧
      page.navigationGeneration ≤ record.navigationGeneration ∧
      page.documentGeneration ≤ record.documentGeneration) &&
    decide (page.targetGeneration < record.targetGeneration ∨
      page.navigationGeneration < record.navigationGeneration ∨
      page.documentGeneration < record.documentGeneration)

def observedText (current observed : Option String) : Except HostError (Option String) :=
  match observed with
  | some text => boundedOptional (some text)
  | none => pure current

def adoptObservation (state : LedgerState) (record : ObservedPage) : Except HostError (LedgerState × Bool) :=
  match (state.page record.spaceId record.pageId).filter fun page => adoptsObservation page record with
  | none => pure (state, false)
  | some page => do
      let url <- observedText page.url record.url
      let title <- observedText page.title record.title
      let page := { page with
        targetGeneration := record.targetGeneration, navigationGeneration := record.navigationGeneration,
        documentGeneration := record.documentGeneration, url, title }
      let pages := ((state.snapshots.get? record.spaceId).getD ∅).erase record.pageId
      pure ({ state.setPage record.spaceId page with
        snapshots := state.snapshots.insert record.spaceId pages }, true)

def adoptObservations (state : LedgerState) :
    List ObservedPage -> Except HostError (LedgerState × List ObservedPage)
  | [] => pure (state, [])
  | record :: rest => do
      let (next, changed) <- adoptObservation state record
      let (last, others) <- adoptObservations next rest
      pure (last, if changed then record :: others else others)

def reconcileBridgePages (observation : List ObservedPage) : Transition Unit := fun state => do
  let (next, changed) <- adoptObservations state observation
  let next <- changed.foldlM (fun next record =>
    pageChanged next record.spaceId record.pageId [("source", "bridge_observation")] false) next
  pure ((), next)

end AgentycHost
