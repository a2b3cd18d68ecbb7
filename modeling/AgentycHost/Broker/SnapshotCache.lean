import AgentycHost.Context.Builder
import AgentycHost.Shared.SlotMap

set_option autoImplicit false

/-!
# The snapshot cache

A bounded cache whose keys name every dimension of a snapshot request. An entry
is rebuilt under a token that names the rebuild and the revision of its key, so
that a writer who was overtaken is refused.
-/

namespace AgentycHost

open Shared

section Keys

structure SnapshotCacheKey where
  spaceId : SpaceId
  pageId : PageId
  snapshotVersion : SnapshotVersion
  mode : SnapshotMode
  focus : Option ElementKey
  focusFrameId : Option FrameId
  budget : Option TokenBudget
  tokenizer : Option String
  topologyVersion : Nat
  generation : PageGeneration
  frameVersions : FrameVersions
  deriving DecidableEq

def snapshotModeRank : SnapshotMode -> Nat
  | .full => 0
  | .compact => 1
  | .delta => 2
  | .resync => 3

def budgetKey (budget : Option TokenBudget) : Option Nat × Option Nat :=
  (budget.map fun budget => (budget.serializedLimit, budget.modelContextLimit)).getD (none, none)

/-- The derived order of a pair of limits. -/
def budgetOrder : Option TokenBudget -> Option TokenBudget -> Ordering :=
  compareLex (comparedBy (fun budget => (budgetKey budget).1) compare) (comparedBy (fun budget => (budgetKey budget).2) compare)

/-- The derived order of the generations of a page. -/
def generationOrder : PageGeneration -> PageGeneration -> Ordering :=
  compareLex (comparedBy (·.targetGeneration) compare)
    (compareLex (comparedBy (·.navigationGeneration) compare) (comparedBy (·.documentGeneration) compare))

/-- The order of the entries of a `BTreeMap`, which are compared one after the other. -/
def frameOrder : FrameId × FrameVersion -> FrameId × FrameVersion -> Ordering :=
  compareLex (comparedBy (fun entry => bytes entry.1.text) compare) (comparedBy Prod.snd compare)

def SnapshotCacheKey.cmp : SnapshotCacheKey -> SnapshotCacheKey -> Ordering :=
  compareLex (comparedBy (fun key => bytes key.spaceId.text) compare) <|
  compareLex (comparedBy (fun key => bytes key.pageId.text) compare) <|
  compareLex (comparedBy (·.snapshotVersion) compare) <|
  compareLex (comparedBy (fun key => snapshotModeRank key.mode) compare) <|
  compareLex (comparedBy (fun key => key.focus.map fun focus => bytes focus.text) compare) <|
  compareLex (comparedBy (fun key => key.focusFrameId.map fun frame => bytes frame.text) compare) <|
  compareLex (comparedBy (·.budget) budgetOrder) <|
  compareLex (comparedBy (fun key => key.tokenizer.map bytes) compare) <|
  compareLex (comparedBy (·.topologyVersion) compare) <|
  compareLex (comparedBy (·.generation) generationOrder) <|
  comparedBy (fun key => key.frameVersions.entries) (List.compareLex frameOrder)

instance : Std.TransCmp budgetOrder := inferInstanceAs (Std.TransCmp (compareLex _ _))

instance : Std.TransCmp generationOrder := inferInstanceAs (Std.TransCmp (compareLex _ _))

instance : Std.TransCmp frameOrder := inferInstanceAs (Std.TransCmp (compareLex _ _))

instance : Std.TransCmp SnapshotCacheKey.cmp := inferInstanceAs (Std.TransCmp (compareLex _ _))

end Keys

section State

inductive CacheDirtyReason where
  | eventGap
  | navigation
  | documentReplaced
  | frameReplaced
  | geometryChanged
  | scrollChanged
  | rawEvaluation
  | takeover
  | reconnect
  | domMutation
  | action
  | targetReplaced
  | sessionLost
  | expired
  | unknown
  deriving DecidableEq

namespace CacheDirtyReason

def requiresResync : CacheDirtyReason -> Bool
  | eventGap | navigation | documentReplaced | frameReplaced | rawEvaluation | takeover | reconnect | targetReplaced
  | sessionLost | expired => true
  | _ => false

def coreReason : CacheDirtyReason -> DirtyReason
  | navigation | documentReplaced => .navigation
  | frameReplaced => .frameChanged
  | rawEvaluation => .rawEvaluation
  | takeover => .takeover
  | reconnect => .reconnect
  | targetReplaced => .targetReplaced
  | sessionLost => .sessionLost
  | domMutation => .domMutation
  | action => .action
  | eventGap => .eventGap
  | geometryChanged => .geometryChanged
  | scrollChanged => .scrollChanged
  | expired => .expired
  | unknown => .unknown

def state (reason : CacheDirtyReason) : CacheState := if reason.requiresResync then .invalidated else .stale

end CacheDirtyReason

structure StoredEnvelope extends ContextEnvelope where
  budget : Option TokenBudget
  dirtyReasons : List DirtyReason
  deriving DecidableEq

def SnapshotCacheKey.fromEnvelope (envelope : StoredEnvelope) : SnapshotCacheKey where
  spaceId := envelope.spaceId
  pageId := envelope.pageId
  snapshotVersion := envelope.snapshotVersion
  mode := envelope.mode
  focus := none
  focusFrameId := none
  budget := envelope.budget
  tokenizer := envelope.tokenizer
  topologyVersion := envelope.topologyVersion
  generation :=
    { targetGeneration := 0
      navigationGeneration := envelope.navigationGeneration
      documentGeneration := envelope.documentGeneration }
  frameVersions := envelope.frameVersions

structure StoredSnapshot where
  envelope : StoredEnvelope
  generation : PageGeneration
  dirty : Bool
  deriving DecidableEq

structure SnapshotCacheState where
  state : CacheState
  dirtyReasons : List CacheDirtyReason
  expiresAt : Option Timestamp
  lastValidatedGeneration : PageGeneration
  revision : Nat
  deriving DecidableEq

inductive SnapshotCacheError where
  | invalid (reason : String)
  | full
  | tooLarge
  | keyMismatch
  | rebuildInFlight
  | staleWriter
  deriving DecidableEq

structure SnapshotRebuildToken where
  key : SnapshotCacheKey
  id : Nat
  revision : Nat
  deriving DecidableEq

abbrev SlotsOf (V : Type) := SlotMap SnapshotCacheKey V SnapshotCacheKey.cmp

structure SnapshotCache where
  entries : SlotsOf StoredSnapshot
  legacyIndex : Table (SpaceId × PageId) SnapshotCacheKey
  states : SlotsOf SnapshotCacheState
  revisions : SlotsOf Nat
  inFlight : SlotsOf Nat
  nextRebuildId : Nat
  maxEntries : Nat
  maxBytes : Nat

end State

namespace SnapshotCache

section Changes

variable (cache : SnapshotCache) (key : SnapshotCacheKey) (spaceId : SpaceId) (pageId : PageId)

def new (maxEntries maxBytes : Nat) : SnapshotCache where
  entries := .empty
  legacyIndex := ∅
  states := .empty
  revisions := .empty
  inFlight := .empty
  nextRebuildId := 1
  maxEntries := maxEntries
  maxBytes := maxBytes

def saturatingNext (count : Nat) : Nat := min (count + 1) u64Max

def onPage (key : SnapshotCacheKey) : Bool := key.spaceId == spaceId && key.pageId == pageId

def nextRevision : Nat := saturatingNext ((cache.revisions.get? key).getD 0)

def cancelRebuild : SnapshotCache :=
  { cache with inFlight := cache.inFlight.erase key, revisions := cache.revisions.insert key (cache.nextRevision key) }

def markedState (state : SnapshotCacheState) (reason : CacheDirtyReason) : SnapshotCacheState :=
  { state with
    state := if state.state == .invalidated || reason.state == .invalidated then .invalidated else .stale
    dirtyReasons :=
      if state.dirtyReasons.contains reason then state.dirtyReasons
      else (state.dirtyReasons ++ [reason]).insertionSort fun one other => one.ctorIdx ≤ other.ctorIdx
    revision := saturatingNext state.revision }

def markedRecord (record : StoredSnapshot) (state : SnapshotCacheState) (reason : CacheDirtyReason) : StoredSnapshot :=
  { record with
    dirty := true
    envelope := { record.envelope with
      cacheState := state.state
      dirtyReasons :=
        if record.envelope.dirtyReasons.contains reason.coreReason then record.envelope.dirtyReasons
        else record.envelope.dirtyReasons ++ [reason.coreReason] } }

def markKeyDirty (reason : CacheDirtyReason) : SnapshotCache :=
  match cache.entries.get? key with
  | none => cache
  | some record =>
      let fresh : SnapshotCacheState :=
        { state := .fresh, dirtyReasons := [], expiresAt := none, lastValidatedGeneration := record.generation, revision := 0 }
      let state := markedState ((cache.states.get? key).getD fresh) reason
      let marked : SnapshotCache :=
        { cache with
          entries := cache.entries.insert key (markedRecord record state reason)
          states := cache.states.insert key state
          revisions := cache.revisions.insert key state.revision }
      marked.cancelRebuild key

def markDirtyWithReason (reason : CacheDirtyReason) : SnapshotCache × Bool :=
  let keys := cache.entries.keys.filter (onPage spaceId pageId)
  (keys.foldl (fun cache key => cache.markKeyDirty key reason) cache, !keys.isEmpty)

def markDirtyForKey (reason : CacheDirtyReason) : SnapshotCache × Bool :=
  if cache.entries.contains key then (cache.markKeyDirty key reason, true) else (cache, false)

def expireIfNeeded (now : Timestamp) : SnapshotCache :=
  if ((cache.states.get? key).bind (·.expiresAt)).any fun expiry => decide (expiry ≤ now) then cache.markKeyDirty key .expired
  else cache

/-- The index without a key that is removed, with another key of the page in its place. -/
def indexWithout (entries : SlotsOf StoredSnapshot) : Table (SpaceId × PageId) SnapshotCacheKey :=
  let page := (key.spaceId, key.pageId)
  if cache.legacyIndex.get? page == some key then
    match entries.keys.find? (onPage key.spaceId key.pageId) with
    | none => cache.legacyIndex.erase page
    | some replacement => (cache.legacyIndex.erase page).insert page replacement
  else cache.legacyIndex

def removeKey : SnapshotCache × Bool :=
  let entries := cache.entries.erase key
  ({ cache with
      entries := entries
      states := cache.states.erase key
      legacyIndex := cache.indexWithout key entries
      revisions := cache.revisions.insert key (cache.nextRevision key) },
    cache.entries.contains key)

def cancelScopeRebuilds : SnapshotCache :=
  (cache.inFlight.keys.filter (onPage spaceId pageId)).foldl (fun cache key => cache.cancelRebuild key) cache

def invalidate : SnapshotCache × Bool :=
  let keys := cache.entries.keys.filter (onPage spaceId pageId)
  ((keys.foldl (fun cache key => (cache.removeKey key).1) cache).cancelScopeRebuilds spaceId pageId, !keys.isEmpty)

def invalidateKey : SnapshotCache × Bool := ((cache.removeKey key).1.cancelRebuild key, (cache.removeKey key).2)

end Changes

section Writes

variable (jsonSize : StoredEnvelope -> Except String Nat) (cache : SnapshotCache) (key : SnapshotCacheKey)
  (envelope : StoredEnvelope) (token : SnapshotRebuildToken)

def validateKey : Except SnapshotCacheError Unit := do
  let generationMatches := key.generation.navigationGeneration == 0 ||
    key.generation.navigationGeneration == envelope.navigationGeneration
  let documentMatches := key.generation.documentGeneration == 0 ||
    key.generation.documentGeneration == envelope.documentGeneration
  let topologyMatches := key.topologyVersion == 0 || key.topologyVersion == envelope.topologyVersion
  let framesMatch := key.frameVersions.entries.isEmpty || key.frameVersions == envelope.frameVersions
  require (!(key.spaceId != envelope.spaceId || key.pageId != envelope.pageId ||
      (key.snapshotVersion != 0 && key.snapshotVersion != envelope.snapshotVersion) || key.mode != envelope.mode ||
      key.budget != envelope.budget || key.tokenizer != envelope.tokenizer || !generationMatches || !documentMatches ||
      !topologyMatches || !framesMatch))
    .keyMismatch
  envelope.toContextEnvelope.validate.mapError fun error => .invalid error.message

def storeClean (expiresAt : Option Timestamp) : SnapshotCache :=
  let revision := cache.nextRevision key
  { cache with
    entries := cache.entries.insert key { envelope, generation := key.generation, dirty := false }
    states := cache.states.insert key
      { state := .fresh, dirtyReasons := [], expiresAt, lastValidatedGeneration := key.generation, revision }
    revisions := cache.revisions.insert key revision
    legacyIndex := cache.legacyIndex.insert (key.spaceId, key.pageId) key
    inFlight := cache.inFlight.erase key }

def admits : Except SnapshotCacheError Unit := do
  validateKey key envelope
  let bytes <- (jsonSize envelope).mapError .invalid
  require (bytes ≤ cache.maxBytes) .tooLarge
  require (cache.entries.contains key || decide (cache.entries.size < cache.maxEntries)) .full

def insertWithExpiry (expiresAt : Option Timestamp) : SnapshotCache × Except SnapshotCacheError Unit :=
  match cache.admits jsonSize key envelope with
  | .error error => (cache, .error error)
  | .ok () => (cache.storeClean key envelope expiresAt, .ok ())

def beginRebuild : SnapshotCache × Except SnapshotCacheError SnapshotRebuildToken :=
  if cache.inFlight.contains key then (cache, .error .rebuildInFlight)
  else
    ({ cache with
        nextRebuildId := max (saturatingNext cache.nextRebuildId) 1
        inFlight := cache.inFlight.insert key cache.nextRebuildId },
      .ok { key, id := cache.nextRebuildId, revision := (cache.revisions.get? key).getD 0 })

def completeRebuild : SnapshotCache × Except SnapshotCacheError Unit :=
  if cache.inFlight.get? token.key == some token.id && (cache.revisions.get? token.key).getD 0 == token.revision then
    ({ cache with inFlight := cache.inFlight.erase token.key }).insertWithExpiry jsonSize token.key envelope none
  else (cache, .error .staleWriter)

def abortRebuild : SnapshotCache × Bool :=
  if cache.inFlight.get? token.key == some token.id then
    ({ cache with inFlight := cache.inFlight.erase token.key }, true)
  else (cache, false)

end Writes

end SnapshotCache

end AgentycHost
