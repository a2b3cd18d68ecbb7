import AgentycHost.Broker.SnapshotCache
import AgentycHost.Effects.Canonical
import AgentycHost.Safety.Contexts
import AgentycHost.Shared.Runs

set_option autoImplicit false

/-! # The order of the cache keys -/

namespace AgentycHost

open Shared

section Identities

theorem SpaceId.text_inj {one other : SpaceId} (same : one.text = other.text) : one = other := by
  have number : one.number = other.number := decimal_inj ((String.append_right_inj _).mp same)
  cases one
  exact congrArg SpaceId.mk number

theorem PageId.text_inj {one other : PageId} (same : one.text = other.text) : one = other := by
  have number : one.number = other.number := decimal_inj ((String.append_right_inj _).mp same)
  cases one
  exact congrArg PageId.mk number

theorem identifier_bytes_inj {tag : String} {one other : Identifier tag} (same : bytes one.text = bytes other.text) :
    one = other := Identifier.text_inj (bytes_inj same)

end Identities

section Components

instance : Std.LawfulEqCmp generationOrder where
  compare_self := Std.ReflCmp.compare_self
  eq_of_compare := by
    intro one other same
    simp only [generationOrder, compareLex_eq_eq, comparedBy_eq] at same
    obtain ⟨target, navigation, document⟩ := same
    cases one
    cases other
    cases target
    cases navigation
    cases document
    rfl

instance : Std.LawfulEqCmp frameOrder where
  compare_self := Std.ReflCmp.compare_self
  eq_of_compare := by
    intro one other same
    simp only [frameOrder, compareLex_eq_eq, comparedBy_eq] at same
    exact Prod.ext (identifier_bytes_inj same.1) same.2

theorem snapshotModeRank_inj {one other : SnapshotMode} (same : snapshotModeRank one = snapshotModeRank other) : one = other := by
  cases one <;> cases other <;> first | rfl | cases same

theorem budgetKey_eq {one other : Option TokenBudget} : budgetKey one = budgetKey other <->
    one = other ∨ (one = none ∧ other = some ⟨none, none⟩) ∨ (one = some ⟨none, none⟩ ∧ other = none) := by
  cases one with
  | none =>
    cases other with
    | none => simp
    | some other =>
      obtain ⟨serialized, model⟩ := other
      simp [budgetKey, Prod.ext_iff, eq_comm]
  | some one =>
    obtain ⟨serialized, model⟩ := one
    cases other with
    | none => simp [budgetKey, Prod.ext_iff]
    | some other =>
      obtain ⟨serialized', model'⟩ := other
      simp [budgetKey, Prod.ext_iff]

variable {one other : SnapshotCacheKey}

theorem SnapshotCacheKey.cmp_eq : one.cmp other = .eq <->
    { one with budget := none } = { other with budget := none } ∧ budgetKey one.budget = budgetKey other.budget := by
  have budgets : comparedBy SnapshotCacheKey.budget budgetOrder one other = .eq <->
      budgetKey one.budget = budgetKey other.budget := by
    rw [comparedBy, budgetOrder, compareLex_eq_eq, comparedBy_eq, comparedBy_eq, Prod.ext_iff]
  simp only [cmp, compareLex_eq_eq, comparedBy_eq, budgets]
  constructor
  · rintro ⟨space, page, version, mode, focus, frame, budget, tokenizer, topology, generation, frames⟩
    refine ⟨?_, budget⟩
    have space := SpaceId.text_inj (bytes_inj space)
    have page := PageId.text_inj (bytes_inj page)
    have mode := snapshotModeRank_inj mode
    have focus := Option.map_injective (fun _ _ => identifier_bytes_inj) focus
    have frame := Option.map_injective (fun _ _ => identifier_bytes_inj) frame
    have tokenizer := Option.map_injective (fun _ _ => bytes_inj) tokenizer
    obtain ⟨_, _, _, _, _, _, _, _, _, _, ⟨_, _⟩⟩ := one
    obtain ⟨_, _, _, _, _, _, _, _, _, _, ⟨_, _⟩⟩ := other
    cases space
    cases page
    cases version
    cases mode
    cases focus
    cases frame
    cases tokenizer
    cases topology
    cases generation
    cases frames
    rfl
  · rintro ⟨same, budget⟩
    simp only [SnapshotCacheKey.mk.injEq, true_and] at same
    obtain ⟨space, page, version, mode, focus, frame, tokenizer, topology, generation, frames⟩ := same
    rw [space, page, version, mode, focus, frame, tokenizer, topology, generation, frames]
    simp [budget]

end Components

/-- The order of the keys is total, and it tells two keys apart but for a budget without limits. -/
theorem cache_key_order_iff (one other third : SnapshotCacheKey) :
    one.cmp other = (other.cmp one).swap ∧
      ((one.cmp other).isLE = true -> (other.cmp third).isLE = true -> (one.cmp third).isLE = true) ∧
      ((one.cmp other = .eq <-> one = other) <->
        ({ one with budget := none } = { other with budget := none } ->
          ¬ (one.budget = none ∧ other.budget = some ⟨none, none⟩) ∧
          ¬ (one.budget = some ⟨none, none⟩ ∧ other.budget = none))) := by
  refine ⟨Std.OrientedCmp.eq_swap, Std.TransCmp.isLE_trans, ?_⟩
  rw [SnapshotCacheKey.cmp_eq, budgetKey_eq]
  constructor
  · intro told rest
    constructor
    · rintro ⟨none, unlimited⟩
      have same := told.mp ⟨rest, .inr (.inl ⟨none, unlimited⟩)⟩
      rw [same, unlimited] at none
      cases none
    · rintro ⟨unlimited, none⟩
      have same := told.mp ⟨rest, .inr (.inr ⟨unlimited, none⟩)⟩
      rw [same, none] at unlimited
      cases unlimited
  · intro apart
    constructor
    · rintro ⟨rest, budget | collapsed | collapsed⟩
      · have whole (key : SnapshotCacheKey) : { { key with budget := none } with budget := key.budget } = key := rfl
        rw [← whole one, ← whole other, rest, budget]
      · exact absurd collapsed (apart rest).1
      · exact absurd collapsed (apart rest).2
    · rintro rfl
      exact ⟨rfl, .inl rfl⟩

def plainKey : SnapshotCacheKey where
  spaceId := ⟨1⟩
  pageId := ⟨1⟩
  snapshotVersion := 1
  mode := .full
  focus := none
  focusFrameId := none
  budget := none
  tokenizer := none
  topologyVersion := 1
  generation := { targetGeneration := 0, navigationGeneration := 1, documentGeneration := 1 }
  frameVersions := .empty

theorem unlimited_budget_shares_slot : ∃ one other : SnapshotCacheKey, one ≠ other ∧ one.cmp other = .eq := by
  refine ⟨plainKey, { plainKey with budget := some ⟨none, none⟩ }, by decide, ?_⟩
  exact SnapshotCacheKey.cmp_eq.mpr ⟨rfl, rfl⟩

end AgentycHost

/-! # Overtaken rebuilds of the snapshot cache -/

namespace AgentycHost

open Shared

inductive CacheOperation where
  | insert (key : SnapshotCacheKey) (envelope : StoredEnvelope) (expiresAt : Option Timestamp)
  | lookupAt (key : SnapshotCacheKey) (now : Timestamp)
  | markDirty (spaceId : SpaceId) (pageId : PageId) (reason : CacheDirtyReason)
  | markDirtyForKey (key : SnapshotCacheKey) (reason : CacheDirtyReason)
  | invalidate (spaceId : SpaceId) (pageId : PageId)
  | invalidateKey (key : SnapshotCacheKey)
  | beginRebuild (key : SnapshotCacheKey)
  | completeRebuild (token : SnapshotRebuildToken) (envelope : StoredEnvelope)
  | abortRebuild (token : SnapshotRebuildToken)

def CacheOperation.marks : CacheOperation -> Bool
  | .markDirty .. | .markDirtyForKey .. => true
  | _ => false

variable (jsonSize : StoredEnvelope -> Except String Nat)

namespace SnapshotCache

/-- The cache after an operation; its answer is left out. -/
def perform (cache : SnapshotCache) : CacheOperation -> SnapshotCache
  | .insert key envelope expiresAt => (cache.insertWithExpiry jsonSize key envelope expiresAt).1
  | .lookupAt key now => cache.expireIfNeeded key now
  | .markDirty spaceId pageId reason => (cache.markDirtyWithReason spaceId pageId reason).1
  | .markDirtyForKey key reason => (cache.markDirtyForKey key reason).1
  | .invalidate spaceId pageId => (cache.invalidate spaceId pageId).1
  | .invalidateKey key => (cache.invalidateKey key).1
  | .beginRebuild key => (cache.beginRebuild key).1
  | .completeRebuild token envelope => (cache.completeRebuild jsonSize envelope token).1
  | .abortRebuild token => (cache.abortRebuild token).1

/-- The page of the key is marked dirty or invalidated, or the key is stored or removed. -/
def overtakes (cache : SnapshotCache) (key : SnapshotCacheKey) : CacheOperation -> Bool
  | .insert other envelope expiresAt =>
      key.cmp other == .eq && (cache.insertWithExpiry jsonSize other envelope expiresAt).2.toBool
  | .markDirty spaceId pageId _ | .invalidate spaceId pageId => onPage spaceId pageId key
  | .markDirtyForKey other _ | .invalidateKey other => key.cmp other == .eq
  | .completeRebuild token envelope =>
      key.cmp token.key == .eq && (cache.completeRebuild jsonSize envelope token).2.toBool
  | _ => false

end SnapshotCache

/-- A run of the cache from its start. -/
abbrev CacheRun (maxEntries maxBytes : Nat) :=
  Run (fun operation (before after : SnapshotCache) => after = before.perform jsonSize operation) (.new maxEntries maxBytes)

section Flights

variable {cache before middle after : SnapshotCache} {key other : SnapshotCacheKey} {pageId : PageId}
  {spaceId : SpaceId} {envelope : StoredEnvelope}

structure Calms (before after : SnapshotCache) : Prop where
  ids : after.nextRebuildId = before.nextRebuildId
  flights : ∀ key, after.inFlight.get? key = before.inFlight.get? key ∨ after.inFlight.get? key = none

theorem Calms.refl (cache : SnapshotCache) : Calms cache cache := ⟨rfl, fun _ => .inl rfl⟩

theorem Calms.trans (first : Calms before middle) (second : Calms middle after) : Calms before after := by
  refine ⟨second.ids.trans first.ids, fun key => ?_⟩
  rcases second.flights key with same | gone
  · rw [same]
    exact first.flights key
  · exact .inr gone

theorem Calms.stays (calms : Calms before after) (gone : before.inFlight.get? key = none) : after.inFlight.get? key = none :=
  (calms.flights key).elim (fun same => same.trans gone) id

theorem Calms.foldl {A : Type} {step : SnapshotCache -> A -> SnapshotCache} (each : ∀ cache item, Calms cache (step cache item))
    (items : List A) (cache : SnapshotCache) : Calms cache (items.foldl step cache) := by
  induction items generalizing cache with
  | nil => exact .refl cache
  | cons item rest ih => exact (each cache item).trans (ih (step cache item))

theorem erased_calms (flights : after.inFlight = before.inFlight.erase other) (ids : after.nextRebuildId = before.nextRebuildId) :
    Calms before after := by
  refine ⟨ids, fun key => ?_⟩
  rw [flights, SlotMap.get?_erase]
  by_cases same : key.cmp other = .eq <;> simp [same]

theorem kept_calms (flights : after.inFlight = before.inFlight) (ids : after.nextRebuildId = before.nextRebuildId) :
    Calms before after := by
  refine ⟨ids, fun key => ?_⟩
  rw [flights]
  exact .inl rfl

theorem cancelRebuild_calms (cache : SnapshotCache) (key : SnapshotCacheKey) : Calms cache (cache.cancelRebuild key) :=
  erased_calms rfl rfl

theorem cancelRebuild_gone (same : key.cmp other = .eq) : (cache.cancelRebuild other).inFlight.get? key = none := by
  show (cache.inFlight.erase other).get? key = none
  rw [SlotMap.get?_erase, if_pos same]

theorem markKeyDirty_calms (cache : SnapshotCache) (key : SnapshotCacheKey) (reason : CacheDirtyReason) :
    Calms cache (cache.markKeyDirty key reason) := by
  unfold SnapshotCache.markKeyDirty
  split
  next => exact .refl cache
  next => exact erased_calms rfl rfl

theorem markKeyDirty_gone (same : key.cmp other = .eq) (found : cache.entries.contains other = true)
    (reason : CacheDirtyReason) : (cache.markKeyDirty other reason).inFlight.get? key = none := by
  unfold SnapshotCache.markKeyDirty
  split
  next missing =>
    rw [SlotMap.contains, missing] at found
    cases found
  next => exact cancelRebuild_gone same

theorem markKeyDirty_entries (found : cache.entries.contains key = true) (reason : CacheDirtyReason) :
    (cache.markKeyDirty other reason).entries.contains key = true := by
  unfold SnapshotCache.markKeyDirty
  split
  next => exact found
  next =>
    show (cache.entries.insert other _).contains key = true
    rw [SlotMap.contains_insert, found, Bool.or_true]

theorem removeKey_calms (cache : SnapshotCache) (key : SnapshotCacheKey) : Calms cache (cache.removeKey key).1 :=
  kept_calms rfl rfl

theorem cancelScopeRebuilds_calms (cache : SnapshotCache) (spaceId : SpaceId) (pageId : PageId) :
    Calms cache (cache.cancelScopeRebuilds spaceId pageId) :=
  Calms.foldl cancelRebuild_calms _ cache

theorem contains_congr {V : Type} {map : SlotsOf V} (same : key.cmp other = .eq) : map.contains key = map.contains other := by
  rw [SlotMap.contains, SlotMap.contains, SlotMap.get?_congr same]

theorem onPage_congr (same : key.cmp other = .eq) :
    SnapshotCache.onPage spaceId pageId key = SnapshotCache.onPage spaceId pageId other := by
  obtain ⟨space, page, _⟩ := SnapshotCacheKey.mk.inj (SnapshotCacheKey.cmp_eq.mp same).1
  rw [SnapshotCache.onPage, SnapshotCache.onPage, space, page]

theorem foldl_gone {step : SnapshotCache -> SnapshotCacheKey -> SnapshotCache} (holds : SnapshotCache -> Prop)
    (calms : ∀ cache key, Calms cache (step cache key)) (keeps : ∀ cache key, holds cache -> holds (step cache key))
    (hits : ∀ cache other, holds cache -> key.cmp other = .eq -> (step cache other).inFlight.get? key = none)
    {keys : List SnapshotCacheKey} (inside : other ∈ keys) (same : key.cmp other = .eq) (cache : SnapshotCache)
    (start : holds cache) : (keys.foldl step cache).inFlight.get? key = none := by
  induction keys generalizing cache with
  | nil => cases inside
  | cons first rest ih =>
    rw [List.foldl_cons]
    rcases List.mem_cons.mp inside with rfl | inside
    · exact (Calms.foldl calms rest _).stays (hits cache other start same)
    · exact ih inside (step cache first) (keeps cache first start)

theorem markDirtyWithReason_gone (reason : CacheDirtyReason) (page : SnapshotCache.onPage spaceId pageId key = true)
    (found : cache.entries.contains key = true) :
    (cache.markDirtyWithReason spaceId pageId reason).1.inFlight.get? key = none := by
  obtain ⟨stored, inside, same⟩ := cache.entries.exists_key key found
  have listed : stored ∈ cache.entries.keys.filter (SnapshotCache.onPage spaceId pageId) := by
    rw [List.mem_filter, ← onPage_congr same]
    exact ⟨inside, page⟩
  refine foldl_gone (fun cache => cache.entries.contains key = true) (fun cache key => markKeyDirty_calms cache key reason)
    (fun _ _ found => markKeyDirty_entries found reason) ?_ listed same cache found
  intro cache other found same
  exact markKeyDirty_gone same (contains_congr same ▸ found) reason

theorem cancelScopeRebuilds_gone (page : SnapshotCache.onPage spaceId pageId key = true) :
    (cache.cancelScopeRebuilds spaceId pageId).inFlight.get? key = none := by
  by_cases flying : cache.inFlight.contains key = true
  next =>
    obtain ⟨stored, inside, same⟩ := cache.inFlight.exists_key key flying
    have listed : stored ∈ cache.inFlight.keys.filter (SnapshotCache.onPage spaceId pageId) := by
      rw [List.mem_filter, ← onPage_congr same]
      exact ⟨inside, page⟩
    exact foldl_gone (fun _ => True) cancelRebuild_calms (fun _ _ _ => trivial)
      (fun _ _ _ same => cancelRebuild_gone same) listed same cache trivial
  next =>
    apply (cancelScopeRebuilds_calms cache spaceId pageId).stays
    simpa [SlotMap.contains] using flying

theorem insertWithExpiry_gone {expiresAt : Option Timestamp} (same : key.cmp other = .eq)
    (stored : (cache.insertWithExpiry jsonSize other envelope expiresAt).2.toBool = true) :
    (cache.insertWithExpiry jsonSize other envelope expiresAt).1.inFlight.get? key = none := by
  unfold SnapshotCache.insertWithExpiry at stored ⊢
  split at stored
  next => cases stored
  next accepted =>
    show (cache.inFlight.erase other).get? key = none
    rw [SlotMap.get?_erase, if_pos same]

theorem insertWithExpiry_calms (cache : SnapshotCache) (key : SnapshotCacheKey) (envelope : StoredEnvelope)
    (expiresAt : Option Timestamp) : Calms cache (cache.insertWithExpiry jsonSize key envelope expiresAt).1 := by
  unfold SnapshotCache.insertWithExpiry
  split
  next => exact .refl cache
  next => exact erased_calms rfl rfl

theorem completeRebuild_calms (cache : SnapshotCache) (envelope : StoredEnvelope) (token : SnapshotRebuildToken) :
    Calms cache (cache.completeRebuild jsonSize envelope token).1 := by
  unfold SnapshotCache.completeRebuild
  split
  next =>
    have erased : Calms cache { cache with inFlight := cache.inFlight.erase token.key } := erased_calms rfl rfl
    exact erased.trans (insertWithExpiry_calms jsonSize _ _ _ _)
  next => exact .refl cache

theorem expireIfNeeded_calms (cache : SnapshotCache) (key : SnapshotCacheKey) (now : Timestamp) :
    Calms cache (cache.expireIfNeeded key now) := by
  unfold SnapshotCache.expireIfNeeded
  split
  next => exact markKeyDirty_calms cache key _
  next => exact .refl cache

theorem markDirtyForKey_calms (cache : SnapshotCache) (key : SnapshotCacheKey) (reason : CacheDirtyReason) :
    Calms cache (cache.markDirtyForKey key reason).1 := by
  unfold SnapshotCache.markDirtyForKey
  split
  next => exact markKeyDirty_calms cache key reason
  next => exact .refl cache

theorem abortRebuild_calms (cache : SnapshotCache) (token : SnapshotRebuildToken) :
    Calms cache (cache.abortRebuild token).1 := by
  unfold SnapshotCache.abortRebuild
  split
  next => exact erased_calms rfl rfl
  next => exact .refl cache

structure Flies (before after : SnapshotCache) : Prop where
  ids : before.nextRebuildId ≤ after.nextRebuildId
  bounded : after.nextRebuildId ≤ u64Max
  flights : ∀ key, after.inFlight.get? key = before.inFlight.get? key ∨ after.inFlight.get? key = none ∨
    after.inFlight.get? key = some before.nextRebuildId

theorem Calms.flies (calms : Calms before after) (bounded : before.nextRebuildId ≤ u64Max) : Flies before after where
  ids := calms.ids.ge
  bounded := calms.ids ▸ bounded
  flights := by
    intro key
    rcases calms.flights key with same | gone
    · exact .inl same
    · exact .inr (.inl gone)

theorem beginRebuild_flies (bounded : cache.nextRebuildId ≤ u64Max) : Flies cache (cache.beginRebuild key).1 := by
  unfold SnapshotCache.beginRebuild
  split
  next => exact (Calms.refl cache).flies bounded
  next =>
    have room : 1 ≤ u64Max := by decide
    constructor
    · simp only [SnapshotCache.saturatingNext]
      omega
    · simp only [SnapshotCache.saturatingNext]
      omega
    · intro other
      simp only [SlotMap.get?_insert]
      by_cases same : other.cmp key = .eq <;> simp [same]

theorem perform_flies (bounded : cache.nextRebuildId ≤ u64Max) (operation : CacheOperation) :
    Flies cache (cache.perform jsonSize operation) := by
  cases operation with
  | insert key envelope expiresAt => exact (insertWithExpiry_calms jsonSize cache key envelope expiresAt).flies bounded
  | lookupAt key now => exact (expireIfNeeded_calms cache key now).flies bounded
  | markDirty spaceId pageId reason =>
    exact (Calms.foldl (fun cache key => markKeyDirty_calms cache key reason) _ cache).flies bounded
  | markDirtyForKey key reason => exact (markDirtyForKey_calms cache key reason).flies bounded
  | invalidate spaceId pageId =>
    exact ((Calms.foldl removeKey_calms _ cache).trans (cancelScopeRebuilds_calms _ spaceId pageId)).flies bounded
  | invalidateKey key => exact ((removeKey_calms cache key).trans (cancelRebuild_calms _ key)).flies bounded
  | beginRebuild key => exact beginRebuild_flies bounded
  | completeRebuild token envelope => exact (completeRebuild_calms jsonSize cache envelope token).flies bounded
  | abortRebuild token => exact (abortRebuild_calms cache token).flies bounded

theorem markDirtyForKey_gone (same : key.cmp other = .eq) (found : cache.entries.contains key = true)
    (reason : CacheDirtyReason) : (cache.markDirtyForKey other reason).1.inFlight.get? key = none := by
  have there : cache.entries.contains other = true := contains_congr same ▸ found
  rw [SnapshotCache.markDirtyForKey, if_pos there]
  exact markKeyDirty_gone same there reason

theorem completeRebuild_gone {token : SnapshotRebuildToken} (same : key.cmp token.key = .eq)
    (stored : (cache.completeRebuild jsonSize envelope token).2.toBool = true) :
    (cache.completeRebuild jsonSize envelope token).1.inFlight.get? key = none := by
  unfold SnapshotCache.completeRebuild at stored ⊢
  split at stored
  next accepted =>
    rw [if_pos accepted]
    exact insertWithExpiry_gone jsonSize same stored
  next => cases stored

theorem overtaken_gone {operation : CacheOperation} (overtakes : cache.overtakes jsonSize key operation = true)
    (found : operation.marks = true -> cache.entries.contains key = true) :
    (cache.perform jsonSize operation).inFlight.get? key = none := by
  cases operation with
  | insert other envelope expiresAt =>
    obtain ⟨same, stored⟩ := Bool.and_eq_true_iff.mp overtakes
    exact insertWithExpiry_gone jsonSize (eq_of_beq same) stored
  | markDirty spaceId pageId reason => exact markDirtyWithReason_gone reason overtakes (found rfl)
  | markDirtyForKey other reason => exact markDirtyForKey_gone (eq_of_beq overtakes) (found rfl) reason
  | invalidate spaceId pageId => exact cancelScopeRebuilds_gone overtakes
  | invalidateKey other => exact cancelRebuild_gone (eq_of_beq overtakes)
  | completeRebuild token envelope =>
    obtain ⟨same, stored⟩ := Bool.and_eq_true_iff.mp overtakes
    exact completeRebuild_gone jsonSize (eq_of_beq same) stored
  | lookupAt => cases overtakes
  | beginRebuild => cases overtakes
  | abortRebuild => cases overtakes

structure Named (token : SnapshotRebuildToken) (cache : SnapshotCache) : Prop where
  given : token.id < cache.nextRebuildId
  bounded : cache.nextRebuildId ≤ u64Max

variable {token : SnapshotRebuildToken}

theorem Named.perform (named : Named token cache) (operation : CacheOperation) :
    Named token (cache.perform jsonSize operation) := by
  have flies := perform_flies jsonSize named.bounded operation
  exact ⟨named.given.trans_le flies.ids, flies.bounded⟩

theorem Named.stays_gone (named : Named token cache) (gone : cache.inFlight.get? token.key ≠ some token.id)
    (operation : CacheOperation) : (cache.perform jsonSize operation).inFlight.get? token.key ≠ some token.id := by
  intro back
  rcases (perform_flies jsonSize named.bounded operation).flights token.key with same | none | next
  · exact gone (same.symm.trans back)
  · rw [none] at back
    cases back
  · rw [next] at back
    have given := named.given
    rw [Option.some.inj back] at given
    exact absurd given (Nat.lt_irrefl _)

theorem beginRebuild_named (issued : (cache.beginRebuild key).2 = .ok token) (room : cache.nextRebuildId < u64Max) :
    token.key = key ∧ Named token (cache.beginRebuild key).1 := by
  unfold SnapshotCache.beginRebuild at issued ⊢
  split at issued
  next => cases issued
  next idle =>
    rw [if_neg idle]
    obtain rfl := Except.ok.inj issued
    refine ⟨rfl, ?_, ?_⟩
    · show cache.nextRebuildId < max (SnapshotCache.saturatingNext cache.nextRebuildId) 1
      unfold SnapshotCache.saturatingNext
      omega
    · show max (SnapshotCache.saturatingNext cache.nextRebuildId) 1 ≤ u64Max
      unfold SnapshotCache.saturatingNext
      omega

theorem completeRebuild_stale (gone : cache.inFlight.get? token.key ≠ some token.id) (envelope : StoredEnvelope) :
    cache.completeRebuild jsonSize envelope token = (cache, .error .staleWriter) := by
  unfold SnapshotCache.completeRebuild
  rw [if_neg]
  intro accepted
  exact gone (eq_of_beq (Bool.and_eq_true_iff.mp accepted).1)

end Flights

/-- A rebuild that was overtaken is refused, where the marks of its page found its entry. -/
theorem overtaken_rebuild_refused (maxEntries maxBytes : Nat) (later earlier : List (Moment SnapshotCache CacheOperation))
    (last : SnapshotCache) (begun overtaking : Moment SnapshotCache CacheOperation) (token : SnapshotRebuildToken)
    (envelope : StoredEnvelope) (run : CacheRun jsonSize maxEntries maxBytes (later ++ begun :: earlier) last)
    (begins : begun.label = .beginRebuild token.key) (issued : (begun.before.beginRebuild token.key).2 = .ok token)
    (room : begun.before.nextRebuildId < u64Max) (inside : overtaking ∈ later)
    (overtakes : overtaking.before.overtakes jsonSize token.key overtaking.label = true)
    (found : overtaking.label.marks = true -> overtaking.before.entries.contains token.key = true) :
    last.completeRebuild jsonSize envelope token = (last, .error .staleWriter) := by
  obtain ⟨_, started⟩ := run.before_moment
  have named : Named token begun.after := by
    rw [started, begins]
    exact (beginRebuild_named issued room).2
  obtain ⟨before, after, reached, taken, split⟩ := run.after_moment.at_moment inside
  have onward := split ▸ run.after_moment
  have given : Named token overtaking.after := by
    rw [taken]
    refine Named.perform jsonSize (reached.keeps (Named token) named ?_) overtaking.label
    intro moment _ taken named
    exact taken ▸ named.perform jsonSize moment.label
  have cleared : overtaking.after.inFlight.get? token.key ≠ some token.id := by
    rw [taken, overtaken_gone jsonSize overtakes found]
    rintro ⟨⟩
  -- from there on the name stays gone
  have lasting := onward.after_moment.keeps
    (fun cache => Named token cache ∧ cache.inFlight.get? token.key ≠ some token.id) ⟨given, cleared⟩ (by
      rintro moment _ taken ⟨named, gone⟩
      rw [taken]
      exact ⟨named.perform jsonSize moment.label, named.stays_gone jsonSize gone moment.label⟩)
  exact completeRebuild_stale jsonSize lasting.2 envelope

section Sample

def storedEnvelope : StoredEnvelope := { envelopeOf firstDocument with budget := none, dirtyReasons := [] }

def storedKey : SnapshotCacheKey := .fromEnvelope storedEnvelope

def storedToken : SnapshotRebuildToken := { key := storedKey, id := 1, revision := 0 }

def begunCache (maxBytes : Nat) : SnapshotCache := ((SnapshotCache.new 1 maxBytes).beginRebuild storedKey).1

theorem insertWithExpiry_admitted {cache : SnapshotCache} {key : SnapshotCacheKey} {envelope : StoredEnvelope}
    (expiresAt : Option Timestamp) (admitted : cache.admits jsonSize key envelope = .ok ()) :
    (cache.insertWithExpiry jsonSize key envelope expiresAt).2 = .ok () := by
  unfold SnapshotCache.insertWithExpiry
  rw [admitted]

theorem storedKey_same : (storedKey.cmp storedKey == .eq) = true := beq_iff_eq.mpr Std.ReflCmp.compare_self

theorem storedKey_valid : SnapshotCache.validateKey storedKey storedEnvelope = .ok () := by
  have valid : (envelopeOf firstDocument).validate = .ok () := envelopeOf_valid firstDocument_normal
  simp only [SnapshotCache.validateKey, bind_ok, require_ok, mapError_ok]
  exact ⟨(), rfl, valid⟩

end Sample

theorem overtaken_rebuild_refused_sample : ∃ last token, ∀ jsonSize envelope,
    Run (fun operation (before after : SnapshotCache) => after = before.perform jsonSize operation) (.new 1 4096)
      [⟨begunCache 4096, .invalidateKey storedKey, last⟩, ⟨.new 1 4096, .beginRebuild storedKey, begunCache 4096⟩] last ∧
      last.completeRebuild jsonSize envelope token = (last, .error .staleWriter) := by
  refine ⟨((begunCache 4096).invalidateKey storedKey).1, storedToken, fun jsonSize envelope => ?_⟩
  have run : CacheRun jsonSize 1 4096 [⟨begunCache 4096, .invalidateKey storedKey, ((begunCache 4096).invalidateKey storedKey).1⟩,
      ⟨.new 1 4096, .beginRebuild storedKey, begunCache 4096⟩] ((begunCache 4096).invalidateKey storedKey).1 :=
    .step (.step .nil rfl) rfl
  exact ⟨run, overtaken_rebuild_refused jsonSize 1 4096 [_] [] _ _ _ storedToken envelope run rfl rfl (by decide)
    List.mem_cons_self storedKey_same (by rintro ⟨⟩)⟩

theorem marked_page_rebuild_commits : ∃ (envelope : StoredEnvelope) (token : SnapshotRebuildToken),
    ∀ (jsonSize : StoredEnvelope -> Except String Nat) (size : Nat), jsonSize envelope = .ok size ->
      ∃ begun marked : Moment SnapshotCache CacheOperation, ∃ last,
        CacheRun jsonSize 1 size [marked, begun] last ∧ begun.label = .beginRebuild token.key ∧
        (begun.before.beginRebuild token.key).2 = .ok token ∧
        marked.label = .markDirty token.key.spaceId token.key.pageId .unknown ∧
        (last.completeRebuild jsonSize envelope token).2 = .ok () := by
  refine ⟨storedEnvelope, storedToken, fun jsonSize size measured => ?_⟩
  refine ⟨⟨.new 1 size, .beginRebuild storedKey, begunCache size⟩,
    ⟨begunCache size, .markDirty storedKey.spaceId storedKey.pageId .unknown, begunCache size⟩, begunCache size,
    .step (.step .nil rfl) rfl, rfl, rfl, rfl, ?_⟩
  have flying : (begunCache size).inFlight.get? storedKey = some 1 := by
    show (SlotMap.insert SlotMap.empty storedKey 1).get? storedKey = some 1
    rw [SlotMap.get?_insert, if_pos Std.ReflCmp.compare_self]
  have admitted : SnapshotCache.admits jsonSize { begunCache size with inFlight := (begunCache size).inFlight.erase storedKey }
      storedKey storedEnvelope = .ok () := by
    simp only [SnapshotCache.admits, bind_ok, require_ok, mapError_ok]
    exact ⟨(), storedKey_valid, size, measured, (), decide_eq_true (Nat.le_refl size), rfl⟩
  show ((begunCache size).completeRebuild jsonSize storedEnvelope storedToken).2 = .ok ()
  unfold SnapshotCache.completeRebuild
  rw [if_pos]
  · exact insertWithExpiry_admitted jsonSize none admitted
  · show ((begunCache size).inFlight.get? storedKey == some 1 && true) = true
    rw [flying]
    rfl

end AgentycHost
