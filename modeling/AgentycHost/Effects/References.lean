import AgentycHost.Broker.Refs
import AgentycHost.Shared.Runs

set_option autoImplicit false

/-! # What each operation of the registry does -/

namespace AgentycHost

open Shared

variable {element : ElementRef} {current : SnapshotProvenance} {codec : Codec} {envelope : SnapshotEnvelope}
  {frameId : FrameId}

namespace RefRegistry

variable {registry before middle after : RefRegistry} {refId : RefId} {record : RefRecord} {now : Timestamp}

structure Tidy (registry : RefRegistry) : Prop where
  named : ∀ refId record, registry.active.get? refId = some record -> record.elementRef.refId = refId
  remembered : ∀ refId tombstone, registry.tombstones.get? refId = some tombstone ->
    tombstone.elementRef.refId = refId
  activeBound : registry.active.size ≤ registry.limits.maxActiveRefs
  tombstoneBound : registry.tombstones.size ≤ registry.limits.maxTombstones
  distinct : registry.tombstoneOrder.Nodup
  ordered : ∀ refId, refId ∈ registry.tombstoneOrder <-> registry.tombstones.contains refId = true

theorem new_tidy (limits : RefRegistryLimits) : (RefRegistry.new limits).Tidy := by
  refine ⟨?_, ?_, Nat.zero_le _, Nat.zero_le _, List.nodup_nil, ?_⟩ <;> simp [RefRegistry.new, Table.contains]

section Tombstones

structure Trimmed (before after : RefRegistry) : Prop where
  active : after.active = before.active
  limits : after.limits = before.limits
  next : after.nextRefNumber = before.nextRefNumber
  remembered : ∀ refId tombstone, after.tombstones.get? refId = some tombstone ->
    before.tombstones.get? refId = some tombstone
  distinct : after.tombstoneOrder.Nodup
  ordered : ∀ refId, refId ∈ after.tombstoneOrder <-> after.tombstones.contains refId = true
  bound : after.tombstones.size ≤ before.limits.maxTombstones

theorem size_zero (ordered : ∀ refId, refId ∈ registry.tombstoneOrder <-> registry.tombstones.contains refId = true)
    (empty : registry.tombstoneOrder = []) : registry.tombstones.size = 0 := by
  by_contra some_
  have keys := (Table.size_pos_iff registry.tombstones).mp (Nat.pos_of_ne_zero some_)
  obtain ⟨refId, inside⟩ := List.exists_mem_of_ne_nil _ keys
  have listed := (ordered refId).mpr ((Table.mem_keys _ _).mp inside)
  simp [empty] at listed

theorem trimTombstones_trimmed {fuel : Nat} (enough : registry.tombstoneOrder.length ≤ fuel)
    (distinct : registry.tombstoneOrder.Nodup)
    (ordered : ∀ refId, refId ∈ registry.tombstoneOrder <-> registry.tombstones.contains refId = true) :
    Trimmed registry (registry.trimTombstones fuel) := by
  induction fuel generalizing registry with
  | zero =>
    have empty := List.eq_nil_of_length_eq_zero (Nat.le_zero.mp enough)
    have none_ := size_zero ordered empty
    exact ⟨rfl, rfl, rfl, fun _ _ found => found, distinct, ordered, by
      rw [trimTombstones, none_]
      exact Nat.zero_le _⟩
  | succ fuel ih =>
    unfold trimTombstones
    by_cases within : registry.tombstones.size ≤ registry.limits.maxTombstones
    · rw [if_pos within]
      exact ⟨rfl, rfl, rfl, fun _ _ found => found, distinct, ordered, within⟩
    · rw [if_neg within]
      cases order : registry.tombstoneOrder with
      | nil =>
        have none_ := size_zero ordered order
        omega
      | cons oldest rest =>
        rw [order] at enough distinct ordered
        -- the oldest tombstone leaves the map and the order together
        have shorter : ∀ refId, refId ∈ rest <-> (registry.tombstones.erase oldest).contains refId = true := by
          intro refId
          have listed := ordered refId
          rw [List.mem_cons] at listed
          simp only [Table.contains, Table.get?_erase] at listed ⊢
          by_cases same : refId = oldest
          · subst same
            simpa using (List.nodup_cons.mp distinct).1
          · simpa [same] using listed
        have trimmed := @ih { registry with
          tombstones := registry.tombstones.erase oldest, tombstoneOrder := rest }
          (Nat.le_of_succ_le_succ enough) (List.nodup_cons.mp distinct).2 shorter
        refine { trimmed with remembered := fun refId tombstone found => ?_ }
        have kept := trimmed.remembered refId tombstone found
        simp only [Table.get?_erase] at kept
        split_ifs at kept
        exact kept

theorem addTombstone_active (tombstone : RefTombstone) (tidy : registry.Tidy) (named : tombstone.elementRef.refId = refId) :
    (registry.addTombstone refId tombstone).active = registry.active ∧
      (registry.addTombstone refId tombstone).limits = registry.limits ∧
      (registry.addTombstone refId tombstone).nextRefNumber = registry.nextRefNumber ∧
      (registry.addTombstone refId tombstone).Tidy := by
  unfold addTombstone
  by_cases off : registry.limits.maxTombstones = 0
  · rw [if_pos off]
    exact ⟨rfl, rfl, rfl, tidy⟩
  rw [if_neg off]
  have others : ∀ other, other ∈ registry.tombstoneOrder.filter (fun other => !(other == refId)) <->
      other ≠ refId ∧ registry.tombstones.contains other = true := by
    intro other
    rw [List.mem_filter, tidy.ordered]
    simp [and_comm]
  have distinct : (registry.tombstoneOrder.filter (fun other => !(other == refId)) ++ [refId]).Nodup := by
    refine List.nodup_append.mpr ⟨tidy.distinct.filter _, List.nodup_singleton _, fun other inside last there => ?_⟩
    rintro rfl
    exact ((others other).mp inside).1 (List.mem_singleton.mp there)
  have ordered : ∀ other, other ∈ registry.tombstoneOrder.filter (fun other => !(other == refId)) ++ [refId] <->
      (registry.tombstones.insert refId tombstone).contains other = true := by
    intro other
    rw [List.mem_append, others, List.mem_singleton]
    simp only [Table.contains, Table.get?_insert]
    by_cases same : other = refId <;> simp [same]
  have trimmed := @trimTombstones_trimmed { registry with
    tombstones := registry.tombstones.insert refId tombstone
    tombstoneOrder := registry.tombstoneOrder.filter (fun other => !(other == refId)) ++ [refId] }
    _ (Nat.le_refl _) distinct ordered
  refine ⟨trimmed.active, trimmed.limits, trimmed.next, ?_, ?_, ?_, ?_, trimmed.distinct, trimmed.ordered⟩
  · rw [trimmed.active]
    exact tidy.named
  · intro other found there
    have kept := trimmed.remembered other found there
    simp only [Table.get?_insert] at kept
    split_ifs at kept with same
    · obtain rfl := Option.some.inj kept
      exact named.trans same.symm
    · exact tidy.remembered other found kept
  · rw [trimmed.active, trimmed.limits]
    exact tidy.activeBound
  · rw [trimmed.limits]
    exact trimmed.bound

end Tombstones

section Removals

variable {test : RefRecord -> Bool}

structure Shrinks (before after : RefRegistry) : Prop where
  limits : after.limits = before.limits
  next : after.nextRefNumber = before.nextRefNumber
  kept : ∀ refId record, after.active.get? refId = some record -> before.active.get? refId = some record
  size : after.active.size ≤ before.active.size
  tidy : after.Tidy

theorem Shrinks.refl (tidy : registry.Tidy) : Shrinks registry registry :=
  ⟨rfl, rfl, fun _ _ found => found, Nat.le_refl _, tidy⟩

theorem Shrinks.trans (first : Shrinks before middle) (second : Shrinks middle after) : Shrinks before after where
  limits := second.limits.trans first.limits
  next := second.next.trans first.next
  kept refId record found := first.kept refId record (second.kept refId record found)
  size := second.size.trans first.size
  tidy := second.tidy

theorem Shrinks.stays_gone (shrinks : Shrinks before after) (gone : before.active.get? refId = none) :
    after.active.get? refId = none := by
  cases there : after.active.get? refId with
  | none => rfl
  | some record =>
    rw [shrinks.kept refId record there] at gone
    cases gone

theorem invalidateRef_found (tidy : registry.Tidy) (found : registry.active.get? refId = some record)
    (reason : RefInvalidationReason) (now : Timestamp) :
    (registry.invalidateRef refId reason now).active = registry.active.erase refId ∧
      (registry.invalidateRef refId reason now).limits = registry.limits ∧
      (registry.invalidateRef refId reason now).nextRefNumber = registry.nextRefNumber ∧
      (registry.invalidateRef refId reason now).Tidy := by
  have erased : Tidy { registry with active := registry.active.erase refId } :=
    { tidy with
      named := fun other one there => by
        rw [Table.get?_erase] at there
        split_ifs at there
        exact tidy.named other one there
      activeBound := (registry.active.size_erase_le refId).trans tidy.activeBound }
  unfold invalidateRef
  rw [found]
  exact addTombstone_active _ erased (tidy.named refId record found)

theorem invalidateRef_absent (absent : registry.active.get? refId = none) (reason : RefInvalidationReason)
    (now : Timestamp) : registry.invalidateRef refId reason now = registry := by
  simp [invalidateRef, absent]

theorem invalidateRef_shrinks (tidy : registry.Tidy) (refId : RefId) (reason : RefInvalidationReason)
    (now : Timestamp) : Shrinks registry (registry.invalidateRef refId reason now) := by
  cases found : registry.active.get? refId with
  | none =>
    rw [invalidateRef_absent found]
    exact .refl tidy
  | some record =>
    obtain ⟨active, limits, next, tidied⟩ := invalidateRef_found tidy found reason now
    refine ⟨limits, next, fun other one there => ?_, ?_, tidied⟩
    · rw [active, Table.get?_erase] at there
      split_ifs at there
      exact there
    · rw [active]
      exact registry.active.size_erase_le refId

theorem invalidateRef_gone (tidy : registry.Tidy) (refId : RefId) (reason : RefInvalidationReason)
    (now : Timestamp) : (registry.invalidateRef refId reason now).active.get? refId = none := by
  cases found : registry.active.get? refId with
  | none =>
    rw [invalidateRef_absent found]
    exact found
  | some record =>
    rw [(invalidateRef_found tidy found reason now).1, Table.get?_erase, if_pos rfl]

theorem foldl_invalidates {change : RefRegistry -> RefId -> RefInvalidationReason} (tidy : registry.Tidy)
    (refIds : List RefId) :
    let left := refIds.foldl (fun registry refId => registry.invalidateRef refId (change registry refId) now) registry
    Shrinks registry left ∧ ∀ refId, refId ∈ refIds -> left.active.get? refId = none := by
  induction refIds generalizing registry with
  | nil => exact ⟨.refl tidy, fun _ inside => by cases inside⟩
  | cons first rest ih =>
    have one := invalidateRef_shrinks tidy first (change registry first) now
    obtain ⟨others, gone⟩ := ih one.tidy
    refine ⟨one.trans others, fun refId inside => ?_⟩
    rcases List.mem_cons.mp inside with rfl | inside
    · exact others.stays_gone (invalidateRef_gone tidy refId _ now)
    · exact gone refId inside

theorem mem_liveIds : refId ∈ registry.liveIds test <->
    ∃ record, registry.active.get? refId = some record ∧ test record = true := by
  rw [liveIds, List.mem_insertionSort, Table.mem_keys, Table.contains_iff]
  simp [Option.filter_eq_some_iff]

theorem invalidateMatching_shrinks (tidy : registry.Tidy) (test : RefRecord -> Bool) (reason : RefInvalidationReason)
    (now : Timestamp) : Shrinks registry (registry.invalidateMatching test reason now) :=
  (@foldl_invalidates registry now (fun _ _ => reason) tidy _).1

theorem invalidateMatching_gone (tidy : registry.Tidy) {reason : RefInvalidationReason}
    (found : registry.active.get? refId = some record) (passes : test record = true) :
    (registry.invalidateMatching test reason now).active.get? refId = none :=
  (@foldl_invalidates registry now (fun _ _ => reason) tidy _).2 refId (mem_liveIds.mpr ⟨record, found, passes⟩)

theorem invalidateProvenance_shrinks (tidy : registry.Tidy) (current : SnapshotProvenance) (now : Timestamp) :
    Shrinks registry (registry.invalidateProvenance current now) :=
  (foldl_invalidates tidy _).1

theorem invalidateProvenance_gone (tidy : registry.Tidy) {current : SnapshotProvenance}
    (found : registry.active.get? refId = some record) (other : ofOtherProvenance current record = true) :
    (registry.invalidateProvenance current now).active.get? refId = none :=
  (foldl_invalidates tidy _).2 refId (mem_liveIds.mpr ⟨record, found, other⟩)

theorem purgeExpired_unexpired (tidy : registry.Tidy)
    (found : (registry.purgeExpired now).active.get? refId = some record) : hasExpired now record = false := by
  by_contra expired
  have early := (invalidateMatching_shrinks tidy (hasExpired now) .expired now).kept refId record found
  have gone : (registry.invalidateMatching (hasExpired now) .expired now).active.get? refId = none :=
    invalidateMatching_gone tidy early (by simpa using expired)
  rw [purgeExpired, gone] at found
  cases found

end Removals

section Room

theorem foldl_older (records : List RefRecord) (start last : RefRecord)
    (folded : records.foldl older (some start) = some last) : last ∈ start :: records := by
  induction records generalizing start with
  | nil =>
    obtain rfl := Option.some.inj folded
    exact List.mem_cons_self
  | cons first rest ih =>
    simp only [List.foldl_cons, older] at folded
    split_ifs at folded
    · rcases List.mem_cons.mp (ih start folded) with rfl | inside
      · exact List.mem_cons_self
      · exact List.mem_cons_of_mem _ (List.mem_cons_of_mem _ inside)
    · exact List.mem_cons_of_mem _ (ih first folded)

theorem foldl_older_some (records : List RefRecord) (start : RefRecord) :
    ∃ last, records.foldl older (some start) = some last := by
  induction records generalizing start with
  | nil => exact ⟨start, rfl⟩
  | cons first rest ih =>
    simp only [List.foldl_cons, older]
    split_ifs
    · exact ih start
    · exact ih first

theorem oldestRef_found (tidy : registry.Tidy) (some_ : registry.active.size ≠ 0) :
    ∃ refId record, registry.oldestRef = some refId ∧ registry.active.get? refId = some record := by
  unfold oldestRef
  cases values : registry.active.values with
  | nil =>
    have length : registry.active.values.length = registry.active.size := by simp [Table.values, Table.size]
    rw [values] at length
    exact (some_ length.symm).elim
  | cons first rest =>
    obtain ⟨last, folded⟩ := foldl_older_some rest first
    have inside := foldl_older rest first last folded
    rw [← values] at inside
    obtain ⟨refId, found⟩ := (Table.mem_values _ _).mp inside
    have named := tidy.named refId last found
    refine ⟨refId, last, ?_, found⟩
    rw [List.foldl_cons]
    change (rest.foldl older (some first)).map _ = _
    rw [folded, Option.map_some, named]

theorem makeRoom_shrinks (tidy : registry.Tidy) {fuel : Nat} (enough : registry.active.size ≤ fuel)
    (capacity : registry.limits.maxActiveRefs ≠ 0) :
    Shrinks registry (registry.makeRoom now fuel) ∧
      (registry.makeRoom now fuel).active.size < registry.limits.maxActiveRefs := by
  induction fuel generalizing registry with
  | zero =>
    refine ⟨.refl tidy, ?_⟩
    change registry.active.size < _
    omega
  | succ fuel ih =>
    unfold makeRoom
    by_cases room : registry.active.size < registry.limits.maxActiveRefs
    · rw [if_pos room]
      exact ⟨.refl tidy, room⟩
    · rw [if_neg room]
      obtain ⟨refId, record, oldest, found⟩ := oldestRef_found tidy (by omega)
      rw [oldest]
      obtain ⟨active, limits, _, tidied⟩ := invalidateRef_found tidy found .capacity now
      have shrinks := invalidateRef_shrinks tidy refId .capacity now
      have fewer := registry.active.size_erase_found found
      rw [← active] at fewer
      obtain ⟨rest, bound⟩ := ih tidied (by omega) (by rw [limits]; exact capacity)
      rw [limits] at bound
      exact ⟨shrinks.trans rest, bound⟩

end Room

section Registrations

variable {provenance : SnapshotProvenance} {elementKey : ElementKey} {fuel : Nat}

def IssuedFor (limits : RefRegistryLimits) (element : ElementRef) (provenance : SnapshotProvenance) (now : Timestamp)
    (record : RefRecord) : Prop :=
  record.elementRef = element ∧ record.provenance = provenance ∧ record.issuedAt = now ∧
    record.expiresAt = expiry limits now

structure Registers (before after : RefRegistry) (element : ElementRef) (provenance : SnapshotProvenance)
    (now : Timestamp) : Prop where
  limits : after.limits = before.limits
  next : after.nextRefNumber = before.nextRefNumber
  tidy : after.Tidy
  own : ∃ record, after.active.get? element.refId = some record ∧
    IssuedFor before.limits element provenance now record
  kept : ∀ refId record, refId ≠ element.refId -> after.active.get? refId = some record ->
    before.active.get? refId = some record

theorem register_ok (tidy : registry.Tidy) (run : registry.register element provenance now = .ok after) :
    Registers registry after element provenance now := by
  simp only [register, bind_ok, require_ok, decide_eq_true_eq, pure_ok] at run
  obtain ⟨_, _, _, _, _, capacity, rfl⟩ := run
  have purged : Shrinks registry (registry.purgeExpired now) := invalidateMatching_shrinks tidy _ _ now
  have replaced := invalidateRef_shrinks purged.tidy element.refId .explicit now
  have limits := replaced.limits.trans purged.limits
  have enough : _ ≠ 0 := limits ▸ capacity
  obtain ⟨roomy, room⟩ := @makeRoom_shrinks _ now replaced.tidy _ (Nat.le_succ _) enough
  have shrinks := (purged.trans replaced).trans roomy
  rw [limits] at room
  refine ⟨shrinks.limits, shrinks.next, ?_, ⟨_, Table.get?_insert_self _ _ _, rfl, rfl, rfl, ?_⟩, ?_⟩
  · refine { shrinks.tidy with named := fun refId record found => ?_, activeBound := ?_ }
    · rw [Table.get?_insert] at found
      split_ifs at found with same
      · obtain rfl := Option.some.inj found
        exact same.symm
      · exact shrinks.tidy.named refId record found
    · refine (Table.size_insert_le _ _ _).trans ((Nat.succ_le_of_lt room).trans_eq ?_)
      exact congrArg (fun limits => limits.maxActiveRefs) shrinks.limits.symm
  · exact congrArg (fun limits => expiry limits now) shrinks.limits
  · intro refId record other found
    rw [Table.get?_insert, if_neg other] at found
    exact shrinks.kept refId record found

theorem issueWithId_ok (tidy : registry.Tidy)
    (run : registry.issueWithId codec refId envelope frameId elementKey now = .ok (element, after)) :
    Registers registry after element envelope.provenance now ∧ element.refId = refId := by
  simp only [issueWithId, makeRef, bind_ok, require_ok, orElse_ok, pure_ok, Prod.mk.injEq] at run
  obtain ⟨_, _, version, _, _, ⟨_, _, _, _, _, _, rfl⟩, middle, registered, rfl, rfl⟩ := run
  have registers := register_ok tidy registered
  refine ⟨⟨registers.limits, registers.next, ?_, ?_, ?_⟩, rfl⟩
  · refine { registers.tidy with named := fun other record found => ?_, activeBound := ?_ }
    · rw [Table.get?_modify] at found
      split_ifs at found with same
      · obtain ⟨old, there, rfl⟩ := Option.map_eq_some_iff.mp found
        exact (registers.tidy.named refId old there).trans same.symm
      · exact registers.tidy.named other record found
    · rw [Table.size_modify]
      exact registers.tidy.activeBound
  · obtain ⟨record, found, issued⟩ := registers.own
    refine ⟨_, (Table.get?_modify_self _ _ _).trans (congrArg (Option.map _) found), ?_⟩
    exact issued
  · intro other record distinct found
    rw [Table.get?_modify_ne _ _ _ _ distinct] at found
    exact registers.kept other record distinct found

theorem allocateRefId_ok (run : registry.allocateRefId fuel = (after, .ok refId)) :
    ∃ number, refId = .host number ∧ registry.nextRefNumber ≤ number ∧
      after = { registry with nextRefNumber := number + 1 } ∧
      registry.active.contains refId = false ∧ registry.tombstones.contains refId = false := by
  induction fuel generalizing registry with
  | zero => simp [allocateRefId] at run
  | succ fuel ih =>
    unfold allocateRefId at run
    cases counted : checkedNext registry.nextRefNumber with
    | none => simp [counted] at run
    | some next =>
      obtain ⟨_, rfl⟩ := checkedNext_eq_some.mp counted
      simp only [counted] at run
      split_ifs at run with taken
      · obtain ⟨number, same, later, rfl, free⟩ := ih run
        exact ⟨number, same, (Nat.le_succ _).trans later, rfl, free⟩
      · cases run
        exact ⟨_, rfl, Nat.le_refl _, rfl, by simpa using taken⟩

theorem allocateRefId_error {error : CoreError} (run : registry.allocateRefId fuel = (after, .error error)) :
    ∃ number, registry.nextRefNumber ≤ number ∧ after = { registry with nextRefNumber := number } := by
  induction fuel generalizing registry with
  | zero =>
    cases run
    exact ⟨_, Nat.le_refl _, rfl⟩
  | succ fuel ih =>
    unfold allocateRefId at run
    cases counted : checkedNext registry.nextRefNumber with
    | none =>
      simp only [counted] at run
      cases run
      exact ⟨_, Nat.le_refl _, rfl⟩
    | some next =>
      obtain ⟨_, rfl⟩ := checkedNext_eq_some.mp counted
      simp only [counted] at run
      split_ifs at run with taken
      · obtain ⟨number, later, rfl⟩ := ih run
        exact ⟨number, (Nat.le_succ _).trans later, rfl⟩
      · cases run

end Registrations

section Resolutions

variable {outcome : Except CoreError Unit}

structure Resolves (before after : RefRegistry) : Prop where
  limits : after.limits = before.limits
  next : after.nextRefNumber = before.nextRefNumber
  tidy : after.Tidy
  kept : ∀ refId record, after.active.get? refId = some record -> ∃ old,
    before.active.get? refId = some old ∧ record.elementRef = old.elementRef ∧ record.provenance = old.provenance ∧
      record.issuedAt = old.issuedAt ∧ record.expiresAt = old.expiresAt

theorem Shrinks.resolves (shrinks : Shrinks before after) : Resolves before after :=
  ⟨shrinks.limits, shrinks.next, shrinks.tidy, fun refId record found =>
    ⟨record, shrinks.kept refId record found, rfl, rfl, rfl, rfl⟩⟩

theorem resolveRef_resolves (tidy : registry.Tidy)
    (run : registry.resolveRef element frameId current now = (after, outcome)) : Resolves registry after := by
  have purged : Shrinks registry (registry.purgeExpired now) := invalidateMatching_shrinks tidy _ _ now
  simp only [resolveRef] at run
  cases found : (registry.purgeExpired now).active.get? element.refId with
  | none =>
    simp only [found] at run
    cases run
    exact purged.resolves
  | some record =>
    simp only [found] at run
    split_ifs at run
    · cases run
      exact purged.resolves
    · cases run
      exact purged.resolves
    · cases run
      exact (purged.trans (invalidateRef_shrinks purged.tidy _ _ _)).resolves
    · split at run
      · cases run
        exact purged.resolves
      · cases run
        refine ⟨purged.limits, purged.next, ?_, fun refId there present => ?_⟩
        · refine { purged.tidy with named := fun refId there present => ?_, activeBound := ?_ }
          · rw [Table.get?_modify] at present
            split_ifs at present with same
            · obtain ⟨old, was, rfl⟩ := Option.map_eq_some_iff.mp present
              exact (purged.tidy.named _ old was).trans same.symm
            · exact purged.tidy.named refId there present
          · rw [Table.size_modify]
            exact purged.tidy.activeBound
        · rw [Table.get?_modify] at present
          split_ifs at present with same
          · subst same
            obtain ⟨old, was, rfl⟩ := Option.map_eq_some_iff.mp present
            exact ⟨old, purged.kept _ old was, rfl, rfl, rfl, rfl⟩
          · exact ⟨there, purged.kept refId there present, rfl, rfl, rfl, rfl⟩

structure Matches (registry : RefRegistry) (refId : RefId) (frameId : FrameId) (current : SnapshotProvenance)
    (now : Timestamp) (record : RefRecord) : Prop where
  live : registry.active.get? refId = some record
  frame : record.elementRef.frameId = frameId
  provenance : record.provenance = current
  unexpired : hasExpired now record = false

theorem resolveRef_ok (tidy : registry.Tidy)
    (run : registry.resolveRef element frameId current now = (after, .ok ())) :
    ∃ record, registry.Matches element.refId frameId current now record ∧ record.elementRef = element := by
  have purged : Shrinks registry (registry.purgeExpired now) := invalidateMatching_shrinks tidy _ _ now
  simp only [resolveRef] at run
  cases found : (registry.purgeExpired now).active.get? element.refId with
  | none => simp [found] at run
  | some record =>
    simp only [found] at run
    split_ifs at run with altered misframed moved
    · simp at run
    · simp at run
    · simp at run
    · push Not at altered misframed moved
      exact ⟨record, ⟨purged.kept _ record found, misframed, moved.symm, purgeExpired_unexpired tidy found⟩, altered⟩

theorem resolveAgainstSnapshot_resolves (tidy : registry.Tidy)
    (run : registry.resolveAgainstSnapshot codec element envelope now = (after, outcome)) :
    Resolves registry after := by
  simp only [resolveAgainstSnapshot] at run
  split_ifs at run
  · cases run
    exact (Shrinks.refl tidy).resolves
  · cases run
    exact (Shrinks.refl tidy).resolves
  · cases run
    exact (invalidateRef_shrinks tidy _ _ _).resolves
  · rcases resolved : registry.resolveRef element element.frameId envelope.provenance now with ⟨middle, ended⟩
    have resolves := resolveRef_resolves tidy resolved
    rw [resolved] at run
    cases ended with
    | error error =>
      cases run
      exact resolves
    | ok done =>
      simp only at run
      split_ifs at run <;> cases run <;> exact resolves

theorem resolveAgainstSnapshot_ok (tidy : registry.Tidy)
    (run : registry.resolveAgainstSnapshot codec element envelope now = (after, .ok ())) :
    ∃ record, registry.Matches element.refId element.frameId envelope.provenance now record ∧
      record.elementRef = element := by
  simp only [resolveAgainstSnapshot] at run
  split_ifs at run
  · simp at run
  · simp at run
  · simp at run
  · rcases resolved : registry.resolveRef element element.frameId envelope.provenance now with ⟨middle, ended⟩
    rw [resolved] at run
    cases ended with
    | error error => simp at run
    | ok done => exact resolveRef_ok tidy resolved

theorem resolveId_resolves (tidy : registry.Tidy)
    (run : registry.resolveId refId frameId current now = (after, outcome)) : Resolves registry after := by
  simp only [resolveId] at run
  split at run
  · cases run
    exact (Shrinks.refl tidy).resolves
  · exact resolveRef_resolves tidy run

theorem resolveId_ok (tidy : registry.Tidy)
    (run : registry.resolveId refId frameId current now = (after, .ok ())) :
    ∃ record, registry.Matches refId frameId current now record := by
  simp only [resolveId] at run
  split at run
  · simp at run
  · next element remembered =>
    obtain ⟨record, found, _⟩ := resolveRef_ok tidy run
    -- live or remembered, the element bears the identity that was asked for
    have named : element.refId = refId := by
      rcases Option.or_eq_some_iff.mp remembered with live | ⟨_, dead⟩
      · obtain ⟨old, there, rfl⟩ := Option.map_eq_some_iff.mp live
        exact tidy.named refId old there
      · obtain ⟨tombstone, there, rfl⟩ := Option.map_eq_some_iff.mp dead
        exact tidy.remembered refId tombstone there
    exact ⟨record, named ▸ found⟩

end Resolutions

end RefRegistry

end AgentycHost
