import AgentycHost.Effects.Specs

set_option autoImplicit false

/-! # The events of a commit -/

namespace AgentycHost

open Shared

variable {config : LedgerConfig} {done : Unit} {generation : PageGeneration} {registry : RefRegistry}

structure Stamped (epoch : BrokerEpoch) (number : EventSequence) (event : EventRecord) : Prop where
  brokerEpoch : event.brokerEpoch = epoch
  eventId : event.eventId = { brokerEpoch := epoch, sequence := number }
  sequence : event.sequence = number
  bounded : number ≤ u64Max
  routed : event.validateRouting = .ok ()

/-- The events carry the numbers after `low` up to `high`, each once and in order. -/
def Successive (brokerEpoch : BrokerEpoch) : EventSequence -> List EventRecord -> EventSequence -> Prop
  | low, [], high => low = high
  | low, event :: rest, high => Stamped brokerEpoch (low + 1) event ∧ Successive brokerEpoch (low + 1) rest high

section Numbers

variable {brokerEpoch : BrokerEpoch} {low middle high : EventSequence} {first second : List EventRecord}
  {event : EventRecord}

theorem Successive.append (left : Successive brokerEpoch low first middle)
    (right : Successive brokerEpoch middle second high) : Successive brokerEpoch low (first ++ second) high := by
  induction first generalizing low with
  | nil =>
    obtain rfl : low = middle := left
    exact right
  | cons event rest ih => exact ⟨left.1, ih left.2⟩

theorem Successive.length (numbered : Successive brokerEpoch low first high) : high = low + first.length := by
  induction first generalizing low with
  | nil =>
    obtain rfl : low = high := numbered
    rfl
  | cons event rest ih =>
    rw [ih numbered.2, List.length_cons, Nat.add_right_comm]
    rfl

theorem Successive.between (numbered : Successive brokerEpoch low first high) (inside : event ∈ first) :
    low < event.sequence ∧ event.sequence ≤ high := by
  induction first generalizing low with
  | nil => cases inside
  | cons head rest ih =>
    obtain rfl | inside := List.mem_cons.mp inside
    · rw [numbered.1.sequence, numbered.2.length]
      exact ⟨Nat.lt_succ_self low, Nat.le_add_right _ _⟩
    · obtain ⟨later, bounded⟩ := ih numbered.2 inside
      exact ⟨(Nat.lt_succ_self low).trans later, bounded⟩

theorem Successive.stamped (numbered : Successive brokerEpoch low first high) (inside : event ∈ first) :
    Stamped brokerEpoch event.sequence event := by
  induction first generalizing low with
  | nil => cases inside
  | cons head rest ih =>
    obtain rfl | inside := List.mem_cons.mp inside
    · rw [numbered.1.sequence]
      exact numbered.1
    · exact ih numbered.2 inside

theorem Successive.bounded (numbered : Successive brokerEpoch low first high) (start : low ≤ u64Max) :
    high ≤ u64Max := by
  induction first generalizing low with
  | nil =>
    obtain rfl : low = high := numbered
    exact start
  | cons event rest ih => exact ih numbered.2 numbered.1.bounded

end Numbers

def Appends (before after : LedgerState) : Prop :=
  after.brokerEpoch = before.brokerEpoch ∧ ∃ new, after.events = before.events ++ new ∧
    Successive before.brokerEpoch before.eventSequence new after.eventSequence

variable {before after : LedgerState} {spaceId : SpaceId} {pageId : PageId} {actionId : ActionId}
  {authority : AuthorityTicket} {leaseEpoch : LeaseEpoch} {now expiresAt renewBy : Timestamp} {A : Type}

theorem Appends.refl (state : LedgerState) : Appends state state := ⟨rfl, [], by simp, rfl⟩

theorem Appends.trans {first second third : LedgerState} (left : Appends first second) (right : Appends second third) :
    Appends first third := by
  obtain ⟨sameBroker, new, events, numbered⟩ := left
  obtain ⟨sameLater, newer, more, later⟩ := right
  rw [sameBroker] at later
  exact ⟨sameLater.trans sameBroker, new ++ newer, by rw [more, events, List.append_assoc], numbered.append later⟩

theorem Appends.over {middle : LedgerState} (appends : Appends middle after)
    (same : (middle.brokerEpoch, middle.eventSequence, middle.events) =
      (before.brokerEpoch, before.eventSequence, before.events)) : Appends before after := by
  simp only [Prod.mk.injEq] at same
  obtain ⟨broker, sequence, events⟩ := same
  unfold Appends at appends ⊢
  rwa [broker, sequence, events] at appends

section Append

variable {scope : EventScope} {event : EventKind} {payload : Payload} {dirtyReason : Option DirtyReason} {resync : Bool}
  {attribution : EventAttribution} {status : String}

theorem appendEventWithAttribution_new
    (run : appendEventWithAttribution before scope event payload dirtyReason resync attribution = .ok after) :
    after.brokerEpoch = before.brokerEpoch ∧ ∃ record, record.scope = scope ∧ record.resyncRequired = resync ∧
      after.events = before.events ++ [record] ∧ after.eventSequence = before.eventSequence + 1 ∧
      Stamped before.brokerEpoch (before.eventSequence + 1) record := by
  simp only [appendEventWithAttribution, bind_ok, mapError_ok, orElse_ok, checkedNext_eq_some, pure_ok,
    EventRecord.validateAdmission] at run
  obtain ⟨_, _, _, ⟨room, rfl⟩, _, _, _, ⟨_, routed, _⟩, rfl⟩ := run
  exact ⟨rfl, _, rfl, rfl, rfl, rfl, rfl, rfl, rfl, room, routed⟩

theorem appendEventWithAttribution_appends
    (run : appendEventWithAttribution before scope event payload dirtyReason resync attribution = .ok after) :
    Appends before after := by
  obtain ⟨sameBroker, record, _, _, events, number, stamped⟩ := appendEventWithAttribution_new run
  exact ⟨sameBroker, [record], events, stamped, number.symm⟩

theorem appendEvent_appends (run : appendEvent before scope event payload dirtyReason resync = .ok after) :
    Appends before after :=
  appendEventWithAttribution_appends run

theorem actionChanged_appends (run : actionChanged before spaceId actionId status resync = .ok after) :
    Appends before after :=
  appendEvent_appends run

theorem actionSettled_appends (run : actionSettled before spaceId actionId status resync = .ok after) :
    Appends before after :=
  appendEvent_appends run

theorem leaseChanged_appends {phase : String} (run : leaseChanged before spaceId leaseEpoch phase resync = .ok after) :
    Appends before after :=
  appendEvent_appends run

theorem spaceChanged_appends {lifecycle : String} (run : spaceChanged before spaceId lifecycle resync = .ok after) :
    Appends before after :=
  appendEvent_appends run

theorem pageChanged_appends (run : pageChanged before spaceId pageId payload resync = .ok after) : Appends before after :=
  appendEvent_appends run

end Append

theorem foldlM_appends {items : List A} {step : LedgerState -> A -> Except HostError LedgerState}
    (one : ∀ state item next, step state item = .ok next -> Appends state next)
    (run : items.foldlM step before = .ok after) : Appends before after :=
  foldlM_keeps (Appends before) (fun _ _ _ _ earlier stepped => earlier.trans (one _ _ _ stepped)) (.refl before) run

section Sessions

theorem hello_appends {request : Hello} {epochs : Option ExtensionEpochs} {ticket : AuthorityTicket}
    (run : hello request epochs before = .ok (ticket, after)) : Appends before after := by
  obtain ⟨_, _, _, _, _, _, _, _, _, rfl⟩ := hello_ok run
  exact .over (.refl _) rfl

theorem disconnect_appends (run : disconnect authority before = .ok (done, after)) :
    Appends before after := by
  obtain ⟨_, _, _, _, _, _, _, _, _, rfl⟩ := disconnect_ok run
  exact .over (.refl _) rfl

theorem markDegraded_appends (run : markDegraded before = .ok (done, after)) : Appends before after := by
  simp only [markDegraded, bind_ok, pure_ok, Prod.mk.injEq] at run
  obtain ⟨_, appended, _, rfl⟩ := run
  exact .over (appendEvent_appends appended) rfl

theorem markProfileRebindRequired_appends {observed : ProfileBindingId} {count : Nat}
    (run : markProfileRebindRequired observed before = .ok (count, after)) : Appends before after := by
  simp only [markProfileRebindRequired, bind_ok, pure_ok, Prod.mk.injEq] at run
  obtain ⟨_, appended, _, rfl⟩ := run
  exact .over (foldlM_appends (fun _ _ _ => appendEvent_appends) appended) rfl

theorem createSpace_appends {label : String} {retention : RetentionPolicy} {space : SpaceDescriptor}
    (run : createSpace authority label retention before = .ok (space, after)) : Appends before after := by
  simp only [createSpace, createSpaceInState, bind_ok, pure_ok, Prod.mk.injEq] at run
  obtain ⟨_, _, _, _, _, _, _, appended, _, rfl⟩ := run
  exact .over (appendEvent_appends appended) rfl

theorem publishEvent_appends {scope : EventScope} {event : EventKind} {payload : Payload}
    (run : publishEvent authority scope event payload before = .ok (done, after)) : Appends before after := by
  simp only [publishEvent, bind_ok, pure_ok, Prod.mk.injEq] at run
  obtain ⟨_, _, _, _, _, _, _, appended, _, rfl⟩ := run
  exact .over (appendEventWithAttribution_appends appended) rfl

theorem recordFenceWarning_appends {text : String} (run : recordFenceWarning spaceId text before = .ok (done, after)) :
    Appends before after := by
  simp only [recordFenceWarning, bind_ok, pure_ok, Prod.mk.injEq] at run
  obtain ⟨_, _, _, rfl⟩ := run
  exact .over (.refl _) rfl

end Sessions

section Leases

variable {token : ReconcileToken} {request : FenceRequest} {ticket : ControlTicket} {lifecycle : SpaceLifecycle}

theorem acquireLease_appends {lease : Lease}
    (run : acquireLease spaceId authority now expiresAt renewBy before = .ok (lease, after)) : Appends before after := by
  simp only [acquireLease, bind_ok] at run
  obtain ⟨_, _, _, _, space, _, granting⟩ := run
  split at granting
  · split_ifs at granting
    simp only [bind_ok, pure_ok, Prod.mk.injEq] at granting
    obtain ⟨_, _, _, rfl⟩ := granting
    exact .over (.refl _) rfl
  · simp only [bind_ok, pure_ok, Prod.mk.injEq] at granting
    obtain ⟨_, _, _, _, _, _, _, _, _, leased, _, changed, _, rfl⟩ := granting
    exact .over ((leaseChanged_appends leased).trans (spaceChanged_appends changed)) rfl

theorem renewLease_appends
    (run : renewLease spaceId authority leaseEpoch now expiresAt renewBy before = .ok (done, after)) :
    Appends before after := by
  simp only [renewLease, bind_ok, pure_ok, Prod.mk.injEq] at run
  obtain ⟨_, _, _, _, _, leased, _, rfl⟩ := run
  exact .over (leaseChanged_appends leased) rfl

theorem cancelQueue_appends (run : cancelQueue spaceId now before = .ok after) : Appends before after := by
  unfold cancelQueue at run
  refine .over (foldlM_appends (fun state actionId next cancelling => ?_) run) rfl
  split at cancelling
  · exact pure_ok.mp cancelling ▸ .refl _
  · simp only [bind_ok] at cancelling
    obtain ⟨_, _, appended⟩ := cancelling
    exact .over (actionChanged_appends appended) rfl

theorem interruptRunning_appends (run : interruptRunning spaceId token before = .ok after) :
    Appends before after := by
  unfold interruptRunning at run
  refine foldlM_appends (fun state actionId next interrupting => ?_) run
  split at interrupting
  · exact pure_ok.mp interrupting ▸ .refl _
  · simp only [bind_ok] at interrupting
    obtain ⟨_, _, appended⟩ := interrupting
    exact .over (actionChanged_appends appended) rfl

theorem startFence_appends {space : SpaceDescriptor} {principalId : PrincipalId} {purpose : FencePurpose}
    (run : startFence before space request principalId purpose now token = .ok after) : Appends before after := by
  simp only [startFence, bind_ok, pure_ok] at run
  obtain ⟨_, _, _, cancelled, _, interrupted, rfl⟩ := run
  have moved := (cancelQueue_appends cancelled).trans (interruptRunning_appends interrupted)
  exact .over (moved.trans (.over (.refl _) rfl)) rfl

theorem takeover_appends (run : takeover spaceId authority now expiresAt renewBy before = .ok (request, after)) :
    Appends before after := by
  simp only [takeover, bind_ok, pure_ok, Prod.mk.injEq] at run
  obtain ⟨_, _, _, _, _, _, _, _, _, _, _, _, _, _, _, _, _, _, _, started, _, changed, _, rfl⟩ := run
  exact .over ((startFence_appends started).trans (leaseChanged_appends changed)) rfl

theorem takeoverWithControlTicket_appends
    (run : takeoverWithControlTicket spaceId authority ticket expiresAt renewBy before = .ok (request, after)) :
    Appends before after := by
  simp only [takeoverWithControlTicket, bind_ok, pure_ok, Prod.mk.injEq] at run
  obtain ⟨_, _, _, _, _, _, _, _, _, _, _, _, _, _, _, changed, _, rfl⟩ := run
  exact .over (leaseChanged_appends changed) rfl

theorem returnControl_appends (run : returnControl spaceId authority leaseEpoch now before = .ok (request, after)) :
    Appends before after := by
  simp only [returnControl, bind_ok, pure_ok, Prod.mk.injEq] at run
  obtain ⟨_, _, _, _, _, _, _, _, _, _, _, started, _, changed, _, rfl⟩ := run
  exact .over ((startFence_appends started).trans (leaseChanged_appends changed)) rfl

theorem acknowledgeFence_appends {renewal : Option (Timestamp × Timestamp)} {request : FenceRequest × Bool}
    (run : acknowledgeFence spaceId authority leaseEpoch renewal before = .ok (request, after)) :
    Appends before after := by
  simp only [acknowledgeFence, bind_ok] at run
  obtain ⟨_, _, _, _, _, _, _, _, rest⟩ := run
  split at rest
  · obtain ⟨_, rfl⟩ := Prod.mk.inj (pure_ok.mp rest)
    exact .over (.refl _) rfl
  · simp only [bind_ok, pure_ok, Prod.mk.injEq] at rest
    obtain ⟨_, changed, _, rfl⟩ := rest
    exact .over (leaseChanged_appends changed) rfl

theorem finishFence_appends {acknowledged : Bool} {error : Option String}
    (run : finishFence request authority acknowledged error before = .ok (lifecycle, after)) :
    Appends before after := by
  simp only [finishFence, bind_ok] at run
  obtain ⟨_, _, _, _, _, _, _, _, _, _, rest⟩ := run
  split_ifs at rest <;> simp only [bind_ok, pure_ok, Prod.mk.injEq] at rest
  · obtain ⟨_, _, _, changed, _, rfl⟩ := rest
    exact .over (spaceChanged_appends changed) rfl
  · obtain ⟨_, changed, _, rfl⟩ := rest
    exact .over (spaceChanged_appends changed) rfl

theorem finishUserReturn_appends {releasedEpoch : LeaseEpoch}
    (run : finishUserReturn request releasedEpoch authority before = .ok (ticket, after)) : Appends before after := by
  simp only [finishUserReturn, bind_ok, pure_ok, Prod.mk.injEq] at run
  obtain ⟨_, _, _, _, _, _, _, _, _, _, _, _, _, leased, _, changed, _, rfl⟩ := run
  exact .over ((leaseChanged_appends leased).trans (spaceChanged_appends changed)) rfl

theorem setFencedSpaceLifecycle_appends
    (run : setFencedSpaceLifecycle spaceId authority leaseEpoch lifecycle now before = .ok (done, after)) :
    Appends before after := by
  simp only [setFencedSpaceLifecycle, bind_ok, pure_ok, Prod.mk.injEq] at run
  obtain ⟨_, _, _, changed, _, rfl⟩ := run
  exact .over (spaceChanged_appends changed) rfl

end Leases

section Pages

variable {proof : CleanupProof}

theorem createPage_appends {label : String} {created : PageId}
    (run : createPage spaceId authority leaseEpoch label now before = .ok (created, after)) : Appends before after := by
  simp only [createPage, bind_ok, pure_ok, Prod.mk.injEq] at run
  obtain ⟨_, _, _, _, _, _, _, _, _, changed, _, rfl⟩ := run
  exact .over (pageChanged_appends changed) rfl

theorem bindPage_appends {target : BoundTarget} {page : PageDescriptor}
    (run : bindPage spaceId pageId authority leaseEpoch now target before = .ok (page, after)) :
    Appends before after := by
  simp only [bindPage, bind_ok, pure_ok, Prod.mk.injEq] at run
  obtain ⟨_, _, _, _, _, _, _, _, _, _, _, _, _, _, _, _, _, changed, _, rfl⟩ := run
  exact .over (pageChanged_appends changed) rfl

theorem markPageLost_appends {registry : RefRegistry}
    (run : (markPageLost spaceId pageId authority leaseEpoch now registry before).2 = .ok (done, after)) :
    Appends before after := by
  unfold markPageLost at run
  split at run
  · cases run
  · simp only [storeLostPage, bind_ok, pure_ok, Prod.mk.injEq] at run
    obtain ⟨_, changed, _, rfl⟩ := run
    exact .over (pageChanged_appends changed) rfl

theorem beginClosePage_appends
    (run : beginClosePage spaceId pageId authority leaseEpoch now before = .ok (generation, after)) :
    Appends before after := by
  simp only [beginClosePage, bind_ok, pure_ok, Prod.mk.injEq] at run
  obtain ⟨_, _, _, changed, _, rfl⟩ := run
  exact .over (pageChanged_appends changed) rfl

theorem completeClosePage_appends
    (run : completeClosePage spaceId pageId generation authority leaseEpoch now before = .ok (done, after)) :
    Appends before after := by
  simp only [completeClosePage, bind_ok, pure_ok, Prod.mk.injEq] at run
  obtain ⟨_, _, _, _, _, _, _, _, _, changed, _, rfl⟩ := run
  exact .over (pageChanged_appends changed) rfl

theorem missingCleanupPages_appends {present : List PageId} {proofs : List CleanupProof}
    (run : missingCleanupPages spaceId authority leaseEpoch now present before = .ok (proofs, after)) :
    Appends before after := by
  simp only [missingCleanupPages, bind_ok, pure_ok, Prod.mk.injEq] at run
  obtain ⟨_, _, _, _, _, rfl⟩ := run
  exact .refl _

theorem claimFinish_appends {claimed : List CleanupProof × RetentionPolicy}
    (run : claimFinish spaceId authority leaseEpoch now before = .ok (claimed, after)) : Appends before after := by
  simp only [claimFinish, bind_ok, pure_ok, Prod.mk.injEq] at run
  obtain ⟨_, _, _, _, _, _, _, closing, _, changed, _, rfl⟩ := run
  have closed := foldlM_appends (fun _ _ _ => pageChanged_appends) closing
  exact .over (closed.trans (spaceChanged_appends changed)) rfl

theorem authorizeCleanup_appends
    (run : authorizeCleanup spaceId proof authority leaseEpoch now before = .ok (done, after)) :
    Appends before after := by
  simp only [authorizeCleanup, bind_ok, pure_ok, Prod.mk.injEq] at run
  obtain ⟨_, _, _, rfl⟩ := run
  exact .refl _

theorem finishPageCleanup_appends
    (run : finishPageCleanup spaceId proof authority leaseEpoch now before = .ok (done, after)) :
    Appends before after := by
  simp only [finishPageCleanup, bind_ok, pure_ok, Prod.mk.injEq] at run
  obtain ⟨_, _, _, _, _, _, _, changed, _, rfl⟩ := run
  exact .over (pageChanged_appends changed) rfl

theorem recordCleanupFailure_appends {code : String}
    (run : recordCleanupFailure spaceId proof authority leaseEpoch now code before = .ok (done, after)) :
    Appends before after := by
  simp only [recordCleanupFailure, bind_ok, pure_ok, Prod.mk.injEq] at run
  obtain ⟨_, _, _, _, _, _, _, lost, _, changed, _, rfl⟩ := run
  exact .over ((pageChanged_appends lost).trans (spaceChanged_appends changed)) rfl

theorem completeFinish_appends {retention : RetentionPolicy} {lifecycle : SpaceLifecycle}
    (run : completeFinish spaceId authority leaseEpoch now retention before = .ok (lifecycle, after)) :
    Appends before after := by
  simp only [completeFinish, bind_ok, pure_ok, Prod.mk.injEq] at run
  obtain ⟨_, _, _, _, _, _, _, leased, _, changed, _, rfl⟩ := run
  exact .over ((leaseChanged_appends leased).trans (spaceChanged_appends changed)) rfl

theorem releaseSpace_appends (run : releaseSpace spaceId authority leaseEpoch now before = .ok (done, after)) :
    Appends before after := by
  simp only [releaseSpace, bind_ok] at run
  obtain ⟨_, _, _, _, rest⟩ := run
  split_ifs at rest
  · obtain ⟨_, rfl⟩ := Prod.mk.inj (pure_ok.mp rest)
    exact .refl _
  · simp only [bind_ok, pure_ok, Prod.mk.injEq] at rest
    obtain ⟨_, _, _, _, _, changed, _, rfl⟩ := rest
    exact .over (spaceChanged_appends changed) rfl

theorem adoptObservations_appends {records changed : List ObservedPage}
    (run : adoptObservations before records = .ok (after, changed)) : Appends before after := by
  induction records generalizing before changed with
  | nil =>
    obtain ⟨rfl, _⟩ := Prod.mk.inj (pure_ok.mp run)
    exact .refl _
  | cons record rest ih =>
    simp only [adoptObservations, bind_ok, pure_ok, Prod.exists, Prod.mk.injEq] at run
    obtain ⟨middle, _, first, _, _, others, rfl, _⟩ := run
    have one : Appends before middle := by
      unfold adoptObservation at first
      split at first
      · obtain ⟨rfl, _⟩ := Prod.mk.inj (pure_ok.mp first)
        exact .refl _
      · simp only [bind_ok, pure_ok, Prod.mk.injEq] at first
        obtain ⟨_, _, _, _, rfl, _⟩ := first
        exact .over (.refl _) rfl
    exact one.trans (ih others)

theorem reconcileBridgePages_appends {observation : List ObservedPage}
    (run : reconcileBridgePages observation before = .ok (done, after)) : Appends before after := by
  simp only [reconcileBridgePages, bind_ok, pure_ok, Prod.exists, Prod.mk.injEq] at run
  obtain ⟨_, _, adopted, _, appended, _, rfl⟩ := run
  exact (adoptObservations_appends adopted).trans (foldlM_appends (fun _ _ _ => pageChanged_appends) appended)

end Pages

section Actions

variable {request : ActionRequest} {receipt : ActionReceipt} {lifecycle : HostLifecycle}

theorem moveReceipt_appends {move : ActionReceipt -> Except ActionTransitionError ActionReceipt}
    (run : moveReceipt before actionId move = .ok after) : Appends before after := by
  simp only [moveReceipt, bind_ok, pure_ok] at run
  obtain ⟨_, _, _, _, rfl⟩ := run
  exact .over (.refl _) rfl

theorem enqueueAction_appends
    (run : (enqueueAction config request authority now registry before).2 = .ok (receipt, after)) :
    Appends before after := by
  unfold enqueueAction at run
  split at run
  · cases run
  · cases run
    exact .refl _
  · split at run
    · cases run
    · simp only [insertQueued, bind_ok, pure_ok, Prod.mk.injEq] at run
      obtain ⟨_, _, _, changed, _, rfl⟩ := run
      exact .over (actionChanged_appends changed) rfl

theorem beginDispatch_appends {found : Option ActionRequest}
    (run : (beginDispatch config.codec actionId authority leaseEpoch now registry before).2 = .ok (found, after)) :
    Appends before after := by
  unfold beginDispatch at run
  split at run
  · cases run
  · cases run
    exact .refl _
  · split at run
    · -- a refused head is an error
      simp only [refuseHead, bind_ok] at run
      obtain ⟨_, _, _, _, failed⟩ := run
      cases failed
    · simp only [markRunning, bind_ok, pure_ok, Prod.mk.injEq] at run
      obtain ⟨_, _, _, moved, _, changed, _, rfl⟩ := run
      exact .over ((moveReceipt_appends moved).trans (actionChanged_appends changed)) rfl

theorem recheckDispatch_appends
    (run : (recheckDispatch config.codec actionId request authority leaseEpoch now registry before).2 =
      .ok (done, after)) : Appends before after := by
  unfold recheckDispatch at run
  split at run
  · cases run
  · split at run
    · simp only [refuseRunning, bind_ok] at run
      obtain ⟨_, _, _, _, failed⟩ := run
      cases failed
    · cases run
      exact .refl _

theorem dirtySnapshot_appends (state : LedgerState) (request : ActionRequest) :
    Appends state (dirtySnapshot state request) := by
  unfold dirtySnapshot
  split
  · exact .refl _
  · exact .over (.refl _) rfl

theorem finishDispatch_appends {outcome : BridgeDispatchResult}
    (run : (finishDispatch lifecycle actionId request authority outcome now registry before).2 = .ok (receipt, after)) :
    Appends before after := by
  unfold finishDispatch at run
  split at run
  · cases run
  · split_ifs at run
    · cases run
      exact .refl _
    · split at run
      · cases run
      · simp only [bind_ok, pure_ok, Prod.mk.injEq] at run
        obtain ⟨_, settled, _, rfl⟩ := run
        exact .over ((dirtySnapshot_appends _ _).trans (actionSettled_appends settled)) rfl

theorem beginReconcile_appends (run : beginReconcile actionId authority leaseEpoch now before = .ok (receipt, after)) :
    Appends before after := by
  simp only [beginReconcile, bind_ok, pure_ok, Prod.mk.injEq] at run
  obtain ⟨_, _, _, _, _, changed, _, rfl⟩ := run
  exact .over (actionChanged_appends changed) rfl

theorem finishReconcile_appends {answer : Option BridgeReconcileResult}
    (run : finishReconcile lifecycle actionId authority leaseEpoch answer now before = .ok (receipt, after)) :
    Appends before after := by
  simp only [finishReconcile, bind_ok] at run
  obtain ⟨_, _, rest⟩ := run
  split_ifs at rest
  · obtain ⟨_, rfl⟩ := Prod.mk.inj (pure_ok.mp rest)
    exact .refl _
  · simp only [bind_ok, pure_ok, Prod.mk.injEq] at rest
    obtain ⟨_, _, _, changed, _, rfl⟩ := rest
    exact .over (actionChanged_appends changed) rfl

theorem shutdown_appends (run : shutdown now before = .ok (done, after)) : Appends before after := by
  simp only [shutdown, bind_ok, pure_ok, Prod.mk.injEq] at run
  obtain ⟨_, interrupted, _, appended, _, rfl⟩ := run
  refine (foldlM_appends (fun state actionId next interrupting => ?_) interrupted).trans (appendEvent_appends appended)
  split at interrupting
  · exact pure_ok.mp interrupting ▸ .refl _
  · simp only [bind_ok] at interrupting
    obtain ⟨_, _, changed⟩ := interrupting
    exact .over (actionChanged_appends changed) rfl

end Actions

section Snapshots

variable {envelope : SnapshotEnvelope} {event : BridgeEvent} {epochs : Option ExtensionEpochs}

theorem issuingEnvelope_appends
    (run : issuingEnvelope spaceId pageId authority leaseEpoch now before = .ok (envelope, after)) :
    Appends before after := by
  simp only [issuingEnvelope, bind_ok, pure_ok, Prod.mk.injEq] at run
  obtain ⟨_, _, _, _, _, _, _, _, _, rfl⟩ := run
  exact .refl _

theorem captureGeneration_appends
    (run : captureGeneration spaceId pageId authority leaseEpoch now before = .ok (generation, after)) :
    Appends before after := by
  simp only [captureGeneration, bind_ok, pure_ok, Prod.mk.injEq] at run
  obtain ⟨_, _, _, rfl⟩ := run
  exact .refl _

theorem commitSnapshot_appends
    (run : commitSnapshot spaceId pageId authority leaseEpoch now generation envelope before = .ok (done, after)) :
    Appends before after := by
  simp only [commitSnapshot, bind_ok, pure_ok, Prod.mk.injEq] at run
  obtain ⟨_, _, _, _, _, appended, _, rfl⟩ := run
  exact .over (appendEvent_appends appended) rfl

theorem putSnapshot_appends
    (run : (putSnapshot authority envelope leaseEpoch now registry before).2 = .ok (done, after)) :
    Appends before after := by
  unfold putSnapshot at run
  split at run
  · cases run
  · cases run
    exact .over (.refl _) rfl

theorem markSnapshotDirty_appends {marked : Bool}
    (run : (markSnapshotDirty authority spaceId pageId leaseEpoch now registry before).2 = .ok (marked, after)) :
    Appends before after := by
  unfold markSnapshotDirty at run
  split at run
  · cases run
  · split_ifs at run
    · cases run
      exact .over (.refl _) rfl
    · cases run
      exact .refl _

theorem applyScopedEvent_appends
    (run : (applyScopedEvent event authority epochs spaceId pageId now registry before).2 = .ok (done, after)) :
    Appends before after := by
  unfold applyScopedEvent at run
  split at run
  · cases run
  · cases run
    exact .refl _
  · simp only [bind_ok, pure_ok, Prod.mk.injEq] at run
    obtain ⟨_, appended, _, rfl⟩ := run
    refine .over (appendEventWithAttribution_appends appended) ?_
    split_ifs <;> rfl

theorem applyGlobalEvent_appends
    (run : (applyGlobalEvent event authority epochs now registry before).2 = .ok (done, after)) :
    Appends before after := by
  unfold applyGlobalEvent at run
  split at run
  · cases run
  · simp only [bind_ok, pure_ok, Prod.mk.injEq] at run
    obtain ⟨_, appended, _, rfl⟩ := run
    exact .over (appendEventWithAttribution_appends appended) rfl

theorem applyBridgeEvent_appends
    (run : (applyBridgeEvent event authority epochs now registry before).2 = .ok (done, after)) :
    Appends before after := by
  unfold applyBridgeEvent at run
  cases space : event.spaceId with
  | none =>
    rw [space] at run
    exact applyGlobalEvent_appends run
  | some spaceId =>
    cases page : event.pageId with
    | none =>
      rw [space, page] at run
      exact applyGlobalEvent_appends run
    | some pageId =>
      rw [space, page] at run
      exact applyScopedEvent_appends run

end Snapshots

def Advances (before after : LedgerState) : Prop :=
  after.brokerEpoch = before.brokerEpoch ∧ ∃ kept new, kept ⊆ before.events ∧ after.events = kept ++ new ∧
    Successive before.brokerEpoch before.eventSequence new after.eventSequence

theorem Appends.advances (appends : Appends before after) : Advances before after := by
  obtain ⟨sameBroker, new, events, numbered⟩ := appends
  exact ⟨sameBroker, before.events, new, List.Subset.refl _, events, numbered⟩

theorem pruneSpaces_advances {spaces : List SpaceId} (run : spaces.foldlM pruneSpace before = .ok after) :
    Advances before after := by
  have all : after.brokerEpoch = before.brokerEpoch ∧ ∃ kept new, kept ⊆ before.events ∧
      after.events = kept ++ new ∧ (∀ event, event ∈ new -> event.scope.spaceId = none) ∧
      Successive before.brokerEpoch before.eventSequence new after.eventSequence := by
    refine foldlM_keeps (fun state => state.brokerEpoch = before.brokerEpoch ∧ ∃ kept new, kept ⊆ before.events ∧
      state.events = kept ++ new ∧ (∀ event, event ∈ new -> event.scope.spaceId = none) ∧
      Successive before.brokerEpoch before.eventSequence new state.eventSequence) ?_ ?_ run
    · rintro state spaceId next _ ⟨sameBroker, kept, new, inside, events, unscoped, numbered⟩ pruned
      simp only [pruneSpace, bind_ok, pure_ok] at pruned
      obtain ⟨_, appended, rfl⟩ := pruned
      obtain ⟨sameLater, record, scope, _, more, number, stamped⟩ := appendEventWithAttribution_new appended
      have stays : new.filter (fun event => !(event.scope.spaceId == some spaceId)) = new :=
        List.filter_eq_self.mpr fun event member => by simp [unscoped event member]
      have listed : (withoutSpace state spaceId).events =
          kept.filter (fun event => !(event.scope.spaceId == some spaceId)) ++ new := by
        change state.events.filter _ = _
        rw [events, List.filter_append, stays]
      refine ⟨sameLater.trans sameBroker, kept.filter (fun event => !(event.scope.spaceId == some spaceId)),
        new ++ [record], fun _ member => inside (List.mem_of_mem_filter member), ?_, ?_, ?_⟩
      · rw [more, listed, List.append_assoc]
      · intro event member
        obtain member | last := List.mem_append.mp member
        · exact unscoped event member
        · rw [List.mem_singleton.mp last, scope]
          rfl
      · refine numbered.append ?_
        rw [number, ← sameBroker]
        exact ⟨stamped, rfl⟩
    · exact ⟨rfl, before.events, [], List.Subset.refl _, by simp, by simp, rfl⟩
  obtain ⟨sameBroker, kept, new, inside, events, _, numbered⟩ := all
  exact ⟨sameBroker, kept, new, inside, events, numbered⟩

theorem pruneReleasedSpaces_advances {maxCount : Nat} {gone : List SpaceId}
    (run : pruneReleasedSpaces authority maxCount before = .ok (gone, after)) : Advances before after := by
  simp only [pruneReleasedSpaces, bind_ok, pure_ok, Prod.mk.injEq] at run
  obtain ⟨_, _, _, pruned, _, rfl⟩ := run
  exact pruneSpaces_advances pruned

/-- The events of a commit: some of the old ones and the new ones, of which the last `maxEvents` stay. -/
def Recorded (limits : LedgerLimits) (before after : LedgerState) : Prop :=
  ∃ whole, Advances before whole ∧ after = drainEvents limits whole

theorem Committable.recorded {transition : Transition A} (made : Committable config transition before after)
    (advances : ∀ value next, transition before = .ok (value, next) -> Advances before next) :
    Recorded config.limits before after := by
  obtain ⟨value, next, run, drained, _⟩ := made
  exact ⟨next, advances value next run, drained⟩

theorem LedgerStep.recorded {calls : Table Nat Call} {command : Command}
    (taken : LedgerStep config calls command before after) : Recorded config.limits before after := by
  cases taken with
  | hello _ made => exact made.recorded fun _ _ run => (hello_appends run).advances
  | disconnect _ made => exact made.recorded fun _ _ run => (disconnect_appends run).advances
  | markDegraded made => exact made.recorded fun _ _ run => (markDegraded_appends run).advances
  | markProfileRebindRequired made => exact made.recorded fun _ _ run => (markProfileRebindRequired_appends run).advances
  | createSpace made => exact made.recorded fun _ _ run => (createSpace_appends run).advances
  | publishEvent made => exact made.recorded fun _ _ run => (publishEvent_appends run).advances
  | bridgeEvent made => exact made.recorded fun _ _ run => (applyBridgeEvent_appends run).advances
  | observePages made => exact made.recorded fun _ _ run => (reconcileBridgePages_appends run).advances
  | acquireLease _ made => exact made.recorded fun _ _ run => (acquireLease_appends run).advances
  | renewLease made => exact made.recorded fun _ _ run => (renewLease_appends run).advances
  | takeover made => exact made.recorded fun _ _ run => (takeover_appends run).advances
  | takeoverWithControlTicket _ made => exact made.recorded fun _ _ run => (takeoverWithControlTicket_appends run).advances
  | returnControl made => exact made.recorded fun _ _ run => (returnControl_appends run).advances
  | acknowledgeFence made => exact made.recorded fun _ _ run => (acknowledgeFence_appends run).advances
  | finishFence _ _ _ _ made => exact made.recorded fun _ _ run => (finishFence_appends run).advances
  | finishUserReturn _ _ _ _ made => exact made.recorded fun _ _ run => (finishUserReturn_appends run).advances
  | recordFenceWarning made => exact made.recorded fun _ _ run => (recordFenceWarning_appends run).advances
  | setFencedSpaceLifecycle made => exact made.recorded fun _ _ run => (setFencedSpaceLifecycle_appends run).advances
  | createPage made => exact made.recorded fun _ _ run => (createPage_appends run).advances
  | bindPage _ made => exact made.recorded fun _ _ run => (bindPage_appends run).advances
  | markPageLost _ made => exact made.recorded fun _ _ run => (markPageLost_appends run).advances
  | beginClosePage made => exact made.recorded fun _ _ run => (beginClosePage_appends run).advances
  | completeClosePage _ made => exact made.recorded fun _ _ run => (completeClosePage_appends run).advances
  | missingCleanupPages made => exact made.recorded fun _ _ run => (missingCleanupPages_appends run).advances
  | claimFinish made => exact made.recorded fun _ _ run => (claimFinish_appends run).advances
  | authorizeCleanup made => exact made.recorded fun _ _ run => (authorizeCleanup_appends run).advances
  | finishPageCleanup _ made => exact made.recorded fun _ _ run => (finishPageCleanup_appends run).advances
  | recordCleanupFailure made => exact made.recorded fun _ _ run => (recordCleanupFailure_appends run).advances
  | completeFinish _ made => exact made.recorded fun _ _ run => (completeFinish_appends run).advances
  | releaseSpace made => exact made.recorded fun _ _ run => (releaseSpace_appends run).advances
  | pruneReleasedSpaces _ made => exact made.recorded fun _ _ run => pruneReleasedSpaces_advances run
  | enqueueAction made => exact made.recorded fun _ _ run => (enqueueAction_appends run).advances
  | beginDispatch _ made => exact made.recorded fun _ _ run => (beginDispatch_appends run).advances
  | recheckDispatch made => exact made.recorded fun _ _ run => (recheckDispatch_appends run).advances
  | finishDispatch made => exact made.recorded fun _ _ run => (finishDispatch_appends run).advances
  | beginReconcile _ made => exact made.recorded fun _ _ run => (beginReconcile_appends run).advances
  | finishReconcile _ made => exact made.recorded fun _ _ run => (finishReconcile_appends run).advances
  | issuingEnvelope made => exact made.recorded fun _ _ run => (issuingEnvelope_appends run).advances
  | captureGeneration made => exact made.recorded fun _ _ run => (captureGeneration_appends run).advances
  | commitSnapshot made => exact made.recorded fun _ _ run => (commitSnapshot_appends run).advances
  | putSnapshot made => exact made.recorded fun _ _ run => (putSnapshot_appends run).advances
  | markSnapshotDirty made => exact made.recorded fun _ _ run => (markSnapshotDirty_appends run).advances
  | shutdown made => exact made.recorded fun _ _ run => (shutdown_appends run).advances

end AgentycHost
