import AgentycHost.Effects.Specs
import AgentycHost.System.Runs

set_option autoImplicit false

/-! # What a step does to the connections -/

namespace AgentycHost

open Shared

variable {config : LedgerConfig} {calls : Table Nat Call} {command : Command} {before middle after disk state : LedgerState}
  {A : Type}

structure SameConnections (before after : LedgerState) : Prop where
  brokerEpoch : after.brokerEpoch = before.brokerEpoch
  connectionEpoch : after.connectionEpoch = before.connectionEpoch
  connections : after.activeConnections = before.activeConnections
  nonces : after.usedConnectionNonces = before.usedConnectionNonces

theorem SameConnections.refl (state : LedgerState) : SameConnections state state := ⟨rfl, rfl, rfl, rfl⟩

theorem SameConnections.trans (first : SameConnections before middle) (second : SameConnections middle after) :
    SameConnections before after :=
  ⟨second.brokerEpoch.trans first.brokerEpoch, second.connectionEpoch.trans first.connectionEpoch,
    second.connections.trans first.connections, second.nonces.trans first.nonces⟩

theorem SameConnections.of_events (same : SameButEvents before after) : SameConnections before after := by
  obtain ⟨_, _, _, rfl⟩ := same
  exact ⟨rfl, rfl, rfl, rfl⟩

theorem SameConnections.events (appended : SameButEvents middle after) (same : SameConnections before middle) :
    SameConnections before after :=
  same.trans (.of_events appended)

theorem SameConnections.of_work (work : PageWork before after) : SameConnections before after := by
  obtain ⟨_, _, _, _, _, _, _, rfl⟩ := work
  exact ⟨rfl, rfl, rfl, rfl⟩

theorem Committable.connections {transition : Transition A} (made : Committable config transition before after)
    (run : ∀ value next, transition before = .ok (value, next) -> SameConnections before next) :
    SameConnections before after := by
  obtain ⟨value, next, moved, rfl, _⟩ := made
  exact .events (drainEvents_same _ _) (run value next moved)

theorem Committable.workConnections {transition : Transition A} (made : Committable config transition before after)
    (run : ∀ value next, transition before = .ok (value, next) -> PageWork before next) :
    SameConnections before after :=
  made.connections fun value next moved => .of_work (run value next moved)

inductive ConnectionMove (command : Command) (before after : LedgerState) : Prop where
  | keep (same : SameConnections before after)
  | admitted {request : Hello} {epochs : Option ExtensionEpochs} {ticket : AuthorityTicket} {middle : LedgerState}
      (made_by : command = .hello request) (run : hello request epochs before = .ok (ticket, middle))
      (same : SameConnections middle after)
  | left {authority : AuthorityTicket} {middle : LedgerState} (made_by : command = .disconnect authority)
      (run : disconnect authority before = .ok ((), middle)) (same : SameConnections middle after)

theorem LedgerStep.connections (taken : LedgerStep config calls command before after) :
    ConnectionMove command before after := by
  cases taken with
  | hello made_by made =>
    obtain ⟨ticket, next, run, rfl, _⟩ := made
    exact .admitted made_by run (.of_events (drainEvents_same _ _))
  | disconnect made_by made =>
    obtain ⟨_, next, run, rfl, _⟩ := made
    exact .left made_by run (.of_events (drainEvents_same _ _))
  | markProfileRebindRequired made =>
    exact .keep (made.connections fun _ _ run => .events (markProfileRebindRequired_ok run) ⟨rfl, rfl, rfl, rfl⟩)
  | createSpace made =>
    refine .keep (made.connections fun _ _ run => ?_)
    obtain ⟨_, _, _, _, same⟩ := createSpace_ok run
    exact .events same ⟨rfl, rfl, rfl, rfl⟩
  | acquireLease _ made =>
    refine .keep (made.connections fun _ _ run => ?_)
    obtain rfl | ⟨_, _, _, _, _, same⟩ := acquireLease_ok run
    · exact .refl _
    · exact .events same ⟨rfl, rfl, rfl, rfl⟩
  | renewLease made =>
    exact .keep (made.connections fun _ _ run => .events (renewLease_ok run).2 ⟨rfl, rfl, rfl, rfl⟩)
  | takeover made =>
    refine .keep (made.connections fun _ _ run => ?_)
    obtain ⟨_, _, _, _, _, _, _, _, _, _, _, _, _, _, same⟩ := takeover_ok run
    exact .events same ⟨rfl, rfl, rfl, rfl⟩
  | takeoverWithControlTicket _ made =>
    refine .keep (made.connections fun _ _ run => ?_)
    obtain ⟨_, _, _, _, _, _, _, _, _, _, same⟩ := takeoverWithControlTicket_ok run
    exact .events same ⟨rfl, rfl, rfl, rfl⟩
  | returnControl made =>
    refine .keep (made.connections fun _ _ run => ?_)
    obtain ⟨_, _, _, _, _, _, _, _, _, _, same⟩ := returnControl_ok run
    exact .events same ⟨rfl, rfl, rfl, rfl⟩
  | acknowledgeFence made =>
    refine .keep (made.connections fun _ _ run => ?_)
    obtain rfl | ⟨_, _, _, _, _, same⟩ := acknowledgeFence_ok run
    · exact .refl _
    · exact .events same ⟨rfl, rfl, rfl, rfl⟩
  | finishFence _ _ _ _ made =>
    refine .keep (made.connections fun _ _ run => ?_)
    obtain ⟨_, _, _, _, ⟨_, _, same⟩ | same⟩ := finishFence_ok run
    all_goals exact .events same ⟨rfl, rfl, rfl, rfl⟩
  | finishUserReturn _ _ _ _ made =>
    refine .keep (made.connections fun _ _ run => ?_)
    obtain ⟨_, _, _, _, _, _, same⟩ := finishUserReturn_ok run
    exact .events same ⟨rfl, rfl, rfl, rfl⟩
  | setFencedSpaceLifecycle made =>
    exact .keep (made.connections fun _ _ run => .events (setFencedSpaceLifecycle_ok run).2 ⟨rfl, rfl, rfl, rfl⟩)
  | claimFinish made =>
    refine .keep (made.connections fun _ _ run => ?_)
    obtain ⟨_, _, _, _, _, _, same⟩ := claimFinish_ok run
    exact .events same ⟨rfl, rfl, rfl, rfl⟩
  | completeFinish _ made =>
    refine .keep (made.connections fun _ _ run => ?_)
    obtain ⟨_, _, same⟩ := completeFinish_ok run
    exact .events same ⟨rfl, rfl, rfl, rfl⟩
  | releaseSpace made =>
    refine .keep (made.connections fun _ _ run => ?_)
    obtain rfl | ⟨_, _, _, same⟩ := releaseSpace_ok run
    · exact .refl _
    · exact .events same ⟨rfl, rfl, rfl, rfl⟩
  | pruneReleasedSpaces _ made =>
    refine .keep (made.connections fun _ _ run => ?_)
    obtain ⟨_, update, _⟩ := pruneReleasedSpaces_ok run
    obtain ⟨connections, epoch, nonces⟩ := update.connections
    exact ⟨update.brokerEpoch, epoch, connections, nonces⟩
  | bridgeEvent made | observePages made | recordFenceWarning made | createPage made | bindPage _ made
  | markPageLost _ made | beginClosePage made | completeClosePage _ made | missingCleanupPages made
  | authorizeCleanup made | finishPageCleanup _ made | recordCleanupFailure made | recheckDispatch made
  | issuingEnvelope made | captureGeneration made | commitSnapshot made | putSnapshot made | markSnapshotDirty made =>
    exact .keep (made.workConnections fun _ _ run => made.works run)
  | markDegraded made | publishEvent made | enqueueAction made | beginDispatch _ made | finishDispatch made
  | beginReconcile _ made | finishReconcile _ made | shutdown made =>
    refine .keep (made.connections fun _ _ run => ?_)
    obtain ⟨_, _, _, _, _, same⟩ := made.acts run
    exact .events same ⟨rfl, rfl, rfl, rfl⟩

end AgentycHost
