import AgentycHost.System.Calls

set_option autoImplicit false

/-!
# What one step does to the confirmed intents

Confirmations add tickets, admissions spend them and a restart drops them all.
-/

namespace AgentycHost

open Shared

structure SameIntents (before after : System) : Prop where
  intents : after.intents = before.intents
  number : after.intentNumber = before.intentNumber

def Command.movesIntents : Command -> Bool
  | .confirmUserIntent _ _ _ _ | .enqueueAction _ _ _ _ | .restart _ => true
  | _ => false

variable {config : HostConfig} {env : Environment} {command : Command} {before after : System}
  {result : Except HostError Unit}

namespace SameIntents

variable {A : Type} {reply : Reply A} {key : Nat}

theorem refl (system : System) : SameIntents system system := ⟨rfl, rfl⟩

theorem trans {middle : System} (first : SameIntents before middle) (second : SameIntents middle after) :
    SameIntents before after :=
  ⟨second.intents.trans first.intents, second.number.trans first.number⟩

theorem commit (transition : Transition A) : SameIntents before (before.commit config env transition).1 := ⟨rfl, rfl⟩

theorem commitRefs (transition : RefTransition A) : SameIntents before (before.commitRefs config env transition).1 :=
  ⟨rfl, rfl⟩

theorem setCall (key : Nat) (call : Call) : SameIntents before (before.setCall key call) := ⟨rfl, rfl⟩

theorem endCall (key : Nat) : SameIntents before (before.endCall key) := ⟨rfl, rfl⟩

theorem afterCheck {check : Except HostError Unit} (next : SameIntents before reply.1) :
    SameIntents before (before.afterCheck check reply).1 := by
  unfold System.afterCheck
  split
  · exact .refl before
  · exact next

theorem withLeaseTimes {now ttl : Nat} {next : Timestamp -> Timestamp -> Reply Unit}
    (then_ : ∀ expiresAt renewBy, SameIntents before (next expiresAt renewBy).1) :
    SameIntents before (withLeaseTimes before now ttl next).1 := by
  unfold AgentycHost.withLeaseTimes
  split
  · exact .refl before
  · exact then_ _ _

theorem goOn {next : A -> Except HostError (Option Call)} (earlier : SameIntents before reply.1) :
    SameIntents before (System.goOn key next reply).1 := by
  refine earlier.trans ?_
  unfold System.goOn
  split
  · exact .endCall key
  · exact .setCall key _
  · exact .endCall key

theorem endDispatch {dispatch : DispatchCall} (earlier : SameIntents before after) :
    SameIntents before (endDispatch key dispatch after) := by
  refine earlier.trans ?_
  unfold AgentycHost.endDispatch
  dsimp only
  split_ifs <;> exact ⟨rfl, rfl⟩

end SameIntents

theorem sessionStep_intents (taken : sessionStep config env command before = some (after, result)) :
    SameIntents before after := by
  unfold sessionStep at taken
  split at taken
  case h_1 =>
    rw [replied taken]
    unfold connect
    dsimp only
    split
    · exact .commit _
    · split_ifs <;> exact ⟨rfl, rfl⟩
  case h_3 | h_4 =>
    split_ifs at taken <;> (rw [replied taken]; exact ⟨rfl, rfl⟩)
  case h_10 => cases taken
  all_goals
    rw [replied taken]
    first
      | exact .commit _
      | exact .afterCheck (.commit _)
      | exact .afterCheck (.commitRefs _)

theorem leaseStep_intents (taken : leaseStep config env command before = some (after, result)) :
    SameIntents before after := by
  unfold leaseStep at taken
  split at taken
  case h_10 => cases taken
  case h_7 =>
    split_ifs at taken
    split at taken <;> rw [replied taken]
    · exact .afterCheck (.goOn (.commit _))
    · exact .withLeaseTimes fun _ _ => .afterCheck (.goOn (.commit _))
  case h_8 =>
    split at taken
    · split at taken <;> rw [replied taken]
      · exact .goOn (.commit _)
      · exact .goOn (.commit _)
      · exact .goOn (.commit _)
      · exact .endCall _
    · cases taken
  case h_9 =>
    split at taken
    · rw [replied taken]
      exact .goOn (.commit _)
    · cases taken
  case h_1 | h_2 =>
    rw [replied taken]
    exact .withLeaseTimes fun _ _ => .afterCheck (.commit _)
  all_goals
    split_ifs at taken
    rw [replied taken]
    first
      | exact .withLeaseTimes fun _ _ => .afterCheck (.goOn (.commit _))
      | exact .afterCheck (.goOn (.commit _))
      | exact .afterCheck (.goOn (.refl before))

theorem pageStep_intents (taken : pageStep config env command before = some (after, result)) :
    SameIntents before after := by
  unfold pageStep at taken
  split at taken
  case h_1 | h_4 =>
    rw [replied taken]
    exact .afterCheck (.commit _)
  case h_5 =>
    rw [replied taken]
    exact .commitRefs _
  case h_2 | h_6 =>
    split_ifs at taken
    rw [replied taken]
    exact .afterCheck (.goOn (.commit _))
  case h_3 =>
    split at taken
    · split_ifs at taken <;> rw [replied taken]
      · exact .goOn (.afterCheck (.commit _))
      · exact .endCall _
    · cases taken
  case h_7 =>
    split at taken
    · split_ifs at taken <;> rw [replied taken]
      · exact .goOn (.commit _)
      · exact .goOn (.commitRefs _)
    · cases taken
  case h_8 => cases taken

theorem finishStep_intents (taken : finishStep config env command before = some (after, result)) :
    SameIntents before after := by
  unfold finishStep at taken
  split at taken
  case h_1 =>
    split_ifs at taken
    rw [replied taken]
    exact .afterCheck (.goOn (.commit _))
  case h_5 =>
    split at taken
    · split at taken <;> rw [replied taken]
      · exact .goOn (.afterCheck (.commit _))
      · exact .goOn (.afterCheck (.commit _))
      · exact .goOn (.commit _)
    · cases taken
  case h_7 =>
    rw [replied taken]
    exact .afterCheck (.commit _)
  case h_8 =>
    split_ifs at taken <;> rw [replied taken]
    · exact .refl before
    · exact .afterCheck (.commit _)
  case h_9 => cases taken
  all_goals
    split at taken
    · rw [replied taken]
      exact .goOn (.afterCheck (.commit _))
    · cases taken

theorem dispatchStep_intents (taken : dispatchStep config env command before = some (after, result)) :
    SameIntents before after := by
  unfold dispatchStep at taken
  split at taken
  case h_1 =>
    split_ifs at taken
    rw [replied taken]
    exact .goOn (.afterCheck (.commitRefs _))
  case h_2 =>
    split at taken
    · rw [replied taken]
      unfold acquirePermit
      split_ifs
      · split <;> exact ⟨rfl, rfl⟩
      · exact .setCall _ _
    · cases taken
  case h_3 =>
    split at taken
    · obtain ⟨scheduler, _, woken⟩ := Option.map_eq_some_iff.mp taken
      cases woken
      exact ⟨rfl, rfl⟩
    · cases taken
  case h_4 =>
    split at taken
    · next dispatch _ =>
      rw [replied taken]
      have checked : SameIntents before (attemptRecheck config env dispatch before).1 := .afterCheck (.commitRefs _)
      unfold recheck
      dsimp only
      split
      · exact checked.trans (.setCall _ _)
      · exact .endDispatch checked
    · cases taken
  case h_7 =>
    split at taken
    · rw [replied taken]
      exact .endDispatch (.commitRefs _)
    · cases taken
  case h_8 => cases taken
  all_goals
    split at taken
    · rw [replied taken]
      exact .setCall _ _
    · cases taken

theorem snapshotStep_intents (taken : snapshotStep config env command before = some (after, result)) :
    SameIntents before after := by
  unfold snapshotStep at taken
  split at taken
  case h_1 =>
    rw [replied taken]
    unfold issueFrom
    split
    · exact .commit _
    · split <;> exact ⟨rfl, rfl⟩
  case h_2 =>
    split_ifs at taken
    rw [replied taken]
    exact .afterCheck (.goOn (.commit _))
  case h_3 =>
    split at taken
    · split at taken <;> rw [replied taken]
      · exact .endCall _
      · exact .setCall _ _
    · cases taken
  case h_4 =>
    split at taken
    · rw [replied taken]
      exact .goOn (.commit _)
    · cases taken
  case h_5 =>
    rw [replied taken]
    exact .afterCheck (.commitRefs _)
  case h_6 =>
    rw [replied taken]
    exact .commitRefs _
  case h_7 => cases taken

theorem actionStep_intents (other : command.movesIntents = false)
    (taken : actionStep config env command before = some (after, result)) : SameIntents before after := by
  unfold actionStep at taken
  split at taken
  case h_1 | h_2 => cases other
  case h_3 =>
    split_ifs at taken
    rw [replied taken]
    exact .afterCheck (.goOn (.commit _))
  case h_4 =>
    split at taken
    · rw [replied taken]
      exact .goOn (.commit _)
    · cases taken
  case h_5 => cases taken

theorem hostStep_intents (other : command.movesIntents = false)
    (taken : hostStep config env command before = some (after, result)) : SameIntents before after := by
  unfold hostStep at taken
  split at taken
  case h_1 =>
    split at taken
    case h_4 => cases taken
    all_goals
      rw [replied taken]
      exact .endCall _
  case h_2 =>
    split_ifs at taken
    · rw [replied taken]
      exact .refl before
    · dsimp only at taken
      split at taken <;> (rw [replied taken]; exact ⟨rfl, rfl⟩)
  case h_3 => cases other
  case h_4 => cases taken

theorem step_intents (other : command.movesIntents = false) (taken : step config env command before = some (after, result)) :
    SameIntents before after := by
  unfold step at taken
  split at taken
  all_goals first
    | exact sessionStep_intents taken
    | exact leaseStep_intents taken
    | exact pageStep_intents taken
    | exact finishStep_intents taken
    | exact dispatchStep_intents taken
    | exact actionStep_intents other taken
    | exact snapshotStep_intents taken
    | exact hostStep_intents other taken

end AgentycHost
