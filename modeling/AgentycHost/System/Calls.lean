import AgentycHost.System.Commits

set_option autoImplicit false

/-!
# What one step does to the calls in progress

A step works on the calls of its own kind and leaves those of the others; a
restart ends them all.
-/

namespace AgentycHost

open Shared

inductive CallKind where
  | dispatch
  | fence
  | page
  | finish
  | reconcile
  | capture
  deriving DecidableEq

@[simp] def Call.kind : Call -> CallKind
  | .dispatch _ _ => .dispatch
  | .fence _ | .fenced _ _ => .fence
  | .managedPage _ _ | .closePage _ _ _ => .page
  | .finish _ _ => .finish
  | .reconcile _ _ => .reconcile
  | .capture _ _ _ | .captured _ _ _ _ => .capture

@[simp] def Command.kinds : Command -> List CallKind
  | .takeover _ _ _ _ _ _ | .takeoverWithControlTicket _ _ _ _ _ _ | .returnControl _ _
  | .acknowledgeReturnControl _ _ _ _ | .acknowledgeFence _ _ _ _ _ | .fenceAnswered _ _
  | .setFencedSpaceLifecycle _ => [.fence]
  | .createManagedPage _ _ _ | .bindManagedPage _ _ | .closePage _ _ _ | .closeAnswered _ _ => [.page]
  | .finishSpace _ _ _ | .finishMissing _ | .claimFinish _ | .authorizeCleanup _ | .cleanupAnswered _ _
  | .completeFinish _ => [.finish]
  | .dispatchAction _ _ _ _ _ | .acquirePermit _ | .wakeUp _ | .recheckDispatch _ | .sendDispatch _
  | .dispatchAnswered _ _ _ | .finishDispatch _ => [.dispatch]
  | .reconcileAction _ _ _ _ _ | .reconcileAnswered _ _ => [.reconcile]
  | .readSnapshot _ _ _ | .captureSnapshot _ _ | .commitSnapshot _ => [.capture]
  | .abandon _ => [.page, .capture, .finish]
  | .restart _ => [.dispatch, .fence, .page, .finish, .reconcile, .capture]
  | _ => []

structure Untouched (kind : CallKind) (before after : System) : Prop where
  calls : ∀ key call, call.kind = kind ->
    (after.calls.get? key = some call <-> before.calls.get? key = some call)
  scheduler : kind = .dispatch -> after.scheduler = before.scheduler

variable {config : HostConfig} {env : Environment} {command : Command} {before after : System} {kind : CallKind}
  {result : Except HostError Unit}

section Replies

variable {A : Type} {key : Nat} {reply : Reply A} {next : A -> Except HostError (Option Call)}

theorem Untouched.refl (system : System) : Untouched kind system system := ⟨fun _ _ _ => .rfl, fun _ => rfl⟩

theorem Untouched.of_same (calls : after.calls = before.calls) (scheduler : after.scheduler = before.scheduler) :
    Untouched kind before after :=
  ⟨fun _ _ _ => by rw [calls], fun _ => scheduler⟩

theorem Untouched.trans {middle : System} (first : Untouched kind before middle) (second : Untouched kind middle after) :
    Untouched kind before after :=
  ⟨fun key call same => (second.calls key call same).trans (first.calls key call same),
    fun same => (second.scheduler same).trans (first.scheduler same)⟩

theorem Untouched.setCall {next : Call} (old : ∀ call, before.calls.get? key = some call -> call.kind ≠ kind)
    (new : next.kind ≠ kind) :
    Untouched kind before (before.setCall key next) := by
  refine ⟨fun other call same => ?_, fun _ => rfl⟩
  rw [System.setCall, Table.get?_insert]
  split_ifs with at_key
  · subst at_key
    constructor
    · rintro ⟨⟩
      exact absurd same new
    · intro found
      exact absurd same (old call found)
  · exact .rfl

theorem Untouched.endCall (old : ∀ call, before.calls.get? key = some call -> call.kind ≠ kind) :
    Untouched kind before (before.endCall key) := by
  refine ⟨fun other call same => ?_, fun _ => rfl⟩
  rw [System.endCall, Table.get?_erase]
  split_ifs with at_key
  · subst at_key
    exact ⟨by simp, fun found => absurd same (old call found)⟩
  · exact .rfl

theorem Untouched.afterCheck {check : Except HostError Unit} (next : Untouched kind before reply.1) :
    Untouched kind before (before.afterCheck check reply).1 := by
  unfold System.afterCheck
  split
  · exact .refl before
  · exact next

theorem Untouched.withLeaseTimes {now ttl : Nat} {next : Timestamp -> Timestamp -> Reply Unit}
    (then_ : ∀ expiresAt renewBy, Untouched kind before (next expiresAt renewBy).1) :
    Untouched kind before (withLeaseTimes before now ttl next).1 := by
  unfold AgentycHost.withLeaseTimes
  split
  · exact .refl before
  · exact then_ _ _

theorem Untouched.goOn (earlier : Untouched kind before reply.1)
    (old : ∀ call, before.calls.get? key = some call -> call.kind ≠ kind)
    (new : ∀ value call, next value = .ok (some call) -> call.kind ≠ kind) :
    Untouched kind before (System.goOn key next reply).1 := by
  have still : ∀ call, reply.1.calls.get? key = some call -> call.kind ≠ kind :=
    fun call found same => old call ((earlier.calls key call same).mp found) same
  refine earlier.trans ?_
  unfold System.goOn
  split
  · exact .endCall still
  · next call continued =>
    obtain ⟨value, _, made⟩ := bind_ok.mp continued
    exact .setCall still (new value call made)
  · exact .endCall still

theorem goOn_calls {other : Nat} {call : Call} (found : (System.goOn key next reply).1.calls.get? other = some call) :
    other ≠ key ∧ reply.1.calls.get? other = some call ∨
      other = key ∧ ∃ value, reply.2 = .ok value ∧ next value = .ok (some call) := by
  by_cases same : other = key
  · refine .inr ⟨same, ?_⟩
    unfold System.goOn at found
    split at found
    · simp [System.endCall, Table.get?_erase, same] at found
    · next continuation continued =>
      obtain ⟨value, committed, made⟩ := bind_ok.mp continued
      rw [System.setCall, same, Table.get?_insert_self, Option.some.injEq] at found
      exact ⟨value, committed, found ▸ made⟩
    · simp [System.endCall, Table.get?_erase, same] at found
  · refine .inl ⟨same, ?_⟩
    unfold System.goOn at found
    split at found
    · simpa [System.endCall, Table.get?_erase, same] using found
    · simpa [System.setCall, Table.get?_insert, same] using found
    · simpa [System.endCall, Table.get?_erase, same] using found

theorem goOn_ok {last : System} (done : System.goOn key next reply = (last, .ok ())) :
    ∃ value, reply.2 = .ok value ∧ last.ledger = reply.1.ledger := by
  unfold System.goOn at done
  split at done
  · cases done
  · next continued =>
    obtain ⟨value, committed, _⟩ := bind_ok.mp continued
    cases done
    exact ⟨value, committed, rfl⟩
  · next ended =>
    obtain ⟨value, committed, _⟩ := bind_ok.mp ended
    cases done
    exact ⟨value, committed, rfl⟩

theorem unused (absent : before.calls.contains key ≠ true) (call : Call) (found : before.calls.get? key = some call) :
    call.kind ≠ kind :=
  absurd (Table.contains_iff _ _ |>.mpr ⟨call, found⟩) absent

theorem occupied {present : Call} (found : before.calls.get? key = some present) (other : present.kind ≠ kind)
    (call : Call) (again : before.calls.get? key = some call) : call.kind ≠ kind := by
  cases found.symm.trans again
  exact other

end Replies

section Steps

variable {call : Call} {fence : FenceCall}

theorem sessionStep_untouched (taken : sessionStep config env command before = some (after, result)) :
    Untouched kind before after := by
  unfold sessionStep at taken
  split at taken
  case h_1 =>
    rw [replied taken]
    unfold connect
    dsimp only
    split
    · exact .of_same rfl rfl
    · split_ifs <;> exact .of_same rfl rfl
  case h_3 =>
    split_ifs at taken <;> (rw [replied taken]; exact .of_same rfl rfl)
  case h_4 =>
    split_ifs at taken <;> (rw [replied taken]; exact .of_same rfl rfl)
  case h_10 => cases taken
  all_goals
    rw [replied taken]
    first
      | exact .of_same rfl rfl
      | exact .afterCheck (.of_same rfl rfl)

theorem fenceCall_kind {authority : AuthorityTicket} {purpose : FencePurpose} {retried : Bool}
    {afterwards : Option (Timestamp × Suspension)} {request : FenceRequest}
    (made : fenceCall authority purpose retried afterwards request = .ok (some call)) : call.kind = .fence := by
  cases made
  rfl

theorem FenceCall.resume_kind {lifecycle : SpaceLifecycle} (made : fence.resume lifecycle = .ok (some call)) :
    call.kind = .fence := by
  unfold FenceCall.resume at made
  split at made
  · cases made
  · split_ifs at made
    cases made
    rfl

theorem FenceCall.warned_kind {answer : FenceAnswer} (made : fence.warned answer = .ok (some call)) : False := by
  unfold FenceCall.warned at made
  split at made
  · split_ifs at made
    cases made
  · cases made

theorem leaseStep_untouched (other : kind ∉ command.kinds)
    (taken : leaseStep config env command before = some (after, result)) : Untouched kind before after := by
  unfold leaseStep at taken
  split at taken
  · rw [replied taken]
    exact .withLeaseTimes fun _ _ => .afterCheck (.of_same rfl rfl)
  · rw [replied taken]
    exact .withLeaseTimes fun _ _ => .afterCheck (.of_same rfl rfl)
  case h_10 => cases taken
  all_goals have foreign : CallKind.fence ≠ kind := by simpa [Command.kinds, eq_comm] using other
  · split_ifs at taken with absent
    rw [replied taken]
    refine .withLeaseTimes fun _ _ => .afterCheck (.goOn (.of_same rfl rfl) (unused absent) fun _ _ made => ?_)
    exact fenceCall_kind made ▸ foreign
  · split_ifs at taken with absent
    rw [replied taken]
    refine .withLeaseTimes fun _ _ => .afterCheck (.goOn (.of_same rfl rfl) (unused absent) fun _ _ made => ?_)
    exact fenceCall_kind made ▸ foreign
  · split_ifs at taken with absent
    rw [replied taken]
    refine .afterCheck (.goOn (.of_same rfl rfl) (unused absent) fun _ _ made => ?_)
    exact fenceCall_kind made ▸ foreign
  · split_ifs at taken with absent
    rw [replied taken]
    refine .afterCheck (.goOn (.of_same rfl rfl) (unused absent) fun _ _ made => ?_)
    exact fenceCall_kind made ▸ foreign
  · split_ifs at taken with absent
    split at taken
    · rw [replied taken]
      refine .afterCheck (.goOn (.of_same rfl rfl) (unused absent) fun _ _ made => ?_)
      exact fenceCall_kind made ▸ foreign
    · rw [replied taken]
      refine .withLeaseTimes fun _ _ => .afterCheck (.goOn (.of_same rfl rfl) (unused absent) fun _ _ made => ?_)
      exact fenceCall_kind made ▸ foreign
  · split at taken
    next found =>
      split at taken
      · rw [replied taken]
        refine .goOn (.of_same rfl rfl) (occupied found foreign) fun _ _ made => ?_
        exact FenceCall.resume_kind made ▸ foreign
      · rw [replied taken]
        exact .goOn (.of_same rfl rfl) (occupied found foreign) fun _ _ impossible => by cases impossible
      · rw [replied taken]
        exact .goOn (.of_same rfl rfl) (occupied found foreign) fun _ _ made => (FenceCall.warned_kind made).elim
      · rw [replied taken]
        exact .endCall (occupied found foreign)
    · cases taken
  · split at taken
    next found =>
      rw [replied taken]
      exact .goOn (.of_same rfl rfl) (occupied found foreign) fun _ _ impossible => by cases impossible
    · cases taken

theorem pageStep_untouched (other : kind ∉ command.kinds)
    (taken : pageStep config env command before = some (after, result)) : Untouched kind before after := by
  unfold pageStep at taken
  split at taken
  case h_1 | h_4 =>
    rw [replied taken]
    exact .afterCheck (.of_same rfl rfl)
  case h_5 =>
    rw [replied taken]
    exact .of_same rfl rfl
  case h_8 => cases taken
  all_goals have foreign : CallKind.page ≠ kind := by simpa [Command.kinds, eq_comm] using other
  · split_ifs at taken with absent
    rw [replied taken]
    refine .afterCheck (.goOn (.of_same rfl rfl) (unused absent) fun _ _ made => ?_)
    cases made
    exact foreign
  · split at taken
    next found =>
      split_ifs at taken
      · rw [replied taken]
        exact .goOn (.afterCheck (.of_same rfl rfl)) (occupied found foreign) fun _ _ impossible => by cases impossible
      · rw [replied taken]
        exact .endCall (occupied found foreign)
    · cases taken
  · split_ifs at taken with absent
    rw [replied taken]
    refine .afterCheck (.goOn (.of_same rfl rfl) (unused absent) fun _ _ made => ?_)
    cases made
    exact foreign
  · split at taken
    next found =>
      split_ifs at taken
      · rw [replied taken]
        exact .goOn (.of_same rfl rfl) (occupied found foreign) fun _ _ impossible => by cases impossible
      · rw [replied taken]
        exact .goOn (.of_same rfl rfl) (occupied found foreign) fun _ _ impossible => by cases impossible
    · cases taken

theorem finishStep_untouched (other : kind ∉ command.kinds)
    (taken : finishStep config env command before = some (after, result)) : Untouched kind before after := by
  unfold finishStep at taken
  split at taken
  case h_7 =>
    rw [replied taken]
    exact .afterCheck (.of_same rfl rfl)
  case h_8 =>
    split_ifs at taken <;> rw [replied taken]
    · exact .refl before
    · exact .afterCheck (.of_same rfl rfl)
  case h_9 => cases taken
  all_goals have foreign : CallKind.finish ≠ kind := by simpa [Command.kinds, eq_comm] using other
  · split_ifs at taken with absent
    rw [replied taken]
    refine .afterCheck (.goOn (.of_same rfl rfl) (unused absent) fun _ _ made => ?_)
    cases made
    exact foreign
  · split at taken
    next found =>
      rw [replied taken]
      refine .goOn (.afterCheck (.of_same rfl rfl)) (occupied found foreign) fun _ _ made => ?_
      cases made
      exact foreign
    · cases taken
  · split at taken
    next found =>
      rw [replied taken]
      refine .goOn (.afterCheck (.of_same rfl rfl)) (occupied found foreign) fun _ _ made => ?_
      cases made
      exact foreign
    · cases taken
  · split at taken
    next found =>
      rw [replied taken]
      refine .goOn (.afterCheck (.of_same rfl rfl)) (occupied found foreign) fun _ _ made => ?_
      cases made
      exact foreign
    · cases taken
  · split at taken
    next found =>
      split at taken
      case h_3 =>
        rw [replied taken]
        exact .goOn (.of_same rfl rfl) (occupied found foreign) fun _ _ impossible => by cases impossible
      all_goals
        rw [replied taken]
        refine .goOn (.afterCheck (.of_same rfl rfl)) (occupied found foreign) fun _ _ made => ?_
        cases made
        exact foreign
    · cases taken
  · split at taken
    next found =>
      rw [replied taken]
      exact .goOn (.afterCheck (.of_same rfl rfl)) (occupied found foreign) fun _ _ impossible => by cases impossible
    · cases taken

theorem actionStep_untouched (other : kind ∉ command.kinds)
    (taken : actionStep config env command before = some (after, result)) : Untouched kind before after := by
  unfold actionStep at taken
  split at taken
  · rw [replied taken]
    unfold confirmIntent
    split
    · exact .refl before
    · dsimp only
      split <;> exact .of_same rfl rfl
  · rw [replied taken]
    refine .afterCheck ?_
    unfold enqueue
    dsimp only
    split <;> exact .of_same rfl rfl
  case h_5 => cases taken
  all_goals have foreign : CallKind.reconcile ≠ kind := by simpa [Command.kinds, eq_comm] using other
  · split_ifs at taken with absent
    rw [replied taken]
    refine .afterCheck (.goOn (.of_same rfl rfl) (unused absent) fun _ _ made => ?_)
    cases made
    exact foreign
  · split at taken
    next found =>
      rw [replied taken]
      exact .goOn (.of_same rfl rfl) (occupied found foreign) fun _ _ impossible => by cases impossible
    · cases taken

theorem snapshotStep_untouched (other : kind ∉ command.kinds)
    (taken : snapshotStep config env command before = some (after, result)) : Untouched kind before after := by
  unfold snapshotStep at taken
  split at taken
  case h_1 =>
    rw [replied taken]
    unfold issueFrom
    split
    · exact .of_same rfl rfl
    · split <;> exact .of_same rfl rfl
  case h_5 =>
    rw [replied taken]
    exact .afterCheck (.of_same rfl rfl)
  case h_6 =>
    rw [replied taken]
    exact .of_same rfl rfl
  case h_7 => cases taken
  all_goals have foreign : CallKind.capture ≠ kind := by simpa [Command.kinds, eq_comm] using other
  · split_ifs at taken with absent
    rw [replied taken]
    refine .afterCheck (.goOn (.of_same rfl rfl) (unused absent) fun _ _ made => ?_)
    cases made
    exact foreign
  · split at taken
    next found =>
      split at taken <;> rw [replied taken]
      · exact .endCall (occupied found foreign)
      · exact .setCall (occupied found foreign) foreign
    · cases taken
  · split at taken
    next found =>
      rw [replied taken]
      exact .goOn (.of_same rfl rfl) (occupied found foreign) fun _ _ impossible => by cases impossible
    · cases taken

theorem hostStep_untouched (other : kind ∉ command.kinds)
    (taken : hostStep config env command before = some (after, result)) : Untouched kind before after := by
  unfold hostStep at taken
  split at taken
  · simp only [Command.kinds, List.mem_cons, List.not_mem_nil, or_false, not_or] at other
    obtain ⟨page, capture, finish⟩ := other
    split at taken
    case h_4 => cases taken
    all_goals
      next found =>
        rw [replied taken]
        refine .endCall (occupied found fun same => ?_)
        first | exact page same.symm | exact capture same.symm | exact finish same.symm
  · split_ifs at taken
    · rw [replied taken]
      exact .refl before
    · dsimp only at taken
      split at taken <;> (rw [replied taken]; exact .of_same rfl rfl)
  · cases kind <;> simp [Command.kinds] at other
  · cases taken

end Steps

end AgentycHost
