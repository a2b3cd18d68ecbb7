import AgentycHost.Broker.Views
import AgentycHost.System.Runs

set_option autoImplicit false

/-! # What the ledger view of a principal tells about hidden spaces -/

namespace AgentycHost

open Shared

variable {state other : LedgerState} {principalId : PrincipalId} {record : LedgerRecord}

/-- The view keeps no record of a space that the principal does not see. -/
def Confidential (state : LedgerState) (principalId : PrincipalId) : Prop :=
  ∀ record, (visibleState state principalId).Holds record -> Not (state.Hides principalId record)

/-- The two states differ only in records of spaces that the principal sees in neither. -/
structure AgreeOnShown (principalId : PrincipalId) (state other : LedgerState) : Prop where
  header : state.SameHeader other
  records : ∀ record, Not (state.Hides principalId record ∧ other.Hides principalId record) ->
    (state.Holds record <-> other.Holds record)
  events : state.events.filter (fun event => event.scope.spaceId.all (isVisibleSpace state principalId)) =
    other.events.filter (fun event => event.scope.spaceId.all (isVisibleSpace other principalId))

/-- What the filter does not drop for its space: three tables that it leaves alone, and a request
that is stored under the id of an action of a visible space. -/
def Unreached (state : LedgerState) (principalId : PrincipalId) : LedgerRecord -> Prop
  | .pendingFence .. | .takeoverProofs .. | .leaseHolder .. => True
  | .request actionId _ => state.showsAction principalId actionId = true
  | _ => False

theorem passes_of_hidden (hidden : state.Hides principalId record) :
    state.Passes principalId record <-> Unreached state principalId record := by
  obtain ⟨spaceId, owned, unseen⟩ := hidden
  cases record with
  | idempotency key actionId =>
    obtain ⟨receipt, found, rfl⟩ := Option.map_eq_some_iff.mp owned
    simp [LedgerState.Passes, Unreached, LedgerState.showsAction, found, unseen]
  | connection => cases owned
  | event event =>
    replace owned : event.scope.spaceId = some spaceId := owned
    simp [LedgerState.Passes, Unreached, owned, unseen]
  | _ =>
    cases Option.some.inj owned
    simp [LedgerState.Passes, Unreached, unseen]

theorem confidential_iff : Confidential state principalId <->
    ∀ record, Unreached state principalId record -> state.Hides principalId record ->
      Not (state.Holds record) := by
  constructor
  · intro confidential record unreached hidden held
    refine confidential record ?_ hidden
    exact (holds_visibleState record).mpr ⟨held, (passes_of_hidden hidden).mpr unreached⟩
  · intro kept record shown hidden
    obtain ⟨held, passes⟩ := (holds_visibleState record).mp shown
    exact kept record ((passes_of_hidden hidden).mp passes) hidden held

section Agreement

variable (agree : AgreeOnShown principalId state other)

include agree

theorem AgreeOnShown.visible (spaceId : SpaceId) :
    isVisibleSpace state principalId spaceId = isVisibleSpace other principalId spaceId := by
  have same (space : SpaceDescriptor) (seen : isVisibleSpace state principalId spaceId = true ∨
      isVisibleSpace other principalId spaceId = true) :
      state.spaces.get? spaceId = some space <-> other.spaces.get? spaceId = some space := by
    apply agree.records (.space spaceId space)
    rintro ⟨⟨_, owned, unseen⟩, ⟨_, owned', unseen'⟩⟩
    cases Option.some.inj owned
    cases Option.some.inj owned'
    simp [unseen, unseen'] at seen
  rw [Bool.eq_iff_iff]
  constructor
  · intro seen
    obtain ⟨space, found, shown⟩ := (isVisibleSpace_iff spaceId).mp seen
    exact (isVisibleSpace_iff spaceId).mpr ⟨space, (same space (.inl seen)).mp found, shown⟩
  · intro seen
    obtain ⟨space, found, shown⟩ := (isVisibleSpace_iff spaceId).mp seen
    exact (isVisibleSpace_iff spaceId).mpr ⟨space, (same space (.inr seen)).mpr found, shown⟩

theorem AgreeOnShown.shows (actionId : ActionId) :
    state.showsAction principalId actionId = other.showsAction principalId actionId := by
  have same (receipt : ActionReceipt) (seen : isVisibleSpace state principalId receipt.spaceId = true) :
      state.actions.get? actionId = some receipt <-> other.actions.get? actionId = some receipt := by
    apply agree.records (.action actionId receipt)
    rintro ⟨⟨_, owned, unseen⟩, _⟩
    cases Option.some.inj owned
    simp [unseen] at seen
  rw [Bool.eq_iff_iff, showsAction_iff, showsAction_iff]
  constructor
  · rintro ⟨receipt, found, seen⟩
    exact ⟨receipt, (same receipt seen).mp found, agree.visible receipt.spaceId ▸ seen⟩
  · rintro ⟨receipt, found, seen⟩
    rw [← agree.visible receipt.spaceId] at seen
    exact ⟨receipt, (same receipt seen).mpr found, seen⟩

theorem AgreeOnShown.passes : state.Passes principalId record <-> other.Passes principalId record := by
  have visible : isVisibleSpace state principalId = isVisibleSpace other principalId := funext agree.visible
  cases record <;> simp [LedgerState.Passes, visible, agree.shows]

theorem AgreeOnShown.same_header : (visibleState state principalId).SameHeader (visibleState other principalId) := by
  simpa [LedgerState.SameHeader, visibleState] using agree.header

theorem AgreeOnShown.same_views :
    (visibleState state principalId).Same (visibleState other principalId) <->
      ∀ record, Unreached state principalId record -> state.Hides principalId record ->
        (state.Holds record <-> other.Holds record) := by
  constructor
  · rintro ⟨_, records, _⟩ record unreached hidden
    have passes := (passes_of_hidden hidden).mpr unreached
    have views := records record
    rw [holds_visibleState, holds_visibleState, ← agree.passes] at views
    simpa [passes] using views
  · intro kept
    refine ⟨agree.same_header, ?_, agree.events⟩
    intro record
    rw [holds_visibleState, holds_visibleState, ← agree.passes]
    apply and_congr_left
    intro passes
    -- a record that passes is either seen in the first state or not reached by the filter
    by_cases hidden : state.Hides principalId record
    · exact kept record ((passes_of_hidden hidden).mp passes) hidden
    · exact agree.records record fun both => hidden both.1

end Agreement

/-- A view is confidential, and the same for states that agree on what the principal sees, exactly
as far as the filter reaches the records of hidden spaces. -/
theorem visible_state_confidential (state : LedgerState) (principalId : PrincipalId) :
    (Confidential state principalId <-> ∀ record, Unreached state principalId record ->
      state.Hides principalId record -> Not (state.Holds record)) ∧
    ∀ other, AgreeOnShown principalId state other ->
      ((visibleState state principalId).Same (visibleState other principalId) <->
        ∀ record, Unreached state principalId record -> state.Hides principalId record ->
          (state.Holds record <-> other.Holds record)) :=
  ⟨confidential_iff, fun _ agree => agree.same_views⟩

def strangerPrincipal : PrincipalId := ⟨"stranger", by decide⟩

/-- A stranger's view of a broker with one leased space names the holder of its lease. -/
theorem visible_state_shows_lease_holder :
    ∃ last, Reachable sampleConfig last ∧ Not (Confidential last.ledger.state strangerPrincipal) := by
  obtain ⟨last, _, _, run, _, passed⟩ := HostRun.of_advances sampleConfig (.fresh sampleConfig) sampleStart []
    (fun last _ _ => decide (last.ledger.state.leaseHolders.get? ⟨1⟩ = some 1) &&
      !isVisibleSpace last.ledger.state strangerPrincipal ⟨1⟩) (by decide)
  simp only [Bool.and_eq_true, decide_eq_true_eq, Bool.not_eq_true'] at passed
  refine ⟨last, ⟨_, _, sample_initial, run⟩, fun confidential => ?_⟩
  exact confidential (.leaseHolder ⟨1⟩ 1) ((holds_visibleState _).mpr ⟨passed.1, trivial⟩)
    ⟨_, rfl, passed.2⟩

end AgentycHost
