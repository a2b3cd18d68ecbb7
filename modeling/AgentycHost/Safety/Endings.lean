import AgentycHost.Effects.Finishing
import AgentycHost.Safety.PageLives

set_option autoImplicit false

/-! # What a finished or released space has left -/

namespace AgentycHost

open Shared

def SpaceLifecycle.isEnded : SpaceLifecycle -> Bool
  | .finished | .released => true
  | _ => false

def PageLifecycle.awaitsCleanup : PageLifecycle -> Bool
  | .managed | .closing => true
  | _ => false

def EndedClosed (state : LedgerState) : Prop :=
  ∀ spaceId standing pageId page, state.standing spaceId = some standing -> standing.lifecycle.isEnded = true ->
    state.page spaceId pageId = some page -> page.lifecycle.awaitsCleanup = false

variable {config : LedgerConfig} {calls : Table Nat Call} {command : Command} {before middle after : LedgerState}
  {spaceId : SpaceId} {pageId : PageId}

theorem StandingMove.ended {queue : List ActionId} {old : Option Standing} {new : Standing}
    (move : StandingMove calls command before queue spaceId old (some new)) (ended : new.lifecycle.isEnded = true) :
    (∃ prior, old = some prior ∧ prior.lifecycle.isEnded = true) ∨ ∃ call, command = .completeFinish call := by
  generalize last : some new = next at move
  cases move with
  | keep => exact .inl ⟨new, last.symm, ended⟩
  | finished made_by => exact .inr ⟨_, made_by⟩
  | released finished => exact .inl ⟨_, rfl, by rw [finished]; rfl⟩
  | renewed _ open_ =>
    cases last
    obtain owned | pending := open_
    · simp [owned, SpaceLifecycle.isEnded] at ended
    · simp [pending, SpaceLifecycle.isEnded] at ended
  | suspended _ _ kind =>
    cases last
    obtain rfl | rfl := kind <;> cases ended
  | _ =>
    cases last
    try cases ended

theorem PageMove.awaits {old : Option PageDescriptor} {new : PageDescriptor}
    (move : PageMove calls command spaceId pageId old (some new)) (awaits : new.lifecycle.awaitsCleanup = true) :
    (∃ prior, old = some prior ∧ prior.lifecycle.awaitsCleanup = true) ∨
      (∃ target, BindsPage calls command spaceId pageId target) ∨
      ∃ call fence answer, command = .fenceAnswered call answer ∧ calls.get? call = some (.fence fence) ∧
        fence.request.spaceId = spaceId := by
  generalize last : some new = next at move
  cases move with
  | keep => exact .inl ⟨new, last.symm, awaits⟩
  | raised raised =>
    cases last
    exact .inl ⟨_, rfl, raised.lifecycle ▸ awaits⟩
  | bound made_by => exact .inr (.inl ⟨_, made_by⟩)
  | closing _ open_ =>
    refine .inl ⟨_, rfl, ?_⟩
    obtain managed | closing := open_
    · rw [managed]
      rfl
    · rw [closing]
      rfl
  | reclaimed made_by call_at inside => exact .inr (.inr ⟨_, _, _, made_by, call_at, inside⟩)
  | lost _ _ lost | rebinding _ _ lost | closed _ _ _ lost =>
    cases last
    rw [lost] at awaits
    cases awaits
  | _ =>
    cases last
    try cases awaits

theorem LedgerStep.keepsEnded (valid : Valid config before) (closed : EndedClosed before)
    (taken : LedgerStep config calls command before after)
    (finishes : ∀ call, command ≠ .completeFinish call)
    (binds : ∀ spaceId pageId target standing, BindsPage calls command spaceId pageId target ->
      after.standing spaceId = some standing -> standing.lifecycle.isEnded = false)
    (fences : ∀ call fence answer standing, command = .fenceAnswered call answer ->
      calls.get? call = some (.fence fence) -> after.standing fence.request.spaceId = some standing ->
      standing.lifecycle.isEnded = false) : EndedClosed after := by
  intro spaceId standing pageId page located ended found
  by_contra open_
  replace open_ : page.lifecycle.awaitsCleanup = true := by simpa using open_
  have moved := (taken.spaceEffect valid).standing spaceId
  rw [located] at moved
  obtain ⟨prior, earlier, already⟩ | ⟨call, made_by⟩ := moved.ended ended
  · have paged := (taken.pageEffect valid).move spaceId pageId
    rw [found] at paged
    obtain ⟨old, present, awaited⟩ | ⟨target, bound⟩ | ⟨call, fence, answer, made_by, call_at, rfl⟩ :=
      paged.awaits open_
    · rw [closed spaceId prior pageId old earlier already present] at awaited
      cases awaited
    · rw [binds _ _ _ _ bound located] at ended
      cases ended
    · rw [fences _ _ _ _ made_by call_at located] at ended
      cases ended
  · exact finishes call made_by

section Steps

variable {authority : AuthorityTicket} {leaseEpoch : LeaseEpoch} {now : Timestamp} {request : FenceRequest}
  {target : BoundTarget}

theorem Committable.standing_lifecycle {A : Type} {transition : Transition A}
    (made : Committable config transition before after) (holds : SpaceLifecycle -> Prop)
    (run : ∀ value next, transition before = .ok (value, next) -> ∀ standing,
      next.standing spaceId = some standing -> holds standing.lifecycle)
    (standing : Standing) (located : after.standing spaceId = some standing) : holds standing.lifecycle := by
  obtain ⟨value, next, moved, rfl, _⟩ := made
  rw [(SameStanding.of_events (drainEvents_same config.limits next)).standing] at located
  exact run value next moved standing located

theorem standing_changeSpace (change : SpaceDescriptor -> SpaceDescriptor) {standing : Standing}
    (located : (before.changeSpace spaceId change).standing spaceId = some standing) :
    ∃ space, standing.lifecycle = (change space).lifecycle := by
  rw [LedgerState.standing, LedgerState.changeSpace, Table.get?_modify_self] at located
  simp only [Option.map_map, Option.map_eq_some_iff, Function.comp_apply] at located
  obtain ⟨space, _, rfl⟩ := located
  exact ⟨space, rfl⟩

theorem finishFence_open {acknowledged : Bool} {error : Option String} {lifecycle : SpaceLifecycle}
    (run : finishFence request authority acknowledged error before = .ok (lifecycle, after)) (standing : Standing)
    (located : after.standing request.spaceId = some standing) : standing.lifecycle.isEnded = false := by
  obtain ⟨_, _, _, _, ⟨_, _, same⟩ | same⟩ := finishFence_ok run
  · rw [(SameStanding.of_events same).standing] at located
    obtain ⟨_, owned⟩ := standing_changeSpace reclaimedSpace located
    rw [owned]
    rfl
  · rw [(SameStanding.of_events same).standing] at located
    obtain ⟨_, pending⟩ := standing_changeSpace (stillFencedSpace error) located
    rw [pending]
    cases error <;> rfl

theorem finishUserReturn_open {releasedEpoch : LeaseEpoch} {ticket : ControlTicket}
    (run : finishUserReturn request releasedEpoch authority before = .ok (ticket, after)) (standing : Standing)
    (located : after.standing request.spaceId = some standing) : standing.lifecycle.isEnded = false := by
  obtain ⟨_, _, _, _, _, _, same⟩ := finishUserReturn_ok run
  rw [(SameStanding.of_events same).standing, LedgerState.standing] at located
  simp only [LedgerState.changeSpace, Table.get?_modify_self, Option.map_map, Option.map_eq_some_iff,
    Function.comp_apply] at located
  obtain ⟨_, _, rfl⟩ := located
  rfl

theorem bindPage_open {page : PageDescriptor}
    (run : bindPage spaceId pageId authority leaseEpoch now target before = .ok (page, after)) (standing : Standing)
    (located : after.standing spaceId = some standing) : standing.lifecycle.isEnded = false := by
  have same := SameStanding.of_work (bindPage_work run)
  simp only [bindPage, bind_ok] at run
  obtain ⟨_, allowed, _⟩ := run
  obtain ⟨space, lease, authorized⟩ := authorizeSpace_ok.mp allowed
  rw [same.standing, standing_some authorized.found, Option.some.injEq] at located
  subst located
  simp [SpaceDescriptor.standing, authorized.admits rfl, SpaceLifecycle.isEnded]

theorem completeFinish_closed {retention : RetentionPolicy} {final : SpaceLifecycle} (valid : Valid config before)
    (closed : EndedClosed before)
    (run : completeFinish spaceId authority leaseEpoch now retention before = .ok (final, after)) :
    EndedClosed after := by
  obtain ⟨_, _, same⟩ := completeFinish_ok run
  simp only [completeFinish, bind_ok, findSpace_ok, require_ok, Bool.not_eq_true'] at run
  obtain ⟨_, _, space, located, _, cleaned, _⟩ := run
  intro other standing pageId page stands ended found
  rw [(SameStanding.of_events same).standing] at stands
  rw [LedgerState.page, same.spaces] at found
  by_cases here : other = spaceId
  · subst here
    have listed : space.page pageId = some page := by
      change ((before.spaces.modify other (finishedSpace final)).get? other).bind _ = _ at found
      rw [Table.get?_modify_self, located] at found
      exact found
    -- a managed page admits mutations, so the check covers it as well
    have done : page.lifecycle ≠ .closing ∧ page.admitsAgentMutations = false := by
      simpa [unfinishedPages] using List.any_eq_false.mp cleaned page (List.mem_of_find?_eq_some listed)
    have present : before.page other pageId = some page := by rw [LedgerState.page, located, Option.bind_some, listed]
    cases lifecycle : page.lifecycle with
    | managed => simp [valid.managed_admits present lifecycle] at done
    | closing => exact absurd lifecycle done.1
    | _ => rfl
  · refine closed other standing pageId page ?_ ended ?_
    · rw [← stands, LedgerState.standing, LedgerState.standing]
      change _ = ((before.spaces.modify spaceId (finishedSpace final)).get? other).map _
      rw [Table.get?_modify_ne _ _ _ _ here]
      rfl
    · change ((before.spaces.modify spaceId (finishedSpace final)).get? other).bind _ = _ at found
      rw [Table.get?_modify_ne _ _ _ _ here] at found
      exact found

theorem BindsPage.space_unique {other : SpaceId} {otherPage : PageId} {otherTarget : BoundTarget}
    (one : BindsPage calls command spaceId pageId target) (two : BindsPage calls command other otherPage otherTarget) :
    other = spaceId := by
  cases one with
  | observed made_by call_at inside =>
    cases two with
    | observed made_by' call_at' inside' =>
      cases made_by.symm.trans made_by'
      cases call_at.symm.trans call_at'
      exact inside'.symm.trans inside
    | blind made_by' => cases made_by.symm.trans made_by'
  | blind made_by inside =>
    cases two with
    | observed made_by' => cases made_by.symm.trans made_by'
    | blind made_by' inside' =>
      cases made_by.symm.trans made_by'
      exact inside'.symm.trans inside

end Steps

section Runs

def Command.movesEnds : Command -> Bool
  | .fenceAnswered .. | .bindManagedPage .. | .bindPage .. | .completeFinish .. => true
  | _ => false

theorem LedgerStep.endedClosed_plain (valid : Valid config before) (closed : EndedClosed before)
    (taken : LedgerStep config calls command before after) (plain : command.movesEnds = false) : EndedClosed after := by
  refine taken.keepsEnded valid closed ?_ ?_ ?_
  · rintro call rfl
    cases plain
  · rintro _ _ _ _ (⟨rfl⟩ | ⟨rfl⟩)
    all_goals cases plain
  · rintro _ _ _ _ rfl
    cases plain

theorem EndedClosed.quiet (closed : EndedClosed before) (valid : Valid config before)
    (taken : LedgerStep config ∅ (.shutdown 0) before after) : EndedClosed after :=
  taken.endedClosed_plain valid closed rfl

theorem LedgerStep.endedClosed (valid : Valid config before) (closed : EndedClosed before)
    (taken : LedgerStep config calls command before after) : EndedClosed after := by
  have whole := taken
  cases taken with
  | hello made_by | disconnect made_by =>
    subst made_by
    exact whole.endedClosed_plain valid closed rfl
  | markDegraded made => exact closed.quiet valid (.markDegraded made)
  | markProfileRebindRequired made => exact closed.quiet valid (.markProfileRebindRequired made)
  | createSpace made => exact closed.quiet valid (.createSpace made)
  | publishEvent made => exact closed.quiet valid (.publishEvent made)
  | bridgeEvent made => exact closed.quiet valid (.bridgeEvent made)
  | observePages made => exact closed.quiet valid (.observePages made)
  | renewLease made => exact closed.quiet valid (.renewLease made)
  | takeover made => exact closed.quiet valid (.takeover made)
  | takeoverWithControlTicket made_by =>
    subst made_by
    exact whole.endedClosed_plain valid closed rfl
  | returnControl made => exact closed.quiet valid (.returnControl made)
  | acknowledgeFence made => exact closed.quiet valid (.acknowledgeFence made)
  | recordFenceWarning made => exact closed.quiet valid (.recordFenceWarning made)
  | setFencedSpaceLifecycle made => exact closed.quiet valid (.setFencedSpaceLifecycle made)
  | createPage made => exact closed.quiet valid (.createPage made)
  | beginClosePage made => exact closed.quiet valid (.beginClosePage made)
  | missingCleanupPages made => exact closed.quiet valid (.missingCleanupPages made)
  | claimFinish made => exact closed.quiet valid (.claimFinish made)
  | authorizeCleanup made => exact closed.quiet valid (.authorizeCleanup made)
  | recordCleanupFailure made => exact closed.quiet valid (.recordCleanupFailure made)
  | releaseSpace made => exact closed.quiet valid (.releaseSpace made)
  | enqueueAction made => exact closed.quiet valid (.enqueueAction made)
  | recheckDispatch made => exact closed.quiet valid (.recheckDispatch made)
  | finishDispatch made => exact closed.quiet valid (.finishDispatch made)
  | issuingEnvelope made => exact closed.quiet valid (.issuingEnvelope made)
  | captureGeneration made => exact closed.quiet valid (.captureGeneration made)
  | commitSnapshot made => exact closed.quiet valid (.commitSnapshot made)
  | putSnapshot made => exact closed.quiet valid (.putSnapshot made)
  | markSnapshotDirty made => exact closed.quiet valid (.markSnapshotDirty made)
  | shutdown made => exact closed.quiet valid (.shutdown made)
  | finishFence made_by call_at about answered made =>
    subst about
    refine whole.keepsEnded valid closed ?_ ?_ ?_
    · intro _ other
      cases made_by.symm.trans other
    · rintro _ _ _ _ (⟨other⟩ | ⟨other⟩)
      all_goals cases made_by.symm.trans other
    · intro _ _ _ standing other there located
      cases made_by.symm.trans other
      cases call_at.symm.trans there
      exact made.standing_lifecycle (fun lifecycle => lifecycle.isEnded = false)
        (fun _ _ run => finishFence_open run) standing located
  | finishUserReturn made_by call_at returned about made =>
    subst about
    refine whole.keepsEnded valid closed ?_ ?_ ?_
    · intro _ other
      cases made_by.symm.trans other
    · rintro _ _ _ _ (⟨other⟩ | ⟨other⟩)
      all_goals cases made_by.symm.trans other
    · intro _ _ _ standing other there located
      cases made_by.symm.trans other
      cases call_at.symm.trans there
      exact made.standing_lifecycle (fun lifecycle => lifecycle.isEnded = false)
        (fun _ _ run => finishUserReturn_open run) standing located
  | bindPage made_by made =>
    refine whole.keepsEnded valid closed ?_ ?_ ?_
    · intro _ other
      obtain ⟨known⟩ | ⟨known⟩ := made_by
      all_goals cases known.symm.trans other
    · intro _ _ _ standing bound located
      obtain rfl := made_by.space_unique bound
      exact made.standing_lifecycle (fun lifecycle => lifecycle.isEnded = false)
        (fun _ _ run => bindPage_open run) standing located
    · intro _ _ _ _ other
      obtain ⟨known⟩ | ⟨known⟩ := made_by
      all_goals cases known.symm.trans other
  | completeFinish made_by made =>
    obtain ⟨_, next, moved, rfl, _⟩ := made
    have done := completeFinish_closed valid closed moved
    obtain ⟨_, _, _, same⟩ := drainEvents_same config.limits next
    rw [same]
    exact done
  | acquireLease made_by =>
    subst made_by
    exact whole.endedClosed_plain valid closed rfl
  | markPageLost made_by =>
    refine whole.endedClosed_plain valid closed ?_
    obtain ⟨rfl⟩ | ⟨rfl⟩ := made_by <;> rfl
  | completeClosePage made_by =>
    refine whole.endedClosed_plain valid closed ?_
    obtain ⟨rfl⟩ | ⟨rfl⟩ | ⟨rfl⟩ := made_by <;> rfl
  | finishPageCleanup made_by =>
    refine whole.endedClosed_plain valid closed ?_
    obtain ⟨rfl⟩ | ⟨rfl⟩ | ⟨rfl⟩ := made_by <;> rfl
  | pruneReleasedSpaces made_by =>
    subst made_by
    exact whole.endedClosed_plain valid closed rfl
  | beginDispatch made_by =>
    subst made_by
    exact whole.endedClosed_plain valid closed rfl
  | beginReconcile made_by =>
    subst made_by
    exact whole.endedClosed_plain valid closed rfl
  | finishReconcile made_by =>
    subst made_by
    exact whole.endedClosed_plain valid closed rfl

theorem openLedger_endedClosed {disk state : LedgerState} (closed : EndedClosed disk)
    (opened : openLedger config disk = .ok state) : EndedClosed state := by
  intro spaceId standing pageId page located ended found
  rw [openLedger_standing opened, Option.map_eq_some_iff] at located
  obtain ⟨prior, earlier, rfl⟩ := located
  have already : prior.lifecycle.isEnded = true := by
    unfold Standing.recover at ended
    dsimp only at ended
    split_ifs at ended
    · cases ended
    · exact ended
  obtain ⟨_, gone⟩ | ⟨old, new, present, later, raised⟩ := openLedger_raised opened spaceId pageId
  · rw [gone] at found
    cases found
  · cases later.symm.trans found
    rw [raised.lifecycle]
    exact closed spaceId prior pageId old earlier already present

variable {config : HostConfig} {start last : System} {trace : List (Moment System Label)}

theorem HostRun.endedClosed (run : HostRun config start trace last) (initial : Initial config start) :
    EndedClosed last.ledger.state ∧ EndedClosed last.ledger.disk :=
  (run.ledger_keeps EndedClosed initial (by rintro _ _ _ _ ⟨⟩) (fun _ _ _ valid closed taken => taken.endedClosed valid closed)
    fun _ _ _ closed opened => openLedger_endedClosed closed opened).2

/-- In every state that a run commits to memory or to the file, a finished or released space has only settled
actions, and no page that is managed or closing. -/
theorem ended_spaces_are_settled (run : HostRun config start trace last) (initial : Initial config start)
    (state : LedgerState) (committed : state = last.ledger.state ∨ state = last.ledger.disk) (spaceId : SpaceId)
    (space : SpaceDescriptor) (found : state.spaces.get? spaceId = some space)
    (ended : space.lifecycle = .finished ∨ space.lifecycle = .released) :
    (∀ actionId receipt, state.actions.get? actionId = some receipt -> receipt.spaceId = spaceId ->
      receipt.status ≠ .queued ∧ receipt.status ≠ .running ∧ receipt.status ≠ .unknown) ∧
    ∀ page, page ∈ space.pages -> page.lifecycle ≠ .managed ∧ page.lifecycle ≠ .closing := by
  have valid : Valid config.ledger state := by
    obtain rfl | rfl := committed
    · exact (run.sound initial).valid
    · exact (run.sound initial).disk
  have settled : EndingSettled state := by
    obtain rfl | rfl := committed
    · exact (run.finishing initial).memory
    · exact (run.finishing initial).file
  have closed : EndedClosed state := by
    obtain rfl | rfl := committed
    · exact (run.endedClosed initial).1
    · exact (run.endedClosed initial).2
  have stands := standing_some found
  constructor
  · intro actionId receipt known inside
    have terminal := settled spaceId _ stands (by obtain kind | kind := ended <;> simp [SpaceDescriptor.standing, kind, SpaceLifecycle.isEnding])
      actionId receipt known inside
    refine ⟨?_, ?_, ?_⟩ <;> (intro status; simp [status, ActionStatus.isTerminal] at terminal)
  · intro page inside
    have present : state.page spaceId page.pageId = some page := by
      rw [LedgerState.page, found, Option.bind_some, valid.page_of_mem found inside]
    have done := closed spaceId _ page.pageId page stands
      (by obtain kind | kind := ended <;> simp [SpaceDescriptor.standing, kind, SpaceLifecycle.isEnded]) present
    constructor <;> (intro lifecycle; simp [lifecycle, PageLifecycle.awaitsCleanup] at done)

def finishedOnce : List Label := sampleStart ++
  [(sampleEnv, .finishSpace 8 sampleClaim []),
   (sampleEnv, .claimFinish 8),
   (sampleEnv, .completeFinish 8)]

theorem ended_spaces_are_settled_finished :
    ∃ last space, Reachable sampleConfig last ∧ last.ledger.state.spaces.get? ⟨1⟩ = some space ∧
      space.lifecycle = .finished ∧ ∀ page, page ∈ space.pages -> page.lifecycle ≠ .managed ∧
        page.lifecycle ≠ .closing := by
  obtain ⟨last, _, _, run, _, passed⟩ := HostRun.of_advances sampleConfig (.fresh sampleConfig) finishedOnce []
    (fun last _ _ => (last.ledger.state.spaces.get? ⟨1⟩).any fun space => space.lifecycle == .finished)
    (by decide)
  simp only [Option.any_eq_true, beq_iff_eq] at passed
  obtain ⟨space, found, finished⟩ := passed
  obtain ⟨_, cleaned⟩ := ended_spaces_are_settled run sample_initial _ (.inl rfl) ⟨1⟩ space found (.inl finished)
  exact ⟨last, space, ⟨_, _, sample_initial, run⟩, found, finished, cleaned⟩

end Runs

end AgentycHost

/-! # Close actions and their pages -/

namespace AgentycHost

open Shared

/-- The page is closed, or a call is closing it. -/
def PageEnded (state : LedgerState) (spaceId : SpaceId) (pageId : PageId) : Prop :=
  ∃ page, state.page spaceId pageId = some page ∧ (page.lifecycle = .closed ∨ page.lifecycle = .closing)

/-- The last commit of a dispatch, and it records that the close of the page succeeded. -/
def SucceedsClose (spaceId : SpaceId) (pageId : PageId) (moment : Moment System Label) : Prop :=
  ∃ key actionId running settled, moment.label.2 = .finishDispatch key ∧
    moment.before.ledger.state.actions.get? actionId = some running ∧ running.status = .running ∧
    moment.after.ledger.state.actions.get? actionId = some settled ∧ settled.status = .succeeded ∧
    settled.operation = .close ∧ settled.spaceId = spaceId ∧ settled.pageId = some pageId

/-- A new action on the page is admitted. -/
def EnqueuesOn (spaceId : SpaceId) (pageId : PageId) (moment : Moment System Label) : Prop :=
  ∃ request authority now ticket, moment.label.2 = .enqueueAction request authority now ticket ∧
    request.spaceId = spaceId ∧ request.pageId = some pageId ∧
    moment.before.ledger.state.actions.get? request.actionId = none ∧
    moment.after.ledger.state.actions.get? request.actionId ≠ none

/-- Every close that succeeds ends its page, and nothing new is admitted on the page from there on. -/
def ClosesEnd (trace : List (Moment System Label)) : Prop :=
  ∀ later moment earlier spaceId pageId, trace = later ++ moment :: earlier ->
    SucceedsClose spaceId pageId moment ->
    PageEnded moment.after.ledger.state spaceId pageId ∧ ∀ other, other ∈ later -> ¬ EnqueuesOn spaceId pageId other

variable {config : HostConfig} {start last : System} {trace : List (Moment System Label)} {spaceId : SpaceId}
  {pageId : PageId} {moment : Moment System Label}

section Steps

variable {env : Environment} {before after : System} {request : ActionRequest} {authority : AuthorityTicket} {now : Timestamp}
  {state : LedgerState} {ticket : Option UserIntentTicket}

theorem checkTarget_page (checked : checkTarget state request = .ok ()) (on : request.pageId = some pageId) :
    ∃ page, state.page request.spaceId pageId = some page ∧ page.admitsAgentMutations = true := by
  simp only [checkTarget, on, bind_ok, findSpace_ok, orElse_ok, require_ok] at checked
  obtain ⟨space, located, page, found, admits⟩ := checked
  exact ⟨page, by rw [LedgerState.page, located, Option.bind_some, found], admits⟩

theorem enqueueAction_checks {ledger : LedgerConfig} {registry : RefRegistry} {next : LedgerState}
    {receipt : ActionReceipt}
    (run : (enqueueAction ledger request authority now registry state).2 = .ok (receipt, next)) :
    next = state ∨ checkTarget state request = .ok () := by
  unfold enqueueAction at run
  split at run
  · cases run
  · cases run
    exact .inl rfl
  · next fresh =>
    obtain ⟨_, isNew⟩ := admitEnqueue_ok fresh
    exact .inr (isNew rfl).2.2

theorem enqueue_state {result : Except HostError Unit}
    (taken : step config env (.enqueueAction request authority now ticket) before = some (after, result)) :
    after.ledger.state = before.ledger.state ∨ ∃ receipt next,
      CommittedRefs config (enqueueAction config.ledger request authority now) before next receipt ∧
        after.ledger = next.ledger := by
  simp only [step, actionStep, System.afterCheck] at taken
  split at taken
  · cases taken
    exact .inl rfl
  · unfold enqueue at taken
    generalize committed : before.commitRefs config env (enqueueAction config.ledger request authority now) = reply
      at taken
    obtain ⟨middle, error | receipt⟩ := reply
    · cases taken
      exact .inl (commitRefs_error committed)
    · refine .inr ⟨receipt, middle, commitRefs_ok committed, ?_⟩
      cases ticket with
      | none =>
        cases taken
        rfl
      | some spent =>
        cases taken
        rfl

theorem enqueued_page (taken : next config (env, .enqueueAction request authority now ticket) before = some after)
    (on : request.pageId = some pageId) (fresh : before.ledger.state.actions.get? request.actionId = none)
    (present : after.ledger.state.actions.get? request.actionId ≠ none) :
    ∃ page, before.ledger.state.page request.spaceId pageId = some page ∧ page.admitsAgentMutations = true := by
  obtain ⟨result, replied⟩ := next_step taken
  obtain same | ⟨receipt, middle, committed, ledger⟩ := enqueue_state replied
  · rw [same, fresh] at present
    exact absurd rfl present
  · obtain ⟨state, moved, drained⟩ := committed.run
    obtain rfl | checked := enqueueAction_checks moved
    · -- the receipt of a repeated request, and nothing but old events dropped
      have kept := (SameActions.of_events (drainEvents_same config.ledger.limits before.ledger.state)).actions
      rw [ledger, drained, kept, fresh] at present
      exact absurd rfl present
    · exact checkTarget_page checked on

theorem finishDispatch_keeps_pages {key : Nat} (taken : next config (env, .finishDispatch key) before = some after)
    (spaceId : SpaceId) (pageId : PageId) :
    after.ledger.state.page spaceId pageId = before.ledger.state.page spaceId pageId := by
  obtain ⟨result, replied⟩ := next_step taken
  obtain ⟨dispatch, outcome, next, recorded, _, committed, rfl, _⟩ := finishDispatch_cases replied
  have same : next.ledger.state.spaces = before.ledger.state.spaces := by
    cases recorded with
    | error error => rw [commitRefs_error committed]
    | ok receipt =>
      obtain ⟨state, moved, drained⟩ := (commitRefs_ok committed).run
      have settled : state.spaces = before.ledger.state.spaces := by
        obtain ⟨_, _, ⟨_, _, rfl⟩ | ⟨_, _, same⟩⟩ := finishDispatch_ok moved
        · rfl
        · rw [same.spaces, (dirtySnapshot_snapshots _ _).spaces]
      rw [drained, (drainEvents_same _ _).spaces, settled]
  rw [endDispatch_ledger, LedgerState.page, LedgerState.page, same]

end Steps

section Runs

theorem succeeded_close_page (run : HostRun config start trace last) (inside : moment ∈ trace)
    (closes : SucceedsClose spaceId pageId moment) :
    PageEnded moment.after.ledger.state spaceId pageId <-> PageEnded moment.before.ledger.state spaceId pageId := by
  obtain ⟨_, _, _, taken, _⟩ := run.at_moment inside
  obtain ⟨key, _, _, _, made_by, _⟩ := closes
  obtain ⟨before, ⟨env, command⟩, after⟩ := moment
  cases made_by
  unfold PageEnded
  rw [finishDispatch_keeps_pages taken]

theorem closed_page_refuses {middle : System} {later : List (Moment System Label)} {page : PageDescriptor}
    (initial : Initial config start) (early : HostRun config start trace middle)
    (late : HostRun config middle later last)
    (spared : ∀ moment, moment ∈ later ++ trace -> sparesClosed moment.before moment.label.2 = true)
    (found : middle.ledger.state.page spaceId pageId = some page) (closed : page.lifecycle = .closed)
    (inside : moment ∈ later) : ¬ EnqueuesOn spaceId pageId moment := by
  rintro ⟨request, authority, now, ticket, made_by, rfl, on, fresh, present⟩
  obtain ⟨between, after_, reach, taken, rfl⟩ := late.at_moment inside
  have earlier : ∀ other, other ∈ between ++ trace -> sparesClosed other.before other.label.2 = true := by
    intro other known
    apply spared other
    simp only [List.append_assoc, List.mem_append, List.mem_cons] at known ⊢
    tauto
  obtain ⟨before, ⟨env, command⟩, after⟩ := moment
  cases made_by
  obtain ⟨final, there, admits⟩ := enqueued_page taken on fresh present
  rw [(closed_page_stays_closed initial early reach earlier found closed there).2] at admits
  cases admits

end Runs

/-- In every run, a close action that succeeds ends its page exactly if the page was ended before the receipt. Along a
run that closes the pages otherwise and spares closed pages, every succeeded close ends its page for good. -/
theorem close_ends_page (initial : Initial config start) (run : HostRun config start trace last) :
    (∀ moment spaceId pageId, moment ∈ trace -> SucceedsClose spaceId pageId moment ->
      (PageEnded moment.after.ledger.state spaceId pageId <-> PageEnded moment.before.ledger.state spaceId pageId)) ∧
    ((∀ moment, moment ∈ trace -> sparesClosed moment.before moment.label.2 = true) ->
      (∀ moment spaceId pageId, moment ∈ trace -> SucceedsClose spaceId pageId moment ->
        isClosed moment.before.ledger.state spaceId pageId = true) -> ClosesEnd trace) := by
  refine ⟨fun moment spaceId pageId inside closes => succeeded_close_page run inside closes, ?_⟩
  intro spared closedBefore
  rintro later moment earlier spaceId pageId rfl closes
  have inside : moment ∈ later ++ moment :: earlier := by simp
  have ended := closedBefore moment spaceId pageId inside closes
  rw [isClosed, Option.any_eq_true] at ended
  obtain ⟨page, found, closed⟩ := ended
  rw [beq_iff_eq] at closed
  obtain ⟨key, _, _, _, made_by, _⟩ := closes
  obtain ⟨early, taken⟩ := run.before_moment
  obtain ⟨before, ⟨env, command⟩, after⟩ := moment
  cases made_by
  have kept : after.ledger.state.page spaceId pageId = some page := (finishDispatch_keeps_pages taken _ _).trans found
  refine ⟨⟨page, kept, .inl closed⟩, fun other known => ?_⟩
  exact closed_page_refuses initial (.step early taken) run.after_moment spared kept closed known

section Sample

def onFirstPage (operation : ActionOperation) (request : ActionRequest) : ActionRequest :=
  let request := { request with operation, pageId := some ⟨1⟩ }
  { request with requestHash := canonicalActionHash sampleCodec request }

def closeSent : List Label := sampleStart ++
  [(sampleEnv, .createPage sampleClaim "page"),
   (sampleEnv, .bindPage sampleClaim ⟨1⟩ sampleTarget),
   (sampleEnv, .enqueueAction (onFirstPage .close firstRequest) sampleTicket 20 none),
   (sampleEnv, .dispatchAction 7 firstRequest.actionId sampleTicket 1 30),
   (sampleEnv, .acquirePermit 7),
   (sampleEnv, .recheckDispatch 7),
   (sampleEnv, .sendDispatch 7)]

/-- The browser closed the page, and the receipt is still running. -/
def closeAnswered : List Label := closeSent ++ [(sampleEnv, .dispatchAnswered 7 (.ok .succeeded) none)]

def closedMeanwhile : List Label := closeSent ++
  [(sampleEnv, .closePage 8 sampleClaim ⟨1⟩),
   (sampleEnv, .closeAnswered 8 true),
   (sampleEnv, .dispatchAnswered 7 (.ok .succeeded) none),
   (sampleEnv, .finishDispatch 7)]

def settlesClosed (moment : Moment System Label) : Bool :=
  match moment.label.2 with
  | .finishDispatch _ =>
      !moment.after.ledger.state.actions.any fun _ receipt => receipt.operation == .close &&
        !receipt.pageId.any fun pageId => isClosed moment.before.ledger.state receipt.spaceId pageId
  | _ => true

theorem settlesClosed_before (settles : settlesClosed moment = true) (closes : SucceedsClose spaceId pageId moment) :
    isClosed moment.before.ledger.state spaceId pageId = true := by
  obtain ⟨key, actionId, _, settled, made_by, _, _, found, _, operation, rfl, on⟩ := closes
  rw [settlesClosed, made_by, Bool.not_eq_true', Table.any_eq_false] at settles
  simpa [operation, on] using settles actionId settled found

theorem closed_meanwhile_ends : ∃ trace last, HostRun sampleConfig (.fresh sampleConfig) trace last ∧
    pageLifecycle last = some .closed ∧ ClosesEnd trace := by
  obtain ⟨last, run, closed⟩ := advance_reaches (next sampleConfig) (.fresh sampleConfig) closedMeanwhile
    (fun last => decide (pageLifecycle last = some .closed)) (by decide +kernel)
  have checked := visits_all (next sampleConfig) closedMeanwhile (.fresh sampleConfig)
    (fun moment => sparesClosed moment.before moment.label.2 && settlesClosed moment) (by decide +kernel)
  simp only [Bool.and_eq_true] at checked
  refine ⟨_, last, run, of_decide_eq_true closed, (close_ends_page sample_initial run).2 ?_ ?_⟩
  · exact fun moment inside => (checked moment inside).1
  · exact fun moment spaceId pageId inside closes => settlesClosed_before (checked moment inside).2 closes

def hasStatus (system : System) (request : ActionRequest) (status : ActionStatus) : Bool :=
  (system.ledger.state.actions.get? request.actionId).any fun receipt => receipt.status == status &&
    receipt.operation == .close && receipt.spaceId == ⟨1⟩ && receipt.pageId == some ⟨1⟩

def closesInVain (before : System) : Bool :=
  match next sampleConfig (sampleEnv, .finishDispatch 7) before with
  | none => false
  | some after =>
      match next sampleConfig (sampleEnv, .enqueueAction (onFirstPage .navigate secondRequest) sampleTicket 40 none) after with
      | none => false
      | some last =>
          hasStatus before firstRequest .running && hasStatus after firstRequest .succeeded &&
            !after.ledger.state.actions.contains secondRequest.actionId &&
            last.ledger.state.actions.contains secondRequest.actionId

/-- A page stays the agent's after its close succeeded, and takes its next action. -/
theorem succeeded_close_leaves_page :
    ¬ ∀ (config : HostConfig) (start last : System) (trace : List (Moment System Label)), Initial config start ->
      HostRun config start trace last -> ClosesEnd trace := by
  intro always
  obtain ⟨before, run, passed⟩ := advance_reaches (next sampleConfig) (.fresh sampleConfig) closeAnswered closesInVain
    (by decide +kernel)
  unfold closesInVain at passed
  split at passed
  next => cases passed
  next after finished =>
    split at passed
    next => cases passed
    next last admitted =>
      simp only [hasStatus, Bool.and_eq_true, Option.any_eq_true, beq_iff_eq, Bool.not_eq_true', Table.contains,
        Option.isSome_eq_false_iff, Option.isNone_iff_eq_none] at passed
      obtain ⟨⟨⟨⟨running, found, ⟨⟨isRunning, _⟩, _⟩, _⟩, settled, there, ⟨⟨succeeded, close⟩, space⟩, page⟩, fresh⟩,
        present⟩ := passed
      have whole : HostRun sampleConfig (.fresh sampleConfig) _ last := .step (.step run finished) admitted
      have ends := always _ _ _ _ sample_initial whole [_] _ _ ⟨1⟩ ⟨1⟩ rfl
        ⟨7, _, running, settled, rfl, found, isRunning, there, succeeded, close, space, page⟩
      refine ends.2 _ (List.mem_singleton_self _) ⟨_, _, _, _, rfl, rfl, rfl, fresh, ?_⟩
      intro absent
      rw [show secondRequest.actionId = (onFirstPage .navigate secondRequest).actionId from rfl, absent] at present
      cases present

end Sample

end AgentycHost
