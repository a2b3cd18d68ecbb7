import AgentycHost.Cdp.Deployment
import AgentycHost.Effects.Finishing
import AgentycHost.Safety.PageLives

set_option autoImplicit false

/-! # Closed pages and the replies behind them -/

namespace AgentycHost

open Shared

variable {command : Command} {key : PageKey} {spaceId : SpaceId} {env : Environment} {call : Nat}

structure Evidence where
  accounted : PageKey -> Prop
  proven : PageKey -> Prop
  entails : ∀ {key : PageKey}, proven key -> accounted key

structure Evidence.Grows (before after : Evidence) : Prop where
  accounted : ∀ {key : PageKey}, before.accounted key -> after.accounted key
  proven : ∀ {key : PageKey}, before.proven key -> after.proven key

namespace Evidence

variable (evidence : Evidence)

def BacksPage (key : PageKey) : PageLifecycle -> Prop
  | .managed | .closing | .userOwned => evidence.accounted key
  | .closed => evidence.proven key
  | _ => True

def Backs (state : LedgerState) : Prop :=
  ∀ spaceId pageId page, state.page spaceId pageId = some page -> evidence.BacksPage (spaceId, pageId) page.lifecycle

def BacksPhase (spaceId : SpaceId) : FinishPhase -> Prop
  | .missing proofs => ∀ proof, proof ∈ proofs -> evidence.proven (spaceId, proof.pageId)
  | .draining proofs _ => ∀ proof, proof ∈ proofs -> evidence.accounted (spaceId, proof.pageId)
  | .closing first rest _ => ∀ proof, proof ∈ first :: rest -> evidence.accounted (spaceId, proof.pageId)

def BacksCalls (calls : Table Nat Call) : Prop :=
  ∀ key claim phase, calls.get? key = some (.finish claim phase) -> evidence.BacksPhase claim.spaceId phase

def BacksAnswer : Call -> Answer -> Prop
  | .managedPage claim pageId, .created _ | .managedPage claim pageId, .bound _ =>
      evidence.accounted (claim.spaceId, pageId)
  | .closePage claim pageId _, .closed true => evidence.proven (claim.spaceId, pageId)
  | .finish claim (.closing proof _ _), .cleanup .closed | .finish claim (.closing proof _ _), .cleanup .gone =>
      evidence.proven (claim.spaceId, proof.pageId)
  | _, _ => True

end Evidence

section States

variable {evidence later : Evidence} {config : LedgerConfig} {calls : Table Nat Call}
  {before after disk state : LedgerState}

theorem Evidence.BacksPage.grows {lifecycle : PageLifecycle} (grows : evidence.Grows later)
    (backed : evidence.BacksPage key lifecycle) : later.BacksPage key lifecycle := by
  cases lifecycle
  case managed | closing | userOwned => exact grows.accounted backed
  case closed => exact grows.proven backed
  all_goals trivial

theorem Evidence.BacksPhase.grows {phase : FinishPhase} (grows : evidence.Grows later)
    (backed : evidence.BacksPhase spaceId phase) : later.BacksPhase spaceId phase := by
  cases phase with
  | missing => exact fun proof inside => grows.proven (backed proof inside)
  | draining => exact fun proof inside => grows.accounted (backed proof inside)
  | closing => exact fun proof inside => grows.accounted (backed proof inside)

theorem Evidence.BacksAnswer.grows {asked : Call} {answer : Answer} (grows : evidence.Grows later)
    (backed : evidence.BacksAnswer asked answer) : later.BacksAnswer asked answer := by
  unfold Evidence.BacksAnswer at backed ⊢
  split
  · exact grows.accounted backed
  · exact grows.accounted backed
  · exact grows.proven backed
  · exact grows.proven backed
  · exact grows.proven backed
  · trivial

theorem Evidence.Backs.grows (grows : evidence.Grows later) (backed : evidence.Backs state) : later.Backs state :=
  fun spaceId pageId page found => (backed spaceId pageId page found).grows grows

theorem Evidence.BacksPage.reclaimed {old : PageDescriptor} (backed : evidence.BacksPage key old.lifecycle) :
    evidence.BacksPage key (reclaimedPage old).lifecycle := by
  by_cases user : old.lifecycle = .userOwned
  · rw [user] at backed
    have managed : (reclaimedPage old).lifecycle = .managed := by simp [reclaimedPage, user]
    rw [managed]
    exact backed
  · by_cases managed : old.lifecycle = .managed
    · rw [managed] at backed
      simpa [reclaimedPage, managed] using backed
    · simpa [reclaimedPage, user, managed] using backed

theorem LedgerStep.backs (valid : Valid config before) (backed : evidence.Backs before)
    (binds : ∀ spaceId pageId target, BindsPage calls command spaceId pageId target ->
      evidence.accounted (spaceId, pageId))
    (closes : ∀ spaceId pageId, ClosesPage calls command spaceId pageId -> evidence.proven (spaceId, pageId))
    (returns : ∀ call fence answer, command = .fenceAnswered call answer -> calls.get? call = some (.fence fence) ->
      fence.completion answer = .userReturn -> ∀ pageId page,
      before.page fence.request.spaceId pageId = some page -> evidence.accounted (fence.request.spaceId, pageId))
    (taken : LedgerStep config calls command before after) : evidence.Backs after := by
  intro spaceId pageId page found
  have move := (taken.pageEffect valid).move spaceId pageId
  have earlier := backed spaceId pageId
  rw [found] at move
  generalize was : before.page spaceId pageId = old at move earlier
  generalize last : some page = new at move
  cases move with
  | keep => exact earlier page last.symm
  | created label =>
    cases last
    trivial
  | raised raised =>
    cases last
    rw [raised.lifecycle]
    exact earlier _ rfl
  | bound made_by _ managed =>
    cases last
    rw [managed]
    exact binds spaceId pageId _ made_by
  | lost _ _ lost =>
    cases last
    rw [lost]
    trivial
  | rebinding _ _ rebinding =>
    cases last
    rw [rebinding]
    trivial
  | closing _ open_ closing =>
    cases last
    have known := earlier _ rfl
    rw [closing]
    obtain managed | already := open_
    · rw [managed] at known
      exact known
    · rw [already] at known
      exact known
  | closed made_by _ _ closed =>
    cases last
    rw [closed]
    exact closes spaceId pageId made_by
  | returned made_by call_at completed inside =>
    cases last
    subst inside
    exact returns _ _ _ made_by call_at completed pageId _ was
  | reclaimed =>
    cases last
    exact (earlier _ rfl).reclaimed
  | pruned => cases last

theorem openLedger_backs (backed : evidence.Backs disk) (opened : openLedger config disk = .ok state) :
    evidence.Backs state := by
  intro spaceId pageId page found
  obtain ⟨_, gone⟩ | ⟨old, _, was, same, raised⟩ := openLedger_raised opened spaceId pageId
  · rw [gone] at found
    cases found
  · obtain rfl := Option.some.inj (same.symm.trans found)
    rw [raised.lifecycle]
    exact backed spaceId pageId old was

theorem Evidence.Backs.in_cleanup {space : SpaceDescriptor} {page : PageDescriptor} (backed : evidence.Backs state)
    (valid : Valid config state) (found : state.spaces.get? spaceId = some space) (inside : page ∈ space.pages)
    (open_ : page.lifecycle = .managed ∨ page.lifecycle = .closing) :
    evidence.accounted (spaceId, page.pageId) := by
  have known := backed spaceId page.pageId page (by
    rw [LedgerState.page, found, Option.bind_some, valid.page_of_mem found inside])
  obtain managed | closing := open_
  · rw [managed] at known
    exact known
  · rw [closing] at known
    exact known

end States

section Calls

variable {evidence : Evidence} {config : HostConfig} {before after : System} {result : Except HostError Unit}

theorem step_backsCalls (valid : Valid config.ledger before.ledger.state) (backed : evidence.Backs before.ledger.state)
    (calls : evidence.BacksCalls before.calls)
    (listed : ∀ key claim pages pageId, command = .finishSpace key claim pages ->
      evidence.accounted (claim.spaceId, pageId) -> pageId ∉ pages -> evidence.proven (claim.spaceId, pageId))
    (taken : step config env command before = some (after, result)) : evidence.BacksCalls after.calls := by
  intro key claim phase found
  cases finish_move taken found with
  | kept present => exact calls key claim phase present
  | started made_by committed =>
    obtain ⟨_, run, _⟩ := commit_ok committed
    simp only [missingCleanupPages, bind_ok, pure_ok, findSpace_ok, Prod.mk.injEq] at run
    obtain ⟨_, _, space, located, rfl, _⟩ := run
    intro proof inside
    simp only [List.mem_map, List.mem_filter, Bool.and_eq_true, beq_iff_eq, Bool.not_eq_true', List.contains_eq_mem,
      decide_eq_false_iff_not] at inside
    obtain ⟨page, ⟨member, closing, absent⟩, rfl⟩ := inside
    exact listed key claim _ page.pageId made_by (backed.in_cleanup valid located member (.inr closing)) absent
  | recorded present =>
    exact fun proof inside => calls key claim _ present proof (List.mem_cons_of_mem _ inside)
  | claimed committed =>
    obtain ⟨_, run, _⟩ := commit_ok committed
    simp only [claimFinish, bind_ok, pure_ok, require_ok, findSpace_ok, Prod.mk.injEq] at run
    obtain ⟨_, _, _, _, space, located, _, _, _, _, rfl, _⟩ := run
    intro proof inside
    obtain ⟨page, member, rfl⟩ := List.mem_map.mp inside
    obtain ⟨member, cleaned⟩ := List.mem_filter.mp member
    exact backed.in_cleanup valid located member (inCleanup_open cleaned)
  | authorized present => exact fun proof inside => calls key claim _ present proof inside
  | cleaned present =>
    exact fun proof inside => calls key claim _ present proof (List.mem_cons_of_mem _ inside)

end Calls

section Replies

def Fate.confirmsClose : Fate -> Bool
  | .answered result => result.boolAt "success" == some true
  | _ => false

def confirmsClose (sent : List SentCommand) (targetId : String) : Bool :=
  sent.any fun sent => sent.command == .closeTarget targetId && sent.fate.confirmsClose

theorem confirmsClose_of {sent : List SentCommand} {targetId : String} (proof : ProvesClosed sent targetId) :
    confirmsClose sent targetId = true := by
  obtain ⟨result, inside, success⟩ := proof
  exact List.any_eq_true.mpr ⟨_, inside, by simp [Fate.confirmsClose, success]⟩

/-- In this step Chrome said that it closed the target that the bridge held for the page. -/
def closesTarget (config : DeployConfig) (moment : Moment Deployment DeployLabel) (key : PageKey) : Bool :=
  match moment.label with
  | .bridge call outside arguments =>
      (moment.before.served config call outside arguments).any fun (_, served) =>
        (moment.before.bridge.pages.get? key).any fun page => confirmsClose served.sent page.targetId
  | _ => false

def Proven (config : DeployConfig) (trace : List (Moment Deployment DeployLabel)) (key : PageKey) : Prop :=
  ∃ moment, moment ∈ trace ∧ closesTarget config moment key = true

/-- The evidence that a run leaves. -/
def evidence (config : DeployConfig) (trace : List (Moment Deployment DeployLabel))
    (pages : Table PageKey ManagedPage) : Evidence where
  accounted key := pages.contains key = true ∨ Proven config trace key
  proven key := Proven config trace key
  entails := .inr

structure Backed (evidence : Evidence) (deployment : Deployment) : Prop where
  memory : evidence.Backs deployment.host.ledger.state
  file : evidence.Backs deployment.host.ledger.disk
  calls : evidence.BacksCalls deployment.host.calls
  answers : ∀ call pending, deployment.answers.get? call = some pending ->
    evidence.BacksAnswer pending.asked pending.answer

/-- The page has a target to close, for all the ledger knows. -/
def PageLifecycle.needsClose : PageLifecycle -> Bool
  | .managed | .closing | .userOwned => true
  | _ => false

/-- A step that leaves a page out of the bridge's table for one reason only. -/
def keepsProof (config : DeployConfig) (before : Deployment) : DeployLabel -> Bool
  | .bridge call outside arguments =>
      -- no dispatch or snapshot finds the connection lost while the bridge holds pages
      ((before.host.calls.get? call).bind fun asked => asked.nextBridgeCall arguments (before.answered call)).all
        fun request => !request.clearsWhenLost || before.bridge.pages.keys.isEmpty ||
          (serve config.cdp outside request before.bridge).bridge.client.usable
  | .host _ (.restart _) =>
      before.host.ledger.disk.spaces.all fun _ space => space.pages.all fun page => !page.lifecycle.needsClose
  | .host _ (.bindPage claim pageId _) => before.bridge.pages.contains (claim.spaceId, pageId)
  | .host _ (.fenceAnswered call answer) =>
      -- only pages that the bridge holds, and closed ones, go to the user
      match before.host.calls.get? call with
      | some (.fence fence) =>
          fence.completion answer != .userReturn ||
            (before.host.ledger.state.spaces.get? fence.request.spaceId).all fun space => space.pages.all fun page =>
              page.lifecycle == .closed || before.bridge.pages.contains (fence.request.spaceId, page.pageId)
      | _ => true
  | .host _ (.finishSpace _ claim present) =>
      -- the inventory still shows every page of the space that the bridge holds
      before.bridge.pages.keys.all fun key => key.1 != claim.spaceId || present.contains key.2
  | _ => true

end Replies

section Steps

variable {config : DeployConfig} {label : DeployLabel} {before after : Deployment}
  {trace : List (Moment Deployment DeployLabel)} {moment : Moment Deployment DeployLabel} {request : BridgeCall}
  {asked : Call} {outside : CdpOutside} {arguments : CreationArguments} {page : ManagedPage}

theorem Proven.later (proven : Proven config trace key) : Proven config (moment :: trace) key := by
  obtain ⟨earlier, inside, closes⟩ := proven
  exact ⟨earlier, List.mem_cons_of_mem _ inside, closes⟩

theorem proven_now (call_at : before.host.calls.get? call = some asked)
    (asks : asked.nextBridgeCall arguments (before.answered call) = some request)
    (held : before.bridge.pages.get? key = some page)
    (proof : ProvesClosed (serve config.cdp outside request before.bridge).sent page.targetId) :
    Proven config (⟨before, .bridge call outside arguments, after⟩ :: trace) key := by
  refine ⟨_, List.mem_cons_self, ?_⟩
  simp [closesTarget, Deployment.served, call_at, asks, held, confirmsClose_of proof]

theorem evidence_grows (same : after.bridge.pages = before.bridge.pages) :
    (evidence config trace before.bridge.pages).Grows (evidence config (moment :: trace) after.bridge.pages) where
  accounted := by
    rw [same]
    rintro _ (held | proven)
    · exact .inl held
    · exact .inr proven.later
  proven := .later

theorem contains_of_get? {pages : Table PageKey ManagedPage} (held : pages.get? key = some page) :
    pages.contains key = true :=
  (Table.contains_iff _ _).mpr ⟨page, held⟩

theorem serve_grows (call_at : before.host.calls.get? call = some asked)
    (asks : asked.nextBridgeCall arguments (before.answered call) = some request)
    (kept : keepsProof config before (.bridge call outside arguments) = true) :
    (evidence config trace before.bridge.pages).Grows
      (evidence config (⟨before, .bridge call outside arguments, after⟩ :: trace)
        (serve config.cdp outside request before.bridge).bridge.pages) := by
  refine ⟨?_, .later⟩
  rintro key (held | proven)
  · obtain ⟨page, held⟩ := (Table.contains_iff _ _).mp held
    cases serve_pages config.cdp outside request before.bridge with
    | same pages => exact .inl (pages ▸ contains_of_get? held)
    | cleared made_by lost pages =>
      have inside := (Table.mem_keys _ _).mpr (contains_of_get? held)
      simp only [keepsProof, call_at, asks, Option.bind_some, Option.all_some, made_by, lost, Bool.not_true,
        Bool.false_or, Bool.or_false, List.isEmpty_iff] at kept
      rw [kept] at inside
      cases inside
    | @changed other _ change _ _ pages =>
      refine .inl ?_
      rw [pages, Table.contains, Table.get?_modify]
      split
      next same => simp [← same, held]
      next => simp [held]
    | @closed other record erased proof pages =>
      by_cases same : key = other
      · subst same
        cases held.symm.trans erased
        exact .inr (proven_now call_at asks held proof)
      · refine .inl ?_
        rw [pages, Table.contains, Table.get?_erase, if_neg same, held]
        rfl
    | created _ _ pages =>
      refine .inl ?_
      rw [pages, Table.contains, Table.get?_insert]
      split <;> simp [held]
    | fenced _ pages =>
      refine .inl ?_
      rw [pages]
      unfold fence
      split
      · exact contains_of_get? held
      · rw [Table.contains, Table.get?_mapValues, held]
        rfl
  · exact .inr proven.later

theorem findObserved_observe (pages : Table PageKey ManagedPage) (spaceId : SpaceId) (pageId : PageId) :
    (findObserved spaceId pageId (observe pages)).isSome = pages.contains (spaceId, pageId) := by
  rw [Bool.eq_iff_iff, ← Table.mem_keys, findObserved, List.find?_isSome, Table.keys, List.mem_map]
  simp only [observe, List.mem_map, Bool.and_eq_true, beq_iff_eq, Prod.exists]
  constructor
  · rintro ⟨_, ⟨one, other, page, inside, rfl⟩, rfl, rfl⟩
    exact ⟨one, other, page, inside, rfl⟩
  · rintro ⟨_, _, page, inside, ⟨⟩⟩
    exact ⟨_, ⟨_, _, page, inside, rfl⟩, rfl, rfl⟩

theorem note_backs {answer : Answer} (backed : Backed (evidence config trace before.bridge.pages) before)
    (call_at : before.host.calls.get? call = some asked)
    (asks : asked.nextBridgeCall arguments (before.answered call) = some request)
    (noted : asked.note (before.answered call) (serve config.cdp outside request before.bridge).reply = some answer)
    (kept : keepsProof config before (.bridge call outside arguments) = true) :
    (evidence config (⟨before, .bridge call outside arguments, after⟩ :: trace)
      (serve config.cdp outside request before.bridge).bridge.pages).BacksAnswer asked answer := by
  have grows : (evidence config trace before.bridge.pages).Grows
      (evidence config (⟨before, .bridge call outside arguments, after⟩ :: trace) _) :=
    serve_grows call_at asks kept
  have earlier : ∀ answer, before.answered call = some answer ->
      (evidence config trace before.bridge.pages).BacksAnswer asked answer := by
    intro answer waiting
    obtain ⟨_, found, same⟩ := Deployment.answered_cases waiting
    cases same.symm.trans call_at
    exact backed.answers call _ found
  have served := asks
  generalize replied : (serve config.cdp outside request before.bridge).reply = reply at noted
  generalize waiting : before.answered call = prior at noted served earlier
  unfold Call.note at noted
  split at noted
  case h_2 =>
    -- the creation left its record
    cases served
    cases noted
    exact .inl (serve_created replied)
  case h_4 =>
    cases noted
    have known := earlier _ rfl
    exact grows.accounted known
  case h_5 claim pageId _ result =>
    cases served
    cases noted
    cases result with
    | error _ => trivial
    | ok =>
      obtain ⟨page, held, proof⟩ := serve_closed replied
      exact proven_now call_at asks held proof
  case h_6 =>
    cases served
    cases noted
    obtain ⟨page, held, proof⟩ := serve_closed replied
    exact proven_now call_at asks held proof
  case h_7 =>
    cases noted
    split <;> trivial
  case h_8 claim proof _ _ _ pages =>
    cases served
    cases replied
    cases noted
    rw [findObserved_observe]
    split
    · trivial
    next gone =>
      -- the page is accounted for, and not by the table
      have known := backed.calls call claim _ call_at proof List.mem_cons_self
      obtain held | proven := known
      · exact absurd held gone
      · exact proven.later
  case h_13 => cases noted
  all_goals
    cases noted
    trivial

section Host

variable {host : System} (backed : Backed (evidence config trace before.bridge.pages) before)
  (kept : keepsProof config before (.host env command) = true) (admitted : before.admits env command = true)
  {pageId : PageId}

include kept in
theorem listed_proven {claim : Claim} {pages : List PageId} (made_by : command = .finishSpace call claim pages)
    (accounted : (evidence config trace before.bridge.pages).accounted (claim.spaceId, pageId))
    (absent : pageId ∉ pages) : Proven config trace (claim.spaceId, pageId) := by
  subst made_by
  obtain held | proven := accounted
  · simp only [keepsProof, List.all_eq_true, Table.mem_keys] at kept
    have shown := kept _ held
    simp [absent] at shown
  · exact proven

include backed

theorem Backed.answered {asked : Call} {answer : Answer} (waiting : before.answered call = some answer)
    (call_at : before.host.calls.get? call = some asked) :
    (evidence config trace before.bridge.pages).BacksAnswer asked answer := by
  obtain ⟨_, found, same⟩ := Deployment.answered_cases waiting
  cases same.symm.trans call_at
  exact backed.answers call _ found

include admitted in
theorem closes_proven (closes : ClosesPage before.host.calls command spaceId pageId) :
    Proven config trace (spaceId, pageId) := by
  obtain ⟨_, waiting⟩ := Bool.and_eq_true_iff.mp admitted
  cases closes with
  | closed made_by call_at inside =>
    subst made_by inside
    exact backed.answered (beq_iff_eq.mp waiting) call_at
  | missing made_by call_at inside about =>
    subst inside about
    exact backed.calls _ _ _ call_at _ List.mem_cons_self
  | cleaned made_by call_at answered inside about =>
    subst made_by inside about
    have known := backed.answered (beq_iff_eq.mp waiting) call_at
    obtain rfl | rfl := answered
    · exact known
    · exact known

include kept admitted in
theorem binds_accounted {target : BoundTarget} (binds : BindsPage before.host.calls command spaceId pageId target) :
    (evidence config trace before.bridge.pages).accounted (spaceId, pageId) := by
  obtain ⟨_, waiting⟩ := Bool.and_eq_true_iff.mp admitted
  cases binds with
  | observed made_by call_at inside =>
    subst made_by inside
    exact backed.answered (beq_iff_eq.mp waiting) call_at
  | blind made_by inside =>
    subst made_by inside
    exact .inl kept

include kept in
theorem returns_accounted {fence : FenceCall} {answer : FenceAnswer} {page : PageDescriptor}
    (made_by : command = .fenceAnswered call answer) (call_at : before.host.calls.get? call = some (.fence fence))
    (completed : fence.completion answer = .userReturn)
    (found : before.host.ledger.state.page fence.request.spaceId pageId = some page) :
    (evidence config trace before.bridge.pages).accounted (fence.request.spaceId, pageId) := by
  subst made_by
  obtain ⟨space, located, inside⟩ := Option.bind_eq_some_iff.mp found
  simp only [keepsProof, call_at, completed, bne_self_eq_false, Bool.false_or, located, Option.all_some,
    List.all_eq_true, Bool.or_eq_true, beq_iff_eq] at kept
  obtain closed | held := kept page (List.mem_of_find?_eq_some inside)
  · have known := backed.memory _ _ _ found
    rw [closed] at known
    exact .inr known
  · rw [SpaceDescriptor.page_pageId inside] at held
    exact .inl held

include kept admitted in
theorem Backed.host_step (sound : Sound config.host.ledger before.host.ledger)
    (running : ∀ failures, command ≠ .restart failures)
    (taken : next config.host (env, command) before.host = some host) :
    Backed (evidence config trace before.bridge.pages) (before.moved command host) := by
  obtain ⟨bridge, answers⟩ := before.moved_running host running
  have moved : ∀ state, LedgerStep config.host.ledger before.host.calls command before.host.ledger.state state ->
      (evidence config trace before.bridge.pages).Backs state := by
    intro state made
    refine made.backs sound.valid backed.memory ?_ ?_ ?_
    · exact fun spaceId pageId target binds => binds_accounted backed kept admitted binds
    · exact fun spaceId pageId closes => closes_proven backed admitted closes
    · exact fun call fence answer made_by call_at completed pageId page found =>
        returns_accounted backed kept made_by call_at completed found
  obtain ⟨memory, file⟩ := ledger_step_keeps (evidence config trace before.bridge.pages).Backs sound backed.memory
    backed.file taken moved fun _ _ _ backed opened => openLedger_backs backed opened
  obtain ⟨_, replied⟩ := next_step taken
  have calls := step_backsCalls sound.valid backed.memory backed.calls
    (fun key claim pages pageId made_by accounted absent => listed_proven kept made_by accounted absent) replied
  rw [← before.moved_host command host] at memory file calls
  exact ⟨memory, file, calls, fun call pending found => backed.answers call pending (answers call pending found)⟩

end Host

theorem Backed.grows {first second : Evidence} {deployment : Deployment} (grows : first.Grows second)
    (backed : Backed first deployment) : Backed second deployment :=
  ⟨backed.memory.grows grows, backed.file.grows grows,
    fun key claim phase found => (backed.calls key claim phase found).grows grows,
    fun call pending found => (backed.answers call pending found).grows grows⟩

theorem Backed.restart {env : Environment} {failures : Nat} {host : System}
    (backed : Backed (evidence config trace before.bridge.pages) before)
    (sound : Sound config.host.ledger before.host.ledger)
    (kept : keepsProof config before (.host env (.restart failures)) = true)
    (taken : next config.host (env, .restart failures) before.host = some host) :
    Backed (evidence config trace ∅) (before.moved (.restart failures) host) := by
  obtain ⟨_, replied⟩ := next_step taken
  obtain ⟨state, opened, rfl⟩ := restart_cases replied
  have file : (evidence config trace ∅).Backs before.host.ledger.disk := by
    intro spaceId pageId page found
    have known := backed.file spaceId pageId page found
    obtain ⟨space, located, inside⟩ := Option.bind_eq_some_iff.mp found
    simp only [keepsProof, Table.all_eq_true, List.all_eq_true] at kept
    have safe := kept spaceId space located page (List.mem_of_find?_eq_some inside)
    generalize page.lifecycle = lifecycle at known safe
    cases lifecycle
    case managed | closing | userOwned => cases safe
    case closed => exact known
    all_goals trivial
  obtain ⟨_, state⟩ := reopenLedger_keeps (evidence config trace ∅).Backs
    (fun _ _ _ backed opened => openLedger_backs backed opened) sound.disk file opened
  refine ⟨state, state, fun key claim phase found => ?_, fun call pending found => ?_⟩
  · simp [Deployment.moved, System.opened] at found
  · simp [Deployment.moved] at found

theorem Backed.step (backed : Backed (evidence config trace before.bridge.pages) before)
    (sound : Sound config.host.ledger before.host.ledger) (kept : keepsProof config before label = true)
    (taken : Deployment.next config label before = some after) :
    Backed (evidence config (⟨before, label, after⟩ :: trace) after.bridge.pages) after := by
  have still : after.bridge.pages = before.bridge.pages ->
      Backed (evidence config (⟨before, label, after⟩ :: trace) after.bridge.pages) before :=
    fun same => backed.grows (evidence_grows same)
  cases deploy_cases taken with
  | @host env command host admitted stepped moved =>
    by_cases restarts : ∃ failures, command = .restart failures
    · obtain ⟨failures, rfl⟩ := restarts
      subst moved
      refine (backed.restart sound kept stepped).grows ⟨?_, .later⟩
      rintro key (held | proven)
      · cases held
      · exact .inr proven.later
    · have running : ∀ failures, command ≠ .restart failures := fun failures same => restarts ⟨failures, same⟩
      subst moved
      refine (backed.host_step kept admitted sound running stepped).grows (evidence_grows ?_)
      rw [(before.moved_running host running).1]
  | bridge call_at asks noted moved =>
    have grows : (evidence config trace before.bridge.pages).Grows (evidence config (⟨before, _, after⟩ :: trace) _) :=
      serve_grows call_at asks kept
    have backs : (evidence config (⟨before, _, after⟩ :: trace) _).BacksAnswer _ _ :=
      note_backs backed call_at asks noted kept
    have grown := backed.grows grows
    subst moved
    refine ⟨grown.memory, grown.file, grown.calls, fun other pending found => ?_⟩
    rw [Table.get?_insert] at found
    split_ifs at found with same
    · cases found
      exact backs
    · exact grown.answers other pending found
  | rebind call_at fenced moved =>
    have grown := still (by rw [moved])
    subst moved
    refine ⟨grown.memory, grown.file, grown.calls, fun other pending found => ?_⟩
    rw [Table.get?_insert] at found
    split_ifs at found with same
    · cases found
      trivial
    · exact grown.answers other pending found
  | inventory moved =>
    have grown := still (by rw [moved])
    subst moved
    exact ⟨grown.memory, grown.file, grown.calls, grown.answers⟩

theorem DeployRun.backed {start last : Deployment} (run : DeployRun config start trace last)
    (initial : DeployInitial config start)
    (kept : ∀ moment, moment ∈ trace -> keepsProof config moment.before moment.label = true) :
    Backed (evidence config trace last.bridge.pages) last := by
  induction run with
  | nil =>
    obtain ⟨rfl, _⟩ := initial
    have empty : (evidence config [] ∅).Backs (.new 1) := by
      intro spaceId pageId page found
      simp [LedgerState.new, LedgerState.page] at found
    refine ⟨empty, empty, fun key claim phase found => ?_, fun call pending found => ?_⟩
    · simp [Deployment.fresh, System.fresh, System.opened] at found
    · simp [Deployment.fresh] at found
  | step earlier taken ih =>
    have before := ih fun moment inside => kept moment (List.mem_cons_of_mem _ inside)
    exact before.step (DeployRun.sound earlier initial) (kept _ List.mem_cons_self) taken

end Steps

/-- The ledger records a page as closed only after Chrome said that it closed the page's target, in every run that
keeps the two reasons for a page's absence apart; a page of which Chrome did not say so is recorded as lost. -/
theorem cleanup_is_proven {config : DeployConfig} {start last : Deployment}
    {trace : List (Moment Deployment DeployLabel)} (initial : DeployInitial config start)
    (run : DeployRun config start trace last)
    (kept : ∀ moment, moment ∈ trace -> keepsProof config moment.before moment.label = true) :
    (∀ spaceId pageId page, last.host.ledger.state.page spaceId pageId = some page ∨
        last.host.ledger.disk.page spaceId pageId = some page -> page.lifecycle = .closed ->
        Proven config trace (spaceId, pageId)) ∧
      ∀ earlier moment later env call answer claim proof rest retention, trace = later ++ moment :: earlier ->
        moment.label = .host env (.cleanupAnswered call answer) ->
        moment.before.host.calls.get? call = some (.finish claim (.closing proof rest retention)) ->
        ¬ Proven config earlier (claim.spaceId, proof.pageId) ->
        (∃ code, answer = .failed code) ∧
          (moment.after.host.ledger.state = moment.before.host.ledger.state ∨ ∃ page,
            moment.after.host.ledger.state.page claim.spaceId proof.pageId = some page ∧
              page.lifecycle = .targetLost) := by
  constructor
  · intro spaceId pageId page found closed
    have backed := DeployRun.backed run initial kept
    have known : (evidence config trace last.bridge.pages).BacksPage (spaceId, pageId) page.lifecycle := by
      obtain memory | file := found
      · exact backed.memory spaceId pageId page memory
      · exact backed.file spaceId pageId page file
    rw [closed] at known
    exact known
  · intro earlier moment later env call answer claim proof rest retention split labelled call_at unproven
    subst split
    obtain ⟨early, taken⟩ := run.before_moment
    have backed := DeployRun.backed early initial fun moment inside => kept moment (by simp [inside])
    rw [labelled] at taken
    cases deploy_cases taken with
    | host admitted stepped moved =>
      obtain ⟨_, waiting⟩ := Bool.and_eq_true_iff.mp admitted
      have known := backed.answered (beq_iff_eq.mp waiting) call_at
      cases answer with
      | closed => exact absurd known unproven
      | gone => exact absurd known unproven
      | failed code =>
        obtain ⟨_, replied⟩ := next_step stepped
        rw [moved, Deployment.moved_host]
        exact ⟨⟨code, rfl⟩, cleanupFailed_lost call_at replied⟩

section Sample

def cleanedOnce : List DeployLabel := managedOnce ++
  [.inventory 7,
   .host sampleEnv (.finishSpace 7 sampleClaim [⟨1⟩]),
   .host sampleEnv (.claimFinish 7),
   .host sampleEnv (.authorizeCleanup 7),
   .bridge 7 { deadLine with turns := [answeredWith 6 [("success", .bool true)]] } sampleArguments,
   .host sampleEnv (.cleanupAnswered 7 .closed),
   .host sampleEnv (.completeFinish 7)]

theorem cleanup_is_proven_once : ∃ trace last page,
    DeployRun sampleDeploy (.fresh sampleDeploy) trace last ∧
      last.host.ledger.state.page ⟨1⟩ ⟨1⟩ = some page ∧ page.lifecycle = .closed ∧
      Proven sampleDeploy trace (⟨1⟩, ⟨1⟩) := by
  obtain ⟨last, run, passed⟩ := advance_reaches (Deployment.next sampleDeploy) (.fresh sampleDeploy) cleanedOnce
    (fun last => pageLifecycle last.host == some .closed) (by decide)
  obtain ⟨page, found, closed⟩ := Option.map_eq_some_iff.mp (beq_iff_eq.mp passed)
  have kept := visits_all (Deployment.next sampleDeploy) cleanedOnce (.fresh sampleDeploy)
    (fun moment => keepsProof sampleDeploy moment.before moment.label) (by decide)
  have proven := (cleanup_is_proven sample_deployed run kept).1 ⟨1⟩ ⟨1⟩ page (.inl found) closed
  exact ⟨_, last, page, run, found, closed, proven⟩

def lostAndFinished : List DeployLabel := managedOnce ++
  [.host sampleEnv (.readSnapshot 8 sampleClaim ⟨1⟩),
   .bridge 8 deadLine sampleArguments,
   .host sampleEnv (.abandon 8),
   .inventory 7,
   .host sampleEnv (.finishSpace 7 sampleClaim []),
   .host sampleEnv (.claimFinish 7),
   .host sampleEnv (.authorizeCleanup 7),
   .bridge 7 deadLine sampleArguments,
   .bridge 7 deadLine sampleArguments,
   .host sampleEnv (.cleanupAnswered 7 .gone)]

/-- The page is recorded as closed although Chrome was never asked to close it. -/
theorem lost_connection_taken_as_proof : ∃ trace last page,
    DeployRun sampleDeploy (.fresh sampleDeploy) trace last ∧
      last.host.ledger.state.page ⟨1⟩ ⟨1⟩ = some page ∧ page.lifecycle = .closed ∧
      ¬ Proven sampleDeploy trace (⟨1⟩, ⟨1⟩) := by
  obtain ⟨last, run, passed⟩ := advance_reaches (Deployment.next sampleDeploy) (.fresh sampleDeploy) lostAndFinished
    (fun last => pageLifecycle last.host == some .closed) (by decide +kernel)
  obtain ⟨page, found, closed⟩ := Option.map_eq_some_iff.mp (beq_iff_eq.mp passed)
  have silent := visits_all (Deployment.next sampleDeploy) lostAndFinished (.fresh sampleDeploy)
    (fun moment => !closesTarget sampleDeploy moment (⟨1⟩, ⟨1⟩)) (by decide +kernel)
  refine ⟨_, last, page, run, found, closed, ?_⟩
  rintro ⟨moment, inside, closes⟩
  have never := silent moment inside
  rw [closes] at never
  cases never

end Sample

end AgentycHost
