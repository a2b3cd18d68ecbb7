import AgentycHost.Cdp.Deployment
import AgentycHost.Effects.Fences
import AgentycHost.Effects.Specs
import AgentycHost.System.Runs

set_option autoImplicit false

/-! # Two copies of the authority -/

namespace AgentycHost

open Shared

section Epochs

variable {config : CdpConfig} {outside : CdpOutside} {call : BridgeCall} {bridge : CdpBridgeState}
  {spaceId : SpaceId} {epoch : LeaseEpoch}

theorem AtEpoch.fence {pages : Table PageKey ManagedPage} {fenced : SpaceId} {old new : LeaseEpoch}
    (shared : AtEpoch pages spaceId epoch) (past : fenced = spaceId -> old < new ∧ new ≤ epoch) :
    AtEpoch (fence fenced (some old) new pages).2 spaceId epoch := by
  intro pageId page held
  unfold AgentycHost.fence at held
  split at held
  · exact shared pageId page held
  next acknowledged =>
    rw [Table.get?_mapValues] at held
    obtain ⟨record, found, changed⟩ := Option.map_eq_some_iff.mp held
    have known := shared pageId record found
    split at changed
    next same =>
      obtain ⟨later, reached⟩ := past same.symm
      simp only [Bool.not_eq_true, Table.any_eq_false, Bool.and_eq_false_iff] at acknowledged
      obtain other | passed := acknowledged (spaceId, pageId) record found
      · exact absurd same (by simpa using other)
      · have moved : old = record.leaseEpoch := by simpa [fenceRefuses] using passed
        exact absurd (moved.trans known) (Nat.ne_of_lt (later.trans_le reached))
    next => exact changed ▸ known

theorem AtEpoch.serve (shared : AtEpoch bridge.pages spaceId epoch)
    (creates : ∀ request, call = .createPage request -> request.spaceId = spaceId -> request.leaseEpoch = epoch)
    (fences : ∀ old new, call = .fence spaceId old new -> ∃ epoch', old = some epoch' ∧ epoch' < new ∧ new ≤ epoch) :
    AtEpoch (serve config outside call bridge).bridge.pages spaceId epoch := by
  intro pageId page held
  cases serve_pages config outside call bridge with
  | same pages => exact shared pageId page (pages ▸ held)
  | cleared _ _ pages =>
    rw [pages] at held
    cases held
  | @changed key _ change _ authority pages =>
    rw [pages, Table.get?_modify] at held
    split at held
    next same =>
      obtain ⟨old, found, rfl⟩ := Option.map_eq_some_iff.mp held
      rw [(authority old).leaseEpoch]
      exact shared pageId old (same ▸ found)
    next => exact shared pageId page held
  | closed _ _ pages =>
    rw [pages, Table.get?_erase] at held
    split at held
    next => cases held
    next => exact shared pageId page held
  | @created request targetId sessionId made_by _ pages =>
    rw [pages, Table.get?_insert] at held
    split at held
    next same =>
      cases held
      exact creates request made_by (congrArg Prod.fst same).symm
    next => exact shared pageId page held
  | @fenced fencedSpace oldEpoch newEpoch made_by pages =>
    rw [pages] at held
    by_cases same : fencedSpace = spaceId
    · subst same
      obtain ⟨old, rfl, later, reached⟩ := fences oldEpoch newEpoch made_by
      exact shared.fence (fun _ => ⟨later, reached⟩) pageId page held
    · obtain ⟨old, found, rfl | ⟨about, _⟩⟩ := fence_record held
      · exact shared pageId old found
      · exact absurd about.symm same

end Epochs

section Generations

variable {before after : LedgerState} {record : ObservedPage} {spaceId : SpaceId} {pageId : PageId}
  {page : PageDescriptor} {changed : Bool} {records : List ObservedPage}

structure Follows (record : ObservedPage) (page : PageDescriptor) : Prop where
  admits : page.admitsAgentMutations = true
  behind : (page.targetGeneration ≤ record.targetGeneration ∧ page.navigationGeneration ≤ record.navigationGeneration ∧
      page.documentGeneration ≤ record.documentGeneration) ∨
    (page.navigationGeneration = record.navigationGeneration ∧ page.documentGeneration = record.documentGeneration)

structure ShowsGenerations (record : ObservedPage) (page : PageDescriptor) : Prop where
  navigation : page.navigationGeneration = record.navigationGeneration
  document : page.documentGeneration = record.documentGeneration

structure ObservedPage.Positive (record : ObservedPage) : Prop where
  target : 0 < record.targetGeneration
  navigation : 0 < record.navigationGeneration
  document : 0 < record.documentGeneration

theorem adoptObservation_other (run : adoptObservation before record = .ok (after, changed))
    (other : (spaceId, pageId) ≠ (record.spaceId, record.pageId)) :
    after.page spaceId pageId = before.page spaceId pageId := by
  unfold adoptObservation at run
  split at run
  · obtain ⟨rfl, _⟩ := Prod.mk.inj (pure_ok.mp run)
    rfl
  · next old found =>
    obtain ⟨found, _⟩ := Option.filter_eq_some_iff.mp found
    simp only [bind_ok, pure_ok, Prod.mk.injEq] at run
    obtain ⟨_, _, _, _, rfl, _⟩ := run
    refine (LedgerState.page_changePage _ (fun _ _ => rfl) spaceId pageId).trans (if_neg ?_)
    rintro ⟨rfl, same⟩
    refine other (Prod.ext rfl ?_)
    rw [same]
    exact LedgerState.page_pageId found

theorem adoptObservations_other {changed : List ObservedPage}
    (run : adoptObservations before records = .ok (after, changed))
    (others : ∀ record, record ∈ records -> (spaceId, pageId) ≠ (record.spaceId, record.pageId)) :
    after.page spaceId pageId = before.page spaceId pageId := by
  induction records generalizing before changed with
  | nil =>
    obtain ⟨rfl, _⟩ := Prod.mk.inj (pure_ok.mp run)
    rfl
  | cons record rest ih =>
    simp only [adoptObservations, bind_ok, pure_ok, Prod.exists, Prod.mk.injEq] at run
    obtain ⟨_, _, first, _, _, remaining, rfl, _⟩ := run
    have late := ih remaining fun record inside => others record (List.mem_cons_of_mem _ inside)
    exact late.trans (adoptObservation_other first (others record List.mem_cons_self))

theorem adoptObservation_follows (run : adoptObservation before record = .ok (after, changed))
    (positive : record.Positive) (found : before.page record.spaceId record.pageId = some page)
    (follows : Follows record page) :
    ∃ next, after.page record.spaceId record.pageId = some next ∧ ShowsGenerations record next := by
  unfold adoptObservation at run
  rw [found] at run
  split at run
  · next refused =>
    obtain ⟨rfl, _⟩ := Prod.mk.inj (pure_ok.mp run)
    refine ⟨page, found, ?_⟩
    -- a record that moves nothing forward shows what the page has
    obtain ⟨admits, ⟨target, navigation, document⟩ | ⟨navigation, document⟩⟩ := follows
    · have still : adoptsObservation page record ≠ true := by
        intro adopts
        simp [Option.filter, adopts] at refused
      simp only [PageDescriptor.admitsAgentMutations, Bool.and_eq_true, beq_iff_eq] at admits
      simp only [adoptsObservation, admits, positive.target, positive.navigation, positive.document, target, navigation,
        document, beq_self_eq_true, and_self, decide_true, Bool.and_self, Bool.true_and, ne_eq, decide_eq_true_eq,
        not_or, not_lt] at still
      exact ⟨navigation.antisymm still.2.1, document.antisymm still.2.2⟩
    · exact ⟨navigation, document⟩
  · next old adopted =>
    obtain ⟨same, _⟩ := Option.filter_eq_some_iff.mp adopted
    cases same
    simp only [bind_ok, pure_ok, Prod.mk.injEq] at run
    obtain ⟨url, _, title, _, rfl, _⟩ := run
    refine ⟨{ page with
      targetGeneration := record.targetGeneration, navigationGeneration := record.navigationGeneration,
      documentGeneration := record.documentGeneration, url, title }, ?_, ⟨rfl, rfl⟩⟩
    refine (LedgerState.page_changePage _ (fun _ _ => rfl) record.spaceId record.pageId).trans ?_
    rw [if_pos ⟨rfl, (LedgerState.page_pageId found).symm⟩, found]
    rfl

theorem adoptObservations_follow {changed : List ObservedPage}
    (run : adoptObservations before records = .ok (after, changed))
    (distinct : (records.map fun record => (record.spaceId, record.pageId)).Nodup) (inside : record ∈ records)
    (positive : record.Positive) (found : before.page record.spaceId record.pageId = some page)
    (follows : Follows record page) :
    ∃ next, after.page record.spaceId record.pageId = some next ∧ ShowsGenerations record next := by
  induction records generalizing before changed with
  | nil => cases inside
  | cons first rest ih =>
    simp only [adoptObservations, bind_ok, pure_ok, Prod.exists, Prod.mk.injEq] at run
    obtain ⟨middle, _, one, _, _, remaining, rfl, _⟩ := run
    obtain ⟨fresh, distinct⟩ := List.nodup_cons.mp distinct
    have apart : ∀ other, other ∈ rest -> (first.spaceId, first.pageId) ≠ (other.spaceId, other.pageId) :=
      fun other member same => fresh (List.mem_map.mpr ⟨other, member, same.symm⟩)
    obtain rfl | inside := List.mem_cons.mp inside
    · obtain ⟨next, there, shows_⟩ := adoptObservation_follows one positive found follows
      exact ⟨next, (adoptObservations_other remaining apart).trans there, shows_⟩
    · refine ih remaining distinct inside ?_
      rw [adoptObservation_other one (apart record inside).symm]
      exact found

end Generations

def Answer.acknowledges : Answer -> Bool
  | .fenced => true
  | .fence answer => answer.acknowledged
  | _ => false

structure SharesEpochs (deployment : Deployment) : Prop where
  oldEpochs : OldEpochs deployment.host.ledger.state
  timely : ∀ key fence, deployment.host.calls.get? key = some (.fence fence) ->
    fence.request.Timely deployment.host.ledger.state
  owned : ∀ spaceId standing, deployment.host.ledger.state.standing spaceId = some standing ->
    standing.lifecycle = .agentOwned -> AtEpoch deployment.bridge.pages spaceId standing.epoch
  answered : ∀ key fence answer, deployment.answers.get? key = some { asked := .fence fence, answer } ->
    answer.acknowledges = true -> fence.request.Timely deployment.host.ledger.state ∧ ∀ standing,
      deployment.host.ledger.state.standing fence.request.spaceId = some standing ->
      standing.epoch = fence.request.fenceEpoch ->
      AtEpoch deployment.bridge.pages fence.request.spaceId standing.epoch

def PageDescriptor.behind (page : PageDescriptor) (held : ManagedPage) : Bool :=
  decide (page.targetGeneration ≤ held.targetGeneration ∧ page.navigationGeneration ≤ held.navigationGeneration ∧
      page.documentGeneration ≤ held.documentGeneration) ||
    (page.navigationGeneration == held.navigationGeneration && page.documentGeneration == held.documentGeneration)

def ObservedPage.isCurrent (record : ObservedPage) (held : ManagedPage) : Bool :=
  record.targetGeneration == held.targetGeneration && record.navigationGeneration == held.navigationGeneration &&
    record.documentGeneration == held.documentGeneration

/-- A step that keeps the copies together. -/
def keepsAuthority (before : Deployment) : DeployLabel -> Bool
  | .host _ (.acquireLease spaceId _ now _) =>
      -- a new lease is granted only when the bridge holds no page of the space
      ((before.host.ledger.state.spaces.get? spaceId).any fun space =>
          isLeased space.lease now || space.lifecycle == .userOwned || isFenceLifecycle space.lifecycle) ||
        before.bridge.pages.keys.all fun key => key.1 != spaceId
  | .host _ (.observePages observation) =>
      -- the inventory is current, and no page of the ledger is ahead of it
      before.bridge.pages.all fun key held =>
        (before.host.ledger.state.page key.1 key.2).all fun page => !page.admitsAgentMutations ||
          (page.behind held && (findObserved key.1 key.2 observation).any fun record => record.isCurrent held)
  | .bridge call _ arguments =>
      match (before.host.calls.get? call).bind fun asked => asked.nextBridgeCall arguments (before.answered call) with
      | some (.createPage request) =>
          -- a creation arrives under the epoch of the space
          (before.host.ledger.state.spaces.get? request.spaceId).all fun space => space.epoch == request.leaseEpoch
      | _ => true
  | _ => true

section Steps

variable {config : DeployConfig} {label : DeployLabel} {before after : Deployment} {request : BridgeCall}
  {asked : Call} {outside : CdpOutside} {arguments : CreationArguments} {call : Nat}

theorem SharesEpochs.after_serve {spaceId : SpaceId} {standing : Standing} (shares : SharesEpochs before)
    (kept : keepsAuthority before (.bridge call outside arguments) = true)
    (call_at : before.host.calls.get? call = some asked)
    (asks : asked.nextBridgeCall arguments (before.answered call) = some request)
    (found : before.host.ledger.state.standing spaceId = some standing)
    (shared : AtEpoch before.bridge.pages spaceId standing.epoch) :
    AtEpoch (serve config.cdp outside request before.bridge).bridge.pages spaceId standing.epoch := by
  refine shared.serve ?_ ?_
  · rintro creation rfl rfl
    obtain ⟨space, located, rfl⟩ := Option.map_eq_some_iff.mp found
    simp only [keepsAuthority, call_at, asks, Option.bind_some, located, Option.all_some, beq_iff_eq] at kept
    exact kept.symm
  · rintro old new rfl
    obtain ⟨fence, rfl, _, rfl, rfl, rfl⟩ := fence_asked asks
    have timely := shares.timely call fence call_at
    obtain ⟨epoch, recorded, older⟩ := timely.older
    exact ⟨epoch, recorded, older, timely.reached standing found⟩

theorem SharesEpochs.bridge_step {answer : Answer} (shares : SharesEpochs before)
    (kept : keepsAuthority before (.bridge call outside arguments) = true)
    (call_at : before.host.calls.get? call = some asked)
    (asks : asked.nextBridgeCall arguments (before.answered call) = some request)
    (noted : asked.note (before.answered call) (serve config.cdp outside request before.bridge).reply = some answer) :
    SharesEpochs { before with
      bridge := (serve config.cdp outside request before.bridge).bridge
      answers := before.answers.insert call { asked, answer } } := by
  refine ⟨shares.oldEpochs, shares.timely, fun spaceId standing found owned => ?_, fun key fence reply waiting yes => ?_⟩
  · exact shares.after_serve kept call_at asks found (shares.owned spaceId standing found owned)
  · rw [Table.get?_insert] at waiting
    split_ifs at waiting with same
    · -- the answer that the bridge has just given
      cases waiting
      refine ⟨shares.timely call fence call_at, fun standing found current => ?_⟩
      generalize prior : before.answered call = earlier at asks noted
      cases earlier with
      | none =>
        cases asks
        have acknowledged : (AgentycHost.fence fence.request.spaceId fence.request.oldEpoch fence.request.fenceEpoch
            before.bridge.pages).1 = true := by
          cases noted
          split_ifs at yes with both
          · exact (Bool.and_eq_true_iff.mp both).1
          · exact yes
        rw [current]
        exact fence_atEpoch acknowledged
      | some _ => cases asks
    · obtain ⟨timely, known⟩ := shares.answered key fence reply waiting yes
      exact ⟨timely, fun standing found current => shares.after_serve kept call_at asks found (known standing found current)⟩

section Host

variable {env : Environment} {command : Command} {host : System} {spaceId : SpaceId} {standing : Standing}

theorem SharesEpochs.owned_step {state : LedgerState} (shares : SharesEpochs before)
    (valid : Valid config.host.ledger before.host.ledger.state)
    (kept : keepsAuthority before (.host env command) = true) (admitted : before.admits env command = true)
    (taken : LedgerStep config.host.ledger before.host.calls command before.host.ledger.state state)
    (found : state.standing spaceId = some standing) (owned : standing.lifecycle = .agentOwned) :
    AtEpoch before.bridge.pages spaceId standing.epoch := by
  have move := (taken.spaceEffect valid).standing spaceId
  have earlier := shares.owned spaceId
  rw [found] at move
  generalize was : before.host.ledger.state.standing spaceId = old at move earlier
  generalize last : some standing = new at move
  cases move with
  | keep => exact earlier standing last.symm owned
  | @granted old lease holder authority now ttl made_by notUser notFence lapsed =>
    subst made_by
    obtain ⟨space, located, rfl⟩ := Option.map_eq_some_iff.mp was
    have free : before.bridge.pages.keys.all (fun key => key.1 != spaceId) = true := by
      have leased : isLeased space.lease now = false := lapsed
      have user : (space.lifecycle == .userOwned) = false := beq_eq_false_iff_ne.mpr notUser
      have fenced : isFenceLifecycle space.lifecycle = false := notFence
      simpa [keepsAuthority, located, leased, user, fenced] using kept
    intro pageId page held
    have inside := (Table.mem_keys _ _).mpr ((Table.contains_iff _ _).mpr ⟨page, held⟩)
    simpa using List.all_eq_true.mp free _ inside
  | @renewed old lease next leased _ epoch =>
    cases last
    have known := earlier old rfl owned
    simpa [Standing.epoch, leased, epoch] using known
  | @reclaimed old call fence answer made_by call_at acknowledged inside epoch =>
    cases last
    subst made_by inside
    obtain ⟨_, waiting⟩ := Bool.and_eq_true_iff.mp admitted
    obtain ⟨_, there, same⟩ := Deployment.answered_cases (beq_iff_eq.mp waiting)
    cases same.symm.trans call_at
    exact (shares.answered call fence _ there acknowledged).2 old was epoch
  | suspended _ _ kind =>
    cases last
    obtain rfl | rfl := kind <;> cases owned
  | finished _ _ _ final =>
    cases last
    obtain rfl | rfl := final <;> cases owned
  | pruned => cases last
  | _ =>
    cases last
    cases owned

theorem SharesEpochs.host_step (shares : SharesEpochs before) (sound : Sound config.host.ledger before.host.ledger)
    (numbered : SpacesNumbered before.host.ledger.state) (kept : keepsAuthority before (.host env command) = true)
    (admitted : before.admits env command = true) (running : ∀ failures, command ≠ .restart failures)
    (taken : next config.host (env, command) before.host = some host) :
    SharesEpochs (before.moved command host) := by
  obtain ⟨bridge, answers⟩ := before.moved_running host running
  have later : LedgerLater before.host.ledger.state host.ledger.state := sound.later taken
  obtain ⟨_, replied⟩ := next_step taken
  have moved : host.ledger.state = before.host.ledger.state ∨
      LedgerStep config.host.ledger before.host.calls command before.host.ledger.state host.ledger.state := by
    obtain ledger | ⟨failures, _, restarts, _⟩ := next_ledger taken
    · generalize host.ledger = changed at ledger
      cases ledger with
      | same => exact .inl rfl
      | committed made => exact .inr made
      | written => exact .inl rfl
    · exact absurd restarts (running failures)
  refine ⟨?_, fun key fence found => ?_, fun spaceId standing found owned => ?_, fun key fence answer found yes => ?_⟩
  · rw [Deployment.moved_host]
    obtain same | made := moved
    · rw [same]
      exact shares.oldEpochs
    · exact made.oldEpochs shares.oldEpochs
  · rw [Deployment.moved_host] at found ⊢
    obtain earlier | timely := step_timely sound.valid shares.oldEpochs numbered later replied found
    · exact (shares.timely key fence earlier).later later
    · exact timely
  · rw [Deployment.moved_host] at found
    rw [bridge]
    obtain same | made := moved
    · exact shares.owned spaceId standing (same ▸ found) owned
    · exact shares.owned_step sound.valid kept admitted made found owned
  · rw [Deployment.moved_host, bridge]
    obtain ⟨timely, known⟩ := shares.answered key fence answer (answers key _ found) yes
    refine ⟨timely.later later, fun standing found current => ?_⟩
    obtain ⟨old, was, same⟩ := timely.unmoved later found current
    rw [← same]
    exact known old was (same.trans current)

end Host

theorem SharesEpochs.restart {env : Environment} {failures : Nat} {host : System}
    (taken : next config.host (env, .restart failures) before.host = some host) :
    SharesEpochs (before.moved (.restart failures) host) := by
  obtain ⟨_, replied⟩ := next_step taken
  obtain ⟨state, opened, rfl⟩ := restart_cases replied
  refine ⟨fun spaceId pending found => ?_, fun key fence found => ?_, fun spaceId standing found owned pageId page held => ?_,
    fun key fence answer found => ?_⟩
  · rw [Deployment.moved_host] at found
    change state.pendingFences.get? spaceId = some pending at found
    rw [reopenLedger_pendingFences opened] at found
    cases found
  · simp [System.opened] at found
  · cases held
  · simp [Deployment.moved] at found

theorem SharesEpochs.step (shares : SharesEpochs before) (sound : Sound config.host.ledger before.host.ledger)
    (numbered : SpacesNumbered before.host.ledger.state) (kept : keepsAuthority before label = true)
    (taken : Deployment.next config label before = some after) : SharesEpochs after := by
  cases deploy_cases taken with
  | @host env command host admitted stepped moved =>
    rw [moved]
    by_cases restarts : ∃ failures, command = .restart failures
    · obtain ⟨failures, rfl⟩ := restarts
      exact .restart stepped
    · exact shares.host_step sound numbered kept admitted (fun failures same => restarts ⟨failures, same⟩) stepped
  | bridge call_at asks noted moved =>
    rw [moved]
    exact shares.bridge_step kept call_at asks noted
  | @rebind call extension fence call_at fenced moved =>
    rw [moved]
    refine ⟨shares.oldEpochs, shares.timely, shares.owned, fun key other answer found yes => ?_⟩
    rw [Table.get?_insert] at found
    split_ifs at found with same
    · -- the pages come after an acknowledged fence
      cases found
      obtain ⟨_, there, asked⟩ := Deployment.answered_cases fenced
      cases asked.symm.trans call_at
      exact shares.answered call _ _ there rfl
    · exact shares.answered key other answer found yes
  | inventory moved =>
    rw [moved]
    exact ⟨shares.oldEpochs, shares.timely, shares.owned, shares.answered⟩

structure Inventoried (deployment : Deployment) : Prop where
  positive : ∀ key page, deployment.bridge.pages.get? key = some page -> page.Positive
  distinct : ∀ reader pages, deployment.inventories.get? reader = some pages ->
    (pages.map fun record => (record.spaceId, record.pageId)).Nodup

theorem observe_distinct (pages : Table PageKey ManagedPage) :
    ((observe pages).map fun record => (record.spaceId, record.pageId)).Nodup := by
  have keys : (observe pages).map (fun record => (record.spaceId, record.pageId)) = pages.entries.map Prod.fst := by
    rw [observe, List.map_map]
    rfl
  rw [keys]
  exact pages.nodup

theorem serve_positive {cdp : CdpConfig} {call : BridgeCall} {bridge : CdpBridgeState}
    (positive : ∀ key page, bridge.pages.get? key = some page -> page.Positive) (key : PageKey)
    (page : ManagedPage) (held : (serve cdp outside call bridge).bridge.pages.get? key = some page) :
    page.Positive := by
  cases serve_pages cdp outside call bridge with
  | same pages => exact positive key page (pages ▸ held)
  | cleared _ _ pages =>
    rw [pages] at held
    cases held
  | @changed other _ change _ authority pages =>
    rw [pages, Table.get?_modify] at held
    split_ifs at held
    · obtain ⟨old, found, rfl⟩ := Option.map_eq_some_iff.mp held
      exact (authority old).positive (positive other old found)
    · exact positive key page held
  | closed _ _ pages =>
    rw [pages, Table.get?_erase] at held
    split_ifs at held
    exact positive key page held
  | created _ _ pages =>
    rw [pages, Table.get?_insert] at held
    split_ifs at held
    · cases held
      exact ⟨Nat.one_pos, Nat.one_pos, Nat.one_pos⟩
    · exact positive key page held
  | fenced _ pages =>
    rw [pages] at held
    obtain ⟨old, found, rfl | ⟨_, rfl⟩⟩ := fence_record held
    · exact positive key old found
    · exact ⟨(positive key old found).target, (positive key old found).navigation, (positive key old found).document⟩

theorem Inventoried.empty {deployment : Deployment} (pages : deployment.bridge.pages = ∅)
    (inventories : deployment.inventories = ∅) : Inventoried deployment where
  positive key page found := by
    rw [pages] at found
    cases found
  distinct reader observed found := by
    rw [inventories] at found
    cases found

theorem Inventoried.step (inventoried : Inventoried before) (taken : Deployment.next config label before = some after) :
    Inventoried after := by
  cases deploy_cases taken with
  | @host _ command _ _ _ moved =>
    rw [moved]
    unfold Deployment.moved
    split
    · exact .empty rfl rfl
    · exact ⟨inventoried.positive, inventoried.distinct⟩
  | bridge _ _ _ moved =>
    rw [moved]
    exact ⟨serve_positive inventoried.positive, inventoried.distinct⟩
  | rebind _ _ moved =>
    rw [moved]
    exact ⟨inventoried.positive, inventoried.distinct⟩
  | inventory moved =>
    rw [moved]
    refine ⟨inventoried.positive, fun reader pages found => ?_⟩
    rw [Table.get?_insert] at found
    split_ifs at found
    · cases found
      exact observe_distinct _
    · exact inventoried.distinct reader pages found

end Steps

section Runs

variable {config : DeployConfig} {start last : Deployment} {trace : List (Moment Deployment DeployLabel)}

theorem DeployRun.inventoried (run : DeployRun config start trace last) (initial : DeployInitial config start) :
    Inventoried last := by
  refine run.keeps Inventoried ?_ fun _ _ taken inventoried => inventoried.step taken
  rw [initial.1]
  exact .empty rfl rfl

theorem DeployRun.shares (run : DeployRun config start trace last) (initial : DeployInitial config start)
    (kept : ∀ moment, moment ∈ trace -> keepsAuthority moment.before moment.label = true) : SharesEpochs last := by
  induction run with
  | nil =>
    rw [initial.1]
    refine ⟨(fun _ _ found => by cases found), fun key fence found => ?_, fun spaceId standing found owned pageId page held => ?_,
      fun key fence answer found => ?_⟩
    · simp [Deployment.fresh, System.fresh, System.opened] at found
    · cases held
    · simp [Deployment.fresh] at found
  | @step trace before after label earlier taken ih =>
    have shares := ih fun moment inside => kept moment (List.mem_cons_of_mem _ inside)
    exact shares.step (DeployRun.sound earlier initial) (HostRun.numbered (DeployRun.hostRun earlier) initial.2)
      (kept _ List.mem_cons_self) taken

/-- The ledger and the bridge agree on the generations of the pages that both of them have. -/
def SharesGenerations (deployment : Deployment) : Prop :=
  ∀ spaceId pageId page held, deployment.host.ledger.state.page spaceId pageId = some page ->
    page.lifecycle = .managed -> page.binding = .bound -> deployment.bridge.pages.get? (spaceId, pageId) = some held ->
    page.navigationGeneration = held.navigationGeneration ∧ page.documentGeneration = held.documentGeneration

theorem inventory_committed {before after : Deployment} {env : Environment} {observation : List ObservedPage}
    {host : System} (inventoried : Inventoried before) (valid : Valid config.host.ledger before.host.ledger.state)
    (kept : keepsAuthority before (.host env (.observePages observation)) = true)
    (admitted : before.admits env (.observePages observation) = true)
    (replied : step config.host env (.observePages observation) before.host = some (host, .ok ()))
    (reached : after.host = host) (bridge : after.bridge = before.bridge) : SharesGenerations after := by
  have committed : (before.host.commit config.host env (reconcileBridgePages observation)).1 = host ∧
      (before.host.commit config.host env (reconcileBridgePages observation)).2.map (fun _ => ()) = .ok () :=
    Prod.mk.inj (Option.some.inj replied)
  obtain ⟨value, done⟩ : ∃ value, (before.host.commit config.host env (reconcileBridgePages observation)).2 =
      .ok value := by
    cases ended : (before.host.commit config.host env (reconcileBridgePages observation)).2 with
    | ok value => exact ⟨value, rfl⟩
    | error => simp [ended, Except.map] at committed
  obtain ⟨state, run, drained⟩ := commit_ok (Prod.ext committed.1 done)
  simp only [reconcileBridgePages, bind_ok, pure_ok, Prod.exists, Prod.mk.injEq] at run
  obtain ⟨adopted, changed, adopting, final, appended, _, rfl⟩ := run
  have spaces : host.ledger.state.spaces = adopted.spaces := by
    rw [drained]
    exact (drainEvents_same _ _).spaces.trans (foldlM_events (fun _ _ _ => pageChanged_same) appended).spaces
  intro spaceId pageId page held found managed bound present
  rw [reached, LedgerState.page, spaces] at found
  rw [bridge] at present
  obtain ⟨_, gone⟩ | ⟨old, new, was, now, raised⟩ := adoptObservations_raised adopting spaceId pageId
  · simp [LedgerState.page, found] at gone
  obtain rfl : new = page := Option.some.inj (now.symm.trans found)
  have admits := valid.managed_admits was (raised.lifecycle.symm.trans managed)
  -- the inventory has the record of the page, as it is in the bridge
  simp only [keepsAuthority, Table.all_eq_true] at kept
  have known := kept (spaceId, pageId) held present
  simp only [was, Option.all_some, admits, Bool.not_true, Bool.false_or, Bool.and_eq_true] at known
  obtain ⟨behind, shown⟩ := known
  obtain ⟨record, listed, current⟩ := Option.any_eq_true _ _ |>.mp shown
  clear shown
  have inside := List.mem_of_find?_eq_some listed
  have named := List.find?_some listed
  simp only [Bool.and_eq_true, beq_iff_eq] at named
  obtain ⟨rfl, rfl⟩ := named
  simp only [ObservedPage.isCurrent, Bool.and_eq_true, beq_iff_eq] at current
  obtain ⟨⟨target, navigation⟩, document⟩ := current
  have positive := inventoried.positive _ held present
  have follows : Follows record old := by
    refine ⟨admits, ?_⟩
    rw [target, navigation, document]
    simpa [PageDescriptor.behind] using behind
  have distinct : (observation.map fun record => (record.spaceId, record.pageId)).Nodup := by
    obtain ⟨_, taken⟩ := Bool.and_eq_true_iff.mp admitted
    obtain ⟨reader, pages, taken, same⟩ := (Table.any_eq_true _ _).mp taken
    exact beq_iff_eq.mp same ▸ inventoried.distinct reader pages taken
  have counted : record.Positive :=
    ⟨target ▸ positive.target, navigation ▸ positive.navigation, document ▸ positive.document⟩
  obtain ⟨final, there, follows⟩ := adoptObservations_follow adopting distinct inside counted was follows
  obtain rfl : final = new := Option.some.inj (there.symm.trans now)
  exact ⟨follows.navigation.trans navigation, follows.document.trans document⟩

variable {env : Environment} {observation : List ObservedPage} {host : System}

/-- In a run whose steps keep the copies together, the bridge holds the pages of an owned space under the epoch
of its lease, and a committed inventory leaves the ledger with the generations of the bridge. -/
theorem authority_is_shared (initial : DeployInitial config start) (run : DeployRun config start trace last)
    (kept : ∀ moment, moment ∈ trace -> keepsAuthority moment.before moment.label = true) :
    (∀ spaceId space lease, last.host.ledger.state.spaces.get? spaceId = some space ->
      space.lifecycle = .agentOwned -> space.lease = some lease -> AtEpoch last.bridge.pages spaceId lease.leaseEpoch) ∧
    (∀ spaceId authority leaseEpoch now,
      authorizeSpace last.host.ledger.state spaceId authority leaseEpoch now true = .ok () ->
      AtEpoch last.bridge.pages spaceId leaseEpoch) ∧
    ∀ moment env observation host, moment ∈ trace -> moment.label = .host env (.observePages observation) ->
      step config.host env (.observePages observation) moment.before.host = some (host, .ok ()) ->
      SharesGenerations moment.after := by
  have shares := DeployRun.shares run initial kept
  refine ⟨fun spaceId space lease found owned leased => ?_, fun spaceId authority leaseEpoch now allowed => ?_, ?_⟩
  · have known := shares.owned spaceId _ (standing_some found) owned
    simpa [Standing.epoch, SpaceDescriptor.standing, leased] using known
  · obtain ⟨space, lease, authorized⟩ := authorizeSpace_ok.mp allowed
    have known := shares.owned spaceId _ (standing_some authorized.found) (authorized.admits rfl)
    simpa [Standing.epoch, SpaceDescriptor.standing, authorized.leased, authorized.epoch] using known
  · rintro ⟨before, label, after⟩ env observation host inside rfl replied
    have kept := kept _ inside
    obtain ⟨earlier, later, first, taken, _⟩ := run.at_moment inside
    cases deploy_cases taken with
    | @host _ _ reached admitted stepped moved =>
      obtain ⟨_, again⟩ := next_step stepped
      obtain rfl : host = reached := (Prod.mk.inj (Option.some.inj (replied.symm.trans again))).1
      refine inventory_committed (DeployRun.inventoried first initial) (DeployRun.sound first initial).valid kept admitted
        replied ?_ ?_
      · rw [moved, Deployment.moved_host]
      · rw [moved]
        exact (before.moved_running host fun _ => Command.noConfusion).1

end Runs

section Sample

theorem authority_is_shared_once : ∃ trace last,
    DeployRun sampleDeploy (.fresh sampleDeploy) trace last ∧ AtEpoch last.bridge.pages ⟨1⟩ 1 ∧
      last.bridge.pages.contains (⟨1⟩, ⟨1⟩) = true ∧ SharesGenerations last := by
  obtain ⟨middle, first, passed⟩ := advance_reaches (Deployment.next sampleDeploy) (.fresh sampleDeploy)
    (managedOnce ++ [.inventory 8])
    (fun middle => keepsAuthority middle (.host sampleEnv (.observePages sampleInventory)) &&
      (step sampleDeploy.host sampleEnv (.observePages sampleInventory) middle.host).any (fun reply => reply.2 == .ok ()) &&
      (Deployment.next sampleDeploy (.host sampleEnv (.observePages sampleInventory)) middle).any fun last =>
        authorizeSpace last.host.ledger.state ⟨1⟩ sampleTicket 1 50 true == .ok () &&
          last.bridge.pages.contains (⟨1⟩, ⟨1⟩)) (by decide +kernel)
  have early := visits_all (Deployment.next sampleDeploy) (managedOnce ++ [.inventory 8]) (.fresh sampleDeploy)
    (fun moment => keepsAuthority moment.before moment.label) (by decide)
  simp only [Bool.and_eq_true] at passed
  obtain ⟨⟨keeps, replied⟩, passed⟩ := passed
  obtain ⟨last, taken, passed⟩ := (Option.any_eq_true _ _).mp passed
  obtain ⟨⟨host, result⟩, replied, done⟩ := (Option.any_eq_true _ _).mp replied
  obtain rfl := beq_iff_eq.mp done
  obtain ⟨allowed, held⟩ := Bool.and_eq_true_iff.mp passed
  have run : DeployRun sampleDeploy (.fresh sampleDeploy) _ last := .step first taken
  obtain ⟨_, epochs, generations⟩ :=
    authority_is_shared sample_deployed run (List.forall_mem_cons.mpr ⟨keeps, early⟩)
  exact ⟨_, last, run, epochs ⟨1⟩ sampleTicket 1 50 (beq_iff_eq.mp allowed), held,
    generations _ sampleEnv sampleInventory host List.mem_cons_self rfl replied⟩

def leasedAgain : List DeployLabel := managedOnce ++ [.host sampleEnv (.acquireLease ⟨1⟩ sampleTicket 2000 1000)]

/-- The new lease never reached the bridge, which still has the page under the epoch of the old one. -/
theorem new_lease_unknown_to_bridge : ∃ trace last space lease page held,
    DeployRun sampleDeploy (.fresh sampleDeploy) trace last ∧
      (∀ moment, moment ∈ trace -> moment.after.bridge.client.usable = true) ∧
      last.host.ledger.state.spaces.get? ⟨1⟩ = some space ∧ space.lifecycle = .agentOwned ∧ space.lease = some lease ∧
      lease.state = .active ∧ space.page ⟨1⟩ = some page ∧ page.lifecycle = .managed ∧ page.binding = .bound ∧
      last.bridge.pages.get? (⟨1⟩, ⟨1⟩) = some held ∧ held.leaseEpoch ≠ lease.leaseEpoch := by
  obtain ⟨last, run, passed⟩ := advance_reaches (Deployment.next sampleDeploy) (.fresh sampleDeploy) leasedAgain
    (fun last => (last.host.ledger.state.spaces.get? ⟨1⟩).any fun space => space.lifecycle == .agentOwned &&
      (space.lease.any fun lease => lease.state == .active &&
        ((space.page ⟨1⟩).any fun page => page.lifecycle == .managed && page.binding == .bound &&
          ((last.bridge.pages.get? (⟨1⟩, ⟨1⟩)).any fun held => held.leaseEpoch != lease.leaseEpoch)))) (by decide +kernel)
  have usable := visits_all (Deployment.next sampleDeploy) leasedAgain (.fresh sampleDeploy)
    (fun moment => moment.after.bridge.client.usable) (by decide +kernel)
  obtain ⟨space, found, passed⟩ := (Option.any_eq_true _ _).mp passed
  obtain ⟨owned, passed⟩ := Bool.and_eq_true_iff.mp passed
  obtain ⟨lease, leased, passed⟩ := (Option.any_eq_true _ _).mp passed
  obtain ⟨active, passed⟩ := Bool.and_eq_true_iff.mp passed
  obtain ⟨page, listed, passed⟩ := (Option.any_eq_true _ _).mp passed
  obtain ⟨stands, passed⟩ := Bool.and_eq_true_iff.mp passed
  obtain ⟨managed, bound⟩ := Bool.and_eq_true_iff.mp stands
  obtain ⟨held, present, apart⟩ := (Option.any_eq_true _ _).mp passed
  exact ⟨_, last, space, lease, page, held, run, usable, found, beq_iff_eq.mp owned, leased, beq_iff_eq.mp active, listed,
    beq_iff_eq.mp managed, beq_iff_eq.mp bound, present, bne_iff_ne.mp apart⟩

end Sample

end AgentycHost

/-! # Admission by the broker and by the core -/

namespace AgentycHost

open Shared

variable {config : LedgerConfig} {state : LedgerState} {spaceId : SpaceId} {authority : AuthorityTicket}
  {leaseEpoch : LeaseEpoch} {now : Timestamp} {lease : Lease} {space : SpaceDescriptor}

theorem SpaceDescriptor.validateMutationAdmission_ok {principalId : PrincipalId} (leased : space.lease = some lease) :
    space.validateMutationAdmission principalId leaseEpoch now = .ok () <->
      space.lifecycle.admitsMutations = true ∧ space.owner = principalId ∧ lease.principalId = principalId ∧
        lease.leaseEpoch = leaseEpoch ∧ lease.isExpiredAt now = false := by
  unfold SpaceDescriptor.validateMutationAdmission
  rw [leased]
  cases admits : space.lifecycle.admitsMutations with
  | false => simp
  | true =>
    by_cases owned : space.owner = principalId
    · by_cases held : lease.principalId = principalId
      · by_cases current : lease.leaseEpoch = leaseEpoch
        · cases expired : lease.isExpiredAt now <;> simp [owned, held, current, expired]
        · simp [owned, held, current]
      · simp [owned, held]
    · simp [owned]

theorem Valid.space_named (valid : Valid config state) (found : state.spaces.get? spaceId = some space) :
    space.spaceId = spaceId := by
  obtain ⟨earlier, checked⟩ := forEachAfter_mem (valid_iff.mp valid).spaces ((Table.mem_entries _ _ _).mpr found)
  simp only [validateSpace, bind_ok, require_ok, beq_iff_eq] at checked
  obtain ⟨_, named, _⟩ := checked
  exact named

theorem Lease.acceptsEpochAt_active (active : lease.state = .active) (epoch : lease.leaseEpoch = leaseEpoch)
    (unexpired : now < lease.expiresAt) :
    lease.isExpiredAt now = false ∧ lease.acceptsEpochAt leaseEpoch now = true := by
  have current : lease.isExpiredAt now = false := by
    unfold Lease.isExpiredAt
    rw [active, decide_eq_false (Nat.not_le.mpr unexpired)]
    rfl
  refine ⟨current, ?_⟩
  simp [Lease.acceptsEpochAt, Lease.acceptsEpoch, active, epoch, current]

theorem Valid.agent_lease (valid : Valid config state) (found : state.spaces.get? spaceId = some space)
    (agent : space.lifecycle = .agentOwned) (leased : space.lease = some lease) :
    lease.state = .active ∧ lease.principalId = space.owner := by
  have matched := valid.matches_lease found
  unfold lifecycleMatchesLease at matched
  rw [agent, leased] at matched
  simpa [leaseStateIn] using matched

/-- A mutation that the broker authorizes is admitted by the descriptor it authorizes. -/
theorem authorizeSpace_admitted (valid : validateState config.codec config.limits state = .ok ())
    (allowed : authorizeSpace state spaceId authority leaseEpoch now true = .ok ()) :
    ∃ space lease, state.spaces.get? spaceId = some space ∧ space.spaceId = spaceId ∧
      space.lease = some lease ∧ lease.acceptsEpochAt leaseEpoch now = true ∧
      space.validateMutationAdmission authority.principalId leaseEpoch now = .ok () := by
  obtain ⟨space, lease, authorized⟩ := authorizeSpace_ok.mp allowed
  have agent := authorized.admits rfl
  have named := Valid.space_named valid authorized.found
  have owned := (Valid.agent_lease valid authorized.found agent authorized.leased).2
  have current := Lease.acceptsEpochAt_active authorized.active authorized.epoch authorized.unexpired
  refine ⟨space, lease, authorized.found, named, authorized.leased, current.2, ?_⟩
  rw [SpaceDescriptor.validateMutationAdmission_ok authorized.leased]
  refine ⟨by simp [SpaceLifecycle.admitsMutations, agent], ?_, authorized.principal, authorized.epoch, current.1⟩
  rw [← owned]
  exact authorized.principal

theorem authorizeSpace_admitted_sample : ∃ last : System, ∃ space lease,
    last.ledger.state.spaces.get? ⟨1⟩ = some space ∧ space.spaceId = ⟨1⟩ ∧ space.lease = some lease ∧
      lease.acceptsEpochAt 1 30 = true ∧
      space.validateMutationAdmission sampleTicket.principalId 1 30 = .ok () := by
  obtain ⟨last, run, passed⟩ := advance_reaches (next sampleConfig) (.fresh sampleConfig) sampleStart
    (fun last => (authorizeSpace last.ledger.state ⟨1⟩ sampleTicket 1 30 true).toBool) (by decide)
  have sound := HostRun.sound run sample_initial
  exact ⟨last, authorizeSpace_admitted sound.valid (toBool_ok.mp passed)⟩

end AgentycHost
