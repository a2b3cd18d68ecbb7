import AgentycHost.Effects.Recovery

set_option autoImplicit false

/-! # What a step does to a page -/

namespace AgentycHost

open Shared

variable {space : SpaceDescriptor} {page : PageDescriptor}

namespace PageDescriptor

structure Rises (old new : PageDescriptor) : Prop where
  target : old.targetGeneration ≤ new.targetGeneration
  navigation : old.navigationGeneration ≤ new.navigationGeneration
  document : old.documentGeneration ≤ new.documentGeneration

variable {first second third : PageDescriptor}

theorem Rises.refl (page : PageDescriptor) : page.Rises page := ⟨le_rfl, le_rfl, le_rfl⟩

theorem Rises.trans (left : first.Rises second) (right : second.Rises third) : first.Rises third :=
  ⟨left.target.trans right.target, left.navigation.trans right.navigation, left.document.trans right.document⟩

structure Raised (old new : PageDescriptor) : Prop where
  rises : old.Rises new
  lifecycle : new.lifecycle = old.lifecycle
  ownership : new.ownership = old.ownership
  binding : new.binding = old.binding

theorem Raised.refl (page : PageDescriptor) : page.Raised page := ⟨.refl page, rfl, rfl, rfl⟩

theorem Raised.trans (left : first.Raised second) (right : second.Raised third) : first.Raised third :=
  ⟨left.rises.trans right.rises, right.lifecycle.trans left.lifecycle, right.ownership.trans left.ownership,
    right.binding.trans left.binding⟩

end PageDescriptor

variable {config : LedgerConfig} {calls : Table Nat Call} {command : Command} {before middle after : LedgerState}
  {spaceId : SpaceId} {pageId : PageId}

inductive PageMove (calls : Table Nat Call) (command : Command) (spaceId : SpaceId) (pageId : PageId) :
    Option PageDescriptor -> Option PageDescriptor -> Prop where
  | keep (page : Option PageDescriptor) : PageMove calls command spaceId pageId page page
  | created (label : String) : PageMove calls command spaceId pageId none (some (plannedPage spaceId pageId label))
  | raised {old new : PageDescriptor} (raised : old.Raised new) :
      PageMove calls command spaceId pageId (some old) (some new)
  | bound {old new : PageDescriptor} {target : BoundTarget} (made_by : BindsPage calls command spaceId pageId target)
      (open_ : permitsBinding old.lifecycle = true) (managed : new.lifecycle = .managed)
      (targetGeneration : new.targetGeneration = target.targetGeneration.getD (old.targetGeneration + 1))
      (navigationGeneration :
        new.navigationGeneration = target.navigationGeneration.getD (old.navigationGeneration + 1))
      (documentGeneration : new.documentGeneration = target.documentGeneration.getD (old.documentGeneration + 1)) :
      PageMove calls command spaceId pageId (some old) (some new)
  | lost {old new : PageDescriptor} (rises : old.Rises new)
      (cause : LosesPage calls command spaceId pageId ∨ old.lifecycle ≠ .closed) (lost : new.lifecycle = .targetLost) :
      PageMove calls command spaceId pageId (some old) (some new)
  | rebinding {old new : PageDescriptor} (rises : old.Rises new) (open_ : old.lifecycle ≠ .closed)
      (rebinding : new.lifecycle = .rebinding) : PageMove calls command spaceId pageId (some old) (some new)
  | closing {old new : PageDescriptor} (rises : old.Rises new)
      (open_ : old.lifecycle = .managed ∨ old.lifecycle = .closing) (closing : new.lifecycle = .closing) : PageMove calls command spaceId pageId (some old) (some new)
  | closed {old new : PageDescriptor} (made_by : ClosesPage calls command spaceId pageId) (rises : old.Rises new)
      (closing : old.lifecycle = .closing) (closed : new.lifecycle = .closed) :
      PageMove calls command spaceId pageId (some old) (some new)
  | returned {old : PageDescriptor} {call : Nat} {fence : FenceCall} {answer : FenceAnswer}
      (made_by : command = .fenceAnswered call answer) (call_at : calls.get? call = some (.fence fence))
      (completed : fence.completion answer = .userReturn) (inside : fence.request.spaceId = spaceId) :
      PageMove calls command spaceId pageId (some old) (some (returnedPage old))
  | reclaimed {old : PageDescriptor} {call : Nat} {fence : FenceCall} {answer : FenceAnswer}
      (made_by : command = .fenceAnswered call answer) (call_at : calls.get? call = some (.fence fence))
      (inside : fence.request.spaceId = spaceId) :
      PageMove calls command spaceId pageId (some old) (some (reclaimedPage old))
  | pruned {old : PageDescriptor} : PageMove calls command spaceId pageId (some old) none

structure PageEffect (calls : Table Nat Call) (command : Command) (before after : LedgerState) : Prop where
  move : ∀ spaceId pageId,
    PageMove calls command spaceId pageId (before.page spaceId pageId) (after.page spaceId pageId)
  gone : ∀ spaceId pageId, before.page spaceId pageId ≠ none -> after.page spaceId pageId = none ->
    after.spaces.get? spaceId = none

section Lookups

theorem SpaceDescriptor.page_pageId (found : space.page pageId = some page) : page.pageId = pageId := by
  simpa using List.find?_some found

theorem LedgerState.page_pageId (found : before.page spaceId pageId = some page) : page.pageId = pageId := by
  obtain ⟨_, _, found⟩ := Option.bind_eq_some_iff.mp found
  exact SpaceDescriptor.page_pageId found

theorem SpaceDescriptor.page_map {pages : List PageDescriptor} (space : SpaceDescriptor) (change : PageDescriptor -> PageDescriptor)
    (same : ∀ page, (change page).pageId = page.pageId) (kept : pages = space.pages.map change) :
    ({ space with pages } : SpaceDescriptor).page pageId = (space.page pageId).map change := by
  subst kept
  simp only [SpaceDescriptor.page, List.find?_map, Function.comp_def, same]

theorem SpaceDescriptor.page_changePage (change : PageDescriptor -> PageDescriptor)
    (same : ∀ page, page.pageId = pageId -> (change page).pageId = pageId) (other : PageId) :
    (space.changePage pageId change).page other =
      if other = pageId then (space.page other).map change else space.page other := by
  simp only [SpaceDescriptor.page, SpaceDescriptor.changePage]
  induction space.pages with
  | nil => simp [SpaceDescriptor.changePage.replaceFirst]
  | cons page rest ih =>
    simp only [SpaceDescriptor.changePage.replaceFirst]
    by_cases here : page.pageId = pageId
    · by_cases asked : other = pageId
      · simp [here, asked, same page here]
      · simp [here, same page here, asked, Ne.symm asked]
    · by_cases asked : page.pageId = other
      · have elsewhere : other ≠ pageId := asked ▸ here
        simp [asked, elsewhere]
      · simpa [here, asked] using ih

theorem LedgerState.page_changeSpace (before : LedgerState) (spaceId : SpaceId)
    (change : SpaceDescriptor -> SpaceDescriptor) (other : SpaceId) (pageId : PageId) :
    (before.changeSpace spaceId change).page other pageId =
      (before.spaces.get? other).bind fun space => (if other = spaceId then change space else space).page pageId := by
  simp only [LedgerState.page, LedgerState.changeSpace, Table.get?_modify]
  split_ifs with here
  · subst here
    cases before.spaces.get? other <;> rfl
  · rfl

theorem LedgerState.page_changePage (change : PageDescriptor -> PageDescriptor)
    (same : ∀ page, page.pageId = pageId -> (change page).pageId = pageId) (other : SpaceId) (asked : PageId) :
    (before.changePage spaceId pageId change).page other asked =
      if other = spaceId ∧ asked = pageId then (before.page other asked).map change else before.page other asked := by
  rw [LedgerState.changePage, LedgerState.page_changeSpace, LedgerState.page]
  cases before.spaces.get? other with
  | none => simp
  | some space =>
    simp only [Option.bind_some]
    by_cases here : other = spaceId
    · simp [here, SpaceDescriptor.page_changePage change same]
    · simp [here]

end Lookups

section Effects

variable {old : PageDescriptor} {changed : SpaceDescriptor}

theorem PageEffect.of_pages (same : ∀ spaceId pageId, after.page spaceId pageId = before.page spaceId pageId) :
    PageEffect calls command before after where
  move spaceId pageId := same spaceId pageId ▸ .keep _
  gone spaceId pageId present absent := absurd (same spaceId pageId ▸ absent) present

theorem PageEffect.of_spaces (same : after.spaces = before.spaces) : PageEffect calls command before after :=
  .of_pages fun _ _ => by rw [LedgerState.page, LedgerState.page, same]

theorem PageEffect.events (appended : SameButEvents middle after) (effect : PageEffect calls command before middle) :
    PageEffect calls command before after := by
  obtain ⟨_, _, _, rfl⟩ := appended
  exact ⟨effect.move, effect.gone⟩

theorem PageEffect.change_page (change : PageDescriptor -> PageDescriptor)
    (same : ∀ page, page.pageId = pageId -> (change page).pageId = pageId)
    (spaces : after.spaces = (before.changePage spaceId pageId change).spaces)
    (found : before.page spaceId pageId = some old)
    (move : PageMove calls command spaceId pageId (some old) (some (change old))) :
    PageEffect calls command before after := by
  have moved : ∀ other asked, after.page other asked =
      if other = spaceId ∧ asked = pageId then some (change old) else before.page other asked := by
    intro other asked
    rw [LedgerState.page, spaces]
    refine (LedgerState.page_changePage change same other asked).trans ?_
    split_ifs with here
    · obtain ⟨rfl, rfl⟩ := here
      rw [found, Option.map_some]
    · rfl
  refine ⟨fun other asked => ?_, fun other asked present absent => ?_⟩
  · rw [moved]
    split_ifs with here
    · obtain ⟨rfl, rfl⟩ := here
      exact found ▸ move
    · exact .keep _
  · rw [moved] at absent
    split_ifs at absent
    exact absurd absent present

theorem PageEffect.set_page (spaces : after.spaces = (before.setPage spaceId page).spaces)
    (found : before.page spaceId pageId = some old) (named : page.pageId = old.pageId)
    (move : PageMove calls command spaceId pageId (some old) (some page)) :
    PageEffect calls command before after := by
  obtain rfl : page.pageId = pageId := named.trans (LedgerState.page_pageId found)
  exact .change_page (fun _ => page) (fun _ _ => rfl) spaces found move

theorem PageEffect.at_space (found : before.spaces.get? spaceId = some space)
    (spaces : ∀ other, after.spaces.get? other = if other = spaceId then some changed else before.spaces.get? other)
    (pages : ∀ pageId, (∃ old new, space.page pageId = some old ∧ changed.page pageId = some new ∧
        PageMove calls command spaceId pageId (some old) (some new)) ∨
      changed.page pageId = space.page pageId) : PageEffect calls command before after := by
  have lookup : ∀ other asked, after.page other asked =
      if other = spaceId then changed.page asked else before.page other asked := by
    intro other asked
    rw [LedgerState.page, spaces]
    split_ifs <;> rfl
  have here : ∀ asked, before.page spaceId asked = space.page asked := by
    intro asked
    rw [LedgerState.page, found, Option.bind_some]
  refine ⟨fun other asked => ?_, fun other asked present absent => ?_⟩
  all_goals
    by_cases same : other = spaceId
  · subst same
    rw [lookup, if_pos rfl, here]
    obtain ⟨_, _, old, new, move⟩ | same := pages asked
    · exact old ▸ new ▸ move
    · exact same ▸ .keep _
  · rw [lookup, if_neg same]
    exact .keep _
  · subst same
    rw [lookup, if_pos rfl] at absent
    rw [here] at present
    obtain ⟨_, _, _, new, _⟩ | same := pages asked
    · simp [absent] at new
    · exact absurd (same ▸ absent) present
  · rw [lookup, if_neg same] at absent
    exact absurd absent present

theorem PageEffect.map_pages (change : PageDescriptor -> PageDescriptor)
    (named : ∀ page, (change page).pageId = page.pageId) (found : before.spaces.get? spaceId = some space)
    (spaces : ∀ other, after.spaces.get? other = if other = spaceId then some changed else before.spaces.get? other)
    (pages : changed.pages = space.pages.map change)
    (move : ∀ pageId page, space.page pageId = some page ->
      PageMove calls command spaceId pageId (some page) (some (change page))) : PageEffect calls command before after := by
  refine .at_space found spaces fun pageId => ?_
  have mapped : changed.page pageId = (space.page pageId).map change :=
    SpaceDescriptor.page_map space change named pages
  cases present : space.page pageId with
  | none =>
    right
    rw [mapped, present, Option.map_none]
  | some page =>
    left
    exact ⟨page, change page, rfl, by rw [mapped, present, Option.map_some], move pageId page present⟩

theorem PageEffect.changeSpace (change : SpaceDescriptor -> SpaceDescriptor)
    (same : ∀ space, (change space).pages = space.pages)
    (spaces : after.spaces = (before.changeSpace spaceId change).spaces) : PageEffect calls command before after := by
  refine .of_pages fun other asked => ?_
  have moved := LedgerState.page_changeSpace before spaceId change other asked
  rw [LedgerState.page, spaces]
  refine moved.trans ?_
  rw [LedgerState.page]
  congr 1
  funext space
  split_ifs
  · rw [SpaceDescriptor.page, same]
    rfl
  · rfl

theorem PageEffect.map_space (change : SpaceDescriptor -> SpaceDescriptor) (each : PageDescriptor -> PageDescriptor)
    (named : ∀ page, (each page).pageId = page.pageId) (found : before.spaces.get? spaceId = some space)
    (spaces : after.spaces = (before.changeSpace spaceId change).spaces)
    (pages : (change space).pages = space.pages.map each)
    (move : ∀ pageId page, space.page pageId = some page ->
      PageMove calls command spaceId pageId (some page) (some (each page))) : PageEffect calls command before after := by
  refine .map_pages each named found (fun other => ?_) pages move
  rw [spaces, LedgerState.changeSpace, Table.get?_modify, found, Option.map_some]

theorem LedgerState.page_warn (state : LedgerState) (spaceId : SpaceId) (text : String) (other : SpaceId)
    (asked : PageId) : (state.changeSpace spaceId (·.warn text)).page other asked = state.page other asked := by
  rw [LedgerState.page_changeSpace, LedgerState.page]
  congr 1
  funext space
  split_ifs <;> rfl

theorem PageEffect.warned {text : String} (effect : PageEffect calls command before middle)
    (spaces : after.spaces = (middle.changeSpace spaceId (·.warn text)).spaces) :
    PageEffect calls command before after := by
  have same : ∀ other asked, after.page other asked = middle.page other asked := by
    intro other asked
    rw [← LedgerState.page_warn middle spaceId text, LedgerState.page, LedgerState.page, spaces]
  refine ⟨fun other asked => same other asked ▸ effect.move other asked, fun other asked present absent => ?_⟩
  have gone := effect.gone other asked present (same other asked ▸ absent)
  rw [spaces, LedgerState.changeSpace, Table.get?_modify]
  split_ifs with here
  · rw [← here, gone, Option.map_none]
  · exact gone

theorem Committable.pageEffect {A : Type} {transition : Transition A}
    (made : Committable config transition before after)
    (run : ∀ value next, transition before = .ok (value, next) -> PageEffect calls command before next) :
    PageEffect calls command before after := by
  obtain ⟨value, next, moved, rfl, _⟩ := made
  exact (run value next moved).events (drainEvents_same _ _)

end Effects

section Moves

variable {authority : AuthorityTicket} {leaseEpoch : LeaseEpoch} {now expiresAt renewBy : Timestamp}
  {next : PageDescriptor} {retention : RetentionPolicy} {label code : String} {done : Unit} {request : FenceRequest}
  {ticket : ControlTicket} {answer : FenceAnswer} {fence : FenceCall} {call : Nat} {lifecycle : SpaceLifecycle}
  {registry : RefRegistry} {generation : PageGeneration} {proof : CleanupProof} {changed : Bool} {event : BridgeEvent}
  {epochs : Option ExtensionEpochs}

theorem recoverPage_raised (page : PageDescriptor) : page.Raised (recoverPage page) :=
  ⟨⟨Nat.le_succ _, Nat.le_succ _, Nat.le_succ _⟩, rfl, rfl, rfl⟩

theorem bumpPageGenerations_ok (run : bumpPageGenerations page = .ok next) :
    next = recoverPage page := by
  simp only [bumpPageGenerations, bind_ok, pure_ok, orElse_ok, checkedNext_eq_some] at run
  obtain ⟨_, ⟨_, rfl⟩, _, ⟨_, rfl⟩, _, ⟨_, rfl⟩, rfl⟩ := run
  rfl

theorem bumpPages_map {pages next : List PageDescriptor} (run : pages.mapM bumpPageGenerations = .ok next) :
    next = pages.map recoverPage := by
  induction pages generalizing next with
  | nil =>
    rw [List.mapM_nil] at run
    exact (pure_ok.mp run).symm
  | cons page rest ih =>
    rw [List.mapM_cons] at run
    simp only [bind_ok, pure_ok] at run
    obtain ⟨first, bumped, others, bumping, rfl⟩ := run
    rw [bumpPageGenerations_ok bumped, ih bumping, List.map_cons]

theorem rebindPage_move (page : PageDescriptor) :
    PageMove calls command spaceId pageId (some page) (some (rebindPage page)) := by
  unfold rebindPage
  split_ifs with admits
  · simp only [PageDescriptor.admitsAgentMutations, Bool.and_eq_true, beq_iff_eq] at admits
    exact .rebinding ⟨le_rfl, le_rfl, le_rfl⟩ (by simp [admits.1.1]) rfl
  · exact .keep _

theorem markProfileRebindRequired_pages {observed : ProfileBindingId} {count : Nat}
    (run : markProfileRebindRequired observed before = .ok (count, after)) : PageEffect calls command before after := by
  refine .events (markProfileRebindRequired_ok run) ?_
  have moved : ∀ space : SpaceDescriptor, ∀ pageId, (rebindSpace space).page pageId = space.page pageId ∨
      (rebindSpace space).page pageId = (space.page pageId).map rebindPage := by
    intro space pageId
    unfold rebindSpace
    dsimp only
    split
    · exact .inl rfl
    · exact .inr (SpaceDescriptor.page_map space rebindPage
        (fun page => by unfold rebindPage; split_ifs <;> rfl) rfl)
  refine ⟨fun spaceId pageId => ?_, fun spaceId pageId present absent => ?_⟩
  all_goals
    simp only [LedgerState.page, Table.get?_mapValues] at *
    generalize before.spaces.get? spaceId = found at *
    cases found with
    | none => first | exact .keep _ | rfl
    | some space => ?_
  · simp only [Option.map_some, Option.bind_some]
    split_ifs
    · obtain same | same := moved space pageId
      · exact same ▸ .keep _
      · rw [same]
        cases space.page pageId with
        | none => exact .keep _
        | some page => exact rebindPage_move page
    · exact .keep _
  · simp only [Option.map_some, Option.bind_some] at present absent
    exfalso
    split_ifs at absent
    · obtain same | same := moved space pageId
      · exact present (same ▸ absent)
      · rw [same, Option.map_eq_none_iff] at absent
        exact present absent
    · exact present absent

theorem createSpace_pages (run : createSpace authority label retention before = .ok (space, after)) :
    PageEffect calls command before after := by
  obtain ⟨number, _, _, absent, same⟩ := createSpace_ok run
  refine .events same (.of_pages fun other asked => ?_)
  have gone : before.spaces.get? ⟨number⟩ = none := by simpa [Table.contains] using absent
  simp only [LedgerState.page, Table.get?_insert]
  split_ifs with here
  · subst here
    simp [gone, createdSpace, SpaceDescriptor.page]
  · rfl

theorem acquireLease_pages {lease : Lease}
    (run : acquireLease spaceId authority now expiresAt renewBy before = .ok (lease, after)) :
    PageEffect calls command before after := by
  obtain rfl | ⟨_, _, _, _, _, same⟩ := acquireLease_ok run
  · exact .of_spaces rfl
  · exact .events same (.changeSpace (grantedSpace · authority.principalId _) (fun _ => rfl) rfl)

theorem renewLease_pages
    (run : renewLease spaceId authority leaseEpoch now expiresAt renewBy before = .ok (done, after)) :
    PageEffect calls command before after :=
  .events (renewLease_ok run).2
    (.changeSpace (fun space => { space with lease := space.lease.map (renewedLease expiresAt renewBy) })
      (fun _ => rfl) rfl)

theorem PageEffect.fenced {changed : SpaceDescriptor} (found : before.spaces.get? spaceId = some space)
    (spaces : after.spaces = before.spaces.insert spaceId changed)
    (bumped : space.pages.mapM bumpPageGenerations = .ok changed.pages) : PageEffect calls command before after := by
  refine .map_pages recoverPage (fun _ => rfl) found (fun other => ?_) (bumpPages_map bumped) fun _ page _ => ?_
  · rw [spaces, Table.get?_insert]
  · exact .raised (recoverPage_raised page)

theorem takeover_pages (run : takeover spaceId authority now expiresAt renewBy before = .ok (request, after)) :
    PageEffect calls command before after := by
  obtain ⟨_, _, _, _, _, found, _, _, _, _, bumped, rfl, _, _, same⟩ := takeover_ok run
  exact .events same (.fenced found rfl bumped)

theorem returnControl_pages (run : returnControl spaceId authority leaseEpoch now before = .ok (request, after)) :
    PageEffect calls command before after := by
  obtain ⟨_, _, _, _, _, allowed, bumped, rfl, _, _, same⟩ := returnControl_ok run
  exact .events same (.fenced allowed.found rfl bumped)

theorem takeoverWithControlTicket_pages
    (run : takeoverWithControlTicket spaceId authority ticket expiresAt renewBy before = .ok (request, after)) :
    PageEffect calls command before after := by
  obtain ⟨_, _, _, _, found, _, _, bumped, _, _, same⟩ := takeoverWithControlTicket_ok run
  exact .events same (.fenced found rfl bumped)

theorem acknowledgeFence_pages {renewal : Option (Timestamp × Timestamp)} {request : FenceRequest × Bool}
    (run : acknowledgeFence spaceId authority leaseEpoch renewal before = .ok (request, after)) :
    PageEffect calls command before after := by
  obtain rfl | ⟨_, expiresAt, renewBy, _, _, same⟩ := acknowledgeFence_ok run
  · exact .of_spaces rfl
  · exact .events same (.changeSpace
      (fun space => { space with lease := space.lease.map (renewedLease expiresAt renewBy) }) (fun _ => rfl) rfl)

theorem finishFence_pages {acknowledged : Bool} {error : Option String} (valid : Valid config before)
    (made_by : command = .fenceAnswered call answer) (call_at : calls.get? call = some (.fence fence))
    (about : request = fence.request)
    (run : finishFence request authority acknowledged error before = .ok (lifecycle, after)) :
    PageEffect calls command before after := by
  obtain ⟨pending, _, _, _, ⟨_, _, same⟩ | same⟩ := finishFence_ok run
  · obtain ⟨_, waiting⟩ := (Table.contains_iff _ _).mp pending
    obtain ⟨space, found, _⟩ := valid.pendingFence waiting
    refine .events same (.map_space reclaimedSpace reclaimedPage (fun page => ?_) found rfl rfl fun _ _ _ =>
      .reclaimed made_by call_at (about ▸ rfl))
    unfold reclaimedPage
    dsimp only
    split_ifs <;> rfl
  · refine .events same (.changeSpace (stillFencedSpace error) (fun space => ?_) rfl)
    cases error <;> rfl

theorem finishUserReturn_pages {releasedEpoch : LeaseEpoch} (made_by : command = .fenceAnswered call answer)
    (call_at : calls.get? call = some (.fence fence)) (completed : fence.completion answer = .userReturn)
    (about : request = fence.request)
    (run : finishUserReturn request releasedEpoch authority before = .ok (ticket, after)) :
    PageEffect calls command before after := by
  obtain ⟨space, _, _, found, _, _, same⟩ := finishUserReturn_ok run
  exact .events same (.map_space returnedSpace returnedPage (fun _ => rfl) found rfl rfl fun _ _ _ =>
    .returned made_by call_at completed (about ▸ rfl))

theorem setFencedSpaceLifecycle_pages
    (run : setFencedSpaceLifecycle spaceId authority leaseEpoch lifecycle now before = .ok (done, after)) :
    PageEffect calls command before after :=
  .events (setFencedSpaceLifecycle_ok run).2 (.changeSpace (fencedSpace lifecycle) (fun _ => rfl) rfl)

theorem createPage_pages {created : PageId}
    (run : createPage spaceId authority leaseEpoch label now before = .ok (created, after)) :
    PageEffect calls command before after := by
  simp only [createPage, bind_ok, pure_ok, require_ok, findSpace_ok, Prod.mk.injEq, Option.isNone_iff_eq_none] at run
  obtain ⟨_, _, number, _, space, found, _, absent, _, appended, rfl, rfl⟩ := run
  refine .events (pageChanged_same appended) ?_
  have lookup : ∀ other asked, ({ before.changeSpace spaceId fun space =>
      { space with pages := space.pages ++ [plannedPage spaceId ⟨number⟩ label] } with
        nextPageNumber := number } : LedgerState).page other asked =
      if other = spaceId ∧ asked = ⟨number⟩ then some (plannedPage spaceId ⟨number⟩ label)
      else before.page other asked := by
    intro other asked
    refine (LedgerState.page_changeSpace before spaceId _ other asked).trans ?_
    by_cases here : other = spaceId
    · subst here
      rw [found, Option.bind_some, if_pos rfl, LedgerState.page, found, Option.bind_some]
      simp only [SpaceDescriptor.page, List.find?_append] at absent ⊢
      by_cases asks : asked = ⟨number⟩
      · subst asks
        simp [absent, plannedPage]
      · simp [plannedPage, asks, Ne.symm asks]
    · simp [here, LedgerState.page]
  refine ⟨fun other asked => ?_, fun other asked present gone => ?_⟩
  · rw [lookup]
    split_ifs with here
    · obtain ⟨rfl, rfl⟩ := here
      rw [LedgerState.page, found, Option.bind_some, absent]
      exact .created label
    · exact .keep _
  · rw [lookup] at gone
    split_ifs at gone
    exact absurd gone present

theorem boundGeneration_ok {current next : Generation} {observed : Option Nat} {name : String}
    (run : boundGeneration current observed name = .ok next) : next = observed.getD (current + 1) := by
  cases observed with
  | none =>
    simp only [boundGeneration, orElse_ok, checkedNext_eq_some] at run
    exact run.2
  | some value =>
    simp only [boundGeneration, bind_ok, pure_ok] at run
    obtain ⟨_, _, rfl⟩ := run
    rfl

theorem bindPage_pages {target : BoundTarget} (made_by : BindsPage calls command spaceId pageId target)
    (run : bindPage spaceId pageId authority leaseEpoch now target before = .ok (page, after)) :
    PageEffect calls command before after := by
  simp only [bindPage, bind_ok, pure_ok, require_ok, findPage_ok, Prod.mk.injEq] at run
  obtain ⟨_, _, old, found, _, open_, _, targets, _, navigation, _, document, _, _, _, _, _, appended, rfl, rfl⟩ := run
  refine .events (pageChanged_same appended) (.set_page rfl found rfl ?_)
  exact .bound made_by open_ rfl (boundGeneration_ok targets) (boundGeneration_ok navigation)
    (boundGeneration_ok document)

theorem markPageLost_pages (made_by : LosesPage calls command spaceId pageId)
    (run : (markPageLost spaceId pageId authority leaseEpoch now registry before).2 = .ok (done, after)) :
    PageEffect calls command before after := by
  unfold markPageLost at run
  split at run
  · cases run
  · next lost losing =>
    simp only [lostPage, bind_ok, pure_ok, findPage_ok] at losing
    obtain ⟨_, _, old, found, _, bumped, rfl⟩ := losing
    rw [bumpPageGenerations_ok bumped] at run
    simp only [storeLostPage, bind_ok, pure_ok, Prod.mk.injEq] at run
    obtain ⟨_, appended, _, rfl⟩ := run
    refine .events (pageChanged_same appended) (.set_page rfl found rfl ?_)
    exact .lost ⟨Nat.le_succ _, Nat.le_succ _, Nat.le_succ _⟩ (.inl made_by) rfl

theorem beginClosePage_pages
    (run : beginClosePage spaceId pageId authority leaseEpoch now before = .ok (generation, after)) :
    PageEffect calls command before after := by
  simp only [beginClosePage, authorizePage, bind_ok, pure_ok, require_ok, findPage_ok, Prod.mk.injEq, Bool.true_and,
    Bool.not_not] at run
  obtain ⟨_, ⟨_, _, old, found, _, admits, _⟩, _, appended, _, rfl⟩ := run
  refine .events (pageChanged_same appended) 
    (.change_page (fun page => { page with lifecycle := .closing }) (fun _ same => same) rfl found ?_)
  simp only [PageDescriptor.admitsAgentMutations, Bool.and_eq_true, beq_iff_eq] at admits
  exact .closing ⟨le_rfl, le_rfl, le_rfl⟩ (.inl admits.1.1) rfl

theorem completeClosePage_pages (made_by : ClosesPage calls command spaceId pageId)
    (run : completeClosePage spaceId pageId generation authority leaseEpoch now before = .ok (done, after)) :
    PageEffect calls command before after := by
  simp only [completeClosePage, bind_ok, pure_ok, require_ok, findPage_ok, Prod.mk.injEq, Bool.and_eq_true,
    beq_iff_eq] at run
  obtain ⟨_, _, old, found, _, ⟨closing, _⟩, _, bumped, _, appended, _, rfl⟩ := run
  rw [bumpPageGenerations_ok bumped] at appended
  refine .events (pageChanged_same appended) (.set_page rfl found rfl ?_)
  exact .closed made_by ⟨Nat.le_succ _, Nat.le_succ _, Nat.le_succ _⟩ closing rfl

theorem inCleanup_open {allowDraining : Bool} (cleaned : inCleanup allowDraining page = true) :
    page.lifecycle = .managed ∨ page.lifecycle = .closing := by
  simp only [inCleanup, PageDescriptor.admitsAgentMutations, Bool.or_eq_true, Bool.and_eq_true, beq_iff_eq] at cleaned
  obtain ⟨⟨managed, _⟩, _⟩ | ⟨_, closing⟩ := cleaned
  · exact .inl managed
  · exact .inr closing

theorem claimFinish_pages {claimed : List CleanupProof × RetentionPolicy}
    (run : claimFinish spaceId authority leaseEpoch now before = .ok (claimed, after)) :
    PageEffect calls command before after := by
  obtain ⟨draining, space, _, found, _, _, same⟩ := claimFinish_ok run
  refine .events same (.map_space (drainingSpace draining)
    (fun page => if inCleanup draining page then { page with lifecycle := .closing } else page)
    (fun page => ?_) found rfl rfl fun _ page _ => ?_)
  · split_ifs <;> rfl
  · split_ifs with cleaned
    · exact .closing ⟨le_rfl, le_rfl, le_rfl⟩ (inCleanup_open cleaned) rfl
    · exact .keep _

theorem authorizeCleanupPage_ok (run : authorizeCleanupPage before spaceId proof authority leaseEpoch now = .ok done) :
    ∃ page, before.page spaceId proof.pageId = some page ∧ page.lifecycle = .closing := by
  simp only [authorizeCleanupPage, bind_ok, require_ok, findPage_ok, Bool.and_eq_true, beq_iff_eq] at run
  obtain ⟨_, _, page, found, ⟨⟨closing, _⟩, _⟩, _⟩ := run
  exact ⟨page, found, closing⟩

theorem finishPageCleanup_pages (made_by : ClosesPage calls command spaceId proof.pageId)
    (run : finishPageCleanup spaceId proof authority leaseEpoch now before = .ok (done, after)) :
    PageEffect calls command before after := by
  simp only [finishPageCleanup, bind_ok, pure_ok, findPage_ok, Prod.mk.injEq] at run
  obtain ⟨_, allowed, old, found, _, bumped, _, appended, _, rfl⟩ := run
  obtain ⟨_, same, closing⟩ := authorizeCleanupPage_ok allowed
  obtain rfl := Option.some.inj (same.symm.trans found)
  rw [bumpPageGenerations_ok bumped] at appended
  refine .events (pageChanged_same appended) (.set_page rfl found rfl ?_)
  exact .closed made_by ⟨Nat.le_succ _, Nat.le_succ _, Nat.le_succ _⟩ closing rfl

theorem recordCleanupFailure_pages
    (run : recordCleanupFailure spaceId proof authority leaseEpoch now code before = .ok (done, after)) :
    PageEffect calls command before after := by
  simp only [recordCleanupFailure, bind_ok, pure_ok, findPage_ok, Prod.mk.injEq] at run
  obtain ⟨_, allowed, old, found, _, bumped, _, first, _, second, _, rfl⟩ := run
  obtain ⟨_, same, closing⟩ := authorizeCleanupPage_ok allowed
  obtain rfl := Option.some.inj (same.symm.trans found)
  rw [bumpPageGenerations_ok bumped] at first
  refine .events ((pageChanged_same first).trans (spaceChanged_same second)) ?_
  refine .warned ?_ rfl
  refine .set_page rfl found rfl ?_
  exact .lost ⟨Nat.le_succ _, Nat.le_succ _, Nat.le_succ _⟩ (.inr (by simp [closing])) rfl

theorem recordCleanupFailure_lost
    (run : recordCleanupFailure spaceId proof authority leaseEpoch now code before = .ok (done, after)) :
    ∃ page, after.page spaceId proof.pageId = some page ∧ page.lifecycle = .targetLost := by
  simp only [recordCleanupFailure, bind_ok, pure_ok, findPage_ok, Prod.mk.injEq] at run
  obtain ⟨_, _, old, found, _, bumped, _, first, _, second, _, rfl⟩ := run
  rw [bumpPageGenerations_ok bumped] at first
  obtain ⟨_, _, _, rfl⟩ := (pageChanged_same first).trans (spaceChanged_same second)
  have named : old.pageId = proof.pageId := LedgerState.page_pageId found
  refine ⟨{ recoverPage old with lifecycle := .targetLost, binding := .lost, ownership := .agent }, ?_, rfl⟩
  refine (LedgerState.page_warn _ spaceId _ spaceId proof.pageId).trans ?_
  refine (LedgerState.page_changePage _ (fun _ _ => rfl) spaceId proof.pageId).trans ?_
  rw [if_pos ⟨rfl, named.symm⟩, found, Option.map_some]

theorem completeFinish_pages {final : SpaceLifecycle}
    (run : completeFinish spaceId authority leaseEpoch now retention before = .ok (final, after)) :
    PageEffect calls command before after :=
  .events (completeFinish_ok run).2.2 (.changeSpace (finishedSpace final) (fun _ => rfl) rfl)

theorem releaseSpace_pages (run : releaseSpace spaceId authority leaseEpoch now before = .ok (done, after)) :
    PageEffect calls command before after := by
  obtain rfl | ⟨_, _, _, same⟩ := releaseSpace_ok run
  · exact .of_spaces rfl
  · exact .events same (.changeSpace (fun space => { space with lifecycle := .released }) (fun _ => rfl) rfl)

theorem pruneReleasedSpaces_pages {maxCount : Nat} {gone : List SpaceId}
    (run : pruneReleasedSpaces authority maxCount before = .ok (gone, after)) :
    PageEffect calls command before after := by
  obtain ⟨pruned, update, _⟩ := pruneReleasedSpaces_ok run
  refine ⟨fun spaceId pageId => ?_, fun spaceId pageId present absent => ?_⟩
  · rw [LedgerState.page, LedgerState.page, update.spaces]
    split_ifs
    · rw [Option.bind_none]
      cases (before.spaces.get? spaceId).bind fun space => space.page pageId with
      | none => exact .keep _
      | some page => exact .pruned
    · exact .keep _
  · rw [LedgerState.page, update.spaces] at absent
    rw [update.spaces]
    split_ifs at absent with inside
    · rw [if_pos inside]
    · exact absurd absent present

def OnlyRaised (before after : LedgerState) : Prop :=
  ∀ spaceId pageId, (before.page spaceId pageId = none ∧ after.page spaceId pageId = none) ∨
    ∃ old new, before.page spaceId pageId = some old ∧ after.page spaceId pageId = some new ∧ old.Raised new

theorem OnlyRaised.of_spaces (same : after.spaces = before.spaces) : OnlyRaised before after := by
  intro spaceId pageId
  rw [LedgerState.page, LedgerState.page, same]
  cases (before.spaces.get? spaceId).bind fun space => space.page pageId with
  | none => exact .inl ⟨rfl, rfl⟩
  | some page => exact .inr ⟨page, page, rfl, rfl, .refl page⟩

theorem OnlyRaised.trans {first second third : LedgerState} (left : OnlyRaised first second)
    (right : OnlyRaised second third) : OnlyRaised first third := by
  intro spaceId pageId
  obtain ⟨absent, gone⟩ | ⟨old, middle, found, present, early⟩ := left spaceId pageId
  · obtain ⟨_, still⟩ | ⟨_, _, impossible, _, _⟩ := right spaceId pageId
    · exact .inl ⟨absent, still⟩
    · simp [gone] at impossible
  · obtain ⟨impossible, _⟩ | ⟨_, new, same, later, late⟩ := right spaceId pageId
    · simp [present] at impossible
    · obtain rfl := Option.some.inj (present.symm.trans same)
      exact .inr ⟨old, new, found, later, early.trans late⟩

theorem OnlyRaised.set_page {old : PageDescriptor} (spaces : after.spaces = (before.setPage spaceId page).spaces)
    (found : before.page spaceId pageId = some old) (named : page.pageId = old.pageId) (raised : old.Raised page) :
    OnlyRaised before after := by
  obtain rfl : page.pageId = pageId := named.trans (LedgerState.page_pageId found)
  intro other asked
  have moved : after.page other asked =
      if other = spaceId ∧ asked = page.pageId then (before.page other asked).map fun _ => page
      else before.page other asked := by
    rw [LedgerState.page, spaces]
    exact LedgerState.page_changePage _ (fun _ _ => rfl) other asked
  rw [moved]
  split_ifs with here
  · obtain ⟨rfl, rfl⟩ := here
    exact .inr ⟨old, page, found, by rw [found, Option.map_some], raised⟩
  · cases before.page other asked with
    | none => exact .inl ⟨rfl, rfl⟩
    | some page => exact .inr ⟨page, page, rfl, rfl, .refl page⟩

theorem OnlyRaised.effect (raised : OnlyRaised before after) : PageEffect calls command before after := by
  refine ⟨fun spaceId pageId => ?_, fun spaceId pageId present absent => ?_⟩
  all_goals
    obtain ⟨none, gone⟩ | ⟨_, _, found, later, raised⟩ := raised spaceId pageId
  · rw [none, gone]
    exact .keep _
  · rw [found, later]
    exact .raised raised
  · exact absurd none present
  · simp [absent] at later

theorem adoptObservation_raised {record : ObservedPage} (run : adoptObservation before record = .ok (after, changed)) :
    OnlyRaised before after := by
  unfold adoptObservation at run
  split at run
  · obtain ⟨rfl, _⟩ := Prod.mk.inj (pure_ok.mp run)
    exact .of_spaces rfl
  · next old found =>
    obtain ⟨found, adopts⟩ := Option.filter_eq_some_iff.mp found
    simp only [bind_ok, pure_ok, Prod.mk.injEq] at run
    obtain ⟨url, _, title, _, rfl, _⟩ := run
    simp only [adoptsObservation, Bool.and_eq_true, decide_eq_true_eq] at adopts
    obtain ⟨⟨_, target, navigation, document⟩, _⟩ := adopts
    exact .set_page rfl found rfl ⟨⟨target, navigation, document⟩, rfl, rfl, rfl⟩

theorem adoptObservations_raised {records changed : List ObservedPage}
    (run : adoptObservations before records = .ok (after, changed)) : OnlyRaised before after := by
  induction records generalizing before changed with
  | nil =>
    obtain ⟨rfl, _⟩ := Prod.mk.inj (pure_ok.mp run)
    exact .of_spaces rfl
  | cons record rest ih =>
    simp only [adoptObservations, bind_ok, pure_ok, Prod.exists, Prod.mk.injEq] at run
    obtain ⟨_, _, first, _, _, others, rfl, _⟩ := run
    exact (adoptObservation_raised first).trans (ih others)

theorem reconcileBridgePages_pages {observation : List ObservedPage}
    (run : reconcileBridgePages observation before = .ok (done, after)) : PageEffect calls command before after := by
  simp only [reconcileBridgePages, bind_ok, pure_ok, Prod.exists, Prod.mk.injEq] at run
  obtain ⟨_, _, adopted, _, appended, _, rfl⟩ := run
  exact (adoptObservations_raised adopted).effect.events (foldlM_events (fun _ _ _ => pageChanged_same) appended)

theorem raiseGenerations_raised (event : BridgeEvent) (page : PageDescriptor) :
    page.Raised (raiseGenerations event page) :=
  ⟨⟨Nat.le_max_left _ _, Nat.le_max_left _ _, Nat.le_max_left _ _⟩, rfl, rfl, rfl⟩

theorem observedPage_move (run : observedPage event page = .ok (next, changed)) :
    PageMove calls command spaceId pageId (some page) (some next) ∧ next.pageId = page.pageId := by
  have raised := (raiseGenerations_raised event page).rises
  unfold observedPage at run
  dsimp only at run
  split_ifs at run with loses bumps
  · -- a target that is lost without a generation gets the next one
    simp only [bind_ok, pure_ok, Prod.mk.injEq] at run
    obtain ⟨_, bumped, rfl, _⟩ := run
    rw [bumpPageGenerations_ok bumped]
    simp only [losesPage, Bool.and_eq_true, Bool.not_eq_true', Bool.or_eq_false_iff, beq_eq_false_iff_ne] at loses
    have rises := raised.trans (recoverPage_raised _).rises
    exact ⟨.lost ⟨rises.target, rises.navigation, rises.document⟩ (.inr loses.2.1) rfl, rfl⟩
  · simp only [bind_ok, pure_ok, Prod.mk.injEq] at run
    obtain ⟨_, rfl, rfl, _⟩ := run
    simp only [losesPage, Bool.and_eq_true, Bool.not_eq_true', Bool.or_eq_false_iff, beq_eq_false_iff_ne] at loses
    exact ⟨.lost ⟨raised.target, raised.navigation, raised.document⟩ (.inr loses.2.1) rfl, rfl⟩
  · simp only [pure_ok, Prod.mk.injEq] at run
    obtain ⟨rfl, _⟩ := run
    exact ⟨.raised (raiseGenerations_raised event page), rfl⟩

theorem applyScopedEvent_pages
    (run : (applyScopedEvent event authority epochs spaceId pageId now registry before).2 = .ok (done, after)) :
    PageEffect calls command before after := by
  unfold applyScopedEvent at run
  split at run
  · cases run
  · cases run
    exact .of_spaces rfl
  · next page changed admitted =>
    simp only [admitScopedEvent, bind_ok, findPage_ok] at admitted
    obtain ⟨_, _, _, _, old, found, observing⟩ := admitted
    have observed : observedPage event old = .ok (page, changed) := by
      split_ifs at observing
      · cases observing
      · obtain ⟨_, seen, same⟩ := map_ok.mp observing
        exact Option.some.inj same ▸ seen
    have moved : PageMove calls command spaceId pageId (some old) (some page) ∧ page.pageId = old.pageId :=
      observedPage_move observed
    obtain ⟨move, named⟩ := moved
    simp only [bind_ok, pure_ok, Prod.mk.injEq] at run
    obtain ⟨_, appended, _, rfl⟩ := run
    refine .events (appendEventWithAttribution_same appended) (.set_page ?_ found named move)
    split_ifs <;> rfl

theorem applyGlobalEvent_pages
    (run : (applyGlobalEvent event authority epochs now registry before).2 = .ok (done, after)) :
    PageEffect calls command before after := by
  unfold applyGlobalEvent at run
  split at run
  · cases run
  · simp only [bind_ok, pure_ok, Prod.mk.injEq] at run
    obtain ⟨_, appended, _, rfl⟩ := run
    exact .events (appendEventWithAttribution_same appended) (.of_spaces rfl)

theorem applyBridgeEvent_pages
    (run : (applyBridgeEvent event authority epochs now registry before).2 = .ok (done, after)) :
    PageEffect calls command before after := by
  unfold applyBridgeEvent at run
  cases space : event.spaceId with
  | none =>
    rw [space] at run
    exact applyGlobalEvent_pages run
  | some spaceId =>
    cases page : event.pageId with
    | none =>
      rw [space, page] at run
      exact applyGlobalEvent_pages run
    | some pageId =>
      rw [space, page] at run
      exact applyScopedEvent_pages run

end Moves

section Steps

theorem Committable.pages_same {A : Type} {transition : Transition A}
    (made : Committable config transition before after)
    (run : ∀ value next, transition before = .ok (value, next) -> next.spaces = before.spaces) :
    PageEffect calls command before after :=
  made.pageEffect fun value next moved => .of_spaces (run value next moved)

theorem SameButSessions.spaces (same : SameButSessions before after) : after.spaces = before.spaces := by
  obtain ⟨_, _, _, _, _, _, _, _, _, rfl⟩ := same
  rfl

theorem LedgerStep.pageEffect (valid : Valid config before) (taken : LedgerStep config calls command before after) :
    PageEffect calls command before after := by
  cases taken with
  | hello _ made => exact made.pages_same fun _ _ run => (hello_ok run).spaces
  | disconnect _ made => exact made.pages_same fun _ _ run => (disconnect_ok run).spaces
  | markProfileRebindRequired made => exact made.pageEffect fun _ _ run => markProfileRebindRequired_pages run
  | createSpace made => exact made.pageEffect fun _ _ run => createSpace_pages run
  | bridgeEvent made => exact made.pageEffect fun _ _ run => applyBridgeEvent_pages run
  | observePages made => exact made.pageEffect fun _ _ run => reconcileBridgePages_pages run
  | acquireLease _ made => exact made.pageEffect fun _ _ run => acquireLease_pages run
  | renewLease made => exact made.pageEffect fun _ _ run => renewLease_pages run
  | takeover made => exact made.pageEffect fun _ _ run => takeover_pages run
  | takeoverWithControlTicket _ made => exact made.pageEffect fun _ _ run => takeoverWithControlTicket_pages run
  | returnControl made => exact made.pageEffect fun _ _ run => returnControl_pages run
  | acknowledgeFence made => exact made.pageEffect fun _ _ run => acknowledgeFence_pages run
  | finishFence made_by call_at about _ made =>
    exact made.pageEffect fun _ _ run => finishFence_pages valid made_by call_at about run
  | finishUserReturn made_by call_at completed about made =>
    exact made.pageEffect fun _ _ run => finishUserReturn_pages made_by call_at completed about run
  | recordFenceWarning made =>
    refine made.pageEffect fun _ _ run => ?_
    rw [recordFenceWarning_ok run]
    exact .warned (.of_spaces rfl) rfl
  | setFencedSpaceLifecycle made => exact made.pageEffect fun _ _ run => setFencedSpaceLifecycle_pages run
  | createPage made => exact made.pageEffect fun _ _ run => createPage_pages run
  | bindPage made_by made => exact made.pageEffect fun _ _ run => bindPage_pages made_by run
  | markPageLost made_by made => exact made.pageEffect fun _ _ run => markPageLost_pages made_by run
  | beginClosePage made => exact made.pageEffect fun _ _ run => beginClosePage_pages run
  | completeClosePage made_by made => exact made.pageEffect fun _ _ run => completeClosePage_pages made_by run
  | missingCleanupPages made => exact made.pages_same fun _ _ run => (missingCleanupPages_snapshots run).spaces
  | claimFinish made => exact made.pageEffect fun _ _ run => claimFinish_pages run
  | authorizeCleanup made => exact made.pages_same fun _ _ run => (authorizeCleanup_snapshots run).spaces
  | finishPageCleanup made_by made => exact made.pageEffect fun _ _ run => finishPageCleanup_pages made_by run
  | recordCleanupFailure made => exact made.pageEffect fun _ _ run => recordCleanupFailure_pages run
  | completeFinish _ made => exact made.pageEffect fun _ _ run => completeFinish_pages run
  | releaseSpace made => exact made.pageEffect fun _ _ run => releaseSpace_pages run
  | pruneReleasedSpaces _ made => exact made.pageEffect fun _ _ run => pruneReleasedSpaces_pages run
  | recheckDispatch made => exact made.pages_same fun _ _ run => (recheckDispatch_snapshots run).spaces
  | issuingEnvelope made => exact made.pages_same fun _ _ run => (issuingEnvelope_snapshots run).spaces
  | captureGeneration made => exact made.pages_same fun _ _ run => (captureGeneration_snapshots run).spaces
  | commitSnapshot made => exact made.pages_same fun _ _ run => (commitSnapshot_snapshots run).spaces
  | putSnapshot made => exact made.pages_same fun _ _ run => (putSnapshot_snapshots run).spaces
  | markSnapshotDirty made => exact made.pages_same fun _ _ run => (markSnapshotDirty_snapshots run).spaces
  | markDegraded made | publishEvent made | enqueueAction made | beginDispatch _ made | finishDispatch made
  | beginReconcile _ made | finishReconcile _ made | shutdown made =>
    refine made.pages_same fun _ _ run => ?_
    obtain ⟨_, _, _, _, _, same⟩ := made.acts run
    exact same.spaces

end Steps

end AgentycHost
