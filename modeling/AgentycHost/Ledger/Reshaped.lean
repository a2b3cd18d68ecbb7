import AgentycHost.Ledger.Kept
import Mathlib.Algebra.Order.BigOperators.Group.List
import Mathlib.Algebra.Order.Ring.Nat
import Mathlib.Data.List.Forall2

set_option autoImplicit false

/-!
# Spaces that change their shape

The validator accepts other pages, leases and lifecycles in its spaces as long
as the records beside the spaces still fit them.
-/

namespace AgentycHost

open Shared

structure ReshapedPage (old new : PageDescriptor) : Prop where
  pageId : new.pageId = old.pageId
  spaceId : new.spaceId = old.spaceId
  label : new.label = old.label
  url : new.url = old.url
  title : new.title = old.title
  allowed : validPageLifecycle old = true -> validPageLifecycle new = true

structure Unaccompanied (state : LedgerState) (spaceId : SpaceId) (lease : Option Lease) : Prop where
  ticket : state.controlTickets.get? spaceId = none
  fence : state.pendingFences.get? spaceId = none
  proofs : ∀ proofs proof, state.takeoverProofs.get? spaceId = some proofs -> proof ∈ proofs ->
    proof.currentEpoch ≠ (lease.map (·.leaseEpoch)).getD 0

structure Reshaped (state : LedgerState) (spaceId : SpaceId) (old new : SpaceDescriptor) : Prop where
  rest : new = { old with
    lifecycle := new.lifecycle, lease := new.lease, profileBinding := new.profileBinding, pages := new.pages }
  pages : List.Forall₂ ReshapedPage old.pages new.pages
  lifecycle : validateSpaceLifecycle state spaceId new = .ok ()
  binding : bindingIndexed state spaceId new = true
  fenced : isFenceLifecycle new.lifecycle = true -> state.pendingFences.contains spaceId = true
  companions : new.lifecycle = old.lifecycle ∧ new.lease = old.lease ∨ Unaccompanied state spaceId new.lease
  targets : ∀ actionId receipt, state.actions.get? actionId = some receipt -> receipt.spaceId = spaceId ->
    validateActionTarget new receipt = .ok ()

variable {config : LedgerConfig} {state : LedgerState} {spaceId : SpaceId} {pageId : PageId}
  {old new : SpaceDescriptor} {edit : SpaceId -> SpaceDescriptor -> SpaceDescriptor} {keep : SpaceId -> Bool}

theorem ReshapedPage.refl (page : PageDescriptor) : ReshapedPage page page := ⟨rfl, rfl, rfl, rfl, rfl, id⟩

theorem pageIds_reshaped {old new : List PageDescriptor} (pages : List.Forall₂ ReshapedPage old new) :
    pageIds new = pageIds old := by
  induction pages with
  | nil => rfl
  | cons first _ ih => simp only [pageIds, List.map_cons, first.pageId] at ih ⊢; rw [ih]

theorem find?_reshaped {old new : List PageDescriptor} (pages : List.Forall₂ ReshapedPage old new) :
    (new.find? fun page => page.pageId == pageId).isSome = (old.find? fun page => page.pageId == pageId).isSome := by
  induction pages with
  | nil => rfl
  | cons first _ ih =>
    simp only [List.find?_cons, first.pageId]
    split
    · rfl
    · exact ih

theorem pages_reshaped {seen : List PageId} {old new : List PageDescriptor} (pages : List.Forall₂ ReshapedPage old new)
    (checked : forEachAfter (fun before page => validatePage spaceId (seen ++ pageIds before) page) [] old = .ok ()) :
    forEachAfter (fun before page => validatePage spaceId (seen ++ pageIds before) page) [] new = .ok () := by
  -- over the pages already passed, whose identities are the same on both sides
  suffices every : ∀ earlier later, pageIds later = pageIds earlier ->
      forEachAfter (fun before page => validatePage spaceId (seen ++ pageIds before) page) earlier old = .ok () ->
      forEachAfter (fun before page => validatePage spaceId (seen ++ pageIds before) page) later new = .ok () by
    exact every [] [] rfl checked
  clear checked
  induction pages with
  | nil => exact fun _ _ _ _ => rfl
  | @cons one other _ _ first _ ih =>
    intro earlier later same checked
    simp only [forEachAfter, bind_ok] at checked ⊢
    obtain ⟨⟨⟩, here, rest⟩ := checked
    refine ⟨(), ?_, ih _ _ ?_ rest⟩
    · rw [same]
      simp only [validatePage, bind_ok, require_ok] at here ⊢
      obtain ⟨_, owner, _, labelled, _, label, _, metadata, _, fresh, fits⟩ := here
      rw [first.spaceId, first.label, first.url, first.title, first.pageId]
      exact ⟨(), owner, (), labelled, (), label, (), metadata, (), fresh, first.allowed fits⟩
    · simp only [pageIds, List.map_append, List.map_cons, List.map_nil] at same ⊢
      rw [same, first.pageId]

theorem space_reshaped {limits : LedgerLimits} {next : LedgerState} {earlier later : List (SpaceId × SpaceDescriptor)}
    (reshaped : Reshaped state spaceId old new) (tickets : next.controlTickets = state.controlTickets)
    (seen : (later.flatMap fun other => pageIds other.2.pages) = earlier.flatMap fun other => pageIds other.2.pages)
    (checked : validateSpace limits state earlier (spaceId, old) = .ok ()) :
    validateSpace limits next later (spaceId, new) = .ok () := by
  have lifecycle := reshaped.lifecycle
  have fits : validateSpaceLifecycle next spaceId new = .ok () := by
    unfold validateSpaceLifecycle lifecycleMatchesLease at lifecycle ⊢
    rw [tickets]
    exact lifecycle
  simp only [validateSpace, bind_ok, require_ok] at checked ⊢
  rw [seen]
  obtain ⟨_, named, _, bounded, _, labelled, _, label, _, warnings, _, texts, _, hint, _, _, pages⟩ := checked
  have pages := pages_reshaped reshaped.pages pages
  have length := reshaped.pages.length_eq
  rw [length] at bounded
  have rest := reshaped.rest
  refine ⟨(), ?_, (), bounded, (), ?_, (), ?_, (), ?_, (), ?_, (), ?_, (), fits, pages⟩
  all_goals
    rw [rest]
    assumption

theorem Accepted.unshaped {space : SpaceDescriptor} (accepted : Accepted config state)
    (found : state.spaces.get? spaceId = some space) : Reshaped state spaceId space space := by
  have indexes := accepted.indexes
  simp only [validateIndexes, bind_ok, require_ok, Bool.and_eq_true, Table.all_eq_true] at indexes
  obtain ⟨_, _, _, ⟨_, indexed⟩, _, _, fenced⟩ := indexes
  have actions := accepted.actions
  simp only [validateActions, bind_ok] at actions
  obtain ⟨_, _, every⟩ := actions
  refine ⟨rfl, List.forall₂_same.mpr fun page _ => .refl page, accepted.lifecycle found, indexed spaceId space found,
    fun fence => ?_, .inl ⟨rfl, rfl⟩, fun actionId receipt present inside => ?_⟩
  · simpa [fence] using fenced spaceId space found
  · obtain ⟨earlier, checked⟩ := forEachAfter_mem every ((Table.mem_entries _ _ _).mpr present)
    simp only [validateAction, bind_ok, orElse_ok] at checked
    obtain ⟨_, _, _, _, _, _, _, _, located, here, ⟨⟩, target, _⟩ := checked
    rw [inside, found] at here
    cases here
    exact target

def reshapedState (state : LedgerState) (edit : SpaceId -> SpaceDescriptor -> SpaceDescriptor) (keep : SpaceId -> Bool) :
    LedgerState :=
  { state with spaces := state.spaces.mapValues edit, snapshots := state.snapshots.filter fun spaceId _ => keep spaceId }

section Parts

variable (accepted : Accepted config state)
  (reshapes : ∀ spaceId space, state.spaces.get? spaceId = some space -> Reshaped state spaceId space (edit spaceId space))

theorem reshaped_space (spaceId : SpaceId) :
    (reshapedState state edit keep).spaces.get? spaceId = (state.spaces.get? spaceId).map (edit spaceId) :=
  Table.get?_mapValues _ _ _

theorem reshaped_contains (spaceId : SpaceId) :
    (reshapedState state edit keep).spaces.contains spaceId = state.spaces.contains spaceId := by
  rw [Table.contains, reshaped_space, Option.isSome_map, Table.contains]

include reshapes in
theorem reshaped_page (spaceId : SpaceId) (pageId : PageId) :
    ((reshapedState state edit keep).page spaceId pageId).isSome = (state.page spaceId pageId).isSome := by
  rw [LedgerState.page, LedgerState.page, reshaped_space]
  cases found : state.spaces.get? spaceId with
  | none => rfl
  | some space => exact find?_reshaped (reshapes spaceId space found).pages

include accepted reshapes in
theorem spaces_reshaped :
    forEachAfter (validateSpace config.limits (reshapedState state edit keep)) []
      (reshapedState state edit keep).spaces.entries = .ok () := by
  change forEachAfter _ [] (state.spaces.entries.map fun entry => (entry.1, edit entry.1 entry.2)) = _
  refine forEachAfter_map _ (fun before entry after split checked => ?_) accepted.spaces
  have known : ∀ other, other ∈ before ++ entry :: after -> Reshaped state other.1 other.2 (edit other.1 other.2) :=
    fun other inside => reshapes other.1 other.2 ((Table.mem_entries _ _ _).mp (split ▸ inside))
  refine space_reshaped (known entry (by simp)) rfl ?_ checked
  rw [List.flatMap_map]
  refine List.flatMap_congr fun other inside => ?_
  exact pageIds_reshaped (known other (by simp [inside])).pages

include accepted reshapes in
theorem indexes_reshaped : validateIndexes (reshapedState state edit keep) = .ok () := by
  have indexes := accepted.indexes
  simp only [validateIndexes, bind_ok, require_ok, Bool.and_eq_true, Table.all_eq_true] at indexes ⊢
  obtain ⟨_, ⟨sizes, generations⟩, _, ⟨bindings, _⟩, _, epochs, _⟩ := indexes
  refine ⟨(), ⟨?_, ?_⟩, (), ⟨?_, ?_⟩, (), epochs, ?_⟩
  · rw [reshapedState, Table.size_mapValues]
    exact sizes
  · intro spaceId space found
    rw [reshaped_space, Option.map_eq_some_iff] at found
    obtain ⟨old, present, _⟩ := found
    exact generations spaceId old present
  · intro spaceId binding found
    rw [reshaped_contains]
    exact bindings spaceId binding found
  · intro spaceId space found
    rw [reshaped_space, Option.map_eq_some_iff] at found
    obtain ⟨old, present, rfl⟩ := found
    exact (reshapes spaceId old present).binding
  · intro spaceId space found
    rw [reshaped_space, Option.map_eq_some_iff] at found
    obtain ⟨old, present, rfl⟩ := found
    have fenced := (reshapes spaceId old present).fenced
    rw [Bool.not_eq_true', Bool.and_eq_false_iff, Bool.not_eq_false', or_iff_not_imp_left, Bool.not_eq_false]
    exact fenced

include accepted reshapes in
theorem tickets_reshaped : validateControlTickets (reshapedState state edit keep) = .ok () := by
  have tickets := accepted.controlTickets
  simp only [validateControlTickets, require_ok, Table.all_eq_true] at tickets ⊢
  intro spaceId ticket found
  have fits := tickets spaceId ticket found
  simp only [controlTicketMatches, Bool.and_eq_true, Option.any_eq_true] at fits ⊢
  obtain ⟨named, space, present, owned⟩ := fits
  refine ⟨named, edit spaceId space, by rw [reshaped_space, present]; rfl, ?_⟩
  rcases (reshapes spaceId space present).companions with ⟨lifecycle, lease⟩ | alone
  · rw [lifecycle, lease]
    exact owned
  · have none := alone.ticket
    rw [show state.controlTickets.get? spaceId = some ticket from found] at none
    cases none

include accepted reshapes in
theorem fences_reshaped :
    forEach (validatePendingFence (reshapedState state edit keep)) state.pendingFences.entries = .ok () := by
  have fences := accepted.pendingFences
  rw [forEach_ok] at fences ⊢
  rintro ⟨spaceId, pending⟩ inside
  have fits := fences _ inside
  simp only [validatePendingFence, bind_ok, orElse_ok] at fits ⊢
  obtain ⟨space, present, lease, leased, checks⟩ := fits
  refine ⟨edit spaceId space, by rw [reshaped_space, present]; rfl, ?_⟩
  rcases (reshapes spaceId space present).companions with ⟨lifecycle, same⟩ | alone
  · rw [lifecycle, same]
    exact ⟨lease, leased, checks⟩
  · have none := alone.fence
    rw [(Table.mem_entries _ _ _).mp inside] at none
    cases none

include accepted reshapes in
theorem proofs_reshaped :
    forEach (validateTakeoverProofs (reshapedState state edit keep)) state.takeoverProofs.entries = .ok () := by
  have proofs := accepted.takeoverProofs
  rw [forEach_ok] at proofs ⊢
  rintro ⟨spaceId, kept⟩ inside
  have fits := proofs _ inside
  simp only [validateTakeoverProofs, bind_ok, orElse_ok] at fits ⊢
  obtain ⟨space, present, _, bounded, every⟩ := fits
  have reshaped := reshapes spaceId space present
  refine ⟨edit spaceId space, by rw [reshaped_space, present]; rfl, (), bounded, forEachAfter_mono ?_ every⟩
  intro before proof member checked
  simp only [validateTakeoverProof, bind_ok, require_ok] at checked ⊢
  obtain ⟨_, consistent, current⟩ := checked
  refine ⟨(), ?_, ?_⟩
  · rw [reshaped.rest]
    exact consistent
  · rcases reshaped.companions with ⟨_, same⟩ | alone
    · rw [same]
      exact current
    · have older := alone.proofs kept proof ((Table.mem_entries _ _ _).mp inside) member
      simp [older]

include accepted in
theorem queues_reshaped :
    forEachAfter (validateQueue config.limits (reshapedState state edit keep)) [] state.actionQueues.entries = .ok () := by
  refine forEachAfter_mono (fun before entry _ checked => ?_) accepted.queues
  simp only [validateQueue, bind_ok, reshaped_contains] at checked ⊢
  exact checked

include accepted reshapes in
theorem actions_reshaped : validateActions config.codec (reshapedState state edit keep) = .ok () := by
  have actions := accepted.actions
  simp only [validateActions, bind_ok] at actions ⊢
  obtain ⟨_, sizes, every⟩ := actions
  refine ⟨(), sizes, forEachAfter_mono ?_ every⟩
  rintro before ⟨actionId, receipt⟩ inside checked
  simp only [validateAction, bind_ok, orElse_ok] at checked ⊢
  obtain ⟨_, named, request, requested, _, matched, _, payload, space, located, _, _, rest⟩ := checked
  have target := (reshapes receipt.spaceId space located).targets actionId receipt ((Table.mem_entries _ _ _).mp inside) rfl
  exact ⟨(), named, request, requested, (), matched, (), payload, edit receipt.spaceId space,
    by rw [reshaped_space, located]; rfl, (), target, rest⟩

include accepted in
theorem snapshots_reshaped
    (kept : ∀ spaceId space, state.spaces.get? spaceId = some space -> keep spaceId = true ->
      (edit spaceId space).pages = space.pages) :
    validateSnapshots config.codec config.limits (reshapedState state edit keep) = .ok () := by
  have snapshots := accepted.snapshots
  simp only [validateSnapshots, bind_ok, require_ok, decide_eq_true_eq] at snapshots ⊢
  obtain ⟨⟨⟩, every, bounded⟩ := snapshots
  refine ⟨(), ?_, ?_⟩
  · simp only [forEach_ok, bind_ok, orElse_ok] at every ⊢
    rintro ⟨spaceId, pages⟩ inside
    obtain ⟨member, here⟩ := List.mem_filter.mp inside
    obtain ⟨space, present, checked⟩ := every _ member
    refine ⟨edit spaceId space, by rw [reshaped_space, present]; rfl, fun entry at_page => ?_⟩
    have one := checked entry at_page
    unfold validateSnapshot SpaceDescriptor.page at one ⊢
    rw [kept spaceId space present here]
    exact one
  · have fewer : (reshapedState state edit keep).snapshots.values.Sublist state.snapshots.values :=
      List.filter_sublist.map Prod.snd
    exact Nat.le_trans (List.Sublist.sum_le_sum (fewer.map Table.size) fun _ _ => Nat.zero_le _) bounded

include accepted reshapes in
theorem events_reshaped : validateEvents config.limits (reshapedState state edit keep) = .ok () := by
  have events := accepted.events
  simp only [validateEvents, bind_ok] at events ⊢
  obtain ⟨_, every, retained⟩ := events
  refine ⟨(), forEachAfter_mono (fun before event _ checked => ?_) every, retained⟩
  simp only [validateEvent, bind_ok, reshaped_contains, reshaped_page reshapes] at checked ⊢
  exact checked

end Parts

theorem Accepted.reshaping (accepted : Accepted config state)
    (reshapes : ∀ spaceId space, state.spaces.get? spaceId = some space ->
      Reshaped state spaceId space (edit spaceId space))
    (kept : ∀ spaceId space, state.spaces.get? spaceId = some space -> keep spaceId = true ->
      (edit spaceId space).pages = space.pages) : Accepted config (reshapedState state edit keep) where
  bounds := by
    have bounds := accepted.bounds
    simp only [validateBounds, reshapedState, Table.size_mapValues] at bounds ⊢
    exact bounds
  spaces := spaces_reshaped accepted reshapes
  indexes := indexes_reshaped accepted reshapes
  controlTickets := tickets_reshaped accepted reshapes
  pendingFences := fences_reshaped accepted reshapes
  takeoverProofs := proofs_reshaped accepted reshapes
  queues := queues_reshaped accepted
  actions := actions_reshaped accepted reshapes
  snapshots := snapshots_reshaped accepted kept
  events := events_reshaped accepted reshapes

end AgentycHost
