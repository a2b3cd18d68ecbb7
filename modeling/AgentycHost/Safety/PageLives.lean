import AgentycHost.Effects.Dispatches
import AgentycHost.Effects.Pages

set_option autoImplicit false

/-! # Closed pages and page generations -/

namespace AgentycHost

open Shared

variable {spaceId : SpaceId} {pageId : PageId}

section States

variable {config : LedgerConfig} {calls : Table Nat Call} {command : Command} {before after disk state : LedgerState}

theorem openLedger_raised (opened : openLedger config disk = .ok state) : OnlyRaised disk state := by
  rw [openLedger_ok opened]
  intro spaceId pageId
  have moved : (recovered disk).page spaceId pageId = (disk.spaces.get? spaceId).bind fun space =>
      (space.page pageId).map fun page => if isLostByRestart space.lifecycle then recoverPage page else page := by
    rw [LedgerState.page, recovered_space, Option.bind_map]
    congr 1
    funext space
    exact recoverSpace_page space pageId
  change _ ∧ (recovered disk).page spaceId pageId = none ∨ _
  rw [LedgerState.page]
  cases found : disk.spaces.get? spaceId with
  | none => exact .inl ⟨rfl, by rw [moved, found, Option.bind_none]⟩
  | some space =>
    simp only [found, Option.bind_some] at moved ⊢
    cases there : space.page pageId with
    | none => exact .inl ⟨rfl, by rw [moved, there, Option.map_none]⟩
    | some page =>
      refine .inr ⟨page, _, rfl, by rw [← Option.map_some, ← there]; exact moved, ?_⟩
      split_ifs
      · exact recoverPage_raised page
      · exact .refl page

def PageKeeps (spaceId : SpaceId) (pageId : PageId) (holds : PageDescriptor -> Prop) (state : LedgerState) : Prop :=
  SpacesNumbered state ∧ ((∃ page, state.page spaceId pageId = some page ∧ holds page) ∨
    state.spaces.get? spaceId = none ∧ spaceId.number ≤ state.nextSpaceNumber)

variable {holds : PageDescriptor -> Prop}

theorem LedgerStep.pageKeeps (valid : Valid config before) (taken : LedgerStep config calls command before after)
    (kept : PageKeeps spaceId pageId holds before)
    (moved : ∀ old new, before.page spaceId pageId = some old -> holds old ->
      PageMove calls command spaceId pageId (some old) (some new) -> holds new) :
    PageKeeps spaceId pageId holds after := by
  obtain ⟨numbered, ⟨old, found, held⟩ | ⟨gone, known⟩⟩ := kept
  · refine ⟨taken.numbered valid numbered, ?_⟩
    have effect := taken.pageEffect valid
    have move := effect.move spaceId pageId
    rw [found] at move
    cases present : after.page spaceId pageId with
    | some new => exact .inl ⟨new, rfl, moved old new found held (present ▸ move)⟩
    | none =>
      -- the space of a page that is gone was known
      obtain ⟨space, there, _⟩ := Option.bind_eq_some_iff.mp found
      have known := numbered spaceId (by simp [standing_some there])
      exact .inr ⟨effect.gone spaceId pageId (by simp [found]) present,
        known.trans (taken.spaceEffect valid).numbers⟩
  · exact ⟨taken.numbered valid numbered, .inr ⟨taken.gone valid gone known,
      known.trans (taken.spaceEffect valid).numbers⟩⟩

theorem openLedger_pageKeeps (kept : PageKeeps spaceId pageId holds disk)
    (moved : ∀ old new, holds old -> old.Raised new -> holds new)
    (opened : openLedger config disk = .ok state) : PageKeeps spaceId pageId holds state := by
  obtain ⟨numbered, ⟨old, found, held⟩ | ⟨gone, known⟩⟩ := kept
  · refine ⟨openLedger_numbered numbered opened, .inl ?_⟩
    obtain ⟨absent, _⟩ | ⟨_, new, same, later, raised⟩ := openLedger_raised opened spaceId pageId
    · simp [found] at absent
    · obtain rfl := Option.some.inj (found.symm.trans same)
      exact ⟨new, later, moved old new held raised⟩
  · refine ⟨openLedger_numbered numbered opened, .inr ⟨?_, openLedger_numbers opened ▸ known⟩⟩
    rw [openLedger_ok opened]
    exact (recovered_space spaceId).trans (by rw [gone, Option.map_none])

end States

section Runs

variable {config : HostConfig} {start middle last : System} {trace later : List (Moment System Label)}
  {page : PageDescriptor}

theorem HostRun.pageKeeps {final : PageDescriptor} (holds : PageDescriptor -> Prop) (early : HostRun config start trace middle)
    (initial : Initial config start) (late : HostRun config middle later last)
    (found : middle.ledger.state.page spaceId pageId = some page) (held : holds page)
    (moved : ∀ moment old new, moment ∈ later ++ trace ->
      moment.before.ledger.state.page spaceId pageId = some old -> holds old ->
      PageMove moment.before.calls moment.label.2 spaceId pageId (some old) (some new) -> holds new)
    (opened : ∀ old new, holds old -> old.Raised new -> holds new)
    (present : last.ledger.state.page spaceId pageId = some final) : holds final := by
  have kept : PageKeeps spaceId pageId holds last.ledger.state := by
    refine early.ledger_keeps_from (PageKeeps spaceId pageId holds) initial late
      ⟨early.numbered initial, .inl ⟨page, found, held⟩⟩ ?_ ?_
    · intro moment state inside valid kept taken
      exact taken.pageKeeps valid kept fun old new there still move => moved moment old new inside there still move
    · exact fun disk state _ kept reopened => openLedger_pageKeeps kept opened reopened
  obtain ⟨_, ⟨_, same, still⟩ | ⟨gone, _⟩⟩ := kept
  · exact Option.some.inj (same.symm.trans present) ▸ still
  · simp [LedgerState.page, gone] at present

section Closed

def isClosed (state : LedgerState) (spaceId : SpaceId) (pageId : PageId) : Bool :=
  (state.page spaceId pageId).any fun page => page.lifecycle == .closed

def hasClosedPage (state : LedgerState) (spaceId : SpaceId) : Bool :=
  (state.spaces.get? spaceId).any fun space => space.pages.any fun page => page.lifecycle == .closed

/-- A step that neither hands a closed page over to the user nor marks one lost. -/
def sparesClosed (before : System) (command : Command) : Bool :=
  match command with
  | .fenceAnswered call answer =>
      match before.calls.get? call with
      | some (.fence fence) =>
          !(fence.completion answer == .userReturn && hasClosedPage before.ledger.state fence.request.spaceId)
      | _ => true
  | .markPageLost claim pageId => !isClosed before.ledger.state claim.spaceId pageId
  | .closeAnswered call false =>
      match before.calls.get? call with
      | some (.closePage claim pageId _) => !isClosed before.ledger.state claim.spaceId pageId
      | _ => true
  | _ => true

theorem hasClosedPage_of {state : LedgerState} (found : state.page spaceId pageId = some page)
    (closed : page.lifecycle = .closed) : hasClosedPage state spaceId = true := by
  obtain ⟨space, there, inside⟩ := Option.bind_eq_some_iff.mp found
  rw [hasClosedPage, there, Option.any_some, List.any_eq_true]
  exact ⟨page, List.mem_of_find?_eq_some inside, by simp [closed]⟩

theorem reclaimedPage_closed (closed : page.lifecycle = .closed) : (reclaimedPage page).lifecycle = .closed := by
  simp [reclaimedPage, closed]

theorem PageMove.closed_stays {before : System} {command : Command} {old new : PageDescriptor}
    (spared : sparesClosed before command = true) (found : before.ledger.state.page spaceId pageId = some old)
    (closed : old.lifecycle = .closed) (move : PageMove before.calls command spaceId pageId (some old) (some new)) :
    new.lifecycle = .closed := by
  cases move with
  | keep => exact closed
  | raised raised => exact raised.lifecycle.trans closed
  | bound _ open_ => simp [permitsBinding, closed] at open_
  | lost _ cause =>
    have here : isClosed before.ledger.state spaceId pageId = true := by simp [isClosed, found, closed]
    obtain loses | impossible := cause
    · cases loses with
      | named made_by inside => simp [sparesClosed, made_by, inside, here] at spared
      | unclosed made_by call_at inside => simp [sparesClosed, made_by, call_at, inside, here] at spared
    · exact absurd closed impossible
  | rebinding _ impossible => exact absurd closed impossible
  | closing _ open_ => simp [closed] at open_
  | closed _ _ closing => simp [closed] at closing
  | returned made_by call_at completed inside =>
    have some_ := hasClosedPage_of found closed
    simp [sparesClosed, made_by, call_at, completed, inside, some_] at spared
  | reclaimed => exact reclaimedPage_closed closed

/-- A closed page is closed in every later state of a run that spares closed pages. -/
theorem closed_page_stays_closed {final : PageDescriptor} (initial : Initial config start)
    (early : HostRun config start trace middle) (late : HostRun config middle later last)
    (spared : ∀ moment, moment ∈ later ++ trace -> sparesClosed moment.before moment.label.2 = true)
    (found : middle.ledger.state.page spaceId pageId = some page) (closed : page.lifecycle = .closed)
    (present : last.ledger.state.page spaceId pageId = some final) :
    final.lifecycle ≠ .managed ∧ final.admitsAgentMutations = false := by
  have still : final.lifecycle = .closed := by
    refine HostRun.pageKeeps (·.lifecycle = .closed) early initial late found closed ?_ ?_ present
    · intro moment old new inside there closed move
      exact move.closed_stays (spared moment inside) there closed
    · intro old new closed raised
      exact raised.lifecycle.trans closed
  simp [still, PageDescriptor.admitsAgentMutations]

def sampleTarget : BoundTarget where
  url := none
  title := none
  frameCount := 1
  targetGeneration := some 1
  navigationGeneration := some 1
  documentGeneration := some 1

def closedOnce : List Label := sampleStart ++
  [(sampleEnv, .createPage sampleClaim "page"),
   (sampleEnv, .bindPage sampleClaim ⟨1⟩ sampleTarget),
   (sampleEnv, .closePage 2 sampleClaim ⟨1⟩),
   (sampleEnv, .closeAnswered 2 true)]

def returnedOnce : List Label :=
  [(sampleEnv, .returnControl 3 sampleClaim),
   (sampleEnv, .fenceAnswered 3 { acknowledged := true, error := none }),
   (sampleEnv, .takeoverWithControlTicket 4 ⟨1⟩ sampleTicket
      { spaceId := ⟨1⟩, brokerEpoch := 1, fenceEpoch := 2, token := .control 2 } 30 1000),
   (sampleEnv, .fenceAnswered 4 { acknowledged := true, error := none })]

def reboundOnce : List Label :=
  [(sampleEnv, .markPageLost sampleClaim ⟨1⟩),
   (sampleEnv, .bindPage sampleClaim ⟨1⟩ sampleTarget)]

def takenOverOnce : List Label :=
  [(sampleEnv, .takeover 5 ⟨1⟩ sampleTicket 30 1000 none),
   (sampleEnv, .fenceAnswered 5 { acknowledged := true, error := none })]

def pageLifecycle (system : System) : Option PageLifecycle :=
  (system.ledger.state.page ⟨1⟩ ⟨1⟩).map (·.lifecycle)

/-- A takeover leaves the closed page as it is. -/
theorem closed_page_stays_closed_takeover :
    ∃ later middle last final, HostRun sampleConfig middle later last ∧ later.length = 2 ∧
      pageLifecycle middle = some .closed ∧ last.ledger.state.page ⟨1⟩ ⟨1⟩ = some final ∧
      final.lifecycle ≠ .managed ∧ final.admitsAgentMutations = false := by
  obtain ⟨middle, last, moments, early, late, passed⟩ := HostRun.of_advances sampleConfig (.fresh sampleConfig)
    closedOnce takenOverOnce
    (fun middle last moments => decide (pageLifecycle middle = some .closed) && decide (moments.length = 2) &&
      (last.ledger.state.page ⟨1⟩ ⟨1⟩).isSome &&
      moments.all fun moment => sparesClosed moment.before moment.label.2) (by decide +kernel)
  simp only [Bool.and_eq_true, decide_eq_true_eq, Option.isSome_iff_exists, List.all_eq_true] at passed
  obtain ⟨⟨⟨closed, two⟩, final, present⟩, spared⟩ := passed
  obtain ⟨page, found, isClosed⟩ := Option.map_eq_some_iff.mp closed
  have before := visits_all (next sampleConfig) closedOnce (.fresh sampleConfig)
    (fun moment => sparesClosed moment.before moment.label.2) (by decide)
  have stays := closed_page_stays_closed sample_initial early late (fun moment inside => by
    obtain inside | inside := List.mem_append.mp inside
    · exact spared moment (List.mem_reverse.mp inside)
    · exact before moment inside) found isClosed present
  exact ⟨moments.reverse, middle, last, final, late, by simpa using two, closed, present, stays⟩

def Resurrects (labels : List Label) : Prop :=
  ∃ trace middle last, HostRun sampleConfig (.fresh sampleConfig) trace middle ∧
    HostRun sampleConfig middle (visits (next sampleConfig) labels middle).reverse last ∧
    pageLifecycle middle = some .closed ∧ pageLifecycle last = some .managed

theorem resurrects_of (labels : List Label)
    (ran : ((advance (next sampleConfig) closedOnce (.fresh sampleConfig)).any fun middle =>
      (advance (next sampleConfig) labels middle).any fun last =>
        pageLifecycle middle == some .closed && pageLifecycle last == some .managed) = true) : Resurrects labels := by
  obtain ⟨middle, early, ran⟩ := advance_reaches (next sampleConfig) (.fresh sampleConfig) closedOnce _ ran
  obtain ⟨last, late, passed⟩ := advance_reaches (next sampleConfig) middle labels _ ran
  simp only [Bool.and_eq_true, beq_iff_eq] at passed
  exact ⟨_, middle, last, early, late, passed⟩

/-- A closed page comes back through its user, and through a loss. -/
theorem closed_page_resurrected : Resurrects returnedOnce ∧ Resurrects reboundOnce :=
  ⟨resurrects_of returnedOnce (by decide), resurrects_of reboundOnce (by decide)⟩

end Closed

section Generations

/-- A step that binds no page at a generation below the one the ledger has. -/
def bindsForward (before : System) (command : Command) : Bool :=
  match command with
  | .bindManagedPage call target =>
      match before.calls.get? call with
      | some (.managedPage claim pageId) =>
          (before.ledger.state.page claim.spaceId pageId).all fun page =>
            (target.targetGeneration.all (page.targetGeneration ≤ ·)) &&
              (target.navigationGeneration.all (page.navigationGeneration ≤ ·)) &&
              target.documentGeneration.all (page.documentGeneration ≤ ·)
      | _ => true
  | _ => true

theorem le_getD_succ {current next : Nat} {observed : Option Nat} (bound : next = observed.getD (current + 1))
    (above : observed.all (current ≤ ·) = true) : current ≤ next := by
  cases observed with
  | none => simp [bound]
  | some value => simpa [bound] using above

theorem PageMove.rises {before : System} {command : Command} {old new : PageDescriptor}
    (forward : bindsForward before command = true) (found : before.ledger.state.page spaceId pageId = some old)
    (move : PageMove before.calls command spaceId pageId (some old) (some new)) : old.Rises new := by
  cases move with
  | keep => exact .refl old
  | raised raised => exact raised.rises
  | @bound _ _ target made_by _ _ targets navigation document =>
    have above : (target.targetGeneration.all (old.targetGeneration ≤ ·)) = true ∧
        (target.navigationGeneration.all (old.navigationGeneration ≤ ·)) = true ∧
        (target.documentGeneration.all (old.documentGeneration ≤ ·)) = true := by
      cases made_by with
      | observed made_by call_at inside =>
        subst inside
        simpa [bindsForward, made_by, call_at, found, and_assoc] using forward
      | blind _ _ target_ navigation_ document_ => simp [target_, navigation_, document_]
    exact ⟨le_getD_succ targets above.1, le_getD_succ navigation above.2.1, le_getD_succ document above.2.2⟩
  | lost rises => exact rises
  | rebinding rises => exact rises
  | closing rises => exact rises
  | closed _ rises => exact rises
  | returned => exact ⟨le_rfl, le_rfl, le_rfl⟩
  | reclaimed =>
    unfold reclaimedPage
    dsimp only
    split_ifs <;> exact ⟨le_rfl, le_rfl, le_rfl⟩

/-- No generation of a page goes down along a run whose bindings go forward. -/
theorem page_generations_rise {final : PageDescriptor} (initial : Initial config start)
    (early : HostRun config start trace middle) (late : HostRun config middle later last)
    (forward : ∀ moment, moment ∈ later ++ trace -> bindsForward moment.before moment.label.2 = true)
    (found : middle.ledger.state.page spaceId pageId = some page)
    (present : last.ledger.state.page spaceId pageId = some final) :
    page.targetGeneration ≤ final.targetGeneration ∧ page.navigationGeneration ≤ final.navigationGeneration ∧
      page.documentGeneration ≤ final.documentGeneration := by
  have rises : page.Rises final := by
    refine HostRun.pageKeeps page.Rises early initial late found (.refl page) ?_ ?_ present
    · intro moment old new inside there above move
      exact above.trans (move.rises (forward moment inside) there)
    · intro old new above raised
      exact above.trans raised.rises
  exact ⟨rises.target, rises.navigation, rises.document⟩

def plannedOnce : List Label := sampleStart ++ [(sampleEnv, .createManagedPage 6 sampleClaim "page")]

def navigatedEvent : BridgeEvent where
  name := .documentChanged
  brokerEpoch := 1
  connectionEpoch := 1
  workerInstanceEpoch := none
  browserSessionEpoch := none
  spaceId := some ⟨1⟩
  pageId := some ⟨1⟩
  frameId := none
  documentId := none
  navigationId := none
  targetGeneration := none
  navigationGeneration := some 2
  documentGeneration := none
  payload := []

def pageNavigation (system : System) : Option Generation :=
  (system.ledger.state.page ⟨1⟩ ⟨1⟩).map (·.navigationGeneration)

theorem page_generations_rise_bound :
    ∃ later middle last page final, HostRun sampleConfig middle later last ∧
      middle.ledger.state.page ⟨1⟩ ⟨1⟩ = some page ∧ last.ledger.state.page ⟨1⟩ ⟨1⟩ = some final ∧
      final.lifecycle = .managed ∧ page.targetGeneration ≤ final.targetGeneration ∧
      page.navigationGeneration ≤ final.navigationGeneration ∧
      page.documentGeneration ≤ final.documentGeneration := by
  obtain ⟨middle, last, moments, early, late, passed⟩ := HostRun.of_advances sampleConfig (.fresh sampleConfig)
    plannedOnce [(sampleEnv, .bindManagedPage 6 sampleTarget)]
    (fun middle last moments => (middle.ledger.state.page ⟨1⟩ ⟨1⟩).isSome &&
      ((last.ledger.state.page ⟨1⟩ ⟨1⟩).any fun page => page.lifecycle == .managed) &&
      moments.all fun moment => bindsForward moment.before moment.label.2) (by decide +kernel)
  simp only [Bool.and_eq_true, Option.isSome_iff_exists, Option.any_eq_true, beq_iff_eq, List.all_eq_true] at passed
  obtain ⟨⟨⟨page, found⟩, final, present, managed⟩, forward⟩ := passed
  have before := visits_all (next sampleConfig) plannedOnce (.fresh sampleConfig)
    (fun moment => bindsForward moment.before moment.label.2) (by decide)
  have rises := page_generations_rise sample_initial early late (fun moment inside => by
    obtain inside | inside := List.mem_append.mp inside
    · exact forward moment (List.mem_reverse.mp inside)
    · exact before moment inside) found present
  exact ⟨moments.reverse, middle, last, page, final, late, found, present, managed, rises⟩

/-- An event moves the planned page on before its binding takes the generations of its creation. -/
theorem page_generation_falls :
    ∃ trace middle later last, HostRun sampleConfig (.fresh sampleConfig) trace middle ∧
      HostRun sampleConfig middle later last ∧ pageNavigation middle = some 2 ∧ pageNavigation last = some 1 := by
  obtain ⟨middle, last, _, early, late, passed⟩ := HostRun.of_advances sampleConfig (.fresh sampleConfig)
    (plannedOnce ++ [(sampleEnv, .bridgeEvent navigatedEvent sampleTicket 30)])
    [(sampleEnv, .bindManagedPage 6 sampleTarget)]
    (fun middle last _ => pageNavigation middle == some 2 && pageNavigation last == some 1) (by decide +kernel)
  simp only [Bool.and_eq_true, beq_iff_eq] at passed
  exact ⟨_, middle, _, last, early, late, passed⟩

end Generations

end Runs

end AgentycHost
