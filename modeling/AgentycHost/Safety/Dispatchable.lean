import AgentycHost.Cdp.Capture
import AgentycHost.Cdp.Deployment
import AgentycHost.Effects.Finishing
import AgentycHost.System.Dispatch

set_option autoImplicit false

/-! # Issued refs and the captures of the bridge -/

namespace AgentycHost

open Shared

variable {spaceId : SpaceId} {pageId : PageId} {envelope : SnapshotEnvelope} {env : Environment}

/-- The record of a page that references are issued from and reads are served from. -/
def LedgerState.cleanRecord (state : LedgerState) (spaceId : SpaceId) (pageId : PageId) : Option SnapshotEnvelope := do
  let record <- state.snapshot spaceId pageId
  let page <- state.page spaceId pageId
  if !record.dirty && record.generation == .fromPage page then some record.envelope else none

def Call.capturedOf (spaceId : SpaceId) (pageId : PageId) : Call -> Option SnapshotEnvelope
  | .captured claim asked _ envelope => if claim.spaceId = spaceId ∧ asked = pageId then some envelope else none
  | _ => none

def Pending.capturedOf (spaceId : SpaceId) (pageId : PageId) (pending : Pending) : Option SnapshotEnvelope :=
  match pending.asked, pending.answer with
  | .capture claim asked _, .captured envelope =>
      if claim.spaceId = spaceId ∧ asked = pageId then some envelope else none
  | _, _ => none

/-- The captures of a page that the broker has: the clean record, and those that wait for their commit. -/
def Deployment.captures (deployment : Deployment) (spaceId : SpaceId) (pageId : PageId) : List SnapshotEnvelope :=
  (deployment.host.ledger.state.cleanRecord spaceId pageId).toList ++
    deployment.host.calls.values.filterMap (·.capturedOf spaceId pageId) ++
    deployment.answers.values.filterMap (·.capturedOf spaceId pageId)

def Call.captures (spaceId : SpaceId) (pageId : PageId) : Call -> Bool
  | .capture claim asked _ => claim.spaceId == spaceId && asked == pageId
  | _ => false

/-- The bridge is asked to capture a page. -/
def capturesPage (spaceId : SpaceId) (pageId : PageId) (moment : Moment Deployment DeployLabel) : Bool :=
  match moment.label with
  | .bridge call _ _ => (moment.before.host.calls.get? call).any (·.captures spaceId pageId)
  | _ => false

def Command.readsOrIssues : Command -> Bool
  | .readSnapshot _ _ _ | .captureSnapshot _ _ | .commitSnapshot _ | .observePages _ | .abandon _
  | .issueRef _ _ _ _ => true
  | _ => false

/-- The steps of `read_snapshot` and of `issue_ref`. -/
def readsOrIssues (moment : Moment Deployment DeployLabel) : Bool :=
  match moment.label with
  | .host _ command => command.readsOrIssues
  | .bridge call _ _ => (moment.before.host.calls.get? call).any fun asked => asked.kind == .capture
  | .inventory _ => true
  | .rebind _ _ => false

section Records

variable {before after : LedgerState} {done : Unit}

theorem cleanRecord_eq_some : before.cleanRecord spaceId pageId = some envelope <-> ∃ record page,
    before.snapshot spaceId pageId = some record ∧ before.page spaceId pageId = some page ∧ record.dirty = false ∧
      record.generation = .fromPage page ∧ record.envelope = envelope := by
  simp only [LedgerState.cleanRecord, Option.bind_eq_bind, Option.bind_eq_some_iff]
  constructor
  · rintro ⟨record, stored, page, found, clean⟩
    split_ifs at clean with current
    rw [Bool.and_eq_true, Bool.not_eq_true', beq_iff_eq] at current
    exact ⟨record, page, stored, found, current.1, current.2, Option.some.inj clean⟩
  · rintro ⟨record, page, stored, found, clean, current, rfl⟩
    exact ⟨record, stored, page, found, by rw [clean, current]; simp⟩

theorem cleanRecord_of_events (same : SameButEvents before after) : after.cleanRecord = before.cleanRecord := by
  obtain ⟨_, _, _, rfl⟩ := same
  rfl

theorem adoptObservation_cleanRecord {record : ObservedPage} {changed : Bool}
    (run : adoptObservation before record = .ok (after, changed))
    (clean : after.cleanRecord spaceId pageId = some envelope) :
    before.cleanRecord spaceId pageId = some envelope := by
  unfold adoptObservation at run
  split at run
  · obtain ⟨rfl, _⟩ := Prod.mk.inj (pure_ok.mp run)
    exact clean
  · next old found =>
    obtain ⟨found, _⟩ := Option.filter_eq_some_iff.mp found
    simp only [bind_ok, pure_ok, Prod.mk.injEq] at run
    obtain ⟨url, _, title, _, rfl, _⟩ := run
    obtain ⟨stored, page, there, placed, unmarked, current, rfl⟩ := cleanRecord_eq_some.mp clean
    simp only [LedgerState.snapshot, Table.get?_insert] at there
    have elsewhere : ¬ (spaceId = record.spaceId ∧ pageId = record.pageId) := by
      rintro ⟨rfl, rfl⟩
      rw [if_pos rfl, Option.bind_some, Table.get?_erase, if_pos rfl] at there
      cases there
    have kept : before.snapshot spaceId pageId = some stored := by
      rw [LedgerState.snapshot]
      split_ifs at there with here
      · subst here
        have distinct : pageId ≠ record.pageId := fun same => elsewhere ⟨rfl, same⟩
        rw [Option.bind_some, Table.get?_erase, if_neg distinct] at there
        cases pages : before.snapshots.get? record.spaceId with
        | none =>
          rw [pages] at there
          cases there
        | some pages_ =>
          rw [pages] at there
          exact there
      · exact there
    have named : old.pageId = record.pageId := LedgerState.page_pageId found
    have placed : before.page spaceId pageId = some page := by
      refine Eq.trans ?_ placed
      refine Eq.trans ?_ (LedgerState.page_changePage _ (fun _ _ => rfl) spaceId pageId).symm
      rw [if_neg]
      rwa [named]
    exact cleanRecord_eq_some.mpr ⟨stored, page, kept, placed, unmarked, current, rfl⟩

theorem adoptObservations_cleanRecord {records changed : List ObservedPage}
    (run : adoptObservations before records = .ok (after, changed))
    (clean : after.cleanRecord spaceId pageId = some envelope) :
    before.cleanRecord spaceId pageId = some envelope := by
  induction records generalizing before changed with
  | nil =>
    obtain ⟨rfl, _⟩ := Prod.mk.inj (pure_ok.mp run)
    exact clean
  | cons record rest ih =>
    simp only [adoptObservations, bind_ok, pure_ok, Prod.exists, Prod.mk.injEq] at run
    obtain ⟨_, _, first, _, _, others, rfl, _⟩ := run
    exact adoptObservation_cleanRecord first (ih others)

theorem reconcileBridgePages_cleanRecord {observation : List ObservedPage}
    (run : reconcileBridgePages observation before = .ok (done, after))
    (clean : after.cleanRecord spaceId pageId = some envelope) :
    before.cleanRecord spaceId pageId = some envelope := by
  simp only [reconcileBridgePages, bind_ok, pure_ok, Prod.exists, Prod.mk.injEq] at run
  obtain ⟨_, _, adopted, _, appended, _, rfl⟩ := run
  rw [cleanRecord_of_events (foldlM_events (fun _ _ _ => pageChanged_same) appended)] at clean
  exact adoptObservations_cleanRecord adopted clean

theorem commitSnapshot_cleanRecord {target : SpaceId} {captured : PageId} {authority : AuthorityTicket}
    {leaseEpoch : LeaseEpoch} {now : Timestamp} {generation : PageGeneration} {taken : SnapshotEnvelope}
    (run : commitSnapshot target captured authority leaseEpoch now generation taken before = .ok (done, after))
    (clean : after.cleanRecord spaceId pageId = some envelope) :
    target = spaceId ∧ captured = pageId ∧ taken = envelope ∨ before.cleanRecord spaceId pageId = some envelope := by
  simp only [commitSnapshot, bind_ok, pure_ok, Prod.mk.injEq] at run
  obtain ⟨_, _, _, _, _, appended, _, rfl⟩ := run
  rw [cleanRecord_of_events (appendEvent_same appended)] at clean
  obtain ⟨stored, page, there, placed, unmarked, current, rfl⟩ := cleanRecord_eq_some.mp clean
  simp only [LedgerState.snapshot, storeSnapshot, Table.get?_insert] at there
  by_cases here : spaceId = target ∧ pageId = captured
  · obtain ⟨rfl, rfl⟩ := here
    rw [if_pos rfl, Option.bind_some, Table.get?_insert_self] at there
    obtain rfl := Option.some.inj there
    exact .inl ⟨rfl, rfl, rfl⟩
  · refine .inr (cleanRecord_eq_some.mpr ⟨stored, page, ?_, placed, unmarked, current, rfl⟩)
    rw [LedgerState.snapshot]
    split_ifs at there with same
    · subst same
      have distinct : pageId ≠ captured := fun named => here ⟨rfl, named⟩
      rw [Option.bind_some, Table.get?_insert_ne _ _ _ _ distinct] at there
      cases pages : before.snapshots.get? spaceId with
      | none =>
        rw [pages] at there
        cases there
      | some pages_ =>
        rw [pages] at there
        exact there
    · exact there

end Records

section Host

variable {config : HostConfig} {host later : System} {A : Type} {number : Nat}

def System.hasCapture (host : System) (spaceId : SpaceId) (pageId : PageId) (envelope : SnapshotEnvelope) : Prop :=
  host.ledger.state.cleanRecord spaceId pageId = some envelope ∨
    ∃ number call, host.calls.get? number = some call ∧ call.capturedOf spaceId pageId = some envelope

theorem System.commit_state (config : HostConfig) (env : Environment) (transition : Transition A) :
    (host.commit config env transition).1.ledger.state = host.ledger.state ∨
      ∃ value next, transition host.ledger.state = .ok (value, next) ∧
        (host.commit config env transition).1.ledger.state = drainEvents config.ledger.limits next := by
  unfold System.commit
  obtain ⟨_, same⟩ | ⟨value, next, _, moved, rfl, _, done | ⟨_, written⟩⟩ :=
    host.ledger.update_cases config.ledger env.io transition
  · rw [same]
    exact .inl rfl
  · rw [done]
    exact .inr ⟨value, next, moved, rfl⟩
  · rw [written]
    exact .inl rfl

theorem System.commit_captures {transition : Transition A}
    (drops : ∀ value next, transition host.ledger.state = .ok (value, next) ->
      next.cleanRecord spaceId pageId = some envelope -> host.ledger.state.cleanRecord spaceId pageId = some envelope)
    (has : (host.commit config env transition).1.hasCapture spaceId pageId envelope) :
    host.hasCapture spaceId pageId envelope := by
  obtain clean | waiting := has
  · obtain same | ⟨value, next, moved, drained⟩ := host.commit_state config env transition
    · rw [same] at clean
      exact .inl clean
    · rw [drained] at clean
      exact .inl (drops value next moved clean)
  · exact .inr waiting

theorem System.endCall_captures (has : (host.endCall number).hasCapture spaceId pageId envelope) :
    host.hasCapture spaceId pageId envelope := by
  obtain clean | ⟨other, call, found, captured⟩ := has
  · exact .inl clean
  · rw [System.endCall, Table.get?_erase] at found
    split_ifs at found
    exact .inr ⟨other, call, found, captured⟩

theorem System.setCall_captures {next : Call} (has : (host.setCall number next).hasCapture spaceId pageId envelope) :
    next.capturedOf spaceId pageId = some envelope ∨ host.hasCapture spaceId pageId envelope := by
  obtain clean | ⟨other, call, found, captured⟩ := has
  · exact .inr (.inl clean)
  · rw [System.setCall, Table.get?_insert] at found
    split_ifs at found
    · obtain rfl := Option.some.inj found
      exact .inl captured
    · exact .inr (.inr ⟨other, call, found, captured⟩)

theorem System.goOn_captures {next : A -> Except HostError (Option Call)} {reply : Reply A}
    (quiet : ∀ value call, next value = .ok (some call) -> call.capturedOf spaceId pageId = none)
    (has : (System.goOn number next reply).1.hasCapture spaceId pageId envelope) :
    reply.1.hasCapture spaceId pageId envelope := by
  unfold System.goOn at has
  split at has
  · exact System.endCall_captures has
  next continuation going =>
    obtain captured | has := System.setCall_captures has
    · obtain ⟨value, _, chosen⟩ := bind_ok.mp going
      rw [quiet value continuation chosen] at captured
      cases captured
    · exact has
  · exact System.endCall_captures has

theorem issueFrom_captures {claim : Claim} {frameId : FrameId} {elementKey : ElementKey} {reply : Reply SnapshotEnvelope}
    (has : (issueFrom config claim frameId elementKey reply).1.hasCapture spaceId pageId envelope) :
    reply.1.hasCapture spaceId pageId envelope := by
  unfold issueFrom at has
  split at has
  · exact has
  · dsimp only at has
    split at has <;> exact has

theorem step_captures {command : Command} {result : Except HostError Unit} (reads : command.readsOrIssues = true)
    (taken : step config env command host = some (later, result)) (has : later.hasCapture spaceId pageId envelope) :
    host.hasCapture spaceId pageId envelope ∨ ∃ number claim generation,
      command = .captureSnapshot number envelope ∧
        host.calls.get? number = some (.capture claim pageId generation) ∧ claim.spaceId = spaceId := by
  unfold Command.readsOrIssues at reads
  split at reads
  case h_1 number claim asked =>
    simp only [step, snapshotStep] at taken
    split_ifs at taken
    rw [replied taken] at has
    unfold System.afterCheck at has
    split at has
    · exact .inl has
    · refine .inl (System.commit_captures (fun generation next moved clean => ?_) (System.goOn_captures ?_ has))
      · simp only [captureGeneration, bind_ok, pure_ok, Prod.mk.injEq] at moved
        obtain ⟨_, _, _, rfl⟩ := moved
        exact clean
      · rintro _ _ ⟨⟩
        rfl
  case h_2 number captured =>
    simp only [step, snapshotStep] at taken
    split at taken
    next claim asked generation call_at =>
      split at taken
      · rw [replied taken] at has
        exact .inl (System.endCall_captures has)
      · rw [replied taken] at has
        obtain here | has := System.setCall_captures has
        · unfold Call.capturedOf at here
          dsimp only at here
          split_ifs at here with named
          obtain ⟨rfl, rfl⟩ := named
          obtain rfl := Option.some.inj here
          exact .inr ⟨number, claim, generation, rfl, call_at, rfl⟩
        · exact .inl has
    · cases taken
  case h_3 number =>
    simp only [step, snapshotStep] at taken
    split at taken
    next claim asked generation captured call_at =>
      rw [replied taken] at has
      have has := System.goOn_captures (fun _ _ ends => by cases ends) has
      obtain clean | waiting := has
      · obtain same | ⟨value, next, moved, drained⟩ := host.commit_state config env
          (commitSnapshot claim.spaceId asked claim.authority claim.leaseEpoch claim.now generation captured)
        · rw [same] at clean
          exact .inl (.inl clean)
        · rw [drained] at clean
          obtain ⟨rfl, rfl, rfl⟩ | clean := commitSnapshot_cleanRecord moved clean
          · -- the capture was there before, with the call that commits it
            exact .inl (.inr ⟨number, _, call_at, if_pos ⟨rfl, rfl⟩⟩)
          · exact .inl (.inl clean)
      · exact .inl (.inr waiting)
    · cases taken
  case h_4 observation =>
    simp only [step, sessionStep] at taken
    rw [replied taken, System.done_fst] at has
    exact .inl (System.commit_captures (fun _ _ moved clean => reconcileBridgePages_cleanRecord moved clean) has)
  case h_5 number =>
    simp only [step, hostStep] at taken
    split at taken
    all_goals try cases taken
    all_goals exact .inl (System.endCall_captures has)
  case h_6 claim asked frameId elementKey =>
    simp only [step, snapshotStep] at taken
    rw [replied taken] at has
    refine .inl (System.commit_captures (fun _ next moved clean => ?_) (issueFrom_captures has))
    simp only [issuingEnvelope, bind_ok, pure_ok, Prod.mk.injEq] at moved
    obtain ⟨_, _, _, _, _, _, _, _, _, rfl⟩ := moved
    exact clean
  case h_7 => cases reads

end Host

section Deployments

variable {config : DeployConfig} {codec : Codec} {rendering : DomRendering}
  {boxCenter : Json -> Except CoreError (Int × Int)} {parseDomSnapshot : Json -> Except CoreError DomSnapshot}
  {deployment before after start last : Deployment} {label : DeployLabel}
  {trace : List (Moment Deployment DeployLabel)} {bridge : CdpBridgeState} {moment : Moment Deployment DeployLabel}
  {elementKey : ElementKey} {element : ElementRef} {frameId : FrameId} {registry : RefRegistry} {now : Timestamp}

theorem mem_captures : envelope ∈ deployment.captures spaceId pageId <->
    deployment.host.hasCapture spaceId pageId envelope ∨
      ∃ number pending, deployment.answers.get? number = some pending ∧
        pending.capturedOf spaceId pageId = some envelope := by
  simp only [Deployment.captures, List.mem_append, Option.mem_toList, List.mem_filterMap,
    Table.mem_values, System.hasCapture]
  constructor
  · rintro ((clean | ⟨call, ⟨number, found⟩, captured⟩) | ⟨pending, ⟨number, found⟩, captured⟩)
    · exact .inl (.inl clean)
    · exact .inl (.inr ⟨number, call, found, captured⟩)
    · exact .inr ⟨number, pending, found, captured⟩
  · rintro ((clean | ⟨number, call, found, captured⟩) | ⟨number, pending, found, captured⟩)
    · exact .inl (.inl clean)
    · exact .inl (.inr ⟨call, ⟨number, found⟩, captured⟩)
    · exact .inr ⟨pending, ⟨number, found⟩, captured⟩

/-- The captures of a step's label name the nodes of their elements. -/
def NamedCaptures (parseDomSnapshot : Json -> Except CoreError DomSnapshot) : DeployLabel -> Prop
  | .bridge _ outside _ => NamesNodes parseDomSnapshot outside.turns
  | _ => True

inductive ReadStep (spaceId : SpaceId) (pageId : PageId) (moment : Moment Deployment DeployLabel) : Prop where
  | quiet
      (captures : ∀ envelope, envelope ∈ moment.after.captures spaceId pageId ->
        envelope ∈ moment.before.captures spaceId pageId)
      (page : moment.after.bridge.pages.get? (spaceId, pageId) = moment.before.bridge.pages.get? (spaceId, pageId))
  | captured {envelope : SnapshotEnvelope} {page : ManagedPage} (asked : capturesPage spaceId pageId moment = true)
      (captures : ∀ other, other ∈ moment.after.captures spaceId pageId ->
        other = envelope ∨ other ∈ moment.before.captures spaceId pageId)
      (page_at : moment.after.bridge.pages.get? (spaceId, pageId) = some page)
      (fresh : CapturedFrom page spaceId pageId envelope)

theorem host_captures {command : Command} {host : System} (reads : command.readsOrIssues = true)
    (admitted : before.admits env command = true)
    (taken : AgentycHost.next config.host (env, command) before.host = some host)
    (inside : envelope ∈ (before.moved command host).captures spaceId pageId) :
    envelope ∈ before.captures spaceId pageId := by
  have running : ∀ failures, command ≠ .restart failures := by
    rintro failures rfl
    cases reads
  obtain ⟨_, kept⟩ := before.moved_running host running
  obtain has | ⟨number, pending, found, captured⟩ := mem_captures.mp inside
  · rw [Deployment.moved_host] at has
    obtain ⟨_, stepped⟩ := next_step taken
    obtain has | ⟨number, claim, generation, rfl, call_at, rfl⟩ := step_captures reads stepped has
    · exact mem_captures.mpr (.inl has)
    · -- the capture comes from the answer of the bridge
      have waiting : before.answered number = some (.captured envelope) :=
        beq_iff_eq.mp (Bool.and_eq_true_iff.mp admitted).2
      obtain ⟨asked, found, same⟩ := Deployment.answered_cases waiting
      obtain rfl := Option.some.inj (call_at.symm.trans same)
      exact mem_captures.mpr (.inr ⟨number, _, found, if_pos ⟨rfl, rfl⟩⟩)
  · exact mem_captures.mpr (.inr ⟨number, pending, kept number pending found, captured⟩)

theorem answer_captures {number : Nat} {pending : Pending}
    (inside : envelope ∈ ({ before with bridge, answers := before.answers.insert number pending } : Deployment).captures
      spaceId pageId) :
    pending.capturedOf spaceId pageId = some envelope ∨ envelope ∈ before.captures spaceId pageId := by
  obtain has | ⟨other, waiting, found, captured⟩ := mem_captures.mp inside
  · exact .inr (mem_captures.mpr (.inl has))
  · rw [Table.get?_insert] at found
    split_ifs at found
    · obtain rfl := Option.some.inj found
      exact .inl captured
    · exact .inr (mem_captures.mpr (.inr ⟨other, waiting, found, captured⟩))

theorem capture_asked {arguments : CreationArguments} {asked : Call} {prior : Option Answer} {request : BridgeCall}
    (kind : asked.kind = .capture) (asks : asked.nextBridgeCall arguments prior = some request) :
    ∃ claim page generation, asked = .capture claim page generation ∧ prior = none ∧
      request = .snapshot claim.spaceId page claim.leaseEpoch := by
  cases asked with
  | capture claim page generation =>
    cases prior with
    | none =>
      cases asks
      exact ⟨claim, page, generation, rfl, rfl, rfl⟩
    | some _ => cases asks
  | captured => cases asks
  | dispatch | fence | fenced | managedPage | closePage | finish | reconcile => cases kind

theorem readStep (capturing : config.cdp = .capturing codec rendering boxCenter parseDomSnapshot)
    (taken : Deployment.next config label before = some after)
    (reads : readsOrIssues ⟨before, label, after⟩ = true) (named : NamedCaptures parseDomSnapshot label)
    (connected : after.bridge.client.usable = true) : ReadStep spaceId pageId ⟨before, label, after⟩ := by
  cases deploy_cases taken with
  | @host env command host admitted stepped moved =>
    subst moved
    refine .quiet (fun envelope inside => host_captures reads admitted stepped inside) ?_
    have running : ∀ failures, command ≠ .restart failures := by
      rintro failures rfl
      cases reads
    rw [(before.moved_running host running).1]
  | @bridge call outside arguments asked request answer call_at asks noted moved =>
    have kind : asked.kind = .capture := by
      simp only [readsOrIssues, call_at, Option.any_some, beq_iff_eq] at reads
      exact reads
    obtain ⟨claim, page, generation, rfl, prior, rfl⟩ := capture_asked kind asks
    rw [prior, capturing] at noted
    rw [capturing] at moved
    generalize served_at : serve _ outside _ before.bridge = served at noted moved
    subst moved
    obtain ⟨⟨error, failed⟩, kept⟩ | ⟨envelope, captured, fresh⟩ := serve_snapshot outside _ _ named served_at
    · rw [failed] at noted
      obtain rfl := Option.some.inj noted
      refine .quiet (fun other inside => ?_) ?_
      · obtain impossible | inside := answer_captures inside
        · cases impossible
        · exact inside
      · obtain same | lost := kept
        · exact congrArg (fun pages : Table PageKey ManagedPage => pages.get? (spaceId, pageId)) same
        · cases connected.symm.trans lost
    · rw [captured] at noted
      obtain rfl := Option.some.inj noted
      by_cases here : claim.spaceId = spaceId ∧ page = pageId
      · obtain ⟨rfl, rfl⟩ := here
        obtain ⟨record, found, matches_⟩ := fresh.captured
        refine .captured ?_ (fun other inside => ?_) found matches_
        · simp [capturesPage, call_at, Call.captures]
        · obtain new | inside := answer_captures inside
          · exact .inl (Option.some.inj ((if_pos ⟨rfl, rfl⟩).symm.trans new)).symm
          · exact .inr inside
      · refine .quiet (fun other inside => ?_) (fresh.others _ fun same => here ?_)
        · obtain new | inside := answer_captures inside
          · cases (if_neg here).symm.trans new
          · exact inside
        · obtain ⟨rfl, rfl⟩ := Prod.mk.inj same
          exact ⟨rfl, rfl⟩
  | rebind _ _ moved => cases reads
  | inventory moved =>
    subst moved
    exact .quiet (fun _ inside => inside) rfl

/-- What the broker has of a page is what the bridge has of it; a page that nobody read is such. -/
def CurrentCaptures (deployment : Deployment) (spaceId : SpaceId) (pageId : PageId) : Prop :=
  ∀ envelope, envelope ∈ deployment.captures spaceId pageId -> ∃ page,
    deployment.bridge.pages.get? (spaceId, pageId) = some page ∧ CapturedFrom page spaceId pageId envelope

/-- The bridge captures a page only when the broker has no other capture of it. -/
def CapturesAlone (spaceId : SpaceId) (pageId : PageId) (moment : Moment Deployment DeployLabel) : Prop :=
  capturesPage spaceId pageId moment = true -> moment.before.captures spaceId pageId = []

theorem CurrentCaptures.step (step : ReadStep spaceId pageId moment) (alone : CapturesAlone spaceId pageId moment)
    (settled : CurrentCaptures moment.before spaceId pageId) :
    CurrentCaptures moment.after spaceId pageId := by
  intro other inside
  cases step with
  | quiet captures page =>
    rw [page]
    exact settled other (captures other inside)
  | @captured envelope page asked captures page_at fresh =>
    obtain rfl | older := captures other inside
    · exact ⟨page, page_at, fresh⟩
    · rw [alone asked] at older
      cases older

/-- The check that `dispatch_element_action` makes of a ref, for a request that presents it. -/
def CdpBridgeState.AcceptsRef (bridge : CdpBridgeState) (element : ElementRef) : Prop :=
  ∀ request pageId input, request.spaceId = element.spaceId -> pageId = element.pageId ->
    input.elementRef = element -> input.frameId = element.frameId -> ∃ page,
      bridge.pages.get? (request.spaceId, pageId) = some page ∧ refMatchesPage request pageId input page = true ∧
        page.backendNodes.contains element.elementKey = true

/-- The ref that a step of `issue_ref` returns. -/
def issuedRef (config : HostConfig) (moment : Moment Deployment DeployLabel) : Option ElementRef :=
  match moment.label with
  | .host env (.issueRef claim pageId frameId elementKey) =>
      match moment.before.host.commit config env
          (issuingEnvelope claim.spaceId pageId claim.authority claim.leaseEpoch claim.now) with
      | (host, .ok envelope) =>
          (host.registry.issue config.ledger.codec envelope frameId elementKey claim.now).2.toOption
      | (_, .error _) => none
  | _ => none

theorem issue_made {codec : Codec} (issued : (registry.issue codec envelope frameId elementKey now).2 = .ok element) :
    ∃ refId keys, envelope.elementKeys = some keys ∧ elementKey ∈ keys ∧
      (RefRegistry.frameVersionIn envelope frameId).isSome ∧
      element = { refId, elementKey, frameId, spaceId := envelope.spaceId, pageId := envelope.pageId,
                  snapshotVersion := envelope.snapshotVersion, documentGeneration := envelope.documentGeneration,
                  navigationGeneration := envelope.navigationGeneration, refsEpoch := envelope.refsEpoch } := by
  unfold RefRegistry.issue at issued
  split at issued
  · cases issued
  · split at issued
    · cases issued
    next allocated refId _ =>
      split at issued
      · cases issued
      next made registry_ issuedWith =>
        obtain rfl := Except.ok.inj issued
        simp only [RefRegistry.issueWithId, RefRegistry.makeRef, bind_ok, require_ok, orElse_ok, pure_ok,
          Prod.mk.injEq] at issuedWith
        obtain ⟨_, _, version, framed, _, ⟨_, _, keys, listed, _, present, rfl⟩, _, _, rfl, _⟩ := issuedWith
        exact ⟨refId, keys, listed, List.contains_iff_mem.mp present, by rw [framed]; rfl, rfl⟩

theorem issuedRef_cases {claim : Claim} (asked : moment.label = .host env (.issueRef claim pageId frameId elementKey))
    (issued : issuedRef config.host moment = some element) :
    ∃ envelope registry, moment.before.host.ledger.state.cleanRecord claim.spaceId pageId = some envelope ∧
      (RefRegistry.issue config.host.ledger.codec registry envelope frameId elementKey claim.now).2 = .ok element := by
  unfold issuedRef at issued
  rw [asked] at issued
  dsimp only at issued
  split at issued
  next host envelope committed =>
    obtain ⟨_, run, _⟩ := commit_ok committed
    have made : (host.registry.issue config.host.ledger.codec envelope frameId elementKey claim.now).2 = .ok element := by
      cases ended : (host.registry.issue config.host.ledger.codec envelope frameId elementKey claim.now).2 with
      | error _ =>
        rw [ended] at issued
        cases issued
      | ok found =>
        rw [ended] at issued
        exact congrArg Except.ok (Option.some.inj issued)
    simp only [issuingEnvelope, bind_ok, require_ok, orElse_ok, pure_ok, Prod.mk.injEq] at run
    obtain ⟨generation, allowed, record, stored, _, current, _, _, rfl, _⟩ := run
    refine ⟨record.envelope, host.registry, ?_, made⟩
    simp only [authorizePage, findPage, bind_ok, require_ok, orElse_ok, pure_ok] at allowed
    obtain ⟨_, _, page, found, _, _, _, _, rfl⟩ := allowed
    simp only [Bool.and_eq_true, Bool.not_eq_true', beq_iff_eq] at current
    exact cleanRecord_eq_some.mpr ⟨record, page, stored, found, current.1.1.1, current.1.1.2, rfl⟩
  · cases issued

theorem CapturedFrom.accepts {page : ManagedPage} (captured : CapturedFrom page spaceId pageId envelope)
    (held : bridge.pages.get? (spaceId, pageId) = some page)
    (issued : (registry.issue codec envelope frameId elementKey now).2 = .ok element) :
    bridge.AcceptsRef element := by
  obtain ⟨refId, keys, listed, present, framed, rfl⟩ := issue_made issued
  rintro request asked input inside rfl presented frame
  have main : frameId = mainFrame := by
    unfold RefRegistry.frameVersionIn at framed
    rw [captured.frames, Option.isSome_map, List.find?_isSome] at framed
    obtain ⟨entry, only, same⟩ := framed
    rw [List.mem_singleton] at only
    rw [only] at same
    exact (beq_iff_eq.mp same).symm
  dsimp only at inside frame
  refine ⟨page, ?_, ?_, captured.keys keys elementKey listed present⟩
  · rw [inside, captured.inSpace, captured.ofPage]
    exact held
  · simp only [refMatchesPage, presented, inside, frame, main, captured.version, captured.refsEpoch,
      captured.navigation, captured.document, beq_self_eq_true, Bool.and_self]

/-- A ref of the page that a read or an issue gave out is accepted until the next capture of the page begins, when
the bridge captures the page only while the broker has no other capture of it. -/
theorem issued_refs_dispatchable {earlier later : List (Moment Deployment DeployLabel)}
    {moment : Moment Deployment DeployLabel} {env : Environment} {claim : Claim} {frameId : FrameId}
    {elementKey : ElementKey} {element : ElementRef}
    (capturing : config.cdp = .capturing codec rendering boxCenter parseDomSnapshot)
    (run : DeployRun config start trace last) (split : trace = later ++ moment :: earlier)
    (settled : CurrentCaptures start claim.spaceId pageId)
    (reads : ∀ moment, moment ∈ trace -> readsOrIssues moment = true)
    (named : ∀ moment, moment ∈ trace -> NamedCaptures parseDomSnapshot moment.label)
    (connected : ∀ moment, moment ∈ trace -> moment.after.bridge.client.usable = true)
    (alone : ∀ moment, moment ∈ trace -> CapturesAlone claim.spaceId pageId moment)
    (asked : moment.label = .host env (.issueRef claim pageId frameId elementKey))
    (issued : issuedRef config.host moment = some element)
    (uncaptured : ∀ moment, moment ∈ later -> capturesPage claim.spaceId pageId moment = false) :
    last.bridge.AcceptsRef element := by
  subst split
  have steps : ∀ other, other ∈ later ++ moment :: earlier ->
      Deployment.next config other.label other.before = some other.after -> ReadStep claim.spaceId pageId other :=
    fun other inside taken =>
      readStep capturing taken (reads other inside) (named other inside) (connected other inside)
  obtain ⟨early, taken⟩ := run.before_moment
  -- at the issue the broker's record is what the bridge has
  have before : CurrentCaptures moment.before claim.spaceId pageId :=
    early.keeps (fun state => CurrentCaptures state claim.spaceId pageId) settled fun other inside taken settled =>
      have listed := List.mem_append_right later (List.mem_cons_of_mem moment inside)
      settled.step (steps other listed taken) (alone other listed)
  obtain ⟨envelope, registry, clean, made⟩ := issuedRef_cases asked issued
  obtain ⟨page, held, captured⟩ := before envelope (mem_captures.mpr (.inl (.inl clean)))
  have kept : ∀ other, other ∈ later ++ [moment] ->
      Deployment.next config other.label other.before = some other.after ->
      other.before.bridge.pages.get? (claim.spaceId, pageId) = some page ->
      other.after.bridge.pages.get? (claim.spaceId, pageId) = some page := by
    intro other inside taken held
    have listed : other ∈ later ++ moment :: earlier := by
      rw [List.append_cons]
      exact List.mem_append_left _ inside
    cases steps other listed taken with
    | quiet _ same => exact same.trans held
    | captured begins _ _ _ =>
      obtain inside | only := List.mem_append.mp inside
      · cases begins.symm.trans (uncaptured other inside)
      · rw [List.mem_singleton.mp only, capturesPage, asked] at begins
        cases begins
  have late : last.bridge.pages.get? (claim.spaceId, pageId) = some page :=
    run.after_moment.keeps (fun state => state.bridge.pages.get? (claim.spaceId, pageId) = some page)
      (kept moment (List.mem_append_right _ (List.mem_singleton_self _)) taken held)
      fun other inside taken held => kept other (List.mem_append_left _ inside) taken held
  exact captured.accepts late made

end Deployments

section Sample

def buttonDom : DomSnapshot where
  elements := [(buttonKey, "Send")]
  backendNodes := (∅ : Table ElementKey Int).insert buttonKey 5
  truncated := false

def buttonRendering : DomRendering := { document := fun _ => .ok ⟨7⟩, body := fun _ => "Send" }

def readingDeploy : DeployConfig where
  host := sampleConfig
  cdp := .capturing sampleCodec buttonRendering (fun _ => .ok (10, 10)) (fun _ => .ok buttonDom)

theorem buttonDom_named (turns : List WireTurn) : NamesNodes (fun _ => .ok buttonDom) turns := by
  rintro turn id reply dom _ _ parsed element listed
  obtain rfl := Except.ok.inj parsed
  obtain rfl := List.mem_singleton.mp listed
  decide

def buttonCapture (version : Nat) : SnapshotEnvelope :=
  capturedEnvelope buttonRendering ⟨1⟩ ⟨1⟩ 1 1 version buttonDom.elements ⟨7⟩ false

def startsRead (call : Nat) : List DeployLabel :=
  [.inventory call,
   .host sampleEnv (.observePages sampleInventory),
   .host sampleEnv (.readSnapshot call sampleClaim ⟨1⟩)]

def capturesButton (call version : Nat) (identity : Int) : List DeployLabel :=
  [.bridge call { turns := [answeredWith identity []], tab := { answer := .ok (), polls := 0 } } sampleArguments,
   .host sampleEnv (.captureSnapshot call (buttonCapture version))]

def issuesButton : DeployLabel := .host sampleEnv (.issueRef sampleClaim ⟨1⟩ mainFrame buttonKey)

def readTwice : List DeployLabel :=
  startsRead 7 ++ startsRead 8 ++ capturesButton 7 1 6 ++ [.host sampleEnv (.commitSnapshot 7)] ++ capturesButton 8 2 7

def readOnce : List DeployLabel := startsRead 7 ++ capturesButton 7 1 6 ++ [.host sampleEnv (.commitSnapshot 7)]

def readsConnected (moment : Moment Deployment DeployLabel) : Bool :=
  readsOrIssues moment && moment.after.bridge.client.usable

def issuesAfterwards (test : Deployment -> ElementRef -> Bool) (each : Moment Deployment DeployLabel -> Bool)
    (start ready : Deployment) (later : List (Moment Deployment DeployLabel)) : Bool :=
  (start.captures ⟨1⟩ ⟨1⟩).isEmpty && later.all each &&
    (Deployment.next readingDeploy issuesButton ready).any fun last =>
      each ⟨ready, issuesButton, last⟩ && (issuedRef sampleConfig ⟨ready, issuesButton, last⟩).any (test last)

theorem issuesAfterwards_cases {test : Deployment -> ElementRef -> Bool} {each : Moment Deployment DeployLabel -> Bool}
    {start ready : Deployment} {later : List (Moment Deployment DeployLabel)}
    (run : DeployRun readingDeploy start later.reverse ready)
    (passed : issuesAfterwards test each start ready later = true) : ∃ last element,
      DeployRun readingDeploy start (⟨ready, issuesButton, last⟩ :: later.reverse) last ∧ CurrentCaptures start ⟨1⟩ ⟨1⟩ ∧
        (∀ moment, moment ∈ ⟨ready, issuesButton, last⟩ :: later.reverse -> each moment = true) ∧
        issuedRef sampleConfig ⟨ready, issuesButton, last⟩ = some element ∧ test last element = true := by
  unfold issuesAfterwards at passed
  rw [Bool.and_eq_true, Bool.and_eq_true] at passed
  obtain ⟨⟨unread, all⟩, passed⟩ := passed
  obtain ⟨last, taken, passed⟩ := (Option.any_eq_true _ _).mp passed
  obtain ⟨final, passed⟩ := Bool.and_eq_true_iff.mp passed
  obtain ⟨element, issued, passed⟩ := (Option.any_eq_true _ _).mp passed
  refine ⟨last, element, .step run taken, fun envelope inside => ?_, fun moment inside => ?_, issued, passed⟩
  · rw [List.isEmpty_iff.mp unread] at inside
    cases inside
  · obtain rfl | inside := List.mem_cons.mp inside
    · exact final
    · exact List.all_eq_true.mp all moment (List.mem_reverse.mp inside)

def capturesReadAlone (moment : Moment Deployment DeployLabel) : Bool :=
  readsConnected moment && (!capturesPage ⟨1⟩ ⟨1⟩ moment || (moment.before.captures ⟨1⟩ ⟨1⟩).isEmpty)

theorem named_button (label : DeployLabel) : NamedCaptures (fun _ => .ok buttonDom) label := by
  unfold NamedCaptures
  split
  · exact buttonDom_named _
  · trivial

theorem issued_refs_dispatchable_sample : ∃ start later moment element,
    DeployRun readingDeploy start (moment :: later) moment.after ∧ issuedRef sampleConfig moment = some element ∧
      moment.after.bridge.AcceptsRef element := by
  obtain ⟨start, ready, later, _, run, passed⟩ := advance_reaches_later (Deployment.next readingDeploy)
    (.fresh readingDeploy) managedOnce readOnce (issuesAfterwards (fun _ _ => true) capturesReadAlone) (by decide)
  obtain ⟨last, element, run, settled, each, issued, _⟩ := issuesAfterwards_cases run passed
  have checked : ∀ moment, moment ∈ ⟨ready, issuesButton, last⟩ :: later.reverse ->
      (readsOrIssues moment = true ∧ moment.after.bridge.client.usable = true) ∧ CapturesAlone ⟨1⟩ ⟨1⟩ moment := by
    intro moment inside
    obtain ⟨reads, alone⟩ := Bool.and_eq_true_iff.mp (each moment inside)
    refine ⟨Bool.and_eq_true_iff.mp reads, fun captures => ?_⟩
    rw [captures, Bool.not_true, Bool.false_or] at alone
    exact List.isEmpty_iff.mp alone
  have split : ⟨ready, issuesButton, last⟩ :: later.reverse = [] ++ ⟨ready, issuesButton, last⟩ :: later.reverse := rfl
  refine ⟨start, later.reverse, ⟨ready, issuesButton, last⟩, element, run, issued, ?_⟩
  exact issued_refs_dispatchable rfl run split settled (fun moment inside => (checked moment inside).1.1)
    (fun moment _ => named_button moment.label) (fun moment inside => (checked moment inside).1.2)
    (fun moment inside => (checked moment inside).2) rfl issued (fun moment inside => by cases inside)

def presenting (element : ElementRef) : ActionabilityInput :=
  { elementRef := element, provenance := buttonProvenance, frameId := element.frameId, evidence := {} }

def capturedSince (last : Deployment) (element : ElementRef) : Bool :=
  element.spaceId == ⟨1⟩ && element.pageId == ⟨1⟩ &&
    (last.bridge.pages.get? (⟨1⟩, ⟨1⟩)).any fun page => element.snapshotVersion != page.snapshotVersion

theorem capturedSince_refused {last : Deployment} {element : ElementRef} (since : capturedSince last element = true) :
    ¬ last.bridge.AcceptsRef element := by
  intro accepts
  unfold capturedSince at since
  rw [Bool.and_eq_true, Bool.and_eq_true, beq_iff_eq, beq_iff_eq] at since
  obtain ⟨⟨inSpace, ofPage⟩, newer⟩ := since
  obtain ⟨page, held, newer⟩ := (Option.any_eq_true _ _).mp newer
  have home : firstRequest.spaceId = element.spaceId := inSpace.symm
  obtain ⟨other, found, accepted, _⟩ := accepts firstRequest element.pageId (presenting element) home rfl rfl rfl
  rw [home, inSpace, ofPage] at found
  obtain rfl := Option.some.inj (held.symm.trans found)
  simp only [refMatchesPage, Bool.and_eq_true, beq_iff_eq] at accepted
  rw [bne_iff_ne] at newer
  exact newer accepted.1.1.1.2

/-- The ref that comes of the broker's clean record is one that the bridge refuses. -/
theorem second_capture_strands_refs : ∃ first start later moment element,
    DeployRun readingDeploy (.fresh readingDeploy) first start ∧
      DeployRun readingDeploy start (moment :: later) moment.after ∧ CurrentCaptures start ⟨1⟩ ⟨1⟩ ∧
      (∀ other, other ∈ moment :: later -> readsOrIssues other = true ∧
        NamedCaptures (fun _ => .ok buttonDom) other.label ∧ other.after.bridge.client.usable = true) ∧
      issuedRef sampleConfig moment = some element ∧ ¬ moment.after.bridge.AcceptsRef element := by
  obtain ⟨start, ready, later, first, run, passed⟩ := advance_reaches_later (Deployment.next readingDeploy)
    (.fresh readingDeploy) managedOnce readTwice (issuesAfterwards capturedSince readsConnected) (by decide)
  obtain ⟨last, element, run, settled, each, issued, since⟩ := issuesAfterwards_cases run passed
  refine ⟨_, start, later.reverse, ⟨ready, issuesButton, last⟩, element, first, run, settled, fun other inside => ?_,
    issued, capturedSince_refused since⟩
  obtain ⟨reads, connected⟩ := Bool.and_eq_true_iff.mp (each other inside)
  exact ⟨reads, named_button other.label, connected⟩

end Sample

end AgentycHost
