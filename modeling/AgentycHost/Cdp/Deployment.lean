import AgentycHost.Cdp.Fences

set_option autoImplicit false

/-!
# The broker over the bridge to Chrome

The broker gives up its lock around a bridge call, so the call reaches the
bridge, is answered and has its answer committed in three separate steps. An
answer waits for the call that asked for it; an inventory waits for the read
that took it.
-/

namespace AgentycHost

open Shared

def HostError.code : HostError -> ErrorCode
  | .core error | .bridge error => error.code
  | .action _ | .invariant _ => .invalidArgument
  | .ledger (.boundExceeded _) => .messageTooLarge
  | .ledger _ => .ledgerIncompatible

structure ExtensionLink where
  epochs : ExtensionEpochs
  profileInstanceId : Option String
  deriving DecidableEq

def needsRebinding (page : PageDescriptor) : Bool :=
  (page.binding == .bound || page.binding == .userOwned) && !(page.lifecycle == .closed || page.lifecycle == .closing)

def rebindPagesAfterFence (spaceId : SpaceId) (authority : AuthorityTicket) (extension : Option ExtensionLink)
    (state : LedgerState) : Except HostError Unit := do
  authorizeTicket state authority
  let space <- findSpace state spaceId
  match extension with
  | none => .ok ()
  | some link =>
      if space.pages.any needsRebinding then do
        let profile <- orElse link.profileInstanceId
          (.new .profileNotFound "extension profile identity is unavailable for retained page rebind")
        require (!authority.profileBindingId.any fun bound => bound.text != profile)
          (.new .profileNotFound "authority profile binding does not match the extension page profile")
        .error (.core rebindRefusal)
      else .ok ()

def rebindAnswer (fence : FenceCall) (extension : Option ExtensionLink) (state : LedgerState) : FenceAnswer :=
  match rebindPagesAfterFence fence.request.spaceId fence.authority extension state with
  | .ok () => { acknowledged := true, error := none }
  | .error error => { acknowledged := false, error := some error.code.asStr }

inductive Answer where
  -- a takeover fence is acknowledged, and the pages come next
  | fenced
  | fence (answer : FenceAnswer)
  -- the page is created, and an inventory comes next
  | created (target : BoundTarget)
  | bound (target : BoundTarget)
  | closed (closed : Bool)
  -- a cleanup close failed, and an inventory comes next
  | unclosed (error : CoreError)
  | cleanup (answer : CloseAnswer)
  -- the action succeeded, and a snapshot comes next to prove it
  | acted
  | dispatched (outcome : BridgeDispatchResult) (proof : Option (Generation × ContentHash))
  | captured (envelope : SnapshotEnvelope)
  | failed
  deriving DecidableEq

structure Pending where
  asked : Call
  answer : Answer
  deriving DecidableEq

structure CreationArguments where
  url : Option String
  title : Option String
  epochs : Option ExtensionEpochs

def needsProof (request : ActionRequest) (outcome : BridgeDispatchResult) : Bool :=
  outcome == .succeeded && request.postcondition.isSome && request.pageId.isSome && request.operation != .wait

def Call.nextBridgeCall (arguments : CreationArguments) : Call -> Option Answer -> Option BridgeCall
  | .fence fencing, none => some (.fence fencing.request.spaceId fencing.request.oldEpoch fencing.request.fenceEpoch)
  | .managedPage claim pageId, none =>
      some (.createPage
        { spaceId := claim.spaceId, pageId, leaseEpoch := claim.leaseEpoch, url := arguments.url,
          title := arguments.title,
          ownershipProof := creationProof claim.spaceId pageId claim.leaseEpoch claim.authority.profileBindingId
            arguments.epochs })
  | .managedPage _ _, some (.created _) => some .observe
  | .closePage claim pageId _, none => some (.closePage claim.spaceId pageId claim.leaseEpoch)
  | .finish claim (.closing proof _ _), none => some (.closePage claim.spaceId proof.pageId claim.leaseEpoch)
  | .finish _ (.closing _ _ _), some (.unclosed _) => some .observe
  | .dispatch sending .sent, none => some (.dispatch sending.request)
  | .dispatch sending .sent, some .acted =>
      sending.request.pageId.map fun pageId => .snapshot sending.request.spaceId pageId sending.request.leaseEpoch
  | .capture claim pageId _, none => some (.snapshot claim.spaceId pageId claim.leaseEpoch)
  | _, _ => none

def findObserved (spaceId : SpaceId) (pageId : PageId) (pages : List ObservedPage) : Option ObservedPage :=
  pages.find? fun page => page.spaceId == spaceId && page.pageId == pageId

-- an inventory record has no frame count
def ObservedPage.target (page : ObservedPage) : BoundTarget where
  url := page.url
  title := page.title
  frameCount := 0
  targetGeneration := some page.targetGeneration
  navigationGeneration := some page.navigationGeneration
  documentGeneration := some page.documentGeneration

def Call.note : Call -> Option Answer -> BridgeReply -> Option Answer
  | .fence fencing, none, .fenced acknowledged =>
      some (if acknowledged && fencing.purpose == .takeover then .fenced
        else .fence { acknowledged, error := none })
  | .managedPage _ _, none, .created (.ok record) => some (.created record)
  | .managedPage _ _, none, .created (.error _) => some .failed
  | .managedPage claim pageId, some (.created record), .observed pages =>
      some (.bound (((findObserved claim.spaceId pageId pages).map (·.target)).getD record))
  | .closePage _ _ _, none, .closed result => some (.closed result.toBool)
  | .finish _ (.closing _ _ _), none, .closed (.ok ()) => some (.cleanup .closed)
  | .finish _ (.closing _ _ _), none, .closed (.error error) =>
      some (if isUncertain error.code then .cleanup (.failed error.code.asStr) else .unclosed error)
  | .finish claim (.closing proof _ _), some (.unclosed error), .observed pages =>
      some (.cleanup (if (findObserved claim.spaceId proof.pageId pages).isSome then .failed error.code.asStr else .gone))
  | .dispatch sending .sent, none, .dispatched outcome =>
      some (if needsProof sending.request outcome then .acted else .dispatched outcome none)
  | .dispatch _ .sent, some .acted, .captured result =>
      some (.dispatched .succeeded (result.toOption.map fun envelope =>
        (envelope.documentGeneration, envelope.snapshotHash)))
  | .capture _ _ _, none, .captured (.ok envelope) => some (.captured envelope)
  | .capture _ _ _, none, .captured (.error _) => some .failed
  | _, _, _ => none

structure DeployConfig where
  host : HostConfig
  cdp : CdpConfig

structure Deployment where
  host : System
  bridge : CdpBridgeState
  answers : Table Nat Pending
  inventories : Table Nat (List ObservedPage)

inductive DeployLabel where
  | host (env : Environment) (command : Command)
  | bridge (call : Nat) (outside : CdpOutside) (arguments : CreationArguments)
  | rebind (call : Nat) (extension : Option ExtensionLink)
  | inventory (reader : Nat)

namespace Deployment

def answered (deployment : Deployment) (call : Nat) : Option Answer :=
  match deployment.answers.get? call with
  | some pending => if deployment.host.calls.get? call = some pending.asked then some pending.answer else none
  | none => none

def presentPages (spaceId : SpaceId) (pages : List ObservedPage) : List PageId :=
  (pages.filter fun page => page.spaceId == spaceId).map (·.pageId)

def admits (deployment : Deployment) (env : Environment) (command : Command) : Bool :=
  env.capabilities == cdpCapabilities &&
    match command with
    | .fenceAnswered call answer => deployment.answered call == some (.fence answer)
    | .bindManagedPage call target => deployment.answered call == some (.bound target)
    | .closeAnswered call closed => deployment.answered call == some (.closed closed)
    | .cleanupAnswered call answer => deployment.answered call == some (.cleanup answer)
    | .dispatchAnswered call (.ok outcome) proof => deployment.answered call == some (.dispatched outcome proof)
    | .dispatchAnswered _ (.error _) _ => false
    | .captureSnapshot call envelope => deployment.answered call == some (.captured envelope)
    | .abandon call => deployment.answered call == some .failed
    | .reconcileAnswered _ answer => answer == some .stillUnknown
    | .finishSpace call claim present =>
        (deployment.inventories.get? call).any fun pages => present == presentPages claim.spaceId pages
    | .observePages observation => deployment.inventories.any fun _ pages => pages == observation
    | _ => true

def answeredCall : Command -> Option Nat
  | .fenceAnswered call _ | .bindManagedPage call _ | .closeAnswered call _ | .cleanupAnswered call _
  | .dispatchAnswered call _ _ | .captureSnapshot call _ | .abandon call => some call
  | _ => none

def moved (deployment : Deployment) (command : Command) (host : System) : Deployment :=
  match command with
  | .restart _ => { host, bridge := .connected, answers := ∅, inventories := ∅ }
  | command =>
      { deployment with
        host, answers := ((answeredCall command).map deployment.answers.erase).getD deployment.answers }

def served (config : DeployConfig) (deployment : Deployment) (call : Nat) (outside : CdpOutside)
    (arguments : CreationArguments) : Option (Call × Served) := do
  let asked <- deployment.host.calls.get? call
  let request <- asked.nextBridgeCall arguments (deployment.answered call)
  pure (asked, serve config.cdp outside request deployment.bridge)

def next (config : DeployConfig) (label : DeployLabel) (deployment : Deployment) : Option Deployment :=
  match label with
  | .host env command =>
      if deployment.admits env command then
        (AgentycHost.next config.host (env, command) deployment.host).map (deployment.moved command)
      else none
  | .bridge call outside arguments => do
      let (asked, served) <- deployment.served config call outside arguments
      let answer <- asked.note (deployment.answered call) served.reply
      pure { deployment with
        bridge := served.bridge, answers := deployment.answers.insert call { asked, answer } }
  | .rebind call extension =>
      match deployment.host.calls.get? call, deployment.answered call with
      | some (.fence fence), some .fenced =>
          let answer := rebindAnswer fence extension deployment.host.ledger.state
          some { deployment with
            answers := deployment.answers.insert call { asked := .fence fence, answer := .fence answer } }
      | _, _ => none
  | .inventory reader =>
      some { deployment with inventories := deployment.inventories.insert reader (observe deployment.bridge.pages) }

def fresh (config : DeployConfig) : Deployment where
  host := .fresh config.host
  bridge := .connected
  answers := ∅
  inventories := ∅

end Deployment

abbrev DeployRun (config : DeployConfig) :
    Deployment -> List (Moment Deployment DeployLabel) -> Deployment -> Prop :=
  Run fun label before after => Deployment.next config label before = some after

def DeployInitial (config : DeployConfig) (start : Deployment) : Prop :=
  start = .fresh config ∧ Initial config.host start.host

inductive DeployStep (config : DeployConfig) (before after : Deployment) : DeployLabel -> Prop where
  | host {env : Environment} {command : Command} {host : System} (admitted : before.admits env command = true)
      (taken : AgentycHost.next config.host (env, command) before.host = some host)
      (moved : after = before.moved command host) : DeployStep config before after (.host env command)
  | bridge {call : Nat} {outside : CdpOutside} {arguments : CreationArguments} {asked : Call} {request : BridgeCall}
      {answer : Answer} (call_at : before.host.calls.get? call = some asked)
      (asks : asked.nextBridgeCall arguments (before.answered call) = some request)
      (noted : asked.note (before.answered call) (serve config.cdp outside request before.bridge).reply = some answer)
      (moved : after = { before with
        bridge := (serve config.cdp outside request before.bridge).bridge
        answers := before.answers.insert call { asked, answer } }) :
      DeployStep config before after (.bridge call outside arguments)
  | rebind {call : Nat} {extension : Option ExtensionLink} {fence : FenceCall}
      (call_at : before.host.calls.get? call = some (.fence fence)) (fenced : before.answered call = some .fenced)
      (moved : after = { before with
        answers := before.answers.insert call
          { asked := .fence fence, answer := .fence (rebindAnswer fence extension before.host.ledger.state) } }) :
      DeployStep config before after (.rebind call extension)
  | inventory {reader : Nat}
      (moved : after = { before with
        inventories := before.inventories.insert reader (observe before.bridge.pages) }) :
      DeployStep config before after (.inventory reader)

section Steps

variable {config : DeployConfig} {label : DeployLabel} {before after start last : Deployment}
  {trace : List (Moment Deployment DeployLabel)}

theorem deploy_cases (taken : Deployment.next config label before = some after) :
    DeployStep config before after label := by
  cases label with
  | host env command =>
    simp only [Deployment.next] at taken
    split_ifs at taken with admitted
    obtain ⟨host, stepped, rfl⟩ := Option.map_eq_some_iff.mp taken
    exact .host admitted stepped rfl
  | bridge call outside arguments =>
    simp only [Deployment.next, Deployment.served, Option.bind_eq_bind, Option.pure_def, Option.bind_eq_some_iff,
      Option.some.injEq, Prod.exists, Prod.mk.injEq] at taken
    obtain ⟨asked, _, ⟨_, call_at, request, asks, rfl, rfl⟩, answer, noted, rfl⟩ := taken
    exact .bridge call_at asks noted rfl
  | rebind call extension =>
    simp only [Deployment.next] at taken
    split at taken
    next call_at fenced =>
      cases taken
      exact .rebind call_at fenced rfl
    · cases taken
  | inventory reader =>
    cases taken
    exact .inventory rfl

theorem fence_asked {arguments : CreationArguments} {asked : Call} {prior : Option Answer} {spaceId : SpaceId}
    {old : Option LeaseEpoch} {new : LeaseEpoch}
    (asks : asked.nextBridgeCall arguments prior = some (.fence spaceId old new)) :
    ∃ fence, asked = .fence fence ∧ prior = none ∧ fence.request.spaceId = spaceId ∧
      fence.request.oldEpoch = old ∧ fence.request.fenceEpoch = new := by
  unfold Call.nextBridgeCall at asks
  split at asks
  case h_1 fence =>
    cases asks
    exact ⟨fence, rfl, rfl, rfl, rfl, rfl⟩
  case h_8 =>
    obtain ⟨_, _, other⟩ := Option.map_eq_some_iff.mp asks
    cases other
  all_goals cases asks

theorem Deployment.answered_cases {call : Nat} {answer : Answer} (waiting : before.answered call = some answer) :
    ∃ asked, before.answers.get? call = some { asked, answer } ∧ before.host.calls.get? call = some asked := by
  unfold Deployment.answered at waiting
  split at waiting
  next pending found =>
    split_ifs at waiting with same
    cases waiting
    exact ⟨pending.asked, found, same⟩
  · cases waiting

@[simp]
theorem Deployment.moved_host (deployment : Deployment) (command : Command) (host : System) :
    (deployment.moved command host).host = host := by
  unfold Deployment.moved
  split <;> rfl

theorem Deployment.moved_running {command : Command} (deployment : Deployment) (host : System)
    (running : ∀ failures, command ≠ .restart failures) :
    (deployment.moved command host).bridge = deployment.bridge ∧ ∀ call pending,
      (deployment.moved command host).answers.get? call = some pending -> deployment.answers.get? call = some pending := by
  unfold Deployment.moved
  split
  next failures => exact absurd rfl (running failures)
  next =>
    refine ⟨rfl, fun call pending found => ?_⟩
    dsimp only at found
    cases ended : Deployment.answeredCall command with
    | none =>
      rw [ended] at found
      exact found
    | some other =>
      rw [ended, Option.map_some, Option.getD_some, Table.get?_erase] at found
      split_ifs at found
      exact found

def hostMoment (moment : Moment Deployment DeployLabel) : Option (Moment System Label) :=
  match moment.label with
  | .host env command => some ⟨moment.before.host, (env, command), moment.after.host⟩
  | _ => none

theorem DeployRun.hostRun (run : DeployRun config start trace last) :
    HostRun config.host start.host (trace.filterMap hostMoment) last.host := by
  induction run with
  | nil => exact .nil
  | @step trace before after label earlier taken ih =>
    cases deploy_cases taken with
    | @host _ _ host _ stepped moved =>
      have reached : after.host = host := by rw [moved, Deployment.moved_host]
      simp only [List.filterMap_cons, hostMoment, reached]
      exact .step ih stepped
    | bridge _ _ _ moved | rebind _ _ moved | inventory moved =>
      rw [moved]
      exact ih

theorem DeployRun.sound (run : DeployRun config start trace last) (initial : DeployInitial config start) :
    Sound config.host.ledger last.host.ledger :=
  HostRun.sound (DeployRun.hostRun run) initial.2

end Steps

section Sample

def sampleDeploy : DeployConfig := { host := sampleConfig, cdp := sampleCdp }

theorem sample_deployed : DeployInitial sampleDeploy (.fresh sampleDeploy) := ⟨rfl, sample_initial⟩

def tabOpened : CdpOutside where
  turns :=
    [answeredWith 1 [("targetInfos", .array [.object [("type", .string "page"), ("targetId", .string "tab"),
       ("url", .string (bootstrapUrl ⟨1⟩ 1))]])],
     answeredWith 2 [("sessionId", .string "session")],
     answeredWith 3 [],
     answeredWith 4 [],
     answeredWith 5 []]
  tab := { answer := .ok (), polls := 0 }

def sampleArguments : CreationArguments := { url := some "https://example.com/", title := none, epochs := none }

def managedTarget : BoundTarget where
  url := some "https://example.com/"
  title := none
  frameCount := 0
  targetGeneration := some 1
  navigationGeneration := some 1
  documentGeneration := some 1

def managedOnce : List DeployLabel :=
  sampleStart.map (fun label => .host label.1 label.2) ++
  [.host sampleEnv (.createManagedPage 6 sampleClaim "page"),
   .bridge 6 tabOpened sampleArguments,
   .bridge 6 deadLine sampleArguments,
   .host sampleEnv (.bindManagedPage 6 managedTarget)]

def sampleInventory : List ObservedPage :=
  [{ spaceId := ⟨1⟩, pageId := ⟨1⟩, targetGeneration := 1, navigationGeneration := 1, documentGeneration := 1,
     url := some "https://example.com/", title := none }]

end Sample

end AgentycHost
