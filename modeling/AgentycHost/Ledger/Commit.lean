import AgentycHost.Ledger.Validate

set_option autoImplicit false

/-!
# Commits, persistence and restart

A commit runs a transition on the state in memory, validates the result and
replaces the ledger file. Any failure restores the state from before.
-/

namespace AgentycHost

variable {A : Type}

open Shared

inductive PersistOutcome where
  | written
  -- ownership of the lock was lost before the transition ran
  | lockLost
  -- an error before the rename: the file is the old one
  | refused
  -- an error after the rename, from the sync of the directory: the file is the new one
  | renamed
  deriving DecidableEq

structure Ledger where
  state : LedgerState
  disk : LedgerState

structure LedgerConfig where
  codec : Codec
  limits : LedgerLimits

abbrev Transition (A : Type) := LedgerState -> Except HostError (A × LedgerState)

def drainEvents (limits : LedgerLimits) (state : LedgerState) : LedgerState :=
  { state with events := state.events.drop (state.events.length - limits.maxEvents) }

def Ledger.update {A : Type} (config : LedgerConfig) (io : PersistOutcome) (ledger : Ledger)
    (transition : Transition A) : Ledger × Except HostError A :=
  if io = .lockLost then (ledger, .error (.ledger .io))
  else match transition ledger.state with
  | .error error => (ledger, .error error)
  | .ok (value, next) =>
      let candidate := drainEvents config.limits next
      match validateState config.codec config.limits candidate with
      | .error error => (ledger, .error (.ledger error))
      | .ok () =>
          if config.limits.maxLedgerBytes < config.codec.prettyBytes candidate then
            (ledger, .error (.ledger (.boundExceeded "serialized ledger bytes")))
          else match io with
          | .written => ({ state := candidate, disk := candidate }, .ok value)
          | .renamed => ({ ledger with disk := candidate }, .error (.ledger .io))
          | .refused | .lockLost => (ledger, .error (.ledger .io))

def Committable {A : Type} (config : LedgerConfig) (transition : Transition A) (before after : LedgerState) : Prop :=
  ∃ value next, transition before = .ok (value, next) ∧ after = drainEvents config.limits next ∧
    validateState config.codec config.limits after = .ok ()

theorem Ledger.update_cases (config : LedgerConfig) (io : PersistOutcome) (ledger : Ledger)
    (transition : Transition A) :
    ((∃ error, ledger.update config io transition = (ledger, .error error))) ∨
    (∃ value next after, transition ledger.state = .ok (value, next) ∧
      after = drainEvents config.limits next ∧ validateState config.codec config.limits after = .ok () ∧
      (ledger.update config io transition = ({ state := after, disk := after }, .ok value) ∨
        ∃ error, ledger.update config io transition = ({ ledger with disk := after }, .error error))) := by
  unfold Ledger.update
  split_ifs with lost
  · exact .inl ⟨_, rfl⟩
  cases moved : transition ledger.state with
  | error error => exact .inl ⟨error, rfl⟩
  | ok result =>
    obtain ⟨value, next⟩ := result
    dsimp only
    cases checked : validateState config.codec config.limits (drainEvents config.limits next) with
    | error error => exact .inl ⟨_, rfl⟩
    | ok =>
      dsimp only
      split_ifs with large
      · exact .inl ⟨_, rfl⟩
      cases io with
      | lockLost => exact absurd rfl lost
      | refused => exact .inl ⟨_, rfl⟩
      | written => exact .inr ⟨value, next, _, rfl, rfl, checked, .inl rfl⟩
      | renamed => exact .inr ⟨value, next, _, rfl, rfl, checked, .inr ⟨_, rfl⟩⟩

theorem Ledger.update_fits {config : LedgerConfig} {io : PersistOutcome} {transition : Transition A} {value : A}
    (ledger : Ledger) {committed : Ledger} (done : ledger.update config io transition = (committed, .ok value)) :
    config.codec.prettyBytes committed.state ≤ config.limits.maxLedgerBytes := by
  unfold Ledger.update at done
  split_ifs at done with lost
  · cases done
  split at done
  · cases done
  · dsimp only at done
    split at done
    · cases done
    · split_ifs at done with large
      · cases done
      cases io with
      | written =>
        cases done
        exact Nat.le_of_not_lt large
      | renamed | refused | lockLost => cases done

section Events

variable {after before state next : LedgerState} {resyncRequired : Bool} {event : EventKind} {scope : EventScope}
  {dirtyReason : Option DirtyReason} {payload : Payload}

def generationWatermark (state : LedgerState) (scope : EventScope) (metadata : EventMetadata) :
    GenerationWatermark :=
  let page := scope.spaceId.bind fun spaceId => scope.pageId.bind fun pageId => state.page spaceId pageId
  { spaceGeneration := (scope.spaceId.bind state.spaceGenerations.get?).getD 0
    pageGeneration := (page.map (·.targetGeneration)).getD 0
    navigationGeneration := (page.map (·.navigationGeneration)).getD 0
    documentGeneration := (page.map (·.documentGeneration)).getD 0
    snapshotVersion := (scope.spaceId.bind fun spaceId => scope.pageId.bind fun pageId =>
      state.snapshot spaceId pageId).map (·.envelope.snapshotVersion)
    metadata := some metadata }

def brokerEventAttribution (state : LedgerState) (scope : EventScope) : EventAttribution :=
  { EventAttribution.broker with
    profileBindingId := scope.spaceId.bind state.profileBindings.get?
    browserSessionEpoch := state.extensionBrowserSessionEpoch
    workerInstanceEpoch := state.extensionWorkerInstanceEpoch }

def nextSpaceGeneration (state : LedgerState) (scope : EventScope) :
    Except HostError (Table SpaceId Generation) :=
  match scope.spaceId with
  | none => .ok state.spaceGenerations
  | some spaceId => do
      let generation <- orElse (checkedNext ((state.spaceGenerations.get? spaceId).getD 0))
        (.invalidArgument "space generation overflow")
      pure (state.spaceGenerations.insert spaceId generation)

def eventRecord (state : LedgerState) (scope : EventScope) (event : EventKind) (payload : Payload)
    (dirtyReason : Option DirtyReason) (resyncRequired : Bool) (attribution : EventAttribution) : EventRecord where
  protocol := protocolVersion
  eventId := { brokerEpoch := state.brokerEpoch, sequence := state.eventSequence }
  brokerEpoch := state.brokerEpoch
  sequence := state.eventSequence
  scope := scope
  event := event
  generation := generationWatermark state scope (.forEvent event attribution)
  dirtyReason := dirtyReason
  coalesced := false
  resyncRequired := resyncRequired
  payload := payload

def appendEventWithAttribution (state : LedgerState) (scope : EventScope) (event : EventKind)
    (payload : Payload) (dirtyReason : Option DirtyReason) (resyncRequired : Bool)
    (attribution : EventAttribution) : Except HostError LedgerState := do
  (validatePublicPayloadShape payload 512).mapError .ledger
  let sequence <- orElse (checkedNext state.eventSequence) (.invalidArgument "event sequence overflow")
  let generations <- nextSpaceGeneration state scope
  let state := { state with eventSequence := sequence, spaceGenerations := generations }
  let record := eventRecord state scope event payload dirtyReason resyncRequired attribution
  record.validateAdmission.mapError .core
  pure { state with events := state.events ++ [record] }

def appendEvent (state : LedgerState) (scope : EventScope) (event : EventKind) (payload : Payload)
    (dirtyReason : Option DirtyReason) (resyncRequired : Bool) : Except HostError LedgerState :=
  appendEventWithAttribution state scope event payload dirtyReason resyncRequired
    (brokerEventAttribution state scope)

def SameButEvents (before after : LedgerState) : Prop :=
  ∃ sequence generations events,
    after = { before with eventSequence := sequence, spaceGenerations := generations, events := events }

theorem SameButEvents.refl (state : LedgerState) : SameButEvents state state := ⟨_, _, _, rfl⟩

theorem SameButEvents.trans {first second third : LedgerState} (left : SameButEvents first second)
    (right : SameButEvents second third) : SameButEvents first third := by
  obtain ⟨_, _, _, rfl⟩ := left
  obtain ⟨sequence, generations, events, rfl⟩ := right
  exact ⟨sequence, generations, events, rfl⟩

theorem SameButEvents.spaces (same : SameButEvents before after) :
    after.spaces = before.spaces := by
  obtain ⟨_, _, _, rfl⟩ := same
  rfl

theorem SameButEvents.queue (same : SameButEvents before after) (spaceId : SpaceId) :
    after.queue spaceId = before.queue spaceId := by
  obtain ⟨_, _, _, rfl⟩ := same
  rfl

theorem drainEvents_same (limits : LedgerLimits) (state : LedgerState) :
    SameButEvents state (drainEvents limits state) := ⟨_, _, _, rfl⟩

theorem appendEventWithAttribution_same
    {attribution : EventAttribution}
    (appended : appendEventWithAttribution state scope event payload dirtyReason resyncRequired attribution
      = .ok next) :
    SameButEvents state next := by
  simp only [appendEventWithAttribution, bind_ok, pure_ok] at appended
  obtain ⟨_, _, sequence, _, generations, _, _, _, rfl⟩ := appended
  exact ⟨_, _, _, rfl⟩

theorem appendEvent_same (appended : appendEvent state scope event payload dirtyReason resyncRequired = .ok next) :
    SameButEvents state next :=
  appendEventWithAttribution_same appended

end Events

end AgentycHost

/-!
# Opening a ledger file again

A restart reads the file, advances the broker epoch and recovers: leases are
fenced, live spaces are orphaned, their queues are cancelled and running
actions become unknown.
-/

namespace AgentycHost

open Shared

def LedgerState.persisted (state : LedgerState) : LedgerState :=
  { state with
    activeConnections := ∅
    usedConnectionNonces := []
    connectionPrincipalId := none
    connectionNonce := none
    connectionProfileBindingId := none
    leaseHolders := ∅
    snapshots := ∅ }

def isLostByRestart : SpaceLifecycle -> Bool
  | .agentOwned | .handoffRequested | .draining | .recovering | .fencePending | .fenceAcknowledged
  | .fenceDispatched => true
  | _ => false

def recoverLease (lease : Lease) : Lease :=
  if lease.state = .active ∨ lease.state = .renewing then { lease with state := .fenced } else lease

def recoverPage (page : PageDescriptor) : PageDescriptor :=
  { page with
    targetGeneration := page.targetGeneration + 1
    navigationGeneration := page.navigationGeneration + 1
    documentGeneration := page.documentGeneration + 1 }

def checkRecoverPage (page : PageDescriptor) : Except LedgerError Unit := do
  let _ <- orElse (checkedNext page.targetGeneration) (.incompatible "target generation overflow")
  let _ <- orElse (checkedNext page.navigationGeneration) (.incompatible "navigation generation overflow")
  let _ <- orElse (checkedNext page.documentGeneration) (.incompatible "document generation overflow")
  pure ()

def recoverSpace (space : SpaceDescriptor) : SpaceDescriptor :=
  let space := { space with lease := space.lease.map recoverLease }
  if isLostByRestart space.lifecycle then
    { space with lifecycle := .orphaned, pages := space.pages.map recoverPage }
  else space

def isLostSpace (state : LedgerState) (spaceId : SpaceId) : Bool :=
  (state.spaces.get? spaceId).any fun space => isLostByRestart space.lifecycle

def lostQueuedIds (state : LedgerState) : List ActionId :=
  (state.actionQueues.filter fun spaceId _ => isLostSpace state spaceId).entries.flatMap Prod.snd

def recoveryNumber (state : LedgerState) (actionId : ActionId) : Nat :=
  (state.actions.filter fun other receipt =>
    receipt.status == .running && decide (bytes other.text < bytes actionId.text)).size

def recoverReceipt (lostQueued : Bool) (number : Nat) (receipt : ActionReceipt) : ActionReceipt :=
  match receipt.status with
  | .queued =>
      if lostQueued then
        { receipt with
          status := .cancelled, dispatchState := .rejected, errorCode := some .cancelled,
          completionSource := .ledger, nextAction := .none, completedAt := none }
      else receipt
  | .running =>
      let receipt := { receipt with
        status := .unknown, unknown := true, unknownReason := some .hostRestarted,
        reconciliationState := .required, reconcileToken := some (.restart number),
        errorCode := some .unknownOutcome, retryable := false, nextAction := .reconcile }
      if receipt.inFlight then receipt else { receipt with completionSource := .timeout }
  | _ => receipt

def recoverState (state : LedgerState) : LedgerState :=
  { state with
    pendingFences := ∅
    takeoverProofs := ∅
    controlTickets := state.controlTickets.mapValues fun _ ticket => { ticket with brokerEpoch := state.brokerEpoch }
    spaces := state.spaces.mapValues fun _ space => recoverSpace space
    snapshots := state.snapshots.filter fun spaceId _ => !isLostSpace state spaceId
    actionQueues := state.actionQueues.filter fun spaceId _ => !isLostSpace state spaceId
    actions := state.actions.mapValues fun actionId receipt =>
      recoverReceipt ((lostQueuedIds state).contains actionId) (recoveryNumber state actionId) receipt }

def recoverAfterRestart (state : LedgerState) : Except LedgerError LedgerState := do
  forEach (fun space =>
      if isLostByRestart space.lifecycle then forEach checkRecoverPage space.pages else .ok ()) state.spaces.values
  pure (recoverState state)

def openLedger (config : LedgerConfig) (disk : LedgerState) : Except LedgerError LedgerState := do
  let state := disk.persisted
  validateState config.codec config.limits state
  let brokerEpoch <- orElse (checkedNext state.brokerEpoch) (.incompatible "broker epoch overflow")
  let state <- recoverAfterRestart { state with brokerEpoch, connectionEpoch := 0, eventSequence := 0, events := [] }
  validateState config.codec config.limits state
  require (config.codec.prettyBytes state ≤ config.limits.maxLedgerBytes) (.boundExceeded "serialized ledger bytes")
  pure state

/-- Openings that recovered and reached the file but failed after it, and the one that succeeded. -/
def reopenLedger (config : LedgerConfig) (disk : LedgerState) : Nat -> Except LedgerError LedgerState
  | 0 => openLedger config disk
  | failures + 1 => do
      let disk <- openLedger config disk
      reopenLedger config disk failures

end AgentycHost

/-!
# The steps of one persisted update

An update runs a closure over the state in memory and replaces the ledger file
by a temporary one. Every call into the operating system may fail.
-/

namespace AgentycHost

open Shared

structure FileFormat (File : Type) where
  encode : LedgerState -> Except LedgerError File
  size : File -> Nat

structure FileSystem where
  owner : Except LedgerError Unit
  ownerAgain : Except LedgerError Unit
  symlink : Except LedgerError Bool
  present : Except LedgerError Bool
  privateFile : Except LedgerError Unit
  create : Except LedgerError Unit
  setPrivate : Except LedgerError Unit
  writeAll : Except LedgerError Unit
  syncFile : Except LedgerError Unit
  symlinkAgain : Except LedgerError Bool
  rename : Except LedgerError Unit
  openDirectory : Except LedgerError Unit
  syncDirectory : Except LedgerError Unit
  removeTemporary : Except LedgerError Unit

/-- The ledger file, and the temporary files that were left behind; `none` is one that is not written yet. -/
structure StateDirectory (File : Type) where
  ledger : Option File
  temporaries : List (Option File)

structure FiledLedger (File : Type) where
  state : LedgerState
  directory : StateDirectory File

/-- A transition as the host runs it: it also moves the state when it fails. -/
abbrev Closure (A : Type) := LedgerState -> LedgerState × Except HostError A

variable {File A : Type}

def refuseSymlink (message : String) (symlink : Bool) : Except LedgerError Unit :=
  require (!symlink) (.ownership message)

namespace FileSystem

variable (os : FileSystem)

def checkTarget : Except LedgerError Unit := do
  os.ownerAgain
  refuseSymlink "ledger path is a symlink" (<- os.symlink)
  if (<- os.present) then os.privateFile

def fill : Except LedgerError Unit := do
  os.setPrivate
  os.writeAll

def moveInto : Except LedgerError Unit := do
  os.syncFile
  refuseSymlink "ledger path was replaced" (<- os.symlinkAgain)
  os.rename

def syncParent : Except LedgerError Unit := do
  os.openDirectory
  os.syncDirectory

end FileSystem

/-- The closure of `persist_current` over the temporary file. -/
def replaceFile (os : FileSystem) (file : File) (directory : StateDirectory File) :
    StateDirectory File × Except LedgerError Unit :=
  match os.create with
  | .error error => (directory, .error error)
  | .ok () =>
      match os.fill with
      | .error error => ({ directory with temporaries := none :: directory.temporaries }, .error error)
      | .ok () =>
          match os.moveInto with
          | .error error => ({ directory with temporaries := some file :: directory.temporaries }, .error error)
          | .ok () => ({ directory with ledger := some file }, os.syncParent)

def removeTemporary (os : FileSystem) (before after : StateDirectory File) : StateDirectory File :=
  if os.removeTemporary.toBool then { after with temporaries := before.temporaries } else after

def boundedFile (limits : LedgerLimits) (format : FileFormat File) (state : LedgerState) : Except LedgerError File := do
  let file <- format.encode state
  require (format.size file ≤ limits.maxLedgerBytes) (.boundExceeded "serialized ledger bytes")
  pure file

def persistCurrent (limits : LedgerLimits) (format : FileFormat File) (os : FileSystem) (state : LedgerState)
    (directory : StateDirectory File) : StateDirectory File × Except LedgerError Unit :=
  match os.checkTarget >>= fun _ => boundedFile limits format state with
  | .error error => (directory, .error error)
  | .ok file =>
      match replaceFile os file directory with
      | (after, .ok ()) => (after, .ok ())
      | (after, .error error) => (removeTemporary os directory after, .error error)

def FiledLedger.update (config : LedgerConfig) (format : FileFormat File) (os : FileSystem)
    (ledger : FiledLedger File) (transition : Closure A) : FiledLedger File × Except HostError A :=
  match os.owner with
  | .error error => (ledger, .error (.ledger error))
  | .ok () =>
      match transition ledger.state with
      | (_, .error error) => (ledger, .error error)
      | (next, .ok value) =>
          let candidate := drainEvents config.limits next
          match validateState config.codec config.limits candidate with
          | .error error => (ledger, .error (.ledger error))
          | .ok () =>
              match persistCurrent config.limits format os candidate ledger.directory with
              | (directory, .error error) => ({ ledger with directory }, .error (.ledger error))
              | (directory, .ok ()) => ({ state := candidate, directory }, .ok value)

end AgentycHost
