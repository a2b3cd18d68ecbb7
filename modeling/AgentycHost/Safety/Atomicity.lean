import AgentycHost.Ledger.Commit
import AgentycHost.System.Runs

set_option autoImplicit false

/-! # Updates are atomic up to the rename -/

namespace AgentycHost

open Shared

variable {File A : Type} {config : LedgerConfig} {limits : LedgerLimits} {format : FileFormat File} {os : FileSystem}
  {state : LedgerState} {directory : StateDirectory File} {file : File}

/-- The file of a state gets as far as the rename. -/
structure Renames (limits : LedgerLimits) (format : FileFormat File) (os : FileSystem) (state : LedgerState)
    (file : File) : Prop where
  target : os.checkTarget = .ok ()
  bounded : boundedFile limits format state = .ok file
  created : os.create = .ok ()
  filled : os.fill = .ok ()
  moved : os.moveInto = .ok ()

theorem removeTemporary_eq (os : FileSystem) (before after : StateDirectory File) :
    removeTemporary os before after =
      { after with temporaries := if os.removeTemporary.toBool then before.temporaries else after.temporaries } := by
  unfold removeTemporary
  split_ifs <;> rfl

theorem persistCurrent_cases (limits : LedgerLimits) (format : FileFormat File) (os : FileSystem) (state : LedgerState)
    (directory : StateDirectory File) :
    (∃ error temporaries, persistCurrent limits format os state directory =
        ({ directory with temporaries }, .error error) ∧ ∀ file, ¬ Renames limits format os state file) ∨
      ∃ file temporaries, Renames limits format os state file ∧
        persistCurrent limits format os state directory = ({ ledger := some file, temporaries }, os.syncParent) := by
  unfold persistCurrent
  cases target : os.checkTarget with
  | error error =>
    refine .inl ⟨error, directory.temporaries, rfl, fun file renames => ?_⟩
    simp [renames.target] at target
  | ok =>
    dsimp only [bind, Except.bind]
    cases bounded : boundedFile limits format state with
    | error error =>
      refine .inl ⟨error, directory.temporaries, rfl, fun file renames => ?_⟩
      simp [renames.bounded] at bounded
    | ok file =>
      -- the steps of the closure, up to the rename
      simp only [replaceFile]
      cases created : os.create with
      | error error =>
        refine .inl ⟨error, _, congrArg (·, _) (removeTemporary_eq os directory _), fun file renames => ?_⟩
        simp [renames.created] at created
      | ok =>
        cases filled : os.fill with
        | error error =>
          refine .inl ⟨error, _, congrArg (·, _) (removeTemporary_eq os directory _), fun file renames => ?_⟩
          simp [renames.filled] at filled
        | ok =>
          cases moved : os.moveInto with
          | error error =>
            refine .inl ⟨error, _, congrArg (·, _) (removeTemporary_eq os directory _), fun file renames => ?_⟩
            simp [renames.moved] at moved
          | ok =>
            have renames : Renames limits format os state file := ⟨target, bounded, created, filled, moved⟩
            cases synced : os.syncParent with
            | error error =>
              exact .inr ⟨file, _, renames, congrArg (·, _) (removeTemporary_eq os directory _)⟩
            | ok => exact .inr ⟨file, directory.temporaries, renames, rfl⟩

/-- The update of a ledger gets as far as the rename of a file, and ends with this value if the sync succeeds. -/
structure Replaces (config : LedgerConfig) (format : FileFormat File) (os : FileSystem) (transition : Closure A)
    (before next : LedgerState) (value : A) (file : File) : Prop where
  owned : os.owner = .ok ()
  moved : transition before = (next, .ok value)
  valid : validateState config.codec config.limits (drainEvents config.limits next) = .ok ()
  renames : Renames config.limits format os (drainEvents config.limits next) file

def FiledLedger.replaced (config : LedgerConfig) (os : FileSystem) (ledger : FiledLedger File) (next : LedgerState)
    (value : A) (directory : StateDirectory File) : FiledLedger File × Except HostError A :=
  match os.syncParent with
  | .error error => ({ ledger with directory }, .error (.ledger error))
  | .ok () => ({ state := drainEvents config.limits next, directory }, .ok value)

theorem FiledLedger.update_cases (config : LedgerConfig) (format : FileFormat File) (os : FileSystem)
    (ledger : FiledLedger File) (transition : Closure A) :
    (∃ error temporaries, ledger.update config format os transition =
        ({ ledger with directory := { ledger.directory with temporaries } }, .error error) ∧
        ∀ next value file, ¬ Replaces config format os transition ledger.state next value file) ∨
      ∃ next value file temporaries, Replaces config format os transition ledger.state next value file ∧
        ledger.update config format os transition =
          ledger.replaced config os next value { ledger := some file, temporaries } := by
  have stops {error : HostError}
      (stopped : ∀ next value file, ¬ Replaces config format os transition ledger.state next value file) :
      ∃ failure temporaries, (ledger, (.error error : Except HostError A)) =
        ({ ledger with directory := { ledger.directory with temporaries } }, .error failure) ∧
        ∀ next value file, ¬ Replaces config format os transition ledger.state next value file :=
    ⟨error, ledger.directory.temporaries, rfl, stopped⟩
  unfold FiledLedger.update
  cases owned : os.owner with
  | error error =>
    refine .inl (stops fun next value file replaces => ?_)
    simp [replaces.owned] at owned
  | ok =>
    rcases moved : transition ledger.state with ⟨next, error | value⟩
    next =>
      refine .inl (stops fun _ _ _ replaces => ?_)
      simp [replaces.moved] at moved
    next =>
      dsimp only
      cases valid : validateState config.codec config.limits (drainEvents config.limits next) with
      | error error =>
        refine .inl (stops fun _ _ _ replaces => ?_)
        have same := replaces.moved
        rw [moved] at same
        cases same
        simp [replaces.valid] at valid
      | ok =>
        obtain ⟨error, temporaries, persisted, stopped⟩ | ⟨file, temporaries, renames, persisted⟩ :=
          persistCurrent_cases config.limits format os (drainEvents config.limits next) ledger.directory
        · refine .inl ⟨.ledger error, temporaries, by simp only [persisted], fun _ _ file replaces => ?_⟩
          have same := replaces.moved
          rw [moved] at same
          cases same
          exact stopped file replaces.renames
        · refine .inr ⟨next, value, file, temporaries, ⟨owned, moved, valid, renames⟩, ?_⟩
          unfold FiledLedger.replaced
          simp only [persisted]
          cases os.syncParent <;> rfl

/-- A reply that moves the state and the file together, or neither of them. -/
structure Atomic (config : LedgerConfig) (format : FileFormat File) (ledger : FiledLedger File)
    (transition : Closure A) (reply : FiledLedger File × Except HostError A) : Prop where
  failed : ∀ error, reply.2 = .error error ->
    reply.1.state = ledger.state ∧ reply.1.directory.ledger = ledger.directory.ledger
  succeeded : ∀ value, reply.2 = .ok value ->
    (transition ledger.state).2 = .ok value ∧
      reply.1.state = drainEvents config.limits (transition ledger.state).1 ∧
      ∃ file, format.encode reply.1.state = .ok file ∧ reply.1.directory.ledger = some file

theorem boundedFile_encodes (bounded : boundedFile limits format state = .ok file) : format.encode state = .ok file := by
  simp only [boundedFile, bind_ok, pure_ok] at bounded
  obtain ⟨encoded, same, _, _, rfl⟩ := bounded
  exact same

/-- An update is atomic unless the directory fails after a rename that changed the file. -/
theorem update_atomic_iff (config : LedgerConfig) (format : FileFormat File) (os : FileSystem)
    (ledger : FiledLedger File) (transition : Closure A) :
    Atomic config format ledger transition (ledger.update config format os transition) <->
      ∀ next value file, Replaces config format os transition ledger.state next value file ->
        os.syncParent = .ok () ∨ ledger.directory.ledger = some file := by
  obtain ⟨error, temporaries, updated, stopped⟩ | ⟨next, value, file, temporaries, replaces, updated⟩ :=
    ledger.update_cases config format os transition
  · rw [updated]
    refine iff_of_true ⟨fun _ _ => ⟨rfl, rfl⟩, fun value done => ?_⟩ fun _ _ _ replaces => ?_
    · cases done
    · exact (stopped _ _ _ replaces).elim
  · rw [updated, FiledLedger.replaced]
    constructor
    · intro atomic other result renamed again
      -- one update renames at most one file
      have moved := again.moved
      rw [replaces.moved] at moved
      cases moved
      have one := again.renames.bounded
      rw [replaces.renames.bounded] at one
      cases one
      cases synced : os.syncParent with
      | ok => exact .inl rfl
      | error error =>
        rw [synced] at atomic
        have kept := (atomic.failed _ rfl).2
        exact .inr kept.symm
    · intro safe
      cases synced : os.syncParent with
      | ok =>
        refine ⟨fun error failed => ?_, fun result done => ?_⟩
        · cases failed
        · cases done
          rw [replaces.moved]
          exact ⟨rfl, rfl, file, boundedFile_encodes replaces.renames.bounded, rfl⟩
      | error error =>
        have same := (safe next value file replaces).resolve_left (by simp [synced])
        refine ⟨fun _ _ => ⟨rfl, same.symm⟩, fun result done => ?_⟩
        cases done

section Refinement

def Closure.transition (closure : Closure A) : Transition A := fun state =>
  match closure state with
  | (next, .ok value) => .ok (value, next)
  | (_, .error error) => .error error

def FileSystem.reachesRename (os : FileSystem) (format : FileFormat File) (state : LedgerState) : Except LedgerError Unit := do
  os.checkTarget
  let _ <- format.encode state
  os.create
  os.fill
  os.moveInto

def FileSystem.outcome (os : FileSystem) (format : FileFormat File) (state : LedgerState) : PersistOutcome :=
  match os.owner, os.reachesRename format state, os.syncParent with
  | .error _, _, _ => .lockLost
  | .ok (), .error _, _ => .refused
  | .ok (), .ok (), .error _ => .renamed
  | .ok (), .ok (), .ok () => .written

structure Stores (format : FileFormat File) (filed : FiledLedger File) (ledger : Ledger) : Prop where
  state : filed.state = ledger.state
  disk : ∃ file, filed.directory.ledger = some file ∧ format.encode ledger.disk = .ok file

theorem reachesRename_ok : os.reachesRename format state = .ok () <->
    os.checkTarget = .ok () ∧ (∃ file, format.encode state = .ok file) ∧ os.create = .ok () ∧ os.fill = .ok () ∧
      os.moveInto = .ok () := by
  unfold FileSystem.reachesRename
  simp only [bind_ok]
  constructor
  · rintro ⟨⟨⟩, target, file, encodes, ⟨⟩, created, ⟨⟩, filled, moved⟩
    exact ⟨target, ⟨file, encodes⟩, created, filled, moved⟩
  · rintro ⟨target, ⟨file, encodes⟩, created, filled, moved⟩
    exact ⟨(), target, file, encodes, (), created, (), filled, moved⟩

theorem Renames.reaches (renames : Renames limits format os state file) : os.reachesRename format state = .ok () :=
  reachesRename_ok.mpr ⟨renames.target, ⟨file, boundedFile_encodes renames.bounded⟩, renames.created, renames.filled,
    renames.moved⟩

theorem Renames.of_reaches (reaches : os.reachesRename format state = .ok ())
    (sizes : ∀ file, format.encode state = .ok file -> format.size file ≤ limits.maxLedgerBytes) :
    ∃ file, Renames limits format os state file := by
  obtain ⟨target, ⟨file, encodes⟩, created, filled, moved⟩ := reachesRename_ok.mp reaches
  have bounded : boundedFile limits format state = .ok file := by
    simp only [boundedFile, bind_ok, require_ok, decide_eq_true_eq]
    exact ⟨file, encodes, (), sizes file encodes, rfl⟩
  exact ⟨file, target, bounded, created, filled, moved⟩

theorem outcome_replaces : (os.outcome format state = .written ∨ os.outcome format state = .renamed) <->
    os.owner = .ok () ∧ os.reachesRename format state = .ok () := by
  unfold FileSystem.outcome
  cases os.owner <;> cases os.reachesRename format state <;> cases os.syncParent <;> simp

theorem outcome_synced (owned : os.owner = .ok ()) (reaches : os.reachesRename format state = .ok ()) :
    os.outcome format state = .written <-> os.syncParent = .ok () := by
  unfold FileSystem.outcome
  rw [owned, reaches]
  cases os.syncParent <;> simp

theorem update_refines {filed : FiledLedger File} {ledger : Ledger} (transition : Closure A)
    (sizes : ∀ state file, format.encode state = .ok file -> format.size file = config.codec.prettyBytes state)
    (stores : Stores format filed ledger) :
    let outcome := os.outcome format (drainEvents config.limits (transition ledger.state).1)
    let reply := ledger.update config outcome transition.transition
    Stores format (filed.update config format os transition).1 reply.1 ∧
      (filed.update config format os transition).2.toOption = reply.2.toOption := by
  have same := stores.state
  dsimp only
  generalize ended : os.outcome format (drainEvents config.limits (transition ledger.state).1) = outcome
  unfold Ledger.update Closure.transition
  obtain ⟨error, temporaries, updated, stopped⟩ | ⟨next, value, file, temporaries, replaces, updated⟩ :=
    filed.update_cases config format os transition
  · rw [updated]
    have kept : Stores format { filed with directory := { filed.directory with temporaries } } ledger :=
      ⟨same, stores.disk⟩
    split_ifs with lost
    next => exact ⟨kept, rfl⟩
    rcases moved : transition ledger.state with ⟨next, error | value⟩
    next => exact ⟨kept, rfl⟩
    dsimp only
    cases valid : validateState config.codec config.limits (drainEvents config.limits next) with
    | error => exact ⟨kept, rfl⟩
    | ok =>
      dsimp only
      split_ifs with large
      next => exact ⟨kept, rfl⟩
      -- a file that gets to the rename would have replaced the old one
      have never : ¬ (outcome = .written ∨ outcome = .renamed) := by
        rw [← ended, outcome_replaces, moved]
        rintro ⟨owned, reaches⟩
        obtain ⟨file, renames⟩ := Renames.of_reaches reaches fun file encodes => by
          rw [sizes _ file encodes]
          exact Nat.le_of_not_lt large
        exact stopped next value file ⟨owned, same ▸ moved, valid, renames⟩
      cases outcome with
      | lockLost | refused => exact ⟨kept, rfl⟩
      | written | renamed => simp at never
  · rw [updated]
    have moved := replaces.moved
    have reaches := replaces.renames.reaches
    have encodes := boundedFile_encodes replaces.renames.bounded
    rw [same] at moved
    rw [moved] at ended ⊢
    have fits : ¬ config.limits.maxLedgerBytes < config.codec.prettyBytes (drainEvents config.limits next) := by
      have bounded := replaces.renames.bounded
      simp only [boundedFile, bind_ok, require_ok, decide_eq_true_eq, pure_ok] at bounded
      obtain ⟨_, again, _, small, rfl⟩ := bounded
      rw [sizes _ _ again] at small
      exact Nat.not_lt.mpr small
    have stores_file : ∃ found, some file = some found ∧ format.encode (drainEvents config.limits next) = .ok found :=
      ⟨file, rfl, encodes⟩
    have synced := outcome_synced replaces.owned reaches
    have replaced := outcome_replaces.mpr ⟨replaces.owned, reaches⟩
    rw [ended] at synced replaced
    have kept_lock : outcome ≠ .lockLost := by
      rintro rfl
      simp at replaced
    rw [if_neg kept_lock]
    dsimp only
    rw [replaces.valid]
    dsimp only
    rw [if_neg fits]
    unfold FiledLedger.replaced
    obtain rfl | rfl := replaced
    · rw [synced.mp rfl]
      exact ⟨⟨rfl, stores_file⟩, rfl⟩
    · cases sync : os.syncParent with
      | ok => simp [sync] at synced
      | error => exact ⟨⟨same, stores_file⟩, rfl⟩

section Updates

variable {filed : FiledLedger File} {ledger : Ledger}

/-- Updates one after another, each with the file system that it meets. -/
def FiledLedger.updates (config : LedgerConfig) (format : FileFormat File) :
    FiledLedger File -> List (FileSystem × Closure A) -> FiledLedger File × List (Option A)
  | filed, [] => (filed, [])
  | filed, (os, closure) :: calls =>
      let reply := filed.update config format os closure
      let later := FiledLedger.updates config format reply.1 calls
      (later.1, reply.2.toOption :: later.2)

/-- The same updates, where a file system is one of four outcomes. -/
def Ledger.updates (config : LedgerConfig) (format : FileFormat File) :
    Ledger -> List (FileSystem × Closure A) -> Ledger × List (Option A)
  | ledger, [] => (ledger, [])
  | ledger, (os, closure) :: calls =>
      let outcome := os.outcome format (drainEvents config.limits (closure ledger.state).1)
      let reply := ledger.update config outcome closure.transition
      let later := Ledger.updates config format reply.1 calls
      (later.1, reply.2.toOption :: later.2)

theorem Ledger.update_disk (io : PersistOutcome) (transition : Transition A)
    (valid : validateState config.codec config.limits ledger.disk = .ok ()) :
    validateState config.codec config.limits (ledger.update config io transition).1.disk = .ok () := by
  obtain ⟨_, same⟩ | ⟨_, _, _, _, _, checked, same | ⟨_, same⟩⟩ := ledger.update_cases config io transition
  · rw [same]
    exact valid
  · rw [same]
    exact checked
  · rw [same]
    exact checked

/-- Over any updates and any failures of the file system, the state in memory, the file and the replies are those of
the ledger of four outcomes, and the file holds a valid state. -/
theorem updates_refine (calls : List (FileSystem × Closure A))
    (sizes : ∀ state file, format.encode state = .ok file -> format.size file = config.codec.prettyBytes state)
    (stores : Stores format filed ledger) (valid : validateState config.codec config.limits ledger.disk = .ok ()) :
    let abstract := ledger.updates config format calls
    Stores format (filed.updates config format calls).1 abstract.1 ∧
      (filed.updates config format calls).2 = abstract.2 ∧
      validateState config.codec config.limits abstract.1.disk = .ok () := by
  induction calls generalizing filed ledger with
  | nil => exact ⟨stores, rfl, valid⟩
  | cons call calls later =>
    obtain ⟨os, closure⟩ := call
    obtain ⟨kept, replied⟩ : Stores format (filed.update config format os closure).1 _ ∧ _ :=
      update_refines closure sizes stores
    obtain ⟨stored, replies, checked⟩ := later kept (ledger.update_disk _ _ valid)
    exact ⟨stored, congrArg₂ List.cons replied replies, checked⟩

end Updates

end Refinement

section Sample

def unsyncedSystem : FileSystem where
  owner := .ok ()
  ownerAgain := .ok ()
  symlink := .ok false
  present := .ok true
  privateFile := .ok ()
  create := .ok ()
  setPrivate := .ok ()
  writeAll := .ok ()
  syncFile := .ok ()
  symlinkAgain := .ok false
  rename := .ok ()
  openDirectory := .ok ()
  syncDirectory := .error .io
  removeTemporary := .ok ()

def stateFormat : FileFormat LedgerState := { encode := .ok, size := sampleCodec.prettyBytes }

def newLedger : FiledLedger LedgerState where
  state := .new 1
  directory := { ledger := some (.new 1), temporaries := [] }

def takeSpaceNumber : Closure Unit := fun state => ({ state with nextSpaceNumber := state.nextSpaceNumber + 1 }, .ok ())

/-- The new file is there although the update failed, and the host still holds the old state. -/
theorem unsynced_update_splits :
    ¬ ∀ (File A : Type) (config : LedgerConfig) (format : FileFormat File) (os : FileSystem)
      (ledger : FiledLedger File) (transition : Closure A),
      Atomic config format ledger transition (ledger.update config format os transition) := by
  intro claim
  have atomic := claim LedgerState Unit sampleConfig.ledger stateFormat unsyncedSystem newLedger takeSpaceNumber
  have updated : newLedger.update sampleConfig.ledger stateFormat unsyncedSystem takeSpaceNumber =
      ({ newLedger with directory := { ledger := some (takeSpaceNumber (.new 1)).1, temporaries := [] } },
        .error (.ledger .io)) := rfl
  rw [updated] at atomic
  obtain ⟨_, kept⟩ := atomic.failed _ rfl
  have numbers := congrArg (fun file => file.map (·.nextSpaceNumber)) kept
  cases numbers

def syncedSystem : FileSystem := { unsyncedSystem with syncDirectory := .ok () }

theorem newLedger_checked :
    validateState sampleConfig.ledger.codec sampleConfig.ledger.limits (.new 1) = .ok () := by
  decide

theorem stateFormat_sizes (state file : LedgerState) (encodes : stateFormat.encode state = .ok file) :
    stateFormat.size file = sampleConfig.ledger.codec.prettyBytes state := by
  obtain rfl := Except.ok.inj encodes
  rfl

/-- The first update fails after the rename, so that the second one counts from the old state again. -/
theorem updates_refine_sample :
    let calls := [(unsyncedSystem, takeSpaceNumber), (syncedSystem, takeSpaceNumber)]
    Stores stateFormat (newLedger.updates sampleConfig.ledger stateFormat calls).1
        (Ledger.updates sampleConfig.ledger stateFormat ⟨.new 1, .new 1⟩ calls).1 ∧
      (newLedger.updates sampleConfig.ledger stateFormat calls).2 = [none, some ()] := by
  have stores : Stores stateFormat newLedger ⟨.new 1, .new 1⟩ := ⟨rfl, LedgerState.new 1, rfl, rfl⟩
  have refined := updates_refine [(unsyncedSystem, takeSpaceNumber), (syncedSystem, takeSpaceNumber)]
    stateFormat_sizes stores newLedger_checked
  exact ⟨refined.1, refined.2.1⟩

end Sample

end AgentycHost
