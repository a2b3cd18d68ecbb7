import AgentycHost.Ledger.Facts
import AgentycHost.Shared.Runs
import AgentycHost.System.Commits

set_option autoImplicit false

/-!
# Runs of the host

A run starts over an empty ledger and takes the steps of any calls in any
order. The state in memory is always a valid one, and the file holds it or the
result of one more transition.
-/

namespace AgentycHost

open Shared

/-- What a step is: the command, and the outside it meets. -/
abbrev Label := Environment × Command

def next (config : HostConfig) (label : Label) (system : System) : Option System :=
  (step config label.1 label.2 system).map Prod.fst

abbrev HostRun (config : HostConfig) : System -> List (Moment System Label) -> System -> Prop :=
  Run fun label before after => next config label before = some after

def Reachable (config : HostConfig) (system : System) : Prop :=
  ∃ start trace, Initial config start ∧ HostRun config start trace system

variable {config : HostConfig} {label : Label} {before after start last : System}
  {trace : List (Moment System Label)} {command : Command} {calls : Table Nat Call} {state : LedgerState}
  {ledger : Ledger}

theorem next_step (taken : next config label before = some after) :
    ∃ result, step config label.1 label.2 before = some (after, result) := by
  obtain ⟨⟨_, result⟩, replied, rfl⟩ := Option.map_eq_some_iff.mp taken
  exact ⟨result, replied⟩

theorem next_ledger (taken : next config label before = some after) :
    LedgerMove config.ledger before.calls label.2 before.ledger after.ledger ∨
      ∃ failures state, label.2 = .restart failures ∧
        reopenLedger config.ledger before.ledger.disk failures = .ok state ∧ after = System.opened config state := by
  obtain ⟨_, replied⟩ := next_step taken
  exact step_ledger replied

theorem LedgerStep.valid {config : LedgerConfig} {before after : LedgerState}
    (taken : LedgerStep config calls command before after) : Valid config after := by
  cases taken <;> (rename_i made; exact made.valid)

theorem openLedger_valid {config : LedgerConfig} {disk : LedgerState} (opened : openLedger config disk = .ok state) :
    Valid config state := by
  simp only [openLedger, bind_ok, pure_ok] at opened
  obtain ⟨_, _, _, _, _, _, _, valid, _, _, rfl⟩ := opened
  exact valid

theorem reopenLedger_keeps {config : LedgerConfig} (holds : LedgerState -> Prop) {disk : LedgerState}
    {failures : Nat} (one : ∀ disk state, Valid config disk -> holds disk ->
      openLedger config disk = .ok state -> holds state)
    (valid : Valid config disk) (start : holds disk) (opened : reopenLedger config disk failures = .ok state) :
    Valid config state ∧ holds state := by
  induction failures generalizing disk with
  | zero => exact ⟨openLedger_valid opened, one _ _ valid start opened⟩
  | succ failures ih =>
    simp only [reopenLedger, bind_ok] at opened
    obtain ⟨middle, first, others⟩ := opened
    exact ih (openLedger_valid first) (one _ _ valid start first) others

structure Sound (config : LedgerConfig) (ledger : Ledger) : Prop where
  valid : Valid config ledger.state
  ahead : ledger.disk = ledger.state ∨ ∃ calls command, LedgerStep config calls command ledger.state ledger.disk

theorem Sound.disk {config : LedgerConfig} (sound : Sound config ledger) :
    Valid config ledger.disk := by
  obtain same | ⟨_, _, taken⟩ := sound.ahead
  · exact same ▸ sound.valid
  · exact taken.valid

theorem Sound.move {config : LedgerConfig} {changed : Ledger} (sound : Sound config ledger)
    (moved : LedgerMove config calls command ledger changed) : Sound config changed := by
  cases moved with
  | same => exact sound
  | committed taken => exact ⟨taken.valid, .inl rfl⟩
  | written taken => exact ⟨sound.valid, .inr ⟨calls, command, taken⟩⟩

theorem Initial.sound (initial : Initial config start) : Sound config.ledger start.ledger := by
  obtain ⟨rfl, valid⟩ := initial
  exact ⟨valid, .inl rfl⟩

theorem Sound.step (sound : Sound config.ledger before.ledger) (taken : next config label before = some after) :
    Sound config.ledger after.ledger := by
  obtain moved | ⟨failures, state, _, opened, rfl⟩ := next_ledger taken
  · exact sound.move moved
  · obtain ⟨valid, _⟩ := reopenLedger_keeps (fun _ => True) (fun _ _ _ _ _ => trivial) sound.disk trivial opened
    exact ⟨valid, .inl rfl⟩

theorem HostRun.sound (run : HostRun config start trace last) (initial : Initial config start) :
    Sound config.ledger last.ledger :=
  run.keeps (fun system => Sound config.ledger system.ledger) initial.sound
    fun _ _ taken sound => sound.step taken

theorem ledger_step_keeps (holds : LedgerState -> Prop) (sound : Sound config.ledger before.ledger)
    (memory : holds before.ledger.state) (file : holds before.ledger.disk)
    (taken : next config label before = some after)
    (moved : ∀ state, LedgerStep config.ledger before.calls label.2 before.ledger.state state -> holds state)
    (opened : ∀ disk state, Valid config.ledger disk -> holds disk ->
      openLedger config.ledger disk = .ok state -> holds state) :
    holds after.ledger.state ∧ holds after.ledger.disk := by
  obtain ledger | ⟨failures, state, _, reopened, rfl⟩ := next_ledger taken
  · generalize after.ledger = changed at ledger
    cases ledger with
    | same => exact ⟨memory, file⟩
    | committed taken => exact ⟨moved _ taken, moved _ taken⟩
    | written taken => exact ⟨memory, moved _ taken⟩
  · obtain ⟨_, kept⟩ := reopenLedger_keeps holds opened sound.disk file reopened
    exact ⟨kept, kept⟩

theorem HostRun.ledger_keeps (holds : LedgerState -> Prop) (run : HostRun config start trace last)
    (initial : Initial config start) (fresh : holds (.new 1))
    (moved : ∀ moment state, moment ∈ trace -> Valid config.ledger moment.before.ledger.state ->
      holds moment.before.ledger.state ->
      LedgerStep config.ledger moment.before.calls moment.label.2 moment.before.ledger.state state -> holds state)
    (opened : ∀ disk state, Valid config.ledger disk -> holds disk ->
      openLedger config.ledger disk = .ok state -> holds state) :
    Sound config.ledger last.ledger ∧ holds last.ledger.state ∧ holds last.ledger.disk := by
  refine run.keeps (fun system => Sound config.ledger system.ledger ∧ holds system.ledger.state ∧
    holds system.ledger.disk) ⟨initial.sound, ?_⟩ ?_
  · obtain ⟨rfl, _⟩ := initial
    exact ⟨fresh, fresh⟩
  · rintro moment inside taken ⟨sound, memory, file⟩
    refine ⟨sound.step taken, ?_⟩
    exact ledger_step_keeps holds sound memory file taken
      (fun _ made => moved moment _ inside sound.valid memory made) opened

theorem HostRun.ahead (run : HostRun config start trace last) (initial : Initial config start) :
    last.ledger.disk = last.ledger.state ∨
      ∃ cause, cause ∈ trace ∧ cause.before.ledger.state = last.ledger.state ∧
        cause.after.ledger.disk = last.ledger.disk ∧
        LedgerStep config.ledger cause.before.calls cause.label.2 last.ledger.state last.ledger.disk := by
  induction run with
  | nil =>
    obtain ⟨rfl, _⟩ := initial
    exact .inl rfl
  | @step trace before after label earlier taken ih =>
    obtain moved | ⟨_, state, _, _, rfl⟩ := next_ledger taken
    · generalize changed : after.ledger = ledger at moved ⊢
      cases moved with
      | same =>
        obtain same | ⟨cause, inside, rest⟩ := ih
        · exact .inl same
        · exact .inr ⟨cause, List.mem_cons_of_mem _ inside, rest⟩
      | committed => exact .inl rfl
      | written made =>
        refine .inr ⟨_, List.mem_cons_self, rfl, ?_, made⟩
        rw [changed]
    · exact .inl rfl

theorem HostRun.ledger_keeps_from {middle : System} {later : List (Moment System Label)} (holds : LedgerState -> Prop)
    (early : HostRun config start trace middle) (initial : Initial config start)
    (late : HostRun config middle later last) (now : holds middle.ledger.state)
    (moved : ∀ moment state, moment ∈ later ++ trace -> Valid config.ledger moment.before.ledger.state ->
      holds moment.before.ledger.state ->
      LedgerStep config.ledger moment.before.calls moment.label.2 moment.before.ledger.state state -> holds state)
    (opened : ∀ disk state, Valid config.ledger disk -> holds disk ->
      openLedger config.ledger disk = .ok state -> holds state) : holds last.ledger.state := by
  have sound := early.sound initial
  have file : holds middle.ledger.disk := by
    obtain same | ⟨cause, inside, about, _, made⟩ := early.ahead initial
    · exact same ▸ now
    · rw [← about] at made
      exact moved cause _ (List.mem_append_right _ inside) (about ▸ sound.valid) (about ▸ now) made
  refine (late.keeps (fun system => Sound config.ledger system.ledger ∧ holds system.ledger.state ∧
    holds system.ledger.disk) ⟨sound, now, file⟩ ?_).2.1
  rintro moment inside taken ⟨sound, memory, file⟩
  refine ⟨sound.step taken, ?_⟩
  exact ledger_step_keeps holds sound memory file taken
    (fun _ made => moved moment _ (List.mem_append_left _ inside) sound.valid memory made) opened

section Sample

def sampleCodec : Codec where
  compactBytes state := 4096 * (1 + state.spaces.size + state.actions.size + state.events.length)
  prettyBytes state := 8192 * (1 + state.spaces.size + state.actions.size + state.events.length)
  snapshotBytes _ := 4096
  requestJson request := bytes ("[\"" ++ request.requestId.text ++ "\",\"" ++ request.actionId.text ++ "\",\"" ++
    request.idempotencyKey.text ++ "\",\"" ++ request.spaceId.text ++ "\",null," ++ toString request.leaseEpoch ++
    ",\"navigate\",\x7b\x7d,null]")
  parseElementRef _ := none
  parseProvenance _ := none
  parseEvidence _ := none
  envelopeValid _ := true

def sampleConfig : HostConfig := { ledger := { codec := sampleCodec, limits := {} } }

def sampleEnv : Environment where
  io := .written
  capabilities := [.snapshot, .action]
  extensionEpochs := none

def reconcilingEnv : Environment := { sampleEnv with capabilities := [.snapshot, .action, .reconcile] }

def samplePrincipal : PrincipalId := ⟨"agent", by decide⟩

def sampleNonce : ConnectionNonce := ⟨"first", by decide⟩

def sampleTicket : AuthorityTicket where
  principalId := samplePrincipal
  brokerEpoch := 1
  connectionEpoch := 1
  profileBindingId := none
  connectionNonce := sampleNonce

def sampleStart : List Label :=
  [(sampleEnv, .hello { principalId := samplePrincipal, connectionNonce := sampleNonce, profileBindingId := none,
                        isExtension := false }),
   (sampleEnv, .createSpace sampleTicket "work" .retain),
   (sampleEnv, .acquireLease ⟨1⟩ sampleTicket 10 1000)]

def sampleClaim : Claim where
  spaceId := ⟨1⟩
  authority := sampleTicket
  leaseEpoch := 1
  now := 20

def sampleRequest (requestId : RequestId) (actionId : ActionId) (idempotencyKey : IdempotencyKey)
    (leaseEpoch : LeaseEpoch) : ActionRequest :=
  let request : ActionRequest :=
    { requestId, actionId, idempotencyKey, requestHash := ⟨0⟩, spaceId := ⟨1⟩, pageId := none, leaseEpoch,
      operation := .navigate, payload := [], postcondition := none }
  { request with requestHash := canonicalActionHash sampleCodec request }

def firstRequest : ActionRequest :=
  sampleRequest ⟨"first", by decide⟩ ⟨"first", by decide +kernel⟩ ⟨"first", by decide⟩ 1

def secondRequest : ActionRequest :=
  sampleRequest ⟨"second", by decide⟩ ⟨"second", by decide +kernel⟩ ⟨"second", by decide +kernel⟩ 1

def queuedOnce : List Label := sampleStart ++ [(sampleEnv, .enqueueAction firstRequest sampleTicket 20 none)]

def sentOnce : List Label := queuedOnce ++
  [(sampleEnv, .dispatchAction 7 firstRequest.actionId sampleTicket 1 30),
   (sampleEnv, .acquirePermit 7),
   (sampleEnv, .recheckDispatch 7),
   (sampleEnv, .sendDispatch 7)]

def settledOnce : List Label := sentOnce ++
  [(sampleEnv, .dispatchAnswered 7 (.ok .succeeded) none),
   (sampleEnv, .finishDispatch 7)]

def lostOnce : List Label := sentOnce ++
  [(sampleEnv, .dispatchAnswered 7 (.ok (.unknown .bridgeLost)) none),
   (sampleEnv, .finishDispatch 7)]

theorem sample_initial : Initial sampleConfig (.fresh sampleConfig) := ⟨rfl, rfl⟩

theorem HostRun.of_advances (config : HostConfig) (start : System) (first second : List Label)
    (test : System -> System -> List (Moment System Label) -> Bool)
    (ran : ((advance (next config) first start).any fun middle =>
      (advance (next config) second middle).any fun last => test middle last (visits (next config) second middle)) = true) :
    ∃ middle last later, HostRun config start (visits (next config) first start).reverse middle ∧
      HostRun config middle later.reverse last ∧ test middle last later = true :=
  advance_reaches_later (next config) start first second test ran

end Sample

end AgentycHost
