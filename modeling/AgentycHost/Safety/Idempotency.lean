import AgentycHost.System.Runs

set_option autoImplicit false

/-! # The idempotency index -/

namespace AgentycHost

open Shared

section Retries

variable {config : HostConfig} {env : Environment} {system after : System} {request : ActionRequest}
  {authority : AuthorityTicket} {now : Timestamp} {ticket : Option UserIntentTicket} {result : Except HostError Unit}
  {ledger : Ledger} {A : Type} {receipt : ActionReceipt} {state : LedgerState} {registry : RefRegistry}
  {existingId : ActionId} {existing : ActionRequest}

/-- The checks of an admission that do not look at the index. -/
structure Admitted (config : HostConfig) (env : Environment) (system : System) (request : ActionRequest)
    (authority : AuthorityTicket) (now : Timestamp) (ticket : Option UserIntentTicket) : Prop where
  checks : admitRequest config.ledger.codec env.capabilities system.lifecycle system.intents system.ledger.state
    request authority now ticket = .ok ()
  space : authorizeSpace system.ledger.state request.spaceId authority request.leaseEpoch now true = .ok ()

theorem Ledger.update_keeps {config : LedgerConfig} {io : PersistOutcome} {transition : Transition A}
    (valid : Valid config ledger.state)
    (keeps : ∀ value next, transition ledger.state = .ok (value, next) -> next = ledger.state) :
    (ledger.update config io transition).1.state = ledger.state := by
  obtain ⟨_, failed⟩ | ⟨_, _, _, run, rfl, _, done | ⟨_, failed⟩⟩ := ledger.update_cases config io transition
  · rw [failed]
  · rw [done, keeps _ _ run]
    exact valid.drained
  · rw [failed]

theorem Ledger.update_returns {config : LedgerConfig} {value : A} {transition : Transition A}
    (valid : Valid config ledger.state) (fits : config.codec.prettyBytes ledger.state ≤ config.limits.maxLedgerBytes)
    (moved : transition ledger.state = .ok (value, ledger.state)) :
    (ledger.update config .written transition).2 = .ok value := by
  unfold Ledger.update
  rw [if_neg (by decide), moved]
  dsimp only
  rw [valid.drained, show validateState config.codec config.limits ledger.state = .ok () from valid]
  dsimp only
  rw [if_neg (Nat.not_lt.mpr fits)]

theorem enqueueAction_retried {config : LedgerConfig} (found : existingReceipt state request = .ok (some receipt))
    (allowed : authorizeSpace state request.spaceId authority request.leaseEpoch now true = .ok ()) :
    enqueueAction config request authority now registry state = (registry, .ok (receipt, state)) := by
  have admitted : admitEnqueue request authority now state = .ok (some receipt) := by
    rw [admitEnqueue, allowed]
    change (existingReceipt state request >>= _) = _
    rw [found]
    rfl
  rw [enqueueAction, admitted]

theorem enqueueAction_indexed {config : LedgerConfig}
    (indexed : state.idempotency.get? request.idempotencyKey = some existingId) :
    (enqueueAction config request authority now registry state).1 = registry ∧
      ∀ receipt next, (enqueueAction config request authority now registry state).2 = .ok (receipt, next) ->
        next = state := by
  have known (receipt : Option ActionReceipt) (found : existingReceipt state request = .ok receipt) :
      receipt ≠ none := by
    simp only [existingReceipt, indexed, bind_ok, pure_ok] at found
    obtain ⟨_, _, _, _, _, _, rfl⟩ := found
    exact Option.some_ne_none _
  unfold enqueueAction
  split
  · refine ⟨rfl, fun _ _ run => ?_⟩
    cases run
  · refine ⟨rfl, fun _ _ run => ?_⟩
    cases run
    rfl
  · next admitted =>
    simp only [admitEnqueue, bind_ok] at admitted
    obtain ⟨_, _, receipt, found, rest⟩ := admitted
    cases receipt with
    | none => exact absurd rfl (known _ found)
    | some receipt => cases rest

theorem System.commitRefs_keeps {transition : RefTransition A} {middle : System} {value : Except HostError A}
    (valid : Valid config.ledger system.ledger.state)
    (registry : (transition system.registry system.ledger.state).1 = system.registry)
    (keeps : ∀ value next, (transition system.registry system.ledger.state).2 = .ok (value, next) ->
      next = system.ledger.state)
    (committed : system.commitRefs config env transition = (middle, value)) :
    middle = { system with ledger := middle.ledger } ∧ middle.ledger.state = system.ledger.state := by
  unfold System.commitRefs at committed
  obtain ⟨rfl, rfl⟩ := Prod.mk.inj committed
  constructor
  · simp only [registry, ite_self]
  · let run : Transition A := fun state => (transition system.registry state).2
    exact (Ledger.update_keeps valid keeps : (system.ledger.update config.ledger env.io run).1.state = _)

theorem System.commitRefs_refused {transition : RefTransition A} {error : HostError}
    (failed : transition system.registry system.ledger.state = (system.registry, .error error)) :
    ∃ failure, system.commitRefs config env transition = (system, .error failure) := by
  simp only [System.commitRefs, Ledger.update, failed, ite_self]
  split_ifs
  · exact ⟨_, rfl⟩
  · exact ⟨_, rfl⟩

/-- The system after an admission that added nothing: only the ticket it was presented with can be spent. -/
structure Unmoved (ticket : Option UserIntentTicket) (result : Except HostError Unit) (before after : System) :
    Prop where
  rest : after = { before with ledger := after.ledger, intents := after.intents }
  state : after.ledger.state = before.ledger.state
  tickets : after.intents = before.intents ∨ ∃ spent, ticket = some spent ∧ result = .ok () ∧
    after.intents = before.intents.erase spent.token

theorem enqueueAction_unmoved (valid : Valid config.ledger system.ledger.state)
    (indexed : system.ledger.state.idempotency.get? request.idempotencyKey = some existingId)
    (taken : step config env (.enqueueAction request authority now ticket) system = some (after, result)) :
    Unmoved ticket result system after := by
  simp only [step, actionStep, System.afterCheck] at taken
  split at taken
  · cases taken
    exact ⟨rfl, rfl, .inl rfl⟩
  · unfold enqueue at taken
    generalize committed : system.commitRefs config env (enqueueAction config.ledger request authority now) = reply
      at taken
    obtain ⟨middle, value⟩ := reply
    obtain ⟨rest, kept⟩ := System.commitRefs_keeps valid (enqueueAction_indexed indexed).1
      (enqueueAction_indexed indexed).2 committed
    cases value with
    | error error =>
      cases taken
      exact ⟨by rw [rest], kept, .inl (by rw [rest])⟩
    | ok receipt =>
      cases ticket with
      | none =>
        cases taken
        exact ⟨by rw [rest], kept, .inl (by rw [rest])⟩
      | some spent =>
        cases taken
        refine ⟨by rw [rest], kept, .inr ⟨spent, rfl, rfl, ?_⟩⟩
        dsimp only
        rw [rest]

theorem enqueueAction_conflicts
    (indexed : system.ledger.state.idempotency.get? request.idempotencyKey = some existingId)
    (stored : system.ledger.state.actionRequests.get? existingId = some existing)
    (conflicts : canonicalActionHash config.ledger.codec request ≠ existing.requestHash) :
    ∃ error, step config env (.enqueueAction request authority now ticket) system =
      some (system, .error error) := by
  simp only [step, actionStep, System.afterCheck]
  split
  · exact ⟨_, rfl⟩
  · next admitted =>
    simp only [admitRequest, bind_ok, require_ok, beq_iff_eq] at admitted
    obtain ⟨_, _, _, hashed, _⟩ := admitted
    -- the request carries its own hash, so the stored one is different
    have refused : ∃ error, admitEnqueue request authority now system.ledger.state = .error error := by
      cases checked : admitEnqueue request authority now system.ledger.state with
      | error error => exact ⟨error, rfl⟩
      | ok receipt =>
        simp only [admitEnqueue, existingReceipt, indexed, stored, bind_ok, orElse_ok, require_ok, beq_iff_eq] at checked
        obtain ⟨_, _, _, ⟨_, known, _, same, _⟩, _⟩ := checked
        cases known
        exact absurd (hashed.symm.trans same.symm) conflicts
    obtain ⟨error, refused⟩ := refused
    have answered : enqueueAction config.ledger request authority now system.registry system.ledger.state =
        (system.registry, .error error) := by rw [enqueueAction, refused]
    have committed : ∃ failure, system.commitRefs config env (enqueueAction config.ledger request authority now) =
        (system, .error failure) := System.commitRefs_refused answered
    obtain ⟨failure, failed⟩ := committed
    refine ⟨failure, ?_⟩
    unfold enqueue
    rw [failed]

theorem enqueueAction_answered (valid : Valid config.ledger system.ledger.state)
    (fits : config.ledger.codec.prettyBytes system.ledger.state ≤ config.ledger.limits.maxLedgerBytes)
    (indexed : system.ledger.state.idempotency.get? request.idempotencyKey = some existingId)
    (stored : system.ledger.state.actionRequests.get? existingId = some existing)
    (same : canonicalActionHash config.ledger.codec request = existing.requestHash)
    (retained : system.ledger.state.actions.get? existingId = some receipt)
    (admitted : Admitted config env system request authority now ticket) (written : env.io = .written) :
    (system.commitRefs config env (enqueueAction config.ledger request authority now)).2 = .ok receipt := by
  have hashed : request.requestHash = canonicalActionHash config.ledger.codec request := by
    have checks := admitted.checks
    simp only [admitRequest, bind_ok, require_ok, beq_iff_eq] at checks
    obtain ⟨_, _, _, hashed, _⟩ := checks
    exact hashed
  have found : existingReceipt system.ledger.state request = .ok (some receipt) := by
    simp only [existingReceipt, indexed, bind_ok, orElse_ok, require_ok, beq_iff_eq, pure_ok]
    exact ⟨existing, stored, (), same.symm.trans hashed.symm, receipt, retained, rfl⟩
  let run : Transition ActionReceipt := fun state =>
    (enqueueAction config.ledger request authority now system.registry state).2
  have moved : run system.ledger.state = .ok (receipt, system.ledger.state) := by
    simp only [run, enqueueAction_retried found admitted.space]
  have returned := Ledger.update_returns valid fits moved
  rw [← written] at returned
  exact returned

end Retries

variable {config : HostConfig} {start last : System} {trace : List (Moment System Label)}

theorem reopenLedger_fits {config : LedgerConfig} {disk state : LedgerState} {failures : Nat}
    (opened : reopenLedger config disk failures = .ok state) :
    config.codec.prettyBytes state ≤ config.limits.maxLedgerBytes := by
  induction failures generalizing disk with
  | zero =>
    simp only [reopenLedger, openLedger, bind_ok, require_ok, decide_eq_true_eq, pure_ok] at opened
    obtain ⟨_, _, _, _, _, _, _, _, _, fits, rfl⟩ := opened
    exact fits
  | succ failures ih =>
    simp only [reopenLedger, bind_ok] at opened
    obtain ⟨_, _, others⟩ := opened
    exact ih others

theorem HostRun.fits (run : HostRun config start trace last) (initial : Initial config start) :
    last.ledger.state = .new 1 ∨ config.ledger.codec.prettyBytes last.ledger.state ≤ config.ledger.limits.maxLedgerBytes := by
  refine run.keeps (fun system => system.ledger.state = .new 1 ∨
    config.ledger.codec.prettyBytes system.ledger.state ≤ config.ledger.limits.maxLedgerBytes) ?_ ?_
  · obtain ⟨rfl, _⟩ := initial
    exact .inl rfl
  · intro moment _ taken before
    obtain moved | ⟨failures, state, _, opened, reopened⟩ := next_ledger taken
    · generalize moment.after.ledger = changed at moved
      cases moved with
      | same => exact before
      | committed _ fits => exact .inr fits
      | written => exact before
    · rw [reopened]
      exact .inr (reopenLedger_fits opened)

/-- The index is exact. Under an indexed key another request is refused, and the same request adds nothing; when it
is admitted and the ledger is written, it gets the existing receipt. -/
theorem idempotency_index_exact (run : HostRun config start trace last) (initial : Initial config start) :
    (Indexed last.ledger.state ∧ Indexed last.ledger.disk) ∧
    ∀ env request authority now ticket existingId existing,
      last.ledger.state.idempotency.get? request.idempotencyKey = some existingId ->
      last.ledger.state.actionRequests.get? existingId = some existing ->
      (canonicalActionHash config.ledger.codec request ≠ existing.requestHash -> ∃ error,
        step config env (.enqueueAction request authority now ticket) last = some (last, .error error)) ∧
      (canonicalActionHash config.ledger.codec request = existing.requestHash ->
        (∀ after result,
          step config env (.enqueueAction request authority now ticket) last = some (after, result) ->
          Unmoved ticket result last after) ∧
        (Admitted config env last request authority now ticket -> env.io = .written ->
          ∃ receipt, last.ledger.state.actions.get? existingId = some receipt ∧
            (last.commitRefs config env (enqueueAction config.ledger request authority now)).2 = .ok receipt ∧
            ∃ after,
              step config env (.enqueueAction request authority now ticket) last = some (after, .ok ()))) := by
  have valid := (run.sound initial).valid
  refine ⟨⟨valid.indexed, (run.sound initial).disk.indexed⟩, ?_⟩
  intro env request authority now ticket existingId existing indexed stored
  refine ⟨enqueueAction_conflicts indexed stored, fun same => ⟨fun after result taken => ?_, fun admitted written => ?_⟩⟩
  · exact enqueueAction_unmoved valid indexed taken
  · obtain ⟨receipt, retained, _⟩ := valid.indexed.resolved _ _ indexed
    have fits : config.ledger.codec.prettyBytes last.ledger.state ≤ config.ledger.limits.maxLedgerBytes := by
      obtain fresh | fits := run.fits initial
      · rw [fresh] at indexed
        cases indexed
      · exact fits
    have answered := enqueueAction_answered valid fits indexed stored same retained admitted written
    refine ⟨receipt, retained, answered, ?_⟩
    simp only [step, actionStep, System.afterCheck, admitted.checks]
    unfold enqueue
    dsimp only
    rw [answered]
    cases ticket with
    | none => exact ⟨_, rfl⟩
    | some ticket => exact ⟨_, rfl⟩

/-- The same navigation again is answered with its receipt, and another one under its key is refused. -/
theorem idempotency_index_exact_retried :
    ∃ last receipt, Reachable sampleConfig last ∧
      last.ledger.state.actions.get? firstRequest.actionId = some receipt ∧
      (last.commitRefs sampleConfig sampleEnv (enqueueAction sampleConfig.ledger firstRequest sampleTicket 30)).2 =
        .ok receipt ∧
      ∃ error, step sampleConfig sampleEnv
        (.enqueueAction { secondRequest with idempotencyKey := firstRequest.idempotencyKey } sampleTicket 30 none)
          last = some (last, .error error) := by
  obtain ⟨last, _, _, run, _, passed⟩ := HostRun.of_advances sampleConfig (.fresh sampleConfig) queuedOnce []
    (fun last _ _ => decide (last.ledger.state.idempotency.get? firstRequest.idempotencyKey = some firstRequest.actionId) &&
      decide (last.ledger.state.actionRequests.get? firstRequest.actionId = some firstRequest) &&
      (admitRequest sampleCodec sampleEnv.capabilities last.lifecycle last.intents last.ledger.state firstRequest
        sampleTicket 30 none).toBool &&
      (authorizeSpace last.ledger.state ⟨1⟩ sampleTicket 1 30 true).toBool) (by decide +kernel)
  simp only [Bool.and_eq_true, decide_eq_true_eq, toBool_ok] at passed
  obtain ⟨⟨⟨indexed, stored⟩, checks⟩, space⟩ := passed
  obtain ⟨_, retries⟩ := idempotency_index_exact run sample_initial
  obtain ⟨_, same⟩ := retries sampleEnv firstRequest sampleTicket 30 none _ _ indexed stored
  obtain ⟨receipt, retained, answered, _⟩ := (same (by decide +kernel)).2 ⟨checks, space⟩ rfl
  obtain ⟨other, _⟩ := retries sampleEnv { secondRequest with idempotencyKey := firstRequest.idempotencyKey } sampleTicket
    30 none _ _ indexed stored
  exact ⟨last, receipt, ⟨_, _, sample_initial, run⟩, retained, answered, other (by decide +kernel)⟩

def intentCodec : Codec := { sampleCodec with
  requestJson := fun request => bytes ("[\"" ++ request.requestId.text ++ "\",\"" ++ request.actionId.text ++ "\",\"" ++
    request.idempotencyKey.text ++ "\",\"" ++ request.spaceId.text ++ "\",null," ++ toString request.leaseEpoch ++
    ",\"evaluate\",\x7b\x7d,null]") }

def intentConfig : HostConfig := { ledger := { codec := intentCodec, limits := {} } }

def sensitiveRequest : ActionRequest :=
  let request := { firstRequest with operation := .evaluate }
  { request with requestHash := canonicalActionHash intentCodec request }

def evaluatingEnv : Environment := { sampleEnv with capabilities := [.snapshot, .action, .evaluate] }

def sampleIntent : UserIntentTicket where
  token := .intent 20 1
  spaceId := ⟨1⟩
  pageId := none
  documentGeneration := none
  leaseEpoch := 1
  actionHash := sensitiveRequest.requestHash
  profileBindingId := none
  connectionEpoch := 1
  connectionNonce := sampleNonce
  expiresAt := 520

def confirmedOnce : List Label := sampleStart ++
  [(evaluatingEnv, .confirmUserIntent sensitiveRequest sampleTicket 20 500),
   (evaluatingEnv, .enqueueAction sensitiveRequest sampleTicket 30 (some sampleIntent))]


/-- The retry of a confirmed action with the same arguments is refused, since its ticket is spent. -/
theorem idempotent_retry_needs_ticket :
    ∃ last, Reachable intentConfig last ∧
      last.ledger.state.idempotency.get? sensitiveRequest.idempotencyKey = some sensitiveRequest.actionId ∧
      last.ledger.state.actionRequests.get? sensitiveRequest.actionId = some sensitiveRequest ∧
      ∃ error, step intentConfig evaluatingEnv (.enqueueAction sensitiveRequest sampleTicket 40 (some sampleIntent)) last =
        some (last, .error error) := by
  obtain ⟨last, _, _, run, _, passed⟩ := HostRun.of_advances intentConfig (.fresh intentConfig) confirmedOnce []
    (fun last _ _ => decide (last.ledger.state.idempotency.get? sensitiveRequest.idempotencyKey =
        some sensitiveRequest.actionId) &&
      decide (last.ledger.state.actionRequests.get? sensitiveRequest.actionId = some sensitiveRequest) &&
      !(admitRequest intentConfig.ledger.codec evaluatingEnv.capabilities last.lifecycle last.intents last.ledger.state sensitiveRequest
        sampleTicket 40 (some sampleIntent)).toBool) (by decide +kernel)
  simp only [Bool.and_eq_true, decide_eq_true_eq] at passed
  obtain ⟨⟨indexed, stored⟩, refused⟩ := passed
  refine ⟨last, ⟨_, _, ⟨rfl, by decide⟩, run⟩, indexed, stored, ?_⟩
  simp only [step, actionStep, System.afterCheck]
  cases checks : admitRequest intentConfig.ledger.codec evaluatingEnv.capabilities last.lifecycle last.intents last.ledger.state
      sensitiveRequest sampleTicket 40 (some sampleIntent) with
  | error error => exact ⟨error, rfl⟩
  | ok =>
    rw [checks] at refused
    cases refused

end AgentycHost
