import AgentycHost.Safety.Idempotency
import AgentycHost.Safety.LeaseEpochs
import AgentycHost.System.Intents

set_option autoImplicit false

/-! # A confirmed intent is used once -/

namespace AgentycHost

open Shared

/-- The confirmation that issues the ticket. -/
structure Confirms (config : HostConfig) (request : ActionRequest) (authority : AuthorityTicket) (now ttl : Nat)
    (ticket : UserIntentTicket) (moment : Moment System Label) : Prop where
  made_by : moment.label.2 = .confirmUserIntent request authority now ttl
  issued : ∃ expiresAt,
    admitIntent config.ledger.codec moment.before.lifecycle moment.before.ledger.state request authority now ttl =
        .ok expiresAt ∧
      intentTicket config.ledger.codec moment.before.ledger.state request authority now expiresAt
        moment.before.intentNumber = .ok ticket

/-- The admission of an action that the ledger did not have, with the ticket. -/
structure AdmitsWith (request : ActionRequest) (authority : AuthorityTicket) (now : Timestamp)
    (ticket : UserIntentTicket) (moment : Moment System Label) : Prop where
  made_by : moment.label.2 = .enqueueAction request authority now (some ticket)
  fresh : moment.before.ledger.state.actions.get? request.actionId = none
  admitted : moment.after.ledger.state.actions.get? request.actionId ≠ none

/-- What an admission shares with the confirmation of its ticket. -/
structure BoundTo (config : HostConfig) (confirmed request : ActionRequest) (issued authority : AuthorityTicket)
    (confirm admission : LedgerState) : Prop where
  hash : canonicalActionHash config.ledger.codec request = canonicalActionHash config.ledger.codec confirmed
  spaceId : request.spaceId = confirmed.spaceId
  pageId : request.pageId = confirmed.pageId
  document : requestDocumentGeneration admission request = requestDocumentGeneration confirm confirmed
  leaseEpoch : request.leaseEpoch = confirmed.leaseEpoch
  connection : authority = issued

def Restarts (moment : Moment System Label) : Prop := ∃ failures, moment.label.2 = .restart failures

def Spent (token : ReconcileToken) (system : System) : Prop :=
  system.intents.get? token = none ∧ ∃ now number, token = .intent now number ∧ number < system.intentNumber

structure Confirmed (config : HostConfig) (trace : List (Moment System Label)) (system : System) : Prop where
  named : ∀ token ticket, system.intents.get? token = some ticket -> ticket.token = token ∧
    ∃ now number, token = .intent now number ∧ number < system.intentNumber
  issued : ∀ token ticket, system.intents.get? token = some ticket ->
    Since (fun moment => ∃ request authority now ttl, Confirms config request authority now ttl ticket moment)
      Restarts trace

variable {config : HostConfig} {env : Environment} {before after start last : System}
  {trace : List (Moment System Label)} {request confirmed : ActionRequest} {authority issued : AuthorityTicket}
  {now ttl issuedAt : Nat} {ticket : UserIntentTicket} {moment : Moment System Label} {result : Except HostError Unit}
  {token : ReconcileToken} {state : LedgerState}

theorem intentMatches_iff {intents : Table ReconcileToken UserIntentTicket} :
    intentMatches intents state request authority now ticket = true <->
      now < ticket.expiresAt ∧ ticket.spaceId = request.spaceId ∧ ticket.pageId = request.pageId ∧
        ticket.documentGeneration = requestDocumentGeneration state request ∧ ticket.leaseEpoch = request.leaseEpoch ∧
        ticket.actionHash = request.requestHash ∧ ticket.profileBindingId = authority.profileBindingId ∧
        ticket.connectionEpoch = authority.connectionEpoch ∧ ticket.connectionNonce = authority.connectionNonce ∧
        intents.get? ticket.token = some ticket := by
  simp only [intentMatches, Bool.and_eq_true, decide_eq_true_eq, beq_iff_eq, and_assoc]

theorem intentTicket_ok {codec : Codec} {expiresAt number : Nat}
    (made : intentTicket codec state request authority now expiresAt number = .ok ticket) :
    ticket = {
      token := .intent now number, spaceId := request.spaceId, pageId := request.pageId,
      documentGeneration := requestDocumentGeneration state request, leaseEpoch := request.leaseEpoch,
      actionHash := canonicalActionHash codec request, profileBindingId := authority.profileBindingId,
      connectionEpoch := authority.connectionEpoch, connectionNonce := authority.connectionNonce, expiresAt } := by
  unfold intentTicket at made
  split at made
  · cases made
    rfl
  · simp only [bind_ok, pure_ok] at made
    obtain ⟨_, _, rfl⟩ := made
    rfl

theorem confirmIntent_kept (config : HostConfig) (request : ActionRequest) (authority : AuthorityTicket) (now ttl : Nat)
    (system : System) :
    ((confirmIntent config request authority now ttl system).1.intentNumber = system.intentNumber ∧
      ∀ token ticket, (confirmIntent config request authority now ttl system).1.intents.get? token = some ticket ->
        system.intents.get? token = some ticket) ∨
    ∃ expiresAt ticket,
      admitIntent config.ledger.codec system.lifecycle system.ledger.state request authority now ttl = .ok expiresAt ∧
      intentTicket config.ledger.codec system.ledger.state request authority now expiresAt system.intentNumber =
        .ok ticket ∧
      (confirmIntent config request authority now ttl system).1.intentNumber = system.intentNumber + 1 ∧
      ∀ token other, (confirmIntent config request authority now ttl system).1.intents.get? token = some other ->
        system.intents.get? token = some other ∨ token = ticket.token ∧ other = ticket := by
  have dropped : ∀ token other,
      (system.intents.filter fun _ ticket => decide (now < ticket.expiresAt)).get? token = some other ->
        system.intents.get? token = some other := by
    intro token other found
    rw [Table.get?_filter, Option.filter_eq_some_iff] at found
    exact found.1
  unfold confirmIntent
  split
  · exact .inl ⟨rfl, fun _ _ found => found⟩
  · next expiresAt allowed =>
    dsimp only
    split
    · exact .inl ⟨rfl, dropped⟩
    · next ticket made =>
      refine .inr ⟨expiresAt, ticket, allowed, made, rfl, fun token other found => ?_⟩
      dsimp only at found
      rw [Table.get?_insert] at found
      split_ifs at found with same
      · exact .inr ⟨same, (Option.some.inj found).symm⟩
      · exact .inl (dropped token other found)

theorem enqueue_intents (taken : step config env (.enqueueAction request authority now (some ticket)) before =
      some (after, result)) :
    (∃ error, result = .error error ∧ after.intents = before.intents ∧ after.ledger.state = before.ledger.state) ∨
      result = .ok () ∧ after.intents = before.intents.erase ticket.token ∧
        intentMatches before.intents before.ledger.state request authority now ticket = true ∧
        request.requestHash = canonicalActionHash config.ledger.codec request ∧
        ∃ receipt state,
          (enqueueAction config.ledger request authority now before.registry before.ledger.state).2 =
            .ok (receipt, state) ∧
          after.ledger.state = drainEvents config.ledger.limits state := by
  simp only [step, actionStep, System.afterCheck] at taken
  split at taken
  · cases taken
    exact .inl ⟨_, rfl, rfl, rfl⟩
  · next checks =>
    unfold enqueue System.commitRefs at taken
    simp only [admitRequest, bind_ok, require_ok, beq_iff_eq] at checks
    obtain ⟨_, _, _, hashed, _, intended, _⟩ := checks
    have matched : intentMatches before.intents before.ledger.state request authority now ticket = true := by
      unfold checkIntent at intended
      split_ifs at intended with sensitive
      · simpa only [bind_ok, orElse_ok, Option.some.injEq, exists_eq_left', require_ok] using intended
      · simp [require_ok] at intended
    rcases before.ledger.update_cases config.ledger env.io
        (fun state => (enqueueAction config.ledger request authority now before.registry state).2) with
      ⟨error, failed⟩ | ⟨receipt, state, kept, moved, drained, _, done | ⟨error, failed⟩⟩
    · rw [failed] at taken
      cases taken
      exact .inl ⟨error, rfl, rfl, rfl⟩
    · rw [done] at taken
      cases taken
      exact .inr ⟨rfl, rfl, matched, hashed, receipt, state, moved, drained⟩
    · rw [failed] at taken
      cases taken
      exact .inl ⟨error, rfl, rfl, rfl⟩

theorem enqueue_number {offered : Option UserIntentTicket}
    (taken : step config env (.enqueueAction request authority now offered) before = some (after, result)) :
    after.intentNumber = before.intentNumber ∧
      ∀ token ticket, after.intents.get? token = some ticket -> before.intents.get? token = some ticket := by
  simp only [step, actionStep, System.afterCheck] at taken
  split at taken
  · cases taken
    exact ⟨rfl, fun _ _ found => found⟩
  · unfold enqueue at taken
    dsimp only at taken
    split at taken <;> cases taken
    · refine ⟨rfl, fun token other found => ?_⟩
      dsimp only at found
      rw [Table.get?_erase] at found
      split_ifs at found
      exact found
    · exact ⟨rfl, fun _ _ found => found⟩
    · exact ⟨rfl, fun _ _ found => found⟩

theorem next_intents (taken : next config moment.label moment.before = some moment.after)
    (unrestarted : ¬ Restarts moment) :
    moment.before.intentNumber ≤ moment.after.intentNumber ∧
      ∀ token ticket, moment.after.intents.get? token = some ticket ->
        moment.before.intents.get? token = some ticket ∨
          token = ticket.token ∧ (∃ now, token = .intent now moment.before.intentNumber) ∧
            moment.before.intentNumber < moment.after.intentNumber ∧
            ∃ request authority now ttl, Confirms config request authority now ttl ticket moment := by
  obtain ⟨result, replied⟩ := next_step taken
  cases named : moment.label.2.movesIntents with
  | false =>
    obtain ⟨intents, number⟩ := step_intents named replied
    rw [intents, number]
    exact ⟨le_rfl, fun _ _ found => .inl found⟩
  | true =>
    generalize made : moment.label.2 = command at named replied
    cases command with
    | confirmUserIntent request authority now ttl =>
      have same : moment.after = (confirmIntent config request authority now ttl moment.before).1 := AgentycHost.replied replied
      rw [same]
      rcases confirmIntent_kept config request authority now ttl moment.before with
        ⟨number, kept⟩ | ⟨expiresAt, ticket, allowed, issues, number, kept⟩
      · exact ⟨number.ge, fun token ticket found => .inl (kept token ticket found)⟩
      · refine ⟨number ▸ Nat.le_succ _, fun token other found => ?_⟩
        rcases kept token other found with old | ⟨rfl, rfl⟩
        · exact .inl old
        · refine .inr ⟨rfl, ⟨now, ?_⟩, number ▸ Nat.lt_succ_self _, request, authority, now, ttl, made, expiresAt, allowed,
            issues⟩
          rw [intentTicket_ok issues]
    | enqueueAction request authority now offered =>
      obtain ⟨number, kept⟩ := enqueue_number replied
      exact ⟨number.ge, fun token ticket found => .inl (kept token ticket found)⟩
    | restart failures => exact absurd ⟨failures, made⟩ unrestarted
    | _ => cases named

theorem HostRun.intentsConfirmed (run : HostRun config start trace last) (initial : Initial config start) :
    Confirmed config trace last := by
  induction run with
  | nil =>
    have empty : start.intents = ∅ := by rw [initial.fresh]; rfl
    exact ⟨fun token ticket found => by simp [empty] at found, fun token ticket found => by simp [empty] at found⟩
  | @step trace before after label earlier taken ih =>
    by_cases restarts : Restarts (⟨before, label, after⟩ : Moment System Label)
    · obtain ⟨failures, restarts⟩ := restarts
      obtain ⟨_, replied⟩ := next_step taken
      rw [show label.2 = .restart failures from restarts] at replied
      obtain ⟨_, _, changed⟩ := restart_cases replied
      have empty : after.intents = ∅ := by rw [changed]; rfl
      exact ⟨fun token ticket found => by simp [empty] at found, fun token ticket found => by simp [empty] at found⟩
    · obtain ⟨later, kept⟩ := @next_intents config ⟨before, label, after⟩ taken restarts
      refine ⟨fun token ticket found => ?_, fun token ticket found => since_cons.mpr ?_⟩
      · rcases kept token ticket found with old | ⟨rfl, ⟨issuedAt, numbered⟩, grown, _⟩
        · obtain ⟨same, issuedAt, number, numbered, bound⟩ := ih.named token ticket old
          exact ⟨same, issuedAt, number, numbered, Nat.lt_of_lt_of_le bound later⟩
        · exact ⟨rfl, issuedAt, before.intentNumber, numbered, grown⟩
      · rcases kept token ticket found with old | ⟨_, _, _, confirms⟩
        · exact .inr ⟨ih.issued token ticket old, restarts⟩
        · exact .inl confirms

theorem Spent.step (spent : Spent token moment.before) (unrestarted : ¬ Restarts moment)
    (taken : next config moment.label moment.before = some moment.after) : Spent token moment.after := by
  obtain ⟨gone, issuedAt, number, rfl, bound⟩ := spent
  obtain ⟨later, kept⟩ := next_intents taken unrestarted
  refine ⟨?_, issuedAt, number, rfl, Nat.lt_of_lt_of_le bound later⟩
  cases found : moment.after.intents.get? (.intent issuedAt number) with
  | none => rfl
  | some ticket =>
    rcases kept _ ticket found with old | ⟨_, ⟨_, numbered⟩, _⟩
    · rw [gone] at old
      cases old
    · cases numbered
      exact absurd bound (lt_irrefl _)

theorem AdmitsWith.used (admits : AdmitsWith request authority now ticket moment)
    (taken : next config moment.label moment.before = some moment.after) :
    intentMatches moment.before.intents moment.before.ledger.state request authority now ticket = true ∧
      request.requestHash = canonicalActionHash config.ledger.codec request ∧
      authorizeSpace moment.before.ledger.state request.spaceId authority request.leaseEpoch now true = .ok () ∧
      moment.after.intents = moment.before.intents.erase ticket.token := by
  obtain ⟨result, replied⟩ := next_step taken
  rw [admits.made_by] at replied
  rcases enqueue_intents replied with ⟨_, _, _, same⟩ | ⟨_, spent, matched, hashed, receipt, state, run, drained⟩
  · exact absurd (same ▸ admits.fresh) admits.admitted
  · refine ⟨matched, hashed, ?_, spent⟩
    rcases enqueueAction_ok run with rfl | ⟨allowed, _⟩
    · exact absurd (drained ▸ admits.fresh) admits.admitted
    · exact allowed

/-- A ticket admits at most one new action, which is bound to its confirmation in every part and comes before the
ticket expires; an admission that fails keeps the ticket. -/
theorem user_intent_admits_once (initial : Initial config start) (run : HostRun config start trace last)
    (ticket : UserIntentTicket) :
    (∀ later second between first earlier, trace = later ++ second :: (between ++ first :: earlier) ->
      ∀ request authority now again other time,
        AdmitsWith request authority now ticket first -> ¬ AdmitsWith again other time ticket second) ∧
    (∀ later admission earlier, trace = later ++ admission :: earlier ->
      ∀ request authority now, AdmitsWith request authority now ticket admission ->
        ∃ confirm confirmed issued issuedAt ttl, confirm ∈ earlier ∧
          Confirms config confirmed issued issuedAt ttl ticket confirm ∧
          BoundTo config confirmed request issued authority confirm.before.ledger.state admission.before.ledger.state ∧
          now < issuedAt + ttl) ∧
    (∀ moment error request authority now, moment ∈ trace ->
      moment.label.2 = .enqueueAction request authority now (some ticket) ->
      step config moment.label.1 moment.label.2 moment.before = some (moment.after, .error error) ->
      moment.after.intents = moment.before.intents) := by
  refine ⟨?_, ?_, ?_⟩
  · rintro later second between first earlier rfl request authority now again other time one two
    obtain ⟨upto, taken⟩ := run.before_moment
    obtain ⟨early, spends⟩ := upto.before_moment
    have sound := HostRun.sound early initial
    obtain ⟨matched, _, allowed, spent⟩ := one.used spends
    obtain ⟨matched_again, _, again_allowed, _⟩ := two.used taken
    obtain ⟨_, space, _, _, epoch, _, _, _, _, stored⟩ := intentMatches_iff.mp matched
    obtain ⟨_, again_space, _, _, again_epoch, _, _, _, _, again_stored⟩ := intentMatches_iff.mp matched_again
    rw [← again_space, ← again_epoch, space, epoch] at again_allowed
    have between_later := HostRun.later (sound.step spends) upto.after_moment
    have order := (sound.later spends).trans between_later
    obtain ⟨_, standing, _⟩ := authorizeSpace_standing allowed
    obtain ⟨same, _⟩ := order.authorized_alike (HostRun.numbered early initial _ (by simp [standing])) allowed again_allowed
    -- no restart comes between the two, so the token stays spent
    have broker : second.before.ledger.state.brokerEpoch = first.after.ledger.state.brokerEpoch :=
      Nat.le_antisymm (same ▸ (sound.later spends).brokerEpoch) between_later.brokerEpoch
    have spent_first : Spent ticket.token first.after := by
      obtain ⟨_, issuedAt, number, numbered, bound⟩ := (HostRun.intentsConfirmed early initial).named _ _ stored
      have unrestarted : ¬ Restarts first := by
        rintro ⟨_, restarts⟩
        rw [one.made_by] at restarts
        cases restarts
      refine ⟨by rw [spent, Table.get?_erase, if_pos rfl], issuedAt, number, numbered,
        Nat.lt_of_lt_of_le bound (next_intents spends unrestarted).1⟩
    have kept := HostRun.keeps_within_broker (Spent ticket.token) (sound.step spends) upto.after_moment broker spent_first
      fun moment _ _ _ taken unrestarted spent => spent.step (fun restarts => restarts.elim unrestarted) taken
    rw [kept.1] at again_stored
    cases again_stored
  · rintro later admission earlier rfl request authority now admits
    obtain ⟨upto, taken⟩ := run.before_moment
    obtain ⟨matched, hashed, allowed, _⟩ := admits.used taken
    obtain ⟨unexpired, space, page, document, epoch, hash, profile, connection, nonce, stored⟩ :=
      intentMatches_iff.mp matched
    obtain ⟨since, confirm, before, rfl, ⟨confirmed, issued, issuedAt, ttl, confirms⟩, _⟩ :=
      (HostRun.intentsConfirmed upto initial).issued _ _ stored
    obtain ⟨early, confirming⟩ := upto.before_moment
    obtain ⟨made_by, expiresAt, admitted, issues⟩ := confirms
    have made := intentTicket_ok issues
    subst made
    dsimp only at space page document epoch hash profile connection nonce unexpired
    have checks := admitted
    simp only [admitIntent, bind_ok, require_ok, orElse_ok, pure_ok, checkedAdd, Option.ite_none_right_eq_some,
      Option.some.injEq] at checks
    obtain ⟨_, _, _, _, _, ⟨_, expiry⟩, _, _, _, _, _, granted, rfl⟩ := checks
    rw [← space, ← epoch] at allowed
    -- the confirmation and the admission are authorized in one epoch
    have order := (HostRun.sound early initial |>.later confirming).trans
      (HostRun.later ((HostRun.sound early initial).step confirming) upto.after_moment)
    obtain ⟨_, standing, _⟩ := authorizeSpace_standing granted
    obtain ⟨_, alike⟩ := order.authorized_alike (HostRun.numbered early initial _ (by simp [standing])) granted allowed
    simp only [Prod.mk.injEq] at alike
    refine ⟨confirm, confirmed, issued, issuedAt, ttl, by simp, ⟨made_by, _, admitted, issues⟩, ?_, expiry ▸ unexpired⟩
    refine ⟨hashed ▸ hash.symm, space.symm, page.symm, document.symm, epoch.symm, ?_⟩
    obtain ⟨_, _, _, _, _⟩ := authority
    obtain ⟨_, _, _, _, _⟩ := issued
    simp only [AuthorityTicket.mk.injEq]
    exact ⟨alike.1, alike.2.1, alike.2.2, profile.symm, nonce.symm⟩
  · intro moment error request authority now _ made_by refused
    rw [made_by] at refused
    rcases enqueue_intents refused with ⟨_, _, same, _⟩ | ⟨done, _⟩
    · exact same
    · cases done

def admitsSample : List (Moment System Label) -> Bool
  | [⟨before, (_, .enqueueAction request authority now (some ticket)), after⟩] =>
      decide ((request, authority, now, ticket) = (sensitiveRequest, sampleTicket, 30, sampleIntent)) &&
        decide (before.ledger.state.actions.get? request.actionId = none) &&
        decide (after.ledger.state.actions.get? request.actionId ≠ none)
  | _ => false

/-- The confirmed evaluation of the sample is bound to its confirmation. -/
theorem user_intent_admits_once_evaluation :
    ∃ start trace last admission, HostRun intentConfig start trace last ∧ admission ∈ trace ∧
      AdmitsWith sensitiveRequest sampleTicket 30 sampleIntent admission ∧
      ∃ confirm confirmed issued issuedAt ttl, confirm ∈ trace ∧
        Confirms intentConfig confirmed issued issuedAt ttl sampleIntent confirm ∧
        BoundTo intentConfig confirmed sensitiveRequest issued sampleTicket confirm.before.ledger.state
          admission.before.ledger.state := by
  obtain ⟨middle, last, later, early, late, passed⟩ :=
    HostRun.of_advances intentConfig (.fresh intentConfig) (confirmedOnce.take 4) (confirmedOnce.drop 4)
      (fun _ _ later => admitsSample later) (by decide +kernel)
  unfold admitsSample at passed
  split at passed
  · next before env request authority now ticket after =>
    simp only [Bool.and_eq_true, decide_eq_true_eq, Prod.mk.injEq] at passed
    obtain ⟨⟨⟨rfl, rfl, rfl, rfl⟩, fresh⟩, admitted⟩ := passed
    have run := early.append late
    obtain ⟨_, bound, _⟩ := user_intent_admits_once ⟨rfl, by decide +kernel⟩ run sampleIntent
    obtain ⟨confirm, confirmed, issued, issuedAt, ttl, inside, confirms, same, _⟩ :=
      bound [] _ _ rfl sensitiveRequest sampleTicket 30 ⟨rfl, fresh, admitted⟩
    exact ⟨_, _, last, _, run, List.mem_cons_self, ⟨rfl, fresh, admitted⟩, confirm, confirmed, issued, issuedAt, ttl,
      List.mem_cons_of_mem _ inside, confirms, same⟩
  · cases passed

end AgentycHost
