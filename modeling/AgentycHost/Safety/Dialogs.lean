import AgentycHost.Policy.Dialogs
import AgentycHost.Safety.IntentTickets

set_option autoImplicit false

/-! # Dialogs and their authority -/

namespace AgentycHost

open Shared

variable {state before after last : DialogState} {call : DialogCall} {record : DialogRecord}
  {resolution : DialogResolution} {trace later earlier : List (Moment DialogState DialogCall)}
  {moment : Moment DialogState DialogCall} {scope : PolicyScope}

def openedIn (moment : Moment DialogState DialogCall) : Option DialogRecord := moment.before.opens moment.label

def resolvedIn (moment : Moment DialogState DialogCall) : Option DialogResolution := moment.before.resolves moment.label

/-- The space is paused, or the ticket that is presented can be spent for the scope and the boundary. -/
def AuthorizedDialog (state : DialogState) (scope : PolicyScope) (boundary : SensitiveBoundary)
    (offered : Option IntentTicket) : Prop :=
  state.policy.store.isPaused scope.spaceId = true ∨ ∃ presented binding, offered = some presented ∧
    binding.scope = scope ∧ binding.boundary = boundary ∧
    Spendable state.policy.store binding presented state.policy.now

section Operations

inductive DialogMove (state : DialogState) :
    DialogCall -> DialogState -> Option DialogRecord -> Option DialogResolution -> Prop where
  | policy {call : PolicyCall} : DialogMove state (.policy call) { state with policy := state.policy.next call } none none
  | failed {call : DialogCall} : DialogMove state call state none none
  | opened {request : DialogRequest} {record : DialogRecord} (placed : record.scope = request.scope)
      (numbered : record.dialogId = state.manager.nextId + 1) :
      DialogMove state (.opening request)
        { state with manager := ⟨record.dialogId, state.manager.pending.insert record.scope record⟩ } (some record) none
  | resolved {scope : PolicyScope} {decision : DialogDecision} {binding : Option IntentBinding}
      {offered : Option IntentTicket} {record : DialogRecord} (store : IntentTicketStore)
      (pending : state.manager.pending.get? scope = some record)
      (authorized : ∀ boundary, record.kind.sensitiveBoundary = some boundary ->
        AuthorizedDialog state scope boundary offered) :
      DialogMove state (.resolve scope decision binding offered)
        { manager := { state.manager with pending := state.manager.pending.erase scope }
          policy := { state.policy with store } }
        none (some ⟨record.dialogId, record.scope, decision.text⟩)

theorem openDialog_move (state : DialogState) (request : DialogRequest) :
    DialogMove state (.opening request) (state.next (.opening request)) (state.opens (.opening request))
      (state.resolves (.opening request)) := by
  unfold DialogState.next DialogState.opens DialogState.resolves DialogManager.openDialog
  dsimp only
  split
  next => exact .failed
  next dialogId checked =>
    simp only [DialogManager.checkOpen, bind_ok, orElse_ok] at checked
    obtain ⟨_, _, _, _, counted⟩ := checked
    obtain ⟨_, rfl⟩ := checkedNext_eq_some.mp counted
    have opened : DialogMove state (.opening request) _ (some (DialogManager.dialogRecord request (state.manager.nextId + 1)))
        none := .opened rfl rfl
    exact opened

theorem admitDialog_cases (state : DialogState) (record : DialogRecord) (scope : PolicyScope)
    (binding : Option IntentBinding) (offered : Option IntentTicket) :
    (∃ error, DialogManager.admitDialog record scope binding offered state.policy.store state.policy.now =
      (state.policy.store, .error error)) ∨
    ∃ store, DialogManager.admitDialog record scope binding offered state.policy.store state.policy.now =
      (store, .ok ()) ∧ ∀ boundary, record.kind.sensitiveBoundary = some boundary ->
        AuthorizedDialog state scope boundary offered := by
  unfold DialogManager.admitDialog
  split
  next plain =>
    refine .inr ⟨_, rfl, ?_⟩
    intro boundary sensitive
    rw [plain] at sensitive
    cases sensitive
  next => exact .inl ⟨_, rfl⟩
  next boundary binding sensitive =>
    split_ifs with other
    · exact .inl ⟨_, rfl⟩
    · obtain ⟨here, same⟩ := not_or.mp other
      have here := not_not.mp here
      have same := not_not.mp same
      dsimp only
      obtain ⟨result, kept, unspent, paused⟩ | ⟨presented, rfl, spendable, admitted⟩ :=
        authorize_move state.policy.store binding offered state.policy.now
      · rw [kept]
        cases result with
        | error error => exact .inl ⟨error, rfl⟩
        | ok outcome =>
          cases outcome with
          | ticket => exact absurd rfl unspent
          | paused => exact .inr ⟨_, rfl, fun _ _ => .inl (here ▸ paused rfl)⟩
      · rw [admitted]
        refine .inr ⟨_, rfl, ?_⟩
        intro boundary' sensitive'
        rw [sensitive] at sensitive'
        cases sensitive'
        exact .inr ⟨presented, binding, rfl, here, same, spendable⟩

theorem resolveDialog_move (state : DialogState) (scope : PolicyScope) (decision : DialogDecision)
    (binding : Option IntentBinding) (offered : Option IntentTicket) :
    DialogMove state (.resolve scope decision binding offered) (state.next (.resolve scope decision binding offered))
      (state.opens (.resolve scope decision binding offered))
      (state.resolves (.resolve scope decision binding offered)) := by
  unfold DialogState.next DialogState.opens DialogState.resolves DialogState.resolution DialogManager.resolve
  dsimp only
  cases pending : state.manager.pending.get? scope with
  | none => exact .failed
  | some record =>
    dsimp only
    obtain ⟨error, refused⟩ | ⟨store, admitted, authorized⟩ := admitDialog_cases state record scope binding offered
    · rw [refused]
      exact .failed
    · rw [admitted]
      exact .resolved store pending authorized

theorem dialog_move (state : DialogState) (call : DialogCall) :
    DialogMove state call (state.next call) (state.opens call) (state.resolves call) := by
  cases call with
  | policy call => exact .policy
  | opening request => exact openDialog_move state request
  | resolve scope decision binding offered => exact resolveDialog_move state scope decision binding offered

end Operations

section Histories

/-- The numbers of the dialogs that were resolved, latest first. -/
def resolvedDialogs (trace : List (Moment DialogState DialogCall)) : List Nat :=
  (trace.filterMap resolvedIn).map DialogResolution.dialogId

def OpenedIn (trace : List (Moment DialogState DialogCall)) (record : DialogRecord) : Prop :=
  ∃ moment, moment ∈ trace ∧ openedIn moment = some record

structure PendingDialogs (trace : List (Moment DialogState DialogCall)) (manager : DialogManager) : Prop where
  placed : ∀ scope record, manager.pending.get? scope = some record -> record.scope = scope ∧ OpenedIn trace record
  numbered : ∀ scope record, manager.pending.get? scope = some record -> record.dialogId ≤ manager.nextId
  unique : ∀ scope other record record', manager.pending.get? scope = some record ->
    manager.pending.get? other = some record' -> record.dialogId = record'.dialogId -> scope = other
  resolved : ∀ dialogId, dialogId ∈ resolvedDialogs trace -> dialogId ≤ manager.nextId
  gone : ∀ scope record, manager.pending.get? scope = some record -> record.dialogId ∉ resolvedDialogs trace

theorem OpenedIn.cons (opened : OpenedIn trace record) : OpenedIn (moment :: trace) record := by
  obtain ⟨first, inside, made⟩ := opened
  exact ⟨first, List.mem_cons_of_mem _ inside, made⟩

theorem resolvedDialogs_none (nothing : resolvedIn moment = none) :
    resolvedDialogs (moment :: trace) = resolvedDialogs trace := by
  simp [resolvedDialogs, nothing]

theorem resolvedDialogs_some (done : resolvedIn moment = some resolution) :
    resolvedDialogs (moment :: trace) = resolution.dialogId :: resolvedDialogs trace := by
  simp [resolvedDialogs, done]

theorem pending_nil : PendingDialogs [] .fresh where
  placed := by rintro _ _ ⟨⟩
  numbered := by rintro _ _ ⟨⟩
  unique := by rintro _ _ _ _ ⟨⟩
  resolved := by rintro _ ⟨⟩
  gone := by rintro _ _ ⟨⟩

theorem PendingDialogs.kept {manager : DialogManager} (pending : PendingDialogs trace manager)
    (nothing : resolvedIn moment = none) : PendingDialogs (moment :: trace) manager where
  placed scope record found := (pending.placed scope record found).imp_right .cons
  numbered := pending.numbered
  unique := pending.unique
  resolved := by
    rw [resolvedDialogs_none nothing]
    exact pending.resolved
  gone := by
    rw [resolvedDialogs_none nothing]
    exact pending.gone

theorem PendingDialogs.opened (pending : PendingDialogs trace state.manager) (made : openedIn moment = some record)
    (nothing : resolvedIn moment = none) (numbered : record.dialogId = state.manager.nextId + 1) :
    PendingDialogs (moment :: trace) ⟨record.dialogId, state.manager.pending.insert record.scope record⟩ := by
  have cases_of : ∀ scope found, (state.manager.pending.insert record.scope record).get? scope = some found ->
      scope = record.scope ∧ found = record ∨ state.manager.pending.get? scope = some found := by
    intro scope found there
    rw [Table.get?_insert] at there
    split_ifs at there with same
    · exact .inl ⟨same, (Option.some.inj there).symm⟩
    · exact .inr there
  constructor
  case placed =>
    intro scope found there
    obtain ⟨rfl, rfl⟩ | earlier := cases_of scope found there
    · exact ⟨rfl, _, List.mem_cons_self, made⟩
    · exact (pending.placed scope found earlier).imp_right .cons
  case numbered =>
    intro scope found there
    dsimp only
    obtain ⟨rfl, rfl⟩ | earlier := cases_of scope found there
    · exact Nat.le_refl _
    · have older := pending.numbered scope found earlier
      omega
  case unique =>
    intro scope other found found' there there' same
    obtain ⟨rfl, rfl⟩ | earlier := cases_of scope found there
    · obtain ⟨rfl, _⟩ | earlier' := cases_of other found' there'
      · rfl
      · have older := pending.numbered other found' earlier'
        omega
    · obtain ⟨rfl, rfl⟩ | earlier' := cases_of other found' there'
      · have older := pending.numbered scope found earlier
        omega
      · exact pending.unique scope other found found' earlier earlier' same
  case resolved =>
    rw [resolvedDialogs_none nothing]
    intro dialogId done
    have older := pending.resolved dialogId done
    dsimp only
    omega
  case gone =>
    rw [resolvedDialogs_none nothing]
    intro scope found there done
    obtain ⟨rfl, rfl⟩ | earlier := cases_of scope found there
    · have older := pending.resolved _ done
      omega
    · exact pending.gone scope found earlier done

theorem PendingDialogs.ended (pending : PendingDialogs trace state.manager)
    (found : state.manager.pending.get? scope = some record) (done : resolvedIn moment = some resolution)
    (own : resolution.dialogId = record.dialogId) :
    PendingDialogs (moment :: trace) { state.manager with pending := state.manager.pending.erase scope } := by
  have cases_of : ∀ other left, (state.manager.pending.erase scope).get? other = some left ->
      other ≠ scope ∧ state.manager.pending.get? other = some left := by
    intro other left there
    rw [Table.get?_erase] at there
    split_ifs at there with same
    exact ⟨same, there⟩
  constructor
  case placed => exact fun other left there => (pending.placed other left (cases_of other left there).2).imp_right .cons
  case numbered => exact fun other left there => pending.numbered other left (cases_of other left there).2
  case unique =>
    exact fun one other left left' there there' => pending.unique one other left left' (cases_of one left there).2
      (cases_of other left' there').2
  case resolved =>
    rw [resolvedDialogs_some done, own]
    intro dialogId inside
    obtain rfl | earlier := List.mem_cons.mp inside
    · exact pending.numbered scope record found
    · exact pending.resolved dialogId earlier
  case gone =>
    rw [resolvedDialogs_some done, own]
    intro other left there inside
    obtain ⟨distinct, before⟩ := cases_of other left there
    obtain same | earlier := List.mem_cons.mp inside
    · exact distinct (pending.unique other scope left record before found same)
    · exact pending.gone other left before earlier

theorem PendingDialogs.move {made : Option DialogRecord} {done : Option DialogResolution}
    (pending : PendingDialogs trace state.manager) (move : DialogMove state call after made done)
    (opens : openedIn moment = made) (resolves : resolvedIn moment = done) :
    PendingDialogs (moment :: trace) after.manager := by
  cases move with
  | policy => exact pending.kept resolves
  | failed => exact pending.kept resolves
  | opened _ numbered => exact pending.opened opens resolves numbered
  | resolved _ found _ => exact pending.ended found resolves rfl

theorem DialogRun.pending {policy : PolicyState} (run : DialogRun ⟨.fresh, policy⟩ trace last) :
    PendingDialogs trace last.manager := by
  induction run with
  | nil => exact pending_nil
  | step _ taken ih =>
    rw [taken]
    exact ih.move (dialog_move _ _) rfl rfl

end Histories

section Endings

variable {made : Option DialogRecord} {done : Option DialogResolution}

/-- The dialog is resolved, or another dialog of its scope takes its place. -/
def EndsDialog (record : DialogRecord) (moment : Moment DialogState DialogCall) : Prop :=
  (∃ resolution, resolvedIn moment = some resolution ∧ resolution.dialogId = record.dialogId ∧
    resolution.scope = record.scope) ∨
  ∃ replacement, openedIn moment = some replacement ∧ replacement.scope = record.scope

theorem DialogMove.leaves (move : DialogMove state call after made done) (opens : openedIn moment = made)
    (resolves : resolvedIn moment = done) (found : state.manager.pending.get? record.scope = some record) :
    after.manager.pending.get? record.scope = some record ∨ EndsDialog record moment := by
  cases move with
  | policy => exact .inl found
  | failed => exact .inl found
  | @opened _ replacement _ _ =>
    dsimp only
    rw [Table.get?_insert]
    split_ifs with same
    · exact .inr (.inr ⟨replacement, opens, same.symm⟩)
    · exact .inl found
  | @resolved scope _ _ _ other _ pending _ =>
    dsimp only
    rw [Table.get?_erase]
    split_ifs with same
    · rw [← same, found] at pending
      cases pending
      exact .inr (.inl ⟨_, resolves, rfl, rfl⟩)
    · exact .inl found

theorem DialogRun.lasts {start : DialogState} (run : DialogRun start later last)
    (found : start.manager.pending.get? record.scope = some record) :
    last.manager.pending.get? record.scope = some record ∨ ∃ moment, moment ∈ later ∧ EndsDialog record moment := by
  induction run with
  | nil => exact .inl found
  | @step later before after call _ taken ih =>
    obtain still | ⟨moment, inside, ended⟩ := ih
    · rw [taken]
      have leaves : _ ∨ EndsDialog record ⟨before, call, before.next call⟩ :=
        (dialog_move before call).leaves rfl rfl still
      obtain left | ended := leaves
      · exact .inl left
      · exact .inr ⟨_, List.mem_cons_self, ended⟩
    · exact .inr ⟨moment, List.mem_cons_of_mem _ inside, ended⟩

theorem DialogMove.opened_pending {made : DialogRecord} (move : DialogMove state call after (some made) done) :
    after.manager.pending.get? made.scope = some made := by
  cases move with
  | opened => exact Table.get?_insert_self _ _ _

theorem DialogMove.call_resolved (move : DialogMove state call after made (some resolution)) :
    ∃ scope decision binding offered record, call = .resolve scope decision binding offered ∧
      state.manager.pending.get? scope = some record ∧ resolution = ⟨record.dialogId, record.scope, decision.text⟩ ∧
      ∀ boundary, record.kind.sensitiveBoundary = some boundary -> AuthorizedDialog state scope boundary offered := by
  cases move with
  | resolved _ pending authorized => exact ⟨_, _, _, _, _, rfl, pending, rfl, authorized⟩

theorem DialogMove.unchanged {decision : DialogDecision} {binding : Option IntentBinding}
    {offered : Option IntentTicket}
    (move : DialogMove state (.resolve scope decision binding offered) after made none) :
    after = state := by
  cases move with
  | failed => rfl

end Endings

section Soundness

/-- The resolution is of the dialog that its scope has open, which was opened before, and the policy admits it. -/
structure ResolvesSoundly (earlier : List (Moment DialogState DialogCall)) (moment : Moment DialogState DialogCall)
    (resolution : DialogResolution) (record : DialogRecord) (decision : DialogDecision)
    (offered : Option IntentTicket) : Prop where
  called : ∃ binding, moment.label = .resolve record.scope decision binding offered
  opened : OpenedIn earlier record
  pending : moment.before.manager.pending.get? record.scope = some record
  named : resolution = ⟨record.dialogId, record.scope, decision.text⟩
  authorized : ∀ boundary, record.kind.sensitiveBoundary = some boundary ->
    AuthorizedDialog moment.before record.scope boundary offered

structure DialogsSound (trace : List (Moment DialogState DialogCall)) (last : DialogState) : Prop where
  lasts : ∀ later moment earlier record, trace = later ++ moment :: earlier -> openedIn moment = some record ->
    last.manager.pending.get? record.scope = some record ∨ ∃ ending, ending ∈ later ∧ EndsDialog record ending
  once : (resolvedDialogs trace).Nodup
  resolutions : ∀ later moment earlier resolution, trace = later ++ moment :: earlier ->
    resolvedIn moment = some resolution -> ∃ record decision offered,
      ResolvesSoundly earlier moment resolution record decision offered
  failures : ∀ moment scope decision binding offered, moment ∈ trace ->
    moment.label = .resolve scope decision binding offered -> resolvedIn moment = none -> moment.after = moment.before

theorem PendingDialogs.resolves (pending : PendingDialogs trace moment.before.manager)
    (done : resolvedIn moment = some resolution) : ∃ record decision offered,
      ResolvesSoundly trace moment resolution record decision offered := by
  have move := dialog_move moment.before moment.label
  rw [show moment.before.resolves moment.label = some resolution from done] at move
  obtain ⟨scope, decision, binding, offered, record, called, found, named, authorized⟩ := move.call_resolved
  obtain ⟨rfl, opened⟩ := pending.placed scope record found
  exact ⟨record, decision, offered, ⟨binding, called⟩, opened, found, named, authorized⟩

theorem DialogRun.once {policy : PolicyState} (run : DialogRun ⟨.fresh, policy⟩ trace last) :
    (resolvedDialogs trace).Nodup := by
  induction run with
  | nil => exact List.nodup_nil
  | @step trace before after call earlier _ ih =>
    cases done : resolvedIn ⟨before, call, after⟩ with
    | none => rwa [resolvedDialogs_none done]
    | some resolution =>
      have pending := DialogRun.pending earlier
      obtain ⟨record, _, _, sound⟩ := pending.resolves done
      have fresh := pending.gone _ _ sound.pending
      rw [resolvedDialogs_some done, sound.named]
      exact List.nodup_cons.mpr ⟨fresh, ih⟩

/-- A dialog stays open until it is resolved under its own number or another one of its scope is opened. -/
theorem dialogs_kept_until {policy : PolicyState} (run : DialogRun ⟨.fresh, policy⟩ trace last) :
    DialogsSound trace last where
  lasts := by
    rintro later moment earlier record rfl opened
    obtain ⟨_, taken⟩ := run.before_moment
    have move := dialog_move moment.before moment.label
    rw [show moment.before.opens moment.label = some record from opened, ← taken] at move
    exact DialogRun.lasts run.after_moment move.opened_pending
  once := DialogRun.once run
  resolutions := by
    rintro later moment earlier resolution rfl done
    obtain ⟨early, _⟩ := run.before_moment
    exact (DialogRun.pending early).resolves done
  failures := by
    intro moment scope decision binding offered inside called failed
    obtain ⟨_, _, _, taken, _⟩ := run.at_moment inside
    have move := dialog_move moment.before moment.label
    rw [show moment.before.resolves moment.label = none from failed, ← taken, called] at move
    exact move.unchanged

end Soundness

section Samples

def dialogNext (call : DialogCall) (state : DialogState) : Option DialogState := some (state.next call)

theorem dialog_reaches {start last : DialogState} {trace : List (Moment DialogState DialogCall)}
    (run : Run (fun call before after => dialogNext call before = some after) start trace last) :
    DialogRun start trace last := run.imp fun _ _ _ taken => (Option.some.inj taken).symm

def paymentDialog : DialogRequest where
  scope := (policyBinding .payment).scope
  kind := .payment
  message := ""
  defaultPrompt := none
  binding := some (policyBinding .payment)

def paymentIntent : IntentTicket := IntentTicketStore.boundTicket (policyBinding .payment) ⟨"intent-1", first_ticket⟩ 15

def paymentCalls : List DialogCall :=
  [.opening paymentDialog, .policy (.issue (policyBinding .payment) 5),
    .resolve paymentDialog.scope .accept (some (policyBinding .payment)) (some paymentIntent)]

/-- A payment is accepted with a ticket. -/
theorem payment_accepted : ∃ trace last, DialogRun ⟨.fresh, ⟨.fresh, 10⟩⟩ trace last ∧
    resolvedDialogs trace = [1] ∧ DialogsSound trace last := by
  obtain ⟨last, run, _⟩ := advance_reaches dialogNext ⟨.fresh, ⟨.fresh, 10⟩⟩ paymentCalls (fun _ => true) (by decide)
  have run := dialog_reaches run
  exact ⟨_, last, run, by decide, dialogs_kept_until run⟩

def NeverDropped (trace : List (Moment DialogState DialogCall)) (last : DialogState) : Prop :=
  ∀ record, OpenedIn trace record ->
    last.manager.pending.get? record.scope = some record ∨ record.dialogId ∈ resolvedDialogs trace

def plainDialog : DialogRequest where
  scope := (policyBinding .payment).scope
  kind := .alert
  message := ""
  defaultPrompt := none
  binding := none

/-- The second dialog of a scope takes the place of the first. -/
theorem first_dialog_dropped : ∃ trace last, DialogRun ⟨.fresh, ⟨.fresh, 10⟩⟩ trace last ∧ ¬ NeverDropped trace last := by
  obtain ⟨last, run, replaced⟩ := advance_reaches dialogNext ⟨.fresh, ⟨.fresh, 10⟩⟩
    [.opening plainDialog, .opening plainDialog]
    (fun last => (last.manager.pending.get? plainDialog.scope).any fun record => record.dialogId == 2) (by decide)
  have run := dialog_reaches run
  refine ⟨_, last, run, ?_⟩
  intro never
  have opened : OpenedIn (visits dialogNext [.opening plainDialog, .opening plainDialog] ⟨.fresh, ⟨.fresh, 10⟩⟩).reverse
      (DialogManager.dialogRecord plainDialog 1) := by
    refine ⟨_, List.mem_cons_of_mem _ List.mem_cons_self, ?_⟩
    rfl
  obtain still | resolved := never _ opened
  · rw [show (DialogManager.dialogRecord plainDialog 1).scope = plainDialog.scope from rfl] at still
    rw [still] at replaced
    cases replaced
  · cases resolved

end Samples

end AgentycHost
