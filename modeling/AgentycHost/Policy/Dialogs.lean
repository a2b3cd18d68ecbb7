import AgentycHost.Policy.Redaction
import AgentycHost.Policy.Tickets

set_option autoImplicit false

/-!
# Dialogs of pages

The registry keeps one pending dialog for each scope. A sensitive dialog is
resolved through the trace policy.
-/

namespace AgentycHost

open Shared

section Records

inductive DialogKind where
  | alert
  | confirm
  | prompt
  | beforeUnload
  | loginChallenge
  | payment
  | destructiveSubmit
  | permission
  deriving DecidableEq

def DialogKind.sensitiveBoundary : DialogKind -> Option SensitiveBoundary
  | .loginChallenge => some .loginChallenge
  | .payment => some .payment
  | .destructiveSubmit => some .destructiveSubmit
  | .permission => some .permission
  | .alert | .confirm | .prompt | .beforeUnload => none

structure DialogRequest where
  scope : PolicyScope
  kind : DialogKind
  message : String
  defaultPrompt : Option String
  binding : Option IntentBinding

structure DialogRecord where
  dialogId : Nat
  scope : PolicyScope
  kind : DialogKind
  message : String
  defaultPrompt : Option String
  deriving DecidableEq

inductive DialogDecision where
  | accept
  | cancel
  | dismiss

def DialogDecision.text : DialogDecision -> String
  | .accept => "accept"
  | .cancel => "cancel"
  | .dismiss => "dismiss"

structure DialogResolution where
  dialogId : Nat
  scope : PolicyScope
  decision : String
  deriving DecidableEq

end Records

section Manager

structure DialogManager where
  nextId : Nat
  pending : Table PolicyScope DialogRecord

namespace DialogManager

variable (manager : DialogManager)

def fresh : DialogManager where
  nextId := 0
  pending := ∅

def checkBinding (request : DialogRequest) : Except HostError Unit :=
  match request.binding with
  | some binding => do
      require (binding.scope == request.scope)
        (.new .permissionDenied "dialog policy binding does not match its logical scope")
      require (request.kind.sensitiveBoundary.all fun boundary => binding.boundary == boundary)
        (.new .permissionDenied "dialog policy boundary does not match its dialog kind")
  | none =>
      require request.kind.sensitiveBoundary.isNone
        (.new .userControlRequired "sensitive dialog requires a host policy binding")

def checkOpen (request : DialogRequest) : Except HostError Nat := do
  request.scope.validate
  checkBinding request
  orElse (checkedNext manager.nextId) (.invalidArgument "dialog identity sequence overflow")

def dialogRecord (request : DialogRequest) (dialogId : Nat) : DialogRecord where
  dialogId := dialogId
  scope := request.scope
  kind := request.kind
  message := redactText request.message
  defaultPrompt := request.defaultPrompt.map redactText

def openDialog (request : DialogRequest) : DialogManager × Except HostError DialogRecord :=
  match manager.checkOpen request with
  | .error error => (manager, .error error)
  | .ok dialogId =>
      let record := dialogRecord request dialogId
      ({ nextId := dialogId, pending := manager.pending.insert request.scope record }, .ok record)

def admitDialog (record : DialogRecord) (scope : PolicyScope) (binding : Option IntentBinding)
    (ticket : Option IntentTicket) (policy : IntentTicketStore) (now : Timestamp) :
    IntentTicketStore × Except HostError Unit :=
  match record.kind.sensitiveBoundary, binding with
  | none, _ => (policy, .ok ())
  | some _, none =>
      (policy, .error (.new .userControlRequired "sensitive dialog requires a host policy binding"))
  | some boundary, some binding =>
      if binding.scope ≠ scope ∨ binding.boundary ≠ boundary then
        (policy, .error (.new .permissionDenied "dialog resolution binding is not current"))
      else
        let (policy, outcome) := policy.authorize binding ticket now
        (policy, discard outcome)

def resolve (scope : PolicyScope) (decision : DialogDecision) (binding : Option IntentBinding)
    (ticket : Option IntentTicket) (policy : IntentTicketStore) (now : Timestamp) :
    DialogManager × IntentTicketStore × Except HostError DialogResolution :=
  match manager.pending.get? scope with
  | none => (manager, policy, .error (.new .capabilityUnavailable "logical dialog is no longer pending"))
  | some record =>
      match admitDialog record scope binding ticket policy now with
      | (policy, .error error) => (manager, policy, .error error)
      | (policy, .ok ()) =>
          ({ manager with pending := manager.pending.erase scope }, policy,
            .ok ⟨record.dialogId, record.scope, decision.text⟩)

end DialogManager

end Manager

section Calls

structure DialogState where
  manager : DialogManager
  policy : PolicyState

inductive DialogCall where
  | policy (call : PolicyCall)
  | opening (request : DialogRequest)
  | resolve (scope : PolicyScope) (decision : DialogDecision) (binding : Option IntentBinding)
      (ticket : Option IntentTicket)

namespace DialogState

variable (state : DialogState)

def resolution (scope : PolicyScope) (decision : DialogDecision) (binding : Option IntentBinding)
    (ticket : Option IntentTicket) : DialogManager × IntentTicketStore × Except HostError DialogResolution :=
  state.manager.resolve scope decision binding ticket state.policy.store state.policy.now

def next (call : DialogCall) : DialogState :=
  match call with
  | .policy call => { state with policy := state.policy.next call }
  | .opening request => { state with manager := (state.manager.openDialog request).1 }
  | .resolve scope decision binding ticket =>
      let (manager, store, _) := state.resolution scope decision binding ticket
      { manager, policy := { state.policy with store } }

def opens (call : DialogCall) : Option DialogRecord :=
  match call with
  | .opening request => (state.manager.openDialog request).2.toOption
  | _ => none

def resolves (call : DialogCall) : Option DialogResolution :=
  match call with
  | .resolve scope decision binding ticket => (state.resolution scope decision binding ticket).2.2.toOption
  | _ => none

end DialogState

abbrev DialogRun (start : DialogState) : List (Moment DialogState DialogCall) -> DialogState -> Prop :=
  Run (fun call before after => after = before.next call) start

end Calls

end AgentycHost
