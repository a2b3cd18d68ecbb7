import AgentycHost.Core.Texts
import AgentycHost.Shared.Outcome
import AgentycHost.Shared.Runs
import AgentycHost.Shared.Table

set_option autoImplicit false

/-!
# The trace policy and its tickets

A sensitive boundary is crossed while its space is paused, or with a ticket that
the host issued for the whole binding and that is spent by the crossing.
-/

namespace AgentycHost

open Shared

def maxIntentTicketTtlMs : Nat := 60000

def maxIntentTickets : Nat := 1024

abbrev UserIntentTicketId := Identifier "ticket_"

section Bindings

structure PolicyScope where
  spaceId : Identifier "space_"
  pageId : Option (Identifier "page_")
  deriving DecidableEq

def PolicyScope.validate (scope : PolicyScope) : Except HostError Unit :=
  require (scope.spaceId.text != "" && scope.pageId.all fun pageId => pageId.text != "")
    (.invalidArgument "policy scope contains an empty identity")

inductive SensitiveBoundary where
  | loginChallenge
  | payment
  | destructiveSubmit
  | permission
  | upload
  | cookies
  | evaluate
  deriving DecidableEq

structure IntentBinding where
  boundary : SensitiveBoundary
  scope : PolicyScope
  profileBindingId : ProfileBindingId
  documentGeneration : Option Generation
  leaseEpoch : LeaseEpoch
  actionHash : ContentHash
  connectionEpoch : ConnectionEpoch
  connectionNonce : ConnectionNonce
  deriving DecidableEq

def IntentBinding.validate (binding : IntentBinding) : Except HostError Unit := do
  binding.scope.validate
  require (binding.scope.pageId.isSome == binding.documentGeneration.isSome)
    (.invalidArgument "page_id and document_generation must be supplied together")
  require (!(binding.documentGeneration == some 0 || binding.leaseEpoch == 0 || binding.connectionEpoch == 0))
    (.invalidArgument "intent binding contains a zero generation or epoch")

inductive IntentTicketState where
  | issued
  | consumed
  | revoked
  deriving DecidableEq

structure IntentTicket where
  ticketId : UserIntentTicketId
  profileBindingId : ProfileBindingId
  spaceId : Identifier "space_"
  pageId : Option (Identifier "page_")
  documentGeneration : Option Generation
  actionHash : ContentHash
  leaseEpoch : LeaseEpoch
  connectionEpoch : ConnectionEpoch
  connectionNonce : ConnectionNonce
  expiresAt : Timestamp
  state : IntentTicketState
  deriving DecidableEq

namespace IntentTicket

def validateShape (ticket : IntentTicket) : Except CoreError Unit := do
  require (ticket.pageId.isSome == ticket.documentGeneration.isSome)
    (.invalidArgument "page_id and document_generation must be supplied together")
  require (ticket.expiresAt != 0) (.invalidArgument "user-intent ticket expiry must be non-zero")

/-- The ticket carries everything that the binding names, but its boundary. -/
def matchesBinding (ticket : IntentTicket) (binding : IntentBinding) : Bool :=
  (binding.scope.pageId.isSome == binding.documentGeneration.isSome) &&
    ticket.profileBindingId == binding.profileBindingId && ticket.spaceId == binding.scope.spaceId &&
    ticket.pageId == binding.scope.pageId && ticket.documentGeneration == binding.documentGeneration &&
    ticket.actionHash == binding.actionHash && ticket.leaseEpoch == binding.leaseEpoch &&
    ticket.connectionEpoch == binding.connectionEpoch && ticket.connectionNonce == binding.connectionNonce

/-- Expiry is exclusive: a ticket is expired when `now` is its expiry. -/
def validateAndConsume (ticket : IntentTicket) (binding : IntentBinding) (now : Timestamp) :
    Except CoreError IntentTicket := do
  require (ticket.state == .issued) (.new .permissionDenied "user-intent ticket is not available")
  require (now < ticket.expiresAt) (.new .permissionDenied "user-intent ticket has expired")
  require (ticket.matchesBinding binding)
    (.new .permissionDenied "user-intent ticket does not match the requested operation")
  ticket.validateShape
  pure { ticket with state := .consumed }

end IntentTicket

end Bindings

section Store

structure IssuedIntent where
  ticket : IntentTicket
  boundary : SensitiveBoundary
  deriving DecidableEq

structure IntentTicketStore where
  tickets : Table UserIntentTicketId IssuedIntent
  pausedSpaces : List (Identifier "space_")
  nextTicket : Nat

inductive AuthorizationOutcome where
  | paused
  | ticket
  deriving DecidableEq

namespace IntentTicketStore

variable (store : IntentTicketStore)

def fresh : IntentTicketStore where
  tickets := ∅
  pausedSpaces := []
  nextTicket := 0

def pause (spaceId : Identifier "space_") : IntentTicketStore × Except HostError Unit :=
  if spaceId.text = "" then (store, .error (.invalidArgument "paused space identity is empty"))
  else ({ store with pausedSpaces := spaceId :: store.pausedSpaces }, .ok ())

def resume (spaceId : Identifier "space_") : IntentTicketStore :=
  { store with pausedSpaces := store.pausedSpaces.filter fun other => other != spaceId }

def isPaused (spaceId : Identifier "space_") : Bool := store.pausedSpaces.contains spaceId

def retainBounded : IntentTicketStore :=
  if store.tickets.size < maxIntentTickets then store
  else { store with tickets := store.tickets.filter fun _ issued => issued.ticket.state == .issued }

def checkIssue (binding : IntentBinding) (now ttlMs : Nat) : Except HostError Unit := do
  binding.validate
  require (now != 0) (.invalidArgument "intent ticket issue time must be non-zero")
  require (decide (1 ≤ ttlMs ∧ ttlMs ≤ maxIntentTicketTtlMs))
    (.invalidArgument "intent ticket ttl must be between 1 and 60000 ms")

def boundTicket (binding : IntentBinding) (ticketId : UserIntentTicketId) (expiresAt : Timestamp) : IntentTicket where
  ticketId := ticketId
  profileBindingId := binding.profileBindingId
  spaceId := binding.scope.spaceId
  pageId := binding.scope.pageId
  documentGeneration := binding.documentGeneration
  actionHash := binding.actionHash
  leaseEpoch := binding.leaseEpoch
  connectionEpoch := binding.connectionEpoch
  connectionNonce := binding.connectionNonce
  expiresAt := expiresAt
  state := .issued

def mint (binding : IntentBinding) (now ttlMs : Nat) : Except HostError (Nat × IntentTicket) := do
  let expiresAt ← orElse (checkedAdd now ttlMs) (.invalidArgument "intent ticket expiry overflow")
  let number ← orElse (checkedNext store.nextTicket) (.invalidArgument "intent ticket sequence overflow")
  -- a number of this length is never too long
  let ticketId ← orElse (Identifier.fromSuffix "ticket_" ("intent-" ++ toString number))
    (.invalidArgument "id exceeds the 128 byte limit")
  let ticket := boundTicket binding ticketId expiresAt
  ticket.validateShape.mapError .core
  pure (number, ticket)

/-- A failure after the pruning leaves the registry pruned. -/
def issue (binding : IntentBinding) (now ttlMs : Nat) : IntentTicketStore × Except HostError IntentTicket :=
  match checkIssue binding now ttlMs with
  | .error error => (store, .error error)
  | .ok () =>
      let store := store.retainBounded
      if maxIntentTickets ≤ store.tickets.size then
        (store, .error (.new .messageTooLarge "intent ticket registry is full"))
      else
        match store.mint binding now ttlMs with
        | .error error => (store, .error error)
        | .ok (number, ticket) =>
            ({ store with
                tickets := store.tickets.insert ticket.ticketId ⟨ticket, binding.boundary⟩
                nextTicket := number },
              .ok ticket)

def unknownTicket : HostError := .new .permissionDenied "intent ticket is unknown"

def setState (ticketId : UserIntentTicketId) (issued : IssuedIntent) (state : IntentTicketState) : IntentTicketStore :=
  { store with tickets := store.tickets.insert ticketId { issued with ticket := { issued.ticket with state } } }

def cancel (ticketId : UserIntentTicketId) : IntentTicketStore × Except HostError Unit :=
  match store.tickets.get? ticketId with
  | none => (store, .error unknownTicket)
  | some issued =>
      if issued.ticket.state ≠ .issued then
        (store, .error (.new .permissionDenied "intent ticket is already consumed or cancelled"))
      else (store.setState ticketId issued .revoked, .ok ())

def checkUnused (state : IntentTicketState) : Except HostError Unit :=
  match state with
  | .revoked => .error (.new .cancelled "intent ticket was cancelled")
  | .consumed => .error (.new .permissionDenied "intent ticket was already consumed")
  | .issued => .ok ()

def admits (binding : IntentBinding) (presented : IntentTicket) (now : Timestamp) : Except HostError IssuedIntent := do
  binding.validate
  let issued ← orElse (store.tickets.get? presented.ticketId) unknownTicket
  checkUnused issued.ticket.state
  require (issued.ticket == presented)
    (.new .permissionDenied "intent ticket does not match the host-issued record")
  require (issued.boundary == binding.boundary)
    (.new .permissionDenied "intent ticket boundary does not match the requested operation")
  require (now < issued.ticket.expiresAt) (.new .permissionDenied "intent ticket has expired")
  let spent ← (issued.ticket.validateAndConsume binding now).mapError .core
  pure { issued with ticket := spent }

def consume (binding : IntentBinding) (presented : IntentTicket) (now : Timestamp) :
    IntentTicketStore × Except HostError Unit :=
  match store.admits binding presented now with
  | .error error => (store, .error error)
  | .ok spent => ({ store with tickets := store.tickets.insert presented.ticketId spent }, .ok ())

def authorize (binding : IntentBinding) (ticket : Option IntentTicket) (now : Timestamp) :
    IntentTicketStore × Except HostError AuthorizationOutcome :=
  match binding.validate with
  | .error error => (store, .error error)
  | .ok () =>
      if store.isPaused binding.scope.spaceId then (store, .ok .paused)
      else
        match ticket with
        | none =>
            (store, .error (.new .userControlRequired
              "sensitive boundary requires a paused space or host-issued intent ticket"))
        | some presented =>
            match store.consume binding presented now with
            | (store, .error error) => (store, .error error)
            | (store, .ok ()) => (store, .ok .ticket)

def waiting : Nat := store.tickets.count fun _ issued => issued.ticket.state == .issued

def live (now : Timestamp) : Nat :=
  store.tickets.count fun _ issued => issued.ticket.state == .issued && decide (now < issued.ticket.expiresAt)

end IntentTicketStore

end Store

section Calls

structure PolicyState where
  store : IntentTicketStore
  now : Timestamp

inductive PolicyCall where
  | issue (binding : IntentBinding) (ttlMs : Nat)
  | cancel (ticketId : UserIntentTicketId)
  | pause (spaceId : Identifier "space_")
  | resume (spaceId : Identifier "space_")
  | authorize (binding : IntentBinding) (ticket : Option IntentTicket)
  | consume (binding : IntentBinding) (presented : IntentTicket)
  | tick (passed : Nat)

def PolicyState.next (state : PolicyState) (call : PolicyCall) : PolicyState :=
  match call with
  | .issue binding ttlMs => { state with store := (state.store.issue binding state.now ttlMs).1 }
  | .cancel ticketId => { state with store := (state.store.cancel ticketId).1 }
  | .pause spaceId => { state with store := (state.store.pause spaceId).1 }
  | .resume spaceId => { state with store := state.store.resume spaceId }
  | .authorize binding ticket => { state with store := (state.store.authorize binding ticket state.now).1 }
  | .consume binding presented => { state with store := (state.store.consume binding presented state.now).1 }
  | .tick passed => { state with now := state.now + passed }

def PolicyState.issues (state : PolicyState) (call : PolicyCall) : Option (IntentBinding × IntentTicket) :=
  match call with
  | .issue binding ttlMs =>
      match (state.store.issue binding state.now ttlMs).2 with
      | .ok ticket => some (binding, ticket)
      | .error _ => none
  | _ => none

def PolicyState.spends (state : PolicyState) (call : PolicyCall) : Option (IntentBinding × IntentTicket) :=
  match call with
  | .authorize binding (some presented) =>
      match (state.store.authorize binding (some presented) state.now).2 with
      | .ok .ticket => some (binding, presented)
      | _ => none
  | .consume binding presented =>
      match (state.store.consume binding presented state.now).2 with
      | .ok () => some (binding, presented)
      | .error _ => none
  | _ => none

abbrev PolicyRun (start : PolicyState) : List (Moment PolicyState PolicyCall) -> PolicyState -> Prop :=
  Run (fun call before after => after = before.next call) start

end Calls

end AgentycHost
