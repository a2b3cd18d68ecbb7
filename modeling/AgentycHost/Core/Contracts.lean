import Mathlib.Algebra.Order.Ring.Int
import Mathlib.Data.List.Lex

set_option autoImplicit false

/-!
# Identities, counters, lifecycle states and errors

The transport-neutral vocabulary of the host. Counters are `u64` values: they
are natural numbers here, and every increment goes through `checkedNext`.
-/

namespace AgentycHost

variable {tag : String}

abbrev Generation := Nat
abbrev LeaseEpoch := Nat
abbrev SnapshotVersion := Nat
abbrev EventSequence := Nat
abbrev Timestamp := Nat
abbrev BrokerEpoch := Nat
abbrev ConnectionEpoch := Nat

def u64Max : Nat := 2 ^ 64 - 1

def checkedNext (value : Nat) : Option Nat :=
  if value < u64Max then some (value + 1) else none

def checkedAdd (left right : Nat) : Option Nat :=
  if left + right ≤ u64Max then some (left + right) else none

theorem checkedNext_eq_some {value next : Nat} :
    checkedNext value = some next <-> value < u64Max ∧ next = value + 1 := by
  unfold checkedNext
  split_ifs with room <;> simp [room, eq_comm]

/-- The bytes of a text, as the source measures and compares it. -/
def bytes (text : String) : List Nat := text.toByteArray.data.toList.map UInt8.toNat

/-- Unicode category Cc, the test behind `char::is_control`. -/
def isControl (character : Char) : Bool :=
  character.toNat ≤ 0x1f || (0x7f ≤ character.toNat && character.toNat ≤ 0x9f)

def isAsciiDigit (byte : Nat) : Bool := 48 ≤ byte && byte ≤ 57
def isAsciiLowercase (byte : Nat) : Bool := 97 ≤ byte && byte ≤ 122
def isAsciiUppercase (byte : Nat) : Bool := 65 ≤ byte && byte ≤ 90

def isAsciiAlphanumeric (byte : Nat) : Bool :=
  isAsciiDigit byte || isAsciiLowercase byte || isAsciiUppercase byte

def toAsciiLowercase (byte : Nat) : Nat := if isAsciiUppercase byte then byte + 32 else byte

def maxIdLength : Nat := 128

def validateIdentifier (tag suffix : String) : Bool :=
  decide (tag.utf8ByteSize + suffix.utf8ByteSize ≤ maxIdLength) &&
    match bytes suffix with
    | [] => false
    | first :: rest =>
        (isAsciiLowercase first || isAsciiDigit first) &&
          rest.all fun byte => isAsciiLowercase byte || isAsciiDigit byte || byte == 95 || byte == 45

structure Identifier (tag : String) where
  suffix : String
  valid : validateIdentifier tag suffix = true
  deriving DecidableEq

def Identifier.text {tag : String} (identifier : Identifier tag) : String := tag ++ identifier.suffix

theorem Identifier.text_size (identifier : Identifier tag) :
    identifier.text.utf8ByteSize ≤ maxIdLength := by
  have valid := identifier.valid
  simp only [validateIdentifier, Bool.and_eq_true, decide_eq_true_eq] at valid
  simpa [Identifier.text] using valid.1

theorem Identifier.text_inj {one other : Identifier tag} (same : one.text = other.text) : one = other := by
  cases one
  cases other
  simp only [Identifier.text, String.append_right_inj] at same
  cases same
  rfl

abbrev PrincipalId := Identifier "principal_"
abbrev ConnectionNonce := Identifier "nonce_"
abbrev ProfileBindingId := Identifier "profile_"
abbrev DocumentId := Identifier "document_"
abbrev NavigationId := Identifier "navigation_"
abbrev FrameId := Identifier "frame_"
abbrev RequestId := Identifier "req_"
abbrev ActionId := Identifier "action_"
abbrev IdempotencyKey := Identifier "idem_"
abbrev ElementKey := Identifier "element_"

/-- Space identities are minted by the broker as `space_space-{number}`. -/
structure SpaceId where
  number : Nat
  deriving DecidableEq

def SpaceId.text (space : SpaceId) : String := "space_space-" ++ toString space.number

/-- Page identities are minted by the broker as `page_page-{number}`. -/
structure PageId where
  number : Nat
  deriving DecidableEq

def PageId.text (page : PageId) : String := "page_page-" ++ toString page.number

/-- Ref identities are minted by the registry as `ref_host-{number}`; a client may present any other. -/
inductive RefId where
  | host (number : Nat)
  | foreign (identity : Identifier "ref_")
  deriving DecidableEq

def RefId.text : RefId -> String
  | .host number => "ref_host-" ++ toString number
  | .foreign identity => identity.text

structure ContentHash where
  digest : Nat
  deriving DecidableEq

inductive FencePurpose where
  | takeover
  | returnControl
  deriving DecidableEq

inductive ReconcileToken where
  | fenceRequest (purpose : FencePurpose) (brokerEpoch : BrokerEpoch) (space : SpaceId) (epoch : LeaseEpoch)
  | fence (number : Nat)
  | control (number : Nat)
  | returned (number : Nat)
  | action (number : Nat)
  | shutdown (number : Nat)
  | restart (number : Nat)
  | intent (now number : Nat)
  | foreign (suffix : String)
  deriving DecidableEq

inductive SpaceLifecycle where
  | created
  | agentOwned
  | handoffRequested
  | draining
  | paused
  | userOwned
  | orphaned
  | recovering
  | finished
  | released
  | fencePending
  | fenceDispatched
  | fenceAcknowledged
  deriving DecidableEq

def SpaceLifecycle.admitsMutations (lifecycle : SpaceLifecycle) : Bool :=
  lifecycle == .agentOwned

def SpaceLifecycle.admitsRecoveryOperations (lifecycle : SpaceLifecycle) : Bool :=
  lifecycle == .recovering

def SpaceLifecycle.isTerminal (lifecycle : SpaceLifecycle) : Bool :=
  lifecycle == .finished || lifecycle == .released

inductive PageLifecycle where
  | planned
  | creating
  | managed
  | targetLost
  | rebinding
  | userOwned
  | closing
  | closed
  | retired
  | unknown
  | unmanaged
  | adoptable
  deriving DecidableEq

inductive PageOwnership where
  | agent
  | user
  | broker
  | unmanaged
  deriving DecidableEq

inductive PageBindingState where
  | unbound
  | bound
  | lost
  | ambiguous
  | rebindRequired
  | userOwned
  | closed
  deriving DecidableEq

inductive ProfileBindingState where
  | unbound
  | bound
  | rebindRequired
  | revoked
  deriving DecidableEq

inductive LeaseState where
  | active
  | renewing
  | expired
  | fenced
  | released
  deriving DecidableEq

inductive ActionStatus where
  | queued
  | running
  | succeeded
  | failed
  | cancelled
  | unknown
  deriving DecidableEq

def ActionStatus.isTerminal : ActionStatus -> Bool
  | .succeeded | .failed | .cancelled => true
  | _ => false

inductive DispatchState where
  | notDispatched
  | queued
  | dispatched
  | acknowledged
  | rejected
  deriving DecidableEq

inductive ReconciliationState where
  | notRequired
  | required
  | inProgress
  | reconciledSucceeded
  | reconciledFailed
  | requiresConfirmation
  deriving DecidableEq

inductive CompletionSource where
  | none
  | extension
  | reconciliation
  | ledger
  | timeout
  deriving DecidableEq

inductive NextAction where
  | none
  | retry
  | reconcile
  | confirm
  | refreshLease
  | resync
  | claim
  deriving DecidableEq

inductive Capability where
  | snapshot
  | action
  | wait
  | artifact
  | evaluate
  | reconcile
  deriving DecidableEq

inductive DirtyReason where
  | domMutation
  | navigation
  | frameChanged
  | action
  | targetReplaced
  | sessionLost
  | reconnect
  | eventGap
  | geometryChanged
  | scrollChanged
  | rawEvaluation
  | takeover
  | expired
  | unknown
  deriving DecidableEq

inductive HostDegradedReason where
  | extensionLost
  | chromeLost
  | ledgerError
  deriving DecidableEq

inductive HostLifecycle where
  | starting
  | waitingForExtension
  | ready
  | draining
  | degraded (reason : HostDegradedReason)
  | recovering
  | orphaned
  | stopped
  deriving DecidableEq

inductive ErrorCode where
  | extensionNotConnected
  | profileNotFound
  | spaceRequired
  | spaceNotFound
  | spaceForbidden
  | userControlRequired
  | leaseExpired
  | staleLease
  | pageNotFound
  | pageNotOwned
  | unmanagedPage
  | staleRef
  | targetReplaced
  | eventLagged
  | unknownOutcome
  | reconciliationRequired
  | capabilityUnavailable
  | permissionDenied
  | nativeHostUnavailable
  | protocolMismatch
  | messageTooLarge
  | invalidArgument
  | timeout
  | cancelled
  | hostDraining
  | ledgerIncompatible
  | truncatedFrame
  | invalidUtf8
  | invalidJson
  deriving DecidableEq

def ErrorCode.retryable : ErrorCode -> Bool
  | .extensionNotConnected | .nativeHostUnavailable | .eventLagged | .timeout | .hostDraining => true
  | _ => false

inductive ErrorGuidance where
  | none
  | retry
  | reconcile
  | refreshLease
  | resync
  | claim
  | awaitUserControl
  deriving DecidableEq

def ErrorCode.guidance (code : ErrorCode) : ErrorGuidance :=
  match code with
  | .staleLease | .leaseExpired => .refreshLease
  | .staleRef | .targetReplaced | .eventLagged => .resync
  | .unknownOutcome | .reconciliationRequired => .reconcile
  | .userControlRequired => .awaitUserControl
  | .unmanagedPage | .pageNotOwned => .claim
  | code => if code.retryable then .retry else .none

def ErrorCode.asStr : ErrorCode -> String
  | .extensionNotConnected => "extension_not_connected"
  | .profileNotFound => "profile_not_found"
  | .spaceRequired => "space_required"
  | .spaceNotFound => "space_not_found"
  | .spaceForbidden => "space_forbidden"
  | .userControlRequired => "user_control_required"
  | .leaseExpired => "lease_expired"
  | .staleLease => "stale_lease"
  | .pageNotFound => "page_not_found"
  | .pageNotOwned => "page_not_owned"
  | .unmanagedPage => "unmanaged_page"
  | .staleRef => "stale_ref"
  | .targetReplaced => "target_replaced"
  | .eventLagged => "event_lagged"
  | .unknownOutcome => "unknown_outcome"
  | .reconciliationRequired => "reconciliation_required"
  | .capabilityUnavailable => "capability_unavailable"
  | .permissionDenied => "permission_denied"
  | .nativeHostUnavailable => "native_host_unavailable"
  | .protocolMismatch => "protocol_mismatch"
  | .messageTooLarge => "message_too_large"
  | .invalidArgument => "invalid_argument"
  | .timeout => "timeout"
  | .cancelled => "cancelled"
  | .hostDraining => "host_draining"
  | .ledgerIncompatible => "ledger_incompatible"
  | .truncatedFrame => "truncated_frame"
  | .invalidUtf8 => "invalid_utf8"
  | .invalidJson => "invalid_json"

structure CoreError where
  code : ErrorCode
  retryable : Bool
  guidance : ErrorGuidance
  message : String
  deriving DecidableEq

def CoreError.new (code : ErrorCode) (message : String) : CoreError :=
  { code, retryable := code.retryable, guidance := code.guidance, message }

def CoreError.invalidArgument (message : String) : CoreError := .new .invalidArgument message

def CoreError.staleLease (expected actual : LeaseEpoch) : CoreError :=
  .new .staleLease
    ("lease epoch " ++ toString actual ++ " is stale; expected " ++ toString expected)

inductive ActionTransitionError where
  | invalidStatus (expected actual : ActionStatus)
  | notDispatched
  | invalidDispatchState
  | invalidCompletionSource
  | reconciliationNotRequired
  | reconciliationNotInProgress
  deriving DecidableEq

inductive LedgerError where
  | ownership (message : String)
  | corrupt (message : String)
  | incompatible (message : String)
  | boundExceeded (message : String)
  | io
  | serialization
  deriving DecidableEq

inductive HostError where
  | ledger (error : LedgerError)
  | core (error : CoreError)
  | action (error : ActionTransitionError)
  | bridge (error : CoreError)
  | invariant (message : String)
  deriving DecidableEq

def HostError.new (code : ErrorCode) (message : String) : HostError := .core (.new code message)

def HostError.invalidArgument (message : String) : HostError := .core (.invalidArgument message)

end AgentycHost
