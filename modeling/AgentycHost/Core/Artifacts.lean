import AgentycHost.Ledger.State
import AgentycHost.Shared.Outcome

set_option autoImplicit false

/-!
# Artifact transfers

An artifact is declared, sent in chunks and ended. The receiver keeps for each
one the place it has reached, and for the connection what it holds and what it
has received so far.
-/

namespace AgentycHost

open Shared

abbrev ArtifactId := Identifier "artifact_"

def maxArtifactChunkBytes : Nat := 256 * 1024
def maxArtifactBytes : Nat := 32 * 1024 * 1024
def maxArtifactChunks : Nat := 256
def maxInFlightArtifactBytes : Nat := 4 * 1024 * 1024
def maxCumulativeArtifactBytes : Nat := 64 * 1024 * 1024

def isAsciiHexdigit (character : Char) : Bool :=
  character.isDigit || ('a' ≤ character && character ≤ 'f') || ('A' ≤ character && character ≤ 'F')

structure WireHash where
  digits : List Char
  valid : digits.length = 16 ∧ digits.all isAsciiHexdigit = true
  deriving DecidableEq

def WireHash.text (hash : WireHash) : List Char := "fnv1a64:".toList ++ hash.digits

def WireHash.algorithm (hash : WireHash) : Option String :=
  if ':' ∈ hash.text then some (String.ofList (hash.text.takeWhile (· ≠ ':'))) else none

def hexDigits (value : Nat) : Nat -> List Char
  | 0 => []
  | count + 1 => hexDigits (value / 16) count ++ [Nat.digitChar (value % 16)]

theorem hexDigits_length (value count : Nat) : (hexDigits value count).length = count := by
  induction count generalizing value with
  | zero => rfl
  | succ count ih => rw [hexDigits, List.length_append, ih, List.length_singleton]

theorem digitChar_hex : ∀ digit : Fin 16, isAsciiHexdigit (Nat.digitChar digit) = true := by decide

theorem hexDigits_hex (value count : Nat) : (hexDigits value count).all isAsciiHexdigit = true := by
  induction count generalizing value with
  | zero => rfl
  | succ count ih =>
    have last := digitChar_hex ⟨value % 16, Nat.mod_lt _ (by decide)⟩
    rw [hexDigits, List.all_append, ih, Bool.true_and, List.all_cons, List.all_nil, Bool.and_true]
    exact last

def WireHash.fromBytes (octets : List UInt8) : WireHash where
  digits := hexDigits (ContentHash.fromBytes (octets.map UInt8.toNat)).digest 16
  valid := ⟨hexDigits_length _ _, hexDigits_hex _ _⟩

inductive ArtifactKind where
  | text
  | image
  | pdf
  | binary
  deriving DecidableEq

inductive ArtifactDigestAlgorithm where
  | fnv1a64
  deriving DecidableEq

def validateProtocolVersion (protocol : Nat) : Except CoreError Unit :=
  require (protocol == protocolVersion)
    (.new .protocolMismatch ("unsupported protocol version " ++ toString protocol))

structure ArtifactBeginEnvelope where
  protocol : Nat
  artifactId : ArtifactId
  requestId : Option RequestId
  artifactKind : ArtifactKind
  totalBytes : Nat
  chunkSize : Nat
  chunkCount : Nat
  digestAlgorithm : ArtifactDigestAlgorithm
  digest : WireHash
  redacted : Bool
  deriving DecidableEq

structure ArtifactChunkEnvelope where
  protocol : Nat
  artifactId : ArtifactId
  connectionEpoch : ConnectionEpoch
  chunkSequence : Nat
  bytes : List UInt8
  deriving DecidableEq

structure ArtifactEndEnvelope where
  protocol : Nat
  artifactId : ArtifactId
  totalBytes : Nat
  chunkCount : Nat
  digestAlgorithm : ArtifactDigestAlgorithm
  digest : WireHash
  deriving DecidableEq

def validateDigest (algorithm : ArtifactDigestAlgorithm) (digest : WireHash) : Except CoreError Unit :=
  require (algorithm == .fnv1a64 && digest.algorithm == some "fnv1a64")
    (.invalidArgument "artifact digest algorithm does not match digest metadata")

def divCeil (value divisor : Nat) : Nat :=
  if value % divisor = 0 then value / divisor else value / divisor + 1

/-- The difference of two `u64` values as the machine computes it: it wraps below zero. -/
def wrappingSub (left right : Nat) : Nat := (2 ^ 64 + left - right) % 2 ^ 64

def ArtifactBeginEnvelope.validate (begin : ArtifactBeginEnvelope) : Except CoreError Unit := do
  validateProtocolVersion begin.protocol
  require (begin.totalBytes ≤ maxArtifactBytes)
    (.new .messageTooLarge ("artifact size must not exceed " ++ toString maxArtifactBytes ++ " bytes"))
  require (begin.chunkSize != 0 && begin.chunkSize ≤ maxArtifactChunkBytes)
    (.new .messageTooLarge
      ("artifact chunk size must be between 1 and " ++ toString maxArtifactChunkBytes ++ " bytes"))
  let expectedChunks := divCeil begin.totalBytes begin.chunkSize
  require (expectedChunks ≤ maxArtifactChunks && begin.chunkCount == expectedChunks)
    (.invalidArgument "artifact chunk_count does not match total_bytes and chunk_size")
  validateDigest begin.digestAlgorithm begin.digest

namespace ArtifactChunkEnvelope

def validate (chunk : ArtifactChunkEnvelope) : Except CoreError Unit := do
  validateProtocolVersion chunk.protocol
  require (chunk.bytes.length ≤ maxArtifactChunkBytes)
    (.new .messageTooLarge ("artifact chunk exceeds " ++ toString maxArtifactChunkBytes ++ " bytes"))

def priorBytes (chunk : ArtifactChunkEnvelope) (begin : ArtifactBeginEnvelope) : Nat :=
  chunk.chunkSequence * begin.chunkSize

def expectedLen (chunk : ArtifactChunkEnvelope) (begin : ArtifactBeginEnvelope) : Nat :=
  if chunk.chunkSequence + 1 = begin.chunkCount then wrappingSub begin.totalBytes (chunk.priorBytes begin)
  else begin.chunkSize

def validateAgainst (chunk : ArtifactChunkEnvelope) (begin : ArtifactBeginEnvelope) : Except CoreError Unit := do
  chunk.validate
  begin.validate
  require (chunk.artifactId == begin.artifactId && chunk.chunkSequence < begin.chunkCount)
    (.invalidArgument "artifact chunk identity or sequence is outside its declaration")
  require (chunk.bytes.length == chunk.expectedLen begin && chunk.bytes.length ≤ maxArtifactChunkBytes)
    (.new .messageTooLarge "artifact chunk size does not match its declaration")

end ArtifactChunkEnvelope

structure ArtifactTransferProgress where
  artifactId : ArtifactId
  begin : ArtifactBeginEnvelope
  connectionEpoch : ConnectionEpoch
  nextChunkSequence : Nat
  receivedBytes : Nat
  deriving DecidableEq

namespace ArtifactTransferProgress

def start (begin : ArtifactBeginEnvelope) (connectionEpoch : ConnectionEpoch) :
    Except CoreError ArtifactTransferProgress := do
  begin.validate
  pure { artifactId := begin.artifactId, begin, connectionEpoch, nextChunkSequence := 0, receivedBytes := 0 }

def acceptChunk (progress : ArtifactTransferProgress) (chunk : ArtifactChunkEnvelope) :
    Except CoreError ArtifactTransferProgress := do
  chunk.validateAgainst progress.begin
  require (chunk.artifactId == progress.artifactId && chunk.connectionEpoch == progress.connectionEpoch
      && chunk.chunkSequence == progress.nextChunkSequence)
    (.invalidArgument "artifact chunk is late, duplicated, out of order, or from another connection")
  let receivedBytes ← orElse (checkedAdd progress.receivedBytes chunk.bytes.length)
    (.new .messageTooLarge "artifact size overflow")
  require (receivedBytes ≤ progress.begin.totalBytes)
    (.new .messageTooLarge "received artifact bytes exceed declaration")
  pure { progress with receivedBytes, nextChunkSequence := progress.nextChunkSequence + 1 }

def validateComplete (progress : ArtifactTransferProgress) : Except CoreError Unit :=
  require (progress.artifactId == progress.begin.artifactId
      && progress.nextChunkSequence == progress.begin.chunkCount
      && progress.receivedBytes == progress.begin.totalBytes)
    (.invalidArgument "artifact transfer ended before all declared chunks arrived")

end ArtifactTransferProgress

namespace ArtifactEndEnvelope

def validate (finish : ArtifactEndEnvelope) : Except CoreError Unit := do
  validateProtocolVersion finish.protocol
  require (finish.totalBytes ≤ maxArtifactBytes && finish.chunkCount ≤ maxArtifactChunks)
    (.new .messageTooLarge "artifact_end exceeds declared transfer bounds")
  validateDigest finish.digestAlgorithm finish.digest

def validateAgainst (finish : ArtifactEndEnvelope) (begin : ArtifactBeginEnvelope) (assembled : List UInt8) :
    Except CoreError Unit := do
  finish.validate
  begin.validate
  require (finish.artifactId == begin.artifactId && finish.totalBytes == begin.totalBytes
      && finish.chunkCount == begin.chunkCount && finish.digestAlgorithm == begin.digestAlgorithm
      && finish.digest == begin.digest)
    (.invalidArgument "artifact_end metadata does not match artifact_begin")
  require (assembled.length == begin.totalBytes && WireHash.fromBytes assembled == begin.digest)
    (.invalidArgument "assembled artifact size or digest does not match declaration")

end ArtifactEndEnvelope

structure ArtifactTransferBudget where
  inFlightBytes : Nat := 0
  cumulativeBytes : Nat := 0
  deriving DecidableEq

namespace ArtifactTransferBudget

def receive (budget : ArtifactTransferBudget) (size : Nat) : Except CoreError ArtifactTransferBudget :=
  let inFlight := checkedAdd budget.inFlightBytes size
  let cumulative := checkedAdd budget.cumulativeBytes size
  match inFlight, cumulative with
  | some inFlight, some cumulative =>
      if maxInFlightArtifactBytes < inFlight ∨ maxCumulativeArtifactBytes < cumulative then
        .error (.new .messageTooLarge "connection artifact transfer budget exceeded")
      else .ok { inFlightBytes := inFlight, cumulativeBytes := cumulative }
  | _, _ => .error (.new .messageTooLarge "connection artifact transfer budget exceeded")

def release (budget : ArtifactTransferBudget) (size : Nat) : Except CoreError ArtifactTransferBudget :=
  if size ≤ budget.inFlightBytes then .ok { budget with inFlightBytes := budget.inFlightBytes - size }
  else .error (.invalidArgument "released artifact bytes exceed in-flight bytes")

end ArtifactTransferBudget

end AgentycHost
