import AgentycHost.Effects.Specs
import AgentycHost.Local.Transfers

set_option autoImplicit false

/-!
# What one artifact envelope changes
-/

namespace AgentycHost

open Shared

variable {begin : ArtifactBeginEnvelope} {chunk : ArtifactChunkEnvelope} {finish : ArtifactEndEnvelope} {done : Unit}
  {budget : ArtifactTransferBudget}

section Envelopes

theorem WireHash.algorithm_fnv (hash : WireHash) : hash.algorithm = some "fnv1a64" := by
  have named : hash.text = ['f', 'n', 'v', '1', 'a', '6', '4'] ++ ':' :: hash.digits := rfl
  rw [algorithm, named, if_pos (by simp)]
  rw [List.takeWhile_append_of_pos (List.all_eq_true.mp rfl)]
  rfl

theorem validateDigest_passes (algorithm : ArtifactDigestAlgorithm) (digest : WireHash) :
    validateDigest algorithm digest = .ok () := by
  cases algorithm
  rw [validateDigest, digest.algorithm_fnv]
  rfl

theorem validateProtocolVersion_ok {protocol : Nat} :
    validateProtocolVersion protocol = .ok done <-> protocol = protocolVersion := by
  rw [validateProtocolVersion, require_ok, beq_iff_eq]

structure Declared (begin : ArtifactBeginEnvelope) : Prop where
  protocol : begin.protocol = protocolVersion
  total : begin.totalBytes ≤ maxArtifactBytes
  positive : 0 < begin.chunkSize
  size : begin.chunkSize ≤ maxArtifactChunkBytes
  few : begin.chunkCount ≤ maxArtifactChunks
  count : begin.chunkCount = divCeil begin.totalBytes begin.chunkSize

theorem ArtifactBeginEnvelope.validate_ok : begin.validate = .ok done <-> Declared begin := by
  unfold ArtifactBeginEnvelope.validate
  simp only [bind_ok, require_ok, validateProtocolVersion_ok, validateDigest_passes, Bool.and_eq_true, bne_iff_ne,
    decide_eq_true_eq, beq_iff_eq, exists_const]
  constructor
  · rintro ⟨protocol, total, ⟨positive, size⟩, ⟨few, count⟩, _⟩
    exact ⟨protocol, total, Nat.pos_of_ne_zero positive, size, count ▸ few, count⟩
  · intro declared
    exact ⟨declared.protocol, declared.total, ⟨Nat.ne_of_gt declared.positive, declared.size⟩,
      ⟨declared.count ▸ declared.few, declared.count⟩, trivial⟩

theorem divCeil_le {value divisor count : Nat} (positive : 0 < divisor) :
    divCeil value divisor ≤ count <-> value ≤ count * divisor := by
  have whole := Nat.div_add_mod value divisor
  have part := Nat.mod_lt value positive
  unfold divCeil
  split_ifs with exactly
  · rw [← Nat.mul_le_mul_right_iff positive, Nat.mul_comm]
    omega
  · constructor
    · intro above
      calc value ≤ divisor * (value / divisor) + divisor := by omega
        _ = (value / divisor + 1) * divisor := by rw [Nat.add_mul, Nat.one_mul, Nat.mul_comm]
        _ ≤ count * divisor := Nat.mul_le_mul_right divisor above
    · intro above
      apply Nat.lt_of_mul_lt_mul_left (a := divisor)
      rw [Nat.mul_comm divisor count]
      omega

theorem Declared.prior_le (declared : Declared begin) {sequence : Nat} (inside : sequence < begin.chunkCount) :
    sequence * begin.chunkSize ≤ begin.totalBytes := by
  by_contra beyond
  have few : divCeil begin.totalBytes begin.chunkSize ≤ sequence :=
    (divCeil_le declared.positive).mpr (Nat.le_of_lt (Nat.lt_of_not_le beyond))
  have count := declared.count
  omega

/-- The length that the declaration leaves for one of its chunks. -/
def ArtifactBeginEnvelope.lengthOf (begin : ArtifactBeginEnvelope) (sequence : Nat) : Nat :=
  if sequence + 1 = begin.chunkCount then begin.totalBytes - sequence * begin.chunkSize else begin.chunkSize

theorem wrappingSub_of_le {left right : Nat} (above : right ≤ left) (small : left < 2 ^ 64) :
    wrappingSub left right = left - right := by
  unfold wrappingSub
  have split : 2 ^ 64 + left - right = left - right + 2 ^ 64 := by omega
  rw [split, Nat.add_mod_right, Nat.mod_eq_of_lt (by omega)]

theorem Declared.expectedLen (declared : Declared begin) (inside : chunk.chunkSequence < begin.chunkCount) :
    chunk.expectedLen begin = begin.lengthOf chunk.chunkSequence := by
  have prior := declared.prior_le inside
  have small : begin.totalBytes < 2 ^ 64 := Nat.lt_of_le_of_lt declared.total (by decide)
  unfold ArtifactChunkEnvelope.expectedLen ArtifactBeginEnvelope.lengthOf ArtifactChunkEnvelope.priorBytes
  rw [wrappingSub_of_le prior small]

theorem ArtifactChunkEnvelope.validate_ok :
    chunk.validate = .ok done <-> chunk.protocol = protocolVersion ∧ chunk.bytes.length ≤ maxArtifactChunkBytes := by
  unfold ArtifactChunkEnvelope.validate
  simp only [bind_ok, require_ok, validateProtocolVersion_ok, decide_eq_true_eq, exists_const]

theorem ArtifactChunkEnvelope.validateAgainst_ok : chunk.validateAgainst begin = .ok done <->
    chunk.protocol = protocolVersion ∧ Declared begin ∧ chunk.artifactId = begin.artifactId ∧
      chunk.chunkSequence < begin.chunkCount ∧ chunk.bytes.length = begin.lengthOf chunk.chunkSequence ∧
      chunk.bytes.length ≤ maxArtifactChunkBytes := by
  unfold ArtifactChunkEnvelope.validateAgainst
  simp only [bind_ok, require_ok, validate_ok, ArtifactBeginEnvelope.validate_ok, Bool.and_eq_true, beq_iff_eq,
    decide_eq_true_eq]
  constructor
  · rintro ⟨_, ⟨protocol, _⟩, _, declared, _, ⟨same, inside⟩, length, short⟩
    exact ⟨protocol, declared, same, inside, declared.expectedLen inside ▸ length, short⟩
  · rintro ⟨protocol, declared, same, inside, length, short⟩
    exact ⟨(), ⟨protocol, short⟩, (), declared, (), ⟨same, inside⟩, (declared.expectedLen inside).symm ▸ length, short⟩

theorem ArtifactEndEnvelope.validate_ok : finish.validate = .ok done <->
    finish.protocol = protocolVersion ∧ finish.totalBytes ≤ maxArtifactBytes ∧ finish.chunkCount ≤ maxArtifactChunks := by
  unfold ArtifactEndEnvelope.validate
  simp only [bind_ok, require_ok, validateProtocolVersion_ok, validateDigest_passes, Bool.and_eq_true, decide_eq_true_eq,
    and_true, exists_const]

structure CompletesTransfer (finish : ArtifactEndEnvelope) (begin : ArtifactBeginEnvelope)
    (assembled : List UInt8) : Prop where
  protocol : finish.protocol = protocolVersion
  declared : Declared begin
  artifactId : finish.artifactId = begin.artifactId
  totalBytes : finish.totalBytes = begin.totalBytes
  chunkCount : finish.chunkCount = begin.chunkCount
  digest : finish.digest = begin.digest
  length : assembled.length = begin.totalBytes
  hash : WireHash.fromBytes assembled = begin.digest

theorem ArtifactEndEnvelope.validateAgainst_ok {assembled : List UInt8} :
    finish.validateAgainst begin assembled = .ok done <-> CompletesTransfer finish begin assembled := by
  unfold ArtifactEndEnvelope.validateAgainst
  simp only [bind_ok, require_ok, validate_ok, ArtifactBeginEnvelope.validate_ok, Bool.and_eq_true, beq_iff_eq]
  constructor
  · rintro ⟨_, ⟨protocol, _⟩, _, declared, _, ⟨⟨⟨⟨same, total⟩, count⟩, _⟩, digest⟩, length, hash⟩
    exact ⟨protocol, declared, same, total, count, digest, length, hash⟩
  · intro completes
    obtain ⟨protocol, declared, same, total, count, digest, length, hash⟩ := completes
    refine ⟨(), ⟨protocol, total ▸ declared.total, count ▸ declared.few⟩, (), declared, (),
      ⟨⟨⟨⟨same, total⟩, count⟩, ?_⟩, digest⟩, length, hash⟩
    cases finish.digestAlgorithm
    cases begin.digestAlgorithm
    trivial

end Envelopes

section Progress

variable {progress after : ArtifactTransferProgress} {epoch : ConnectionEpoch}

theorem ArtifactTransferProgress.start_ok : ArtifactTransferProgress.start begin epoch = .ok progress <->
    Declared begin ∧ progress = ⟨begin.artifactId, begin, epoch, 0, 0⟩ := by
  unfold ArtifactTransferProgress.start
  rw [bind_ok]
  simp only [ArtifactBeginEnvelope.validate_ok, pure_ok, exists_const]
  exact and_congr_right fun _ => eq_comm

theorem checkedAdd_eq_some {left right sum : Nat} :
    checkedAdd left right = some sum <-> left + right ≤ u64Max ∧ sum = left + right := by
  unfold checkedAdd
  split_ifs with fits <;> simp [fits, eq_comm]

theorem ArtifactTransferProgress.acceptChunk_ok : progress.acceptChunk chunk = .ok after <->
    chunk.validateAgainst progress.begin = .ok () ∧ chunk.artifactId = progress.artifactId ∧
      chunk.connectionEpoch = progress.connectionEpoch ∧ chunk.chunkSequence = progress.nextChunkSequence ∧
      progress.receivedBytes + chunk.bytes.length ≤ progress.begin.totalBytes ∧
      after = { progress with
        receivedBytes := progress.receivedBytes + chunk.bytes.length
        nextChunkSequence := progress.nextChunkSequence + 1 } := by
  unfold ArtifactTransferProgress.acceptChunk
  simp only [bind_ok, require_ok, orElse_ok, pure_ok, checkedAdd_eq_some, Bool.and_eq_true, beq_iff_eq,
    decide_eq_true_eq]
  constructor
  · rintro ⟨_, valid, _, ⟨⟨same, epoch⟩, next⟩, _, ⟨_, rfl⟩, _, within, rfl⟩
    exact ⟨valid, same, epoch, next, within, rfl⟩
  · rintro ⟨valid, same, epoch, next, within, rfl⟩
    have declared := (ArtifactChunkEnvelope.validateAgainst_ok.mp valid).2.1
    have fits : progress.receivedBytes + chunk.bytes.length ≤ u64Max :=
      Nat.le_trans within (Nat.le_trans declared.total (by decide))
    exact ⟨(), valid, (), ⟨⟨same, epoch⟩, next⟩, _, ⟨fits, rfl⟩, (), within, rfl⟩

theorem ArtifactTransferProgress.validateComplete_ok : progress.validateComplete = .ok done <->
    progress.artifactId = progress.begin.artifactId ∧ progress.nextChunkSequence = progress.begin.chunkCount ∧
      progress.receivedBytes = progress.begin.totalBytes := by
  unfold ArtifactTransferProgress.validateComplete
  simp only [require_ok, Bool.and_eq_true, beq_iff_eq, and_assoc]

end Progress

section Budget

variable {after : ArtifactTransferBudget} {size : Nat}

theorem ArtifactTransferBudget.receive_ok : budget.receive size = .ok after <->
    budget.inFlightBytes + size ≤ maxInFlightArtifactBytes ∧
      budget.cumulativeBytes + size ≤ maxCumulativeArtifactBytes ∧
      after = { inFlightBytes := budget.inFlightBytes + size, cumulativeBytes := budget.cumulativeBytes + size } := by
  have inFlight : maxInFlightArtifactBytes ≤ u64Max := by decide
  have cumulative : maxCumulativeArtifactBytes ≤ u64Max := by decide
  unfold ArtifactTransferBudget.receive checkedAdd
  split_ifs with first second
  · dsimp only
    split_ifs with beyond
    · simp only [false_iff, not_and]
      omega
    · simp only [Except.ok.injEq, eq_comm]
      constructor
      · exact fun same => ⟨by omega, by omega, same⟩
      · exact fun holds => holds.2.2
  · simp only [false_iff, not_and]
    omega
  · simp only [false_iff, not_and]
    omega

theorem ArtifactTransferBudget.release_ok : budget.release size = .ok after <->
    size ≤ budget.inFlightBytes ∧ after = { budget with inFlightBytes := budget.inFlightBytes - size } := by
  unfold ArtifactTransferBudget.release
  split_ifs with fits <;> simp [fits, eq_comm]

end Budget

section Server

variable {server after : TransferServer} {message : ArtifactMessage} {outcome : Except HostError Unit}
  {transfer : LocalArtifactTransfer}

def LocalArtifactTransfer.opened (begin : ArtifactBeginEnvelope) (epoch : ConnectionEpoch) : LocalArtifactTransfer where
  progress := ⟨begin.artifactId, begin, epoch, 0, 0⟩
  begin
  bytes := []

inductive Handles (server after : TransferServer) : ArtifactMessage -> Except HostError Unit -> Prop where
  | refused {message : ArtifactMessage} {error : HostError}
      (transfers : after.artifactTransfers = server.artifactTransfers)
      (inFlight : after.artifactBudget.inFlightBytes = server.artifactBudget.inFlightBytes) :
      Handles server after message (.error error)
  | begun {begin : ArtifactBeginEnvelope} {connection : HostConnection}
      (connected : server.connection = some connection) (declared : Declared begin)
      (fresh : server.artifactTransfers.get? begin.artifactId.text = none)
      (within : begin.chunkSize ≤ server.limits.maxArtifactChunkBytes)
      (transfers : after = { server with
        artifactTransfers := server.artifactTransfers.insert begin.artifactId.text
          (.opened begin connection.connectionEpoch) }) :
      Handles server after (.start begin) (.ok ())
  | received {chunk : ArtifactChunkEnvelope} {transfer : LocalArtifactTransfer} {progress : ArtifactTransferProgress}
      (found : server.artifactTransfers.get? chunk.artifactId.text = some transfer)
      (accepted : transfer.progress.acceptChunk chunk = .ok progress)
      (transfers : after.artifactTransfers = server.artifactTransfers.insert chunk.artifactId.text
        { transfer with progress, bytes := transfer.bytes ++ chunk.bytes })
      (budget : server.artifactBudget.receive chunk.bytes.length = .ok after.artifactBudget) :
      Handles server after (.chunk chunk) (.ok ())
  | ended {finish : ArtifactEndEnvelope} {transfer : LocalArtifactTransfer} {outcome : Except HostError Unit}
      (found : server.artifactTransfers.get? finish.artifactId.text = some transfer)
      (transfers : after.artifactTransfers = server.artifactTransfers.erase finish.artifactId.text)
      (budget : transfer.bytes.length ≤ server.artifactBudget.inFlightBytes ->
        after.artifactBudget.inFlightBytes = server.artifactBudget.inFlightBytes - transfer.bytes.length)
      (complete : outcome = .ok () -> transfer.progress.validateComplete = .ok () ∧
        CompletesTransfer finish transfer.begin transfer.bytes) :
      Handles server after (.finish finish) outcome

theorem handleArtifactBegin_handles (answered : server.handleArtifactBegin begin = (after, outcome)) :
    Handles server after (.start begin) outcome := by
  unfold TransferServer.handleArtifactBegin at answered
  split at answered
  next =>
    cases answered
    exact .refused rfl rfl
  next connection connected =>
    dsimp only at answered
    split_ifs at answered with known many large
    · cases answered
      exact .refused rfl rfl
    · cases answered
      exact .refused rfl rfl
    · cases answered
      exact .refused rfl rfl
    · split at answered
      next =>
        cases answered
        exact .refused rfl rfl
      next progress started =>
        cases answered
        obtain ⟨declared, rfl⟩ := ArtifactTransferProgress.start_ok.mp started
        refine .begun connected declared ?_ (Nat.le_of_not_lt large) rfl
        simpa [Table.contains] using known

theorem discard_same {size : Nat} (after : TransferServer)
    (received : server.artifactBudget.receive size = .ok after.artifactBudget) :
    (after.discard size).artifactTransfers = after.artifactTransfers ∧
      (after.discard size).artifactBudget.inFlightBytes = server.artifactBudget.inFlightBytes := by
  obtain ⟨_, _, same⟩ := ArtifactTransferBudget.receive_ok.mp received
  have total : after.artifactBudget.inFlightBytes = server.artifactBudget.inFlightBytes + size := by
    rw [same]
  have released : after.artifactBudget.release size =
      .ok { after.artifactBudget with inFlightBytes := after.artifactBudget.inFlightBytes - size } :=
    ArtifactTransferBudget.release_ok.mpr ⟨by omega, rfl⟩
  unfold TransferServer.discard
  rw [released]
  refine ⟨rfl, ?_⟩
  dsimp only
  omega

theorem handleArtifactChunk_handles (answered : server.handleArtifactChunk chunk = (after, outcome)) :
    Handles server after (.chunk chunk) outcome := by
  unfold TransferServer.handleArtifactChunk at answered
  dsimp only at answered
  split at answered
  next =>
    cases answered
    exact .refused rfl rfl
  next =>
    split at answered
    next =>
      cases answered
      exact .refused rfl rfl
    next budget received =>
      have same := discard_same { server with artifactBudget := budget } received
      split at answered
      next =>
        cases answered
        exact .refused same.1 same.2
      next transfer found =>
        split at answered
        next =>
          cases answered
          exact .refused same.1 same.2
        next progress accepted =>
          cases answered
          exact .received found accepted rfl received

theorem handleArtifactEnd_handles (answered : server.handleArtifactEnd finish = (after, outcome)) :
    Handles server after (.finish finish) outcome := by
  unfold TransferServer.handleArtifactEnd at answered
  dsimp only at answered
  split at answered
  next =>
    cases answered
    exact .refused rfl rfl
  next transfer found =>
    split at answered
    next complete released =>
      cases answered
      obtain ⟨_, rfl⟩ := ArtifactTransferBudget.release_ok.mp released
      obtain ⟨_, ended, valid⟩ := bind_ok.mp complete
      exact .ended found rfl (fun _ => rfl) fun _ => ⟨ended, ArtifactEndEnvelope.validateAgainst_ok.mp valid⟩
    next released =>
      cases answered
      obtain ⟨_, rfl⟩ := ArtifactTransferBudget.release_ok.mp released
      exact .ended found rfl (fun _ => rfl) (by rintro ⟨⟩)
    next failed =>
      cases answered
      refine .ended found rfl (fun fits => ?_) (by rintro ⟨⟩)
      rw [ArtifactTransferBudget.release_ok.mpr ⟨fits, rfl⟩] at failed
      cases failed
    next failed =>
      cases answered
      refine .ended found rfl (fun fits => ?_) (by rintro ⟨⟩)
      rw [ArtifactTransferBudget.release_ok.mpr ⟨fits, rfl⟩] at failed
      cases failed

theorem dispatch_start {connection : HostConnection} (connected : server.connection = some connection)
    (fresh : server.artifactTransfers.get? begin.artifactId.text = none)
    (few : server.artifactTransfers.size < maxArtifactTransfers)
    (within : begin.chunkSize ≤ server.limits.maxArtifactChunkBytes) (declared : Declared begin) :
    server.dispatch (.start begin) = ({ server with
      artifactTransfers := server.artifactTransfers.insert begin.artifactId.text
        (.opened begin connection.connectionEpoch) }, .ok ()) := by
  have valid : begin.validate = .ok () := ArtifactBeginEnvelope.validate_ok.mpr declared
  have protocol : validateProtocolVersion (ArtifactMessage.start begin).protocol = .ok () :=
    validateProtocolVersion_ok.mpr declared.protocol
  have typed : (ArtifactMessage.start begin).validateTypedEnvelope = .ok () :=
    bind_ok.mpr ⟨(), protocol, bind_ok.mpr ⟨(), valid, valid⟩⟩
  have absent : server.artifactTransfers.contains begin.artifactId.text = false := by
    rw [Table.contains, fresh]
    rfl
  unfold TransferServer.dispatch
  rw [typed]
  dsimp only
  unfold TransferServer.handleArtifactBegin
  rw [connected]
  dsimp only
  rw [absent, if_neg Bool.false_ne_true, if_neg (Nat.not_le_of_lt few), if_neg (Nat.not_lt_of_le within),
    ArtifactTransferProgress.start_ok.mpr ⟨declared, rfl⟩]
  rfl

theorem handleArtifactChunk_accepts {progress : ArtifactTransferProgress}
    (small : chunk.bytes.length ≤ server.limits.maxArtifactChunkBytes)
    (received : server.artifactBudget.receive chunk.bytes.length = .ok budget)
    (found : server.artifactTransfers.get? chunk.artifactId.text = some transfer)
    (accepted : transfer.progress.acceptChunk chunk = .ok progress) :
    server.handleArtifactChunk chunk =
      ({ server with
        artifactBudget := budget
        artifactTransfers := server.artifactTransfers.insert chunk.artifactId.text
          { transfer with progress, bytes := transfer.bytes ++ chunk.bytes } }, .ok ()) := by
  unfold TransferServer.handleArtifactChunk
  dsimp only
  rw [if_neg (Nat.not_lt_of_le small), received]
  dsimp only
  rw [found]
  dsimp only
  rw [accepted]

theorem handleArtifactEnd_accepts (found : server.artifactTransfers.get? finish.artifactId.text = some transfer)
    (complete : transfer.progress.validateComplete = .ok ())
    (valid : finish.validateAgainst transfer.begin transfer.bytes = .ok ())
    (released : server.artifactBudget.release transfer.bytes.length = .ok budget) :
    (server.handleArtifactEnd finish).2 = .ok () := by
  unfold TransferServer.handleArtifactEnd
  dsimp only
  rw [found]
  dsimp only
  rw [bind_of_ok complete, valid, released]

theorem dispatch_chunk (typed : (ArtifactMessage.chunk chunk).validateTypedEnvelope = .ok ()) :
    server.dispatch (.chunk chunk) = server.handleArtifactChunk chunk := by
  unfold TransferServer.dispatch
  rw [typed]

theorem dispatch_finish (typed : (ArtifactMessage.finish finish).validateTypedEnvelope = .ok ()) :
    server.dispatch (.finish finish) = server.handleArtifactEnd finish := by
  unfold TransferServer.dispatch
  rw [typed]

theorem dispatch_handles (answered : server.dispatch message = (after, outcome)) :
    Handles server after message outcome := by
  unfold TransferServer.dispatch at answered
  split at answered
  next =>
    cases answered
    exact .refused rfl rfl
  next =>
    cases message with
    | start begin => exact handleArtifactBegin_handles answered
    | chunk chunk => exact handleArtifactChunk_handles answered
    | finish finish => exact handleArtifactEnd_handles answered

end Server

end AgentycHost
