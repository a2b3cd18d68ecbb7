import AgentycHost.Effects.Transfers
import AgentycHost.Effects.Wire
import AgentycHost.Shared.Keyed

set_option autoImplicit false

/-! # The account and the integrity of artifact transfers -/

namespace AgentycHost

open Shared

section History

/-- The chunk of an artifact that an exchange delivers. -/
def deliveredChunk (id : ArtifactId) (exchange : Exchange) : Option ArtifactChunkEnvelope :=
  match exchange.message, exchange.outcome with
  | .chunk chunk, .ok () => if chunk.artifactId = id then some chunk else none
  | _, _ => none

def deliveredChunks (id : ArtifactId) (moments : List (Moment TransferServer Exchange)) : List ArtifactChunkEnvelope :=
  moments.reverse.filterMap fun moment => deliveredChunk id moment.label

/-- A declaration was accepted, its transfer has stayed open since, and these chunks were accepted for it. -/
structure SentSince (trace : List (Moment TransferServer Exchange)) (begin : ArtifactBeginEnvelope)
    (chunks : List ArtifactChunkEnvelope) : Prop where
  since : ∃ later opening earlier, trace = later ++ opening :: earlier ∧
    opening.label = ⟨.start begin, .ok ()⟩ ∧
    (∀ moment, moment ∈ later -> moment.after.artifactTransfers.contains begin.artifactId.text = true) ∧
    deliveredChunks begin.artifactId later = chunks

/-- Each chunk stands at the place it declares and has the length that the declaration leaves for that place. -/
def InOrder (begin : ArtifactBeginEnvelope) (chunks : List ArtifactChunkEnvelope) : Prop :=
  ∀ index chunk, chunks[index]? = some chunk ->
    chunk.chunkSequence = index ∧ chunk.bytes.length = begin.lengthOf index

def assembled (chunks : List ArtifactChunkEnvelope) : List UInt8 := chunks.flatMap ArtifactChunkEnvelope.bytes

structure FollowsTransfer (trace : List (Moment TransferServer Exchange)) (key : String) (transfer : LocalArtifactTransfer) :
    Prop where
  key_text : key = transfer.begin.artifactId.text
  begin_same : transfer.progress.begin = transfer.begin
  id_same : transfer.progress.artifactId = transfer.begin.artifactId
  declared : Declared transfer.begin
  chunks : ∃ chunks, SentSince trace transfer.begin chunks ∧ InOrder transfer.begin chunks ∧
    transfer.bytes = assembled chunks ∧ transfer.progress.nextChunkSequence = chunks.length ∧
    transfer.progress.receivedBytes = transfer.bytes.length

def buffered (server : TransferServer) : Nat :=
  server.artifactTransfers.total fun _ transfer => transfer.bytes.length

structure Accounted (trace : List (Moment TransferServer Exchange)) (server : TransferServer) : Prop where
  inFlight : server.artifactBudget.inFlightBytes = buffered server
  transfers : ∀ key transfer, server.artifactTransfers.get? key = some transfer -> FollowsTransfer trace key transfer

variable {trace : List (Moment TransferServer Exchange)} {server after : TransferServer} {message : ArtifactMessage}
  {outcome : Except HostError Unit} {begin : ArtifactBeginEnvelope} {chunks : List ArtifactChunkEnvelope} {key : String}
  {transfer : LocalArtifactTransfer}

theorem SentSince.opening (begin : ArtifactBeginEnvelope) :
    SentSince (⟨server, ⟨.start begin, .ok ()⟩, after⟩ :: trace) begin [] :=
  ⟨[], _, trace, rfl, rfl, (fun _ inside => by cases inside), rfl⟩

theorem SentSince.later (sent : SentSince trace begin chunks)
    (open_ : after.artifactTransfers.contains begin.artifactId.text = true) :
    SentSince (⟨server, ⟨message, outcome⟩, after⟩ :: trace) begin
      (chunks ++ (deliveredChunk begin.artifactId ⟨message, outcome⟩).toList) := by
  obtain ⟨later, opening, earlier, rfl, opened, still, rfl⟩ := sent.since
  refine ⟨_ :: later, opening, earlier, rfl, opened, ?_, ?_⟩
  · intro moment inside
    rcases List.mem_cons.mp inside with rfl | inside
    · exact open_
    · exact still moment inside
  · rw [deliveredChunks, List.reverse_cons, List.filterMap_append, deliveredChunks]
    congr 1

theorem InOrder.nil (begin : ArtifactBeginEnvelope) : InOrder begin [] := by
  intro index chunk at_
  cases at_

theorem InOrder.snoc (ordered : InOrder begin chunks) {chunk : ArtifactChunkEnvelope}
    (place : chunk.chunkSequence = chunks.length) (length : chunk.bytes.length = begin.lengthOf chunk.chunkSequence) :
    InOrder begin (chunks ++ [chunk]) := by
  intro index other at_
  rcases Nat.lt_trichotomy index chunks.length with before | rfl | beyond
  · rw [List.getElem?_append_left before] at at_
    exact ordered index other at_
  · rw [List.getElem?_concat_length] at at_
    cases at_
    exact ⟨place, place ▸ length⟩
  · rw [List.getElem?_eq_none (by rw [List.length_append]; exact beyond)] at at_
    cases at_

theorem FollowsTransfer.kept (follows : FollowsTransfer trace key transfer)
    (open_ : after.artifactTransfers.contains key = true)
    (other : deliveredChunk transfer.begin.artifactId ⟨message, outcome⟩ = none) :
    FollowsTransfer (⟨server, ⟨message, outcome⟩, after⟩ :: trace) key transfer := by
  obtain ⟨chunks, sent, rest⟩ := follows.chunks
  have later : SentSince (⟨server, ⟨message, outcome⟩, after⟩ :: trace) transfer.begin _ :=
    sent.later (follows.key_text ▸ open_)
  rw [other, Option.toList_none, List.append_nil] at later
  exact ⟨follows.key_text, follows.begin_same, follows.id_same, follows.declared, chunks, later, rest⟩

end History

section Account

variable {trace : List (Moment TransferServer Exchange)} {server after start last : TransferServer}
  {message : ArtifactMessage} {outcome : Except HostError Unit} {key : String} {transfer : LocalArtifactTransfer}

theorem buffered_insert (transfers : after.artifactTransfers = server.artifactTransfers.insert key transfer) :
    buffered after + ((server.artifactTransfers.get? key).map fun old => old.bytes.length).getD 0 =
      buffered server + transfer.bytes.length := by
  rw [buffered, transfers]
  exact Table.total_insert server.artifactTransfers _ key transfer

theorem buffered_erase (found : server.artifactTransfers.get? key = some transfer)
    (transfers : after.artifactTransfers = server.artifactTransfers.erase key) :
    buffered server = buffered after + transfer.bytes.length := by
  have split := Table.total_erase server.artifactTransfers (fun _ transfer => transfer.bytes.length) key
  rw [Table.weight, found, ← transfers] at split
  exact split

theorem Accounted.initial (empty : server.artifactTransfers = ∅) (idle : server.artifactBudget.inFlightBytes = 0) :
    Accounted [] server := by
  refine ⟨?_, ?_⟩
  · rw [buffered, empty, idle]
    rfl
  · intro key transfer found
    rw [empty, Table.get?_empty] at found
    cases found

theorem delivered_refused (id : ArtifactId) (message : ArtifactMessage) (error : HostError) :
    deliveredChunk id ⟨message, .error error⟩ = none := by
  cases message <;> rfl

theorem delivered_other {id : ArtifactId} {chunk : ArtifactChunkEnvelope} (other : id.text ≠ chunk.artifactId.text) :
    deliveredChunk id ⟨.chunk chunk, .ok ()⟩ = none := by
  refine if_neg fun same => other ?_
  rw [same]

theorem Accounted.keeps (accounted : Accounted trace server) {key : String} {transfer : LocalArtifactTransfer}
    (found : after.artifactTransfers.get? key = some transfer)
    (before : server.artifactTransfers.get? key = some transfer)
    (other : deliveredChunk transfer.begin.artifactId ⟨message, outcome⟩ = none) :
    FollowsTransfer (⟨server, ⟨message, outcome⟩, after⟩ :: trace) key transfer := by
  refine (accounted.transfers key transfer before).kept ?_ other
  rw [Table.contains, found]
  rfl

theorem FollowsTransfer.received {chunk : ArtifactChunkEnvelope} {progress : ArtifactTransferProgress}
    (follows : FollowsTransfer trace key transfer) (accepted : transfer.progress.acceptChunk chunk = .ok progress)
    (open_ : after.artifactTransfers.contains key = true) :
    FollowsTransfer (⟨server, ⟨.chunk chunk, .ok ()⟩, after⟩ :: trace) key
      { transfer with progress, bytes := transfer.bytes ++ chunk.bytes } := by
  obtain ⟨valid, _, _, next, _, rfl⟩ := ArtifactTransferProgress.acceptChunk_ok.mp accepted
  rw [follows.begin_same] at valid
  obtain ⟨_, _, same, _, length, _⟩ := ArtifactChunkEnvelope.validateAgainst_ok.mp valid
  obtain ⟨chunks, sent, ordered, held, place, size⟩ := follows.chunks
  have delivered : deliveredChunk transfer.begin.artifactId ⟨.chunk chunk, .ok ()⟩ = some chunk := if_pos same
  have later : SentSince (⟨server, ⟨.chunk chunk, .ok ()⟩, after⟩ :: trace) transfer.begin _ :=
    sent.later (follows.key_text ▸ open_)
  rw [delivered, Option.toList_some] at later
  refine ⟨follows.key_text, follows.begin_same, follows.id_same, follows.declared, _, later,
    ordered.snoc (next.trans place) length, ?_, ?_, ?_⟩
  · rw [assembled, List.flatMap_append, List.flatMap_singleton, held, assembled]
  · rw [List.length_append, List.length_singleton, place]
  · rw [List.length_append, size]

theorem Accounted.step (accounted : Accounted trace server) (handles : Handles server after message outcome) :
    Accounted (⟨server, ⟨message, outcome⟩, after⟩ :: trace) after := by
  cases handles with
  | refused transfers inFlight =>
    refine ⟨?_, ?_⟩
    · rw [inFlight, accounted.inFlight, buffered, buffered, transfers]
    · intro key transfer found
      exact accounted.keeps found (transfers ▸ found) (delivered_refused _ _ _)
  | begun connected declared fresh within opened =>
    have transfers := congrArg TransferServer.artifactTransfers opened
    refine ⟨?_, ?_⟩
    · have grown := buffered_insert transfers
      rw [fresh] at grown
      rw [opened] at grown ⊢
      exact accounted.inFlight.trans grown.symm
    · intro key transfer found
      have lookup := found
      rw [transfers, Table.get?_insert] at lookup
      split_ifs at lookup with same
      · cases lookup
        exact ⟨same, rfl, rfl, declared, [], .opening _, .nil _, rfl, rfl, rfl⟩
      · exact accounted.keeps found lookup rfl
  | received opened accepted transfers budget =>
    refine ⟨?_, ?_⟩
    · have grown := buffered_insert transfers
      obtain ⟨_, _, received⟩ := ArtifactTransferBudget.receive_ok.mp budget
      rw [opened] at grown
      rw [received, accounted.inFlight]
      simp only [Option.map_some, Option.getD_some, List.length_append] at grown
      dsimp only
      omega
    · intro key transfer found
      have lookup := found
      rw [transfers, Table.get?_insert] at lookup
      split_ifs at lookup with same
      · cases lookup
        rw [same]
        refine (accounted.transfers _ _ opened).received accepted ?_
        rw [transfers, Table.contains, Table.get?_insert_self]
        rfl
      · have follows := accounted.transfers _ _ lookup
        refine accounted.keeps found lookup (delivered_other ?_)
        rw [← follows.key_text]
        exact same
  | ended opened transfers budget complete =>
    have shrunk := buffered_erase opened transfers
    have fits := accounted.inFlight
    refine ⟨?_, ?_⟩
    · rw [budget (by omega)]
      omega
    · intro key transfer found
      have lookup := found
      rw [transfers, Table.get?_erase] at lookup
      split_ifs at lookup with same
      exact accounted.keeps found lookup rfl

theorem TransferRun.accounted (run : TransferRun start trace last) (empty : start.artifactTransfers = ∅)
    (idle : start.artifactBudget.inFlightBytes = 0) : Accounted trace last := by
  induction run with
  | nil => exact .initial empty idle
  | step _ taken ih => exact ih.step (dispatch_handles taken)

end Account

section Integrity

variable {trace : List (Moment TransferServer Exchange)} {start last : TransferServer}

/-- The bytes of an accepted artifact: its declared chunks in order, each once, of the declared length and digest. -/
structure DeliversArtifact (trace : List (Moment TransferServer Exchange)) (server : TransferServer)
    (finish : ArtifactEndEnvelope) : Prop where
  whole : ∃ transfer chunks, server.artifactTransfers.get? finish.artifactId.text = some transfer ∧
    SentSince trace transfer.begin chunks ∧ InOrder transfer.begin chunks ∧
    chunks.length = transfer.begin.chunkCount ∧ transfer.bytes = assembled chunks ∧
    CompletesTransfer finish transfer.begin transfer.bytes

theorem Accounted.delivers {server after : TransferServer} {finish : ArtifactEndEnvelope}
    (accounted : Accounted trace server) (accepted : server.dispatch (.finish finish) = (after, .ok ())) :
    DeliversArtifact trace server finish := by
  cases dispatch_handles accepted with
  | ended opened _ _ complete =>
    obtain ⟨ended, completes⟩ := complete rfl
    obtain ⟨_, last, _⟩ := ArtifactTransferProgress.validateComplete_ok.mp ended
    have follows := accounted.transfers _ _ opened
    obtain ⟨chunks, sent, ordered, held, place, _⟩ := follows.chunks
    refine ⟨_, chunks, opened, sent, ordered, ?_, held, completes⟩
    rw [← place, last, follows.begin_same]

/-- On every run of artifact envelopes the budget in flight is what the transfers hold; no difference of declared
sizes and no release goes below zero; and an end is accepted for the declared bytes only. -/
theorem artifact_transfers_sound (run : TransferRun start trace last) (empty : start.artifactTransfers = ∅)
    (unspent : start.artifactBudget = {}) :
    last.artifactBudget.inFlightBytes = buffered last ∧
    (∀ (chunk : ArtifactChunkEnvelope) transfer,
      last.artifactTransfers.get? chunk.artifactId.text = some transfer ->
      chunk.chunkSequence < transfer.progress.begin.chunkCount ->
        chunk.priorBytes transfer.progress.begin ≤ transfer.progress.begin.totalBytes) ∧
    (∀ size budget, last.artifactBudget.receive size = .ok budget -> (budget.release size).isOk = true) ∧
    (∀ key transfer, last.artifactTransfers.get? key = some transfer ->
      (last.artifactBudget.release transfer.bytes.length).isOk = true) ∧
    ∀ finish after, last.dispatch (.finish finish) = (after, .ok ()) -> DeliversArtifact trace last finish := by
  have accounted := run.accounted empty (by rw [unspent])
  refine ⟨accounted.inFlight, ?_, ?_, ?_, fun finish after accepted => accounted.delivers accepted⟩
  · intro chunk transfer found inside
    have follows := accounted.transfers _ _ found
    rw [follows.begin_same] at inside ⊢
    exact follows.declared.prior_le inside
  · intro size budget received
    obtain ⟨_, _, rfl⟩ := ArtifactTransferBudget.receive_ok.mp received
    rw [ArtifactTransferBudget.release_ok.mpr ⟨Nat.le_add_left _ _, rfl⟩]
    rfl
  · intro key transfer found
    have held : last.artifactBudget.inFlightBytes = _ := accounted.inFlight.trans
      (Table.total_erase last.artifactTransfers (fun _ transfer => transfer.bytes.length) key)
    rw [Table.weight, found, Option.map_some, Option.getD_some] at held
    rw [ArtifactTransferBudget.release_ok.mpr ⟨by omega, rfl⟩]
    rfl

end Integrity

section Sample

def TransferServer.sendAll (server : TransferServer) (messages : List ArtifactMessage) : TransferServer :=
  messages.foldl (fun server message => (server.dispatch message).1) server

theorem TransferRun.sends {start server : TransferServer} {trace : List (Moment TransferServer Exchange)}
    (run : TransferRun start trace server) (messages : List ArtifactMessage) :
    ∃ trace, TransferRun start trace (server.sendAll messages) := by
  induction messages generalizing server trace with
  | nil => exact ⟨trace, run⟩
  | cons message rest ih =>
    have taken : exchangeStep ⟨message, (server.dispatch message).2⟩ server (server.dispatch message).1 := rfl
    exact ih (run.step taken)

theorem sampleArtifact_valid : validateIdentifier "artifact_" "a" = true := by decide

def sampleArtifact : ArtifactId := ⟨"a", sampleArtifact_valid⟩

def sampleBegin (octets : List UInt8) (chunkSize : Nat) : ArtifactBeginEnvelope where
  protocol := protocolVersion
  artifactId := sampleArtifact
  requestId := none
  artifactKind := .binary
  totalBytes := octets.length
  chunkSize
  chunkCount := divCeil octets.length chunkSize
  digestAlgorithm := .fnv1a64
  digest := .fromBytes octets
  redacted := true

def sampleChunk (sequence : Nat) (octets : List UInt8) : ArtifactChunkEnvelope :=
  ⟨protocolVersion, sampleArtifact, 1, sequence, octets⟩

def sampleEnd (octets : List UInt8) (chunkSize : Nat) : ArtifactEndEnvelope where
  protocol := protocolVersion
  artifactId := sampleArtifact
  totalBytes := octets.length
  chunkCount := divCeil octets.length chunkSize
  digestAlgorithm := .fnv1a64
  digest := .fromBytes octets

theorem firstEpoch_numbered : 0 < 1 ∧ 1 ≤ u64Max := by decide

def sampleTransferServer : TransferServer := .connected ⟨1, firstEpoch_numbered⟩

def sampleMessages : List ArtifactMessage :=
  [.start (sampleBegin [7, 8, 9] 2), .chunk (sampleChunk 1 [9]), .chunk (sampleChunk 0 [7, 8]),
    .chunk (sampleChunk 0 [7, 8]), .chunk (sampleChunk 1 [9])]

theorem artifact_transfers_sound_sample :
    ∃ trace, TransferRun sampleTransferServer trace (sampleTransferServer.sendAll sampleMessages) ∧
      DeliversArtifact trace (sampleTransferServer.sendAll sampleMessages) (sampleEnd [7, 8, 9] 2) := by
  have start : TransferRun sampleTransferServer [] sampleTransferServer := .nil
  obtain ⟨trace, run⟩ := TransferRun.sends start sampleMessages
  obtain ⟨_, _, _, _, whole⟩ := artifact_transfers_sound run rfl rfl
  refine ⟨trace, run, whole _ _ (Prod.ext rfl ?_)⟩
  exact toBool_ok.mp (by decide)

end Sample

end AgentycHost

/-! # Which artifacts can be transferred -/

namespace AgentycHost

open Shared

variable {server opened : TransferServer} {connection : HostConnection} {index : Nat} {reader : SerdeReader}
  {client : ProtocolClient}

section Sender

/-- A byte string with the chunk size that its sender chooses. -/
structure Artifact where
  artifactId : ArtifactId
  requestId : Option RequestId
  artifactKind : ArtifactKind
  bytes : List UInt8
  chunkSize : Nat
  redacted : Bool

namespace Artifact

variable (artifact : Artifact)

def chunkCount : Nat := divCeil artifact.bytes.length artifact.chunkSize

def declaration : ArtifactBeginEnvelope where
  protocol := protocolVersion
  artifactId := artifact.artifactId
  requestId := artifact.requestId
  artifactKind := artifact.artifactKind
  totalBytes := artifact.bytes.length
  chunkSize := artifact.chunkSize
  chunkCount := artifact.chunkCount
  digestAlgorithm := .fnv1a64
  digest := .fromBytes artifact.bytes
  redacted := artifact.redacted

def chunk (epoch : ConnectionEpoch) (index : Nat) : ArtifactChunkEnvelope where
  protocol := protocolVersion
  artifactId := artifact.artifactId
  connectionEpoch := epoch
  chunkSequence := index
  bytes := (artifact.bytes.drop (index * artifact.chunkSize)).take artifact.chunkSize

def completion : ArtifactEndEnvelope where
  protocol := protocolVersion
  artifactId := artifact.artifactId
  totalBytes := artifact.bytes.length
  chunkCount := artifact.chunkCount
  digestAlgorithm := .fnv1a64
  digest := .fromBytes artifact.bytes

def chunksFrom (epoch : ConnectionEpoch) (first count : Nat) : List ArtifactMessage :=
  (List.range' first count).map fun index => .chunk (artifact.chunk epoch index)

/-- What follows the declaration: the chunks in order and the end. -/
def messages (epoch : ConnectionEpoch) : List ArtifactMessage :=
  artifact.chunksFrom epoch 0 artifact.chunkCount ++ [.finish artifact.completion]

def upTo (index : Nat) : List UInt8 := artifact.bytes.take (index * artifact.chunkSize)

def stage (server : TransferServer) (epoch : ConnectionEpoch) (index : Nat) : TransferServer where
  limits := server.limits
  connection := server.connection
  artifactTransfers := (∅ : Table String LocalArtifactTransfer).insert artifact.artifactId.text
    { progress := ⟨artifact.artifactId, artifact.declaration, epoch, index, (artifact.upTo index).length⟩
      begin := artifact.declaration
      bytes := artifact.upTo index }
  artifactBudget := { inFlightBytes := (artifact.upTo index).length, cumulativeBytes := (artifact.upTo index).length }

end Artifact

end Sender

section Chunks

variable {artifact : Artifact}

theorem Artifact.upTo_succ (artifact : Artifact) (epoch : ConnectionEpoch) (index : Nat) :
    artifact.upTo (index + 1) = artifact.upTo index ++ (artifact.chunk epoch index).bytes := by
  rw [upTo, Nat.add_mul, Nat.one_mul, List.take_add, upTo, chunk]

theorem Artifact.upTo_all (artifact : Artifact) (declared : Declared artifact.declaration) :
    artifact.upTo artifact.chunkCount = artifact.bytes := by
  apply List.take_of_length_le
  exact (divCeil_le declared.positive).mp (Nat.le_refl _)

theorem Artifact.chunk_length (declared : Declared artifact.declaration) (inside : index < artifact.chunkCount)
    (epoch : ConnectionEpoch) : (artifact.chunk epoch index).bytes.length = artifact.declaration.lengthOf index := by
  have whole : artifact.bytes.length ≤ artifact.chunkCount * artifact.chunkSize :=
    (divCeil_le declared.positive).mp (Nat.le_refl _)
  simp only [chunk, List.length_take, List.length_drop]
  by_cases final : index + 1 = artifact.chunkCount
  next =>
    have left : artifact.declaration.lengthOf index = artifact.bytes.length - index * artifact.chunkSize := if_pos final
    rw [← final, Nat.add_mul, Nat.one_mul] at whole
    omega
  next =>
    have more : (index + 1) * artifact.chunkSize ≤ artifact.bytes.length :=
      declared.prior_le (Nat.lt_of_le_of_ne inside final)
    have full : artifact.declaration.lengthOf index = artifact.chunkSize := if_neg final
    rw [Nat.add_mul, Nat.one_mul] at more
    omega

theorem Artifact.chunk_small (artifact : Artifact) (epoch : ConnectionEpoch) (index : Nat) :
    (artifact.chunk epoch index).bytes.length ≤ artifact.chunkSize := by
  rw [chunk, List.length_take]
  exact Nat.min_le_left _ _

theorem Artifact.chunk_formed (declared : Declared artifact.declaration) (inside : index < artifact.chunkCount)
    (connection : HostConnection) : WellFormed (.chunk (artifact.chunk connection.connectionEpoch index)) := by
  have few : artifact.chunkCount ≤ maxArtifactChunks := declared.few
  have valid : (artifact.chunk connection.connectionEpoch index).validate = .ok () :=
    ArtifactChunkEnvelope.validate_ok.mpr ⟨rfl, Nat.le_trans (artifact.chunk_small _ _) declared.size⟩
  refine ⟨bind_ok.mpr ⟨(), rfl, bind_ok.mpr ⟨(), valid, valid⟩⟩, wire_chunk_passes valid connection.numbered ?_⟩
  exact Nat.le_trans (Nat.le_of_lt inside) (Nat.le_trans few (by decide))

theorem Artifact.completion_formed (declared : Declared artifact.declaration) :
    WellFormed (.finish artifact.completion) := by
  have valid : artifact.completion.validate = .ok () :=
    ArtifactEndEnvelope.validate_ok.mpr ⟨rfl, declared.total, declared.few⟩
  exact ⟨bind_ok.mpr ⟨(), rfl, bind_ok.mpr ⟨(), valid, valid⟩⟩, wire_finish_passes valid⟩

theorem Artifact.upTo_le (artifact : Artifact) (index : Nat) : (artifact.upTo index).length ≤ artifact.bytes.length := by
  rw [upTo, List.length_take]
  exact Nat.min_le_right _ _

theorem Artifact.grown (artifact : Artifact) (epoch : ConnectionEpoch) (index : Nat) :
    (artifact.upTo (index + 1)).length = (artifact.upTo index).length + (artifact.chunk epoch index).bytes.length := by
  rw [artifact.upTo_succ epoch, List.length_append]

theorem Artifact.stage_found (artifact : Artifact) (server : TransferServer) (epoch : ConnectionEpoch) (index : Nat) :
    (artifact.stage server epoch index).artifactTransfers.get? artifact.artifactId.text =
      some { progress := ⟨artifact.artifactId, artifact.declaration, epoch, index, (artifact.upTo index).length⟩
             begin := artifact.declaration
             bytes := artifact.upTo index } :=
  Table.get?_insert_self _ _ _

theorem Artifact.stage_accepts (declared : Declared artifact.declaration) (inside : index < artifact.chunkCount)
    (connection : HostConnection) (within : artifact.chunkSize ≤ server.limits.maxArtifactChunkBytes)
    (fits : (artifact.upTo (index + 1)).length ≤ maxInFlightArtifactBytes) :
    (artifact.stage server connection.connectionEpoch index).dispatch
        (.chunk (artifact.chunk connection.connectionEpoch index)) =
      (artifact.stage server connection.connectionEpoch (index + 1), .ok ()) := by
  have grown := artifact.grown connection.connectionEpoch index
  have part := artifact.upTo_le (index + 1)
  have total : artifact.bytes.length ≤ maxArtifactBytes := declared.total
  have spent : maxArtifactBytes ≤ maxCumulativeArtifactBytes := by decide
  have accepted : (ArtifactTransferProgress.mk artifact.artifactId artifact.declaration connection.connectionEpoch index
      (artifact.upTo index).length).acceptChunk (artifact.chunk connection.connectionEpoch index) = .ok
        ⟨artifact.artifactId, artifact.declaration, connection.connectionEpoch, index + 1,
          (artifact.upTo (index + 1)).length⟩ := by
    refine ArtifactTransferProgress.acceptChunk_ok.mpr ⟨?_, rfl, rfl, rfl, grown ▸ part, by rw [grown]⟩
    exact ArtifactChunkEnvelope.validateAgainst_ok.mpr ⟨rfl, declared, rfl, inside, artifact.chunk_length declared inside _,
      Nat.le_trans (artifact.chunk_small _ _) declared.size⟩
  have received : (artifact.stage server connection.connectionEpoch index).artifactBudget.receive
      (artifact.chunk connection.connectionEpoch index).bytes.length =
        .ok ⟨(artifact.upTo (index + 1)).length, (artifact.upTo (index + 1)).length⟩ := by
    refine ArtifactTransferBudget.receive_ok.mpr ⟨grown ▸ fits, ?_, by rw [grown]; rfl⟩
    exact Nat.le_trans (grown ▸ part) (Nat.le_trans total spent)
  have small : (artifact.chunk connection.connectionEpoch index).bytes.length ≤
      (artifact.stage server connection.connectionEpoch index).limits.maxArtifactChunkBytes :=
    Nat.le_trans (artifact.chunk_small _ _) within
  rw [dispatch_chunk (artifact.chunk_formed declared inside connection).typed,
    handleArtifactChunk_accepts small received (artifact.stage_found server connection.connectionEpoch index) accepted]
  refine Prod.ext ?_ rfl
  simp only [stage, ← artifact.upTo_succ connection.connectionEpoch]
  rw [show (artifact.chunk connection.connectionEpoch index).artifactId = artifact.artifactId from rfl,
    Table.insert_insert]

theorem Artifact.stage_accepted {outcome : TransferServer}
    (accepted : (artifact.stage server connection.connectionEpoch index).dispatch
      (.chunk (artifact.chunk connection.connectionEpoch index)) = (outcome, .ok ())) :
    (artifact.upTo (index + 1)).length ≤ maxInFlightArtifactBytes := by
  cases dispatch_handles accepted with
  | received _ _ _ budget =>
    rw [artifact.grown connection.connectionEpoch]
    exact (ArtifactTransferBudget.receive_ok.mp budget).1

theorem Artifact.stage_completes (declared : Declared artifact.declaration) (server : TransferServer)
    (epoch : ConnectionEpoch) :
    ((artifact.stage server epoch artifact.chunkCount).dispatch (.finish artifact.completion)).2 = .ok () := by
  have whole := artifact.upTo_all declared
  rw [dispatch_finish (artifact.completion_formed declared).typed]
  refine handleArtifactEnd_accepts (artifact.stage_found server epoch artifact.chunkCount) ?_ ?_
    (ArtifactTransferBudget.release_ok.mpr ⟨Nat.le_refl _, rfl⟩)
  · exact ArtifactTransferProgress.validateComplete_ok.mpr ⟨rfl, rfl, congrArg List.length whole⟩
  · rw [whole]
    exact ArtifactEndEnvelope.validateAgainst_ok.mpr ⟨rfl, declared, rfl, rfl, rfl, rfl, rfl, rfl⟩

end Chunks

section Sending

variable {artifact : Artifact} {message : ArtifactMessage}

theorem mapError_unit {outcome : Except HostError Unit} : outcome.mapError WireError.host = .ok () <-> outcome = .ok () := by
  rw [mapError_ok]

theorem Artifact.stage_fits (artifact : Artifact) (epoch : ConnectionEpoch) (index : Nat) :
    FitsFrames client.limits (artifact.stage server epoch index).limits message <->
      FitsFrames client.limits server.limits message := Iff.rfl

theorem Artifact.sends_end (declared : Declared artifact.declaration) (epoch : ConnectionEpoch)
    (reads : FitsFrames client.limits server.limits (.finish artifact.completion) ->
      ReadsBack reader (.finish artifact.completion)) :
    (sendFrames reader client (artifact.stage server epoch artifact.chunkCount) [.finish artifact.completion]).2 = .ok () <->
      FitsFrames client.limits server.limits (.finish artifact.completion) := by
  have formed := artifact.completion_formed declared
  rw [sendFrames_cons]
  constructor
  · intro sent
    exact (artifact.stage_fits epoch artifact.chunkCount).mp (sendFrame_ok_fits formed sent.1)
  · intro fits
    refine ⟨?_, rfl⟩
    rw [sendFrame_fits formed (reads fits) ((artifact.stage_fits epoch artifact.chunkCount).mpr fits)]
    exact mapError_unit.mpr (artifact.stage_completes declared server epoch)

theorem Artifact.sends_chunk (declared : Declared artifact.declaration) (inside : index < artifact.chunkCount)
    (within : artifact.chunkSize ≤ server.limits.maxArtifactChunkBytes)
    (named : message = .chunk (artifact.chunk connection.connectionEpoch index))
    (reads : FitsFrames client.limits server.limits message -> ReadsBack reader message) :
    ((sendFrame reader client (artifact.stage server connection.connectionEpoch index) message).2 = .ok () ->
      (artifact.upTo (index + 1)).length ≤ maxInFlightArtifactBytes ∧ FitsFrames client.limits server.limits message) ∧
    ((artifact.upTo (index + 1)).length ≤ maxInFlightArtifactBytes -> FitsFrames client.limits server.limits message ->
      sendFrame reader client (artifact.stage server connection.connectionEpoch index) message =
        (artifact.stage server connection.connectionEpoch (index + 1), .ok ())) := by
  subst named
  have formed := artifact.chunk_formed declared inside connection
  constructor
  · intro sent
    have fits := (artifact.stage_fits connection.connectionEpoch index).mp (sendFrame_ok_fits formed sent)
    rw [sendFrame_fits formed (reads fits) ((artifact.stage_fits connection.connectionEpoch index).mpr fits)] at sent
    exact ⟨artifact.stage_accepted (Prod.ext rfl (mapError_unit.mp sent)), fits⟩
  · intro small fits
    rw [sendFrame_fits formed (reads fits) ((artifact.stage_fits connection.connectionEpoch index).mpr fits),
      artifact.stage_accepts declared inside connection within small]
    rfl

theorem Artifact.sends_from (declared : Declared artifact.declaration) (connection : HostConnection)
    (within : artifact.chunkSize ≤ server.limits.maxArtifactChunkBytes) (count : Nat) :
    ∀ index, index + count = artifact.chunkCount ->
    (∀ message, message ∈ artifact.chunksFrom connection.connectionEpoch index count ++ [.finish artifact.completion] ->
      FitsFrames client.limits server.limits message -> ReadsBack reader message) ->
    ((sendFrames reader client (artifact.stage server connection.connectionEpoch index)
        (artifact.chunksFrom connection.connectionEpoch index count ++ [.finish artifact.completion])).2 = .ok () <->
      (∀ later, index < later -> later ≤ artifact.chunkCount ->
        (artifact.upTo later).length ≤ maxInFlightArtifactBytes) ∧
      ∀ message, message ∈ artifact.chunksFrom connection.connectionEpoch index count ++ [.finish artifact.completion] ->
        FitsFrames client.limits server.limits message) := by
  induction count with
  | zero =>
    intro index whole reads
    rw [Nat.add_zero] at whole
    subst whole
    rw [chunksFrom, List.range'_zero, List.map_nil, List.nil_append] at reads ⊢
    rw [artifact.sends_end declared connection.connectionEpoch (reads _ (List.mem_singleton_self _))]
    constructor
    · intro fits
      refine ⟨fun later above below => by omega, fun message inside => ?_⟩
      rwa [List.mem_singleton.mp inside]
    · exact fun holds => holds.2 _ (List.mem_singleton_self _)
  | succ count ih =>
    intro index whole reads
    have inside : index < artifact.chunkCount := by omega
    rw [chunksFrom, List.range'_succ, List.map_cons, List.cons_append] at reads ⊢
    obtain ⟨given, taken⟩ := artifact.sends_chunk declared inside within rfl (reads _ List.mem_cons_self)
    have rest := ih (index + 1) (by omega) fun message member => reads message (List.mem_cons_of_mem _ member)
    rw [sendFrames_cons]
    constructor
    · rintro ⟨sent, others⟩
      obtain ⟨small, fits⟩ := given sent
      rw [taken small fits] at others
      obtain ⟨smaller, all⟩ := rest.mp others
      refine ⟨fun later above below => ?_, fun message member => ?_⟩
      · rcases Nat.lt_or_eq_of_le (Nat.succ_le_of_lt above) with beyond | rfl
        · exact smaller later beyond below
        · exact small
      · rcases List.mem_cons.mp member with rfl | member
        · exact fits
        · exact all message member
    · rintro ⟨small, all⟩
      have next := taken (small (index + 1) (Nat.lt_succ_self _) inside) (all _ List.mem_cons_self)
      rw [next]
      refine ⟨rfl, rest.mpr ⟨fun later above below => small later (by omega) below, fun message member => ?_⟩⟩
      exact all message (List.mem_cons_of_mem _ member)

/-- An artifact whose declaration is accepted gets through when it stays within the bytes in flight and each of its
envelopes within the bounds of a frame, and not otherwise. -/
theorem artifact_transferable_iff (reader : SerdeReader) (client : ProtocolClient) (server opened : TransferServer)
    (artifact : Artifact) (connection : HostConnection) (connected : server.connection = some connection)
    (idle : server.artifactTransfers = ∅) (unspent : server.artifactBudget = {})
    (admitted : server.dispatch (.start artifact.declaration) = (opened, .ok ()))
    (reads : ∀ message, message ∈ artifact.messages connection.connectionEpoch ->
      FitsFrames client.limits server.limits message -> ReadsBack reader message) :
    (sendFrames reader client opened (artifact.messages connection.connectionEpoch)).2 = .ok () <->
      artifact.bytes.length ≤ maxInFlightArtifactBytes ∧
        ∀ message, message ∈ artifact.messages connection.connectionEpoch ->
          FitsFrames client.limits server.limits message := by
  cases dispatch_handles admitted with
  | begun known declared fresh within begun =>
    rw [connected] at known
    cases known
    have start : opened = artifact.stage server connection.connectionEpoch 0 := by
      rw [begun, idle]
      unfold Artifact.stage Artifact.upTo
      rw [Nat.zero_mul, List.take_zero, unspent]
      rfl
    have sends := artifact.sends_from declared connection within artifact.chunkCount 0 (Nat.zero_add _) reads
    rw [start, Artifact.messages, sends]
    refine and_congr_left fun _ => ⟨fun small => ?_, fun small later _ _ => ?_⟩
    · have whole := artifact.upTo_all declared
      rcases Nat.eq_zero_or_pos artifact.chunkCount with none | some
      · rw [none] at whole
        rw [← whole, Artifact.upTo, Nat.zero_mul, List.take_zero]
        exact Nat.zero_le _
      · rw [← whole]
        exact small _ some (Nat.le_refl _)
    · exact Nat.le_trans (artifact.upTo_le later) small

end Sending

section Samples

def freshServer : TransferServer := .connected ⟨1, by decide⟩

def sampleArtifactOf (octets : List UInt8) (chunkSize : Nat) : Artifact :=
  ⟨⟨"a", by decide⟩, none, .binary, octets, chunkSize, true⟩

def wideArtifact : Artifact := sampleArtifactOf (List.replicate (262143 + 1) 255) (262143 + 1)

theorem wideArtifact_count : wideArtifact.chunkCount = 1 := by
  unfold Artifact.chunkCount wideArtifact sampleArtifactOf
  rw [List.length_replicate]
  rfl

theorem Artifact.declared (artifact : Artifact) (total : artifact.bytes.length ≤ maxArtifactBytes)
    (positive : 0 < artifact.chunkSize) (size : artifact.chunkSize ≤ maxArtifactChunkBytes)
    (few : artifact.chunkCount ≤ maxArtifactChunks) : Declared artifact.declaration :=
  ⟨rfl, total, positive, size, few, rfl⟩

theorem wideArtifact_declared : Declared wideArtifact.declaration := by
  have length : wideArtifact.bytes.length = 262143 + 1 := List.length_replicate
  have size : wideArtifact.chunkSize = 262143 + 1 := rfl
  apply wideArtifact.declared
  · rw [length]
    decide
  · rw [size]
    decide
  · rw [size]
    decide
  · rw [wideArtifact_count]
    decide

theorem wideArtifact_chunk (epoch : ConnectionEpoch) :
    (wideArtifact.chunk epoch 0).bytes = List.replicate (262143 + 1) 255 := by
  unfold Artifact.chunk wideArtifact sampleArtifactOf
  rw [Nat.zero_mul, List.drop_zero, List.take_of_length_le]
  rw [List.length_replicate]

/-- The chunk of an admitted artifact that the client cannot put into a frame. -/
theorem wide_artifact_stuck : ¬ ∀ (reader : SerdeReader) (client : ProtocolClient) (server opened : TransferServer)
    (artifact : Artifact) (connection : HostConnection), server.connection = some connection ->
    server.artifactTransfers = ∅ -> server.artifactBudget = {} ->
    server.dispatch (.start artifact.declaration) = (opened, .ok ()) ->
    (∀ message, message ∈ artifact.messages connection.connectionEpoch ->
      FitsFrames client.limits server.limits message -> ReadsBack reader message) ->
    (sendFrames reader client opened (artifact.messages connection.connectionEpoch)).2 = .ok () := by
  intro claim
  have large : ¬ FitsFrames .default .default (.chunk (wideArtifact.chunk 1 0)) := by
    intro fits
    have size := Nat.le_trans (chunk_size_ge _) fits.sent
    rw [wideArtifact_chunk, threeDigits_size] at size
    exact absurd size (by decide)
  have messages : wideArtifact.messages 1 = [.chunk (wideArtifact.chunk 1 0), .finish wideArtifact.completion] := by
    unfold Artifact.messages
    rw [wideArtifact_count]
    rfl
  let reader : SerdeReader :=
    ⟨fun _ => some (ArtifactMessage.finish wideArtifact.completion).toValue, fun _ => some (.finish wideArtifact.completion)⟩
  have sent := claim reader ⟨.default⟩ freshServer _ wideArtifact ⟨1, by decide⟩ rfl rfl rfl
    (dispatch_start rfl rfl (by decide) (by decide) wideArtifact_declared)
  rw [messages] at sent
  have first := (sendFrames_cons.mp (sent fun message inside fits => ?_)).1
  · have inside : 0 < wideArtifact.chunkCount := by rw [wideArtifact_count]; exact Nat.zero_lt_one
    exact large (sendFrame_ok_fits (wideArtifact.chunk_formed wideArtifact_declared inside ⟨1, by decide⟩) first)
  · rcases List.mem_cons.mp inside with rfl | inside
    · exact absurd fits large
    · obtain rfl := List.mem_singleton.mp inside
      exact ⟨rfl, rfl⟩

def readerOf (messages : List ArtifactMessage) : SerdeReader where
  fromStr text := (messages.find? fun message => message.toValue.toVec == text).map ArtifactMessage.toValue
  fromValue value := messages.find? fun message => message.toValue.toVec == value.toVec

theorem readerOf_reads {messages : List ArtifactMessage} {message : ArtifactMessage}
    (apart : (messages.find? fun other => other.toValue.toVec == message.toValue.toVec) = some message) :
    ReadsBack (readerOf messages) message :=
  ⟨congrArg (Option.map ArtifactMessage.toValue) apart, apart⟩

def smallArtifact : Artifact := sampleArtifactOf [7, 8, 9] 2

/-- Three bytes in two chunks. -/
theorem artifact_transferable_sample :
    (sendFrames (readerOf (smallArtifact.messages 1)) ⟨.default⟩
      (freshServer.dispatch (.start smallArtifact.declaration)).1 (smallArtifact.messages 1)).2 = .ok () := by
  have declared := smallArtifact.declared (by decide) (by decide) (by decide) (by decide)
  have admitted : freshServer.dispatch (.start smallArtifact.declaration) = (_, .ok ()) :=
    dispatch_start rfl rfl (by decide) (by decide) declared
  -- the texts of the messages differ early
  have starts : ((smallArtifact.messages 1).map fun message => message.toValue.render.take 64).Nodup := by decide
  have apart : UniqueKeys (fun message => message.toValue.toVec) (smallArtifact.messages 1) :=
    List.pairwise_map.mpr ((List.pairwise_map.mp starts).imp fun differ same =>
      differ (congrArg (List.take 64) (Json.toVec_render same)))
  have fits : (smallArtifact.messages 1).all (fun message => message.carried ≤ maxArtifactChunkBytes &&
      message.toValue.size ≤ defaultMaxFramePayloadBytes) = true := by decide +kernel
  refine (artifact_transferable_iff _ ⟨.default⟩ freshServer _ smallArtifact ⟨1, by decide⟩ rfl rfl rfl
    (Prod.ext rfl (congrArg Prod.snd admitted)) ?_).mpr ⟨by decide, ?_⟩
  · intro message inside _
    have found := apart.lookup inside
    simp only [lookup, beq_eq_decide] at found
    exact readerOf_reads (by simpa only [beq_eq_decide] using found)
  · intro message inside
    have small := List.all_eq_true.mp fits message inside
    rw [Bool.and_eq_true, decide_eq_true_eq, decide_eq_true_eq] at small
    exact ⟨small.1, small.2, small.2⟩

end Samples

end AgentycHost
