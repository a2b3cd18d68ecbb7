import AgentycHost.Effects.Frames
import AgentycHost.Effects.Transfers
import AgentycHost.Local.Wire

set_option autoImplicit false

/-! # Which envelopes reach the other end -/

namespace AgentycHost

open Shared

section Sizes

def Json.size (value : Json) : Nat := textSize value.render

theorem Json.toVec_length (value : Json) : value.toVec.length = value.size := by
  rw [toVec, Array.length_toList, String.toByteArray_ofList]
  exact utf8Encode_size _

theorem Json.toVec_render {one other : Json} (same : one.toVec = other.toVec) : one.render = other.render := by
  have octets : (String.ofList one.render).toByteArray = (String.ofList other.render).toByteArray :=
    ByteArray.ext (Array.ext' same)
  exact String.ofList_injective (String.toByteArray_inj.mp octets)

theorem threeDigits_size (count : Nat) :
    (Json.octets (List.replicate (count + 1) 255)).size = 4 * count + 5 := by
  have items : textSize (renderItems ((List.replicate (count + 1) 255).map fun octet : UInt8 => Json.nat octet.toNat)) =
      4 * count + 3 := by
    induction count with
    | zero => decide
    | succ count ih =>
      rw [List.replicate_succ, List.map_cons]
      rw [List.replicate_succ, List.map_cons] at ih ⊢
      rw [renderItems, textSize_append, textSize_cons, ih]
      · have digits : textSize (Json.nat (255 : UInt8).toNat).render = 3 := by decide
        have comma : ','.utf8Size = 1 := by decide
        omega
      · rintro ⟨⟩
  rw [Json.size, Json.octets, Json.render, textSize_cons, textSize_append, items]
  have opens : '['.utf8Size = 1 := by decide
  have closes : textSize [']'] = 1 := by decide
  omega

theorem chunk_size_ge (chunk : ArtifactChunkEnvelope) :
    (Json.octets chunk.bytes).size ≤ (ArtifactMessage.chunk chunk).toValue.size := by
  unfold Json.size ArtifactMessage.toValue
  rw [Json.render, renderMembers, renderMembers]
  · simp only [textSize_append, textSize_cons]
    omega
  · rintro ⟨⟩
  · rintro ⟨⟩

end Sizes

section Fields

variable {object : Json} {key text : String} {max value : Nat}

theorem Identifier.text_fits {tag : String} (identifier : Identifier tag) (named : tag ≠ "") :
    wireTextFits identifier.text maxIdBytes = true := by
  have size := identifier.text_size
  have large : maxIdLength ≤ maxIdBytes := by decide
  unfold wireTextFits
  rw [Bool.and_eq_true, bne_iff_ne, decide_eq_true_eq]
  refine ⟨fun empty => named ?_, Nat.le_trans size large⟩
  exact (String.append_eq_empty_iff.mp empty).1

theorem Json.asU64_nat (small : value ≤ u64Max) : (Json.nat value).asU64 = some value := by
  unfold u64Max at small
  simp only [nat, asU64]
  rw [if_pos (by omega), Int.toNat_natCast]

theorem wireString_of (found : object.strAt key = some text) (fits : wireTextFits text max = true) :
    wireString object key max = .ok text := by
  rw [wireString, orElse_ok, found, Option.filter_some, if_pos fits]

theorem wireU64_of (found : object.get key = some (.nat value)) (small : value ≤ u64Max) :
    wireU64 object key = .ok value := by
  rw [wireU64, orElse_ok, Json.u64At, found, Option.bind_some, Json.asU64_nat small]

theorem wirePositiveU64_of (found : object.get key = some (.nat value)) (numbered : 0 < value ∧ value ≤ u64Max) :
    wirePositiveU64 object key = .ok () := by
  refine bind_ok.mpr ⟨value, wireU64_of found numbered.2, require_ok.mpr ?_⟩
  rw [bne_iff_ne]
  exact Nat.ne_of_gt numbered.1

theorem wireBytes_of {octets : List UInt8} (found : object.get key = some (.octets octets))
    (few : octets.length ≤ max) : wireBytes object key max = .ok () := by
  have listed : wireArray object key max = .ok (octets.map fun octet => .nat octet.toNat) := by
    refine bind_ok.mpr ⟨octets.map fun octet => .nat octet.toNat, ?_, bind_ok.mpr ⟨(), require_ok.mpr ?_, rfl⟩⟩
    · rw [orElse_ok, found]
      rfl
    · rwa [List.length_map, decide_eq_true_eq]
  refine bind_ok.mpr ⟨_, listed, ?_⟩
  rw [require_ok, List.all_map, List.all_eq_true]
  intro octet _
  have small := octet.toNat_lt
  have fits : octet.toNat ≤ u64Max := by
    unfold u64Max
    omega
  rw [Function.comp, Json.asU64_nat fits, Option.any_some, decide_eq_true_eq]
  omega

theorem validateWireEnvelope_of (text : String) (kind : EnvelopeKind) (isObject : object.isObject = true)
    (protocol : object.get "protocol" = some (.nat protocolVersion)) (named : object.strAt "kind" = some text)
    (known : EnvelopeKind.ofText text = some kind) (short : wireTextFits text 32 = true)
    (fields : object.names.all ("protocol" :: "kind" :: kind.allowed).contains = true)
    (passes : wireKind object kind = .ok ()) : validateWireEnvelope object = .ok () := by
  refine bind_ok.mpr ⟨(), require_ok.mpr isObject, bind_ok.mpr ⟨_, wireU64_of protocol (by decide), ?_⟩⟩
  refine bind_ok.mpr ⟨(), require_ok.mpr (beq_self_eq_true _), bind_ok.mpr ⟨_, wireString_of named short, ?_⟩⟩
  refine bind_ok.mpr ⟨kind, orElse_ok.mpr known, bind_ok.mpr ⟨(), ?_, passes⟩⟩
  have none_unknown : (object.names.find? fun key => !("protocol" :: "kind" :: kind.allowed).contains key) = none := by
    rw [List.find?_eq_none]
    intro key inside
    rw [List.all_eq_true.mp fields key inside]
    decide
  rw [wireRejectUnknown, none_unknown]

theorem hexdigit_size {character : Char} (hex : isAsciiHexdigit character = true) : character.utf8Size = 1 := by
  rw [Char.utf8Size_eq_one_iff, UInt32.le_iff_toNat_le]
  have range : ∀ {low high : Char}, (decide (low ≤ character) && decide (character ≤ high)) = true ->
      high.toNat ≤ 127 -> character.toNat ≤ 127 := by
    intro low high inside small
    rw [Bool.and_eq_true, decide_eq_true_eq, decide_eq_true_eq] at inside
    exact Nat.le_trans (UInt32.le_iff_toNat_le.mp (Char.le_def.mp inside.2)) small
  unfold isAsciiHexdigit at hex
  rcases Bool.or_eq_true_iff.mp hex with hex | hex
  · rcases Bool.or_eq_true_iff.mp hex with digit | hex
    · have nine : '9'.toNat ≤ 127 := by decide
      exact Nat.le_trans (Char.isDigit_iff_toNat.mp digit).2 nine
    · exact range hex (by decide)
  · exact range hex (by decide)

theorem WireHash.text_fits (hash : WireHash) : wireTextFits (String.ofList hash.text) 64 = true := by
  have ones : textSize hash.digits = 16 := by
    have each : hash.digits.map Char.utf8Size = List.replicate 16 1 := by
      rw [← hash.valid.1, List.eq_replicate_iff, List.length_map]
      refine ⟨rfl, fun size inside => ?_⟩
      obtain ⟨digit, member, rfl⟩ := List.mem_map.mp inside
      exact hexdigit_size (List.all_eq_true.mp hash.valid.2 digit member)
    rw [textSize, each]
    rfl
  have named : hash.text = ['f', 'n', 'v', '1', 'a', '6', '4', ':'] ++ hash.digits := rfl
  have short : textSize hash.text ≤ 64 := by
    rw [named, textSize_append, ones]
    decide
  unfold wireTextFits
  rw [Bool.and_eq_true, bne_iff_ne, decide_eq_true_eq, utf8ByteSize_eq, String.toList_ofList]
  refine ⟨fun empty => ?_, short⟩
  have none := congrArg String.toList empty
  rw [String.toList_ofList, named] at none
  cases none

theorem wire_chunk_passes {chunk : ArtifactChunkEnvelope} (valid : chunk.validate = .ok ())
    (numbered : 0 < chunk.connectionEpoch ∧ chunk.connectionEpoch ≤ u64Max) (small : chunk.chunkSequence ≤ u64Max) :
    validateWireEnvelope (ArtifactMessage.chunk chunk).toValue = .ok () := by
  obtain ⟨protocol, few⟩ := ArtifactChunkEnvelope.validate_ok.mp valid
  refine validateWireEnvelope_of "artifact_chunk" .artifactChunk rfl ?_ rfl rfl (by decide) rfl ?_
  · rw [← protocol]
    rfl
  · refine bind_ok.mpr ⟨_, wireString_of rfl (chunk.artifactId.text_fits (by decide)), ?_⟩
    refine bind_ok.mpr ⟨_, wirePositiveU64_of rfl numbered, bind_ok.mpr ⟨_, wireU64_of rfl small, ?_⟩⟩
    exact wireBytes_of rfl few

theorem wire_finish_passes {finish : ArtifactEndEnvelope} (valid : finish.validate = .ok ()) :
    validateWireEnvelope (ArtifactMessage.finish finish).toValue = .ok () := by
  obtain ⟨protocol, total, count⟩ := ArtifactEndEnvelope.validate_ok.mp valid
  refine validateWireEnvelope_of "artifact_end" .artifactEnd rfl ?_ rfl rfl (by decide) rfl ?_
  · rw [← protocol]
    rfl
  · refine bind_ok.mpr ⟨_, wireString_of rfl (finish.artifactId.text_fits (by decide)), ?_⟩
    refine bind_ok.mpr ⟨_, wireU64_of rfl (Nat.le_trans total (by decide)), ?_⟩
    refine bind_ok.mpr ⟨_, wireU64_of rfl (Nat.le_trans count (by decide)), ?_⟩
    have named : wireTextFits finish.digestAlgorithm.asStr 32 = true := by
      cases finish.digestAlgorithm
      decide
    refine bind_ok.mpr ⟨_, wireString_of rfl named, bind_ok.mpr ⟨_, wireString_of rfl finish.digest.text_fits, ?_⟩⟩
    rfl

end Fields

section Frames

variable {reader : SerdeReader} {client : ProtocolClient} {server : TransferServer} {message : ArtifactMessage}
  {frame : List UInt8}

def ArtifactMessage.carried : ArtifactMessage -> Nat
  | .start sent => sent.chunkSize
  | .chunk sent => sent.bytes.length
  | .finish _ => 0

structure FitsFrames (client server : WireLimits) (message : ArtifactMessage) : Prop where
  carried : message.carried ≤ client.maxArtifactChunkBytes
  sent : message.toValue.size ≤ client.maxPayloadBytes
  taken : message.toValue.size ≤ server.maxPayloadBytes

structure ReadsBack (reader : SerdeReader) (message : ArtifactMessage) : Prop where
  text : reader.fromStr message.toValue.toVec = some message.toValue
  value : reader.fromValue message.toValue = some message

structure WellFormed (message : ArtifactMessage) : Prop where
  typed : message.validateTypedEnvelope = .ok ()
  wire : validateWireEnvelope message.toValue = .ok ()

theorem WireLimits.small (limits : WireLimits) : limits.maxPayloadBytes ≤ u32Max :=
  Nat.le_trans limits.payload.2 (by decide)

theorem checkArtifact_ok {limits : WireLimits} {done : Unit} :
    limits.checkArtifact message = .ok done <-> message.carried ≤ limits.maxArtifactChunkBytes := by
  cases message with
  | start sent => rw [WireLimits.checkArtifact, require_ok, decide_eq_true_eq, ArtifactMessage.carried]
  | chunk sent => rw [WireLimits.checkArtifact, require_ok, decide_eq_true_eq, ArtifactMessage.carried]
  | finish sent => exact iff_of_true rfl (Nat.zero_le _)

theorem encode_ok (formed : WellFormed message) : client.encode message = .ok frame <->
    message.carried ≤ client.limits.maxArtifactChunkBytes ∧
      message.toValue.size ≤ client.limits.maxPayloadBytes ∧ frame = frameImage message.toValue.toVec := by
  unfold ProtocolClient.encode
  simp only [formed.typed, formed.wire, bind_ok, mapError_ok, checkArtifact_ok, encodeFrame_ok, Json.toVec_length,
    client.limits.small, exists_and_left, true_and, exists_const]

theorem sendFrame_fits (formed : WellFormed message) (reads : ReadsBack reader message)
    (fits : FitsFrames client.limits server.limits message) :
    sendFrame reader client server message =
      ((server.dispatch message).1, (server.dispatch message).2.mapError .host) := by
  have encoded := (encode_ok formed).mpr ⟨fits.carried, fits.sent, rfl⟩
  have decoded : decodeFrame (frameImage message.toValue.toVec) server.limits.maxPayloadBytes = .ok message.toValue.toVec :=
    decodeFrame_ok.mpr (encodeFrame_ok.mpr ⟨server.limits.small, message.toValue.toVec_length ▸ fits.taken, rfl⟩)
  unfold sendFrame
  rw [encoded]
  dsimp only
  unfold TransferServer.handleFrame
  rw [decoded]
  dsimp only
  unfold TransferServer.handlePayload
  rw [reads.text]
  dsimp only
  rw [formed.wire, reads.value]

theorem sendFrame_ok_fits (formed : WellFormed message) (sent : (sendFrame reader client server message).2 = .ok ()) :
    FitsFrames client.limits server.limits message := by
  unfold sendFrame at sent
  split at sent
  next => cases sent
  next frame encoded =>
    obtain ⟨carried, small, rfl⟩ := (encode_ok formed).mp encoded
    unfold TransferServer.handleFrame at sent
    split at sent
    next => cases sent
    next payload decoded =>
      obtain ⟨_, within, same⟩ := encodeFrame_ok.mp (decodeFrame_ok.mp decoded)
      have whole : message.toValue.toVec = payload ∧ ([] : List UInt8) = [] :=
        frameImage_code (Nat.le_trans (Json.toVec_length _ ▸ small) client.limits.small)
          (Nat.le_trans within server.limits.small) (by rw [same])
      refine ⟨carried, small, ?_⟩
      rw [← Json.toVec_length, whole.1]
      exact within

theorem sendFrames_cons {rest : List ArtifactMessage} : (sendFrames reader client server (message :: rest)).2 = .ok () <->
    (sendFrame reader client server message).2 = .ok () ∧
      (sendFrames reader client (sendFrame reader client server message).1 rest).2 = .ok () := by
  rw [sendFrames]
  split
  next failed =>
    rw [failed]
    constructor
    · rintro ⟨⟩
    · rintro ⟨⟨⟩, _⟩
  next passed =>
    rw [passed]
    exact (and_iff_right rfl).symm

end Frames

end AgentycHost
