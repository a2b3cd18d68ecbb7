import AgentycHost.Core.Artifacts
import AgentycHost.Core.Frames
import AgentycHost.Shared.Runs
import AgentycHost.Shared.Table

set_option autoImplicit false

/-!
# The artifact side of a local connection

Of the protocol server, what the three artifact envelopes read and change. An
envelope that is refused leaves the transfers as they are, and may still count
against the connection's cumulative budget.
-/

namespace AgentycHost

open Shared

def maxArtifactTransfers : Nat := 16

structure LocalArtifactTransfer where
  progress : ArtifactTransferProgress
  begin : ArtifactBeginEnvelope
  bytes : List UInt8
  deriving DecidableEq

inductive ArtifactMessage where
  | start (begin : ArtifactBeginEnvelope)
  | chunk (chunk : ArtifactChunkEnvelope)
  | finish (finish : ArtifactEndEnvelope)
  deriving DecidableEq

namespace ArtifactMessage

def protocol : ArtifactMessage -> Nat
  | .start sent => sent.protocol
  | .chunk sent => sent.protocol
  | .finish sent => sent.protocol

def validate : ArtifactMessage -> Except CoreError Unit
  | .start sent => sent.validate
  | .chunk sent => sent.validate
  | .finish sent => sent.validate

def validateTypedEnvelope (message : ArtifactMessage) : Except CoreError Unit := do
  validateProtocolVersion message.protocol
  message.validate
  message.validate

end ArtifactMessage

def maxControlFramePayloadBytes : Nat := 1024 * 1024

structure WireLimits where
  maxPayloadBytes : Nat
  maxArtifactChunkBytes : Nat
  payload : 0 < maxPayloadBytes ∧ maxPayloadBytes ≤ maxControlFramePayloadBytes
  chunk : 0 < maxArtifactChunkBytes ∧ maxArtifactChunkBytes ≤ AgentycHost.maxArtifactChunkBytes

/-- `ProtocolServer::with_limits` and `ProtocolClient::with_limits`. -/
def WireLimits.withLimits (maxPayloadBytes maxArtifactChunkBytes : Nat) : Except HostError WireLimits :=
  if payload : 0 < maxPayloadBytes ∧ maxPayloadBytes ≤ maxControlFramePayloadBytes then
    if chunk : 0 < maxArtifactChunkBytes ∧ maxArtifactChunkBytes ≤ AgentycHost.maxArtifactChunkBytes then
      .ok { maxPayloadBytes, maxArtifactChunkBytes, payload, chunk }
    else .error (.new .messageTooLarge
      ("artifact chunk bound must be between 1 and " ++ toString AgentycHost.maxArtifactChunkBytes))
  else .error (.new .messageTooLarge
    ("control frame payload bound must be between 1 and " ++ toString maxControlFramePayloadBytes))

/-- The bounds of `ProtocolServer::new` and `ProtocolClient::new`. -/
def WireLimits.default : WireLimits :=
  ⟨defaultMaxFramePayloadBytes, AgentycHost.maxArtifactChunkBytes, by decide, by decide⟩

structure HostConnection where
  connectionEpoch : ConnectionEpoch
  numbered : 0 < connectionEpoch ∧ connectionEpoch ≤ u64Max

structure TransferServer where
  limits : WireLimits
  connection : Option HostConnection
  artifactTransfers : Table String LocalArtifactTransfer
  artifactBudget : ArtifactTransferBudget

namespace TransferServer

def connected (connection : HostConnection) : TransferServer := ⟨.default, some connection, ∅, {}⟩

def handleArtifactBegin (server : TransferServer) (begin : ArtifactBeginEnvelope) :
    TransferServer × Except HostError Unit :=
  match server.connection with
  | none => (server, .error (.new .permissionDenied "hello is required before artifact transfer"))
  | some connection =>
      let key := begin.artifactId.text
      if server.artifactTransfers.contains key then
        (server, .error (.invalidArgument "artifact transfer was declared more than once"))
      else if maxArtifactTransfers ≤ server.artifactTransfers.size then
        (server, .error (.new .messageTooLarge "too many concurrent artifact transfers"))
      else if server.limits.maxArtifactChunkBytes < begin.chunkSize then
        (server, .error (.new .messageTooLarge "artifact declaration exceeds the configured host bound"))
      else
        match ArtifactTransferProgress.start begin connection.connectionEpoch with
        | .error error => (server, .error (.core error))
        | .ok progress =>
            ({ server with
              artifactTransfers := server.artifactTransfers.insert key { progress, begin, bytes := [] } }, .ok ())

def discard (server : TransferServer) (size : Nat) : TransferServer :=
  match server.artifactBudget.release size with
  | .ok artifactBudget => { server with artifactBudget }
  | .error _ => server

def handleArtifactChunk (server : TransferServer) (chunk : ArtifactChunkEnvelope) :
    TransferServer × Except HostError Unit :=
  let key := chunk.artifactId.text
  let size := chunk.bytes.length
  if server.limits.maxArtifactChunkBytes < size then
    (server, .error (.new .messageTooLarge "artifact chunk exceeds the configured host bound"))
  else
    match server.artifactBudget.receive size with
    | .error error => (server, .error (.core error))
    | .ok artifactBudget =>
        let server := { server with artifactBudget }
        match server.artifactTransfers.get? key with
        | none => (server.discard size, .error (.invalidArgument "artifact chunk has no active begin"))
        | some transfer =>
            match transfer.progress.acceptChunk chunk with
            | .error error => (server.discard size, .error (.core error))
            | .ok progress =>
                ({ server with
                  artifactTransfers := server.artifactTransfers.insert key
                    { transfer with progress, bytes := transfer.bytes ++ chunk.bytes } }, .ok ())

def handleArtifactEnd (server : TransferServer) (finish : ArtifactEndEnvelope) :
    TransferServer × Except HostError Unit :=
  let key := finish.artifactId.text
  match server.artifactTransfers.get? key with
  | none => (server, .error (.invalidArgument "artifact end has no active begin"))
  | some transfer =>
      let server := { server with artifactTransfers := server.artifactTransfers.erase key }
      let result : Except CoreError Unit := do
        transfer.progress.validateComplete
        finish.validateAgainst transfer.begin transfer.bytes
      match result, server.artifactBudget.release transfer.bytes.length with
      | .ok (), .ok artifactBudget => ({ server with artifactBudget }, .ok ())
      | .error error, .ok artifactBudget => ({ server with artifactBudget }, .error (.core error))
      | .ok (), .error error => (server, .error (.core error))
      | .error error, .error _ => (server, .error (.core error))

def dispatch (server : TransferServer) (message : ArtifactMessage) : TransferServer × Except HostError Unit :=
  match message.validateTypedEnvelope with
  | .error error => (server, .error (.core error))
  | .ok () =>
      match message with
      | .start begin => server.handleArtifactBegin begin
      | .chunk chunk => server.handleArtifactChunk chunk
      | .finish finish => server.handleArtifactEnd finish

end TransferServer

structure Exchange where
  message : ArtifactMessage
  outcome : Except HostError Unit

def exchangeStep (exchange : Exchange) (before after : TransferServer) : Prop :=
  before.dispatch exchange.message = (after, exchange.outcome)

abbrev TransferRun (start : TransferServer) (trace : List (Moment TransferServer Exchange))
    (last : TransferServer) : Prop :=
  Run exchangeStep start trace last

end AgentycHost
