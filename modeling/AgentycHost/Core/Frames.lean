import Mathlib.Algebra.Order.Ring.Int
import Mathlib.Data.List.Basic

set_option autoImplicit false

/-!
# Length-prefixed frames

A frame is a payload after its length in four bytes, the first the most
significant. The decoder takes its input in chunks of any size, byte by byte.
-/

namespace AgentycHost

def u32Max : Nat := 2 ^ 32 - 1

def framePrefixBytes : Nat := 4

def defaultMaxFramePayloadBytes : Nat := 1024 * 1024

inductive FrameError where
  | messageTooLarge (length max : Nat)
  | truncated (expected actual : Nat)
  | trailingBytes
  | decoderPoisoned
  | invalidLimit
  deriving DecidableEq

def toBeBytes (value : Nat) : List UInt8 :=
  [UInt8.ofNat (value / 16777216), UInt8.ofNat (value / 65536), UInt8.ofNat (value / 256), UInt8.ofNat value]

def fromBeBytes (octets : List UInt8) : Nat := octets.foldl (fun value octet => value * 256 + octet.toNat) 0

def encodeFrame (payload : List UInt8) (maxPayloadBytes : Nat) : Except FrameError (List UInt8) :=
  if u32Max < maxPayloadBytes then .error .invalidLimit
  else if maxPayloadBytes < payload.length ∨ u32Max < payload.length then
    .error (.messageTooLarge payload.length (min maxPayloadBytes u32Max))
  else .ok (toBeBytes payload.length ++ payload)

def decodeFrame (frame : List UInt8) (maxPayloadBytes : Nat) : Except FrameError (List UInt8) :=
  if u32Max < maxPayloadBytes then .error .invalidLimit
  else if frame.length < framePrefixBytes then .error (.truncated framePrefixBytes frame.length)
  else
    let length := fromBeBytes (frame.take framePrefixBytes)
    if maxPayloadBytes < length then .error (.messageTooLarge length maxPayloadBytes)
    else
      let expected := framePrefixBytes + length
      if frame.length < expected then .error (.truncated expected frame.length)
      else if expected < frame.length then .error .trailingBytes
      else .ok (frame.drop framePrefixBytes)

/-- `prefixBytes` are the bytes of the length that have arrived. -/
structure FrameDecoder where
  maxPayloadBytes : Nat
  prefixBytes : List UInt8
  expectedPayload : Option Nat
  payload : List UInt8
  poisoned : Bool
  deriving DecidableEq

namespace FrameDecoder

def new (maxPayloadBytes : Nat) : FrameDecoder where
  maxPayloadBytes := min maxPayloadBytes u32Max
  prefixBytes := []
  expectedPayload := none
  payload := []
  poisoned := false

def accept (decoder : FrameDecoder) (byte : UInt8) : FrameDecoder × Except FrameError (Option (List UInt8)) :=
  match decoder.expectedPayload with
  | some expected =>
      let payload := decoder.payload ++ [byte]
      if payload.length = expected then
        ({ decoder with expectedPayload := none, payload := [] }, .ok (some payload))
      else ({ decoder with payload }, .ok none)
  | none =>
      let prefixBytes := decoder.prefixBytes ++ [byte]
      if prefixBytes.length ≠ framePrefixBytes then ({ decoder with prefixBytes }, .ok none)
      else
        let length := fromBeBytes prefixBytes
        let decoder := { decoder with prefixBytes := [] }
        if decoder.maxPayloadBytes < length then
          ({ decoder with poisoned := true }, .error (.messageTooLarge length decoder.maxPayloadBytes))
        else if length = 0 then (decoder, .ok (some []))
        else ({ decoder with expectedPayload := some length, payload := [] }, .ok none)

def feedBytes (decoder : FrameDecoder) (frames : List (List UInt8)) :
    List UInt8 -> FrameDecoder × Except FrameError (List (List UInt8))
  | [] => (decoder, .ok frames)
  | byte :: rest =>
      match decoder.accept byte with
      | (decoder, .error error) => (decoder, .error error)
      | (decoder, .ok completed) => feedBytes decoder (frames ++ completed.toList) rest

def feed (decoder : FrameDecoder) (octets : List UInt8) : FrameDecoder × Except FrameError (List (List UInt8)) :=
  if decoder.poisoned then (decoder, .error .decoderPoisoned) else decoder.feedBytes [] octets

def finish (decoder : FrameDecoder) : Except FrameError Unit :=
  if decoder.poisoned then .error .decoderPoisoned
  else if decoder.prefixBytes.length ≠ 0 then .error (.truncated framePrefixBytes decoder.prefixBytes.length)
  else
    match decoder.expectedPayload with
    | some expected => .error (.truncated expected decoder.payload.length)
    | none => .ok ()

def feedChunks (decoder : FrameDecoder) : List (List UInt8) -> FrameDecoder × List (List UInt8) × Option FrameError
  | [] => (decoder, [], none)
  | chunk :: rest =>
      match decoder.feed chunk with
      | (decoder, .error error) => (decoder, [], some error)
      | (decoder, .ok frames) =>
          let (decoder, later, failure) := feedChunks decoder rest
          (decoder, frames ++ later, failure)

end FrameDecoder

end AgentycHost
