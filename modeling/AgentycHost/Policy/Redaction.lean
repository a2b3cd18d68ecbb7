import AgentycHost.Core.Contracts
import AgentycHost.Shared.Occurrences

set_option autoImplicit false

/-!
# Redaction of texts

The passes run over the markers in a fixed order. Each cuts the value after the
first occurrence of its marker, up to the next delimiter.
-/

namespace AgentycHost

open Shared

def maxObservabilityTextBytes : Nat := 4 * 1024

def boundedToken (value : String) (max : Nat) : List Char :=
  (value.toList.filter fun character => !isControl character).take max

section Markers

def secretMarkers : List String :=
  ["authorization", "bearer", "cookie", "set-cookie", "password", "passwd", "secret", "api_key", "apikey",
    "access_token", "refresh_token", "request_body", "response_body", "post_data"]

def identityMarkers : List String :=
  ["tabid", "targetid", "sessionid", "groupid", "windowid", "frameid", "requestid", "loaderid", "objectid",
    "executioncontextid", "backendnodeid"]

def redactionMarkers : List (List Char) := (secretMarkers ++ identityMarkers).map String.toList

def redactedMark : List Char := "[redacted]".toList

end Markers

section Characters

def markerSeparators : List Char := [' ', '\t', '=', ':', '"', '\'']

def valueDelimiters : List Char := [' ', '\t', '\n', '\r', '&', ';', ',']

def isSeparator (character : Char) : Bool := markerSeparators.contains character

def isDelimiter (character : Char) : Bool := valueDelimiters.contains character

variable {A : Type} (char : A -> Char) (mark : List A)

def loweredItem (item : A) : Char := (char item).toLower

def valueOf (after : List A) : List A :=
  (after.dropWhile fun item => isSeparator (char item)).takeWhile fun item => !isDelimiter (char item)

def redactMarkerValue (text : List A) (marker : List Char) : List A :=
  match splitAfter (loweredItem char) marker text with
  | none => text
  | some (before, after) =>
      let separators := after.takeWhile fun item => isSeparator (char item)
      let rest := after.dropWhile fun item => isSeparator (char item)
      if (valueOf char after).isEmpty then text
      else before ++ separators ++ mark ++ rest.dropWhile fun item => !isDelimiter (char item)

def redactMarkers (text : List A) : List A := redactionMarkers.foldl (redactMarkerValue char mark) text

end Characters

def redactText (value : String) : String :=
  String.ofList (redactMarkers id redactedMark (boundedToken value maxObservabilityTextBytes))

section Keys

namespace Observability

def normalizedKey (key : List Char) : List Char := key.filter fun character => character != '-' && character != '_'

def rawIdentityKeys : List String :=
  ["tabid", "targetid", "sessionid", "groupid", "windowid", "frameid", "requestid", "loaderid", "objectid", "scriptid",
    "executioncontextid", "backendnodeid"]

def isRawIdentityKey (key : List Char) : Bool :=
  (rawIdentityKeys.map String.toList).contains (normalizedKey key) ||
    ["requestid", "targetid", "sessionid"].any fun ending => ending.toList.isSuffixOf (normalizedKey key)

def secretKeys : List String :=
  ["authorization", "cookie", "setcookie", "proxyauthorization", "password", "passwd", "secret", "token", "accesstoken",
    "refreshtoken", "apikey", "requestbody", "responsebody", "postdata"]

def isSecretKey (key : List Char) : Bool :=
  (secretKeys.map String.toList).contains (normalizedKey key) ||
    ["secret", "apikey", "authorization", "password"].any (fun part => (splitAfter id part.toList (normalizedKey key)).isSome) ||
      ["token", "requestbody", "responsebody", "postdata"].any fun ending => ending.toList.isSuffixOf (normalizedKey key)

def safeKey (name : String) : List Char := (boundedToken name 128).map Char.toLower

def redactHeader (name value : String) : Option (List Char × String) :=
  let safeName := safeKey name
  if safeName.isEmpty || isRawIdentityKey safeName then none
  else some (safeName, if isSecretKey safeName then String.ofList redactedMark else redactText value)

end Observability

end Keys

section Bytes

/-- The octet of a character literal of the source. -/
def byteOf (character : Char) : UInt8 := UInt8.ofNat character.toNat

def utf8Bytes (text : List Char) : List UInt8 := text.flatMap String.utf8EncodeChar

def asciiLowercaseByte (byte : UInt8) : UInt8 := if 65 ≤ byte ∧ byte ≤ 90 then byte + 32 else byte

def asciiWhitespace : List Char := [' ', '\t', '\n', '\x0C', '\r']

def isAsciiWhitespace (byte : UInt8) : Bool := (asciiWhitespace.map byteOf).contains byte

def isSeparatorByte (byte : UInt8) : Bool := (markerSeparators.map byteOf).contains byte

def isDelimiterByte (byte : UInt8) : Bool := (valueDelimiters.map byteOf).contains byte

def isCharBoundary (bytes : List UInt8) (offset : Nat) : Bool :=
  offset == 0 ||
    match bytes[offset]? with
    | none => offset == bytes.length
    | some byte => byte < 0x80 || 0xC0 ≤ byte

def replaceRange (bytes : List UInt8) (start stop : Nat) (replacement : List UInt8) : Option (List UInt8) :=
  if isCharBoundary bytes start && isCharBoundary bytes stop then
    some (bytes.take start ++ replacement ++ bytes.drop stop)
  else none

def findBytes (word : List UInt8) : List UInt8 -> Option Nat
  | [] => if word.isEmpty then some 0 else none
  | head :: rest => if word.isPrefixOf (head :: rest) then some 0 else (findBytes word rest).map (· + 1)

/-- The loop `while offset < bytes.len() && kind(bytes[offset])`. -/
def skipBytes (kind : UInt8 -> Bool) (bytes : List UInt8) (offset : Nat) : Nat :=
  offset + ((bytes.drop offset).takeWhile kind).length

def redactMarkerBytes (value marker : List UInt8) : Option (List UInt8) :=
  match findBytes marker (value.map asciiLowercaseByte) with
  | none => some value
  | some start =>
      let afterMarker := start + marker.length
      let valueStart := skipBytes isSeparatorByte value afterMarker
      let valueStart :=
        if valueStart = afterMarker ∧ marker = utf8Bytes "bearer".toList then
          skipBytes isAsciiWhitespace value afterMarker
        else valueStart
      let stop := skipBytes (fun byte => !isDelimiterByte byte) value valueStart
      if valueStart < stop then replaceRange value valueStart stop (utf8Bytes redactedMark) else some value

def redactTextBytes (value : String) : Option (List UInt8) :=
  redactionMarkers.foldlM (fun bytes marker => redactMarkerBytes bytes (utf8Bytes marker))
    (utf8Bytes (boundedToken value maxObservabilityTextBytes))

end Bytes

end AgentycHost
