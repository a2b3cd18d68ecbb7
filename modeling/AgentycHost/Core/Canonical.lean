import Mathlib.Data.List.Sort
import AgentycHost.Core.Receipts
import AgentycHost.Shared.Outcome

set_option autoImplicit false

/-!
# The canonical bytes of an action

A payload is taken as the calls that it makes on its serializer. The serializer
makes a value of them in which every object is sorted by its keys, and the bytes
are the text of that value.
-/

namespace AgentycHost

open Shared

def isNumberChar (character : Char) : Bool := character.isDigit || character == '-' || character == '.'

structure NumberText where
  text : String
  written : text.toList ≠ [] ∧ text.toList.all isNumberChar = true
  deriving DecidableEq

theorem digits_number (value : Nat) : (Nat.toDigits 10 value).all isNumberChar = true := by
  apply List.all_eq_true.mpr
  intro character inside
  have digit := Nat.isDigit_of_mem_toDigits (by decide) (by decide) inside
  simp [isNumberChar, digit]

def NumberText.ofInt (value : Int) : NumberText where
  text := toString value
  written := by
    rw [Int.toString_eq_repr, Int.repr_eq_if]
    split_ifs with positive
    · rw [Nat.toList_repr]
      exact ⟨Nat.toDigits_ne_nil, digits_number _⟩
    · rw [String.toList_append, Nat.toList_repr, List.all_append, digits_number]
      exact ⟨by simp, by decide⟩

/-- What the serializer takes from the floating point of the standard library. A finite number
prints without an exponent. -/
structure FloatFormat where
  Single : Type
  Double : Type
  finite32 : Single -> Bool
  text32 : Single -> String
  widen : Single -> Double
  finite64 : Double -> Bool
  text64 : (value : Double) -> finite64 value = true -> NumberText

inductive MapStep where
  | key
  | value
  deriving DecidableEq

/-- The calls on a serializer, as a tree. One constructor stands for the integers of every width. -/
inductive SerdeValue (floats : FloatFormat) where
  | bool (value : Bool)
  | int (value : Int)
  | f32 (value : floats.Single)
  | f64 (value : floats.Double)
  | char (value : Char)
  | str (value : String)
  | bytes (value : List UInt8)
  | none
  | some (value : SerdeValue floats)
  | unit
  | unitStruct
  | unitVariant (variant : String)
  | newtypeStruct (value : SerdeValue floats)
  | newtypeVariant (variant : String) (value : SerdeValue floats)
  | seq (values : List (SerdeValue floats))
  | tuple (values : List (SerdeValue floats))
  | tupleStruct (values : List (SerdeValue floats))
  | tupleVariant (variant : String) (values : List (SerdeValue floats))
  | map (calls : List (MapStep × SerdeValue floats))
  | struct (fields : List (String × SerdeValue floats))
  | structVariant (variant : String) (fields : List (String × SerdeValue floats))

inductive CanonicalValue where
  | null
  | bool (value : Bool)
  | number (text : NumberText)
  | string (text : String)
  | array (values : List CanonicalValue)
  | object (fields : List (String × CanonicalValue))

abbrev CanonicalField := String × CanonicalValue

namespace CanonicalValue

def byName (left right : CanonicalField) : Prop := bytes left.1 ≤ bytes right.1

instance : DecidableRel byName := fun left right => inferInstanceAs (Decidable (bytes left.1 ≤ bytes right.1))

def repeatsName : List CanonicalField -> Bool
  | first :: second :: rest => first.1 == second.1 || repeatsName (second :: rest)
  | _ => false

def ofFields (fields : List CanonicalField) : Except String CanonicalValue :=
  let sorted := fields.insertionSort byName
  if repeatsName sorted then .error "canonical object contains duplicate keys" else .ok (.object sorted)

end CanonicalValue

section Render

def hex4 (value : Nat) : List Char :=
  [Nat.digitChar (value / 4096 % 16), Nat.digitChar (value / 256 % 16), Nat.digitChar (value / 16 % 16),
    Nat.digitChar (value % 16)]

def escape (character : Char) : List Char :=
  if character = '"' then ['\\', '"']
  else if character = '\\' then ['\\', '\\']
  else if character = '\n' then ['\\', 'n']
  else if character = '\r' then ['\\', 'r']
  else if character = '\t' then ['\\', 't']
  else if isControl character then '\\' :: 'u' :: hex4 character.toNat
  else [character]

def appendJsonString (value : String) : List Char := '"' :: (value.toList.flatMap escape ++ ['"'])

mutual

def CanonicalValue.render : CanonicalValue -> List Char
  | .null => ['n', 'u', 'l', 'l']
  | .bool true => ['t', 'r', 'u', 'e']
  | .bool false => ['f', 'a', 'l', 's', 'e']
  | .number text => text.text.toList
  | .string text => appendJsonString text
  | .array values => '[' :: (renderValues 0 values ++ [']'])
  | .object fields => '{' :: (renderFields 0 fields ++ ['}'])

def renderValues : Nat -> List CanonicalValue -> List Char
  | _, [] => []
  | index, value :: rest =>
      (if index ≠ 0 then [','] else []) ++ (value.render ++ renderValues (index + 1) rest)

def renderFields : Nat -> List CanonicalField -> List Char
  | _, [] => []
  | index, (key, value) :: rest =>
      (if index ≠ 0 then [','] else []) ++ (appendJsonString key ++ ':' :: (value.render ++ renderFields (index + 1) rest))

end

end Render

section Serialize

variable {floats : FloatFormat}

def notScalar : String := "map keys must be scalar values"

def serializeKey : SerdeValue floats -> Except String String
  | .bool value => .ok (toString value)
  | .int value => .ok (NumberText.ofInt value).text
  | .f32 value => if floats.finite32 value then .ok (floats.text32 value) else .error "non-finite map key"
  | .f64 value =>
      if finite : floats.finite64 value = true then .ok (floats.text64 value finite).text
      else .error "non-finite map key"
  | .char value => .ok (String.singleton value)
  | .str value => .ok value
  | .none => .error "map keys cannot be null"
  | .unit | .unitStruct => .error "map keys cannot be unit"
  | .unitVariant variant => .ok variant
  | .bytes _ | .some _ | .newtypeStruct _ | .newtypeVariant _ _ | .seq _ | .tuple _ | .tupleStruct _
  | .tupleVariant _ _ | .map _ | .struct _ | .structVariant _ _ => .error notScalar

def serializeF64 (value : floats.Double) : Except String CanonicalValue :=
  if finite : floats.finite64 value = true then .ok (.number (floats.text64 value finite))
  else .error "canonical action payload cannot contain a non-finite number"

mutual

def SerdeValue.serialize : SerdeValue floats -> Except String CanonicalValue
  | .bool value => .ok (.bool value)
  | .int value => .ok (.number (.ofInt value))
  | .f32 value => serializeF64 (floats.widen value)
  | .f64 value => serializeF64 value
  | .char value => .ok (.string (String.singleton value))
  | .str value => .ok (.string value)
  | .bytes value => .ok (.array (value.map fun byte => .number (.ofInt byte.toNat)))
  | .none | .unit | .unitStruct => .ok .null
  | .some value => value.serialize
  | .unitVariant variant => .ok (.string variant)
  | .newtypeStruct value => value.serialize
  | .newtypeVariant variant value => do
      let value ← value.serialize
      CanonicalValue.ofFields [(variant, value)]
  | .seq values | .tuple values | .tupleStruct values => do
      let values ← serializeElements values
      pure (.array values)
  | .tupleVariant variant values => do
      let values ← serializeElements values
      CanonicalValue.ofFields [(variant, .array values)]
  | .map calls => do
      let fields ← serializeCalls Option.none calls
      CanonicalValue.ofFields fields
  | .struct fields => do
      let fields ← serializeFields fields
      CanonicalValue.ofFields fields
  | .structVariant variant fields => do
      let fields ← serializeFields fields
      let value ← CanonicalValue.ofFields fields
      CanonicalValue.ofFields [(variant, value)]

def serializeElements : List (SerdeValue floats) -> Except String (List CanonicalValue)
  | [] => .ok []
  | value :: rest => do
      let value ← value.serialize
      let rest ← serializeElements rest
      pure (value :: rest)

def serializeFields : List (String × SerdeValue floats) -> Except String (List CanonicalField)
  | [] => .ok []
  | (key, value) :: rest => do
      let value ← value.serialize
      let rest ← serializeFields rest
      pure ((key, value) :: rest)

def serializeCalls : Option String -> List (MapStep × SerdeValue floats) -> Except String (List CanonicalField)
  | none, [] => .ok []
  | some _, [] => .error "canonical map ended with a key without a value"
  | _, (.key, key) :: rest => do
      let key ← serializeKey key
      serializeCalls (some key) rest
  | none, (.value, _) :: _ => .error "canonical map value was serialized before its key"
  | some key, (.value, value) :: rest => do
      let value ← value.serialize
      let rest ← serializeCalls none rest
      pure ((key, value) :: rest)

end

end Serialize

def ActionOperation.asStr : ActionOperation -> String
  | .navigate => "navigate"
  | .click => "click"
  | .input => "input"
  | .evaluate => "evaluate"
  | .scroll => "scroll"
  | .wait => "wait"
  | .screenshot => "screenshot"
  | .storageWrite => "storage_write"
  | .cookieWrite => "cookie_write"
  | .upload => "upload"
  | .close => "close"

def pageValue (pageId : Option (Identifier "page_")) : CanonicalValue :=
  match pageId with
  | none => .null
  | some id => .string id.text

def canonicalActionBytes {floats : FloatFormat} (operation : ActionOperation) (payload : SerdeValue floats)
    (spaceId : Identifier "space_") (pageId : Option (Identifier "page_")) : Except CoreError (List Nat) := do
  let payload ← payload.serialize.mapError fun error => .invalidArgument ("action payload is not canonical: " ++ error)
  let scope ← (CanonicalValue.ofFields
    [("page_id", pageValue pageId), ("space_id", .string spaceId.text)]).mapError .invalidArgument
  let value ← (CanonicalValue.ofFields
    [("operation", .string operation.asStr), ("payload", payload), ("scope", scope)]).mapError .invalidArgument
  pure (bytes (String.ofList value.render))

end AgentycHost

/-!
# JSON values

The values of `serde_json`, how their fields are read, and their compact text.
An object that the host builds has its fields in the order of their names.
-/

namespace AgentycHost

inductive Json where
  | null
  | bool (value : Bool)
  | int (value : Int)
  -- a number with a fraction or an exponent, by its text
  | decimal (text : String)
  | string (text : String)
  | array (items : List Json)
  | object (fields : List (String × Json))

namespace Json

def get (value : Json) (key : String) : Option Json :=
  match value with
  | .object fields => (fields.find? fun field => field.1 == key).map Prod.snd
  | _ => none

def asBool : Json -> Option Bool
  | .bool value => some value
  | _ => none

def asStr : Json -> Option String
  | .string text => some text
  | _ => none

def asArray : Json -> Option (List Json)
  | .array items => some items
  | _ => none

def asI64 : Json -> Option Int
  | .int value => if -(2 ^ 63) ≤ value ∧ value < 2 ^ 63 then some value else none
  | _ => none

def asU64 : Json -> Option Nat
  | .int value => if 0 ≤ value ∧ value < 2 ^ 64 then some value.toNat else none
  | _ => none

def boolAt (value : Json) (key : String) : Option Bool := (value.get key).bind asBool

def strAt (value : Json) (key : String) : Option String := (value.get key).bind asStr

def i64At (value : Json) (key : String) : Option Int := (value.get key).bind asI64

def u64At (value : Json) (key : String) : Option Nat := (value.get key).bind asU64

end Json

section Text

def escapeJson (character : Char) : List Char :=
  if character = '"' then ['\\', '"']
  else if character = '\\' then ['\\', '\\']
  else if character.toNat = 8 then ['\\', 'b']
  else if character = '\t' then ['\\', 't']
  else if character = '\n' then ['\\', 'n']
  else if character.toNat = 12 then ['\\', 'f']
  else if character = '\r' then ['\\', 'r']
  else if character.toNat < 32 then '\\' :: 'u' :: hex4 character.toNat
  else [character]

def jsonString (text : String) : List Char := '"' :: (text.toList.flatMap escapeJson ++ ['"'])

mutual

def Json.render : Json -> List Char
  | .null => ['n', 'u', 'l', 'l']
  | .bool true => ['t', 'r', 'u', 'e']
  | .bool false => ['f', 'a', 'l', 's', 'e']
  | .int value => (toString value).toList
  | .decimal text => text.toList
  | .string text => jsonString text
  | .array items => '[' :: (renderItems items ++ [']'])
  | .object fields => '{' :: (renderMembers fields ++ ['}'])

def renderItems : List Json -> List Char
  | [] => []
  | [item] => item.render
  | item :: rest => item.render ++ ',' :: renderItems rest

def renderMembers : List (String × Json) -> List Char
  | [] => []
  | [(key, value)] => jsonString key ++ ':' :: value.render
  | (key, value) :: rest => jsonString key ++ ':' :: (value.render ++ ',' :: renderMembers rest)

end

/-- `serde_json::to_vec`. -/
def Json.toVec (value : Json) : List UInt8 := (String.ofList value.render).toByteArray.data.toList

end Text

end AgentycHost
