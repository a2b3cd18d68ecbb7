import AgentycHost.Effects.Answers
import AgentycHost.Local.SocketClient
import AgentycHost.Shared.Keyed

set_option autoImplicit false

/-! # The two wire forms of a result -/

namespace AgentycHost

open Shared

variable {reader : ClientReader} {response : ResponseEnvelope} {result : StringMap} {key text : String} {value : Json}

section Readers

mutual

/-- No number has a fraction or an exponent. -/
def Json.whole : Json -> Bool
  | .decimal _ => false
  | .array items => wholeItems items
  | .object fields => wholeMembers fields
  | .null | .bool _ | .int _ | .string _ => true

def wholeItems : List Json -> Bool
  | [] => true
  | item :: rest => item.whole && wholeItems rest

def wholeMembers : List (String × Json) -> Bool
  | [] => true
  | (_, value) :: rest => value.whole && wholeMembers rest

end

namespace ClientReader

/-- The value that a text denotes. -/
def denotes (reader : ClientReader) (text : String) : Option Json := reader.fromStr text.toByteArray.data.toList

/-- What `serde_json` promises: a value without fractions is read again from its own text, and a text that denotes a
string has its two quotes besides the string. -/
structure ReadsTexts (reader : ClientReader) : Prop where
  again : ∀ octets value, reader.fromStr octets = some value -> value.whole = true ->
    reader.fromStr value.toVec = some value
  quoted : ∀ text content, reader.denotes text = some (.string content) ->
    content.utf8ByteSize + 2 ≤ text.utf8ByteSize

end ClientReader

/-- Every value of the result is a JSON text, and those that are unpacked hold no fractions. -/
structure JsonTexts (reader : ClientReader) (result : StringMap) : Prop where
  texts : ∀ key text, result.get? key = some text -> ∃ value, reader.denotes text = some value
  whole : ∀ key text value, key ∈ structuredResults -> result.get? key = some text ->
    reader.denotes text = some value -> value.whole = true

/-- The result of an envelope has the same keys, with texts that denote the same values. -/
def SameTexts (reader : ClientReader) (result : StringMap) (legacy : Json) : Prop :=
  ∃ fields, legacy.get "result" = some (.object fields) ∧ fields.map Prod.fst = result.sorted.map Prod.fst ∧
    ∀ key text value, result.get? key = some text -> reader.denotes text = some value ->
      ∃ packed, (Json.object fields).get key = some (.string packed) ∧ reader.denotes packed = some value

end Readers

section Fields

theorem sorted_perm (result : StringMap) : result.sorted.Perm result.entries := List.perm_insertionSort _ _

theorem sorted_lookup (found : result.get? key = some text) : lookup Prod.fst result.sorted key = some (key, text) := by
  have unique : UniqueKeys Prod.fst result.sorted := by
    have entries : UniqueKeys Prod.fst result.entries := result.nodup
    exact entries.perm (sorted_perm result).symm
  have member : (key, text) ∈ result.sorted := (sorted_perm result).mem_iff.mpr ((Table.mem_entries _ _ _).mpr found)
  exact unique.lookup member

def packedField (reader : ClientReader) (entry : String × String) : String × Json :=
  (entry.1, legacyChild (reader.structured entry).2)

theorem structured_key (reader : ClientReader) (entry : String × String) : (reader.structured entry).1 = entry.1 := by
  unfold ClientReader.structured
  split_ifs <;> rfl

theorem packed_get (found : result.get? key = some text) :
    (Json.object (result.sorted.map (packedField reader))).get key = some (packedField reader (key, text)).2 := by
  have there := sorted_lookup found
  unfold lookup at there
  unfold Json.get
  dsimp only
  rw [List.find?_map]
  have same : ((fun field : String × Json => field.1 == key) ∘ packedField reader) = fun entry => entry.1 == key := rfl
  rw [same, there]
  rfl

theorem denotes_render (faithful : reader.ReadsTexts) (read : reader.denotes text = some value)
    (whole : value.whole = true) : reader.denotes (String.ofList value.render) = some value :=
  faithful.again _ _ read whole

theorem ClientReader.ReadsTexts.not_itself (faithful : reader.ReadsTexts) (text : String) : reader.denotes text ≠ some (.string text) := by
  intro read
  have longer := faithful.quoted text text read
  omega

theorem packed_plain (plain : key ∉ structuredResults) :
    (packedField reader (key, text)).2 = .string text := by
  have other : structuredResults.contains key = false := by simpa using plain
  simp only [packedField, ClientReader.structured, other, if_false, Bool.false_eq_true, legacyChild]

theorem packed_structured (special : key ∈ structuredResults) (read : reader.denotes text = some value) :
    (packedField reader (key, text)).2 = legacyChild value := by
  have inside : structuredResults.contains key = true := by simpa using special
  have there : reader.fromStr text.toByteArray.data.toList = some value := read
  simp only [packedField, ClientReader.structured, inside, if_true, there, Option.getD_some]

end Fields

section Envelopes

theorem validateResponse_ok (valid : validateResponse response = .ok ())
    (returned : response.result = some result) : response.protocol = protocolVersion ∧ response.ok = true ∧
      response.error = none ∧ response.warnings.length ≤ maxResponseWarnings ∧
      response.warnings.all (fun warning => wireTextFits warning maxWarningBytes) = true := by
  simp only [validateResponse, bind_ok, require_ok, Bool.and_eq_true, beq_iff_eq, decide_eq_true_eq] at valid
  obtain ⟨_, protocol, _, ⟨few, fit⟩, ok, error⟩ := valid
  rw [returned] at ok
  rw [ok] at error
  exact ⟨protocol, ok, Option.isNone_iff_eq_none.mp error.symm, few, fit⟩

theorem valid_response_passes (valid : validateResponse response = .ok ())
    (returned : response.result = some result) : validateWireEnvelope (response.value reader) = .ok () := by
  obtain ⟨protocol, ok, error, few, fit⟩ := validateResponse_ok valid returned
  obtain ⟨_, requestId, _, _, _, warnings⟩ := response
  dsimp only at protocol ok error few fit returned
  subst protocol ok error returned
  refine validateWireEnvelope_of "response" .response rfl rfl rfl rfl (by decide) rfl ?_
  have identity : ∀ object : Json, object.strAt "request_id" = some requestId.text ->
      wireString object "request_id" maxIdBytes = .ok requestId.text :=
    fun object found => wireString_of found (requestId.text_fits (by decide))
  refine bind_ok.mpr ⟨_, identity _ rfl, bind_ok.mpr ⟨true, rfl, bind_ok.mpr ⟨_, rfl, ?_⟩⟩⟩
  refine bind_ok.mpr ⟨.null, rfl, bind_ok.mpr ⟨(), rfl, bind_ok.mpr ⟨(), rfl, ?_⟩⟩⟩
  refine bind_ok.mpr ⟨warnings.map Json.string, ?_, ?_⟩
  · exact bind_ok.mpr ⟨warnings.map Json.string, rfl, bind_ok.mpr ⟨(), require_ok.mpr (by simpa using few), rfl⟩⟩
  · refine require_ok.mpr (List.all_eq_true.mpr ?_)
    intro warning inside
    obtain ⟨text, member, rfl⟩ := List.mem_map.mp inside
    exact List.all_eq_true.mp fit text member

theorem legacy_result (result_some : response.result = some result) (error : response.error = none) :
    (legacyWireValue (response.value reader)).get "result" =
      some (.object (result.sorted.map (packedField reader))) := by
  have fields : (reader.resultValue result) = .object (result.sorted.map reader.structured) := rfl
  have packed : (result.sorted.map reader.structured).map (fun child => (child.1, legacyChild child.2)) =
      result.sorted.map (packedField reader) := by
    rw [List.map_map]
    refine List.map_congr_left ?_
    intro entry _
    simp only [Function.comp_apply, packedField, structured_key]
  rw [← packed]
  unfold ResponseEnvelope.value
  rw [result_some, error]
  rfl

theorem legacy_sent (valid : validateResponse response = .ok ()) (returned : response.result = some result) :
    legacyResponse reader response = .ok (legacyWireValue (response.value reader)) := by
  have passes : validateWireEnvelope (response.value reader) = .ok () := valid_response_passes valid returned
  exact bind_ok.mpr ⟨_, bind_ok.mpr ⟨(), passes, rfl⟩, bind_ok.mpr ⟨(), passes, rfl⟩⟩

/-- Nothing that is unpacked denotes a string. -/
def NoStrings (reader : ClientReader) (result : StringMap) : Prop :=
  ∀ key text content, key ∈ structuredResults -> result.get? key = some text ->
    reader.denotes text ≠ some (.string content)

theorem sameTexts_iff {legacy : Json} (faithful : reader.ReadsTexts) (written : JsonTexts reader result)
    (packed : legacy.get "result" = some (.object (result.sorted.map (packedField reader)))) :
    SameTexts reader result legacy <-> NoStrings reader result := by
  constructor
  · rintro ⟨fields, there, _, same⟩ key text content special found read
    rw [packed] at there
    cases there
    obtain ⟨again, placed, reread⟩ := same key text (.string content) found read
    rw [packed_get found, packed_structured special read] at placed
    cases placed
    exact faithful.not_itself content reread
  · intro strings
    refine ⟨_, packed, by rw [List.map_map]; rfl, ?_⟩
    intro key text value found read
    rw [packed_get found]
    by_cases special : key ∈ structuredResults
    · have whole := written.whole key text value special found read
      rw [packed_structured special read]
      refine ⟨String.ofList value.render, ?_, denotes_render faithful read whole⟩
      have other := strings key text
      cases value with
      | string content => exact absurd read (other content special found)
      | _ => rfl
    · rw [packed_plain special]
      exact ⟨text, rfl, read⟩

/-- The two forms of a result are inverse exactly when nothing that is unpacked denotes a string. -/
theorem wire_forms_inverse_iff (faithful : reader.ReadsTexts) (valid : validateResponse response = .ok ())
    (returned : response.result = some result) (written : JsonTexts reader result) :
    ∃ legacy, legacyResponse reader response = .ok legacy ∧
      (SameTexts reader result legacy <-> NoStrings reader result) := by
  obtain ⟨_, _, error, _, _⟩ := validateResponse_ok valid returned
  exact ⟨_, legacy_sent valid returned, sameTexts_iff faithful written (legacy_result returned error)⟩

end Envelopes

section Samples

variable {value : Json}

def cursorReader : ClientReader where
  fromStr octets :=
    if octets = (Json.string "a").toVec then some (.string "a")
    else if octets = (Json.int 3).toVec then some (.int 3)
    else none
  fromValue _ := none

theorem cursorReader_reads {octets : List UInt8} (read : cursorReader.fromStr octets = some value) :
    value = .string "a" ∧ octets = (Json.string "a").toVec ∨ value = .int 3 ∧ octets = (Json.int 3).toVec := by
  unfold cursorReader at read
  dsimp only at read
  split_ifs at read with first second
  · exact .inl ⟨(Option.some.inj read).symm, first⟩
  · exact .inr ⟨(Option.some.inj read).symm, second⟩

theorem cursorReader_string : cursorReader.fromStr (Json.string "a").toVec = some (.string "a") := by
  unfold cursorReader
  dsimp only
  rw [if_pos rfl]

theorem cursorReader_number : cursorReader.fromStr (Json.int 3).toVec = some (.int 3) := by
  unfold cursorReader
  dsimp only
  rw [if_neg (by decide), if_pos rfl]

theorem cursorReader_faithful : cursorReader.ReadsTexts where
  again octets value read _ := by
    obtain ⟨rfl, _⟩ | ⟨rfl, _⟩ := cursorReader_reads read
    · exact cursorReader_string
    · exact cursorReader_number
  quoted text content read := by
    obtain ⟨same, octets⟩ | ⟨⟨⟩, _⟩ := cursorReader_reads read
    cases same
    have size : text.utf8ByteSize = text.toByteArray.data.toList.length := rfl
    rw [size, octets]
    decide

def cursorResult (value : Json) : StringMap := (∅ : StringMap).insert "cursor" (String.ofList value.render)

theorem cursorResult_get (found : (cursorResult value).get? key = some text) :
    key = "cursor" ∧ text = String.ofList value.render := by
  rw [cursorResult, Table.get?_insert] at found
  split_ifs at found with same
  · exact ⟨same, (Option.some.inj found).symm⟩
  · cases found

theorem cursorResult_texts (read : cursorReader.fromStr value.toVec = some value) (whole : value.whole = true) :
    JsonTexts cursorReader (cursorResult value) where
  texts key text found := by
    obtain ⟨_, rfl⟩ := cursorResult_get found
    exact ⟨value, read⟩
  whole key text other _ found denoted := by
    obtain ⟨_, rfl⟩ := cursorResult_get found
    rw [show cursorReader.denotes (String.ofList value.render) = some value from read] at denoted
    cases denoted
    exact whole

def cursorResponse (value : Json) : ResponseEnvelope := .success (localRequestId 1) (cursorResult value)

/-- A cursor that is a number goes out and comes back. -/
theorem number_comes_back : ∃ legacy, legacyResponse cursorReader (cursorResponse (.int 3)) = .ok legacy ∧
    SameTexts cursorReader (cursorResult (.int 3)) legacy := by
  obtain ⟨legacy, sent, same⟩ := wire_forms_inverse_iff cursorReader_faithful
    (show validateResponse (cursorResponse (.int 3)) = .ok () from rfl) rfl (cursorResult_texts cursorReader_number rfl)
  refine ⟨legacy, sent, same.mpr ?_⟩
  intro key text content _ found read
  obtain ⟨_, rfl⟩ := cursorResult_get found
  rw [show cursorReader.denotes (String.ofList (Json.int 3).render) = some (.int 3) from cursorReader_number] at read
  cases read

/-- A cursor that is a string comes back without its quotes. -/
theorem string_comes_bare : ∃ reader response result legacy, reader.ReadsTexts ∧
    validateResponse response = .ok () ∧ response.result = some result ∧ JsonTexts reader result ∧
    legacyResponse reader response = .ok legacy ∧ ¬ SameTexts reader result legacy := by
  have written := cursorResult_texts cursorReader_string rfl
  have packed : (legacyWireValue ((cursorResponse (.string "a")).value cursorReader)).get "result" =
      some (.object ((cursorResult (.string "a")).sorted.map (packedField cursorReader))) := legacy_result rfl rfl
  refine ⟨cursorReader, cursorResponse (.string "a"), cursorResult (.string "a"), _, cursorReader_faithful, rfl, rfl,
    written, legacy_sent rfl rfl, ?_⟩
  rw [sameTexts_iff cursorReader_faithful written packed]
  intro strings
  exact strings "cursor" _ "a" (by decide) (Table.get?_insert_self _ _ _) cursorReader_string

end Samples

end AgentycHost
