import AgentycHost.Context.Params
import AgentycHost.Effects.Answers
import AgentycHost.Safety.Contexts
import AgentycHost.Safety.OutboundSequence
import AgentycHost.Safety.Warnings
import AgentycHost.Safety.WireForms

set_option autoImplicit false

/-! # Snapshots as the bases of deltas -/

namespace AgentycHost

open Shared

variable {reader : ParamReader} {request : RequestEnvelope} {current envelope : ContextEnvelope}
  {measures : EnvelopeMeasures} {params : StringMap} {key text : String}

section Requests

variable {done : Unit}

theorem validateParam_ok {entry : String × String} : validateParam entry = .ok done <->
    wireTextFits entry.1 maxLogicalParamNameBytes = true ∧ entry.2.utf8ByteSize ≤ maxLogicalParamValueBytes := by
  simp only [validateParam, bind_ok, require_ok, decide_eq_true_eq, exists_and_left, exists_const]

theorem validateParams_ok : validateParams params = .ok done <->
    params.size ≤ maxLogicalParams ∧ ∀ key text, params.get? key = some text ->
      wireTextFits key maxLogicalParamNameBytes = true ∧ text.utf8ByteSize ≤ maxLogicalParamValueBytes := by
  simp only [validateParams, bind_ok, require_ok, decide_eq_true_eq, exists_and_left, exists_const]
  refine and_congr_right fun _ => ?_
  rw [forEach_ok]
  constructor
  · intro each key text found
    have inside := (sorted_perm params).mem_iff.mpr ((Table.mem_entries _ _ _).mpr found)
    exact validateParam_ok.mp (each (key, text) inside)
  · rintro each ⟨key, text⟩ inside
    have found := (Table.mem_entries _ _ _).mp ((sorted_perm params).mem_iff.mp inside)
    exact validateParam_ok.mpr (each key text found)

structure ValidRequest (request : RequestEnvelope) : Prop where
  protocol : request.protocol = protocolVersion
  method : validWireMethod request.method = true
  deadline : request.deadlineMs.all (fun deadline => deadline != 0 && decide (deadline ≤ maxRequestDeadlineMs)) = true
  params : validateParams request.params = .ok ()

theorem validateRequest_ok : validateRequest request = .ok () <-> ValidRequest request := by
  simp only [validateRequest, bind_ok, require_ok, beq_iff_eq, exists_and_left, exists_const]
  constructor
  · rintro ⟨protocol, method, deadline, params⟩
    exact ⟨protocol, method, deadline, params⟩
  · rintro ⟨protocol, method, deadline, params⟩
    exact ⟨protocol, method, deadline, params⟩

theorem ValidRequest.wireDeadline (valid : ValidRequest request) : wireDeadline request.toValue = .ok () := by
  have deadline := valid.deadline
  unfold AgentycHost.wireDeadline
  have found : request.toValue.get "deadline_ms" = some (.optional .nat request.deadlineMs) := rfl
  rw [found]
  cases given : request.deadlineMs with
  | none => rfl
  | some milliseconds =>
    rw [given, Option.all_some, Bool.and_eq_true, decide_eq_true_eq] at deadline
    have small : milliseconds ≤ u64Max := Nat.le_trans deadline.2 (by decide)
    have number : (Json.optional Json.nat (some milliseconds)).asU64 = some milliseconds := Json.asU64_nat small
    refine require_ok.mpr ?_
    rw [number, Option.any_some, deadline.1, Bool.true_and]
    exact decide_eq_true deadline.2

theorem wireKey_passes (request : RequestEnvelope) :
    wireOptionalStringOrNull request.toValue "idempotency_key" maxIdBytes = .ok () := by
  unfold wireOptionalStringOrNull
  have found : request.toValue.get "idempotency_key" =
      some (.optional (fun key => .string key.text) request.idempotencyKey) := rfl
  rw [found]
  cases request.idempotencyKey with
  | none => rfl
  | some key => exact require_ok.mpr (key.text_fits (by decide))

theorem ValidRequest.wire (valid : ValidRequest request) : validateWireEnvelope request.toValue = .ok () := by
  obtain ⟨few, _⟩ := validateParams_ok.mp valid.params
  have protocol : request.toValue.get "protocol" = some (.nat protocolVersion) := by rw [← valid.protocol]; rfl
  have names : request.params.value.names.length = request.params.size := by
    have length := (sorted_perm request.params).length_eq
    simp only [StringMap.value, Json.names, List.map_map, List.length_map, length]
    rfl
  have texts : (request.params.value.members.all fun value => value.asStr.isSome) = true := by
    simp only [StringMap.value, Json.members, List.map_map, List.all_map, List.all_eq_true]
    intro entry _
    rfl
  refine validateWireEnvelope_of "request" .request rfl protocol rfl rfl (by decide) rfl ?_
  refine bind_ok.mpr ⟨_, wireString_of rfl (request.requestId.text_fits (by decide)), ?_⟩
  have short : wireTextFits request.method 128 = true := by
    have method := valid.method
    simp only [validWireMethod, Bool.and_eq_true] at method
    exact Bool.and_eq_true_iff.mpr method.1
  refine bind_ok.mpr ⟨_, wireString_of rfl short, bind_ok.mpr ⟨(), require_ok.mpr valid.method, ?_⟩⟩
  refine bind_ok.mpr ⟨request.params.value, rfl, bind_ok.mpr ⟨(), require_ok.mpr ?_, ?_⟩⟩
  · rw [names, texts, Bool.and_true]
    exact decide_eq_true few
  · exact bind_ok.mpr ⟨(), valid.wireDeadline, wireKey_passes request⟩

end Requests

section Bases

def RequestEnvelope.withoutBase (request : RequestEnvelope) : RequestEnvelope :=
  { request with params := request.params.erase "base" }

/-- Without the base, the request is a valid read in delta mode, and it has room for the base. -/
structure AsksDelta (reader : ParamReader) (request : RequestEnvelope) (current : ContextEnvelope) (base : String) : Prop where
  presents : request.params.get? "base" = some base
  room : request.params.size ≤ maxLogicalParams
  valid : validateRequest request.withoutBase = .ok ()
  mode : ∃ asked, contextRequestFromParams reader request.withoutBase.params current = .ok asked ∧ asked.mode = .delta

/-- The request passes every check on its way to the comparison with the base. -/
structure TakesBase (reader : ParamReader) (request : RequestEnvelope) (current base : ContextEnvelope) : Prop where
  wire : validateWireEnvelope request.toValue = .ok ()
  valid : validateRequest request = .ok ()
  context : ∃ asked, contextRequestFromParams reader request.params current = .ok asked ∧ asked.mode = .delta ∧
    asked.base = some base

theorem withoutBase_get (request : RequestEnvelope) {key : String} (other : key ≠ "base") :
    request.withoutBase.params.get? key = request.params.get? key := by
  rw [RequestEnvelope.withoutBase, Table.get?_erase, if_neg other]

theorem focus_withoutBase (reader : ParamReader) (request : RequestEnvelope) :
    parseContextFocus reader request.withoutBase.params = parseContextFocus reader request.params := by
  have same : ∀ key parse, key ≠ "base" -> mergeParam request.withoutBase.params key parse =
      mergeParam request.params key parse := by
    intro key parse other
    funext target
    rw [mergeParam, mergeParam, withoutBase_get request other]
  unfold parseContextFocus
  rw [same "focus" _ (by decide), same "focus_ref" _ (by decide), same "focus_element" _ (by decide),
    same "frame_id" _ (by decide), same "focus_frame_id" _ (by decide), same "element_key" _ (by decide)]

theorem context_with_base {asked : ContextRequest} (presents : request.params.get? "base" = some text)
    (read : reader.envelope text = .ok (envelope, measures))
    (others : contextRequestFromParams reader request.withoutBase.params current = .ok asked) :
    contextRequestFromParams reader request.params current = .ok { asked with base := some envelope } := by
  have optional : ∀ {A : Type} (key : String) (parse : String -> Except CoreError A), key ≠ "base" ->
      optionalParam request.withoutBase.params key parse = optionalParam request.params key parse := by
    intro A key parse other
    rw [optionalParam, optionalParam, withoutBase_get request other]
  have base : optionalParam request.params "base" (fun text => invalidBecause "invalid snapshot base" (reader.envelope text)) =
      .ok (some (envelope, measures)) := by
    rw [optionalParam, presents]
    dsimp only
    rw [read]
    rfl
  have metadata : asksMetadataOnly request.withoutBase.params current = asksMetadataOnly request.params current := by
    rw [asksMetadataOnly, asksMetadataOnly, withoutBase_get request (by decide), withoutBase_get request (by decide)]
  unfold contextRequestFromParams at others ⊢
  rw [withoutBase_get request (by decide), focus_withoutBase, optional "max_serialized_bytes" _ (by decide),
    optional "token_budget" _ (by decide), optional "tokenizer" _ (by decide), metadata] at others
  simp only [bind_ok, pure_ok] at others
  obtain ⟨mode, chosen, focus, focused, _, targeted, limit, limited, budget, budgeted, _, _, tokenizer, named, rfl⟩ := others
  simp only [bind_ok, pure_ok]
  exact ⟨mode, chosen, focus, focused, _, targeted, limit, limited, budget, budgeted, some (envelope, measures), base,
    tokenizer, named, rfl⟩

/-- A snapshot is taken as the base of a delta exactly when its text is within the bound of a parameter. -/
theorem delta_base_fits_iff (read : reader.envelope (envelope.json measures) = .ok (envelope, measures))
    (asks : AsksDelta reader request current (envelope.json measures)) :
    TakesBase reader request current envelope <-> (envelope.json measures).utf8ByteSize ≤ maxLogicalParamValueBytes := by
  constructor
  · intro taken
    obtain ⟨_, each⟩ := validateParams_ok.mp (validateRequest_ok.mp taken.valid).params
    exact (each "base" _ asks.presents).2
  · intro fits
    have without := validateRequest_ok.mp asks.valid
    have params : validateParams request.params = .ok () := by
      refine validateParams_ok.mpr ⟨asks.room, ?_⟩
      intro key text found
      by_cases same : key = "base"
      · subst same
        rw [asks.presents] at found
        cases found
        exact ⟨by decide, fits⟩
      · rw [← withoutBase_get request same] at found
        exact (validateParams_ok.mp without.params).2 key text found
    have valid : ValidRequest request := ⟨without.protocol, without.method, without.deadline, params⟩
    obtain ⟨asked, others, mode⟩ := asks.mode
    constructor
    case wire => exact valid.wire
    case valid => exact validateRequest_ok.mpr valid
    case context => exact ⟨_, context_with_base asks.presents read others, mode, rfl⟩

end Bases

section Sizes

variable {value : Json}

theorem member_size_le {fields : List (String × Json)} (key : String) (inside : (key, value) ∈ fields) :
    value.size ≤ (Json.object fields).size := by
  rw [Json.size, Json.size, object_size]
  induction fields with
  | nil => cases inside
  | cons first rest ih =>
    obtain ⟨name, other⟩ := first
    cases rest with
    | nil =>
      rw [List.mem_singleton] at inside
      cases inside
      rw [renderMembers_last]
      omega
    | cons second more =>
      rw [renderMembers_cons name other (List.cons_ne_nil _ _)]
      obtain same | later := List.mem_cons.mp inside
      · cases same
        omega
      · have earlier := ih later
        omega

theorem item_size_le {items : List Json} (inside : value ∈ items) : value.size ≤ (Json.array items).size := by
  have comma : ','.utf8Size = 1 := by decide
  have whole : textSize (renderItems items) ≤ (Json.array items).size := by
    rw [Json.size, Json.render, textSize_cons, textSize_append]
    omega
  refine Nat.le_trans ?_ whole
  clear whole
  induction items with
  | nil => cases inside
  | cons first rest ih =>
    cases rest with
    | nil =>
      rw [List.mem_singleton] at inside
      cases inside
      exact Nat.le_refl _
    | cons second more =>
      rw [renderItems, textSize_append, textSize_cons]
      · obtain rfl | later := List.mem_cons.mp inside
        · rw [Json.size]
          omega
        · have earlier := ih later
          omega
      · rintro ⟨⟩

theorem text_size_le (elements : List SnapshotElement) {element : SnapshotElement}
    (body : envelope.deltaOrElements = .elements elements) (inside : element ∈ elements) (shown : element.text = some text)
    (measures : EnvelopeMeasures) : quotedSize text ≤ (envelope.json measures).utf8ByteSize := by
  have text_in : (Json.string text).size ≤ element.toValue.size :=
    member_size_le "text" (by simp [shown, Json.optional])
  have element_in : element.toValue.size ≤ (Json.array (elements.map SnapshotElement.toValue)).size :=
    item_size_le (List.mem_map_of_mem inside)
  have elements_in : (Json.array (elements.map SnapshotElement.toValue)).size ≤ envelope.deltaOrElements.toValue.size := by
    rw [body]
    exact member_size_le "elements" (List.mem_cons_of_mem _ List.mem_cons_self)
  have body_in : envelope.deltaOrElements.toValue.size ≤ (envelope.toValue measures).size :=
    member_size_le "delta_or_elements" (by simp)
  have whole : (envelope.json measures).utf8ByteSize = (envelope.toValue measures).size := by
    rw [ContextEnvelope.json, utf8ByteSize_eq, String.toList_ofList, Json.size]
  have quoted : quotedSize text = (Json.string text).size := rfl
  omega

end Sizes

section Samples

def noMeasures : EnvelopeMeasures where
  dirtyReasons := []
  transportBytes := 0
  utf8Bytes := 0
  serializedTokens := 0
  modelContextTokens := 0
  budget := none

def envelopeReader (envelope : ContextEnvelope) : ParamReader where
  value _ := .error "no value"
  budget _ := .error "no budget"
  envelope text := if text = envelope.json noMeasures then .ok (envelope, noMeasures) else .error "no envelope"

theorem envelopeReader_text (same : text = envelope.json noMeasures) :
    (envelopeReader envelope).envelope text = .ok (envelope, noMeasures) := by
  unfold envelopeReader
  dsimp only
  rw [if_pos same]

theorem envelopeReader_reads (envelope : ContextEnvelope) :
    (envelopeReader envelope).envelope (envelope.json noMeasures) = .ok (envelope, noMeasures) := envelopeReader_text rfl

def deltaParams : StringMap :=
  ((((∅ : StringMap).insert "space_id" "space_space-1").insert "page_id" "page_page-1").insert "lease_epoch" "1").insert
    "mode" "delta"

def deltaRead (base : String) : RequestEnvelope where
  protocol := protocolVersion
  requestId := localRequestId 1
  method := "snapshot.read"
  params := deltaParams.insert "base" base
  deadlineMs := none
  idempotencyKey := none

theorem erase_insert_absent (absent : params.get? key = none) : (params.insert key text).erase key = params := by
  have kept : ∀ entry, entry ∈ params.entries -> entry.1 ≠ key := by
    intro entry inside same
    rw [← same, (Table.mem_entries params entry.1 entry.2).mp inside] at absent
    cases absent
  apply Table.ext_entries
  unfold Table.insert Table.erase Table.filter
  rw [dif_pos absent]
  dsimp only
  rw [List.filter_append, List.filter_eq_self.mpr fun entry inside => by simpa using kept entry inside]
  simp

theorem deltaRead_without (base : String) : (deltaRead base).withoutBase.params = deltaParams := by
  have absent : deltaParams.get? "base" = none := by decide
  exact erase_insert_absent absent

theorem deltaRead_asks (envelope current : ContextEnvelope) :
    AsksDelta (envelopeReader envelope) (deltaRead (envelope.json noMeasures)) current (envelope.json noMeasures) where
  presents := Table.get?_insert_self _ _ _
  room := Nat.le_trans (Table.size_insert_le _ _ _) (by decide)
  valid := by
    refine validateRequest_ok.mpr ⟨rfl, ?_, rfl, ?_⟩
    · show validWireMethod "snapshot.read" = true
      decide
    · rw [deltaRead_without]
      rfl
  mode := by
    rw [deltaRead_without]
    exact ⟨_, rfl, rfl⟩

theorem empty_base_size : ((envelopeOf emptyDocument).json noMeasures).utf8ByteSize ≤ maxLogicalParamValueBytes := by
  rw [ContextEnvelope.json, utf8ByteSize_eq, String.toList_ofList]
  refine Nat.le_trans (Nat.le_of_eq (object_size _)) ?_
  refine Nat.le_trans (Nat.add_le_add_right (renderMembers_le _) 2) ?_
  decide

/-- The snapshot of an empty page is taken as a base. -/
theorem empty_base_taken : TakesBase (envelopeReader (envelopeOf emptyDocument))
    (deltaRead ((envelopeOf emptyDocument).json noMeasures)) (envelopeOf emptyDocument) (envelopeOf emptyDocument) :=
  (delta_base_fits_iff (envelopeReader_reads _) (deltaRead_asks _ _)).mpr empty_base_size

def textElement (text : String) : SnapshotElement :=
  { plainElement stayingKey 0 with kind := .text, text := some text }

theorem textElement_valid (fits : text.utf8ByteSize ≤ maxSnapshotTextBytes) : (textElement text).validate = .ok () := by
  have small : ((textElement text).text.any fun text => decide (maxSnapshotTextBytes < text.utf8ByteSize)) = false :=
    decide_eq_false (Nat.not_lt.mpr fits)
  unfold SnapshotElement.validate
  rw [small]
  rfl

def textDocument (text : String) : SnapshotDocument := documentOf 1 [textElement text]

theorem textDocument_normal (fits : text.utf8ByteSize ≤ maxSnapshotTextBytes) : (textDocument text).Normal := by
  have single : [textElement text].length ≤ maxSnapshotElements := Nat.le_of_ble_eq_true rfl
  refine documentOf_normal (normalizeElements_ok.mpr ⟨single, List.Perm.refl _, ?_, List.pairwise_singleton _ _⟩) ?_
  · exact List.nodup_singleton _
  · intro element inside
    rw [List.mem_singleton.mp inside]
    exact textElement_valid fits

def letters (count : Nat) : String := String.ofList (List.replicate count 'a')

theorem letters_size (count : Nat) : (letters count).utf8ByteSize = count := by
  have letter : 'a'.utf8Size = 1 := by decide
  rw [letters, utf8ByteSize_eq, String.toList_ofList, replicate_size, letter, Nat.mul_one]

theorem letters_quoted (count : Nat) : count < quotedSize (letters count) := by
  have letter : 'a'.utf8Size = 1 := by decide
  have plain : escapeJson 'a' = ['a'] := by decide
  have escaped : (letters count).toList.flatMap escapeJson = List.replicate count 'a' := by
    rw [letters, String.toList_ofList, List.flatMap_replicate, plain, List.flatten_replicate_singleton]
  have quotes : textSize ['"'] = 1 := by decide
  rw [quotedSize, jsonString, escaped, textSize_cons, textSize_append, replicate_size, letter, quotes]
  omega

/-- The complete snapshot of a page with one long text is refused as a base, for its size. -/
theorem long_base_refused : ∃ reader request current envelope measures,
    envelope.validate = .ok () ∧ envelope.coverage = .complete ∧
    reader.envelope (envelope.json measures) = .ok (envelope, measures) ∧
    AsksDelta reader request current (envelope.json measures) ∧ ¬ TakesBase reader request current envelope := by
  have small : (letters 4096).utf8ByteSize ≤ maxSnapshotTextBytes := by
    rw [letters_size]
    decide
  have valid := envelopeOf_valid (textDocument_normal small)
  refine ⟨_, _, envelopeOf (textDocument (letters 4096)), envelopeOf (textDocument (letters 4096)), noMeasures, valid, rfl,
    envelopeReader_reads _, deltaRead_asks _ _, ?_⟩
  intro taken
  obtain ⟨_, each⟩ := validateParams_ok.mp (validateRequest_ok.mp taken.valid).params
  have fits := (each "base" _ (Table.get?_insert_self _ _ _)).2
  have long : quotedSize (letters 4096) ≤ ((envelopeOf (textDocument (letters 4096))).json noMeasures).utf8ByteSize :=
    text_size_le [textElement (letters 4096)] rfl List.mem_cons_self rfl noMeasures
  have quoted := letters_quoted 4096
  have bound : maxLogicalParamValueBytes = 4096 := rfl
  omega

end Samples

end AgentycHost
