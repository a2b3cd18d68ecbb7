import AgentycHost.Broker.WaitConditions
import AgentycHost.Native.TabWorker
import AgentycHost.Safety.BridgePayloads
import AgentycHost.Shared.Encodings

set_option autoImplicit false

/-! # Page commands across the native bridge -/

namespace AgentycHost

open Shared

variable {tag text : String} {leaseEpoch : LeaseEpoch} {pageId : Identifier "page_"}

section Identities

variable {unit : Nat}

theorem identifier_shape (identifier : Identifier tag) : ∃ first rest, bytes identifier.suffix = first :: rest ∧
    TabWorker.isIdHead first = true ∧ rest.all TabWorker.isIdTail = true ∧ tag.utf8ByteSize + (rest.length + 1) ≤ 128 := by
  have valid := identifier.valid
  unfold validateIdentifier at valid
  rw [Bool.and_eq_true, decide_eq_true_eq] at valid
  obtain ⟨short, shaped⟩ := valid
  have size : identifier.suffix.utf8ByteSize = (bytes identifier.suffix).length := by simp [bytes]
  cases written : bytes identifier.suffix with
  | nil =>
    simp only [written] at shaped
    cases shaped
  | cons first rest =>
    simp only [written, Bool.and_eq_true] at shaped
    rw [size, written] at short
    exact ⟨first, rest, rfl, shaped.1, shaped.2, short⟩

theorem isIdTail_small (allowed : TabWorker.isIdTail unit = true) : unit < 128 := by
  simp only [TabWorker.isIdTail, isAsciiLowercase, isAsciiDigit, Bool.or_eq_true, Bool.and_eq_true, decide_eq_true_eq,
    beq_iff_eq] at allowed
  omega

theorem isIdHead_tail (allowed : TabWorker.isIdHead unit = true) : TabWorker.isIdTail unit = true := by
  simp only [TabWorker.isIdHead, Bool.or_eq_true] at allowed
  simp [TabWorker.isIdTail, allowed]

theorem suffix_ascii (identifier : Identifier tag) : IsAscii identifier.suffix := by
  obtain ⟨first, rest, written, head, tail, _⟩ := identifier_shape identifier
  apply ascii_of_bytes
  intro byte inside
  rw [written] at inside
  obtain rfl | later := List.mem_cons.mp inside
  · exact isIdTail_small (isIdHead_tail head)
  · exact isIdTail_small (List.all_eq_true.mp tail byte later)

theorem identifier_accepted (identifier : Identifier tag) (tagged : 0 < tag.utf8ByteSize) :
    (TabWorker.logicalId tag).Accepts (utf16 identifier.text) := by
  obtain ⟨first, rest, written, head, tail, short⟩ := identifier_shape identifier
  have units : utf16 identifier.suffix = first :: rest := by
    rw [← written, utf16_ascii (suffix_ascii identifier), bytes_ascii (suffix_ascii identifier)]
  refine ⟨utf16 tag, first :: rest, by rw [Identifier.text, utf16_append, units], rfl, [first], rest, rfl,
    ⟨first, rfl, head⟩, tail, ?_⟩
  intro bound most
  cases most
  omega

end Identities

section Epochs

theorem decimalValue_units (value : Nat) : TabWorker.decimalValue (utf16 (toString value)) = value := by
  rw [decimal_units, TabWorker.decimalValue, fold_digits, Nat.ofDigitChars_ten_toDigits]

theorem digits_numeric (value : Nat) : (utf16 (toString value)).all isAsciiDigit = true := by
  rw [decimal_units, ← decimal_bytes]
  exact decimal_numeric value

theorem digits_lead {value : Nat} (positive : 1 ≤ value) : ∃ first rest, Nat.toDigits 10 value = first :: rest ∧
    49 ≤ first.toNat ∧ first.toNat ≤ 57 := by
  induction value using Nat.strongRecOn with
  | ind value ih =>
    rw [Nat.toDigits_eq_if (by decide)]
    split
    next small =>
      refine ⟨_, [], rfl, ?_⟩
      have known : value = 1 ∨ value = 2 ∨ value = 3 ∨ value = 4 ∨ value = 5 ∨ value = 6 ∨ value = 7 ∨ value = 8 ∨
          value = 9 := by omega
      obtain rfl | rfl | rfl | rfl | rfl | rfl | rfl | rfl | rfl := known <;> decide
    next large =>
      obtain ⟨first, rest, written, bounds⟩ := ih (value / 10) (by omega) (by omega)
      exact ⟨first, rest ++ [Nat.digitChar (value % 10)], by rw [written]; rfl, bounds⟩

theorem epoch_accepted (positive : 1 ≤ leaseEpoch) : TabWorker.epochPattern.Accepts (utf16 (toString leaseEpoch)) := by
  have numeric := digits_numeric leaseEpoch
  obtain ⟨first, rest, written, low, high⟩ := digits_lead positive
  rw [decimal_units, written, List.map_cons] at numeric ⊢
  rw [List.all_cons, Bool.and_eq_true] at numeric
  refine ⟨[first.toNat], rest.map Char.toNat, rfl, ⟨_, rfl, by simp [low, high]⟩, numeric.2, ?_⟩
  intro bound most
  cases most

end Epochs

section Bootstrap

/-- The bootstrap URL of any page. -/
def bootstrapUrlOf (pageId : Identifier "page_") (leaseEpoch : LeaseEpoch) : String :=
  "about:blank#agentyc-tab=" ++ pageId.text ++ "-" ++ toString leaseEpoch

theorem bootstrap_units (pageId : Identifier "page_") (leaseEpoch : LeaseEpoch) :
    utf16 (bootstrapUrlOf pageId leaseEpoch) =
      utf16 "about:blank#agentyc-tab=" ++ (utf16 pageId.text ++ (utf16 "-" ++ utf16 (toString leaseEpoch))) := by
  unfold bootstrapUrlOf
  rw [utf16_append, utf16_append, utf16_append, List.append_assoc, List.append_assoc]

theorem hyphen_parts {one two one' two' : List Nat} (digits : two.all isAsciiDigit = true)
    (digits' : two'.all isAsciiDigit = true) (same : one ++ 45 :: two = one' ++ 45 :: two') : one = one' ∧ two = two' := by
  have stops (rest : List Nat) : StartsOutside isAsciiDigit (45 :: rest) := by
    intro first starts
    cases starts
    rfl
  have mirrored : two.reverse ++ 45 :: one.reverse = two'.reverse ++ 45 :: one'.reverse := by
    simpa using congrArg List.reverse same
  obtain ⟨ends, begins⟩ := run_ends (by simpa using digits) (by simpa using digits') (stops _) (stops _) mirrored
  exact ⟨List.reverse_injective (List.tail_eq_of_cons_eq begins), List.reverse_injective ends⟩

theorem epochPattern_digits {units : List Nat} (accepted : TabWorker.epochPattern.Accepts units) :
    units.all isAsciiDigit = true := by
  obtain ⟨_, rest, rfl, ⟨first, rfl, lead⟩, numeric, _⟩ := accepted
  simp only [Bool.and_eq_true, decide_eq_true_eq] at lead
  rw [List.singleton_append, List.all_cons, numeric, Bool.and_true]
  simp only [isAsciiDigit, Bool.and_eq_true, decide_eq_true_eq]
  omega

theorem bootstrap_found (positive : 1 ≤ leaseEpoch) : TabWorker.bootstrapMatch (bootstrapUrlOf pageId leaseEpoch) =
    some (utf16 pageId.text, utf16 (toString leaseEpoch)) := by
  have hyphen : utf16 "-" = [45] := by decide
  apply Pattern.exec_unique
  · exact Pattern.mem_groups.mpr ⟨_, _, bootstrap_units pageId leaseEpoch, rfl,
      identifier_accepted pageId (by decide), rfl, epoch_accepted positive⟩
  · rintro ⟨one, two⟩ found
    obtain ⟨_, _, split, rfl, _, rfl, ends⟩ := Pattern.mem_groups.mp found
    rw [bootstrap_units, List.append_cancel_left_eq, hyphen] at split
    obtain ⟨rfl, rfl⟩ := hyphen_parts (digits_numeric leaseEpoch) (epochPattern_digits ends) split
    rfl

end Bootstrap

section Host

variable {one other : String}

def Unspaced (text : String) : Prop := text.toList.any isWhitespace = false

theorem Unspaced.append (first : Unspaced one) (second : Unspaced other) : Unspaced (one ++ other) := by
  unfold Unspaced at first second ⊢
  rw [String.toList_append, List.any_append, first, second, Bool.or_self]

theorem isIdTail_unspaced {character : Char} (allowed : TabWorker.isIdTail character.toNat = true) :
    isWhitespace character = false := by
  simp only [TabWorker.isIdTail, isAsciiLowercase, isAsciiDigit, Bool.or_eq_true, Bool.and_eq_true, decide_eq_true_eq,
    beq_iff_eq] at allowed
  simp only [isWhitespace, Bool.or_eq_false_iff, Bool.and_eq_false_iff, decide_eq_false_iff_not, List.contains_eq_mem,
    List.mem_cons, List.not_mem_nil, or_false, not_or]
  omega

theorem unspaced_units (ascii : IsAscii text) (allowed : (utf16 text).all TabWorker.isIdTail = true) : Unspaced text := by
  rw [utf16_ascii ascii, List.all_map, List.all_eq_true] at allowed
  unfold Unspaced
  rw [List.any_eq_false]
  intro character inside
  simpa using isIdTail_unspaced (allowed character inside)

theorem digits_unspaced (value : Nat) : Unspaced (toString value) := by
  apply unspaced_units (repr_ascii value)
  have numeric := digits_numeric value
  rw [List.all_eq_true] at numeric ⊢
  intro unit inside
  simp [TabWorker.isIdTail, numeric unit inside]

theorem suffix_unspaced (identifier : Identifier tag) : Unspaced identifier.suffix := by
  apply unspaced_units (suffix_ascii identifier)
  obtain ⟨first, rest, written, head, tail, _⟩ := identifier_shape identifier
  rw [utf16_ascii (suffix_ascii identifier), ← bytes_ascii (suffix_ascii identifier), written, List.all_cons, tail,
    isIdHead_tail head]
  rfl

theorem bootstrap_size (pageId : Identifier "page_") (safe : leaseEpoch ≤ maxSafeInteger) :
    (bootstrapUrlOf pageId leaseEpoch).utf8ByteSize ≤ 1024 := by
  have page : pageId.text.utf8ByteSize ≤ 128 := pageId.text_size
  have epoch : (toString leaseEpoch).utf8ByteSize ≤ 16 :=
    decimal_size (by decide) (Nat.lt_of_le_of_lt safe (by decide))
  have lead : "about:blank#agentyc-tab=".utf8ByteSize = 24 := by decide
  have hyphen : "-".utf8ByteSize = 1 := by decide
  unfold bootstrapUrlOf
  rw [String.utf8ByteSize_append, String.utf8ByteSize_append, String.utf8ByteSize_append, lead, hyphen]
  omega

theorem bootstrap_ascii (pageId : Identifier "page_") (leaseEpoch : LeaseEpoch) : IsAscii (bootstrapUrlOf pageId leaseEpoch) := by
  have lead : IsAscii "about:blank#agentyc-tab=" := isAscii_of (by decide)
  have page : IsAscii "page_" := isAscii_of (by decide)
  have hyphen : IsAscii "-" := isAscii_of (by decide)
  exact ((lead.append (page.append (suffix_ascii pageId))).append hyphen).append (repr_ascii leaseEpoch)

theorem host_accepts (pageId : Identifier "page_") (safe : leaseEpoch ≤ maxSafeInteger) :
    validateBootstrapUrl (bootstrapUrlOf pageId leaseEpoch) = .ok () := by
  have starts : startsWith (bootstrapUrlOf pageId leaseEpoch) "about:blank#agentyc-tab=" = true := by
    unfold startsWith bootstrapUrlOf
    rw [List.isPrefixOf_iff_prefix, bytes_append, bytes_append, bytes_append, List.append_assoc, List.append_assoc]
    exact List.prefix_append _ _
  have lead : "about:blank#agentyc-tab=".toList.any isWhitespace = false := by decide
  have page : "page_".toList.any isWhitespace = false := by decide
  have hyphen : "-".toList.any isWhitespace = false := by decide
  have unspaced : Unspaced (bootstrapUrlOf pageId leaseEpoch) :=
    ((Unspaced.append lead (Unspaced.append page (suffix_unspaced pageId))).append hyphen).append
      (digits_unspaced leaseEpoch)
  unfold validateBootstrapUrl
  rw [starts, decide_eq_true (bootstrap_size pageId safe), unspaced]
  rfl

end Host

section Worker

variable {spaceId : Identifier "space_"} {whole : String -> Option Int} {label : String}

theorem worker_accepts (positive : 1 ≤ leaseEpoch) (safe : leaseEpoch ≤ maxSafeInteger) :
    TabWorker.validateBootstrapUrl (bootstrapUrlOf pageId leaseEpoch) = true := by
  have ascii := bootstrap_ascii pageId leaseEpoch
  have units : (utf16 (bootstrapUrlOf pageId leaseEpoch)).length ≤ 1024 := by
    rw [utf16_ascii ascii, ← bytes_ascii ascii, bytes_length]
    exact bootstrap_size pageId safe
  rw [TabWorker.validateBootstrapUrl, bootstrap_found positive, decide_eq_true units, Option.any_some,
    decimalValue_units, decide_eq_true safe]
  rfl

theorem groupParams_keys : TabWorker.joinedKeys [("lease_epoch", Json.int leaseEpoch), ("page_id", Json.string pageId.text),
    ("space_id", Json.string spaceId.text), ("title", Json.string label)] = "lease_epoch,page_id,space_id,title" := by
  unfold TabWorker.joinedKeys
  simp only [List.map_cons, List.map_nil]
  decide

theorem label_units (accepted : boundedLabel label = .ok label) : 0 < (utf16 label).length := by
  simp only [boundedLabel, bind_ok, require_ok, Bool.and_eq_true, decide_eq_true_eq] at accepted
  obtain ⟨_, ⟨filled, _⟩, _⟩ := accepted
  obtain ⟨first, rest, letters⟩ := List.exists_cons_of_ne_nil (show label.toList ≠ [] by simpa using filled)
  rw [utf16, letters, List.flatMap_cons, List.length_append]
  have one : 0 < (codeUnits first).length := by
    unfold codeUnits
    split
    next => exact Nat.one_pos
    next => exact Nat.two_pos
  omega

theorem validGroupParams_iff (positive : 1 ≤ leaseEpoch) (safe : leaseEpoch ≤ maxSafeInteger)
    (accepted : boundedLabel label = .ok label) :
    TabWorker.validGroupParams whole (groupParams spaceId.text pageId.text leaseEpoch (some label)) = true <->
      (utf16 label).length ≤ 128 := by
  have space : TabWorker.spaceIdPattern.test (utf16 spaceId.text) = true :=
    Pattern.test_iff.mpr (identifier_accepted spaceId (by decide))
  have page : TabWorker.pageIdPattern.test (utf16 pageId.text) = true :=
    Pattern.test_iff.mpr (identifier_accepted pageId (by decide))
  have epoch : (TabWorker.safeInteger whole (some (.int leaseEpoch))).any (fun value => decide (1 ≤ value)) = true := by
    have within : ((leaseEpoch : Int).natAbs ≤ maxSafeInteger) := safe
    rw [TabWorker.safeInteger, Option.filter_some, if_pos (decide_eq_true within), Option.any_some]
    exact decide_eq_true (Int.ofNat_le.mpr positive)
  have filled := label_units accepted
  have keys := @groupParams_keys leaseEpoch pageId spaceId label
  have shape : groupParams spaceId.text pageId.text leaseEpoch (some label) = .object [("lease_epoch", .int leaseEpoch),
      ("page_id", .string pageId.text), ("space_id", .string spaceId.text), ("title", .string label)] := rfl
  have atSpace : (groupParams spaceId.text pageId.text leaseEpoch (some label)).get "space_id" =
      some (.string spaceId.text) := rfl
  have atPage : (groupParams spaceId.text pageId.text leaseEpoch (some label)).get "page_id" =
      some (.string pageId.text) := rfl
  have atEpoch : (groupParams spaceId.text pageId.text leaseEpoch (some label)).get "lease_epoch" =
      some (.int leaseEpoch) := rfl
  have atTitle : (groupParams spaceId.text pageId.text leaseEpoch (some label)).get "title" = some (.string label) := rfl
  rw [shape] at atSpace atPage atEpoch atTitle ⊢
  unfold TabWorker.validGroupParams
  dsimp only
  rw [keys, atSpace, atPage, atEpoch, atTitle, epoch]
  simp [TabWorker.isLogicalId, TabWorker.validGroupTitle, space, page, filled]

end Worker

/-- The host and the worker agree on the commands of a page. -/
structure PageCommandsAgree (whole : String -> Option Int) (spaceId : Identifier "space_") (pageId : Identifier "page_")
    (leaseEpoch : LeaseEpoch) (label : String) : Prop where
  host : validateBootstrapUrl (bootstrapUrlOf pageId leaseEpoch) = .ok ()
  worker : TabWorker.validateBootstrapUrl (bootstrapUrlOf pageId leaseEpoch) = true
  page : TabWorker.bootstrapPage (bootstrapUrlOf pageId leaseEpoch) = some (utf16 pageId.text)
  group : TabWorker.validGroupParams whole (groupParams spaceId.text pageId.text leaseEpoch (some label)) = true

section Sample

def samplePage : Identifier "page_" := ⟨"page-1", by decide⟩

def sampleGroup : Identifier "space_" := ⟨"space-1", by decide⟩

def noWhole (_ : String) : Option Int := none

def longLabel : String := String.ofList (List.replicate 129 'u')

theorem longLabel_accepted : boundedLabel longLabel = .ok longLabel := by
  have size : longLabel.utf8ByteSize = 129 := repeated_size 129
  have filled : longLabel ≠ "" := by
    intro empty
    rw [empty] at size
    exact absurd size (by decide)
  have printed : longLabel.toList.any isControl = false := by
    unfold longLabel
    rw [String.toList_ofList]
    exact repeated_printed 129
  simp [boundedLabel, boundedText, size, filled, printed, require]

theorem repeated_units (count : Nat) : (utf16 (String.ofList (List.replicate count 'u'))).length = count := by
  have ascii : IsAscii (String.ofList (List.replicate count 'u')) := by
    intro character inside
    rw [String.toList_ofList] at inside
    rw [List.eq_of_mem_replicate inside]
    decide
  rw [utf16_ascii ascii, List.length_map, String.toList_ofList, List.length_replicate]

theorem longLabel_units : (utf16 longLabel).length = 129 := repeated_units 129

end Sample

end AgentycHost
