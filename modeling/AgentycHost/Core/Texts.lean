import AgentycHost.Core.Contracts

set_option autoImplicit false

/-!
# Texts in bytes and in code units

The host measures a text in UTF-8 bytes, and the extension in UTF-16 code units.
On ASCII texts the two are the same.
-/

namespace AgentycHost

def codeUnits (character : Char) : List Nat :=
  if character.toNat < 0x10000 then [character.toNat]
  else [0xd800 + (character.toNat - 0x10000) / 0x400, 0xdc00 + (character.toNat - 0x10000) % 0x400]

def utf16 (text : String) : List Nat := text.toList.flatMap codeUnits

def IsAscii (text : String) : Prop := ∀ character, character ∈ text.toList -> character.toNat < 128

variable {text one other : String} {character : Char}

theorem utf16_append (one other : String) : utf16 (one ++ other) = utf16 one ++ utf16 other := by
  simp [utf16]

theorem bytes_append (one other : String) : bytes (one ++ other) = bytes one ++ bytes other := by
  simp [bytes]

theorem isAscii_of (checked : (text.toList.all fun character => decide (character.toNat < 128)) = true) : IsAscii text := by
  intro character inside
  exact of_decide_eq_true (List.all_eq_true.mp checked character inside)

theorem IsAscii.append (first : IsAscii one) (second : IsAscii other) : IsAscii (one ++ other) := by
  intro character inside
  rw [String.toList_append] at inside
  obtain early | late := List.mem_append.mp inside
  · exact first character early
  · exact second character late

theorem utf16_ascii (ascii : IsAscii text) : utf16 text = text.toList.map Char.toNat := by
  have single (characters : List Char) (small : ∀ character, character ∈ characters -> character.toNat < 128) :
      characters.flatMap codeUnits = characters.map Char.toNat := by
    induction characters with
    | nil => rfl
    | cons first rest ih =>
      have plain : first.toNat < 0x10000 := Nat.lt_trans (small first List.mem_cons_self) (by decide)
      rw [List.flatMap_cons, codeUnits, if_pos plain, ih fun character inside =>
        small character (List.mem_cons_of_mem _ inside)]
      rfl
  exact single text.toList ascii

theorem bytes_eq (text : String) :
    bytes text = text.toList.flatMap fun character => (String.utf8EncodeChar character).map UInt8.toNat := by
  have encoded : text.toByteArray = text.toList.utf8Encode := by
    rw [← String.toByteArray_ofList, String.ofList_toList]
  rw [bytes, encoded, List.utf8Encode, List.data_toByteArray, List.toList_toArray, List.map_flatMap]

theorem encode_small (small : character.toNat < 128) :
    (String.utf8EncodeChar character).map UInt8.toNat = [character.toNat] := by
  have single : String.utf8EncodeChar character = [UInt8.ofNat character.toNat] := by
    unfold String.utf8EncodeChar
    exact if_pos (Nat.le_of_lt_succ small)
  have fits : character.toNat % 2 ^ 8 = character.toNat := Nat.mod_eq_of_lt (Nat.lt_trans small (by decide))
  rw [single, List.map_cons, List.map_nil, UInt8.toNat_ofNat', fits]

theorem encode_large (large : 128 ≤ character.toNat) :
    ∃ byte, byte ∈ (String.utf8EncodeChar character).map UInt8.toNat ∧ 128 ≤ byte := by
  have first (value mark : Nat) (high : 128 ≤ mark) (low : mark + value < 256) :
      128 ≤ (UInt8.ofNat (value + mark)).toNat := by
    have fits : (value + mark) % 2 ^ 8 = value + mark := Nat.mod_eq_of_lt (by omega)
    rw [UInt8.toNat_ofNat', fits]
    omega
  have more : ¬ character.val.toNat ≤ 0x7f := Nat.not_le.mpr large
  unfold String.utf8EncodeChar
  dsimp only
  rw [if_neg more]
  split
  next =>
    have two := first (character.val.toNat / 64 % 0x20) 0xc0 (by decide) (by omega)
    exact ⟨_, List.mem_cons_self, two⟩
  next =>
    split
    next =>
      have three := first (character.val.toNat / 4096 % 0x10) 0xe0 (by decide) (by omega)
      exact ⟨_, List.mem_cons_self, three⟩
    next =>
      have four := first (character.val.toNat / 262144 % 0x08) 0xf0 (by decide) (by omega)
      exact ⟨_, List.mem_cons_self, four⟩

theorem bytes_ascii (ascii : IsAscii text) : bytes text = text.toList.map Char.toNat := by
  have single (characters : List Char) (small : ∀ character, character ∈ characters -> character.toNat < 128) :
      (characters.flatMap fun character => (String.utf8EncodeChar character).map UInt8.toNat) =
        characters.map Char.toNat := by
    induction characters with
    | nil => rfl
    | cons first rest ih =>
      rw [List.flatMap_cons, encode_small (small first List.mem_cons_self), ih fun character inside =>
        small character (List.mem_cons_of_mem _ inside)]
      rfl
  rw [bytes_eq]
  exact single text.toList ascii

theorem ascii_of_bytes (small : ∀ byte, byte ∈ bytes text -> byte < 128) : IsAscii text := by
  intro character inside
  by_contra large
  obtain ⟨byte, within, high⟩ := encode_large (Nat.not_lt.mp large)
  have there : byte ∈ bytes text := by
    rw [bytes_eq]
    exact List.mem_flatMap.mpr ⟨character, inside, within⟩
  exact absurd (small byte there) (Nat.not_lt.mpr high)

theorem bytes_length (text : String) : (bytes text).length = text.utf8ByteSize := by simp [bytes]

section Decimals

variable {value : Nat} {tag : String}

theorem isDigit_bounds {digit : Char} (told : digit.isDigit = true) : 48 ≤ digit.toNat ∧ digit.toNat ≤ 57 := by
  simp only [Char.isDigit, ge_iff_le, Bool.and_eq_true, decide_eq_true_eq, UInt32.le_iff_toNat_le] at told
  exact told

theorem repr_ascii (value : Nat) : IsAscii (Nat.repr value) := by
  intro digit inside
  have listed : digit ∈ Nat.toDigits 10 value := by simpa [Nat.repr] using inside
  have bounds := isDigit_bounds (Nat.isDigit_of_mem_toDigits (by decide) (by decide) listed)
  omega

theorem decimal_bytes (value : Nat) : bytes (toString value) = (Nat.toDigits 10 value).map Char.toNat := by
  have ascii : IsAscii (toString value) := repr_ascii value
  rw [bytes_ascii ascii]
  change (String.ofList (Nat.toDigits 10 value)).toList.map Char.toNat = _
  rw [String.toList_ofList]

theorem decimal_units (value : Nat) : utf16 (toString value) = (Nat.toDigits 10 value).map Char.toNat := by
  have ascii : IsAscii (toString value) := repr_ascii value
  rw [utf16_ascii ascii, ← bytes_ascii ascii, decimal_bytes]

theorem decimal_numeric (value : Nat) : (bytes (toString value)).all isAsciiDigit = true := by
  rw [decimal_bytes, List.all_map, List.all_eq_true]
  intro digit inside
  have bounds := isDigit_bounds (Nat.isDigit_of_mem_toDigits (by decide) (by decide) inside)
  simpa [isAsciiDigit] using bounds

theorem decimal_size {width : Nat} (wide : 0 < width) (small : value < 10 ^ width) :
    (toString value).utf8ByteSize ≤ width := by
  rw [← bytes_length, decimal_bytes, List.length_map]
  exact (Nat.length_toDigits_le_iff (by decide) wide).mpr small

theorem decimal_nonempty (value : Nat) : Nat.toDigits 10 value ≠ [] := by
  intro none
  have size : 0 < (Nat.toDigits 10 value).length := Nat.length_toDigits_pos
  rw [none] at size
  exact absurd size (Nat.lt_irrefl 0)

theorem decimal_identifier (room : tag.utf8ByteSize ≤ 108) (counted : value ≤ u64Max) :
    validateIdentifier tag (toString value) = true := by
  have size : (toString value).utf8ByteSize ≤ 20 :=
    decimal_size (by decide) (Nat.lt_of_le_of_lt counted (by decide))
  have short : tag.utf8ByteSize + (toString value).utf8ByteSize ≤ maxIdLength := by
    unfold maxIdLength
    omega
  have numeric := decimal_numeric value
  obtain ⟨first, rest, written⟩ := List.exists_cons_of_ne_nil (decimal_nonempty value)
  rw [decimal_bytes, written, List.map_cons, List.all_cons, Bool.and_eq_true, List.all_eq_true] at numeric
  obtain ⟨leads, follow⟩ := numeric
  have allowed : (rest.map Char.toNat).all
      (fun byte => isAsciiLowercase byte || isAsciiDigit byte || byte == 95 || byte == 45) = true := by
    rw [List.all_eq_true]
    intro byte inside
    rw [follow byte inside, Bool.or_true, Bool.true_or, Bool.true_or]
  unfold validateIdentifier
  rw [decide_eq_true short, decimal_bytes, written, List.map_cons]
  dsimp only
  rw [leads, allowed, Bool.or_true]
  rfl

def Identifier.fromSuffix (tag suffix : String) : Option (Identifier tag) :=
  if valid : validateIdentifier tag suffix = true then some ⟨suffix, valid⟩ else none

theorem counted_identifier {lead : String} {first : Nat} {rest : List Nat} (leads : bytes lead = first :: rest)
    (starts : (isAsciiLowercase first || isAsciiDigit first) = true)
    (follows : rest.all (fun byte => isAsciiLowercase byte || isAsciiDigit byte || byte == 95 || byte == 45) = true)
    (room : tag.utf8ByteSize + lead.utf8ByteSize ≤ 108) (counted : value ≤ u64Max) :
    validateIdentifier tag (lead ++ toString value) = true := by
  have size : (toString value).utf8ByteSize ≤ 20 :=
    decimal_size (by decide) (Nat.lt_of_le_of_lt counted (by decide))
  have short : tag.utf8ByteSize + (lead ++ toString value).utf8ByteSize ≤ maxIdLength := by
    rw [String.utf8ByteSize_append]
    unfold maxIdLength
    omega
  have numeric := decimal_numeric value
  rw [List.all_eq_true] at numeric
  have allowed : (bytes (toString value)).all
      (fun byte => isAsciiLowercase byte || isAsciiDigit byte || byte == 95 || byte == 45) = true := by
    rw [List.all_eq_true]
    intro byte inside
    rw [numeric byte inside, Bool.or_true, Bool.true_or, Bool.true_or]
  unfold validateIdentifier
  rw [decide_eq_true short, bytes_append, leads, List.cons_append]
  dsimp only
  rw [starts, List.all_append, follows, allowed]
  rfl

end Decimals

end AgentycHost
