import AgentycHost.Policy.Redaction

set_option autoImplicit false

/-!
# Cutting by octets

The markers are searched and the values cut in the octets of the text. A marker
is ASCII, so that no occurrence begins or ends inside a character.
-/

namespace AgentycHost

open Shared

variable {character : Char} {word text early late : List Char}

section Encoding

variable {byte : UInt8}

theorem utf8Bytes_append (early late : List Char) : utf8Bytes (early ++ late) = utf8Bytes early ++ utf8Bytes late :=
  List.flatMap_append

theorem utf8Bytes_cons (character : Char) (rest : List Char) :
    utf8Bytes (character :: rest) = String.utf8EncodeChar character ++ utf8Bytes rest := List.flatMap_cons

theorem encode_one (small : character.toNat < 128) : String.utf8EncodeChar character = [byteOf character] := by
  have single : character.val.toNat ≤ 0x7F := Nat.le_of_lt_succ small
  unfold String.utf8EncodeChar
  exact if_pos single

theorem byteOf_toNat (small : character.toNat < 128) : (byteOf character).toNat = character.toNat := by
  have fits : character.toNat % 256 = character.toNat := Nat.mod_eq_of_lt (Nat.lt_trans small (by decide))
  unfold byteOf
  rw [UInt8.toNat_ofNat', fits]

theorem octet_bound {bound value : Nat} (least : bound ≤ value) (most : value < 256) :
    bound ≤ (UInt8.ofNat value).toNat := by
  have fits : value % 256 = value := Nat.mod_eq_of_lt most
  rw [UInt8.toNat_ofNat', fits]
  exact least

theorem encode_more (large : 128 ≤ character.toNat) :
    ∃ first more, String.utf8EncodeChar character = first :: more ∧ 0xC0 ≤ first.toNat ∧
      ∀ byte, byte ∈ more -> 0x80 ≤ byte.toNat := by
  have wide : ¬ character.val.toNat ≤ 0x7F := Nat.not_le.mpr large
  unfold String.utf8EncodeChar
  dsimp only
  rw [if_neg wide]
  split
  next =>
    refine ⟨_, _, rfl, octet_bound (by omega) (by omega), ?_⟩
    intro byte inside
    rw [List.mem_singleton.mp inside]
    exact octet_bound (by omega) (by omega)
  next =>
    split
    next =>
      refine ⟨_, _, rfl, octet_bound (by omega) (by omega), ?_⟩
      simp only [List.mem_cons, List.not_mem_nil, or_false, forall_eq_or_imp, forall_eq]
      exact ⟨octet_bound (by omega) (by omega), octet_bound (by omega) (by omega)⟩
    next =>
      refine ⟨_, _, rfl, octet_bound (by omega) (by omega), ?_⟩
      simp only [List.mem_cons, List.not_mem_nil, or_false, forall_eq_or_imp, forall_eq]
      exact ⟨octet_bound (by omega) (by omega), octet_bound (by omega) (by omega), octet_bound (by omega) (by omega)⟩

theorem encode_high (large : 128 ≤ character.toNat) (inside : byte ∈ String.utf8EncodeChar character) :
    0x80 ≤ byte.toNat := by
  obtain ⟨first, more, written, opens, continues⟩ := encode_more large
  rw [written] at inside
  rcases List.mem_cons.mp inside with same | later
  · rw [same]
    omega
  · exact continues byte later

theorem encode_cons (character : Char) : ∃ first more, String.utf8EncodeChar character = first :: more ∧
    ∀ byte, byte ∈ more -> 0x80 ≤ byte.toNat := by
  by_cases small : character.toNat < 128
  · refine ⟨byteOf character, [], encode_one small, ?_⟩
    intro byte inside
    cases inside
  · obtain ⟨first, more, written, _, continues⟩ := encode_more (Nat.not_lt.mp small)
    exact ⟨first, more, written, continues⟩

theorem table_bytes {table : List Char} (checked : (table.all fun entry => decide (entry.toNat < 128)) = true)
    (inside : byte ∈ String.utf8EncodeChar character) :
    (table.map byteOf).contains byte = table.contains character := by
  have ascii (entry : Char) (listed : entry ∈ table) : entry.toNat < 128 :=
    of_decide_eq_true (List.all_eq_true.mp checked entry listed)
  rw [Bool.eq_iff_iff, List.contains_iff_mem, List.contains_iff_mem, List.mem_map]
  by_cases small : character.toNat < 128
  · rw [encode_one small, List.mem_singleton] at inside
    rw [inside]
    constructor
    · rintro ⟨entry, listed, same⟩
      have equal := congrArg UInt8.toNat same
      rw [byteOf_toNat (ascii entry listed), byteOf_toNat small] at equal
      rwa [← Char.toNat_inj.mp equal]
    · intro listed
      exact ⟨character, listed, rfl⟩
  · have high := encode_high (Nat.not_lt.mp small) inside
    constructor
    · rintro ⟨entry, listed, same⟩
      have low := ascii entry listed
      have equal := byteOf_toNat low
      rw [same] at equal
      omega
    · intro listed
      exact absurd (ascii character listed) small

theorem takeWhile_bytes {kind : Char -> Bool} {kindByte : UInt8 -> Bool}
    (agree : ∀ character byte, byte ∈ String.utf8EncodeChar character -> kindByte byte = kind character)
    (text : List Char) : (utf8Bytes text).takeWhile kindByte = utf8Bytes (text.takeWhile kind) := by
  induction text with
  | nil => rfl
  | cons head rest ih =>
    rw [utf8Bytes_cons]
    by_cases holds : kind head = true
    · rw [List.takeWhile_cons_of_pos holds, utf8Bytes_cons, ← ih]
      apply List.takeWhile_append_of_pos
      intro byte inside
      rw [agree head byte inside, holds]
    · rw [List.takeWhile_cons_of_neg holds]
      obtain ⟨first, more, written⟩ := List.exists_cons_of_ne_nil (String.utf8EncodeChar_ne_nil (c := head))
      have stops := agree head first (by rw [written]; exact List.mem_cons_self)
      rw [written, List.cons_append]
      exact List.takeWhile_cons_of_neg (by rw [stops]; exact holds)

end Encoding

section Search

variable {marker : List UInt8}

theorem lower_table : ((List.range 128).all fun value =>
    asciiLowercaseByte (UInt8.ofNat value) == byteOf (Char.ofNat value).toLower &&
      decide ((Char.ofNat value).toLower.toNat < 128)) = true := by decide

theorem lower_small {value : Nat} (small : value < 128) :
    asciiLowercaseByte (UInt8.ofNat value) = byteOf (Char.ofNat value).toLower ∧
      (Char.ofNat value).toLower.toNat < 128 := by
  have checked := List.all_eq_true.mp lower_table value (List.mem_range.mpr small)
  rw [Bool.and_eq_true, beq_iff_eq, decide_eq_true_eq] at checked
  exact checked

theorem toLower_large (large : 128 ≤ character.toNat) : character.toLower = character := by
  have outside : ¬ (character.val ≥ 'A'.val ∧ character.val ≤ 'Z'.val) := by
    rintro ⟨-, upper⟩
    have bound : character.toNat ≤ 90 := upper
    omega
  exact dif_neg outside

theorem lower_encoded (character : Char) :
    (String.utf8EncodeChar character).map asciiLowercaseByte = String.utf8EncodeChar character.toLower := by
  by_cases small : character.toNat < 128
  · obtain ⟨lowered, still⟩ := lower_small small
    rw [Char.ofNat_toNat] at lowered still
    rw [encode_one small, encode_one still, List.map_singleton, byteOf, lowered]
  · have large := Nat.not_lt.mp small
    rw [toLower_large large]
    calc (String.utf8EncodeChar character).map asciiLowercaseByte
        = (String.utf8EncodeChar character).map fun byte => byte := by
          apply List.map_congr_left
          intro byte inside
          have high := encode_high large inside
          refine if_neg ?_
          rintro ⟨-, upper⟩
          have bound : byte.toNat ≤ 90 := UInt8.le_iff_toNat_le.mp upper
          omega
      _ = String.utf8EncodeChar character := List.map_id' _

theorem lower_text (text : List Char) :
    (utf8Bytes text).map asciiLowercaseByte = utf8Bytes (text.map (loweredItem id)) := by
  induction text with
  | nil => rfl
  | cons head rest ih =>
    rw [utf8Bytes_cons, List.map_append, ih, lower_encoded, List.map_cons, utf8Bytes_cons]
    rfl

theorem lower_length (text : List Char) : (utf8Bytes (text.map (loweredItem id))).length = (utf8Bytes text).length := by
  rw [← lower_text, List.length_map]

theorem prefix_bytes (ascii : ∀ entry, entry ∈ word -> entry.toNat < 128) (text : List Char) :
    utf8Bytes word <+: utf8Bytes text <-> word <+: text := by
  induction word generalizing text with
  | nil => exact ⟨fun _ => List.nil_prefix, fun _ => List.nil_prefix⟩
  | cons letter word ih =>
    have small := ascii letter List.mem_cons_self
    have others := ih fun entry inside => ascii entry (List.mem_cons_of_mem _ inside)
    rw [utf8Bytes_cons, encode_one small, List.singleton_append]
    cases text with
    | nil =>
      constructor
      · intro starts
        exact absurd (List.prefix_nil.mp starts) (List.cons_ne_nil _ _)
      · intro starts
        exact absurd (List.prefix_nil.mp starts) (List.cons_ne_nil _ _)
    | cons head rest =>
      rw [utf8Bytes_cons, List.cons_prefix_cons]
      by_cases single : head.toNat < 128
      · rw [encode_one single, List.singleton_append, List.cons_prefix_cons, others]
        apply and_congr_left
        intro _
        constructor
        · intro same
          have equal := congrArg UInt8.toNat same
          rw [byteOf_toNat small, byteOf_toNat single] at equal
          exact Char.toNat_inj.mp equal
        · intro same
          rw [same]
      · obtain ⟨first, more, written, opens, _⟩ := encode_more (Nat.not_lt.mp single)
        rw [written, List.cons_append, List.cons_prefix_cons]
        constructor
        · rintro ⟨same, _⟩
          have equal := byteOf_toNat small
          rw [same] at equal
          omega
        · rintro ⟨same, _⟩
          exact absurd (same ▸ small) single

theorem findBytes_here {bytes : List UInt8} (starts : marker <+: bytes) : findBytes marker bytes = some 0 := by
  cases bytes with
  | nil =>
    rw [List.prefix_nil.mp starts]
    rfl
  | cons head rest => exact if_pos (List.isPrefixOf_iff_prefix.mpr starts)

theorem findBytes_high {letter : UInt8} {high : List UInt8} (low : letter.toNat < 0x80)
    (octets : ∀ byte, byte ∈ high -> 0x80 ≤ byte.toNat) (bytes : List UInt8) :
    findBytes (letter :: marker) (high ++ bytes) = (findBytes (letter :: marker) bytes).map (· + high.length) := by
  induction high with
  | nil => exact Option.map_id'.symm
  | cons head rest ih =>
    have fails : ¬ (letter :: marker).isPrefixOf (head :: (rest ++ bytes)) = true := by
      intro starts
      have same := (List.cons_prefix_cons.mp (List.isPrefixOf_iff_prefix.mp starts)).1
      have large := octets head List.mem_cons_self
      rw [← same] at large
      omega
    rw [List.cons_append, findBytes, if_neg fails, ih fun byte inside => octets byte (List.mem_cons_of_mem _ inside),
      Option.map_map]
    rfl

theorem findBytes_text (some' : word ≠ []) (ascii : ∀ entry, entry ∈ word -> entry.toNat < 128) (text : List Char) :
    findBytes (utf8Bytes word) ((utf8Bytes text).map asciiLowercaseByte) =
      (splitAfter (loweredItem id) word text).map fun parts => (utf8Bytes parts.1).length - (utf8Bytes word).length := by
  obtain ⟨letter, others, rfl⟩ := List.exists_cons_of_ne_nil some'
  have small := ascii letter List.mem_cons_self
  have opens : utf8Bytes (letter :: others) = byteOf letter :: utf8Bytes others := by
    rw [utf8Bytes_cons, encode_one small, List.singleton_append]
  have low : (byteOf letter).toNat < 0x80 := by rwa [byteOf_toNat small]
  rw [lower_text]
  induction text with
  | nil =>
    rw [opens]
    rfl
  | cons head rest ih =>
    unfold splitAfter
    by_cases starts : (letter :: others).isPrefixOf ((head :: rest).map (loweredItem id)) = true
    · rw [if_pos starts, findBytes_here ((prefix_bytes ascii _).mpr (List.isPrefixOf_iff_prefix.mp starts))]
      have taken := List.prefix_iff_eq_take.mp (List.isPrefixOf_iff_prefix.mp starts)
      rw [← List.map_take] at taken
      have same := lower_length ((head :: rest).take (letter :: others).length)
      rw [← taken] at same
      rw [Option.map_some, ← same, Nat.sub_self]
    · rw [if_neg starts, Option.map_map]
      have fails : ¬ utf8Bytes (letter :: others) <+: utf8Bytes ((head :: rest).map (loweredItem id)) := fun begins =>
        starts (List.isPrefixOf_iff_prefix.mpr ((prefix_bytes ascii _).mp begins))
      obtain ⟨first, more, written, continues⟩ := encode_cons (loweredItem id head)
      have bytes : utf8Bytes ((head :: rest).map (loweredItem id)) =
          first :: (more ++ utf8Bytes (rest.map (loweredItem id))) := by
        rw [List.map_cons, utf8Bytes_cons, written, List.cons_append]
      rw [bytes] at fails ⊢
      rw [findBytes, if_neg (fun begins => fails (List.isPrefixOf_iff_prefix.mp begins)), opens,
        findBytes_high low continues, ← opens, ih, Option.map_map, Option.map_map]
      apply Option.map_congr
      rintro ⟨before, after⟩ found
      obtain ⟨_, ends, _⟩ := splitAfter_first found
      -- the octets of the head come before those of the occurrence
      have long : (utf8Bytes (letter :: others)).length ≤ (utf8Bytes before).length := by
        obtain ⟨front, occurrence, split, viewed, _⟩ := ends.last some'
        rw [split, utf8Bytes_append, List.length_append, ← lower_length occurrence, viewed]
        omega
      have size : (String.utf8EncodeChar head).length = more.length + 1 := by
        have equal := congrArg List.length (lower_encoded head)
        rw [List.length_map] at equal
        rw [equal]
        exact congrArg List.length written
      rw [Function.comp_apply, Function.comp_apply, Function.comp_apply, utf8Bytes_cons head, List.length_append, size]
      dsimp only
      omega

end Search

section Cuts

theorem boundary_between (early late : List Char) :
    isCharBoundary (utf8Bytes (early ++ late)) (utf8Bytes early).length = true := by
  unfold isCharBoundary
  rw [utf8Bytes_append, List.getElem?_append_right (Nat.le_refl _), Nat.sub_self]
  cases late with
  | nil =>
    rw [Bool.or_eq_true]
    right
    simp [utf8Bytes]
  | cons head rest =>
    rw [Bool.or_eq_true]
    right
    rw [utf8Bytes_cons]
    by_cases small : head.toNat < 128
    · have low : byteOf head < 0x80 := by
        rw [UInt8.lt_iff_toNat_lt, byteOf_toNat small]
        exact small
      rw [encode_one small]
      simp [low]
    · obtain ⟨first, more, written, opens, _⟩ := encode_more (Nat.not_lt.mp small)
      have high : (0xC0 : UInt8) ≤ first := UInt8.le_iff_toNat_le.mpr opens
      rw [written]
      simp [high]

theorem skipBytes_text {kind : Char -> Bool} {kindByte : UInt8 -> Bool}
    (agree : ∀ character byte, byte ∈ String.utf8EncodeChar character -> kindByte byte = kind character)
    (early late : List Char) :
    skipBytes kindByte (utf8Bytes (early ++ late)) (utf8Bytes early).length =
      (utf8Bytes (early ++ late.takeWhile kind)).length := by
  unfold skipBytes
  rw [utf8Bytes_append, List.drop_left, takeWhile_bytes agree, utf8Bytes_append, List.length_append]

theorem replaceRange_text (early middle late : List Char) (replacement : List Char) :
    replaceRange (utf8Bytes (early ++ middle ++ late)) (utf8Bytes early).length (utf8Bytes (early ++ middle)).length
      (utf8Bytes replacement) = some (utf8Bytes (early ++ replacement ++ late)) := by
  have opens : isCharBoundary (utf8Bytes (early ++ middle ++ late)) (utf8Bytes early).length = true := by
    rw [List.append_assoc]
    exact boundary_between early (middle ++ late)
  have closes := boundary_between (early ++ middle) late
  unfold replaceRange
  rw [opens, closes, Bool.and_self, if_pos rfl]
  have taken : (utf8Bytes (early ++ middle ++ late)).take (utf8Bytes early).length = utf8Bytes early := by
    rw [List.append_assoc, utf8Bytes_append, List.take_left]
  have dropped : (utf8Bytes (early ++ middle ++ late)).drop (utf8Bytes (early ++ middle)).length = utf8Bytes late := by
    rw [utf8Bytes_append (early ++ middle), List.drop_left]
  rw [taken, dropped, utf8Bytes_append, utf8Bytes_append]

theorem separator_bytes (character : Char) (byte : UInt8) (inside : byte ∈ String.utf8EncodeChar character) :
    isSeparatorByte byte = isSeparator character :=
  table_bytes (by decide) inside

theorem delimiter_bytes (character : Char) (byte : UInt8) (inside : byte ∈ String.utf8EncodeChar character) :
    (!isDelimiterByte byte) = !isDelimiter character :=
  congrArg not (table_bytes (by decide) inside)

theorem whitespace_bytes (character : Char) (byte : UInt8) (inside : byte ∈ String.utf8EncodeChar character) :
    isAsciiWhitespace byte = asciiWhitespace.contains character :=
  table_bytes (by decide) inside

theorem whitespace_separates {character : Char} (printable : isControl character = false)
    (white : asciiWhitespace.contains character = true) : isSeparator character = true := by
  have listed : character = ' ' ∨ isControl character = true := by
    simp only [asciiWhitespace, List.contains_iff_mem, List.mem_cons, List.not_mem_nil, or_false] at white
    obtain rfl | rfl | rfl | rfl | rfl := white
    · exact .inl rfl
    all_goals exact .inr rfl
  obtain rfl | control := listed
  · rfl
  · rw [printable] at control
    cases control

theorem utf8Bytes_nil_of (same : (utf8Bytes (early ++ late)).length = (utf8Bytes early).length) : late = [] := by
  cases late with
  | nil => rfl
  | cons head rest =>
    obtain ⟨first, more, written, _⟩ := encode_cons head
    rw [utf8Bytes_append, utf8Bytes_cons, written] at same
    simp only [List.length_append, List.length_cons, List.cons_append] at same
    omega

theorem takeWhile_nil_of {wide narrow : Char -> Bool} (none : text.takeWhile wide = [])
    (narrower : ∀ character, character ∈ text -> narrow character = true -> wide character = true) :
    text.takeWhile narrow = [] := by
  cases text with
  | nil => rfl
  | cons head rest =>
    by_cases holds : narrow head = true
    · rw [List.takeWhile_cons_of_pos (narrower head List.mem_cons_self holds)] at none
      cases none
    · exact List.takeWhile_cons_of_neg holds

theorem redactMarkerBytes_text (some' : word ≠ []) (ascii : ∀ entry, entry ∈ word -> entry.toNat < 128)
    (printable : ∀ character, character ∈ text -> isControl character = false) :
    redactMarkerBytes (utf8Bytes text) (utf8Bytes word) = some (utf8Bytes (redactMarkerValue id redactedMark text word)) := by
  unfold redactMarkerBytes redactMarkerValue
  rw [findBytes_text some' ascii]
  cases found : splitAfter (loweredItem id) word text with
  | none => rfl
  | some parts =>
    obtain ⟨before, after⟩ := parts
    obtain ⟨rfl, ends, _⟩ := splitAfter_first found
    obtain ⟨separators, rest, split, sep, ended⟩ : ∃ separators rest, after = separators ++ rest ∧
        (after.takeWhile fun item => isSeparator (id item)) = separators ∧
          (after.dropWhile fun item => isSeparator (id item)) = rest :=
      ⟨_, _, (List.takeWhile_append_dropWhile).symm, rfl, rfl⟩
    have begins : (utf8Bytes before).length - (utf8Bytes word).length + (utf8Bytes word).length = (utf8Bytes before).length := by
      obtain ⟨front, occurrence, split, viewed, _⟩ := ends.last some'
      have long : (utf8Bytes word).length ≤ (utf8Bytes before).length := by
        rw [split, utf8Bytes_append, List.length_append, ← lower_length occurrence, viewed]
        omega
      omega
    have starts : skipBytes isSeparatorByte (utf8Bytes (before ++ after)) (utf8Bytes before).length =
        (utf8Bytes (before ++ separators)).length := by
      rw [skipBytes_text separator_bytes]
      exact congrArg (fun text => (utf8Bytes (before ++ text)).length) sep
    have stops : skipBytes (fun byte => !isDelimiterByte byte) (utf8Bytes (before ++ after))
        (utf8Bytes (before ++ separators)).length =
          (utf8Bytes (before ++ separators ++ rest.takeWhile fun item => !isDelimiter item)).length := by
      rw [split, ← List.append_assoc]
      exact skipBytes_text delimiter_bytes _ _
    have value : valueOf id after = rest.takeWhile fun item => !isDelimiter item := by
      unfold valueOf
      rw [ended]
      rfl
    -- the second look for white space after `bearer` finds none
    have again : (if (utf8Bytes (before ++ separators)).length = (utf8Bytes before).length ∧
          utf8Bytes word = utf8Bytes "bearer".toList then
        skipBytes isAsciiWhitespace (utf8Bytes (before ++ after)) (utf8Bytes before).length
      else (utf8Bytes (before ++ separators)).length) = (utf8Bytes (before ++ separators)).length := by
      split
      next same =>
        have unseparated : separators = [] := utf8Bytes_nil_of same.1
        rw [skipBytes_text whitespace_bytes, unseparated]
        have unspaced : after.takeWhile (asciiWhitespace.contains) = [] := by
          rw [unseparated] at sep
          apply takeWhile_nil_of sep
          intro character inside white
          exact whitespace_separates (printable character (List.mem_append_right _ inside)) white
        rw [unspaced]
      next => rfl
    dsimp only [Option.map_some]
    rw [begins, starts, again, stops, sep, ended, value]
    by_cases empty : (rest.takeWhile fun item => !isDelimiter item) = []
    · rw [empty, List.append_nil, if_neg (Nat.lt_irrefl _)]
      rfl
    · obtain ⟨first, more, opens⟩ := List.exists_cons_of_ne_nil empty
      have longer : (utf8Bytes (before ++ separators)).length <
          (utf8Bytes (before ++ separators ++ rest.takeWhile fun item => !isDelimiter item)).length := by
        obtain ⟨octet, others, written, _⟩ := encode_cons first
        rw [utf8Bytes_append (before ++ separators), List.length_append, opens, utf8Bytes_cons, written]
        simp only [List.cons_append, List.length_cons]
        omega
      have whole : before ++ after = before ++ separators ++ (rest.takeWhile fun item => !isDelimiter item) ++
          rest.dropWhile fun item => !isDelimiter item := by
        rw [List.append_assoc _ (rest.takeWhile _), List.takeWhile_append_dropWhile, split, List.append_assoc]
      have filled : (rest.takeWhile fun item => !isDelimiter item).isEmpty = false := by
        rw [opens]
        rfl
      rw [if_pos longer, whole, replaceRange_text, filled]
      rfl

end Cuts

section Texts

variable {marker : List Char}

def PlainWord (word : List Char) : Bool := !word.isEmpty && word.all fun letter => decide (letter.toNat < 128)

theorem markers_plain : redactionMarkers.all PlainWord = true := by decide

def Printable (text : List Char) : Prop := ∀ character, character ∈ text -> isControl character = false

theorem mark_unbroken : (redactedMark.all fun character => !isControl character) = true := by decide

theorem mark_printable : Printable redactedMark := by
  intro character inside
  exact (Bool.not_eq_true' _).mp (List.all_eq_true.mp mark_unbroken character inside)

theorem boundedToken_printable (value : String) (max : Nat) : Printable (boundedToken value max) := by
  intro character inside
  have kept := List.mem_of_mem_take inside
  exact Bool.not_eq_true' _ |>.mp (List.mem_filter.mp kept).2

theorem redactMarkerValue_printable (printable : Printable text) :
    Printable (redactMarkerValue id redactedMark text marker) := by
  unfold redactMarkerValue
  split
  next => exact printable
  next before after found =>
    obtain ⟨rfl, _⟩ := splitAfter_first found
    dsimp only
    split
    next => exact printable
    next =>
      intro character inside
      simp only [List.append_assoc, List.mem_append] at inside
      obtain early | between | marked | late := inside
      · exact printable character (List.mem_append_left _ early)
      · exact printable character (List.mem_append_right _ (List.takeWhile_subset _ between))
      · exact mark_printable character marked
      · have inner := (List.dropWhile_suffix _).subset late
        exact printable character (List.mem_append_right _ ((List.dropWhile_suffix _).subset inner))

theorem redactTextBytes_text (value : String) : redactTextBytes value = some (utf8Bytes (redactText value).toList) := by
  have passes (markers : List (List Char)) (plain : markers.all PlainWord = true) (text : List Char)
      (printable : Printable text) :
      markers.foldlM (fun bytes marker => redactMarkerBytes bytes (utf8Bytes marker)) (utf8Bytes text) =
        some (utf8Bytes (markers.foldl (redactMarkerValue id redactedMark) text)) := by
    induction markers generalizing text with
    | nil => rfl
    | cons marker markers ih =>
      rw [List.all_cons, Bool.and_eq_true] at plain
      obtain ⟨word, others⟩ := plain
      unfold PlainWord at word
      rw [Bool.and_eq_true, Bool.not_eq_true', List.isEmpty_eq_false_iff, List.all_eq_true] at word
      have ascii (entry : Char) (inside : entry ∈ marker) : entry.toNat < 128 := of_decide_eq_true (word.2 entry inside)
      rw [List.foldlM_cons, redactMarkerBytes_text word.1 ascii printable, List.foldl_cons]
      exact ih others _ (redactMarkerValue_printable printable)
  unfold redactTextBytes redactText redactMarkers
  rw [String.toList_ofList]
  exact passes redactionMarkers markers_plain _ (boundedToken_printable value _)

end Texts

end AgentycHost
