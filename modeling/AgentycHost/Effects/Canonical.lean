import AgentycHost.Core.Canonical
import AgentycHost.Shared.Encodings

set_option autoImplicit false

/-! # Reading a canonical value back from its text -/

namespace AgentycHost

open Shared

variable {rest rest' : List Char}

section Strings

variable {one other : Nat}

theorem digitChar_inj : ∀ one other : Fin 16, Nat.digitChar one = Nat.digitChar other -> one = other := by decide

theorem hex4_inj (small : one < 65536) (small' : other < 65536) (same : hex4 one = hex4 other) :
    one = other := by
  have digit : ∀ left right : Nat, Nat.digitChar (left % 16) = Nat.digitChar (right % 16) -> left % 16 = right % 16 := by
    intro left right equal
    have bounded := Nat.mod_lt left (by decide : 0 < 16)
    have bounded' := Nat.mod_lt right (by decide : 0 < 16)
    exact congrArg Fin.val (digitChar_inj ⟨_, bounded⟩ ⟨_, bounded'⟩ equal)
  simp only [hex4, List.cons.injEq, and_true] at same
  obtain ⟨first, second, third, fourth⟩ := same
  have first := digit _ _ first
  have second := digit _ _ second
  have third := digit _ _ third
  have fourth := digit _ _ fourth
  omega

theorem decimal_inj (same : Nat.repr one = Nat.repr other) : one = other := by
  have digits : Nat.toDigits 10 one = Nat.toDigits 10 other := by
    rw [← Nat.toList_repr, ← Nat.toList_repr, same]
  rw [← @Nat.ofDigitChars_ten_toDigits one, digits, Nat.ofDigitChars_ten_toDigits]

def escapeCode (character : Char) : Option Char :=
  if character = '"' then some '"'
  else if character = '\\' then some '\\'
  else if character = '\n' then some 'n'
  else if character = '\r' then some 'r'
  else if character = '\t' then some 't'
  else none

theorem escape_cases (character : Char) :
    (∃ code, escapeCode character = some code ∧ code ≠ 'u' ∧ escape character = ['\\', code]) ∨
    (character.toNat < 65536 ∧ escape character = '\\' :: 'u' :: hex4 character.toNat) ∨
    (character ≠ '"' ∧ character ≠ '\\' ∧ escape character = [character]) := by
  unfold escape escapeCode
  split_ifs with quote slash line carriage tab control
  · exact .inl ⟨_, rfl, by decide, rfl⟩
  · exact .inl ⟨_, rfl, by decide, rfl⟩
  · exact .inl ⟨_, rfl, by decide, rfl⟩
  · exact .inl ⟨_, rfl, by decide, rfl⟩
  · exact .inl ⟨_, rfl, by decide, rfl⟩
  · refine .inr (.inl ⟨?_, rfl⟩)
    simp only [isControl, Bool.or_eq_true, Bool.and_eq_true, decide_eq_true_eq] at control
    omega
  · exact .inr (.inr ⟨quote, slash, rfl⟩)

def readCode (code : Char) : Char :=
  if code = 'n' then '\n' else if code = 'r' then '\r' else if code = 't' then '\t' else code

theorem readCode_escapeCode {character code : Char} (known : escapeCode character = some code) :
    readCode code = character := by
  unfold escapeCode at known
  split_ifs at known with quote slash line carriage tab <;> cases known
  · exact quote.symm
  · exact slash.symm
  · exact line.symm
  · exact carriage.symm
  · exact tab.symm

theorem escape_code : PrefixCode escape := by
  intro one other rest rest' same
  obtain ⟨code, known, plain, written⟩ | ⟨small, written⟩ | ⟨_, slash, written⟩ := escape_cases one <;>
    obtain ⟨code', known', plain', written'⟩ | ⟨small', written'⟩ | ⟨_, slash', written'⟩ := escape_cases other <;>
    rw [written, written'] at same <;> simp only [List.cons_append, List.nil_append, List.cons.injEq] at same
  · obtain ⟨_, rfl, ends⟩ := same
    exact ⟨(readCode_escapeCode known).symm.trans (readCode_escapeCode known'), ends⟩
  · exact absurd same.2.1 plain
  · exact absurd same.1.symm slash'
  · exact absurd same.2.1.symm plain'
  · -- four hexadecimal digits on both sides
    obtain ⟨_, _, same⟩ := same
    obtain ⟨digits, ends⟩ := List.append_inj same rfl
    exact ⟨Char.toNat_inj.mp (hex4_inj small small' digits), ends⟩
  · exact absurd same.1.symm slash'
  · exact absurd same.1 slash
  · exact absurd same.1 slash
  · exact same

theorem escape_opens (character : Char) : ∃ first more, escape character = first :: more ∧ first ≠ '"' := by
  obtain ⟨code, _, _, written⟩ | ⟨_, written⟩ | ⟨quote, _, written⟩ := escape_cases character
  · exact ⟨_, _, written, by decide⟩
  · exact ⟨_, _, written, by decide⟩
  · exact ⟨_, _, written, quote⟩

theorem appendJsonString_code : PrefixCode appendJsonString := by
  intro one other rest rest' same
  simp only [appendJsonString, List.cons_append, List.append_assoc, List.nil_append, List.cons.injEq, true_and] at same
  obtain ⟨equal, ends⟩ := escape_code.closed escape_opens same
  exact ⟨String.toList_inj.mp equal, ends⟩

end Strings

section Values

variable {other one : CanonicalValue}

inductive Shape where
  | null
  | bool
  | number
  | string
  | array
  | object

def shapeOf (first : Char) : Option Shape :=
  if first = 'n' then some .null
  else if first = 't' ∨ first = 'f' then some .bool
  else if first = '"' then some .string
  else if first = '[' then some .array
  else if first = '{' then some .object
  else if isNumberChar first then some .number
  else none

def CanonicalValue.shape : CanonicalValue -> Shape
  | .null => .null
  | .bool _ => .bool
  | .number _ => .number
  | .string _ => .string
  | .array _ => .array
  | .object _ => .object

theorem shapeOf_number {first : Char} (number : isNumberChar first = true) : shapeOf first = some .number := by
  have other : ∀ character, isNumberChar character = false -> first ≠ character := by
    rintro character outside rfl
    rw [number] at outside
    cases outside
  simp [shapeOf, number, other 'n' (by decide), other 't' (by decide), other 'f' (by decide), other '"' (by decide),
    other '[' (by decide), other '{' (by decide)]

theorem render_opens (value : CanonicalValue) :
    ∃ first more, value.render = first :: more ∧ shapeOf first = some value.shape := by
  cases value with
  | null => exact ⟨_, _, rfl, rfl⟩
  | bool value => cases value <;> exact ⟨_, _, rfl, rfl⟩
  | number text =>
    obtain ⟨some_text, digits⟩ := text.written
    cases symbols : text.text.toList with
    | nil => exact absurd symbols some_text
    | cons first more =>
      rw [symbols, List.all_cons, Bool.and_eq_true] at digits
      exact ⟨first, more, by rw [CanonicalValue.render, symbols], shapeOf_number digits.1⟩
  | string text => exact ⟨_, _, rfl, rfl⟩
  | array values => exact ⟨_, _, by rw [CanonicalValue.render], rfl⟩
  | object fields => exact ⟨_, _, by rw [CanonicalValue.render], rfl⟩

theorem renderValues_separated (index : Nat) (values : List CanonicalValue) :
    renderValues index values = separated ',' CanonicalValue.render index values := by
  induction values generalizing index with
  | nil => rw [renderValues, separated]
  | cons value rest ih => rw [renderValues, separated, ih]

def renderField (field : CanonicalField) : List Char := appendJsonString field.1 ++ ':' :: field.2.render

theorem renderFields_separated (index : Nat) (fields : List CanonicalField) :
    renderFields index fields = separated ',' renderField index fields := by
  induction fields generalizing index with
  | nil => rw [renderFields, separated]
  | cons field rest ih =>
    obtain ⟨key, value⟩ := field
    rw [renderFields, separated, ih]
    simp [renderField]

theorem CanonicalValue.by_parts {motive : CanonicalValue -> Prop} (null : motive .null) (bool : ∀ value, motive (.bool value))
    (number : ∀ text, motive (.number text)) (string : ∀ text, motive (.string text))
    (array : ∀ values, (∀ value, value ∈ values -> motive value) -> motive (.array values))
    (object : ∀ fields, (∀ field, field ∈ fields -> motive field.2) -> motive (.object fields))
    (value : CanonicalValue) : motive value := by
  refine @CanonicalValue.rec motive (fun values => ∀ value, value ∈ values -> motive value)
    (fun fields => ∀ field, field ∈ fields -> motive field.2) (fun field => motive field.2)
    null bool number string array object ?_ ?_ ?_ ?_ (fun _ _ holds => holds) value
  · intro value inside
    cases inside
  · intro head tail first later value inside
    obtain rfl | inside := List.mem_cons.mp inside
    · exact first
    · exact later value inside
  · intro field inside
    cases inside
  · intro head tail first later field inside
    obtain rfl | inside := List.mem_cons.mp inside
    · exact first
    · exact later field inside

theorem same_shape (same : one.render ++ rest = other.render ++ rest') :
    one.shape = other.shape := by
  obtain ⟨first, more, written, kind⟩ := render_opens one
  obtain ⟨first', more', written', kind'⟩ := render_opens other
  rw [written, written'] at same
  obtain rfl : first = first' := List.head_eq_of_cons_eq same
  exact Option.some.inj (kind.symm.trans kind')

theorem render_opens_apart {close : Char} (outside : shapeOf close = none) (value : CanonicalValue) :
    ∃ first more, value.render = first :: more ∧ first ≠ close := by
  obtain ⟨first, more, written, kind⟩ := render_opens value
  refine ⟨first, more, written, ?_⟩
  rintro rfl
  rw [outside] at kind
  cases kind

theorem renderField_reads {field : CanonicalField} (value : ReadsBefore isNumberChar CanonicalValue.render field.2) :
    ReadsBefore isNumberChar renderField field := by
  intro other rest rest' stops stops' same
  simp only [renderField, List.append_assoc, List.cons_append] at same
  obtain ⟨key, following⟩ := appendJsonString_code _ _ _ _ same
  obtain ⟨inner, ends⟩ := value other.2 rest rest' stops stops' (List.tail_eq_of_cons_eq following)
  exact ⟨Prod.ext key inner, ends⟩

theorem render_reads (value : CanonicalValue) : ReadsBefore isNumberChar CanonicalValue.render value := by
  induction value using CanonicalValue.by_parts with
  | null =>
    intro other rest rest' _ _ same
    have shape := same_shape same
    cases other with
    | null => exact ⟨rfl, List.append_cancel_left same⟩
    | _ => cases shape
  | bool value =>
    intro other rest rest' _ _ same
    have shape := same_shape same
    cases other with
    | bool value' =>
      cases value <;> cases value' <;> simp only [CanonicalValue.render, List.cons_append, List.cons.injEq] at same
      · exact ⟨rfl, List.append_cancel_left same.2.2.2.2.2⟩
      · exact absurd same.1 (by decide)
      · exact absurd same.1 (by decide)
      · exact ⟨rfl, List.append_cancel_left same.2.2.2.2⟩
    | _ => cases shape
  | number text =>
    intro other rest rest' stops stops' same
    have shape := same_shape same
    cases other with
    | number text' =>
      rw [CanonicalValue.render, CanonicalValue.render] at same
      obtain ⟨digits, ends⟩ := run_ends text.written.2 text'.written.2 stops stops' same
      cases text
      cases text'
      cases String.toList_inj.mp digits
      exact ⟨rfl, ends⟩
    | _ => cases shape
  | string text =>
    intro other rest rest' _ _ same
    have shape := same_shape same
    cases other with
    | string text' =>
      rw [CanonicalValue.render, CanonicalValue.render] at same
      obtain ⟨rfl, ends⟩ := appendJsonString_code _ _ _ _ same
      exact ⟨rfl, ends⟩
    | _ => cases shape
  | array values each =>
    intro other rest rest' _ _ same
    have shape := same_shape same
    cases other with
    | array values' =>
      -- the closing bracket starts no value and is no digit
      simp only [CanonicalValue.render, renderValues_separated, List.cons_append, List.append_assoc, List.nil_append,
        List.cons.injEq, true_and] at same
      obtain ⟨rfl, ends⟩ := separated_ends (by decide : isNumberChar ',' = false) (by decide : isNumberChar ']' = false)
        (by decide) (render_opens_apart rfl) each same
      exact ⟨rfl, ends⟩
    | _ => cases shape
  | object fields each =>
    intro other rest rest' _ _ same
    have shape := same_shape same
    cases other with
    | object fields' =>
      simp only [CanonicalValue.render, renderFields_separated, List.cons_append, List.append_assoc, List.nil_append,
        List.cons.injEq, true_and] at same
      have quoted : ∀ field, ∃ first more, renderField field = first :: more ∧ first ≠ '}' :=
        fun field => ⟨'"', _, rfl, by decide⟩
      have reads : ∀ field, field ∈ fields -> ReadsBefore isNumberChar renderField field :=
        fun field inside => renderField_reads (each field inside)
      obtain ⟨rfl, ends⟩ := separated_ends (by decide : isNumberChar ',' = false) (by decide : isNumberChar '}' = false)
        (by decide) quoted reads same
      exact ⟨rfl, ends⟩
    | _ => cases shape

theorem render_inj (same : one.render = other.render) : one = other := by
  have ends : StartsOutside isNumberChar [] := by
    rintro first ⟨⟩
  exact (render_reads one other [] [] ends ends (by rw [same])).1

end Values

section Objects

variable {fields fields' : List CanonicalField} {value : CanonicalValue}

theorem bytes_inj {one other : String} (same : bytes one = bytes other) : one = other := by
  have distinct : ∀ left right : UInt8, left.toNat = right.toNat -> left = right := fun _ _ => UInt8.toNat_inj.mp
  have octets := List.map_injective_iff.mpr distinct same
  apply String.toByteArray_inj.mp
  exact ByteArray.ext (Array.toList_inj.mp octets)

instance : Std.Total CanonicalValue.byName where
  total left right := le_total (bytes left.1) (bytes right.1)

instance : IsTrans CanonicalField CanonicalValue.byName where
  trans _ _ _ first second := le_trans first second

theorem byName_antisymm {one other : CanonicalField} (first : CanonicalValue.byName one other)
    (second : CanonicalValue.byName other one) : one.1 = other.1 := bytes_inj (le_antisymm first second)

theorem repeatsName_iff (sorted : fields.Pairwise CanonicalValue.byName) :
    CanonicalValue.repeatsName fields = false <-> (fields.map Prod.fst).Nodup := by
  induction fields with
  | nil => simp [CanonicalValue.repeatsName]
  | cons first rest ih =>
    obtain ⟨least, others⟩ := List.pairwise_cons.mp sorted
    cases rest with
    | nil => simp [CanonicalValue.repeatsName]
    | cons second rest =>
      rw [CanonicalValue.repeatsName, Bool.or_eq_false_iff, ih others, @List.map_cons _ _ Prod.fst first, List.nodup_cons]
      refine and_congr_left fun _ => ?_
      rw [beq_eq_false_iff_ne]
      constructor
      · intro apart inside
        obtain ⟨other, there, same⟩ := List.mem_map.mp inside
        obtain rfl | later := List.mem_cons.mp there
        · exact apart same.symm
        · -- the second field lies between two fields of one name
          have above := (List.pairwise_cons.mp others).1 other later
          have below : CanonicalValue.byName other second := by
            have first_below := least second List.mem_cons_self
            unfold CanonicalValue.byName at first_below ⊢
            rwa [same]
          exact apart (same.symm.trans (byName_antisymm above below).symm)
      · intro absent same
        exact absent (List.mem_map.mpr ⟨second, List.mem_cons_self, same.symm⟩)

theorem ofFields_ok : CanonicalValue.ofFields fields = .ok value <->
    (fields.map Prod.fst).Nodup ∧ value = .object (fields.insertionSort CanonicalValue.byName) := by
  have sorted := List.pairwise_insertionSort CanonicalValue.byName fields
  have distinct := ((List.perm_insertionSort CanonicalValue.byName fields).map Prod.fst).nodup_iff
  rw [← distinct, ← repeatsName_iff sorted]
  unfold CanonicalValue.ofFields
  dsimp only
  split_ifs with repeated
  · simp [repeated]
  · simp [repeated, eq_comm]

theorem ofFields_perm (perm : fields.Perm fields') :
    CanonicalValue.ofFields fields = .ok value <-> CanonicalValue.ofFields fields' = .ok value := by
  rw [ofFields_ok, ofFields_ok, (perm.map Prod.fst).nodup_iff]
  refine and_congr_right fun distinct => ?_
  have sorted : fields.insertionSort CanonicalValue.byName = fields'.insertionSort CanonicalValue.byName := by
    have same := (List.perm_insertionSort CanonicalValue.byName fields).trans
      (perm.trans (List.perm_insertionSort CanonicalValue.byName fields').symm)
    refine same.eq_of_pairwise ?_ (List.pairwise_insertionSort _ _) (List.pairwise_insertionSort _ _)
    intro one other inside there first second
    have inside := perm.subset ((List.mem_insertionSort _).mp inside)
    have there := (List.mem_insertionSort _).mp there
    exact List.inj_on_of_nodup_map distinct inside there (byName_antisymm first second)
  rw [sorted]

end Objects

end AgentycHost
