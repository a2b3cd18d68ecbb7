import Mathlib.Algebra.Order.Ring.Int
import Mathlib.Data.List.Basic

set_option autoImplicit false

/-!
# Codes that can be read back

An item is written as a list of symbols with more symbols after it. A prefix
code is one whose end can be found without knowing what follows.
-/

namespace Shared

variable {A C : Type} {rest rest' : List C}

def PrefixCode (encode : A -> List C) : Prop :=
  ∀ one other rest rest', encode one ++ rest = encode other ++ rest' -> one = other ∧ rest = rest'

theorem PrefixCode.closed {encode : A -> List C} (code : PrefixCode encode) {stop : C}
    (opens : ∀ item, ∃ first more, encode item = first :: more ∧ first ≠ stop) {items items' : List A}
    (same : items.flatMap encode ++ stop :: rest = items'.flatMap encode ++ stop :: rest') :
    items = items' ∧ rest = rest' := by
  induction items generalizing items' with
  | nil =>
    cases items' with
    | nil => exact ⟨rfl, List.tail_eq_of_cons_eq same⟩
    | cons other more =>
      obtain ⟨first, _, written, apart⟩ := opens other
      rw [List.flatMap_cons, written] at same
      exact absurd (List.head_eq_of_cons_eq same).symm apart
  | cons item more ih =>
    cases items' with
    | nil =>
      obtain ⟨first, _, written, apart⟩ := opens item
      rw [List.flatMap_cons, written] at same
      exact absurd (List.head_eq_of_cons_eq same) apart
    | cons other others =>
      simp only [List.flatMap_cons, List.append_assoc] at same
      obtain ⟨rfl, following⟩ := code _ _ _ _ same
      obtain ⟨rfl, ends⟩ := ih following
      exact ⟨rfl, ends⟩

def StartsOutside (kind : C -> Bool) (rest : List C) : Prop := ∀ first, rest.head? = some first -> kind first = false

theorem run_ends {kind : C -> Bool} {symbols symbols' : List C} (inside : symbols.all kind = true)
    (inside' : symbols'.all kind = true) (stops : StartsOutside kind rest) (stops' : StartsOutside kind rest')
    (same : symbols ++ rest = symbols' ++ rest') : symbols = symbols' ∧ rest = rest' := by
  induction symbols generalizing symbols' with
  | nil =>
    cases symbols' with
    | nil => exact ⟨rfl, same⟩
    | cons other more =>
      have outside := stops other (by rw [List.nil_append] at same; rw [same]; rfl)
      rw [List.all_cons, outside] at inside'
      cases inside'
  | cons symbol more ih =>
    cases symbols' with
    | nil =>
      have outside := stops' symbol (by rw [List.nil_append] at same; rw [← same]; rfl)
      rw [List.all_cons, outside] at inside
      cases inside
    | cons other others =>
      rw [List.all_cons, Bool.and_eq_true] at inside inside'
      obtain ⟨rfl, following⟩ := List.cons.inj same
      obtain ⟨rfl, ends⟩ := ih inside.2 inside'.2 following
      exact ⟨rfl, ends⟩

section Separated

def separated (comma : C) (encode : A -> List C) : Nat -> List A -> List C
  | _, [] => []
  | index, item :: more =>
      (if index ≠ 0 then [comma] else []) ++ (encode item ++ separated comma encode (index + 1) more)

def ReadsBefore (kind : C -> Bool) (encode : A -> List C) (item : A) : Prop :=
  ∀ other rest rest', StartsOutside kind rest -> StartsOutside kind rest' ->
    encode item ++ rest = encode other ++ rest' -> item = other ∧ rest = rest'

variable {kind : C -> Bool} {encode : A -> List C} {comma close : C} {items items' : List A}

theorem separated_stops (commas : kind comma = false) (closes : kind close = false) (index : Nat) (items : List A) :
    StartsOutside kind (separated comma encode (index + 1) items ++ close :: rest) := by
  intro first starts
  cases items with
  | nil =>
    obtain rfl : close = first := Option.some.inj starts
    exact closes
  | cons item more =>
    obtain rfl : comma = first := Option.some.inj starts
    exact commas

theorem separated_opens (opens : ∀ item, ∃ first more, encode item = first :: more ∧ first ≠ close)
    (apart : comma ≠ close) (index : Nat) (item : A) (more : List A) :
    separated comma encode index (item :: more) ++ rest ≠ close :: rest' := by
  intro same
  obtain ⟨first, others, written, distinct⟩ := opens item
  rw [separated, written] at same
  by_cases start : index = 0
  · rw [if_neg (not_not.mpr start)] at same
    exact distinct (List.head_eq_of_cons_eq same)
  · rw [if_pos start] at same
    exact apart (List.head_eq_of_cons_eq same)

theorem separated_ends (commas : kind comma = false) (closes : kind close = false) (apart : comma ≠ close)
    (opens : ∀ item, ∃ first more, encode item = first :: more ∧ first ≠ close)
    (each : ∀ item, item ∈ items -> ReadsBefore kind encode item) {index : Nat}
    (same : separated comma encode index items ++ close :: rest = separated comma encode index items' ++ close :: rest') :
    items = items' ∧ rest = rest' := by
  induction items generalizing index items' with
  | nil =>
    cases items' with
    | nil => exact ⟨rfl, List.tail_eq_of_cons_eq same⟩
    | cons other others => exact absurd same.symm (separated_opens opens apart index other others)
  | cons item more ih =>
    cases items' with
    | nil => exact absurd same (separated_opens opens apart index item more)
    | cons other others =>
      simp only [separated, List.append_assoc, List.append_cancel_left_eq] at same
      have stops : StartsOutside kind (separated comma encode (index + 1) more ++ close :: rest) :=
        separated_stops commas closes index more
      have stops' : StartsOutside kind (separated comma encode (index + 1) others ++ close :: rest') :=
        separated_stops commas closes index others
      obtain ⟨rfl, following⟩ := each item List.mem_cons_self other _ _ stops stops' same
      obtain ⟨rfl, ends⟩ := ih (fun later inside => each later (List.mem_cons_of_mem _ inside)) following
      exact ⟨rfl, ends⟩

end Separated

section Sizes

def textSize (text : List Char) : Nat := (text.map Char.utf8Size).sum

theorem textSize_append (first second : List Char) : textSize (first ++ second) = textSize first + textSize second := by
  rw [textSize, List.map_append, List.sum_append, textSize, textSize]

theorem textSize_cons (head : Char) (rest : List Char) : textSize (head :: rest) = head.utf8Size + textSize rest := by
  rw [textSize, List.map_cons, List.sum_cons, textSize]

theorem utf8Encode_size (text : List Char) : text.utf8Encode.size = textSize text := by
  induction text with
  | nil => rfl
  | cons head rest ih =>
    rw [List.utf8Encode_cons, ByteArray.size_append, ih, textSize_cons]
    congr 1
    simp [List.utf8Encode]

theorem utf8ByteSize_eq (text : String) : text.utf8ByteSize = textSize text.toList := by
  rw [← String.size_toByteArray, ← utf8Encode_size, ← String.toByteArray_ofList, String.ofList_toList]

theorem textSize_le (text : List Char) : textSize text ≤ 4 * text.length := by
  induction text with
  | nil => exact Nat.le_refl 0
  | cons head rest ih =>
    have one := head.utf8Size_le_four
    rw [textSize_cons, List.length_cons]
    omega

end Sizes

end Shared
