import Mathlib.Data.List.TakeWhile
import AgentycHost.Policy.Redaction

set_option autoImplicit false

/-!
# One pass of the redaction

A pass leaves the text as it is, or it puts the mark in the place of one value
and keeps everything around it.
-/

namespace AgentycHost

open Shared

variable {A : Type} {char : A -> Char} {item : A} {marker : List Char}
  {mark text before after separators value rest early : List A}

section Letters

def outsideCharacters : List Char := markerSeparators ++ valueDelimiters ++ ['[', ']']

theorem outside_markers : (redactionMarkers.all fun marker => outsideCharacters.all fun character =>
    !marker.contains character.toLower) = true := by decide

theorem mark_markers : (redactionMarkers.all fun marker => redactedMark.inits.all fun early =>
    !marker.isSuffixOf (early.map Char.toLower)) = true := by decide

theorem markers_filled : (redactionMarkers.all fun marker => !marker.isEmpty) = true := by decide

theorem mark_plain : (redactedMark.all fun character => !isSeparator character && !isDelimiter character) = true := by decide

variable (listed : marker ∈ redactionMarkers)
include listed

theorem marker_filled : marker ≠ [] := by
  have filled := List.all_eq_true.mp markers_filled marker listed
  rw [Bool.not_eq_true', List.isEmpty_eq_false_iff] at filled
  exact filled

theorem not_in_marker (outside : char item ∈ outsideCharacters) : loweredItem char item ∉ marker := by
  have apart := List.all_eq_true.mp (List.all_eq_true.mp outside_markers marker listed) (char item) outside
  rw [Bool.not_eq_true', List.contains_eq_mem, decide_eq_false_iff_not] at apart
  exact apart

theorem separator_not_in_marker (separates : isSeparator (char item) = true) : loweredItem char item ∉ marker := by
  apply not_in_marker listed
  exact List.mem_append_left _ (List.mem_append_left _ (List.contains_iff_mem.mp separates))

theorem delimiter_not_in_marker (ends : isDelimiter (char item) = true) : loweredItem char item ∉ marker := by
  apply not_in_marker listed
  exact List.mem_append_left _ (List.mem_append_right _ (List.contains_iff_mem.mp ends))

theorem mark_without_marker {early late : List Char} (starts : redactedMark = early ++ late) :
    ¬ marker <:+ early.map Char.toLower := by
  intro ends
  have initial : early ∈ redactedMark.inits := List.mem_inits _ _ |>.mpr ⟨late, starts.symm⟩
  have apart := List.all_eq_true.mp (List.all_eq_true.mp mark_markers marker listed) early initial
  rw [Bool.not_eq_true'] at apart
  rw [List.isSuffixOf_iff_suffix.mpr ends] at apart
  cases apart

end Letters

section Values

def EndsValue (char : A -> Char) (rest : List A) : Prop :=
  ∀ item more, rest = item :: more -> isDelimiter (char item) = true

structure IsValue (char : A -> Char) (value : List A) : Prop where
  opens : ∃ first more, value = first :: more ∧ isSeparator (char first) = false
  whole : ∀ item, item ∈ value -> isDelimiter (char item) = false

theorem IsValue.ne_nil (is : IsValue char value) : value ≠ [] := by
  obtain ⟨first, more, rfl, _⟩ := is.opens
  exact List.cons_ne_nil _ _

theorem takeWhile_value (whole : ∀ item, item ∈ value -> isDelimiter (char item) = false)
    (ends : EndsValue char rest) : ((value ++ rest).takeWhile fun item => !isDelimiter (char item)) = value := by
  rw [List.takeWhile_append_of_pos (by intro item inside; rw [whole item inside]; rfl)]
  cases rest with
  | nil => rw [List.takeWhile_nil, List.append_nil]
  | cons item more =>
    have delimiter := ends item more rfl
    rw [List.takeWhile_cons_of_neg (by rw [delimiter]; decide), List.append_nil]

theorem valueOf_behind (is : IsValue char value) (ends : EndsValue char rest) (front : List A) :
    valueOf char (front ++ (value ++ rest)) =
      let left := front.dropWhile fun item => isSeparator (char item)
      if left.all fun item => !isDelimiter (char item) then left ++ value
      else left.takeWhile fun item => !isDelimiter (char item) := by
  have skips : ((front ++ (value ++ rest)).dropWhile fun item => isSeparator (char item)) =
      (front.dropWhile fun item => isSeparator (char item)) ++ (value ++ rest) := by
    obtain ⟨first, more, rfl, opens⟩ := is.opens
    rw [List.dropWhile_append]
    split
    next none =>
      rw [List.isEmpty_iff.mp none, List.nil_append, List.cons_append,
        List.dropWhile_cons_of_neg (by rw [opens]; decide)]
    next => rfl
  unfold valueOf
  rw [skips]
  dsimp only
  by_cases plain : ((front.dropWhile fun item => isSeparator (char item)).all fun item => !isDelimiter (char item)) = true
  · rw [if_pos plain, ← List.append_assoc]
    apply takeWhile_value _ ends
    intro item inside
    rcases List.mem_append.mp inside with left | valued
    · exact (Bool.not_eq_true' _).mp (List.all_eq_true.mp plain item left)
    · exact is.whole item valued
  · rw [if_neg plain, List.takeWhile_append]
    split
    next all =>
      refine absurd (List.all_eq_true.mpr ?_) plain
      have same := List.takeWhile_prefix (l := front.dropWhile fun item => isSeparator (char item))
        (fun item => !isDelimiter (char item)) |>.eq_of_length all
      intro item inside
      rw [← same] at inside
      exact List.mem_takeWhile_imp (p := fun item => !isDelimiter (char item)) inside
    next => rfl

theorem valueOf_parts (separated : ∀ item, item ∈ separators -> isSeparator (char item) = true)
    (is : IsValue char value) (ends : EndsValue char rest) : valueOf char (separators ++ (value ++ rest)) = value := by
  rw [valueOf_behind is ends, List.dropWhile_eq_nil_iff.mpr separated]
  rfl

end Values

section Passes

structure Cut (char : A -> Char) (mark : List A) (marker : List Char) (before separators value rest text result : List A) :
    Prop where
  text : text = before ++ (separators ++ (value ++ rest))
  first : EndsFirstWith (loweredItem char) marker before
  separated : ∀ item, item ∈ separators -> isSeparator (char item) = true
  value : IsValue char value
  ends : EndsValue char rest
  result : result = before ++ (separators ++ (mark ++ rest))

theorem dropWhile_stops {k : A -> Bool} {item : A} {more : List A} (left : text.dropWhile k = item :: more) :
    k item = false := by
  have head := List.head?_dropWhile_not k text
  rw [left] at head
  simpa using head

theorem pass_cases (char : A -> Char) (mark text : List A) (marker : List Char) :
    (redactMarkerValue char mark text marker = text ∧
      ∀ before after, text = before ++ after -> EndsFirstWith (loweredItem char) marker before ->
        valueOf char after = []) ∨
    ∃ before separators value rest,
      Cut char mark marker before separators value rest text (redactMarkerValue char mark text marker) := by
  unfold redactMarkerValue
  cases found : splitAfter (loweredItem char) marker text with
  | none =>
    left
    refine ⟨rfl, ?_⟩
    intro before after split first
    exact absurd first.1 (splitAfter_eq_none.mp found before after split)
  | some parts =>
    obtain ⟨before, after⟩ := parts
    obtain ⟨rfl, first⟩ := splitAfter_first found
    dsimp only
    by_cases empty : valueOf char after = []
    · left
      rw [empty]
      refine ⟨rfl, ?_⟩
      intro before' after' split first'
      obtain ⟨_, rfl⟩ := first.unique first' split
      exact empty
    · right
      rw [if_neg (by rwa [List.isEmpty_iff])]
      refine ⟨before, after.takeWhile fun item => isSeparator (char item), valueOf char after,
        (after.dropWhile fun item => isSeparator (char item)).dropWhile fun item => !isDelimiter (char item),
        ?_, first, ?_, ?_, ?_, by rw [List.append_assoc, List.append_assoc]⟩
      · unfold valueOf
        rw [List.takeWhile_append_dropWhile, List.takeWhile_append_dropWhile]
      · intro item inside
        exact List.mem_takeWhile_imp (p := fun item => isSeparator (char item)) inside
      · constructor
        · obtain ⟨item, more, opens⟩ := List.exists_cons_of_ne_nil empty
          refine ⟨item, more, opens, ?_⟩
          unfold valueOf at opens
          obtain ⟨others, left⟩ := List.takeWhile_prefix (l := after.dropWhile fun item => isSeparator (char item))
            fun item => !isDelimiter (char item)
          rw [opens] at left
          rw [List.cons_append] at left
          exact dropWhile_stops (k := fun item => isSeparator (char item)) left.symm
        · intro item inside
          have plain := List.mem_takeWhile_imp (p := fun item => !isDelimiter (char item)) inside
          exact (Bool.not_eq_true' _).mp plain
      · intro item more left
        have stops := dropWhile_stops left
        simpa using stops

theorem pass_cut (first : EndsFirstWith (loweredItem char) marker before)
    (separated : ∀ item, item ∈ separators -> isSeparator (char item) = true)
    (is : IsValue char value) (ends : EndsValue char rest) :
    redactMarkerValue char mark (before ++ (separators ++ (value ++ rest))) marker =
      before ++ (separators ++ (mark ++ rest)) := by
  have found : splitAfter (loweredItem char) marker (before ++ (separators ++ (value ++ rest))) =
      some (before, separators ++ (value ++ rest)) := splitAfter_eq_some.mpr ⟨rfl, first⟩
  have skipped : ((separators ++ (value ++ rest)).dropWhile fun item => isSeparator (char item)) = value ++ rest := by
    obtain ⟨item, more, rfl, opens⟩ := is.opens
    rw [List.dropWhile_append_of_pos separated, List.cons_append, List.dropWhile_cons_of_neg (by rw [opens]; decide)]
  have taken : ((separators ++ (value ++ rest)).takeWhile fun item => isSeparator (char item)) = separators := by
    obtain ⟨item, more, rfl, opens⟩ := is.opens
    rw [List.takeWhile_append_of_pos separated, List.cons_append, List.takeWhile_cons_of_neg (by rw [opens]; decide),
      List.append_nil]
  have left : ((value ++ rest).dropWhile fun item => !isDelimiter (char item)) = rest := by
    have whole := List.takeWhile_append_dropWhile (p := fun item => !isDelimiter (char item)) (l := value ++ rest)
    rw [takeWhile_value is.whole ends] at whole
    exact List.append_cancel_left whole
  have filled : (valueOf char (separators ++ (value ++ rest))).isEmpty = false := by
    rw [valueOf_parts separated is ends, List.isEmpty_eq_false_iff]
    exact is.ne_nil
  unfold redactMarkerValue
  rw [found]
  dsimp only
  rw [skipped, taken, left, filled, if_neg Bool.false_ne_true, List.append_assoc, List.append_assoc]

end Passes

section Tags

def tagged (before value rest : List Char) : List (Char × Bool) :=
  before.map (·, false) ++ (value.map (·, true) ++ rest.map (·, false))

def taggedMark : List (Char × Bool) := redactedMark.map (·, false)

def ValueHidden (text : List (Char × Bool)) : Prop :=
  ∀ item, item ∈ redactMarkers Prod.fst taggedMark text -> item.2 = false

theorem map_lowered (early : List A) : early.map (loweredItem char) = (early.map char).map Char.toLower := by
  rw [List.map_map]
  rfl

theorem ends_mapped :
    EndsWith (loweredItem char) marker early <-> EndsWith (loweredItem id) marker (early.map char) := by
  unfold EndsWith
  rw [map_lowered, map_lowered, List.map_id]

theorem first_mapped (first : EndsFirstWith (loweredItem id) marker (early.map char)) :
    EndsFirstWith (loweredItem char) marker early := by
  refine ⟨ends_mapped.mpr first.1, ?_⟩
  intro front late split some' ends
  apply first.2 (front.map char) (late.map char) (by rw [split, List.map_append])
  · intro nothing
    exact some' (List.map_eq_nil_iff.mp nothing)
  · exact ends_mapped.mp ends

theorem IsValue.of_map {value : List A} (is : IsValue id (value.map char)) : IsValue char value := by
  constructor
  · obtain ⟨_, _, whole, opens⟩ := is.opens
    obtain ⟨first, more, rfl, rfl, _⟩ := List.map_eq_cons_iff.mp whole
    exact ⟨first, more, rfl, opens⟩
  · intro item inside
    exact is.whole (char item) (List.mem_map_of_mem inside)

theorem tags_first (text : List Char) (tag : Bool) : (text.map (·, tag)).map Prod.fst = text := by
  rw [List.map_map]
  exact List.map_id _

theorem taggedMark_first : taggedMark.map Prod.fst = redactedMark := tags_first _ _

theorem valueOf_map (text : List A) : (valueOf char text).map char = valueOf id (text.map char) := by
  unfold valueOf
  rw [List.dropWhile_map, List.takeWhile_map]
  rfl

theorem redactMarkerValue_map (mark text : List A) :
    (redactMarkerValue char mark text marker).map char = redactMarkerValue id (mark.map char) (text.map char) marker := by
  have found := splitAfter_map char (loweredItem id) marker text
  have view : (fun item => loweredItem id (char item)) = loweredItem char := rfl
  rw [view] at found
  unfold redactMarkerValue
  rw [found]
  cases splitAfter (loweredItem char) marker text with
  | none => rfl
  | some parts =>
    dsimp only [Option.map_some]
    rw [← valueOf_map, List.isEmpty_map]
    split
    next => rfl
    next =>
      simp only [List.map_append, List.dropWhile_map, List.takeWhile_map]
      rfl

theorem redactMarkers_map (mark text : List A) :
    (redactMarkers char mark text).map char = redactMarkers id (mark.map char) (text.map char) := by
  unfold redactMarkers
  generalize redactionMarkers = markers
  induction markers generalizing text with
  | nil => rfl
  | cons marker markers ih => rw [List.foldl_cons, List.foldl_cons, ih, redactMarkerValue_map]

theorem redactMarkerValue_subset (left : item ∈ redactMarkerValue char mark text marker) :
    item ∈ text ∨ item ∈ mark := by
  rcases pass_cases char mark text marker with ⟨same, _⟩ | ⟨before, separators, value, rest, cut⟩
  · rw [same] at left
    exact .inl left
  · rw [cut.result] at left
    rw [cut.text]
    simp only [List.mem_append] at left ⊢
    tauto

theorem passes_subset {markers : List (List Char)} (left : item ∈ markers.foldl (redactMarkerValue char mark) text) :
    item ∈ text ∨ item ∈ mark := by
  induction markers generalizing text with
  | nil => exact .inl left
  | cons marker markers ih =>
    rcases ih left with passed | marked
    · exact redactMarkerValue_subset passed
    · exact .inr marked

end Tags

end AgentycHost
