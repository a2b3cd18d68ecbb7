import Mathlib.Data.List.Basic

set_option autoImplicit false

/-!
# Spans of a numbered sequence

A window over the last part of a sequence numbered from one. Every item of the
window stands for a span of numbers, and the spans lie end to end.
-/

namespace Shared

/-- An item that stands for the numbers from `first` to `last`. -/
structure Span (A : Type) where
  first : Nat
  last : Nat
  item : A

variable {A : Type}

/-- The spans cover the numbers after `low` up to `high`, without a gap or an overlap. -/
def Tiles : Nat -> List (Span A) -> Nat -> Prop
  | low, [], high => low = high
  | low, span :: rest, high => span.first = low + 1 ∧ low < span.last ∧ Tiles span.last rest high

namespace Tiles

variable {low high : Nat} {spans : List (Span A)} {span : Span A} {item : A}

theorem length_le (tiles : Tiles low spans high) : low + spans.length ≤ high := by
  induction spans generalizing low with
  | nil =>
    obtain rfl : low = high := tiles
    exact Nat.le_refl low
  | cons span rest ih =>
    obtain ⟨_, longer, others⟩ := tiles
    have bound := ih others
    rw [List.length_cons]
    omega

theorem bounds (tiles : Tiles low spans high) (inside : span ∈ spans) : low < span.last ∧ span.last ≤ high := by
  induction spans generalizing low with
  | nil => cases inside
  | cons head rest ih =>
    obtain ⟨_, longer, others⟩ := tiles
    obtain rfl | inside := List.mem_cons.mp inside
    · exact ⟨longer, Nat.le_trans (Nat.le_add_right _ _) others.length_le⟩
    · have later := ih others inside
      exact ⟨Nat.lt_trans longer later.1, later.2⟩

theorem pairwise (tiles : Tiles low spans high) : spans.Pairwise fun one other => one.last < other.last := by
  induction spans generalizing low with
  | nil => exact .nil
  | cons head rest ih =>
    obtain ⟨_, _, others⟩ := tiles
    exact List.pairwise_cons.mpr ⟨fun other inside => (others.bounds inside).1, ih others⟩

theorem push (tiles : Tiles low spans high) (item : A) :
    Tiles low (spans ++ [⟨high + 1, high + 1, item⟩]) (high + 1) := by
  induction spans generalizing low with
  | nil =>
    obtain rfl : low = high := tiles
    exact ⟨rfl, Nat.lt_succ_self low, rfl⟩
  | cons span rest ih =>
    obtain ⟨start, longer, others⟩ := tiles
    exact ⟨start, longer, ih others⟩

theorem extend (tiles : Tiles low (spans ++ [span]) high) (item : A) :
    Tiles low (spans ++ [⟨span.first, high + 1, item⟩]) (high + 1) := by
  induction spans generalizing low with
  | nil =>
    obtain ⟨start, longer, last⟩ := tiles
    obtain rfl : span.last = high := last
    exact ⟨start, Nat.lt_succ_of_lt longer, rfl⟩
  | cons head rest ih =>
    obtain ⟨start, longer, others⟩ := tiles
    exact ⟨start, longer, ih others⟩

theorem ends (tiles : Tiles low (spans ++ [span]) high) : span.last = high := by
  induction spans generalizing low with
  | nil => exact tiles.2.2
  | cons head rest ih => exact ih tiles.2.2

theorem drop (tiles : Tiles low spans high) (count : Nat) :
    ∃ later, low ≤ later ∧ (count = 0 -> later = low) ∧ Tiles later (spans.drop count) high ∧
      ∀ span, span ∈ spans -> later < span.last -> span ∈ spans.drop count := by
  induction count generalizing low spans with
  | zero => exact ⟨low, Nat.le_refl low, fun _ => rfl, tiles, fun _ member _ => member⟩
  | succ count ih =>
    cases spans with
    | nil => exact ⟨low, Nat.le_refl low, fun _ => rfl, tiles, fun _ member _ => member⟩
    | cons head rest =>
      obtain ⟨_, longer, others⟩ := tiles
      obtain ⟨later, bound, _, kept, inside⟩ := ih others
      refine ⟨later, Nat.le_trans (Nat.le_of_lt longer) bound, fun none => absurd none (Nat.succ_ne_zero count), kept, ?_⟩
      intro span member above
      obtain rfl | member := List.mem_cons.mp member
      · exact absurd bound (Nat.not_le_of_lt above)
      · exact inside span member above

end Tiles

/-- The spans rise from above `low` to `high`; there may be numbers between them that no span covers. -/
def Rising : Nat -> List (Span A) -> Nat -> Prop
  | low, [], high => low ≤ high
  | low, span :: rest, high => low < span.first ∧ span.first ≤ span.last ∧ Rising span.last rest high

namespace Rising

variable {low low' high high' number : Nat} {spans : List (Span A)} {span : Span A}

theorem weaken (rising : Rising low spans high) (more : high ≤ high') : Rising low spans high' := by
  induction spans generalizing low with
  | nil => exact Nat.le_trans rising more
  | cons head rest ih =>
    obtain ⟨start, longer, others⟩ := rising
    exact ⟨start, longer, ih others⟩

theorem below (rising : Rising low spans high) (less : low' ≤ low) : Rising low' spans high := by
  cases spans with
  | nil => exact Nat.le_trans less rising
  | cons head rest =>
    obtain ⟨start, others⟩ := rising
    exact ⟨Nat.lt_of_le_of_lt less start, others⟩

theorem le (rising : Rising low spans high) : low ≤ high := by
  induction spans generalizing low with
  | nil => exact rising
  | cons head rest ih =>
    obtain ⟨start, longer, others⟩ := rising
    have above := ih others
    omega

theorem push (rising : Rising low spans high) (above : high < number) (item : A) :
    Rising low (spans ++ [⟨number, number, item⟩]) number := by
  induction spans generalizing low with
  | nil => exact ⟨Nat.lt_of_le_of_lt rising above, Nat.le_refl _, Nat.le_refl _⟩
  | cons head rest ih =>
    obtain ⟨start, longer, others⟩ := rising
    exact ⟨start, longer, ih others⟩

theorem extend (rising : Rising low (spans ++ [span]) high) (above : high ≤ number) (item : A) :
    Rising low (spans ++ [⟨span.first, number, item⟩]) number := by
  induction spans generalizing low with
  | nil =>
    obtain ⟨start, longer, last⟩ := rising
    have ends : span.last ≤ high := last
    exact ⟨start, Nat.le_trans longer (Nat.le_trans ends above), Nat.le_refl _⟩
  | cons head rest ih =>
    obtain ⟨start, longer, others⟩ := rising
    exact ⟨start, longer, ih others⟩

theorem drop (rising : Rising low spans high) (count : Nat) : Rising low (spans.drop count) high := by
  induction count generalizing low spans with
  | zero => exact rising
  | succ count ih =>
    cases spans with
    | nil => exact rising
    | cons head rest =>
      obtain ⟨start, longer, others⟩ := rising
      apply (ih others).below
      omega

theorem bounds (rising : Rising low spans high) (member : span ∈ spans) :
    low < span.first ∧ span.first ≤ span.last ∧ span.last ≤ high := by
  induction spans generalizing low with
  | nil => cases member
  | cons head rest ih =>
    obtain ⟨start, longer, others⟩ := rising
    obtain rfl | later := List.mem_cons.mp member
    · exact ⟨start, longer, others.le⟩
    · have inside := ih others later
      omega

theorem apart (rising : Rising low spans high) : spans.Pairwise fun one other => one.last < other.first := by
  induction spans generalizing low with
  | nil => exact List.Pairwise.nil
  | cons head rest ih =>
    obtain ⟨_, _, others⟩ := rising
    exact List.pairwise_cons.mpr ⟨fun span inside => (others.bounds inside).1, ih others⟩

end Rising

end Shared
