import Mathlib.Data.List.Basic

set_option autoImplicit false

/-!
# Patterns of a backtracking engine

An engine tries the ways in which a pattern takes a start of the text, longest
repetition first. The order of the ways decides which match is found, and what
they are is what the pattern accepts.
-/

namespace Shared

inductive Pattern (C : Type) where
  | literal (symbols : List C)
  | one (allowed : C -> Bool)
  -- as many as there are, up to a bound
  | many (allowed : C -> Bool) (most : Option Nat)
  | followedBy (first second : Pattern C)

variable {C : Type} {text taken left : List C}

def longestRun (allowed : C -> Bool) (most : Option Nat) (text : List C) : Nat :=
  min (text.takeWhile allowed).length (most.getD text.length)

namespace Pattern

variable {allowed : C -> Bool} {most : Option Nat}

def Accepts : Pattern C -> List C -> Prop
  | .literal symbols, text => text = symbols
  | .one allowed, text => ∃ symbol, text = [symbol] ∧ allowed symbol = true
  | .many allowed most, text => text.all allowed = true ∧ ∀ bound, most = some bound -> text.length ≤ bound
  | .followedBy first second, text => ∃ early late, text = early ++ late ∧ first.Accepts early ∧ second.Accepts late

theorem longestRun_le (all : taken.all allowed = true)
    (bounded : ∀ bound, most = some bound -> taken.length ≤ bound) :
    taken.length ≤ longestRun allowed most (taken ++ left) := by
  have run : (taken ++ left).takeWhile allowed = taken ++ left.takeWhile allowed :=
    List.takeWhile_append_of_pos (by simpa using all)
  unfold longestRun
  rw [run, List.length_append]
  cases most with
  | none =>
    rw [Option.getD_none, List.length_append]
    omega
  | some bound =>
    have short := bounded bound rfl
    rw [Option.getD_some]
    omega

theorem take_run {count : Nat} (short : count ≤ longestRun allowed most text) :
    (many allowed most).Accepts (text.take count) := by
  have within : count ≤ (text.takeWhile allowed).length := Nat.le_trans short (Nat.min_le_left _ _)
  have bounded : count ≤ most.getD text.length := Nat.le_trans short (Nat.min_le_right _ _)
  constructor
  · -- the symbols taken are among the run at the start of the text
    have split := List.takeWhile_append_dropWhile (p := allowed) (l := text)
    rw [← split, List.take_append_of_le_length within]
    have run : (text.takeWhile allowed).all allowed = true := List.all_takeWhile
    rw [List.all_eq_true] at run ⊢
    exact fun symbol inside => run symbol (List.mem_of_mem_take inside)
  · rintro bound rfl
    exact Nat.le_trans (List.length_take_le _ _) bounded

variable [DecidableEq C] {pattern : Pattern C}

def ways : Pattern C -> List C -> List (List C × List C)
  | .literal symbols, text => if symbols.isPrefixOf text then [(symbols, text.drop symbols.length)] else []
  | .one _, [] => []
  | .one allowed, first :: rest => if allowed first then [([first], rest)] else []
  | .many allowed most, text =>
      (List.range (longestRun allowed most text + 1)).reverse.map fun count => (text.take count, text.drop count)
  | .followedBy first second, text =>
      (first.ways text).flatMap fun way => (second.ways way.2).map fun more => (way.1 ++ more.1, more.2)

theorem mem_ways : (taken, left) ∈ pattern.ways text <-> text = taken ++ left ∧ pattern.Accepts taken := by
  induction pattern generalizing text taken left with
  | literal symbols =>
    unfold ways
    split
    next starts =>
      obtain ⟨rest, rfl⟩ := List.isPrefixOf_iff_prefix.mp starts
      simp only [List.mem_singleton, Prod.mk.injEq, List.drop_left, Accepts]
      constructor
      · rintro ⟨rfl, rfl⟩
        exact ⟨rfl, rfl⟩
      · rintro ⟨same, rfl⟩
        exact ⟨rfl, (List.append_cancel_left same).symm⟩
    next other =>
      simp only [List.not_mem_nil, false_iff, Accepts, not_and]
      rintro rfl rfl
      exact other (List.isPrefixOf_iff_prefix.mpr (List.prefix_append _ _))
  | one allowed =>
    cases text with
    | nil =>
      simp only [ways, List.not_mem_nil, false_iff, Accepts, not_and]
      rintro split ⟨symbol, rfl, _⟩
      cases split
    | cons first rest =>
      unfold ways
      split
      next fits =>
        simp only [List.mem_singleton, Prod.mk.injEq, Accepts]
        constructor
        · rintro ⟨rfl, rfl⟩
          exact ⟨rfl, first, rfl, fits⟩
        · rintro ⟨split, symbol, rfl, _⟩
          cases split
          exact ⟨rfl, rfl⟩
      next refused =>
        simp only [List.not_mem_nil, false_iff, Accepts, not_and]
        rintro split ⟨symbol, rfl, fits⟩
        cases split
        exact refused fits
  | many allowed most =>
    simp only [ways, List.mem_map, List.mem_reverse, List.mem_range, Prod.mk.injEq]
    constructor
    · rintro ⟨count, short, rfl, rfl⟩
      exact ⟨(List.take_append_drop _ _).symm, take_run (Nat.le_of_lt_succ short)⟩
    · rintro ⟨rfl, all, bounded⟩
      exact ⟨taken.length, Nat.lt_succ_of_le (longestRun_le all bounded), by simp, by simp⟩
  | followedBy first second early late =>
    simp only [ways, List.mem_flatMap, List.mem_map, Prod.mk.injEq, Prod.exists]
    constructor
    · rintro ⟨one, rest, before, other, final, after, rfl, rfl⟩
      obtain ⟨rfl, accepts⟩ := early.mp before
      obtain ⟨rfl, also⟩ := late.mp after
      exact ⟨(List.append_assoc _ _ _).symm, one, other, rfl, accepts, also⟩
    · rintro ⟨rfl, one, other, rfl, accepts, also⟩
      exact ⟨one, other ++ left, early.mpr ⟨List.append_assoc _ _ _, accepts⟩, other, left, late.mpr ⟨rfl, also⟩, rfl, rfl⟩

def test (pattern : Pattern C) (text : List C) : Bool := (pattern.ways text).any fun way => way.2.isEmpty

theorem test_iff : pattern.test text = true <-> pattern.Accepts text := by
  simp only [test, List.any_eq_true, Prod.exists, List.isEmpty_iff]
  constructor
  · rintro ⟨taken, _, found, rfl⟩
    obtain ⟨rfl, accepts⟩ := mem_ways.mp found
    simpa using accepts
  · intro accepts
    exact ⟨text, [], mem_ways.mpr ⟨by simp, accepts⟩, rfl⟩

section Groups

variable {lead first between second : Pattern C} {two one : List C}

def groups (lead first between second : Pattern C) (text : List C) : List (List C × List C) :=
  (lead.ways text).flatMap fun start => (first.ways start.2).flatMap fun one =>
    (between.ways one.2).flatMap fun middle => (second.ways middle.2).filterMap fun two =>
      if two.2.isEmpty then some (one.1, two.1) else none

theorem mem_groups : (one, two) ∈ groups lead first between second text <->
    ∃ start middle, text = start ++ (one ++ (middle ++ two)) ∧ lead.Accepts start ∧ first.Accepts one ∧
      between.Accepts middle ∧ second.Accepts two := by
  simp only [groups, List.mem_flatMap, List.mem_filterMap, Prod.exists, Option.ite_none_right_eq_some,
    Option.some.injEq, Prod.mk.injEq, List.isEmpty_iff, mem_ways]
  constructor
  · rintro ⟨start, _, ⟨rfl, leads⟩, _, _, ⟨rfl, opens⟩, middle, _, ⟨rfl, joins⟩, _, _, ⟨rfl, ends⟩, rfl, rfl, rfl⟩
    exact ⟨start, middle, by simp, leads, opens, joins, ends⟩
  · rintro ⟨start, middle, rfl, leads, opens, joins, ends⟩
    exact ⟨start, _, ⟨rfl, leads⟩, one, _, ⟨rfl, opens⟩, middle, _, ⟨rfl, joins⟩, two, [], ⟨by simp, ends⟩, rfl, rfl, rfl⟩

def exec (lead first between second : Pattern C) (text : List C) : Option (List C × List C) :=
  (groups lead first between second text).head?

theorem exec_unique (found : (one, two) ∈ groups lead first between second text)
    (unique : ∀ other, other ∈ groups lead first between second text -> other = (one, two)) :
    exec lead first between second text = some (one, two) := by
  unfold exec
  cases matched : groups lead first between second text with
  | nil =>
    rw [matched] at found
    cases found
  | cons way rest =>
    rw [List.head?_cons, unique way (by simp [matched])]

end Groups

end Pattern

end Shared
