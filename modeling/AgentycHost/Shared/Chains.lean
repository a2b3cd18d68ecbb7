import Mathlib.Data.List.Nodup
import Mathlib.Data.List.Perm.Subperm
import Mathlib.Logic.Relation

set_option autoImplicit false

/-!
# Chains of links

Every known key has at most one link, so a walk along the links meets its end, a
key that is not known, or a key that it has met before.
-/

namespace Shared

variable {K : Type} (link : K -> Option (Option K))

def Linked (one other : K) : Prop := link one = some (some other)

abbrev Leads : K -> K -> Prop := Relation.ReflTransGen (Linked link)

def Circular (start : K) : Prop := ∃ key, Leads link start key ∧ Relation.TransGen (Linked link) key key

def Dangling (start : K) : Prop := ∃ key, Leads link start key ∧ link key = none

inductive ClimbEnd (K : Type) where
  | top (passed : List K)
  | found
  | circular
  | dangling

variable [DecidableEq K] (stop : K -> Bool)

def climb : Nat -> List K -> Option K -> Option (ClimbEnd K)
  | _, passed, none => some (.top passed)
  | 0, _, some _ => none
  | fuel + 1, passed, some key =>
      if stop key then some .found
      else if key ∈ passed then some .circular
      else match link key with
        | none => some .dangling
        | some next => climb fuel (key :: passed) next

variable {link stop}

theorem climb_ends {known : List K} (all_known : ∀ key, link key ≠ none -> key ∈ known) {fuel : Nat} {passed : List K}
    (distinct : passed.Nodup) (inside : passed ⊆ known) (room : known.length < fuel + passed.length) (current : Option K) :
    ∃ result, climb link stop fuel passed current = some result := by
  induction fuel generalizing passed current with
  | zero =>
    have crowded := (List.subperm_of_subset distinct inside).length_le
    omega
  | succ fuel ih =>
    cases current with
    | none => exact ⟨_, rfl⟩
    | some key =>
      rw [climb]
      split
      next => exact ⟨_, rfl⟩
      next =>
        split
        next => exact ⟨_, rfl⟩
        next fresh =>
          cases linked : link key with
          | none => exact ⟨_, rfl⟩
          | some next =>
            have member := all_known key (by simp [linked])
            refine ih (List.nodup_cons.mpr ⟨fresh, distinct⟩) (List.cons_subset.mpr ⟨member, inside⟩) ?_ next
            rw [List.length_cons]
            omega

section Meaning

variable (link stop) {key : K} {result : ClimbEnd K} {fuel : Nat}

def OnWay (start : Option K) (key : K) : Prop := ∃ first, start = some first ∧ Leads link first key

def ClimbEnd.Means (start : Option K) : ClimbEnd K -> Prop
  | .top passed => (∀ key, key ∈ passed <-> OnWay link start key) ∧ ∀ key, OnWay link start key -> stop key = false
  | .found => ∃ key, OnWay link start key ∧ stop key = true
  | .circular =>
      (∃ key, OnWay link start key ∧ Relation.TransGen (Linked link) key key) ∧
        ∀ key, OnWay link start key -> stop key = false
  | .dangling =>
      (∃ key, OnWay link start key ∧ link key = none) ∧ ∀ key, OnWay link start key -> stop key = false

structure Walked (start : Option K) (passed : List K) (current : Option K) : Prop where
  starts : ∀ first, start = some first -> first ∈ passed ∨ current = some first
  passed_on : ∀ key, key ∈ passed -> OnWay link start key ∧ stop key = false
  current_on : ∀ key, current = some key -> OnWay link start key
  follows : ∀ key, key ∈ passed -> ∃ next, link key = some next ∧
    ∀ other, next = some other -> other ∈ passed ∨ current = some other
  arrives : ∀ key, key ∈ passed -> ∀ other, current = some other -> Relation.TransGen (Linked link) key other

variable {link stop} {start current : Option K} {passed : List K}

omit [DecidableEq K] in
theorem Walked.initial : Walked link stop start [] start where
  starts := fun first same => .inr same
  passed_on := by simp
  current_on := fun key same => ⟨key, same, .refl⟩
  follows := by simp
  arrives := by simp

omit [DecidableEq K] in
theorem Walked.step (walked : Walked link stop start passed current) {next : Option K} (here : current = some key)
    (passes : stop key = false) (linked : link key = some next) : Walked link stop start (key :: passed) next where
  starts := by
    intro first same
    rcases walked.starts first same with inside | same
    · exact .inl (List.mem_cons_of_mem _ inside)
    · exact .inl (Option.some.inj (same.symm.trans here) ▸ List.mem_cons_self)
  passed_on := by
    intro other inside
    rcases List.mem_cons.mp inside with rfl | inside
    · exact ⟨walked.current_on other here, passes⟩
    · exact walked.passed_on other inside
  current_on := by
    intro other same
    obtain ⟨first, starts, leads⟩ := walked.current_on key here
    exact ⟨first, starts, leads.tail (by rw [Linked, linked, same])⟩
  follows := by
    intro other inside
    rcases List.mem_cons.mp inside with rfl | inside
    · exact ⟨next, linked, fun after same => .inr same⟩
    · obtain ⟨following, linked', onward⟩ := walked.follows other inside
      refine ⟨following, linked', fun after same => .inl ?_⟩
      rcases onward after same with inside | same'
      · exact List.mem_cons_of_mem _ inside
      · obtain rfl : key = after := by simpa [here] using same'
        exact List.mem_cons_self
  arrives := by
    intro other inside after same
    have edge : Linked link key after := by rw [Linked, linked, same]
    rcases List.mem_cons.mp inside with rfl | inside
    · exact .single edge
    · exact (walked.arrives other inside key here).tail edge

omit [DecidableEq K] in
theorem Walked.complete (walked : Walked link stop start passed current)
    (closed : ∀ other, current = some other -> other ∈ passed ∨ link other = none) (way : OnWay link start key) :
    key ∈ passed ∨ current = some key := by
  obtain ⟨first, starts, leads⟩ := way
  induction leads with
  | refl => exact walked.starts first starts
  | @tail middle last _ edge ih =>
    have inside : middle ∈ passed := by
      rcases ih with inside | here
      · exact inside
      · rcases closed middle here with inside | missing
        · exact inside
        · rw [Linked, missing] at edge
          cases edge
    obtain ⟨next, linked, onward⟩ := walked.follows middle inside
    rw [Linked, linked] at edge
    exact onward last (by simpa using edge)

omit [DecidableEq K] in
theorem Walked.top (walked : Walked link stop start passed none) : (ClimbEnd.top passed).Means link stop start := by
  have whole : ∀ key, OnWay link start key -> key ∈ passed := by
    intro key way
    simpa using walked.complete (by simp) way
  exact ⟨fun key => ⟨fun inside => (walked.passed_on key inside).1, whole key⟩,
    fun key way => (walked.passed_on key (whole key way)).2⟩

theorem Walked.climb (walked : Walked link stop start passed current)
    (ran : climb link stop fuel passed current = some result) : result.Means link stop start := by
  induction fuel generalizing passed current with
  | zero =>
    cases current with
    | none =>
      obtain rfl : ClimbEnd.top passed = result := by simpa [Shared.climb] using ran
      exact walked.top
    | some key => cases ran
  | succ fuel ih =>
    cases current with
    | none =>
      obtain rfl : ClimbEnd.top passed = result := by simpa [Shared.climb] using ran
      exact walked.top
    | some key =>
      rw [Shared.climb] at ran
      split at ran
      next stops =>
        obtain rfl : ClimbEnd.found = result := by simpa using ran
        exact ⟨key, walked.current_on key rfl, stops⟩
      next passes =>
        rw [Bool.not_eq_true] at passes
        -- whatever is on the way is passed or here, and neither stops
        have free : (key ∈ passed ∨ link key = none) -> ∀ other, OnWay link start other -> stop other = false := by
          intro closed other way
          rcases walked.complete (by simpa using closed) way with inside | same
          · exact (walked.passed_on other inside).2
          · obtain rfl : key = other := by simpa using same
            exact passes
        split at ran
        next inside =>
          obtain rfl : ClimbEnd.circular = result := by simpa using ran
          exact ⟨⟨key, walked.current_on key rfl, walked.arrives key inside key rfl⟩, free (.inl inside)⟩
        next =>
          cases linked : link key with
          | none =>
            rw [linked] at ran
            obtain rfl : ClimbEnd.dangling = result := by simpa using ran
            exact ⟨⟨key, walked.current_on key rfl, linked⟩, free (.inr linked)⟩
          | some next =>
            rw [linked] at ran
            exact ih (walked.step rfl passes linked) ran

theorem climb_means (ran : climb link stop fuel [] start = some result) :
    result.Means link stop start := Walked.initial.climb ran

end Meaning

end Shared
