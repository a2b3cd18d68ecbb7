import Mathlib.Data.List.Basic
import Mathlib.Order.Compare

set_option autoImplicit false

/-!
# Maps over compared keys

Entries in the order of a comparison of their keys. Keys that compare as equal
share a slot: a new value takes the place of the old one, under the key that was
there before.
-/

namespace Shared

section Comparisons

variable {A B : Type} {cmp : B -> B -> Ordering} {view : A -> B} {one other : A}

def comparedBy (view : A -> B) (cmp : B -> B -> Ordering) (one other : A) : Ordering := cmp (view one) (view other)

instance [Std.TransCmp cmp] : Std.TransCmp (comparedBy view cmp) where
  eq_swap := by
    intro one other
    exact @Std.OrientedCmp.eq_swap _ cmp _ (view one) (view other)
  isLE_trans := by
    intro one other third
    exact @Std.TransCmp.isLE_trans _ cmp _ (view one) (view other) (view third)

theorem comparedBy_eq [Std.LawfulEqCmp cmp] : comparedBy view cmp one other = .eq <-> view one = view other :=
  @Std.LawfulEqCmp.compare_eq_iff_eq _ cmp _ (view one) (view other)

end Comparisons

variable {K V : Type}

structure SlotMap (K V : Type) (cmp : K -> K -> Ordering) where
  entries : List (K × V)
  sorted : entries.Pairwise fun first second => cmp first.1 second.1 = .lt

namespace SlotMap

section Entries

variable (cmp : K -> K -> Ordering)

def insertEntry (key : K) (value : V) : List (K × V) -> List (K × V)
  | [] => [(key, value)]
  | entry :: rest =>
      match cmp key entry.1 with
      | .lt => (key, value) :: entry :: rest
      | .eq => (entry.1, value) :: rest
      | .gt => entry :: insertEntry key value rest

variable {cmp} {key : K} {value : V} {entries : List (K × V)}

theorem mem_insertEntry {entry : K × V} (inside : entry ∈ insertEntry cmp key value entries) :
    entry.1 = key ∨ entry.1 ∈ entries.map Prod.fst := by
  induction entries with
  | nil =>
    left
    rw [List.mem_singleton.mp inside]
  | cons first rest ih =>
    unfold insertEntry at inside
    split at inside
    next =>
      rcases List.mem_cons.mp inside with rfl | inside
      · exact .inl rfl
      · exact .inr (List.mem_map_of_mem inside)
    next =>
      rcases List.mem_cons.mp inside with rfl | inside
      · exact .inr List.mem_cons_self
      · exact .inr (List.mem_cons_of_mem _ (List.mem_map_of_mem inside))
    next =>
      rcases List.mem_cons.mp inside with rfl | inside
      · exact .inr List.mem_cons_self
      · exact (ih inside).imp id (List.mem_cons_of_mem _)

theorem insertEntry_sorted [Std.TransCmp cmp] (sorted : entries.Pairwise fun first second => cmp first.1 second.1 = .lt) :
    (insertEntry cmp key value entries).Pairwise fun first second => cmp first.1 second.1 = .lt := by
  induction entries with
  | nil => exact List.pairwise_singleton _ _
  | cons first rest ih =>
    obtain ⟨least, sorted'⟩ := List.pairwise_cons.mp sorted
    unfold insertEntry
    split
    next less =>
      refine List.pairwise_cons.mpr ⟨?_, sorted⟩
      intro other inside
      rcases List.mem_cons.mp inside with rfl | inside
      · exact less
      · exact Std.TransCmp.lt_trans less (least other inside)
    next => exact List.pairwise_cons.mpr ⟨least, sorted'⟩
    next greater =>
      refine List.pairwise_cons.mpr ⟨?_, ih sorted'⟩
      intro other inside
      rcases mem_insertEntry inside with same | inside
      · rw [same]
        exact Std.OrientedCmp.lt_of_gt greater
      · obtain ⟨entry, inside, same⟩ := List.mem_map.mp inside
        rw [← same]
        exact least entry inside

end Entries

variable {cmp : K -> K -> Ordering}

def empty : SlotMap K V cmp where
  entries := []
  sorted := .nil

def get? (map : SlotMap K V cmp) (key : K) : Option V :=
  (map.entries.find? fun entry => cmp key entry.1 == .eq).map Prod.snd

def contains (map : SlotMap K V cmp) (key : K) : Bool := (map.get? key).isSome

def keys (map : SlotMap K V cmp) : List K := map.entries.map Prod.fst

def size (map : SlotMap K V cmp) : Nat := map.entries.length

def erase (map : SlotMap K V cmp) (key : K) : SlotMap K V cmp where
  entries := map.entries.filter fun entry => cmp key entry.1 != .eq
  sorted := map.sorted.filter _

section Lookup

variable [Std.TransCmp cmp]

def insert (map : SlotMap K V cmp) (key : K) (value : V) : SlotMap K V cmp where
  entries := insertEntry cmp key value map.entries
  sorted := insertEntry_sorted map.sorted

variable (map : SlotMap K V cmp) (key other : K) (value : V)

omit [Std.TransCmp cmp] in
@[simp] theorem get?_empty : (empty : SlotMap K V cmp).get? key = none := rfl

theorem get?_insert : (map.insert key value).get? other = if cmp other key = .eq then some value else map.get? other := by
  simp only [insert, get?]
  generalize map.entries = entries
  induction entries with
  | nil => by_cases same : cmp other key = .eq <;> simp [insertEntry, same]
  | cons first rest ih =>
    unfold insertEntry
    split
    next => by_cases same : cmp other key = .eq <;> simp [same]
    next same =>
      -- the slot of the entry is that of the new key
      have slots : cmp other key = cmp other first.1 := Std.TransCmp.congr_right same
      by_cases hit : cmp other first.1 = .eq <;> simp [slots, hit]
    next greater =>
      by_cases hit : cmp other first.1 = .eq
      next =>
        have apart : cmp other key ≠ .eq := by
          rw [Std.TransCmp.congr_left hit, Std.OrientedCmp.lt_of_gt greater]
          decide
        simp [hit, apart]
      next => simpa [hit] using ih

theorem get?_erase : (map.erase key).get? other = if cmp other key = .eq then none else map.get? other := by
  simp only [erase, get?]
  generalize map.entries = entries
  induction entries with
  | nil => simp
  | cons first rest ih =>
    by_cases gone : cmp key first.1 = .eq
    next =>
      have slots : cmp other key = cmp other first.1 := Std.TransCmp.congr_right gone
      by_cases hit : cmp other first.1 = .eq
      next => simpa [gone, slots, hit] using ih
      next => simpa [gone, slots, hit] using ih
    next =>
      by_cases hit : cmp other first.1 = .eq
      next =>
        have apart : cmp other key ≠ .eq := by
          intro same
          exact gone (by rw [← Std.TransCmp.congr_left same, hit])
        simp [gone, hit, apart]
      next => simpa [gone, hit] using ih

omit [Std.TransCmp cmp] in
theorem exists_key (found : map.contains key = true) : ∃ stored, stored ∈ map.keys ∧ cmp key stored = .eq := by
  obtain ⟨value, hit⟩ := Option.isSome_iff_exists.mp found
  obtain ⟨entry, hit, _⟩ := Option.map_eq_some_iff.mp hit
  exact ⟨entry.1, List.mem_map_of_mem (List.mem_of_find?_eq_some hit), by simpa using List.find?_some hit⟩

theorem contains_insert : (map.insert key value).contains other = (decide (cmp other key = .eq) || map.contains other) := by
  rw [contains, get?_insert]
  by_cases same : cmp other key = .eq <;> simp [same, contains]

variable {map key other} in
theorem get?_congr (same : cmp key other = .eq) : map.get? key = map.get? other := by
  have slots (entry : K × V) : (cmp key entry.1 == .eq) = (cmp other entry.1 == .eq) := by
    rw [Std.TransCmp.congr_left same]
  simp only [get?, slots]

end Lookup

end SlotMap

end Shared
