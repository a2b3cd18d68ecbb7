import Mathlib.Algebra.BigOperators.Group.List.Basic
import Mathlib.Algebra.Order.Ring.Int
import Mathlib.Data.List.Nodup
import Mathlib.Data.List.Basic
import Mathlib.Data.List.Perm.Subperm

set_option autoImplicit false

/-!
# Finite tables

A table is an association list in which every key occurs once. Updates keep the
place of a key, so a traversal visits the keys in the order of their insertion.
-/

namespace Shared

structure Table (K V : Type) where
  entries : List (K × V)
  nodup : (entries.map Prod.fst).Nodup

namespace Table

variable {K V W : Type}

def empty : Table K V := { entries := [], nodup := List.nodup_nil }

instance : EmptyCollection (Table K V) := ⟨empty⟩

instance : Inhabited (Table K V) := ⟨empty⟩

def keys (table : Table K V) : List K := table.entries.map Prod.fst

def values (table : Table K V) : List V := table.entries.map Prod.snd

def size (table : Table K V) : Nat := table.entries.length

def all (table : Table K V) (test : K -> V -> Bool) : Bool :=
  table.entries.all fun entry => test entry.1 entry.2

def any (table : Table K V) (test : K -> V -> Bool) : Bool :=
  table.entries.any fun entry => test entry.1 entry.2

def count (table : Table K V) (test : K -> V -> Bool) : Nat :=
  table.entries.countP fun entry => test entry.1 entry.2

def total (table : Table K V) (weigh : K -> V -> Nat) : Nat :=
  (table.entries.map fun entry => weigh entry.1 entry.2).sum

def mapValues (table : Table K V) (change : K -> V -> W) : Table K W where
  entries := table.entries.map fun entry => (entry.1, change entry.1 entry.2)
  nodup := by simpa [List.map_map, Function.comp_def] using table.nodup

def filter (table : Table K V) (keep : K -> V -> Bool) : Table K V where
  entries := table.entries.filter fun entry => keep entry.1 entry.2
  nodup := (List.filter_sublist.map Prod.fst).nodup table.nodup

section Lookup

variable [DecidableEq K]

def find : List (K × V) -> K -> Option V
  | [], _ => none
  | entry :: rest, key => if entry.1 = key then some entry.2 else find rest key

def get? (table : Table K V) (key : K) : Option V := find table.entries key

def contains (table : Table K V) (key : K) : Bool := (table.get? key).isSome

def modify (table : Table K V) (key : K) (change : V -> V) : Table K V :=
  table.mapValues fun other value => if other = key then change value else value

def erase (table : Table K V) (key : K) : Table K V :=
  table.filter fun other _ => !decide (other = key)

theorem find_eq_none (entries : List (K × V)) (key : K) :
    find entries key = none <-> key ∉ entries.map Prod.fst := by
  induction entries with
  | nil => simp [find]
  | cons entry rest ih =>
    by_cases same : entry.1 = key
    · simp [find, same]
    · simp [find, same, ih, Ne.symm same]

theorem mem_of_find (entries : List (K × V)) (key : K) (value : V)
    (found : find entries key = some value) : (key, value) ∈ entries := by
  induction entries with
  | nil => simp [find] at found
  | cons entry rest ih =>
    by_cases same : entry.1 = key
    · simp only [find, same, if_true, Option.some.injEq] at found
      simp [← same, ← found]
    · simp only [find, same, if_false] at found
      exact List.mem_cons_of_mem _ (ih found)

theorem find_of_mem (entries : List (K × V)) (nodup : (entries.map Prod.fst).Nodup)
    (key : K) (value : V) (member : (key, value) ∈ entries) : find entries key = some value := by
  induction entries with
  | nil => simp at member
  | cons entry rest ih =>
    simp only [List.map_cons, List.nodup_cons] at nodup
    rcases List.mem_cons.mp member with head | tail
    · simp [find, ← head]
    · have fresh : entry.1 ≠ key := by
        intro same
        exact nodup.1 (same ▸ List.mem_map_of_mem (f := Prod.fst) tail)
      simpa [find, fresh] using ih nodup.2 tail

def insert (table : Table K V) (key : K) (value : V) : Table K V :=
  if absent : table.get? key = none then
    { entries := table.entries ++ [(key, value)]
      nodup := by
        have fresh := (find_eq_none table.entries key).mp absent
        simpa [List.map_append, List.nodup_append] using
          ⟨table.nodup, fun other _ found same => fresh
            (List.mem_map.mpr ⟨(other, _), found, same⟩)⟩ }
  else table.modify key fun _ => value

@[simp]
theorem get?_empty (key : K) : (∅ : Table K V).get? key = none := rfl

theorem mem_entries (table : Table K V) (key : K) (value : V) :
    (key, value) ∈ table.entries <-> table.get? key = some value :=
  ⟨find_of_mem table.entries table.nodup key value, mem_of_find table.entries key value⟩

theorem mem_keys (table : Table K V) (key : K) : key ∈ table.keys <-> table.contains key = true := by
  have absent := find_eq_none table.entries key
  simp only [contains, get?, Option.isSome_iff_ne_none, ne_eq, absent, not_not]
  rfl

theorem contains_iff (table : Table K V) (key : K) :
    table.contains key = true <-> ∃ value, table.get? key = some value := by
  simp [contains, Option.isSome_iff_exists]

theorem mem_values (table : Table K V) (value : V) :
    value ∈ table.values <-> ∃ key, table.get? key = some value := by
  simp [values, mem_entries]

theorem all_eq_true (table : Table K V) (test : K -> V -> Bool) :
    table.all test = true <-> ∀ key value, table.get? key = some value -> test key value = true := by
  simp [all, mem_entries]

theorem any_eq_true (table : Table K V) (test : K -> V -> Bool) :
    table.any test = true <-> ∃ key value, table.get? key = some value ∧ test key value = true := by
  simp [any, mem_entries]

theorem any_eq_false (table : Table K V) (test : K -> V -> Bool) :
    table.any test = false <-> ∀ key value, table.get? key = some value -> test key value = false := by
  simp [any, mem_entries]

@[simp]
theorem get?_mapValues (table : Table K V) (change : K -> V -> W) (key : K) :
    (table.mapValues change).get? key = (table.get? key).map (change key) := by
  obtain ⟨entries, nodup⟩ := table
  simp only [get?, mapValues]
  clear nodup
  induction entries with
  | nil => rfl
  | cons entry rest ih =>
    by_cases same : entry.1 = key
    · simp [find, ← same]
    · simp [find, same, ih]

@[simp]
theorem get?_filter (table : Table K V) (keep : K -> V -> Bool) (key : K) :
    (table.filter keep).get? key = (table.get? key).filter (keep key) := by
  cases found : table.get? key with
  | none =>
    rw [Option.filter_none]
    by_contra present
    obtain ⟨value, lookup⟩ := Option.ne_none_iff_exists'.mp present
    have member := (mem_entries _ _ _).mpr lookup
    rw [(mem_entries table key value).mp (List.mem_filter.mp member).1] at found
    simp at found
  | some value =>
    have member := (mem_entries table key value).mpr found
    by_cases kept : keep key value = true
    · rw [Option.filter_some_pos kept]
      exact (mem_entries _ _ _).mp (List.mem_filter.mpr ⟨member, kept⟩)
    · rw [Option.filter_some_neg (by simpa using kept)]
      by_contra present
      obtain ⟨other, lookup⟩ := Option.ne_none_iff_exists'.mp present
      obtain ⟨inside, keptOther⟩ := List.mem_filter.mp ((mem_entries _ _ _).mpr lookup)
      rw [(mem_entries table key other).mp inside, Option.some.injEq] at found
      exact kept (found ▸ keptOther)

theorem get?_modify (table : Table K V) (key other : K) (change : V -> V) :
    (table.modify key change).get? other =
      if other = key then (table.get? key).map change else table.get? other := by
  rw [modify, get?_mapValues]
  by_cases same : other = key <;> simp [same]

@[simp]
theorem get?_modify_self (table : Table K V) (key : K) (change : V -> V) :
    (table.modify key change).get? key = (table.get? key).map change := by
  simp [get?_modify]

theorem get?_modify_ne (table : Table K V) (key other : K) (change : V -> V) (distinct : other ≠ key) :
    (table.modify key change).get? other = table.get? other := by
  simp [get?_modify, distinct]

theorem get?_erase (table : Table K V) (key other : K) :
    (table.erase key).get? other = if other = key then none else table.get? other := by
  rw [erase, get?_filter]
  by_cases same : other = key
  · cases table.get? other <;> simp [same]
  · cases table.get? other <;> simp [same]

theorem find_append (entries rest : List (K × V)) (key : K) :
    find (entries ++ rest) key = (find entries key).or (find rest key) := by
  induction entries with
  | nil => simp [find]
  | cons entry tail ih =>
    by_cases same : entry.1 = key <;> simp [find, same, ih]

theorem get?_insert (table : Table K V) (key other : K) (value : V) :
    (table.insert key value).get? other = if other = key then some value else table.get? other := by
  unfold insert
  split
  next absent =>
    change find (table.entries ++ [(key, value)]) other = _
    rw [find_append]
    by_cases same : other = key
    · subst same
      change (table.get? other).or _ = _
      simp [absent, find]
    · simp [find, same, Ne.symm same, get?]
  next present =>
    obtain ⟨old, found⟩ := Option.ne_none_iff_exists'.mp present
    rw [get?_modify]
    by_cases same : other = key <;> simp [same, found]

@[simp]
theorem get?_insert_self (table : Table K V) (key : K) (value : V) :
    (table.insert key value).get? key = some value := by
  simp [get?_insert]

theorem get?_insert_ne (table : Table K V) (key other : K) (value : V) (distinct : other ≠ key) :
    (table.insert key value).get? other = table.get? other := by
  simp [get?_insert, distinct]

theorem insert_of_found (table : Table K V) (key : K) (value : V) {old : V} (found : table.get? key = some old) :
    table.insert key value = table.modify key fun _ => value := by
  unfold insert
  rw [dif_neg (by simp [found])]

section Counting

variable {test : K -> V -> Bool} {one other : Table K V}

def counted (table : Table K V) (test : K -> V -> Bool) (key : K) : Nat := ((table.get? key).any (test key)).toNat

omit [DecidableEq K] in
@[simp]
theorem count_empty : (∅ : Table K V).count test = 0 := rfl

omit [DecidableEq K] in
theorem entries_nodup (table : Table K V) : table.entries.Nodup := List.Nodup.of_map Prod.fst table.nodup

theorem count_congr
    (same : ∀ key value, test key value = true ->
      (one.get? key = some value <-> other.get? key = some value)) : one.count test = other.count test := by
  unfold count
  rw [List.countP_eq_length_filter, List.countP_eq_length_filter]
  refine ((List.perm_ext_iff_of_nodup (one.entries_nodup.filter _) (other.entries_nodup.filter _)).mpr ?_).length_eq
  rintro ⟨key, value⟩
  simp only [List.mem_filter, mem_entries]
  constructor
  · rintro ⟨found, counts⟩
    exact ⟨(same key value counts).mp found, counts⟩
  · rintro ⟨found, counts⟩
    exact ⟨(same key value counts).mpr found, counts⟩

theorem count_erase (table : Table K V) (test : K -> V -> Bool) (key : K) :
    table.count test = (table.erase key).count test + table.counted test key := by
  obtain ⟨entries, nodup⟩ := table
  simp only [count, erase, filter, counted, get?]
  induction entries with
  | nil => rfl
  | cons entry rest ih =>
    simp only [List.map_cons, List.nodup_cons] at nodup
    have shorter := ih nodup.2
    rw [List.countP_cons, List.filter_cons]
    simp only [find]
    by_cases same : entry.1 = key
    · -- the key is here, so it is nowhere else
      have absent : find rest key = none := (find_eq_none rest key).mpr (same ▸ nodup.1)
      simp only [absent, Option.any_none, Bool.toNat_false, Nat.add_zero] at shorter
      cases counts : test key entry.2 <;> simp [same, shorter, counts]
    · simp [same, shorter, Nat.add_right_comm, List.countP_cons]

theorem count_insert (table : Table K V) (test : K -> V -> Bool) (key : K) (value : V) :
    (table.insert key value).count test + table.counted test key =
      table.count test + (test key value).toNat := by
  have others : ((table.insert key value).erase key).count test = (table.erase key).count test := by
    refine count_congr fun other found _ => ?_
    rw [get?_erase, get?_erase, get?_insert]
    split_ifs <;> rfl
  have inserted : (table.insert key value).counted test key = (test key value).toNat := by
    rw [counted, get?_insert_self, Option.any_some]
  have new := (table.insert key value).count_erase test key
  have old := table.count_erase test key
  omega

omit [DecidableEq K] in
theorem size_eq_count (table : Table K V) : table.size = table.count fun _ _ => true := by
  simp [size, count]

theorem size_erase_found (table : Table K V) {key : K} {value : V} (found : table.get? key = some value) :
    (table.erase key).size + 1 = table.size := by
  have parts := table.count_erase (fun _ _ => true) key
  have one : table.counted (fun _ _ => true) key = 1 := by simp [counted, found]
  rw [size_eq_count, size_eq_count]
  omega

theorem size_erase_le (table : Table K V) (key : K) : (table.erase key).size ≤ table.size := by
  have parts := table.count_erase (fun _ _ => true) key
  rw [size_eq_count, size_eq_count]
  omega

theorem size_insert_le (table : Table K V) (key : K) (value : V) : (table.insert key value).size ≤ table.size + 1 := by
  have parts := table.count_insert (fun _ _ => true) key value
  simp only [Bool.toNat_true] at parts
  rw [size_eq_count, size_eq_count]
  omega

omit [DecidableEq K] in
theorem size_pos_iff (table : Table K V) : 0 < table.size <-> table.keys ≠ [] := by
  simp [size, keys, List.length_pos_iff]

variable {weigh : K -> V -> Nat}

def weight (table : Table K V) (weigh : K -> V -> Nat) (key : K) : Nat := ((table.get? key).map (weigh key)).getD 0

theorem total_erase (table : Table K V) (weigh : K -> V -> Nat) (key : K) :
    table.total weigh = (table.erase key).total weigh + table.weight weigh key := by
  obtain ⟨entries, nodup⟩ := table
  simp only [total, erase, filter, weight, get?]
  induction entries with
  | nil => rfl
  | cons entry rest ih =>
    simp only [List.map_cons, List.nodup_cons] at nodup
    have shorter := ih nodup.2
    rw [List.map_cons, List.sum_cons, List.filter_cons]
    simp only [find]
    by_cases same : entry.1 = key
    · -- the key is here, so it is nowhere else
      have absent : find rest key = none := (find_eq_none rest key).mpr (same ▸ nodup.1)
      simp only [absent, Option.map_none, Option.getD_none, Nat.add_zero] at shorter
      simp only [same, decide_true, Bool.not_true, Bool.false_eq_true, if_false, if_true, Option.map_some,
        Option.getD_some, shorter]
      omega
    · simp only [same, decide_false, Bool.not_false, if_true, if_false, List.map_cons, List.sum_cons, shorter]
      omega

theorem total_congr (same : ∀ key, one.get? key = other.get? key) :
    one.total weigh = other.total weigh := by
  have entries : one.entries.Perm other.entries := by
    refine (List.perm_ext_iff_of_nodup one.entries_nodup other.entries_nodup).mpr ?_
    rintro ⟨key, value⟩
    rw [mem_entries, mem_entries, same]
  exact (entries.map _).sum_eq

theorem total_insert (table : Table K V) (weigh : K -> V -> Nat) (key : K) (value : V) :
    (table.insert key value).total weigh + table.weight weigh key = table.total weigh + weigh key value := by
  have others : ((table.insert key value).erase key).total weigh = (table.erase key).total weigh := by
    refine total_congr fun other => ?_
    rw [get?_erase, get?_erase, get?_insert]
    split_ifs <;> rfl
  have inserted : (table.insert key value).weight weigh key = weigh key value := by
    rw [weight, get?_insert_self, Option.map_some, Option.getD_some]
  have new := (table.insert key value).total_erase weigh key
  have old := table.total_erase weigh key
  omega

end Counting

omit [DecidableEq K] in
@[simp]
theorem size_mapValues (table : Table K V) (change : K -> V -> W) :
    (table.mapValues change).size = table.size := by
  simp [size, mapValues]

@[simp]
theorem size_modify (table : Table K V) (key : K) (change : V -> V) :
    (table.modify key change).size = table.size := by
  simp [modify]

omit [DecidableEq K] in
@[simp]
theorem keys_mapValues (table : Table K V) (change : K -> V -> W) :
    (table.mapValues change).keys = table.keys := by
  simp [keys, mapValues, Function.comp_def]

@[simp]
theorem keys_modify (table : Table K V) (key : K) (change : V -> V) :
    (table.modify key change).keys = table.keys := by
  simp [modify]

omit [DecidableEq K] in
theorem size_filter_le (table : Table K V) (keep : K -> V -> Bool) : (table.filter keep).size ≤ table.size :=
  List.length_filter_le _ _

section Keys

variable {one : Table K V} {other : Table K W}

theorem size_le_of_contains (inside : ∀ key, one.contains key = true -> other.contains key = true) :
    one.size ≤ other.size := by
  have listed : one.keys ⊆ other.keys := fun key member =>
    (mem_keys other key).mpr (inside key ((mem_keys one key).mp member))
  simpa [size, keys] using (List.subperm_of_subset one.nodup listed).length_le

theorem contains_of_size (sizes : other.size = one.size)
    (inside : ∀ key, one.contains key = true -> other.contains key = true) {key : K}
    (found : other.contains key = true) : one.contains key = true := by
  have listed : one.keys ⊆ other.keys := fun key member =>
    (mem_keys other key).mpr (inside key ((mem_keys one key).mp member))
  have all : one.keys.Perm other.keys := by
    apply (List.subperm_of_subset one.nodup listed).perm_of_length_le
    simpa [keys, size] using Nat.le_of_eq sizes
  exact (mem_keys one key).mp (all.mem_iff.mpr ((mem_keys other key).mpr found))

omit [DecidableEq K] in
theorem ext_entries {left right : Table K V} (same : left.entries = right.entries) : left = right := by
  cases left
  cases right
  cases same
  rfl

theorem insert_insert (table : Table K V) (key : K) (old value : V) :
    (table.insert key old).insert key value = table.insert key value := by
  rw [insert_of_found _ key value (get?_insert_self table key old)]
  cases found : table.get? key with
  | some first =>
    rw [insert_of_found table key old found, insert_of_found table key value found]
    apply ext_entries
    simp only [modify, mapValues, List.map_map]
    apply List.map_congr_left
    intro entry _
    by_cases same : entry.1 = key <;> simp [same]
  | none =>
    have absent := (find_eq_none table.entries key).mp found
    have others : (table.entries.map fun entry => (entry.1, if entry.1 = key then value else entry.2)) = table.entries := by
      rw [← List.map_id table.entries, List.map_map]
      apply List.map_congr_left
      intro entry inside
      have distinct : entry.1 ≠ key := fun same => absent (same ▸ List.mem_map_of_mem inside)
      simp [distinct]
    apply ext_entries
    unfold insert
    rw [dif_pos found, dif_pos found]
    simp only [modify, mapValues, List.map_append, List.map_cons, List.map_nil, if_true, others]

omit [DecidableEq K] in
theorem filter_filter (table : Table K V) (first second : K -> V -> Bool) :
    (table.filter first).filter second = table.filter fun key value => first key value && second key value :=
  ext_entries (by simp [filter, List.filter_filter, Bool.and_comm])

theorem filter_congr (table : Table K V) {first second : K -> V -> Bool}
    (same : ∀ key value, table.get? key = some value -> first key value = second key value) :
    table.filter first = table.filter second := by
  apply ext_entries
  apply List.filter_congr
  intro entry inside
  exact same entry.1 entry.2 ((mem_entries table entry.1 entry.2).mp inside)

end Keys

section Indexes

variable {J : Type} [DecidableEq J] {items : Table K V} {index : Table J K} {name : V -> J}

def names (items : Table K V) (name : V -> J) : List J := items.entries.map fun entry => name entry.2

theorem names_listed (indexed : ∀ key value, items.get? key = some value -> index.get? (name value) = some key) :
    (items.names name).Nodup ∧ items.names name ⊆ index.keys := by
  have at_key (entry : K × V) (inside : entry ∈ items.entries) : index.get? (name entry.2) = some entry.1 :=
    indexed entry.1 entry.2 ((mem_entries items _ _).mp inside)
  constructor
  · refine items.entries_nodup.map_on fun one inside other there same => ?_
    have keys : one.1 = other.1 := by
      have left := at_key one inside
      rw [same, at_key other there] at left
      exact (Option.some.inj left).symm
    have left := (mem_entries items _ _).mp inside
    rw [keys, (mem_entries items _ _).mp there] at left
    exact Prod.ext keys (Option.some.inj left).symm
  · intro one inside
    obtain ⟨entry, there, rfl⟩ := List.mem_map.mp inside
    exact (mem_keys index _).mpr ((contains_iff index _).mpr ⟨_, at_key entry there⟩)

theorem index_size (indexed : ∀ key value, items.get? key = some value -> index.get? (name value) = some key)
    (exact : ∀ wanted key, index.get? wanted = some key ->
      ∃ value, items.get? key = some value ∧ name value = wanted) : index.size = items.size := by
  obtain ⟨distinct, listed⟩ := names_listed indexed
  have covers : index.keys ⊆ items.names name := by
    intro wanted member
    obtain ⟨key, found⟩ := (contains_iff index wanted).mp ((mem_keys index wanted).mp member)
    obtain ⟨value, there, rfl⟩ := exact wanted key found
    exact List.mem_map.mpr ⟨(key, value), (mem_entries items key value).mpr there, rfl⟩
  have all := (List.subperm_of_subset index.nodup covers).antisymm (List.subperm_of_subset distinct listed)
  simpa [names, keys, size] using all.length_eq

theorem index_exact (sizes : index.size = items.size)
    (indexed : ∀ key value, items.get? key = some value -> index.get? (name value) = some key)
    {wanted : J} {key : K} (found : index.get? wanted = some key) :
    ∃ value, items.get? key = some value ∧ name value = wanted := by
  have at_key (entry : K × V) (inside : entry ∈ items.entries) : index.get? (name entry.2) = some entry.1 :=
    indexed entry.1 entry.2 ((mem_entries items _ _).mp inside)
  obtain ⟨distinct, listed⟩ := names_listed indexed
  -- the names are as many as the keys of the index
  have all : (items.names name).Perm index.keys := by
    refine (List.subperm_of_subset distinct listed).perm_of_length_le ?_
    simpa [names, keys, size] using Nat.le_of_eq sizes
  have named := all.mem_iff.mpr ((mem_keys index _).mpr ((contains_iff index _).mpr ⟨_, found⟩))
  obtain ⟨entry, inside, rfl⟩ := List.mem_map.mp named
  rw [at_key entry inside, Option.some.injEq] at found
  subst found
  exact ⟨entry.2, (mem_entries items _ _).mp inside, rfl⟩

end Indexes

end Lookup

end Table

end Shared
