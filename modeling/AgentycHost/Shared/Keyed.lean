import AgentycHost.Shared.Outcome
import Mathlib.Data.List.Nodup
import Mathlib.Data.List.Perm.Basic

set_option autoImplicit false

/-!
# Items with keys

A list in which every key occurs once is known, up to the order of its items,
by what is found under each key. An edit is known by what it does to the item of
its target, so edits with distinct targets can be followed one key at a time.
-/

namespace Shared

variable {A K E O : Type}

section Places

variable (test : A -> Bool)

def replaceFirst (new : A) : List A -> Option (List A)
  | [] => none
  | item :: rest => if test item then some (new :: rest) else (replaceFirst new rest).map (item :: ·)

def takeFirst : List A -> Option (A × List A)
  | [] => none
  | item :: rest =>
      if test item then some (item, rest) else (takeFirst rest).map fun found => (found.1, item :: found.2)

variable {test} {items : List A}

theorem replaceFirst_perm {new : A} {result : List A} (replaced : replaceFirst test new items = some result) :
    ∃ old others, test old = true ∧ items.Perm (old :: others) ∧ result.Perm (new :: others) := by
  induction items generalizing result with
  | nil => cases replaced
  | cons item rest ih =>
    rw [replaceFirst] at replaced
    split at replaced
    next passes =>
      obtain rfl : new :: rest = result := by simpa using replaced
      exact ⟨item, rest, passes, .refl _, .refl _⟩
    next =>
      obtain ⟨inner, found, rfl⟩ := Option.map_eq_some_iff.mp replaced
      obtain ⟨old, others, passes, before, after⟩ := ih found
      exact ⟨old, item :: others, passes, (before.cons item).trans (.swap _ _ _), (after.cons item).trans (.swap _ _ _)⟩

theorem takeFirst_perm {old : A} {others : List A} (taken : takeFirst test items = some (old, others)) :
    test old = true ∧ items.Perm (old :: others) := by
  induction items generalizing others with
  | nil => cases taken
  | cons item rest ih =>
    rw [takeFirst] at taken
    split at taken
    next passes =>
      obtain ⟨rfl, rfl⟩ : item = old ∧ rest = others := by simpa using taken
      exact ⟨passes, .refl _⟩
    next =>
      obtain ⟨⟨first, more⟩, found, same⟩ := Option.map_eq_some_iff.mp taken
      obtain ⟨rfl, rfl⟩ : first = old ∧ item :: more = others := by simpa using same
      obtain ⟨passes, before⟩ := ih found
      exact ⟨passes, (before.cons item).trans (.swap _ _ _)⟩

theorem replaceFirst_isSome (new : A) : (replaceFirst test new items).isSome = (items.find? test).isSome := by
  induction items with
  | nil => rfl
  | cons item rest ih => cases passes : test item <;> simp [replaceFirst, passes, ih]

section Change

variable {B : Type} {test' : B -> Bool} {change : A -> B} (same : ∀ item, test' (change item) = test item)

include same

theorem replaceFirst_map (new : A) :
    replaceFirst test' (change new) (items.map change) = (replaceFirst test new items).map (List.map change) := by
  induction items with
  | nil => rfl
  | cons item rest ih => cases passes : test item <;> simp [replaceFirst, same, passes, ih, Function.comp_def]

theorem takeFirst_map :
    takeFirst test' (items.map change) = (takeFirst test items).map fun found => (change found.1, found.2.map change) := by
  induction items with
  | nil => rfl
  | cons item rest ih => cases passes : test item <;> simp [takeFirst, same, passes, ih, Function.comp_def]

end Change

theorem takeFirst_isSome : (takeFirst test items).isSome = (items.find? test).isSome := by
  induction items with
  | nil => rfl
  | cons item rest ih => cases passes : test item <;> simp [takeFirst, passes, ih]

end Places

section Lookup

variable (key : A -> K)

def UniqueKeys (items : List A) : Prop := (items.map key).Nodup

variable {key} {items other : List A} {wanted : K} {item : A}

theorem UniqueKeys.perm (unique : UniqueKeys key items) (same : items.Perm other) : UniqueKeys key other :=
  (same.map key).nodup_iff.mp unique

variable [DecidableEq K]

variable (key) in
def lookup (items : List A) (wanted : K) : Option A := items.find? fun item => key item == wanted

theorem lookup_cons : lookup key (item :: items) wanted = if key item = wanted then some item else lookup key items wanted := by
  by_cases same : key item = wanted <;> simp [lookup, same]

theorem lookup_key (found : lookup key items wanted = some item) : key item = wanted := by
  simpa using List.find?_some found

theorem lookup_mem (found : lookup key items wanted = some item) : item ∈ items := List.mem_of_find?_eq_some found

theorem lookup_eq_none : lookup key items wanted = none <-> wanted ∉ items.map key := by
  simp [lookup, List.find?_eq_none]

theorem UniqueKeys.lookup (unique : UniqueKeys key items) (member : item ∈ items) :
    lookup key items (key item) = some item := by
  induction items with
  | nil => cases member
  | cons first rest ih =>
    obtain ⟨fresh, others⟩ := List.nodup_cons.mp (show (key first :: rest.map key).Nodup from unique)
    rw [lookup_cons]
    cases List.mem_cons.mp member with
    | inl same => simp [same]
    | inr inside =>
      have apart : key first ≠ key item := by
        intro same
        exact fresh (same ▸ List.mem_map_of_mem inside)
      rw [if_neg apart]
      exact ih others inside

theorem UniqueKeys.lookup_iff (unique : UniqueKeys key items) :
    Shared.lookup key items wanted = some item <-> item ∈ items ∧ key item = wanted := by
  constructor
  · intro found
    exact ⟨lookup_mem found, lookup_key found⟩
  · rintro ⟨member, rfl⟩
    exact unique.lookup member

theorem lookup_perm (unique : UniqueKeys key items) (same : items.Perm other) :
    lookup key items wanted = lookup key other wanted := by
  apply Option.ext
  intro item
  rw [unique.lookup_iff, (unique.perm same).lookup_iff, same.mem_iff]

theorem perm_of_lookup (unique : UniqueKeys key items) (unique' : UniqueKeys key other)
    (same : ∀ wanted, lookup key items wanted = lookup key other wanted) : items.Perm other := by
  rw [List.perm_ext_iff_of_nodup unique.of_map unique'.of_map]
  intro item
  have inside : lookup key items (key item) = some item <-> item ∈ items ∧ key item = key item := unique.lookup_iff
  rw [same, unique'.lookup_iff] at inside
  simpa using inside.symm

end Lookup

section Edits

variable [DecidableEq K] (key : A -> K) (target : O -> Option K) (effect : O -> Option A -> Option (Option A))
  {items : List A} {step : List A -> O -> Except E (List A)} {operations : List O}

def Edits (step : List A -> O -> Except E (List A)) : Prop :=
  ∀ items edit wanted after, UniqueKeys key items -> target edit = some wanted ->
    effect edit (lookup key items wanted) = some after ->
      ∃ next, step items edit = .ok next ∧ UniqueKeys key next ∧ lookup key next wanted = after ∧
        ∀ other, other ≠ wanted -> lookup key next other = lookup key items other

def Untargeted (operations : List O) (wanted : K) : Prop :=
  ∀ edit, edit ∈ operations -> target edit ≠ some wanted

variable {key target effect}

theorem Edits.run (edits : Edits key target effect step)
    {goal : K -> Option A} (unique : UniqueKeys key items)
    (distinct : operations.Pairwise fun first second => ∀ wanted, target first = some wanted -> target second ≠ some wanted)
    (reaches : ∀ edit, edit ∈ operations -> ∃ wanted, target edit = some wanted ∧
      effect edit (lookup key items wanted) = some (goal wanted))
    (others : ∀ wanted, Untargeted target operations wanted -> lookup key items wanted = goal wanted) :
    ∃ result, operations.foldlM step items = .ok result ∧ UniqueKeys key result ∧
      ∀ wanted, lookup key result wanted = goal wanted := by
  induction operations generalizing items with
  | nil => exact ⟨items, rfl, unique, fun wanted => others wanted (by simp [Untargeted])⟩
  | cons edit rest ih =>
    obtain ⟨apart, distinct⟩ := List.pairwise_cons.mp distinct
    obtain ⟨place, aims, hits⟩ := reaches edit List.mem_cons_self
    obtain ⟨next, done, unique', after, untouched⟩ := edits items edit place _ unique aims hits
    -- the targets that are left are not this one, so their items are as they were
    have reaches' : ∀ later, later ∈ rest -> ∃ wanted, target later = some wanted ∧
        effect later (lookup key next wanted) = some (goal wanted) := by
      intro later inside
      obtain ⟨wanted, aims', hits'⟩ := reaches later (List.mem_cons_of_mem _ inside)
      refine ⟨wanted, aims', ?_⟩
      rw [untouched wanted fun same => apart later inside place aims (same ▸ aims')]
      exact hits'
    have others' : ∀ wanted, Untargeted target rest wanted -> lookup key next wanted = goal wanted := by
      intro wanted outside
      by_cases same : wanted = place
      · rw [same, after]
      · rw [untouched _ same]
        apply others
        intro other inside
        rcases List.mem_cons.mp inside with rfl | inside
        · intro aims'
          exact same (by simpa [aims] using aims'.symm)
        · exact outside other inside
    obtain ⟨result, ran, unique'', reached⟩ := ih unique' distinct reaches' others'
    refine ⟨result, ?_, unique'', reached⟩
    rw [List.foldlM_cons, bind_of_ok done]
    exact ran

theorem Edits.effects (edits : Edits key target effect step) {result : List A} (unique : UniqueKeys key items)
    (distinct : operations.Pairwise fun first second => ∀ wanted, target first = some wanted -> target second ≠ some wanted)
    (effective : ∀ edit, edit ∈ operations -> ∀ items next, UniqueKeys key items -> step items edit = .ok next ->
      ∃ wanted after, target edit = some wanted ∧ effect edit (lookup key items wanted) = some after)
    (ran : operations.foldlM step items = .ok result) :
    ∀ edit, edit ∈ operations -> ∃ wanted after, target edit = some wanted ∧
      effect edit (lookup key items wanted) = some after := by
  induction operations generalizing items with
  | nil =>
    intro edit inside
    cases inside
  | cons first rest ih =>
    obtain ⟨apart, distinct⟩ := List.pairwise_cons.mp distinct
    rw [List.foldlM_cons, bind_ok] at ran
    obtain ⟨next, done, ran⟩ := ran
    obtain ⟨place, changed, aims, hits⟩ := effective first List.mem_cons_self items next unique done
    obtain ⟨next', done', unique', _, untouched⟩ := edits items first place changed unique aims hits
    obtain rfl : next = next' := by simpa [done] using done'
    intro edit inside
    rcases List.mem_cons.mp inside with rfl | inside
    · exact ⟨place, changed, aims, hits⟩
    · obtain ⟨wanted, after, aims', hits'⟩ := ih unique' distinct
        (fun later member => effective later (List.mem_cons_of_mem _ member)) ran edit inside
      have other : wanted ≠ place := fun same => apart edit inside place aims (same ▸ aims')
      rw [untouched wanted other] at hits'
      exact ⟨wanted, after, aims', hits'⟩

end Edits

end Shared
