import Mathlib.Data.List.Infix

set_option autoImplicit false

/-!
# Occurrences of a word

A text is searched through a view of its items, such as their letters in lower
case. An occurrence is told by the text up to its end.
-/

namespace Shared

section Search

variable {A C : Type} [DecidableEq C] (view : A -> C) (word : List C)

def splitAfter : List A -> Option (List A × List A)
  | [] => if word.isEmpty then some ([], []) else none
  | head :: rest =>
      if word.isPrefixOf ((head :: rest).map view) then
        some ((head :: rest).take word.length, (head :: rest).drop word.length)
      else (splitAfter rest).map fun (before, after) => (head :: before, after)

end Search

section Ends

variable {A C : Type} (view : A -> C) (word : List C)

def EndsWith (text : List A) : Prop := word <:+ text.map view

def EndsFirstWith (text : List A) : Prop :=
  EndsWith view word text ∧ ∀ early late, text = early ++ late -> late ≠ [] -> ¬ EndsWith view word early

instance [DecidableEq C] (text : List A) : Decidable (EndsWith view word text) :=
  inferInstanceAs (Decidable (word <:+ text.map view))

end Ends

section Words

variable {A C : Type} {view : A -> C} {word : List C} {text early late before after before' after' : List A}
  {item : A}

theorem EndsWith.length_le (ends : EndsWith view word text) : word.length ≤ text.length := by
  have short := List.IsSuffix.length_le ends
  rwa [List.length_map] at short

theorem EndsWith.of_view (same : early.map view = word) (before : List A) : EndsWith view word (before ++ early) := by
  unfold EndsWith
  rw [List.map_append, same]
  exact List.suffix_append _ _

theorem EndsWith.last (ends : EndsWith view word text) (some' : word ≠ []) :
    ∃ front occurrence, text = front ++ occurrence ∧ occurrence.map view = word ∧ occurrence ≠ [] := by
  obtain ⟨front, whole⟩ := ends
  obtain ⟨start, occurrence, split, _, viewed⟩ := List.map_eq_append_iff.mp whole.symm
  refine ⟨start, occurrence, split, viewed, ?_⟩
  intro none
  rw [none] at viewed
  exact some' viewed.symm

theorem endsWith_past (outside : view item ∉ word) (before : List A) :
    EndsWith view word (before ++ item :: after) <-> EndsWith view word after := by
  unfold EndsWith
  rw [List.map_append, List.map_cons]
  constructor
  · intro ends
    have whole : view item :: after.map view <:+ before.map view ++ view item :: after.map view := List.suffix_append _ _
    rcases List.suffix_or_suffix_of_suffix ends whole with within | beyond
    · rcases List.suffix_cons_iff.mp within with all | inside
      · exact absurd (by rw [all]; exact List.mem_cons_self) outside
      · exact inside
    · -- the word would hold the item
      exact absurd (beyond.subset List.mem_cons_self) outside
  · intro ends
    exact ends.trans ⟨before.map view ++ [view item], by simp⟩

theorem endsWith_last (some' : word ≠ []) (outside : view item ∉ word) (before : List A) :
    ¬ EndsWith view word (before ++ [item]) := by
  intro ends
  have nothing := (endsWith_past outside before).mp ends
  exact some' (List.suffix_nil.mp nothing)

theorem EndsFirstWith.unique (first : EndsFirstWith view word before) (first' : EndsFirstWith view word before')
    (same : before ++ after = before' ++ after') : before = before' ∧ after = after' := by
  rcases List.append_eq_append_iff.mp same with ⟨more, longer, rest⟩ | ⟨more, longer, rest⟩
  · by_cases nothing : more = []
    · rw [nothing] at longer rest
      simp only [List.append_nil, List.nil_append] at longer rest
      exact ⟨longer.symm, rest⟩
    · exact absurd first.1 (first'.2 before more longer nothing)
  · by_cases nothing : more = []
    · rw [nothing] at longer rest
      simp only [List.append_nil, List.nil_append] at longer rest
      exact ⟨longer, rest.symm⟩
    · exact absurd first'.1 (first.2 before' more longer nothing)

variable [DecidableEq C]

theorem splitAfter_first (found : splitAfter view word text = some (before, after)) :
    text = before ++ after ∧ EndsFirstWith view word before := by
  induction text generalizing before after with
  | nil =>
    unfold splitAfter at found
    by_cases none : word.isEmpty = true
    · rw [if_pos none] at found
      cases found
      rw [List.isEmpty_iff] at none
      refine ⟨rfl, by rw [none]; exact List.nil_suffix, ?_⟩
      intro early late split more
      exact absurd (List.append_eq_nil_iff.mp split.symm).2 more
    · rw [if_neg none] at found
      cases found
  | cons head rest ih =>
    unfold splitAfter at found
    by_cases starts : word.isPrefixOf ((head :: rest).map view) = true
    · rw [if_pos starts] at found
      cases found
      have taken : word = ((head :: rest).take word.length).map view := by
        rw [List.map_take]
        exact List.prefix_iff_eq_take.mp (List.isPrefixOf_iff_prefix.mp starts)
      refine ⟨(List.take_append_drop _ _).symm, ?_, ?_⟩
      · unfold EndsWith
        rw [← taken]
      · -- what is shorter than the word does not end with it
        intro early late split more ends
        have short := ends.length_le
        have size := congrArg List.length split
        have bound := List.length_take_le word.length (head :: rest)
        have longer := List.length_pos_of_ne_nil more
        rw [List.length_append] at size
        omega
    · rw [if_neg starts, Option.map_eq_some_iff] at found
      obtain ⟨⟨early, late⟩, inner, same⟩ := found
      cases same
      obtain ⟨split, ends, first⟩ := ih inner
      refine ⟨by rw [split]; rfl, ?_, ?_⟩
      · exact List.IsSuffix.trans ends (List.suffix_cons _ _)
      · intro front back parts more whole
        cases front with
        | nil =>
          have nothing := List.suffix_nil.mp whole
          rw [nothing] at starts
          exact starts rfl
        | cons top front =>
          obtain ⟨same, parts⟩ := List.cons.inj parts
          rw [← same] at whole
          rcases List.suffix_cons_iff.mp whole with all | within
          · -- an occurrence at the head would have been found there
            apply starts
            have parts : early = front ++ back := parts
            rw [List.isPrefixOf_iff_prefix, all, split, parts, List.map_cons, List.map_append, List.map_append,
              List.append_assoc]
            exact ⟨back.map view ++ after.map view, rfl⟩
          · exact first front back parts more within

theorem splitAfter_finds (after : List A) (ends : EndsWith view word before) :
    ∃ early late, splitAfter view word (before ++ after) = some (early, late) := by
  induction before with
  | nil =>
    have nothing : word = [] := List.suffix_nil.mp ends
    cases after with
    | nil => exact ⟨[], [], by unfold splitAfter; rw [nothing]; rfl⟩
    | cons head rest => exact ⟨_, _, by unfold splitAfter; rw [nothing]; rfl⟩
  | cons head rest ih =>
    rw [List.cons_append]
    unfold splitAfter
    by_cases starts : word.isPrefixOf ((head :: (rest ++ after)).map view) = true
    · rw [if_pos starts]
      exact ⟨_, _, rfl⟩
    · rw [if_neg starts]
      rcases List.suffix_cons_iff.mp ends with all | within
      · refine absurd ?_ starts
        rw [List.isPrefixOf_iff_prefix, all, List.map_cons, List.map_append]
        exact ⟨after.map view, rfl⟩
      · obtain ⟨early, late, found⟩ := ih within
        rw [found]
        exact ⟨_, _, rfl⟩

theorem splitAfter_eq_some : splitAfter view word text = some (before, after) <->
    text = before ++ after ∧ EndsFirstWith view word before := by
  constructor
  · exact splitAfter_first
  · rintro ⟨rfl, first⟩
    obtain ⟨early, late, found⟩ := splitAfter_finds after first.1
    obtain ⟨split, first'⟩ := splitAfter_first found
    obtain ⟨rfl, rfl⟩ := first.unique first' split
    exact found

theorem splitAfter_eq_none : splitAfter view word text = none <->
    ∀ before after, text = before ++ after -> ¬ EndsWith view word before := by
  constructor
  · rintro none before after rfl ends
    obtain ⟨_, _, found⟩ := splitAfter_finds after ends
    rw [none] at found
    cases found
  · intro nowhere
    cases found : splitAfter view word text with
    | none => rfl
    | some parts =>
      obtain ⟨split, first⟩ := splitAfter_first found
      exact absurd first.1 (nowhere _ _ split)

theorem splitAfter_map {B : Type} (char : A -> B) (view : B -> C) (word : List C) (text : List A) :
    splitAfter view word (text.map char) =
      (splitAfter (fun item => view (char item)) word text).map fun parts => (parts.1.map char, parts.2.map char) := by
  induction text with
  | nil =>
    rw [List.map_nil, splitAfter, splitAfter]
    by_cases none : word.isEmpty = true
    · rw [if_pos none, if_pos none]
      rfl
    · rw [if_neg none, if_neg none]
      rfl
  | cons head rest ih =>
    have same : ((head :: rest).map char).map view = (head :: rest).map fun item => view (char item) := List.map_map
    rw [List.map_cons] at same ⊢
    rw [splitAfter, splitAfter, same, ih]
    by_cases starts : word.isPrefixOf ((head :: rest).map fun item => view (char item)) = true
    · rw [if_pos starts, if_pos starts, Option.map_some, List.map_take, List.map_drop, List.map_cons]
    · rw [if_neg starts, if_neg starts, Option.map_map, Option.map_map]
      rfl

end Words

end Shared
