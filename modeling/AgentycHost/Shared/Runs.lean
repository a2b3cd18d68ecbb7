import Mathlib.Data.List.Basic

set_option autoImplicit false

/-!
# Runs of a labelled transition system

A run keeps its trace, latest step first, so that a condition on the steps of a
run is a condition on the members of a list.
-/

namespace Shared

variable {A : Type}

structure Moment (S L : Type) where
  before : S
  label : L
  after : S

def Since {A : Type} (starts ends : A -> Prop) (trace : List A) : Prop :=
  ∃ later first earlier, trace = later ++ first :: earlier ∧ starts first ∧ ∀ item, item ∈ later -> ¬ ends item

theorem since_nil {starts ends : A -> Prop} : ¬ Since starts ends [] := by
  rintro ⟨later, first, earlier, split, _⟩
  simp at split

theorem since_cons {starts ends : A -> Prop} {item : A} {trace : List A} :
    Since starts ends (item :: trace) <-> starts item ∨ Since starts ends trace ∧ ¬ ends item := by
  constructor
  · rintro ⟨later, first, earlier, split, started, open_⟩
    cases later with
    | nil =>
      cases split
      exact .inl started
    | cons last rest =>
      cases split
      exact .inr ⟨⟨rest, first, earlier, rfl, started, fun _ inside => open_ _ (List.mem_cons_of_mem _ inside)⟩,
        open_ _ List.mem_cons_self⟩
  · rintro (started | ⟨⟨later, first, earlier, rfl, started, open_⟩, still⟩)
    · exact ⟨[], item, trace, rfl, started, fun _ inside => by cases inside⟩
    · refine ⟨item :: later, first, earlier, rfl, started, fun other inside => ?_⟩
      rcases List.mem_cons.mp inside with rfl | inside
      · exact still
      · exact open_ other inside

variable {S L : Type} {next : L -> S -> Option S} {labels : List L} {state last : S}

inductive Run (steps : L -> S -> S -> Prop) (start : S) : List (Moment S L) -> S -> Prop where
  | nil : Run steps start [] start
  | step {trace : List (Moment S L)} {before after : S} {label : L} (earlier : Run steps start trace before)
      (taken : steps label before after) : Run steps start (⟨before, label, after⟩ :: trace) after

namespace Run

variable {steps : L -> S -> S -> Prop} {start middle last : S} {trace later : List (Moment S L)} {moment : Moment S L}
  {earlier : List (Moment S L)}

theorem append (first : Run steps start trace middle) (second : Run steps middle later last) :
    Run steps start (later ++ trace) last := by
  induction second with
  | nil => exact first
  | step _ taken ih => exact .step ih taken

theorem imp {others : L -> S -> S -> Prop} (run : Run steps start trace last)
    (weaker : ∀ label before after, steps label before after -> others label before after) :
    Run others start trace last := by
  induction run with
  | nil => exact .nil
  | step _ taken ih => exact .step ih (weaker _ _ _ taken)

theorem keeps (holds : S -> Prop) (run : Run steps start trace last) (initial : holds start)
    (kept : ∀ moment, moment ∈ trace -> steps moment.label moment.before moment.after ->
      holds moment.before -> holds moment.after) : holds last := by
  induction run with
  | nil => exact initial
  | step _ taken ih =>
    have early := ih fun moment inside => kept moment (List.mem_cons_of_mem _ inside)
    exact kept _ List.mem_cons_self taken early

theorem at_moment (run : Run steps start trace last) (inside : moment ∈ trace) :
    ∃ earlier later, Run steps start earlier moment.before ∧ steps moment.label moment.before moment.after ∧
      trace = later ++ moment :: earlier := by
  induction run with
  | nil => cases inside
  | step earlier taken ih =>
    obtain rfl | inside := List.mem_cons.mp inside
    · exact ⟨_, [], earlier, taken, rfl⟩
    · obtain ⟨before, after, run, taken, rfl⟩ := ih inside
      exact ⟨before, _ :: after, run, taken, rfl⟩

theorem before_moment (run : Run steps start (later ++ moment :: earlier) last) :
    Run steps start earlier moment.before ∧ steps moment.label moment.before moment.after := by
  induction later generalizing last with
  | nil =>
    cases run with
    | step early taken => exact ⟨early, taken⟩
  | cons _ _ ih =>
    cases run with
    | step early _ => exact ih early

theorem after_moment (run : Run steps start (later ++ moment :: earlier) last) :
    Run steps moment.after later last := by
  induction later generalizing last with
  | nil =>
    cases run with
    | step _ _ => exact .nil
  | cons _ _ ih =>
    cases run with
    | step early taken => exact .step (ih early) taken

end Run

def advance (next : L -> S -> Option S) : List L -> S -> Option S
  | [], state => some state
  | label :: rest, state => (next label state).bind (advance next rest)

def visits (next : L -> S -> Option S) : List L -> S -> List (Moment S L)
  | [], _ => []
  | label :: rest, state =>
      match next label state with
      | none => []
      | some after => ⟨state, label, after⟩ :: visits next rest after

theorem visits_label {moment : Moment S L} (inside : moment ∈ visits next labels state) : moment.label ∈ labels := by
  induction labels generalizing state with
  | nil => cases inside
  | cons label rest ih =>
    unfold visits at inside
    split at inside
    next => cases inside
    next =>
      obtain rfl | inside := List.mem_cons.mp inside
      · exact List.mem_cons_self
      · exact List.mem_cons_of_mem _ (ih inside)

theorem visits_covers {label : L} (run : advance next labels state = some last) (inside : label ∈ labels) :
    ∃ moment, moment ∈ visits next labels state ∧ moment.label = label := by
  induction labels generalizing state with
  | nil => cases inside
  | cons first rest ih =>
    rw [advance, Option.bind_eq_some_iff] at run
    obtain ⟨middle, stepped, others⟩ := run
    simp only [visits, stepped]
    obtain rfl | inside := List.mem_cons.mp inside
    · exact ⟨_, List.mem_cons_self, rfl⟩
    · obtain ⟨moment, visited, same⟩ := ih others inside
      exact ⟨moment, List.mem_cons_of_mem _ visited, same⟩

theorem advance_run (run : advance next labels state = some last) :
    Run (fun label before after => next label before = some after) state (visits next labels state).reverse last := by
  induction labels generalizing state with
  | nil =>
    obtain rfl : state = last := by simpa [advance] using run
    exact .nil
  | cons label rest ih =>
    rw [advance, Option.bind_eq_some_iff] at run
    obtain ⟨middle, first, others⟩ := run
    simp only [visits, first, List.reverse_cons]
    exact Run.append (.step .nil first) (ih others)

theorem advance_reaches (next : L -> S -> Option S) (start : S) (labels : List L) (test : S -> Bool)
    (ran : (advance next labels start).any test = true) :
    ∃ last, Run (fun label before after => next label before = some after) start (visits next labels start).reverse
      last ∧ test last = true := by
  cases reached : advance next labels start with
  | none => simp [reached] at ran
  | some last => exact ⟨last, advance_run reached, by simpa [reached] using ran⟩

theorem advance_reaches_later (next : L -> S -> Option S) (start : S) (first second : List L)
    (test : S -> S -> List (Moment S L) -> Bool)
    (ran : ((advance next first start).any fun middle =>
      (advance next second middle).any fun last => test middle last (visits next second middle)) = true) :
    ∃ middle last later,
      Run (fun label before after => next label before = some after) start (visits next first start).reverse middle ∧
      Run (fun label before after => next label before = some after) middle later.reverse last ∧
      test middle last later = true := by
  obtain ⟨middle, early, more⟩ := advance_reaches next start first _ ran
  obtain ⟨last, late, passed⟩ := advance_reaches next middle second _ more
  exact ⟨middle, last, _, early, late, passed⟩

theorem visits_all (next : L -> S -> Option S) (labels : List L) (state : S) (test : Moment S L -> Bool)
    (checked : (visits next labels state).all test = true) (moment : Moment S L)
    (inside : moment ∈ (visits next labels state).reverse) : test moment = true :=
  List.all_eq_true.mp checked moment (List.mem_reverse.mp inside)

end Shared
