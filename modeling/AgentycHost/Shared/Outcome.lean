import Mathlib.Data.Option.Basic

set_option autoImplicit false

/-!
# Fallible computations

Elimination rules for `Except`: a computation that ends in `ok` passed every
check on its way, so a proof takes one apart check by check.
-/

namespace Shared

variable {E A B : Type} {test : Bool} {failure error : E} {next : A -> Except E B} {result : B} {first : Except E A}
  {value : A} {F : Type} {items earlier : List A} {check : List A -> A -> Except E Unit}

def require (test : Bool) (failure : E) : Except E Unit :=
  if test then .ok () else .error failure

def orElse (value : Option A) (failure : E) : Except E A :=
  match value with
  | some found => .ok found
  | none => .error failure

theorem require_ok {done : Unit} :
    require test failure = .ok done <-> test = true := by
  cases test <;> simp [require]

theorem orElse_ok {value : Option A} {found : A} :
    orElse value failure = .ok found <-> value = some found := by
  cases value <;> simp [orElse]

theorem bind_ok :
    (first >>= next) = .ok result <-> ∃ value, first = .ok value ∧ next value = .ok result := by
  cases first <;> simp [bind, Except.bind]

theorem bind_of_ok (passed : first = .ok value) (next : A -> Except E B) :
    (first >>= next) = next value := by
  rw [passed]
  rfl

theorem map_ok {change : A -> B} :
    (change <$> first) = .ok result <-> ∃ value, first = .ok value ∧ change value = result := by
  cases first <;> simp [Functor.map, Except.map]

theorem pure_ok {result : A} :
    (pure value : Except E A) = .ok result <-> value = result := by
  simp [pure, Except.pure]

theorem mapError_ok {change : E -> F} {result : A} :
    first.mapError change = .ok result <-> first = .ok result := by
  cases first <;> simp [Except.mapError]

theorem require_error :
    require test failure = .error error <-> test = false ∧ failure = error := by
  cases test <;> simp [require]

theorem orElse_error {value : Option A} :
    orElse value failure = .error error <-> value = none ∧ failure = error := by
  cases value <;> simp [orElse]

theorem bind_error :
    (first >>= next) = .error error <->
      first = .error error ∨ ∃ value, first = .ok value ∧ next value = .error error := by
  cases first <;> simp [bind, Except.bind]

theorem pure_error : (pure value : Except E A) = .error error <-> False := by
  simp [pure, Except.pure]

theorem toBool_ok {outcome : Except E Unit} : outcome.toBool = true <-> outcome = .ok () := by
  cases outcome <;> simp [Except.toBool]

def forEachAfter (check : List A -> A -> Except E Unit) : List A -> List A -> Except E Unit
  | _, [] => .ok ()
  | earlier, item :: rest => do
      check earlier item
      forEachAfter check (earlier ++ [item]) rest

theorem forEachAfter_ok :
    forEachAfter check earlier items = .ok () <->
      ∀ before item after, items = before ++ item :: after -> check (earlier ++ before) item = .ok () := by
  induction items generalizing earlier with
  | nil => simp [forEachAfter]
  | cons head rest ih =>
    rw [forEachAfter, bind_ok]
    constructor
    · rintro ⟨_, first, others⟩ before item after split
      cases before with
      | nil =>
        obtain ⟨rfl, rfl⟩ : head = item ∧ rest = after := by simpa using split
        simpa using first
      | cons other before =>
        obtain ⟨rfl, inside⟩ : head = other ∧ rest = before ++ item :: after := by simpa using split
        simpa using ih.mp others before item after inside
    · intro every
      refine ⟨(), by simpa using every [] head rest rfl, ih.mpr ?_⟩
      intro before item after split
      simpa using every (head :: before) item after (by simp [split])

theorem forEachAfter_map {next : List B -> B -> Except F Unit} (change : A -> B)
    (one : ∀ before item after, items = before ++ item :: after -> check before item = .ok () ->
      next (before.map change) (change item) = .ok ())
    (checked : forEachAfter check [] items = .ok ()) : forEachAfter next [] (items.map change) = .ok () := by
  rw [forEachAfter_ok] at checked ⊢
  intro before item after split
  obtain ⟨first, rest, rfl, rfl, tail⟩ := List.map_eq_append_iff.mp split
  obtain ⟨head, others, rfl, rfl, rfl⟩ := List.map_eq_cons_iff.mp tail
  exact one first head others rfl (checked first head others rfl)

theorem forEachAfter_mono {next : List A -> A -> Except F Unit}
    (one : ∀ before item, item ∈ items -> check before item = .ok () -> next before item = .ok ())
    (checked : forEachAfter check [] items = .ok ()) : forEachAfter next [] items = .ok () := by
  have mapped := forEachAfter_map id (fun before item after split checked => by
    rw [List.map_id]
    exact one before item (by simp [split]) checked) checked
  rwa [List.map_id] at mapped

theorem forEachAfter_append {first second : List A} :
    forEachAfter check earlier (first ++ second) = .ok () <->
      forEachAfter check earlier first = .ok () ∧ forEachAfter check (earlier ++ first) second = .ok () := by
  induction first generalizing earlier with
  | nil => simp [forEachAfter]
  | cons head rest ih => simp [forEachAfter, bind_ok, ih, and_assoc]

theorem forEachAfter_filter {next : List A -> A -> Except F Unit} (keep : A -> Bool)
    (one : ∀ before item, item ∈ items -> keep item = true -> check before item = .ok () ->
      next (before.filter keep) item = .ok ())
    (checked : forEachAfter check [] items = .ok ()) : forEachAfter next [] (items.filter keep) = .ok () := by
  rw [forEachAfter_ok] at checked ⊢
  intro before item after split
  obtain ⟨first, rest, rfl, rfl, tail⟩ := List.filter_eq_append_iff.mp split
  obtain ⟨skipped, others, rfl, dropped, kept, _⟩ := List.filter_eq_cons_iff.mp tail
  have passed := checked (first ++ skipped) item others (by simp)
  have filtered : (first ++ skipped).filter keep = first.filter keep := by
    rw [List.filter_append, List.filter_eq_nil_iff.mpr dropped, List.append_nil]
  rw [List.nil_append, ← filtered]
  exact one (first ++ skipped) item (by simp) kept (by simpa using passed)

theorem forEachAfter_drop (count : Nat)
    (one : ∀ earlier before item, check (earlier ++ before) item = .ok () -> check before item = .ok ())
    (checked : forEachAfter check [] items = .ok ()) : forEachAfter check [] (items.drop count) = .ok () := by
  rw [← List.take_append_drop count items, forEachAfter_append, List.nil_append] at checked
  rw [forEachAfter_ok]
  intro before item after split
  exact one (items.take count) before item (forEachAfter_ok.mp checked.2 before item after split)

def forEach (check : A -> Except E Unit) : List A -> Except E Unit
  | [] => .ok ()
  | item :: rest => do
      check item
      forEach check rest

theorem forEach_ok {check : A -> Except E Unit} :
    forEach check items = .ok () <-> ∀ item, item ∈ items -> check item = .ok () := by
  induction items with
  | nil => simp [forEach]
  | cons head rest ih =>
    rw [forEach, bind_ok]
    constructor
    · rintro ⟨_, first, others⟩
      simpa [first] using ih.mp others
    · intro every
      exact ⟨(), every head List.mem_cons_self, ih.mpr fun item member => every item (List.mem_cons_of_mem _ member)⟩

theorem forEach_error {check : A -> Except E Unit} (failed : forEach check items = .error error) :
    ∃ item, item ∈ items ∧ check item = .error error := by
  induction items with
  | nil => cases failed
  | cons head rest ih =>
    rcases bind_error.mp failed with here | ⟨_, _, later⟩
    · exact ⟨head, List.mem_cons_self, here⟩
    · obtain ⟨item, inside, failed⟩ := ih later
      exact ⟨item, List.mem_cons_of_mem _ inside, failed⟩

theorem foldlM_keeps {S : Type} {step : S -> A -> Except E S} (keeps : S -> Prop)
    (one : ∀ state item next, item ∈ items -> keeps state -> step state item = .ok next -> keeps next)
    {state last : S} (start : keeps state) (run : items.foldlM step state = .ok last) : keeps last := by
  induction items generalizing state with
  | nil =>
    have same : state = last := by simpa [pure_ok] using run
    exact same ▸ start
  | cons item rest ih =>
    rw [List.foldlM_cons, bind_ok] at run
    obtain ⟨middle, first, others⟩ := run
    exact ih (fun state other next member => one state other next (List.mem_cons_of_mem _ member))
      (one state item middle List.mem_cons_self start first) others

end Shared
